import Questionnaire.Proofs.Store.Calls

/-!
# Updates that last

An update that is acknowledged leaves the text of the changed state. The next load gives this state
and does nothing else, if settling would not change it and its document is one that can be read as
a whole. The document of a state without templates cannot: it counts as stale, so that the next load
puts in its place what the document of the first schema gives.
-/

namespace Questionnaire

namespace Store

variable {α : Type} {config : StoreConfig} {catalog : Catalog} {services : Services}
  {memory : Memory} {state : State}

/-- The next load gives the state again, and neither writes nor reports anything. -/
def IsLasting (config : StoreConfig) (catalog : Catalog) (state : State) (memory : Memory) : Prop :=
  ∀ later, perform (overMemory config catalog).load later memory =
    (.ok state, later, memory.reading)

/-- A state that is loaded without a write is the one that is stored. -/
theorem readDocument_of_isLasting (accepts : memory.AcceptsAll)
    (lasting : IsLasting config catalog state memory) (services : Services) :
    readDocument (memory.found config.documentPlace) = .ok state :=
  (readDocument_of_unwritten accepts (lasting services)).1

end Store

end Questionnaire
