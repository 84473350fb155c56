import Questionnaire.Document.State
import Questionnaire.Migration.Conversion
import Questionnaire.Migration.Rehydration
import Questionnaire.State.Retitling
import Questionnaire.Store.Backend
import Questionnaire.Store.Config

/-!
# Stores

A store reads the whole state from its backend, lets an operation change it, and writes it back
whole. Loading always gives a state: a text that is missing or stale is replaced by what a document
of the first schema and the seeds give, and a text that cannot be fetched counts as missing. A
state that loading had to change is written back at once, and it does not matter whether that
succeeds.
-/

namespace Questionnaire

/-- A backend with what a store is set to. -/
structure Store (m : Type → Type) where
  /-- Where the documents are kept. -/
  backend : Backend m
  /-- The configuration. -/
  config : StoreConfig := {}
  /-- The intake form. -/
  catalog : Catalog := []

/-- An operation on a store, which may be refused. -/
abbrev StoreAction (m : Type → Type) := ExceptT StoreError (StateT Services m)

namespace Action

/-- Cleans all titles, and tells whether any of them changed. -/
def normalizeTitles : Action Bool := do
  let (changed, normalized) := (← state).normalizeTitles
  modifyState fun _ => normalized
  return changed

/-- Rehydrates the intake, if the store keeps one, and cleans all titles; tells whether the state
changed. -/
def settle (catalog : Catalog) (keepsIntake : Bool) : Action Bool := do
  let rehydrated ← if keepsIntake then rehydrateIntake catalog else pure false
  let retitled ← normalizeTitles
  return rehydrated || retitled

end Action

namespace Store

variable {m : Type → Type} [Monad m] {α : Type}

/-- Runs an operation on a state, with the services of the store. -/
def onState (state : State) (action : Action α) : StoreAction m (α × State) :=
  ExceptT.mk do
    let (outcome, session) := action.run { state, services := ← get }
    set session.services
    return outcome.map fun value => (value, session.state)

/-- The text under a key; a text that cannot be fetched counts as missing. -/
def textAt (store : Store m) (key : String) : StoreAction m (Option String) := do
  match ← (store.backend.read key : m _) with
  | .ok text => return text
  | .error _ => return none

/-- Writes a state. -/
def save (store : Store m) (state : State) : StoreAction m Unit := do
  match ← (store.backend.write store.config.documentPlace state.render : m _) with
  | .ok () => return ()
  | .error reason => throw (.persistence reason)

/-- Writes a state, whether or not that succeeds. -/
def trySave (store : Store m) (state : State) : StoreAction m Unit := do
  let _ ← (store.backend.write store.config.documentPlace state.render : m _)

/-- The state that takes the place of a missing or stale document, which is reported and written. -/
def rebuild (store : Store m) : StoreAction m State := do
  let document := readFirstSchema (← store.textAt store.config.firstSchemaPlace)
  let services : Services ← get
  let state := migrate store.catalog document store.config.seedOnEmpty services.now
  set (services.report (.stateMigrated state.archivedV1.isSome state.templates.length))
  store.trySave state
  return state

/-- The state of the store, in good order; what had to be changed for that is written. -/
def load (store : Store m) : StoreAction m State := do
  match readDocument (← store.textAt store.config.documentPlace) with
  | .error _ => store.rebuild
  | .ok state =>
    let (changed, state) ← onState state (.settle store.catalog store.config.seedOnEmpty)
    if changed then
      store.trySave state
    return state

/-- The state as it is stored, unless the document is missing or stale. -/
def readStored (store : Store m) : StoreAction m (Option State) := do
  return (readDocument (← store.textAt store.config.documentPlace)).toOption

/-- Writes the state that a store starts with. -/
def reset (store : Store m) : StoreAction m State := do
  let services : Services ← get
  let state := seedState store.catalog services.now
  store.save state
  return state

/-- Loads the state, changes it, and writes it; a refused change is not written. -/
def update (store : Store m) (action : Action α) : StoreAction m α := do
  let (value, state) ← onState (← store.load) action
  store.save state
  return value

end Store

end Questionnaire
