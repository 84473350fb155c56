import Questionnaire.Proofs.Document.Inversion
import Questionnaire.Proofs.Seed.Canvas
import Questionnaire.Proofs.Store.Durability

/-!
# A reset lasts

A reset leaves the document of the state that a store starts with, and the next load gives this
state as it is. Its intake carries the catalog, whatever the catalog repeats; its titles are clean;
and nothing of it is lost in its document, as long as its numbers are read back from their own text.
That fails only for places on the canvas that are so far out that no machine holds the catalog.
-/

namespace Questionnaire

namespace State

/-- The state that a store starts with is one that loading gives. -/
theorem isGiven_seedState (catalog : Catalog) (now : Timestamp) (keepsIntake : Bool) :
    (seedState catalog now).IsGiven catalog keepsIntake := by
  have given : (seedState catalog now).IsGiven catalog true :=
    isGiven_migrate catalog none true now
  exact { given with hydrated := fun _ => given.hydrated rfl }

/-- The firm has titled no template of the seeds, and their assignments have clean titles. -/
theorem hasCleanTitles_seedState (catalog : Catalog) (now : Timestamp) :
    (seedState catalog now).HasCleanTitles where
  templates := by
    have bySystem : ∀ template ∈ (seedState catalog now).templates,
        template.createdBy = .system := by
      simp only [seedState, seedTemplates, List.forall_mem_cons]
      exact ⟨rfl, rfl, rfl, fun _ inside => absurd inside List.not_mem_nil⟩
    intro template inside
    rw [Template.needsTitle, bySystem template inside]
    rfl
  assignments := by
    have titles : (seedState catalog now).assignments.map Assignment.title =
        ["Guided Bankruptcy Intake", "Ch7 Follow-up"] := rfl
    have clean : ∀ title ∈ ["Guided Bankruptcy Intake", "Ch7 Follow-up"],
        hasCopyMark title = false := by decide +kernel
    intro assignment inside
    exact clean assignment.title (titles ▸ List.mem_map_of_mem inside)

/-- Nothing of the state that a store starts with is lost or left to be cleaned. -/
theorem isSettled_seedState (catalog : Catalog) (now : Timestamp) :
    (seedState catalog now).IsSettled where
  templates := List.cons_ne_nil _ _
  titles := hasCleanTitles_seedState catalog now
  responses := fun _ inside => absurd inside List.not_mem_nil
  archived := nofun

/-- The state that a store starts with is read back from its document if its numbers are. -/
theorem isReadBack_seedState_iff (catalog : Catalog) (now : Timestamp) :
    (seedState catalog now).IsReadBack ↔
      ∀ number ∈ (seedState catalog now).numbers, number.IsReadBack := by
  have settled := isSettled_seedState catalog now
  have kept := (isGiven_seedState catalog now true).isKept settled
  exact ⟨IsReadBack.numbers, fun exact => ⟨settled.templates, kept, exact, nofun⟩⟩

end State

namespace Store

variable {memory : Memory}

/-- What a reset leaves lasts if and only if the numbers in it are read back. -/
theorem isLasting_reset_iff (config : StoreConfig) (catalog : Catalog) (now : Timestamp)
    (accepts : memory.AcceptsAll) :
    IsLasting config catalog (seedState catalog now)
        (memory.writing config.documentPlace (seedState catalog now).render) ↔
      ∀ number ∈ (seedState catalog now).numbers, number.IsReadBack := by
  have stored := found_writing accepts config.documentPlace (seedState catalog now).render
  rw [← State.isReadBack_seedState_iff]
  constructor
  · intro lasting
    have read := readDocument_of_isLasting (accepts.afterWriting _ _) lasting { now }
    rw [stored] at read
    exact State.readDocument_render_iff.1 read
  · exact fun whole later => perform_load_settled (State.isGiven_seedState catalog now _)
      (State.isSettled_seedState catalog now) whole.printed stored

/-- A reset is a fixed point, over a memory that refuses nothing. It gives the state that a store
starts with, whose intake carries the catalog, and writes its document. The next load, at any time,
gives exactly this state, writes nothing and reports nothing, if and only if every number in it is
read back from its own text; and so it is for every catalog that a machine has room for. -/
theorem load_after_reset (config : StoreConfig) (catalog : Catalog) (services : Services)
    (accepts : memory.AcceptsAll) :
    let seed := seedState catalog services.now
    let written := memory.writing config.documentPlace seed.render
    (intakeTemplate catalog services.now).isHydrated catalog = true ∧
      perform (overMemory config catalog).reset services memory = (.ok seed, services, written) ∧
      (IsLasting config catalog seed written ↔ ∀ number ∈ seed.numbers, number.IsReadBack) ∧
      (catalog.FitsMachine → IsLasting config catalog seed written) := by
  intro seed written
  have lasts := isLasting_reset_iff config catalog services.now accepts
  refine ⟨isHydrated_intakeTemplate catalog services.now, ?_, lasts, fun fits => ?_⟩
  · rw [perform_reset, if_neg (Bool.eq_false_iff.1 (accepts.writes memory.accesses))]
  · exact lasts.2 (isReadBack_seedState fits services.now)

/-- The catalog repeats a step and a field without an id, and a field asks for files. -/
theorem load_after_reset_repeated :
    let field : FormField := { id := "", kind := .file, label := " * ", required := true }
    let step : FormStep := { id := "", title := "Copy of A", fields := [field, field] }
    let catalog : Catalog := [step, step]
    let config : StoreConfig := {}
    let services : Services := { now := .epoch }
    let seed := seedState catalog .epoch
    let written := Memory.writing {} config.documentPlace seed.render
    Memory.AcceptsAll {} ∧ catalog.FitsMachine ∧
      perform (overMemory config catalog).reset services {} = (.ok seed, services, written) ∧
      ∀ later, perform (overMemory config catalog).load later written =
        (.ok seed, later, written.reading) := by
  intro field step catalog config services seed written
  have accepts : Memory.AcceptsAll {} := ⟨fun _ => rfl, fun _ => rfl⟩
  have fits : catalog.FitsMachine := by
    constructor
    · decide
    · intro other inside
      have isStep : other = step := by simpa [catalog] using inside
      rw [isStep]
      decide
  obtain ⟨_, isReset, _, lasts⟩ := load_after_reset config catalog services accepts
  exact ⟨accepts, fits, isReset, lasts fits⟩

end Store

end Questionnaire
