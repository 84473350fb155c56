import Questionnaire.Proofs.Store.Durability

/-!
# Loads that write

Settling a readable document reports a change if and only if the state that it gives is another one:
an intake that was replaced carries the catalog, which it did not before, and a pass over the titles
leaves no title of a state the same that it reports to have changed. So a load writes exactly where
the state that it gives differs from the one that is stored, and is silent otherwise.
-/

namespace Questionnaire

namespace Session

variable {session : Session} {catalog : Catalog} {keepsIntake : Bool}

/-- A session that needs no settling stays as it is. -/
theorem settled_of_needless (needless : session.needsSettling catalog keepsIntake = false) :
    (session.rehydrated catalog keepsIntake).retitled = session := by
  obtain ⟨hydrated, unchanged⟩ := needsSettling_eq_false needless
  have clean := (State.normalizeTitles_fst_eq_false_iff session.state).1 unchanged
  rw [rehydrated_of_hydrated hydrated, retitled, clean.normalizeTitles]

/-- Settling reports a change if and only if the state changes. -/
theorem needsSettling_iff (session : Session) (catalog : Catalog) (keepsIntake : Bool) :
    session.needsSettling catalog keepsIntake = true ↔
      (session.rehydrated catalog keepsIntake).retitled.state ≠ session.state := by
  constructor
  · intro needs same
    cases needsIntake : session.needsIntake catalog keepsIntake with
    | true =>
      -- The intake carries the catalog afterwards, and it did not before.
      obtain ⟨rfl, absent⟩ := Bool.and_eq_true_iff.1 needsIntake
      have hydrated : (session.rehydrated catalog true).retitled.state.hasHydratedIntake catalog =
          true :=
        (State.hasHydratedIntake_normalizeTitles _ catalog).trans
          (session.hasHydratedIntake_rehydrated catalog)
      rw [same] at hydrated
      simp [hydrated] at absent
    | false =>
      rw [needsSettling, needsIntake, Bool.false_or, rehydrated_of_hydrated needsIntake] at needs
      rw [rehydrated_of_hydrated needsIntake] at same
      have sameState : session.state.normalizeTitles.2 = session.state := same
      rw [State.normalizeTitles_fst, sameState, bne_self_eq_false, bne_self_eq_false] at needs
      contradiction
  · intro differs
    by_contra settled
    have needless : session.needsSettling catalog keepsIntake = false := by simpa using settled
    exact differs (congrArg Session.state (settled_of_needless needless))

end Session

namespace Store

variable {config : StoreConfig} {catalog : Catalog} {services : Services} {memory : Memory}

/-- Over a memory that refuses nothing, a load of a readable document writes if and only if the state
that it gives differs from the one that was read. If it writes, it writes once, and the document is
that of the state that it gives. Otherwise all texts are left as they were, and nothing is reported.
-/
theorem load_writes_iff {text : String} {stored : State} (accepts : memory.AcceptsAll)
    (kept : memory.entries.get? config.documentPlace = some text)
    (readable : readDocument (some text) = .ok stored) :
    ∃ loaded loadedServices after,
      perform (overMemory config catalog).load services memory =
          (.ok loaded, loadedServices, after) ∧
        (after.writes ≠ memory.writes ↔ loaded ≠ stored) ∧
        (after.writes ≠ memory.writes → after.writes = memory.writes + 1 ∧
          after.entries.get? config.documentPlace = some loaded.render ∧
          ∀ key, key ≠ config.documentPlace →
            after.entries.get? key = memory.entries.get? key) ∧
        (after.writes = memory.writes →
          after.entries = memory.entries ∧ loadedServices = services) := by
  have found : readDocument (memory.found config.documentPlace) = .ok stored := by
    rw [accepts.found, kept, readable]
  have isLoaded := perform_load config catalog services memory
  rw [found] at isLoaded
  refine ⟨_, _, _, isLoaded, ?_⟩
  have changes := Session.needsSettling_iff { state := stored, services } catalog config.seedOnEmpty
  cases needs : Session.needsSettling { state := stored, services } catalog
    config.seedOnEmpty with
  | true =>
    rw [if_pos rfl, accepts.reading.writing]
    have counted : memory.reading.writes + 1 ≠ memory.writes := Nat.succ_ne_self _
    refine ⟨iff_of_true counted (changes.1 needs), fun _ => ⟨rfl, ?_, fun key apart => ?_⟩,
      fun same => absurd same counted⟩
    · exact (KeyMap.get?_insert _ _ _ _).trans (if_pos rfl)
    · exact (KeyMap.get?_insert _ _ _ _).trans (if_neg apart)
  | false =>
    rw [if_neg Bool.false_ne_true, Session.settled_of_needless needs]
    exact ⟨iff_of_false (fun written => written rfl) (fun differs => differs rfl),
      fun written => absurd rfl written, fun _ => ⟨rfl, rfl⟩⟩

/-- A document without an intake, whose one title is to be cleaned, is written once. -/
theorem load_writes_iff_reseeded :
    let stored : State :=
      { templates := [.ofVersion "t" "Copy of A" .custom .attorney (.draft 1 .empty) .epoch] }
    let config : StoreConfig := {}
    let memory := Memory.writing {} config.documentPlace stored.render
    memory.AcceptsAll ∧
      memory.entries.get? config.documentPlace = some stored.render ∧
      readDocument (some stored.render) = .ok stored ∧
      ∃ loaded loadedServices after,
        perform (overMemory config []).load { now := .epoch } memory =
            (.ok loaded, loadedServices, after) ∧
          loaded ≠ stored ∧ after.writes = memory.writes + 1 ∧
          after.entries.get? config.documentPlace = some loaded.render := by
  intro stored config memory
  have acceptsEmpty : Memory.AcceptsAll {} := ⟨fun _ => rfl, fun _ => rfl⟩
  have accepts : memory.AcceptsAll := acceptsEmpty.afterWriting _ _
  have whole : stored.IsReadBack := State.isReadBack_of_templates (List.cons_ne_nil _ _) rfl
  have kept : memory.entries.get? config.documentPlace = some stored.render := by
    rw [← accepts.found]
    exact found_writing acceptsEmpty _ _
  obtain ⟨loaded, loadedServices, after, isLoaded, writes, written, _⟩ :=
    @load_writes_iff config [] { now := .epoch } memory _ _ accepts kept whole.readDocument
  have differs : loaded ≠ stored := by
    rintro rfl
    have hydrated := (load_effect accepts isLoaded).1.hydrated rfl
    exact absurd hydrated (by decide +kernel)
  obtain ⟨once, document, _⟩ := written (writes.2 differs)
  exact ⟨accepts, kept, whole.readDocument, loaded, loadedServices, after, isLoaded, differs, once,
    document⟩

end Store

end Questionnaire
