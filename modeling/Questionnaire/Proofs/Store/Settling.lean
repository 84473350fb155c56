import Questionnaire.Proofs.Document.State
import Questionnaire.Proofs.Seed.Hydration
import Questionnaire.Proofs.State.Performing
import Questionnaire.Proofs.State.Retitling
import Questionnaire.Store.Basic

/-!
# States that a store gives

Every state that a store gives is of the present schema, keeps a value as the document of the first
schema, and holds an intake that carries the catalog if the store keeps one. Settling such a state
again changes nothing once its titles are clean.
-/

namespace Questionnaire

namespace State

variable {state : State} {catalog : Catalog} {keepsIntake : Bool}

/-- The state is one that loading gives. -/
structure IsGiven (state : State) (catalog : Catalog) (keepsIntake : Bool) : Prop where
  /-- The state is of the present schema. -/
  schema : state.schemaVersion = Questionnaire.schemaVersion
  /-- What is kept of the first schema is a value. -/
  archived : ∀ document, state.archivedV1 = some document → document.IsValue
  /-- The intake carries the catalog. -/
  hydrated : keepsIntake = true → state.hasHydratedIntake catalog = true

/-- Nothing of the state is lost in its document, and no title is left to be cleaned. -/
structure IsSettled (state : State) : Prop where
  /-- A document without templates is stale. -/
  templates : state.templates ≠ []
  /-- No title is to be cleaned. -/
  titles : state.HasCleanTitles
  /-- An upload time with a year outside 0 to 9999 is lost. -/
  responses : ∀ response ∈ state.responses, response.IsDated
  /-- A kept `null` is lost. -/
  archived : state.archivedV1 ≠ some .null

/-- The document of a given state that is settled keeps all of it. -/
theorem IsGiven.isKept (given : state.IsGiven catalog keepsIntake) (settled : state.IsSettled) :
    state.IsKept where
  schema := given.schema
  responses := settled.responses
  archived := by
    intro document kept
    refine ⟨given.archived document kept, ?_⟩
    rintro rfl
    exact settled.archived kept

/-- A state whose document is read back as it is, and whose titles are clean, is settled. -/
theorem IsReadBack.isSettled (whole : state.IsReadBack) (titles : state.HasCleanTitles) :
    state.IsSettled where
  templates := whole.templates
  titles := titles
  responses := whole.kept.responses
  archived := fun isNull => (whole.kept.archived .null isNull).2 rfl

/-- A state that holds an intake has a template. -/
theorem templates_ne_nil_of_hasHydratedIntake
    (hydrated : state.hasHydratedIntake catalog = true) : state.templates ≠ [] := by
  intro none
  rw [hasHydratedIntake, template?, none] at hydrated
  contradiction

/-- An intake that carries the catalog and comes first is the one that is found. -/
theorem hasHydratedIntake_of_head {now : Timestamp} {others : List Template}
    (head : state.templates = intakeTemplate catalog now :: others) :
    state.hasHydratedIntake catalog = true := by
  have found : state.template? intakeTemplateId = some (intakeTemplate catalog now) := by
    rw [template?, head, List.find?_cons_of_pos (by rfl)]
  rw [hasHydratedIntake, found]
  exact isHydrated_intakeTemplate catalog now

theorem templates_migrate (catalog : Catalog) (document : Option Json) (seeded : Bool)
    (now : Timestamp) : ∃ converted, (migrate catalog document seeded now).templates =
      (if seeded then seedTemplates catalog now else []) ++ converted := by
  cases seeded with
  | false | true =>
    cases document with
    | none => exact ⟨[], (List.append_nil _).symm⟩
    | some document => exact ⟨_, rfl⟩

/-- A rebuilt state is one that loading gives. -/
theorem isGiven_migrate (catalog : Catalog) (text : Option String) (seeded : Bool)
    (now : Timestamp) :
    (migrate catalog (readFirstSchema text) seeded now).IsGiven catalog seeded where
  schema := by
    cases readFirstSchema text <;> cases seeded <;> rfl
  archived := by
    intro document kept
    cases read : readFirstSchema text with
    | none =>
      rw [read] at kept
      cases seeded <;> contradiction
    | some found =>
      rw [read] at kept
      obtain rfl : found = document := by
        cases seeded <;> exact Option.some.inj kept
      obtain ⟨tree, _, isValue⟩ := Option.bind_eq_some_iff.1 read
      exact Json.isValue_of_canonical? tree found isValue
  hydrated := by
    rintro rfl
    obtain ⟨converted, templates⟩ := templates_migrate catalog (readFirstSchema text) true now
    exact hasHydratedIntake_of_head templates

theorem hasHydratedIntake_replaceIntake (state : State) (catalog : Catalog) (now : Timestamp) :
    (state.replaceIntake (intakeTemplate catalog now)).hasHydratedIntake catalog = true :=
  hasHydratedIntake_of_head rfl

end State

namespace Session

/-- The session with clean titles. -/
def retitled (session : Session) : Session :=
  { session with state := session.state.normalizeTitles.2 }

/-- The session with an intake that carries the catalog, if the store keeps one. -/
def rehydrated (session : Session) (catalog : Catalog) (keepsIntake : Bool) : Session :=
  if keepsIntake then ((Action.rehydrateIntake catalog).perform session).2 else session

/-- Whether the intake of the session has to be replaced. -/
def needsIntake (session : Session) (catalog : Catalog) (keepsIntake : Bool) : Bool :=
  keepsIntake && !session.state.hasHydratedIntake catalog

/-- Whether settling changes the session. -/
def needsSettling (session : Session) (catalog : Catalog) (keepsIntake : Bool) : Bool :=
  session.needsIntake catalog keepsIntake ||
    (session.rehydrated catalog keepsIntake).state.normalizeTitles.1

variable {session : Session} {catalog : Catalog} {keepsIntake : Bool}

theorem rehydrated_of_hydrated (hydrated : session.needsIntake catalog keepsIntake = false) :
    session.rehydrated catalog keepsIntake = session := by
  cases keepsIntake with
  | false => rfl
  | true =>
    have present : session.state.hasHydratedIntake catalog = true := by
      simpa [needsIntake] using hydrated
    rw [rehydrated, if_pos rfl, Action.perform_rehydrateIntake, if_pos present]

/-- Afterwards the intake carries the catalog. -/
theorem hasHydratedIntake_rehydrated (session : Session) (catalog : Catalog) :
    (session.rehydrated catalog true).state.hasHydratedIntake catalog = true := by
  rw [rehydrated, if_pos rfl, Action.perform_rehydrateIntake]
  split
  · assumption
  · exact State.hasHydratedIntake_replaceIntake session.state catalog session.services.now

theorem templates_rehydrated_ne_nil (given : session.state.templates ≠ []) :
    (session.rehydrated catalog keepsIntake).state.templates ≠ [] := by
  cases keepsIntake with
  | false => exact given
  | true =>
    exact State.templates_ne_nil_of_hasHydratedIntake (session.hasHydratedIntake_rehydrated catalog)

/-- Nothing but the entries of the state changes with the intake. -/
theorem rehydrated_frame (session : Session) (catalog : Catalog) (keepsIntake : Bool) :
    (session.rehydrated catalog keepsIntake).state.schemaVersion = session.state.schemaVersion ∧
      (session.rehydrated catalog keepsIntake).state.archivedV1 = session.state.archivedV1 := by
  rw [rehydrated]
  split
  · rw [Action.perform_rehydrateIntake]
    split
    · exact ⟨rfl, rfl⟩
    · exact ⟨rfl, rfl⟩
  · exact ⟨rfl, rfl⟩

/-- A session that needs no settling has its intake and clean titles. -/
theorem needsSettling_eq_false (settled : session.needsSettling catalog keepsIntake = false) :
    session.needsIntake catalog keepsIntake = false ∧
      session.state.normalizeTitles.1 = false := by
  obtain ⟨hydrated, clean⟩ := Bool.or_eq_false_iff.1 settled
  rw [rehydrated_of_hydrated hydrated] at clean
  exact ⟨hydrated, clean⟩

/-- A state that is given and has clean titles is left as it is. -/
theorem settled_of_isGiven (session : Session) (given : session.state.IsGiven catalog keepsIntake)
    (clean : session.state.HasCleanTitles) :
    session.needsSettling catalog keepsIntake = false ∧
      (session.rehydrated catalog keepsIntake).retitled = session := by
  have hydrated : session.needsIntake catalog keepsIntake = false := by
    cases keepsIntake with
    | false => rfl
    | true => simp [needsIntake, given.hydrated rfl]
  rw [needsSettling, rehydrated_of_hydrated hydrated, retitled, clean.normalizeTitles, hydrated]
  exact ⟨rfl, rfl⟩

/-- Settling gives a state of the kind that loading gives. -/
theorem isGiven_settled (schema : session.state.schemaVersion = schemaVersion)
    (archived : ∀ document, session.state.archivedV1 = some document → document.IsValue) :
    (session.rehydrated catalog keepsIntake).retitled.state.IsGiven catalog keepsIntake where
  schema := (session.rehydrated_frame catalog keepsIntake).1.trans schema
  archived := by
    intro document kept
    exact archived document ((session.rehydrated_frame catalog keepsIntake).2.symm.trans kept)
  hydrated := by
    rintro rfl
    exact (State.hasHydratedIntake_normalizeTitles _ catalog).trans
      (session.hasHydratedIntake_rehydrated catalog)

end Session

namespace Action

theorem perform_settle (catalog : Catalog) (keepsIntake : Bool) (session : Session) :
    (settle catalog keepsIntake).perform session =
      (.ok (session.needsSettling catalog keepsIntake),
        (session.rehydrated catalog keepsIntake).retitled) := by
  cases keepsIntake with
  | false => rfl
  | true =>
    have same : (session.rehydrated catalog true) =
        ((rehydrateIntake catalog).perform session).2 := rfl
    rw [Session.needsSettling, Session.needsIntake, same]
    simp only [settle, if_true, perform_bind, perform_rehydrateIntake]
    cases session.state.hasHydratedIntake catalog with
    | false | true => rfl

end Action

end Questionnaire
