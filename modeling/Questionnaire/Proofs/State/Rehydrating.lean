import Mathlib.Data.List.Nodup
import Questionnaire.Proofs.Store.Settling

/-!
# Replacing the intake

An intake that does not carry the catalog is replaced by one that does, and issued once. Assignments
and responses go by the ids of the assignments of the old intake. Where the ids of assignments are
distinct, these are the ids of no others, so that the other templates, assignments and responses
stay as they were. A second attempt finds the intake in order and does nothing.
-/

namespace Questionnaire

section Collections

variable {α κ : Type} {key : α → κ} {test : α → Bool} {first item : α} {items : List α}

/-- An element that passes a test, in front of those that do not, is the only one that does. -/
theorem filter_cons_others (test : α → Bool) (passes : test first = true) (items : List α) :
    (first :: items.filter fun item => !test item).filter test = [first] ∧
      (first :: items.filter fun item => !test item).filter (fun item => !test item) =
        items.filter fun item => !test item := by
  constructor
  · rw [List.filter_cons_of_pos passes, List.filter_filter]
    simp
  · refine (List.filter_cons_of_neg (by simp [passes])).trans ?_
    rw [List.filter_filter]
    simp

/-- Where keys are distinct, the keys of the elements that pass a test are those of no others. -/
theorem key_mem_filter_iff (distinct : (items.map key).Nodup) (inside : item ∈ items) :
    key item ∈ (items.filter test).map key ↔ test item = true := by
  constructor
  · intro used
    obtain ⟨other, passes, same⟩ := List.mem_map.1 used
    obtain ⟨insideOther, passes⟩ := List.mem_filter.1 passes
    rwa [← List.inj_on_of_nodup_map distinct insideOther inside same]
  · exact fun passes => List.mem_map_of_mem (List.mem_filter.2 ⟨inside, passes⟩)

end Collections

namespace State

/-- The ids of the assignments of other templates than the intake. -/
def otherAssignmentIds (state : State) : List String :=
  (state.assignments.filter fun assignment => assignment.templateId != intakeTemplateId).map
    Assignment.id

variable {state : State} (distinct : (state.assignments.map Assignment.id).Nodup)

include distinct

/-- Where ids are distinct, an assignment goes with the old intake only if it is one of it. -/
theorem assignments_replaceIntake (intake : Template) :
    (state.replaceIntake intake).assignments =
      state.assignments.filter fun assignment => assignment.templateId != intakeTemplateId := by
  refine List.filter_congr fun assignment inside => ?_
  have ofIntake : assignment.id ∈ state.intakeAssignmentIds ↔
      (assignment.templateId == intakeTemplateId) = true := key_mem_filter_iff distinct inside
  rw [bne, Bool.not_inj_iff, Bool.eq_iff_iff, List.contains_iff_mem, ofIntake]

/-- Where ids are distinct, the responses of the other assignments stay. -/
theorem responses_replaceIntake (intake : Template) :
    ((state.replaceIntake intake).responses.filter fun response =>
        state.otherAssignmentIds.contains response.assignmentId) =
      state.responses.filter fun response =>
        state.otherAssignmentIds.contains response.assignmentId := by
  rw [replaceIntake, List.filter_filter]
  refine List.filter_congr fun response _ => ?_
  rw [Bool.and_eq_left_iff_imp]
  intro isOther
  obtain ⟨assignment, isOther, same⟩ := List.mem_map.1 (List.contains_iff_mem.1 isOther)
  obtain ⟨inside, other⟩ := List.mem_filter.1 isOther
  have ofIntake : assignment.id ∈ state.intakeAssignmentIds ↔
      (assignment.templateId == intakeTemplateId) = true := key_mem_filter_iff distinct inside
  rw [← same, Bool.not_eq_true', ← Bool.not_eq_true, List.contains_iff_mem, ofIntake]
  simpa using other

end State

namespace Session

/-- The second session comes of the first one by an intake in place of the old one, and an assignment
of it in place of the old ones. -/
structure ReplacesIntake (before after : Session) (intake : Template) (issued : Assignment) :
    Prop where
  /-- The intake comes first. -/
  first : after.state.templates.head? = some intake
  /-- No other template has its id. -/
  onlyTemplate :
    after.state.templates.filter (fun template => template.id == intakeTemplateId) = [intake]
  /-- All other templates are the same, in their order. -/
  otherTemplates :
    after.state.templates.filter (fun template => template.id != intakeTemplateId) =
      before.state.templates.filter fun template => template.id != intakeTemplateId
  /-- The assignment is the only one of the intake. -/
  onlyAssignment :
    after.state.assignments.filter (fun assignment => assignment.templateId == intakeTemplateId) =
      [issued]
  /-- All other assignments are the same, in their order. -/
  otherAssignments :
    after.state.assignments.filter (fun assignment => assignment.templateId != intakeTemplateId) =
      before.state.assignments.filter fun assignment => assignment.templateId != intakeTemplateId
  /-- The assignment has a new id, and no two assignments have one id. -/
  assignmentIds : issued.id = before.services.nextId "assign" ∧
    (after.state.assignments.map Assignment.id).Nodup
  /-- The intake has the version that was issued. -/
  pinned : (intake.version? issued.templateVersion).isSome = true
  /-- No response is left of an assignment of the old intake. -/
  droppedResponses : ∀ assignment ∈ before.state.assignments,
    assignment.templateId = intakeTemplateId →
      ∀ response ∈ after.state.responses, response.assignmentId ≠ assignment.id
  /-- The responses of all other assignments are the same, in their order. -/
  otherResponses :
    (after.state.responses.filter fun response =>
        before.state.otherAssignmentIds.contains response.assignmentId) =
      before.state.responses.filter fun response =>
        before.state.otherAssignmentIds.contains response.assignmentId
  /-- No response is added. -/
  responses : after.state.responses.Sublist before.state.responses
  /-- The rest of the state is the same. -/
  rest : after.state.schemaVersion = before.state.schemaVersion ∧
    after.state.archivedV1 = before.state.archivedV1
  /-- One id was asked for, and one event was reported. -/
  services : after.services =
    { before.services with
      minted := before.services.minted + 1
      events := before.services.events ++
        [.assignmentCreated issued.id intakeTemplateId issued.templateVersion] }

end Session

namespace Action

variable {session : Session} {catalog : Catalog}

theorem perform_rehydrateIntake_of_hydrated
    (hydrated : session.state.hasHydratedIntake catalog = true) :
    (rehydrateIntake catalog).perform session = (.ok false, session) := by
  rw [perform_rehydrateIntake, if_pos hydrated]

theorem replacesIntake_of_dehydrated (dehydrated : session.state.hasHydratedIntake catalog = false)
    (distinct : (session.state.assignments.map Assignment.id).Nodup)
    (isNew : session.services.nextId "assign" ∉ session.state.assignments.map Assignment.id) :
    ∃ after intake issued, (rehydrateIntake catalog).perform session = (.ok true, after) ∧
      intake.isHydrated catalog = true ∧ session.ReplacesIntake after intake issued := by
  let intake := intakeTemplate catalog session.services.now
  let issued := Assignment.issue (session.services.nextId "assign") intakeTemplateId
    intake.activeVersion intake.title session.services.now
  let replaced := { session with state := session.state.replaceIntake intake }
  let after := (replaced.minting 1).addAssignment issued
  have performed : (rehydrateIntake catalog).perform session = (.ok true, after) := by
    rw [perform_rehydrateIntake, dehydrated, if_neg Bool.false_ne_true]
  have templates : after.state.templates = intake ::
      session.state.templates.filter fun template => !(template.id == intakeTemplateId) := rfl
  have assignments : after.state.assignments = issued ::
      session.state.assignments.filter fun assignment =>
        !(assignment.templateId == intakeTemplateId) :=
    congrArg (issued :: ·) (State.assignments_replaceIntake distinct intake)
  obtain ⟨onlyTemplate, otherTemplates⟩ := filter_cons_others
    (fun template : Template => template.id == intakeTemplateId) (beq_self_eq_true intake.id)
    session.state.templates
  obtain ⟨onlyAssignment, otherAssignments⟩ := filter_cons_others
    (fun assignment : Assignment => assignment.templateId == intakeTemplateId)
    (beq_self_eq_true issued.templateId) session.state.assignments
  refine ⟨after, intake, issued, performed,
    isHydrated_intakeTemplate catalog session.services.now, ?_⟩
  constructor
  case first => rfl
  case onlyTemplate => rwa [templates]
  case otherTemplates => rwa [templates]
  case onlyAssignment => rwa [assignments]
  case otherAssignments => rwa [assignments]
  case assignmentIds =>
    refine ⟨rfl, ?_⟩
    rw [assignments]
    refine List.nodup_cons.2 ⟨fun used => isNew ?_, distinct.sublist (List.filter_sublist.map _)⟩
    exact (List.filter_sublist.map _).subset used
  case pinned => rfl
  case droppedResponses =>
    intro assignment inside ofIntake response kept
    have left : response ∈ (session.state.replaceIntake intake).responses := kept
    exact State.assignmentId_ne_of_mem_replaceIntake left inside ofIntake
  case otherResponses => exact State.responses_replaceIntake distinct intake
  case responses => exact List.filter_sublist
  case rest => exact ⟨rfl, rfl⟩
  case services => rfl

/-- Rehydrating is never refused. If it tells that nothing was to be done, nothing was done.
Otherwise the intake was replaced by one that carries the catalog, and issued, and nothing else
changed, as long as the ids of assignments are distinct and the new id is none of them. Right
afterwards nothing is to be done, at whatever time. -/
theorem rehydrateIntake_settles
    (distinct : (session.state.assignments.map Assignment.id).Nodup)
    (isNew : session.services.nextId "assign" ∉ session.state.assignments.map Assignment.id) :
    ∃ changed after, (rehydrateIntake catalog).perform session = (.ok changed, after) ∧
      (changed = false → after = session) ∧
      (changed = true → ∃ intake issued, intake.isHydrated catalog = true ∧
        session.ReplacesIntake after intake issued) ∧
      ∀ services, (rehydrateIntake catalog).perform { after with services } =
        (.ok false, { after with services }) := by
  cases hydrated : session.state.hasHydratedIntake catalog with
  | true =>
    exact ⟨false, session, perform_rehydrateIntake_of_hydrated hydrated, fun _ => rfl, nofun,
      fun _ => perform_rehydrateIntake_of_hydrated hydrated⟩
  | false =>
    obtain ⟨after, intake, issued, performed, carries, replaces⟩ :=
      replacesIntake_of_dehydrated hydrated distinct isNew
    refine ⟨true, after, performed, nofun, fun _ => ⟨intake, issued, carries, replaces⟩,
      fun services => perform_rehydrateIntake_of_hydrated ?_⟩
    have found : after.state.template? intakeTemplateId = some intake := by
      have isFirst : (after.state.templates.filter fun template =>
          template.id == intakeTemplateId).head? = some intake := by
        rw [replaces.onlyTemplate, List.head?_cons]
      rwa [List.head?_filter] at isFirst
    rw [State.hasHydratedIntake]
    exact (congrArg (Option.any _) found).trans carries

/-- An intake without the field of its catalog is replaced. Its two assignments and the response to
one of them go; the response of another assignment and one of no assignment stay. -/
theorem rehydrateIntake_settles_stale :
    let catalog : Catalog :=
      [{ id := "s", title := "S", fields := [{ id := "f", kind := .text, label := "F" }] }]
    let template (id : String) : Template :=
      .ofVersion id id .custom .attorney (.draft 1 .empty) .epoch
    let issue (id templateId : String) : Assignment := .issue id templateId 1 id .epoch
    let response (id : String) : Response :=
      .answered id "q" (.text "yes") .epoch
    let session : Session :=
      { state :=
          { templates := [template "t", template intakeTemplateId, template "u"]
            assignments := [issue "a" intakeTemplateId, issue "b" "t", issue "c" intakeTemplateId]
            responses := [response "c", response "b", response "none"] }
        services := { now := .epoch } }
    (session.state.assignments.map Assignment.id).Nodup ∧
      session.services.nextId "assign" ∉ session.state.assignments.map Assignment.id ∧
      ∃ after intake issued, (rehydrateIntake catalog).perform session = (.ok true, after) ∧
        session.ReplacesIntake after intake issued ∧
        after.state.templates.map Template.id = [intakeTemplateId, "t", "u"] ∧
        after.state.assignments.map Assignment.id = ["assign-1", "b"] ∧
        after.state.responses.map Response.assignmentId = ["b", "none"] ∧
        (rehydrateIntake catalog).perform after = (.ok false, after) := by
  intro catalog template issue response session
  have distinct : (session.state.assignments.map Assignment.id).Nodup := by decide
  have isNew : session.services.nextId "assign" ∉ session.state.assignments.map Assignment.id := by
    decide +kernel
  obtain ⟨changed, after, performed, _, replaces, again⟩ :=
    @rehydrateIntake_settles session catalog distinct isNew
  have changes : ((rehydrateIntake catalog).perform session).1 = .ok true := by rfl
  obtain rfl : changed = true := by
    rw [performed] at changes
    exact Except.ok.inj changes
  have isAfter : ((rehydrateIntake catalog).perform session).2 = after := by rw [performed]
  obtain ⟨intake, issued, _, isReplaced⟩ := replaces rfl
  refine ⟨distinct, isNew, after, intake, issued, performed, isReplaced, ?_, ?_, ?_,
    again after.services⟩
  · rw [← isAfter]
    decide +kernel
  · rw [← isAfter]
    decide +kernel
  · rw [← isAfter]
    decide +kernel

end Action

end Questionnaire
