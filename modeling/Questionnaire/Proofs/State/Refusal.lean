import Questionnaire.Proofs.State.Operation

/-!
# Refused operations

Every operation makes all its checks before its first change. One that is refused therefore leaves
the whole session as it was: the state, the ids handed out and the events reported. This does not
depend on the state being in good order; look-ups that find nothing, or that find the first of
several entries with one id, come before the changes like all other checks.
-/

namespace Questionnaire

namespace Session

/-- What comes of an operation that makes its checks first. -/
inductive AllOrNothing (before : Session) {α : Type} : Except StoreError α × Session → Prop where
  /-- The operation is performed, and the session may have changed. -/
  | performed (value : α) (after : Session) : AllOrNothing before (.ok value, after)
  /-- The operation is refused, and the session is the one from before. -/
  | refused (error : StoreError) : AllOrNothing before (.error error, before)

theorem AllOrNothing.after_eq {before after : Session} {α : Type} {error : StoreError}
    (outcome : before.AllOrNothing ((.error error, after) : Except StoreError α × Session)) :
    after = before := by
  cases outcome
  rfl

end Session

namespace Action

variable {α : Type} (session : Session)

/-- Dropping the result of an action does not make it leave a trace. -/
theorem allOrNothing_discard {action : Action α}
    (outcome : session.AllOrNothing (action.perform session)) :
    session.AllOrNothing ((discard action).perform session) := by
  change session.AllOrNothing ((Functor.mapConst () action : Action Unit).perform session)
  simp only [perform, ExceptT.run, Functor.mapConst, Function.comp, ExceptT.map, ExceptT.mk, bind,
    StateT.bind] at outcome ⊢
  generalize action session = result at outcome
  cases outcome with
  | performed value after => exact .performed () after
  | refused error => exact .refused error

theorem duplicateTemplate_allOrNothing (id : String) :
    session.AllOrNothing ((duplicateTemplate id).perform session) := by
  rw [perform_duplicateTemplate]
  cases session.state.template? id with
  | none => exact .refused _
  | some source => exact .performed _ _

theorem setStage_allOrNothing (id : String) (stage : Stage) :
    session.AllOrNothing ((setStage id stage).perform session) := by
  rw [perform_setStage]
  cases session.state.assignment? id with
  | none => exact .refused _
  | some assignment =>
    dsimp only
    split
    · split <;> exact .performed _ _
    · exact .refused _

theorem modifyAnswer_allOrNothing (assignmentId nodeId : String)
    (change : Option Answer → Option Answer) :
    session.AllOrNothing ((modifyAnswer assignmentId nodeId change).perform session) := by
  rw [perform_modifyAnswer]
  cases session.state.assignment? assignmentId with
  | none => exact .refused _
  | some assignment => exact .performed _ _

end Action

open Questionnaire.Action

theorem TemplateOperation.allOrNothing (operation : TemplateOperation) (session : Session) :
    session.AllOrNothing (operation.action.perform session) := by
  cases operation with
  | create title description =>
    refine allOrNothing_discard session ?_
    rw [perform_createTemplate]
    split
    · exact .refused _
    · exact .performed _ _
  | duplicate id => exact allOrNothing_discard session (duplicateTemplate_allOrNothing session id)
  | cloneForEdit id =>
    refine allOrNothing_discard session ?_
    rw [perform_cloneForEdit]
    cases session.state.template? id with
    | none => exact .refused _
    | some source =>
      dsimp only
      split
      · exact duplicateTemplate_allOrNothing session id
      · exact .performed _ _
  | archive id =>
    refine allOrNothing_discard session ?_
    rw [perform_archiveTemplate]
    cases session.state.template? id with
    | none => exact .refused _
    | some template =>
      dsimp only
      split <;> exact .performed _ _
  | remove id =>
    refine allOrNothing_discard session ?_
    rw [perform_removeTemplate]
    cases session.state.template? id with
    | none => exact .refused _
    | some template =>
      dsimp only
      split
      · exact .performed _ _
      · split <;> exact .performed _ _
  | updateGraph id graph =>
    refine allOrNothing_discard session ?_
    rw [perform_updateGraph]
    cases session.state.template? id with
    | none => exact .refused _
    | some template =>
      dsimp only
      split
      · exact .refused _
      · exact .performed _ _
  | activate id version =>
    rw [action, perform_activateVersion]
    cases session.state.template? id with
    | none => exact .refused _
    | some template =>
      dsimp only
      split
      · exact .performed _ _
      · exact .refused _
  | publish nodeLimit id publisher notes =>
    refine allOrNothing_discard session ?_
    rw [perform_publishVersion]
    cases session.state.template? id with
    | none => exact .refused _
    | some template =>
      dsimp only
      cases template.activeGraph? with
      | none => exact .refused _
      | some graph =>
        dsimp only
        split
        · split
          · exact .refused _
          · exact .performed _ _
        · exact .refused _

theorem AssignmentOperation.allOrNothing (operation : AssignmentOperation) (session : Session) :
    session.AllOrNothing (operation.action.perform session) := by
  cases operation with
  | assign templateId title dueAt =>
    refine allOrNothing_discard session ?_
    rw [perform_assignTemplate]
    cases session.state.template? templateId with
    | none => exact .refused _
    | some template => exact .performed _ _
  | setStage id stage => exact allOrNothing_discard session (setStage_allOrNothing session id stage)
  | updateStatus id status =>
    refine allOrNothing_discard session ?_
    rw [perform_updateStatus]
    cases session.state.assignment? id with
    | none => exact .refused _
    | some assignment =>
      have moved := setStage_allOrNothing session id (status.toStage.max assignment.stage)
      dsimp only
      generalize (Action.setStage id (status.toStage.max assignment.stage)).perform session =
        outcome at moved ⊢
      cases moved with
      | performed previous after => exact .performed _ after
      | refused error => exact .refused error
  | refreshStage catalog id =>
    refine allOrNothing_discard session ?_
    rw [perform_refreshStage]
    cases session.state.assignment? id with
    | none => exact .refused _
    | some assignment =>
      have moved := setStage_allOrNothing session id
        (assignment.progress (session.state.templateOf? assignment) session.state.responses
          catalog).stage
      dsimp only
      generalize (Action.setStage id (assignment.progress (session.state.templateOf? assignment)
        session.state.responses catalog).stage).perform session = outcome at moved ⊢
      cases moved with
      | performed previous after => exact .performed _ after
      | refused error => exact .refused error
  | archive id =>
    rw [action, perform_archiveAssignment]
    cases session.state.assignment? id with
    | none => exact .refused _
    | some assignment => exact .performed _ _

theorem ResponseOperation.allOrNothing (operation : ResponseOperation) (session : Session) :
    session.AllOrNothing (operation.action.perform session) := by
  cases operation with
  | recordAnswer assignmentId nodeId answer =>
    rw [action, perform_recordAnswer]
    cases session.state.assignment? assignmentId with
    | none => exact .refused _
    | some assignment => exact .performed _ _
  | skipNode assignmentId nodeId reason actor =>
    rw [action, perform_skipNode]
    cases session.state.assignment? assignmentId with
    | none => exact .refused _
    | some assignment => exact .performed _ _
  | attachFiles assignmentId nodeId files =>
    rw [action, Action.attachFiles]
    exact modifyAnswer_allOrNothing session assignmentId nodeId _
  | detachFiles assignmentId nodeId fileIds =>
    rw [action, Action.detachFiles]
    exact modifyAnswer_allOrNothing session assignmentId nodeId _
  | moveFile assignmentId sourceId targetId fileId =>
    refine allOrNothing_discard session ?_
    rw [perform_moveFileBetween]
    cases session.state.assignment? assignmentId with
    | none => exact .refused _
    | some assignment =>
      dsimp only
      split <;> exact .performed _ _
  | clear assignmentId => exact allOrNothing_discard session (.performed _ _)

/-- Every operation is performed, or refused without a trace. -/
theorem Operation.allOrNothing (operation : Operation) (session : Session) :
    session.AllOrNothing (operation.action.perform session) := by
  cases operation with
  | template operation => exact operation.allOrNothing session
  | assignment operation => exact operation.allOrNothing session
  | response operation => exact operation.allOrNothing session
  | rehydrateIntake catalog =>
    refine allOrNothing_discard session ?_
    rw [perform_rehydrateIntake]
    split <;> exact .performed _ _

/-- A refused operation leaves the session as it was, whatever the state and whatever the reason. -/
theorem Operation.eq_of_refused (operation : Operation) {before after : Session}
    {error : StoreError} (refused : operation.action.perform before = (.error error, after)) :
    after = before := by
  have outcome := operation.allOrNothing before
  rw [refused] at outcome
  exact outcome.after_eq

/-- The first of two templates with one id is not published, since its graph has no end. That the
graph of the second one has an end does not matter. -/
theorem Operation.eq_of_refused_publish :
    let endless : Template := .ofVersion "t" "A" .custom .attorney
      (.draft 1 { nodes := [.ofKind .start "s"], edges := [] }) .epoch
    let closed : Template := .ofVersion "t" "B" .custom .attorney
      (.draft 1 { nodes := [.ofKind .start "s", .ofKind .finish "e"], edges := [] }) .epoch
    let before : Session :=
      { state := { templates := [endless, closed] }, services := { now := .epoch } }
    let publication : Operation := .template (.publish 60 "t" none none)
    let after := (publication.action.perform before).2
    publication.action.perform before =
        (.error (.invalidGraph { defects := [.missingEnd], advice := [] }), after) ∧
      after = before := by
  intro endless closed before publication after
  have refused : publication.action.perform before =
      (.error (.invalidGraph { defects := [.missingEnd], advice := [] }), after) := by
    refine Prod.ext ?_ rfl
    decide +kernel
  exact ⟨refused, publication.eq_of_refused refused⟩

end Questionnaire
