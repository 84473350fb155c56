import Questionnaire.Migration.Rehydration
import Questionnaire.State.Answering
import Questionnaire.State.Authoring

/-!
# Performing actions

`Action.perform` runs an action on a session and gives its outcome together with the session
afterwards. For each operation there is one equation that says when it is refused and what it does
otherwise; later proofs use these equations and never unfold an operation.
-/

namespace Questionnaire

namespace Session

/-- The session with a template in place of the first one with its id. -/
def withTemplate (session : Session) (template : Template) : Session :=
  { session with
    state :=
      { session.state with
        templates :=
          modifyFirst (fun other => other.id == template.id) (fun _ => template)
            session.state.templates } }

/-- The session with an assignment in place of the first one with its id. -/
def withAssignment (session : Session) (assignment : Assignment) : Session :=
  { session with
    state :=
      { session.state with
        assignments :=
          modifyFirst (fun other => other.id == assignment.id) (fun _ => assignment)
            session.state.assignments } }

/-- The session with other responses. -/
def withResponses (session : Session) (responses : ResponseTable) : Session :=
  { session with state := { session.state with responses } }

/-- The session with a template in front of all others, which is reported. -/
def addTemplate (session : Session) (template : Template) : Session :=
  { state := { session.state with templates := template :: session.state.templates }
    services := session.services.report (.templateCreated template.id) }

/-- The session with an assignment in front of all others, which is reported. -/
def addAssignment (session : Session) (assignment : Assignment) : Session :=
  { state := { session.state with assignments := assignment :: session.state.assignments }
    services := session.services.report
      (.assignmentCreated assignment.id assignment.templateId assignment.templateVersion) }

/-- The session after so many ids were handed out. -/
def minting (session : Session) (count : Nat) : Session :=
  { session with services := { session.services with minted := session.services.minted + count } }

/-- The session after an event was reported. -/
def reporting (session : Session) (event : Event) : Session :=
  { session with services := session.services.report event }

end Session

/-- An assignment is found if and only if its id is among those of all assignments. -/
theorem State.isSome_assignment?_iff {state : State} {id : String} :
    (state.assignment? id).isSome = true ↔ id ∈ state.assignments.map Assignment.id := by
  simp [assignment?, List.find?_isSome]

namespace Action

variable {α β : Type}

/-- The outcome of an action on a session, and the session afterwards. -/
def perform (action : Action α) (session : Session) : Except StoreError α × Session :=
  action.run session

@[simp] theorem perform_pure (value : α) (session : Session) :
    (pure value : Action α).perform session = (.ok value, session) := rfl

@[simp] theorem perform_throw (error : StoreError) (session : Session) :
    (throw error : Action α).perform session = (.error error, session) := rfl

@[simp] theorem perform_bind (action : Action α) (next : α → Action β) (session : Session) :
    (action >>= next).perform session =
      match action.perform session with
      | (.ok value, after) => (next value).perform after
      | (.error error, after) => (.error error, after) := by
  simp only [perform, ExceptT.run, bind, ExceptT.bind, ExceptT.mk, StateT.bind, ExceptT.bindCont]
  cases action session with
  | mk outcome after => cases outcome <;> rfl

@[simp] theorem perform_state (session : Session) :
    state.perform session = (.ok session.state, session) := rfl

@[simp] theorem perform_now (session : Session) :
    now.perform session = (.ok session.services.now, session) := rfl

@[simp] theorem perform_mint (kind : String) (session : Session) :
    (mint kind).perform session = (.ok (session.services.nextId kind), session.minting 1) := rfl

@[simp] theorem perform_emit (event : Event) (session : Session) :
    (emit event).perform session = (.ok (), session.reporting event) := rfl

@[simp] theorem perform_modifyState (change : State → State) (session : Session) :
    (modifyState change).perform session =
      (.ok (), { session with state := change session.state }) := rfl

@[simp] theorem perform_setTemplate (template : Template) (session : Session) :
    (setTemplate template).perform session = (.ok (), session.withTemplate template) := rfl

@[simp] theorem perform_setAssignment (assignment : Assignment) (session : Session) :
    (setAssignment assignment).perform session = (.ok (), session.withAssignment assignment) := rfl

theorem perform_template (id : String) (session : Session) :
    (template id).perform session =
      match session.state.template? id with
      | some template => (.ok template, session)
      | none => (.error (.templateNotFound id), session) := by
  simp only [template, perform_bind, perform_state]
  cases session.state.template? id <;> rfl

theorem perform_assignment (id : String) (session : Session) :
    (assignment id).perform session =
      match session.state.assignment? id with
      | some assignment => (.ok assignment, session)
      | none => (.error (.assignmentNotFound id), session) := by
  simp only [assignment, perform_bind, perform_state]
  cases session.state.assignment? id <;> rfl

/-! ## Templates -/

/-- The session with a new template in front, after five ids were handed out. -/
theorem perform_createTemplate (title : String) (description : Option String) (session : Session) :
    (createTemplate title description).perform session =
      if (trim title).isEmpty then (.error .emptyTitle, session)
      else
        let id (count : Nat) := (session.minting count).services.nextId
        let graph := starterGraph (id 0 "start") (id 1 "section") (id 2 "question") (id 3 "end")
          (trim title)
        let template :=
          { Template.ofVersion (id 4 "qtpl") (trim title) .custom .attorney (.draft 1 graph)
              session.services.now with
            description := (trimmed? description).getD "Custom questionnaire" }
        (.ok template, (session.minting 5).addTemplate template) := by
  simp only [createTemplate]
  split <;> rfl

theorem perform_duplicateTemplate (id : String) (session : Session) :
    (duplicateTemplate id).perform session =
      match session.state.template? id with
      | none => (.error (.templateNotFound id), session)
      | some source =>
        let copy :=
          { source with
            id := session.services.nextId "qtpl"
            title := uniqueTitle (stripCopyMarks source.title)
              (session.state.templates.map Template.title)
            kind := .custom
            isDefault := false
            createdBy := .attorney
            createdAt := session.services.now
            updatedAt := session.services.now
            archived := false }
        (.ok copy, (session.minting 1).addTemplate copy) := by
  simp only [duplicateTemplate, perform_bind, perform_template]
  cases session.state.template? id <;> rfl

theorem perform_cloneForEdit (id : String) (session : Session) :
    (cloneForEdit id).perform session =
      match session.state.template? id with
      | none => (.error (.templateNotFound id), session)
      | some source =>
        if source.isSystemOwned then (duplicateTemplate id).perform session
        else (.ok source, session) := by
  simp only [cloneForEdit, perform_bind, perform_template]
  cases session.state.template? id with
  | none => rfl
  | some source =>
    dsimp only
    split <;> rfl

theorem perform_archiveTemplate (id : String) (session : Session) :
    (archiveTemplate id).perform session =
      match session.state.template? id with
      | none => (.error (.templateNotFound id), session)
      | some template =>
        if template.isDefault then (.ok false, session)
        else
          (.ok true, session.withTemplate
            { template with archived := true, updatedAt := session.services.now }) := by
  simp only [archiveTemplate, perform_bind, perform_template]
  cases session.state.template? id with
  | none => rfl
  | some template =>
    dsimp only
    split <;> rfl

theorem perform_removeTemplate (id : String) (session : Session) :
    (removeTemplate id).perform session =
      match session.state.template? id with
      | none => (.error (.templateNotFound id), session)
      | some template =>
        if template.isDefault then (.ok .retained, session)
        else if session.state.assignments.any fun assignment => assignment.templateId == id then
          (.ok .archived, session.withTemplate
            { template with archived := true, updatedAt := session.services.now })
        else
          (.ok .deleted,
            { session with
              state :=
                { session.state with
                  templates :=
                    session.state.templates.filter fun template => template.id != id } }) := by
  simp only [removeTemplate, perform_bind, perform_template]
  cases found : session.state.template? id with
  | none => rfl
  | some template =>
    dsimp only
    split
    · rfl
    · rename_i free
      simp only [perform_bind, perform_state]
      split
      · simp only [perform_bind, perform_archiveTemplate, found, free, Bool.false_eq_true,
          if_false]
        rfl
      · rfl

theorem perform_updateGraph (id : String) (graph : Graph) (session : Session) :
    (updateGraph id graph).perform session =
      match session.state.template? id with
      | none => (.error (.templateNotFound id), session)
      | some template =>
        match template.editGraph? graph.normalizeOrder session.services.now with
        | none => (.error .numberOverflow, session)
        | some (edit, edited) => (.ok edit, session.withTemplate edited) := by
  simp only [updateGraph, perform_bind, perform_template]
  cases session.state.template? id with
  | none => rfl
  | some template =>
    simp only [perform_now]
    cases template.editGraph? graph.normalizeOrder session.services.now <;> rfl

theorem perform_activateVersion (id : String) (version : UInt32) (session : Session) :
    (activateVersion id version).perform session =
      match session.state.template? id with
      | none => (.error (.templateNotFound id), session)
      | some template =>
        if (template.version? version).isSome then
          (.ok (), session.withTemplate
            { template with activeVersion := version, updatedAt := session.services.now })
        else (.error (.versionNotFound id version), session) := by
  simp only [activateVersion, perform_bind, perform_template]
  cases session.state.template? id with
  | none => rfl
  | some template =>
    simp only [Template.activate]
    split <;> rfl

theorem perform_publishVersion (nodeLimit : Nat) (id : String) (publisher : Option Publisher)
    (notes : Option String) (session : Session) :
    (publishVersion nodeLimit id publisher notes).perform session =
      match session.state.template? id with
      | none => (.error (.templateNotFound id), session)
      | some template =>
        match template.activeGraph? with
        | none => (.error (.versionNotFound id template.activeVersion), session)
        | some graph =>
          if (graph.check nodeLimit).isValid then
            match template.nextNumber? with
            | none => (.error .numberOverflow, session)
            | some number =>
              let published := template.append
                (.published number graph (publisher.getD .attorney) session.services.now
                  (trimmed? notes)) session.services.now
              (.ok number,
                (session.withTemplate published).reporting (.templatePublished id number))
          else (.error (.invalidGraph (graph.check nodeLimit)), session) := by
  simp only [publishVersion, perform_bind, perform_template]
  cases session.state.template? id with
  | none => rfl
  | some template =>
    dsimp only
    cases found : template.activeGraph? with
    | none => rfl
    | some graph =>
      by_cases valid : (graph.check nodeLimit).isValid = true
      · simp only [perform_bind, perform_now, Template.publish?, found, valid, if_true]
        cases template.nextNumber? <;> rfl
      · simp only [valid, Bool.false_eq_true, if_false]
        rfl

/-! ## Assignments -/

theorem perform_assignTemplate (templateId : String) (title dueAt : Option String)
    (session : Session) :
    (assignTemplate templateId title dueAt).perform session =
      match session.state.template? templateId with
      | none => (.error (.templateNotFound templateId), session)
      | some template =>
        let issued := Assignment.issue (session.services.nextId "assign") templateId
          template.activeVersion ((trimmed? title).getD template.title) session.services.now
        let assignment := { issued with dueAt := trimmed? dueAt }
        (.ok assignment, (session.minting 1).addAssignment assignment) := by
  simp only [assignTemplate, perform_bind, perform_template]
  cases session.state.template? templateId <;> rfl

theorem perform_setStage (id : String) (stage : Stage) (session : Session) :
    (setStage id stage).perform session =
      match session.state.assignment? id with
      | none => (.error (.assignmentNotFound id), session)
      | some assignment =>
        if assignment.stage.rank ≤ stage.rank then
          if assignment.stage = stage then (.ok stage, session)
          else
            (.ok assignment.stage,
              (session.withAssignment { assignment with recordedStage := some stage }).reporting
                (.stageChanged id assignment.stage stage))
        else
          (.error (.downgrade { current := assignment.stage, requested := stage }), session) := by
  simp only [setStage, perform_bind, perform_assignment]
  cases session.state.assignment? id with
  | none => rfl
  | some assignment =>
    by_cases forward : assignment.stage.rank ≤ stage.rank
    · by_cases same : assignment.stage = stage
      · simp [Stage.checkMove, same]
      · simp only [Stage.checkMove, forward, if_true, same, if_false, ne_eq, not_false_eq_true]
        rfl
    · simp only [Stage.checkMove, forward, if_false]
      rfl

theorem perform_updateStatus (id : String) (status : FormStatus) (session : Session) :
    (updateStatus id status).perform session =
      match session.state.assignment? id with
      | none => (.error (.assignmentNotFound id), session)
      | some assignment =>
        let stage := status.toStage.max assignment.stage
        match (setStage id stage).perform session with
        | (.ok _, after) => (.ok stage, after)
        | (.error error, after) => (.error error, after) := by
  simp only [updateStatus, perform_bind, perform_assignment]
  cases session.state.assignment? id with
  | none => rfl
  | some assignment =>
    dsimp only
    cases (setStage id (status.toStage.max assignment.stage)).perform session with
    | mk outcome after => cases outcome <;> rfl

theorem perform_archiveAssignment (id : String) (session : Session) :
    (archiveAssignment id).perform session =
      match session.state.assignment? id with
      | none => (.error (.assignmentNotFound id), session)
      | some assignment =>
        (.ok (), session.withAssignment { assignment with archived := true }) := by
  simp only [archiveAssignment, perform_bind, perform_assignment]
  cases session.state.assignment? id <;> rfl

theorem perform_refreshStage (catalog : Catalog) (id : String) (session : Session) :
    (refreshStage catalog id).perform session =
      match session.state.assignment? id with
      | none => (.error (.assignmentNotFound id), session)
      | some assignment =>
        let progress := assignment.progress (session.state.templateOf? assignment)
          session.state.responses catalog
        match (setStage id progress.stage).perform session with
        | (.ok _, after) => (.ok progress, after)
        | (.error error, after) => (.error error, after) := by
  simp only [refreshStage, assignmentProgress, perform_bind, perform_assignment]
  cases session.state.assignment? id with
  | none => rfl
  | some assignment =>
    simp only [perform_state, perform_pure]
    cases (setStage id (assignment.progress (session.state.templateOf? assignment)
      session.state.responses catalog).stage).perform session with
    | mk outcome after => cases outcome <;> rfl

/-! ## Responses -/

theorem perform_recordAnswer (assignmentId nodeId : String) (answer : Answer)
    (session : Session) :
    (recordAnswer assignmentId nodeId answer).perform session =
      match session.state.assignment? assignmentId with
      | none => (.error (.assignmentNotFound assignmentId), session)
      | some _ =>
        (.ok (), session.withResponses (ResponseTable.put
          (.answered assignmentId nodeId answer session.services.now)
          session.state.responses)) := by
  simp only [recordAnswer, perform_bind, perform_assignment]
  cases session.state.assignment? assignmentId <;> rfl

theorem perform_skipNode (assignmentId nodeId reason : String) (actor : SkipActor)
    (session : Session) :
    (skipNode assignmentId nodeId reason actor).perform session =
      match session.state.assignment? assignmentId with
      | none => (.error (.assignmentNotFound assignmentId), session)
      | some _ =>
        let skip := { reason := trim reason, actor, moment := session.services.now }
        (.ok (), session.withResponses (ResponseTable.put
          (.skipped assignmentId nodeId skip session.services.now) session.state.responses)) := by
  simp only [skipNode, perform_bind, perform_assignment]
  cases session.state.assignment? assignmentId <;> rfl

theorem perform_clearResponses (assignmentId : String) (session : Session) :
    (clearResponses assignmentId).perform session =
      (.ok (session.state.responses.countP fun response => response.assignmentId == assignmentId),
        session.withResponses (ResponseTable.clear session.state.responses assignmentId)) := rfl

theorem perform_modifyAnswer (assignmentId nodeId : String)
    (change : Option Answer → Option Answer) (session : Session) :
    (modifyAnswer assignmentId nodeId change).perform session =
      match session.state.assignment? assignmentId with
      | none => (.error (.assignmentNotFound assignmentId), session)
      | some _ =>
        let table := session.state.responses
        (.ok (), session.withResponses (ResponseTable.putAnswer table assignmentId nodeId
          (change (ResponseTable.answer? table assignmentId nodeId)) session.services.now)) := by
  simp only [modifyAnswer, perform_bind, perform_assignment]
  cases session.state.assignment? assignmentId <;> rfl

theorem perform_moveFileBetween (assignmentId sourceId targetId fileId : String)
    (session : Session) :
    (moveFileBetween assignmentId sourceId targetId fileId).perform session =
      match session.state.assignment? assignmentId with
      | none => (.error (.assignmentNotFound assignmentId), session)
      | some _ =>
        let table := session.state.responses
        let move := moveFile (ResponseTable.answer? table assignmentId sourceId)
          (ResponseTable.answer? table assignmentId targetId) fileId
        if sourceId == targetId || move.moved.isNone then (.ok false, session)
        else
          (.ok true, session.withResponses (ResponseTable.putAnswer
            (ResponseTable.putAnswer table assignmentId sourceId move.source session.services.now)
            assignmentId targetId move.target session.services.now)) := by
  simp only [moveFileBetween, perform_bind, perform_assignment]
  cases session.state.assignment? assignmentId with
  | none => rfl
  | some _ =>
    dsimp only
    by_cases same : (sourceId == targetId) = true
    · simp only [same, if_true, Bool.true_or]
      rfl
    · simp only [same, Bool.false_eq_true, if_false, Bool.false_or, perform_bind, perform_state]
      split
      · rfl
      · rfl

/-! ## The intake -/

theorem perform_rehydrateIntake (catalog : Catalog) (session : Session) :
    (rehydrateIntake catalog).perform session =
      if session.state.hasHydratedIntake catalog then (.ok false, session)
      else
        let intake := intakeTemplate catalog session.services.now
        let replaced := { session with state := session.state.replaceIntake intake }
        let issued := Assignment.issue (session.services.nextId "assign") intakeTemplateId
          intake.activeVersion intake.title session.services.now
        (.ok true, (replaced.minting 1).addAssignment issued) := by
  simp only [rehydrateIntake, perform_bind, perform_state]
  split
  · rfl
  · rfl

end Action

end Questionnaire
