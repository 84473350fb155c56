import Questionnaire.Proofs.State.Performing
import Questionnaire.Proofs.Template.History

/-!
# Runs of operations

The operations on the state as data, each with the action that it stands for, and runs of them, in
which every operation has a time of its own. `Session.Effect` lists all that an operation can do to
a session; what holds along every run is proved from this list and not from the operations.
-/

namespace Questionnaire

/-- An operation on templates. -/
inductive TemplateOperation where
  | create (title : String) (description : Option String)
  | duplicate (id : String)
  | cloneForEdit (id : String)
  | archive (id : String)
  | remove (id : String)
  | updateGraph (id : String) (graph : Graph)
  | activate (id : String) (version : UInt32)
  | publish (nodeLimit : Nat) (id : String) (publisher : Option Publisher) (notes : Option String)

/-- An operation on assignments. -/
inductive AssignmentOperation where
  | assign (templateId : String) (title dueAt : Option String)
  | setStage (id : String) (stage : Stage)
  | updateStatus (id : String) (status : FormStatus)
  | refreshStage (catalog : Catalog) (id : String)
  | archive (id : String)

/-- An operation on responses. -/
inductive ResponseOperation where
  | recordAnswer (assignmentId nodeId : String) (answer : Answer)
  | skipNode (assignmentId nodeId reason : String) (actor : SkipActor)
  | attachFiles (assignmentId nodeId : String) (files : List UploadedFile)
  | detachFiles (assignmentId nodeId : String) (fileIds : List String)
  | moveFile (assignmentId sourceId targetId fileId : String)
  | clear (assignmentId : String)

/-- An operation on the state. -/
inductive Operation where
  | template (operation : TemplateOperation)
  | assignment (operation : AssignmentOperation)
  | response (operation : ResponseOperation)
  | rehydrateIntake (catalog : Catalog)

/-- The action that an operation stands for, without its result. -/
def TemplateOperation.action : TemplateOperation → Action Unit
  | create title description => discard (Action.createTemplate title description)
  | duplicate id => discard (Action.duplicateTemplate id)
  | cloneForEdit id => discard (Action.cloneForEdit id)
  | archive id => discard (Action.archiveTemplate id)
  | remove id => discard (Action.removeTemplate id)
  | updateGraph id graph => discard (Action.updateGraph id graph)
  | activate id version => Action.activateVersion id version
  | publish nodeLimit id publisher notes =>
    discard (Action.publishVersion nodeLimit id publisher notes)

/-- The action that an operation stands for, without its result. -/
def AssignmentOperation.action : AssignmentOperation → Action Unit
  | assign templateId title dueAt => discard (Action.assignTemplate templateId title dueAt)
  | setStage id stage => discard (Action.setStage id stage)
  | updateStatus id status => discard (Action.updateStatus id status)
  | refreshStage catalog id => discard (Action.refreshStage catalog id)
  | archive id => Action.archiveAssignment id

/-- The action that an operation stands for, without its result. -/
def ResponseOperation.action : ResponseOperation → Action Unit
  | recordAnswer assignmentId nodeId answer => Action.recordAnswer assignmentId nodeId answer
  | skipNode assignmentId nodeId reason actor => Action.skipNode assignmentId nodeId reason actor
  | attachFiles assignmentId nodeId files => Action.attachFiles assignmentId nodeId files
  | detachFiles assignmentId nodeId fileIds => Action.detachFiles assignmentId nodeId fileIds
  | moveFile assignmentId sourceId targetId fileId =>
    discard (Action.moveFileBetween assignmentId sourceId targetId fileId)
  | clear assignmentId => discard (Action.clearResponses assignmentId)

/-- The action that an operation stands for, without its result. -/
def Operation.action : Operation → Action Unit
  | template operation => operation.action
  | assignment operation => operation.action
  | response operation => operation.action
  | rehydrateIntake catalog => discard (Action.rehydrateIntake catalog)

/-- The session after an operation, refused or not. -/
def Operation.perform (operation : Operation) (session : Session) : Session :=
  (operation.action.perform session).2

namespace Session

/-- The session at another time. -/
def atTime (session : Session) (moment : Timestamp) : Session :=
  { session with services := { session.services with now := moment } }

/-- The session after a list of operations, each at a time of its own. -/
def run (session : Session) (steps : List (Timestamp × Operation)) : Session :=
  steps.foldl (fun session step => step.2.perform (session.atTime step.1)) session

@[simp] theorem run_nil (session : Session) : session.run [] = session := rfl

@[simp] theorem run_cons (session : Session) (step : Timestamp × Operation)
    (steps : List (Timestamp × Operation)) :
    session.run (step :: steps) = (step.2.perform (session.atTime step.1)).run steps := rfl

/-- The session after events were reported. -/
def reportingAll (session : Session) (events : List Event) : Session :=
  { session with services :=
      { session.services with events := session.services.events ++ events } }

@[simp] theorem reportingAll_nil (session : Session) : session.reportingAll [] = session := by
  simp only [reportingAll, List.append_nil]

/-- All that an operation can do to a session. -/
inductive Effect (before : Session) : Operation → Session → Prop where
  /-- Nothing, as when the operation is refused. -/
  | unchanged (operation : Operation) : Effect before operation before
  /-- A template with a new id is put in front: a first draft, or a copy with the same history. -/
  | templateAdded (operation : TemplateOperation) (template : Template) (earlier : Nat)
      (id : template.id = (before.minting earlier).services.nextId "qtpl")
      (history : (∃ graph, template.versions = [.draft 1 graph] ∧ template.activeVersion = 1) ∨
        ∃ source ∈ before.state.templates, template.versions = source.versions ∧
          template.activeVersion = source.activeVersion) :
      Effect before (.template operation) ((before.minting (earlier + 1)).addTemplate template)
  /-- A template is hidden from listings. -/
  | templateArchived (operation : TemplateOperation) (id : String) (template : Template)
      (found : before.state.template? id = some template) :
      Effect before (.template operation) (before.withTemplate
        { template with archived := true, updatedAt := before.services.now })
  /-- The history of a template takes a step: an edit of the graph given, a publication of a graph
  without defects, or an activation. -/
  | templateStepped (operation : TemplateOperation) (id : String) (template revised : Template)
      (found : before.state.template? id = some template) (sameId : revised.id = template.id)
      (step : HistoryStep) (versions : revised.versions = (step.apply template).versions)
      (active : revised.activeVersion = (step.apply template).activeVersion)
      (edit : ∀ graph now, step = .edit graph now →
        ∃ given, graph = given.normalizeOrder ∧ operation = .updateGraph id given)
      (publication : ∀ publisher notes now, step = .publish publisher notes now →
        ∃ nodeLimit graph, template.activeGraph? = some graph ∧
          (graph.check nodeLimit).isValid = true)
      (events : List Event)
      (reported : ∀ event ∈ events, ∃ version, event = .templatePublished id version) :
      Effect before (.template operation) ((before.withTemplate revised).reportingAll events)
  /-- The templates with an id that was never issued are deleted. -/
  | templateDeleted (id : String)
      (unissued : ∀ assignment ∈ before.state.assignments, assignment.templateId ≠ id) :
      Effect before (.template (.remove id))
        { before with
          state :=
            { before.state with
              templates := before.state.templates.filter fun template => template.id != id } }
  /-- The active version of a template is issued. -/
  | assignmentIssued (operation : AssignmentOperation) (templateId : String) (template : Template)
      (found : before.state.template? templateId = some template) (assignment : Assignment)
      (id : assignment.id = before.services.nextId "assign")
      (issuedFrom : assignment.templateId = templateId)
      (pinned : assignment.templateVersion = template.activeVersion)
      (stage : assignment.recordedStage = some .assigned) :
      Effect before (.assignment operation) ((before.minting 1).addAssignment assignment)
  /-- An assignment is hidden, or moves to a stage of a higher rank, which is reported. -/
  | assignmentRevised (operation : AssignmentOperation) (id : String)
      (assignment revised : Assignment) (found : before.state.assignment? id = some assignment)
      (sameId : revised.id = assignment.id) (issuedFrom : revised.templateId = assignment.templateId)
      (pinned : revised.templateVersion = assignment.templateVersion) (events : List Event)
      (moved : (revised.recordedStage = assignment.recordedStage ∧ events = []) ∨
        (assignment.stage.rank < revised.stage.rank ∧
          events = [.stageChanged id assignment.stage revised.stage])) :
      Effect before (.assignment operation) ((before.withAssignment revised).reportingAll events)
  /-- Responses of one assignment that is there are written, or those of any are cleared. -/
  | responsesWritten (operation : ResponseOperation) (responses : ResponseTable)
      (owned : ∀ response ∈ responses, response ∈ before.state.responses ∨
        (before.state.assignment? response.assignmentId).isSome = true) :
      Effect before (.response operation) (before.withResponses responses)
  /-- The intake is replaced and issued again. -/
  | intakeReplaced (catalog : Catalog) (assignment : Assignment)
      (unhydrated : before.state.hasHydratedIntake catalog = false)
      (id : assignment.id = before.services.nextId "assign")
      (issuedFrom : assignment.templateId = intakeTemplateId)
      (pinned : assignment.templateVersion = 1)
      (stage : assignment.recordedStage = some .assigned) :
      Effect before (.rehydrateIntake catalog)
        ((({ before with
            state := before.state.replaceIntake (intakeTemplate catalog before.services.now) } :
              Session).minting 1).addAssignment assignment)

end Session

namespace Action

/-- Dropping the result of an action does not change what it does. -/
theorem perform_discard {α : Type} (action : Action α) (session : Session) :
    ((discard action).perform session).2 = (action.perform session).2 := by
  change ((Functor.mapConst () action : Action Unit).perform session).2 = _
  simp only [perform, ExceptT.run, Functor.mapConst, Function.comp, ExceptT.map, ExceptT.mk, bind,
    StateT.bind]
  cases action session with
  | mk outcome after => cases outcome <;> rfl

end Action

open Questionnaire.Action

/-- A copy of a template has the history of the template. -/
theorem duplicateTemplate_effect (operation : TemplateOperation) (id : String)
    (session : Session) :
    Session.Effect session (.template operation) ((duplicateTemplate id).perform session).2 := by
  rw [perform_duplicateTemplate]
  cases found : session.state.template? id with
  | none => exact .unchanged _
  | some source =>
    have member : source ∈ session.state.templates := List.mem_of_find?_eq_some found
    exact .templateAdded operation _ 0 rfl (.inr ⟨source, member, rfl, rfl⟩)

theorem TemplateOperation.effect (operation : TemplateOperation) (session : Session) :
    Session.Effect session (.template operation) (operation.action.perform session).2 := by
  cases operation with
  | create title description =>
    rw [action, perform_discard, perform_createTemplate]
    split
    · exact .unchanged _
    · exact .templateAdded _ _ 4 rfl (.inl ⟨_, rfl, rfl⟩)
  | duplicate id =>
    rw [action, perform_discard]
    exact duplicateTemplate_effect _ id session
  | cloneForEdit id =>
    rw [action, perform_discard, perform_cloneForEdit]
    cases session.state.template? id with
    | none => exact .unchanged _
    | some source =>
      dsimp only
      split
      · exact duplicateTemplate_effect _ id session
      · exact .unchanged _
  | archive id =>
    rw [action, perform_discard, perform_archiveTemplate]
    cases found : session.state.template? id with
    | none => exact .unchanged _
    | some template =>
      dsimp only
      split
      · exact .unchanged _
      · exact .templateArchived _ id template found
  | remove id =>
    rw [action, perform_discard, perform_removeTemplate]
    cases found : session.state.template? id with
    | none => exact .unchanged _
    | some template =>
      dsimp only
      split
      · exact .unchanged _
      · split
        · exact .templateArchived _ id template found
        · rename_i unissued
          refine .templateDeleted id ?_
          intro assignment member same
          exact unissued (List.any_eq_true.2 ⟨assignment, member, beq_iff_eq.2 same⟩)
  | updateGraph id given =>
    rw [action, perform_discard, perform_updateGraph]
    cases found : session.state.template? id with
    | none => exact .unchanged _
    | some template =>
      dsimp only
      cases made : template.editGraph? given.normalizeOrder session.services.now with
      | none => exact .unchanged _
      | some outcome =>
        obtain ⟨edit, edited⟩ := outcome
        have applied := HistoryStep.apply_edit made
        have stepped := Session.Effect.templateStepped (.updateGraph id given) id template edited
          found (Template.id_of_editGraph? made)
          (.edit given.normalizeOrder session.services.now) (by rw [applied]) (by rw [applied])
          (by
            rintro graph now ⟨⟩
            exact ⟨given, rfl, rfl⟩)
          (by rintro publisher notes now ⟨⟩) [] (by simp)
        rwa [Session.reportingAll_nil] at stepped
  | activate id version =>
    rw [action, perform_activateVersion]
    cases found : session.state.template? id with
    | none => exact .unchanged _
    | some template =>
      dsimp only
      split
      · rename_i resolves
        have stepped := Session.Effect.templateStepped (.activate id version) id template
          { template with activeVersion := version, updatedAt := session.services.now } found rfl
          (.activate version)
          (by rw [HistoryStep.apply_activate resolves])
          (by rw [HistoryStep.apply_activate resolves])
          (by rintro graph now ⟨⟩) (by rintro publisher notes now ⟨⟩) [] (by simp)
        rwa [Session.reportingAll_nil] at stepped
      · exact .unchanged _
  | publish nodeLimit id publisher notes =>
    rw [action, perform_discard, perform_publishVersion]
    cases found : session.state.template? id with
    | none => exact .unchanged _
    | some template =>
      dsimp only
      cases resolved : template.activeGraph? with
      | none => exact .unchanged _
      | some graph =>
        dsimp only
        split
        · rename_i valid
          cases next : template.nextNumber? with
          | none => exact .unchanged _
          | some number =>
            have applied := HistoryStep.apply_publish resolved next (publisher.getD .attorney)
              (trimmed? notes) session.services.now
            dsimp only
            rw [← applied]
            refine .templateStepped _ id template _ found (by rw [applied]; rfl) _ rfl rfl
              (by rintro graph now ⟨⟩) ?_ [.templatePublished id number] ?_
            · intro _ _ _ _
              exact ⟨nodeLimit, graph, resolved, valid⟩
            · intro event member
              exact ⟨number, List.mem_singleton.1 member⟩
        · exact .unchanged _

/-- Moving an assignment to another stage reports the move. -/
theorem setStage_effect (operation : AssignmentOperation) (id : String) (stage : Stage)
    (session : Session) :
    Session.Effect session (.assignment operation) ((setStage id stage).perform session).2 := by
  rw [perform_setStage]
  cases found : session.state.assignment? id with
  | none => exact .unchanged _
  | some assignment =>
    dsimp only
    split
    · rename_i forward
      split
      · exact .unchanged _
      · rename_i apart
        have higher : assignment.stage.rank < stage.rank := by
          refine Nat.lt_of_le_of_ne forward ?_
          intro same
          exact apart (Stage.rank_injective same)
        exact .assignmentRevised operation id assignment
          { assignment with recordedStage := some stage } found rfl rfl rfl
          [.stageChanged id assignment.stage stage] (.inr ⟨higher, rfl⟩)
    · exact .unchanged _

theorem AssignmentOperation.effect (operation : AssignmentOperation) (session : Session) :
    Session.Effect session (.assignment operation) (operation.action.perform session).2 := by
  cases operation with
  | assign templateId title dueAt =>
    rw [action, perform_discard, perform_assignTemplate]
    cases found : session.state.template? templateId with
    | none => exact .unchanged _
    | some template => exact .assignmentIssued _ templateId template found _ rfl rfl rfl rfl
  | setStage id stage =>
    rw [action, perform_discard]
    exact setStage_effect _ id stage session
  | updateStatus id status =>
    rw [action, perform_discard, perform_updateStatus]
    cases session.state.assignment? id with
    | none => exact .unchanged _
    | some assignment =>
      have moved := setStage_effect (.updateStatus id status) id
        (status.toStage.max assignment.stage) session
      dsimp only
      split <;> rename_i performed <;> rwa [performed] at moved
  | refreshStage catalog id =>
    rw [action, perform_discard, perform_refreshStage]
    cases session.state.assignment? id with
    | none => exact .unchanged _
    | some assignment =>
      have moved := setStage_effect (.refreshStage catalog id) id
        (assignment.progress (session.state.templateOf? assignment) session.state.responses
          catalog).stage session
      dsimp only
      split <;> rename_i performed <;> rwa [performed] at moved
  | archive id =>
    rw [action, perform_archiveAssignment]
    cases found : session.state.assignment? id with
    | none => exact .unchanged _
    | some assignment =>
      have revised := Session.Effect.assignmentRevised (.archive id) id assignment
        { assignment with archived := true } found rfl rfl rfl [] (.inl ⟨rfl, rfl⟩)
      rwa [Session.reportingAll_nil] at revised

namespace ResponseTable

theorem mem_put {response other : Response} {table : ResponseTable}
    (member : other ∈ put response table) : other = response ∨ other ∈ table := by
  induction table with
  | nil => exact .inl (List.mem_singleton.1 member)
  | cons first rest inductionHypothesis =>
    rw [put] at member
    split at member
    · rcases List.mem_cons.1 member with same | inside
      · exact .inl same
      · exact .inr (List.mem_cons_of_mem _ inside)
    · rcases List.mem_cons.1 member with same | inside
      · exact .inr (same ▸ List.mem_cons_self)
      · exact (inductionHypothesis inside).imp_right (List.mem_cons_of_mem _)

/-- A written answer belongs to the assignment that it was written for. -/
theorem mem_putAnswer {table : ResponseTable} {assignmentId nodeId : String}
    {answer : Option Answer} {now : Timestamp} {response : Response}
    (member : response ∈ putAnswer table assignmentId nodeId answer now) :
    response ∈ table ∨ response.assignmentId = assignmentId := by
  unfold putAnswer at member
  cases found : find? table assignmentId nodeId with
  | some earlier =>
    rw [found] at member
    rcases mem_put member with same | inside
    · right
      have own := List.find?_some found
      simp only [Response.isOf, Bool.and_eq_true, beq_iff_eq] at own
      rw [same]
      exact own.1
    · exact .inl inside
  | none =>
    rw [found] at member
    cases answer with
    | some answer =>
      rcases mem_put member with same | inside
      · exact .inr (same ▸ rfl)
      · exact .inl inside
    | none => exact .inl member

end ResponseTable

open ResponseTable

/-- Another answer to a node belongs to an assignment that is there. -/
theorem modifyAnswer_effect (operation : ResponseOperation) (assignmentId nodeId : String)
    (change : Option Answer → Option Answer) (session : Session) :
    Session.Effect session (.response operation)
      ((modifyAnswer assignmentId nodeId change).perform session).2 := by
  rw [perform_modifyAnswer]
  cases found : session.state.assignment? assignmentId with
  | none => exact .unchanged _
  | some assignment =>
    refine .responsesWritten operation _ ?_
    intro response member
    refine (mem_putAnswer member).imp_right ?_
    intro own
    rw [own, found]
    rfl

theorem ResponseOperation.effect (operation : ResponseOperation) (session : Session) :
    Session.Effect session (.response operation) (operation.action.perform session).2 := by
  cases operation with
  | recordAnswer assignmentId nodeId answer =>
    rw [action, perform_recordAnswer]
    cases found : session.state.assignment? assignmentId with
    | none => exact .unchanged _
    | some assignment =>
      refine .responsesWritten _ _ ?_
      intro response member
      rcases mem_put member with same | inside
      · exact .inr (by rw [same, Response.answered, found]; rfl)
      · exact .inl inside
  | skipNode assignmentId nodeId reason actor =>
    rw [action, perform_skipNode]
    cases found : session.state.assignment? assignmentId with
    | none => exact .unchanged _
    | some assignment =>
      refine .responsesWritten _ _ ?_
      intro response member
      rcases mem_put member with same | inside
      · exact .inr (by rw [same, Response.skipped, found]; rfl)
      · exact .inl inside
  | attachFiles assignmentId nodeId files =>
    rw [action, Action.attachFiles]
    exact modifyAnswer_effect _ assignmentId nodeId _ session
  | detachFiles assignmentId nodeId fileIds =>
    rw [action, Action.detachFiles]
    exact modifyAnswer_effect _ assignmentId nodeId _ session
  | moveFile assignmentId sourceId targetId fileId =>
    rw [action, perform_discard, perform_moveFileBetween]
    cases found : session.state.assignment? assignmentId with
    | none => exact .unchanged _
    | some assignment =>
      dsimp only
      split
      · exact .unchanged _
      · refine .responsesWritten _ _ ?_
        intro response member
        have owned (own : response.assignmentId = assignmentId) :
            (session.state.assignment? response.assignmentId).isSome = true := by
          rw [own, found]
          rfl
        rcases mem_putAnswer member with inside | own
        · exact (mem_putAnswer inside).imp_right owned
        · exact .inr (owned own)
  | clear assignmentId =>
    rw [action, perform_discard, perform_clearResponses]
    refine .responsesWritten _ _ ?_
    intro response member
    exact .inl (List.mem_filter.1 member).1

/-- Every operation has one of the effects. -/
theorem Operation.effect (operation : Operation) (session : Session) :
    Session.Effect session operation (operation.perform session) := by
  cases operation with
  | template operation => exact operation.effect session
  | assignment operation => exact operation.effect session
  | response operation => exact operation.effect session
  | rehydrateIntake catalog =>
    rw [perform, action, perform_discard, perform_rehydrateIntake]
    split
    · exact .unchanged _
    · rename_i unhydrated
      exact .intakeReplaced catalog _ (Bool.eq_false_iff.2 unhydrated) rfl rfl rfl rfl

end Questionnaire
