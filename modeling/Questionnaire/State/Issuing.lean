import Questionnaire.Assignment.Coverage
import Questionnaire.State.Action

/-!
# Issuing of assignments

An assignment is issued from the active version of a template, and afterwards only its stage and its
place in listings change. A stage is recorded when it ranks above the one recorded before; each such
move is reported.
-/

namespace Questionnaire

/-- The assignments that are not archived. -/
def State.activeAssignments (state : State) : List Assignment :=
  state.assignments.filter fun assignment => !assignment.archived

namespace Action

/-- Issues the active version of a template under a title, or else the title of the template; a
blank title and a blank due day count as none. -/
def assignTemplate (templateId : String) (title dueAt : Option String) : Action Assignment := do
  let template ← template templateId
  let title := (trimmed? title).getD template.title
  let id ← mint "assign"
  let issued := Assignment.issue id templateId template.activeVersion title (← now)
  let assignment := { issued with dueAt := trimmed? dueAt }
  modifyState fun state => { state with assignments := assignment :: state.assignments }
  emit (.assignmentCreated id templateId template.activeVersion)
  return assignment

/-- Moves an assignment to a stage of the same or a higher rank, and gives the stage before. -/
def setStage (id : String) (stage : Stage) : Action Stage := do
  let assignment ← assignment id
  let current := assignment.stage
  match current.checkMove stage with
  | .error move => throw (.downgrade move)
  | .ok () =>
    if current ≠ stage then
      setAssignment { assignment with recordedStage := some stage }
      emit (.stageChanged id current stage)
    return current

/-- Moves an assignment to the stage that a status of the intake form stands for, unless it is
further already, and gives the stage after. -/
def updateStatus (id : String) (status : FormStatus) : Action Stage := do
  let assignment ← assignment id
  let stage := status.toStage.max assignment.stage
  let _ ← setStage id stage
  return stage

/-- Hides an assignment from listings. -/
def archiveAssignment (id : String) : Action Unit := do
  let assignment ← assignment id
  setAssignment { assignment with archived := true }

/-- The progress of an assignment. -/
def assignmentProgress (catalog : Catalog) (id : String) : Action Progress := do
  let assignment ← assignment id
  let state ← state
  return assignment.progress (state.templateOf? assignment) state.responses catalog

/-- The coverage of the filing labels by an assignment. -/
def assignmentCoverage (catalog : Catalog) (id : String) : Action (List LabelCoverage) := do
  let assignment ← assignment id
  let state ← state
  return coverage (state.templateOf? assignment) (some assignment) state.responses catalog

/-- Moves an assignment to the stage that follows from its progress, and gives the progress. -/
def refreshStage (catalog : Catalog) (id : String) : Action Progress := do
  let progress ← assignmentProgress catalog id
  let _ ← setStage id progress.stage
  return progress

end Action

end Questionnaire
