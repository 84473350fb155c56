import Questionnaire.Response.Files
import Questionnaire.Response.Table
import Questionnaire.State.Action

/-!
# Answering

Answers, skips and files are written for one node of an assignment, and the last write counts. An
assignment has to exist for its responses to be written; the nodes are not checked.
-/

namespace Questionnaire

namespace Action

/-- Changes the responses of all assignments. -/
def modifyResponses (change : ResponseTable → ResponseTable) : Action Unit :=
  modifyState fun state => { state with responses := change state.responses }

/-- Puts a response in place of the one of its assignment and node, without any check. -/
def upsertResponse (response : Response) : Action Unit :=
  modifyResponses (ResponseTable.put response)

/-- Writes an answer, which undoes a skip. -/
def recordAnswer (assignmentId nodeId : String) (answer : Answer) : Action Unit := do
  let _ ← assignment assignmentId
  upsertResponse (.answered assignmentId nodeId answer (← now))

/-- Writes that a node was skipped, which undoes an answer. -/
def skipNode (assignmentId nodeId reason : String) (actor : SkipActor) : Action Unit := do
  let _ ← assignment assignmentId
  let now ← now
  let skip := { reason := trim reason, actor, moment := now }
  upsertResponse (.skipped assignmentId nodeId skip now)

/-- Drops all responses of an assignment, and tells how many there were. -/
def clearResponses (assignmentId : String) : Action Nat := do
  let dropped := (← state).responses.countP fun response => response.assignmentId == assignmentId
  modifyResponses fun table => ResponseTable.clear table assignmentId
  return dropped

/-- Gives an assignment another answer to a node, depending on the one before. -/
def modifyAnswer (assignmentId nodeId : String) (change : Option Answer → Option Answer) :
    Action Unit := do
  let _ ← assignment assignmentId
  let now ← now
  modifyResponses fun table =>
    let answer := change (ResponseTable.answer? table assignmentId nodeId)
    ResponseTable.putAnswer table assignmentId nodeId answer now

/-- Adds files to the answer to a node. -/
def attachFiles (assignmentId nodeId : String) (files : List UploadedFile) : Action Unit :=
  modifyAnswer assignmentId nodeId fun answer => some (appendFiles answer files)

/-- Removes the files of these ids from the answer to a node. -/
def detachFiles (assignmentId nodeId : String) (fileIds : List String) : Action Unit :=
  modifyAnswer assignmentId nodeId fun answer => removeFiles answer fileIds

/-- Moves a file from one node of an assignment to another, and tells whether it was there. -/
def moveFileBetween (assignmentId sourceId targetId fileId : String) : Action Bool := do
  let _ ← assignment assignmentId
  if sourceId == targetId then return false
  let table := (← state).responses
  let move :=
    moveFile (ResponseTable.answer? table assignmentId sourceId)
      (ResponseTable.answer? table assignmentId targetId) fileId
  if move.moved.isNone then return false
  let now ← now
  modifyResponses fun table =>
    let table := ResponseTable.putAnswer table assignmentId sourceId move.source now
    ResponseTable.putAnswer table assignmentId targetId move.target now
  return true

end Action

end Questionnaire
