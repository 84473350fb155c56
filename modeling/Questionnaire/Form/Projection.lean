import Questionnaire.Form.Answers
import Questionnaire.Graph.Basic
import Questionnaire.Numeric.Style
import Questionnaire.Response.Basic

/-!
# Responses as answers of the flat intake form

Nodes that stand for a field of the form carry their responses over to it.
`FormAnswers.ofResponses` gives the answers that the gates of the form see, where a skipped node
counts as answered with empty text. `IntakeState.ofResponses` gives the form's own record of an
intake, in which uploads and skips stand apart from answers. Of several nodes that stand for one
field, the last one with something to say counts.
-/

namespace Questionnaire

/-- A number in an answer of the form is written in full, without a fraction if it is whole; a tie
goes to the greater digit. -/
def formNumberStyle : NumberStyle where
  tie := .up
  writtenOut := fun _ => true
  showsFraction := false

/-- An answer as the value of a field: truth values become words, numbers text, files the list of
their names, and blank entries of a grid are left out. -/
def Answer.toFormValue : Answer → FormValue
  | text value => .text value
  | list items => .list items
  | bool true => .text "Yes"
  | bool false => .text "No"
  | number value => .text (formNumberStyle.render value)
  | files uploads => .list (uploads.map UploadedFile.name)
  | record entries => .record (entries.filterValues fun value => !isBlankText value)

/-- The value that a response gives to the field of its node. -/
def Response.formValue? (response : Response) : Option FormValue :=
  if response.skip.isSome then some (.text "") else response.answer.map Answer.toFormValue

/-- The answers with what one node contributes. -/
def FormAnswers.addNode (responses : ResponseIndex) (answers : FormAnswers) (node : Node) :
    FormAnswers :=
  match node.formFieldId, (responses.get? node.id).bind Response.formValue? with
  | some fieldId, some value => answers.insert fieldId value
  | _, _ => answers

/-- The answers of the form that the responses to a graph amount to. -/
def FormAnswers.ofResponses (graph : Graph) (responses : ResponseIndex) : FormAnswers :=
  graph.nodes.foldl (FormAnswers.addNode responses) KeyMap.empty

/-- The mark on a field of the form that it cannot be answered now. -/
structure FieldFlag where
  /-- Whether the mark is set. -/
  flagged : Bool
  /-- Why the field cannot be answered. -/
  note : String
  /-- Whether the mark has been dealt with. -/
  resolved : Bool
deriving DecidableEq, Repr

/-- The form's own record of an intake. -/
structure IntakeState where
  /-- The answers by field. -/
  answers : FormAnswers := KeyMap.empty
  /-- The names of uploaded files by field. -/
  uploads : KeyMap (List String) := KeyMap.empty
  /-- The marks by field. -/
  flags : KeyMap FieldFlag := KeyMap.empty
deriving DecidableEq, Repr

namespace IntakeState

/-- The record with what a response contributes to a field. -/
def addResponse (state : IntakeState) (fieldId : String) (response : Response) : IntakeState :=
  match response.skip, response.answer with
  | some skip, _ =>
    let flag := { flagged := true, note := skip.reason, resolved := false }
    { state with flags := state.flags.insert fieldId flag }
  | none, none => state
  | none, some (.files uploads) =>
    let names := (uploads.map UploadedFile.name).filter fun name => !name.isEmpty
    if names.isEmpty then state
    else { state with uploads := state.uploads.insert fieldId names }
  | none, some answer =>
    { state with answers := state.answers.insert fieldId answer.toFormValue }

/-- The record with what one node contributes. -/
def addNode (responses : ResponseIndex) (state : IntakeState) (node : Node) : IntakeState :=
  match node.formFieldId, responses.get? node.id with
  | some fieldId, some response => state.addResponse fieldId response
  | _, _ => state

/-- The record of an intake that the responses to a graph amount to. -/
def ofResponses (graph : Graph) (responses : List Response) : IntakeState :=
  graph.nodes.foldl (addNode (ResponseIndex.ofList responses)) {}

end IntakeState

end Questionnaire
