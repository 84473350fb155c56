import Questionnaire.Document.Node
import Questionnaire.Form.Catalog
import Questionnaire.Form.Projection
import Questionnaire.Json.Fields

/-!
# The flat intake form in documents

How the answers of the form and the record of an intake are written as JSON, and read back, and how
a catalog of steps is read. A value of the form is read as the first shape that fits, in the order
text, list and grid.
-/

namespace Questionnaire

open Json (member ofMembers)

namespace FormValue

/-- A value, in its own shape. -/
def toJson : FormValue → Json
  | text value => .text value
  | list items => .ofTexts items
  | record entries => .ofKeyMap .text entries

/-- The first shape that fits the tree. -/
def shapeOf? (tree : Json) : Option FormValue :=
  tree.asText?.map text <|> (tree.asList? Json.asText?).map list <|>
    (tree.asKeyMap? Json.asText?).map record

/-- Reads a value, which has to be readable as a whole. -/
def ofJson? (tree : Json) : Option FormValue := do
  let _ ← tree.canonical?
  shapeOf? tree

end FormValue

/-- The answers by field. -/
def FormAnswers.toJson (answers : FormAnswers) : Json := .ofKeyMap FormValue.toJson answers

/-- Reads the answers by field. -/
def FormAnswers.ofJson? : Json → Option FormAnswers := Json.asKeyMap? FormValue.ofJson?

/-- The record of a mark on a field. -/
def FieldFlag.toJson (flag : FieldFlag) : Json :=
  ofMembers
    [member "flagged" (.bool flag.flagged), member "note" (.text flag.note),
      member "resolved" (.bool flag.resolved)]

/-- Reads the record of a mark on a field. -/
def FieldFlag.ofJson? (tree : Json) : Option FieldFlag := do
  let fields ← tree.fields? ["flagged", "note", "resolved"]
  return {
    flagged := ← fields.required "flagged" Json.asBool?
    note := ← fields.required "note" Json.asText?
    resolved := ← fields.required "resolved" Json.asBool? }

/-- The record of an intake. -/
def IntakeState.toJson (state : IntakeState) : Json :=
  ofMembers
    [member "answers" (FormAnswers.toJson state.answers),
      member "uploads" (.ofKeyMap Json.ofTexts state.uploads),
      member "flags" (.ofKeyMap FieldFlag.toJson state.flags)]

/-- Reads the record of an intake. -/
def IntakeState.ofJson? (tree : Json) : Option IntakeState := do
  let fields ← tree.fields? ["answers", "uploads", "flags"]
  return {
    answers := ← fields.required "answers" FormAnswers.ofJson?
    uploads := ← fields.required "uploads" (Json.asKeyMap? (Json.asList? Json.asText?))
    flags := ← fields.required "flags" (Json.asKeyMap? FieldFlag.ofJson?) }

/-- Reads a pair of texts. -/
def textPair? : Json → Option (String × String)
  | .list [.text first, .text second] => some (first, second)
  | _ => none

mutual

/-- Reads a predicate: an object whose only member names its form. -/
def Gate.ofJson? : Json → Option Gate
  | .object [("equals", pair)] => (textPair? pair).map fun (field, text) => .equals field text
  | .object [("contains", pair)] => (textPair? pair).map fun (field, item) => .contains field item
  | .object [("present", .text field)] => some (.present field)
  | .object [("not", tree)] => (Gate.ofJson? tree).map .not
  | .object [("any", .list trees)] => (Gate.ofItems? trees).map .any
  | .object [("all", .list trees)] => (Gate.ofItems? trees).map .all
  | _ => none

/-- Reads a list of predicates. -/
def Gate.ofItems? : List Json → Option (List Gate)
  | [] => some []
  | tree :: rest => do
    let gate ← Gate.ofJson? tree
    let gates ← Gate.ofItems? rest
    return gate :: gates

end

/-- Reads an option of a field, a pair of its value and its label. -/
def FormField.optionOfJson? (tree : Json) : Option Choice :=
  (textPair? tree).map fun (id, label) => { id, label }

/-- The predicate that an optional gate stands for. -/
def Gate.toPredicate (gate : Option Gate) (answers : FormAnswers) : Bool :=
  gate.all fun gate => gate.holds answers

/-- Reads a field of a step. -/
def FormField.ofJson? (tree : Json) : Option FormField := do
  let fields ← tree.fields?
    ["id", "kind", "label", "required", "helper", "placeholder", "whyWeAsk", "options", "rows",
      "columns", "showIf"]
  let choices := Json.asList? Choice.ofJson?
  return {
    id := ← fields.required "id" Json.asText?
    kind := ← fields.required "kind" (Json.asOneOf? FieldKind.all FieldKind.name)
    label := ← fields.required "label" Json.asText?
    required := ← fields.withDefault "required" false Json.asBool?
    helper := ← fields.optional "helper" Json.asText?
    placeholder := ← fields.optional "placeholder" Json.asText?
    whyWeAsk := ← fields.optional "whyWeAsk" Json.asText?
    options := ← fields.withDefault "options" [] (Json.asList? FormField.optionOfJson?)
    rows := ← fields.withDefault "rows" [] choices
    columns := ← fields.withDefault "columns" [] choices
    isShown := Gate.toPredicate (← fields.optional "showIf" Gate.ofJson?) }

/-- Reads a step. -/
def FormStep.ofJson? (tree : Json) : Option FormStep := do
  let fields ← tree.fields? ["id", "title", "description", "fields", "showIf"]
  return {
    id := ← fields.required "id" Json.asText?
    title := ← fields.required "title" Json.asText?
    description := ← fields.optional "description" Json.asText?
    fields := ← fields.withDefault "fields" [] (Json.asList? FormField.ofJson?)
    isShown := Gate.toPredicate (← fields.optional "showIf" Gate.ofJson?) }

/-- Reads a catalog; `null` is the catalog without steps. -/
def Catalog.ofJson? (tree : Json) : Option Catalog :=
  (Json.asOption? (Json.asList? FormStep.ofJson?) tree).map fun catalog => catalog.getD []

end Questionnaire
