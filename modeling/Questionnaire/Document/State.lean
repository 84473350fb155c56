import Questionnaire.Document.Response
import Questionnaire.Document.Template
import Questionnaire.Json.Text
import Questionnaire.State.Basic

/-!
# The stored document

The state is stored as one JSON document. Reading is forgiving towards single entries and strict
towards the whole: templates, assignments and responses that cannot be read are dropped one by one,
and a document that is no record, is of another schema, or has no readable template is refused as
stale.
-/

namespace Questionnaire

open Json (member memberIfSome ofMembers)

/-- Why a stored document is not used as it is. -/
inductive StaleDocument where
  /-- Nothing is stored. -/
  | missing
  /-- The text is not the JSON of a document. -/
  | corrupt
  /-- The document is of another schema, whose number is given if it has one. -/
  | otherSchema (found : Option UInt64)
  /-- No template can be read. -/
  | noTemplates
deriving DecidableEq, Repr

/-- The text of the reason. -/
def StaleDocument.message : StaleDocument → String
  | missing => "no document stored"
  | corrupt => "corrupt document"
  | otherSchema (some found) =>
    "schema version " ++ toString found.toNat ++ " is not " ++ toString schemaVersion.toNat
  | otherSchema none => "schema version missing"
  | noTemplates => "document has no readable templates"

/-- The names of the fields of a document, in order. -/
def State.fieldNames : List String :=
  ["schemaVersion", "templates", "assignments", "responses", "archivedV1"]

/-- The document of a state. -/
def State.toJson (state : State) : Json :=
  ofMembers
    [member "schemaVersion" (.ofUInt32 state.schemaVersion),
      member "templates" (.list (state.templates.map Template.toJson)),
      member "assignments" (.list (state.assignments.map Assignment.toJson)),
      member "responses" (.list (state.responses.map Response.toJson)),
      memberIfSome "archivedV1" id state.archivedV1]

/-- The text of the document of a state. -/
def State.render (state : State) : String :=
  state.toJson.render

/-- Reads a document of any schema, every entry of which has to be readable. -/
def State.ofJson? (tree : Json) : Option State := do
  let fields ← tree.fields? State.fieldNames
  return {
    schemaVersion := ← fields.required "schemaVersion" Json.asUInt32?
    templates := ← fields.required "templates" (Json.asList? Template.ofJson?)
    assignments := ← fields.required "assignments" (Json.asList? Assignment.ofJson?)
    responses := ← fields.required "responses" (Json.asList? Response.ofJson?)
    archivedV1 := ← fields.optional "archivedV1" Json.canonical? }

/-- The parts of a document before their entries are read. -/
structure DocumentParts where
  /-- What stands for the schema, if anything does. -/
  schema : Option Json
  /-- What stands for the templates. -/
  templates : Json
  /-- What stands for the assignments. -/
  assignments : Json
  /-- What stands for the responses. -/
  responses : Json
  /-- The document of the first schema, if it is kept. -/
  archivedV1 : Option Json

/-- The parts of a document; parts that are left out are empty. -/
def DocumentParts.ofJson? (tree : Json) : Option DocumentParts := do
  let fields ← tree.fields? State.fieldNames
  return {
    schema := ← fields.optional "schemaVersion" Json.canonical?
    templates := ← fields.withDefault "templates" .null Json.canonical?
    assignments := ← fields.withDefault "assignments" .null Json.canonical?
    responses := ← fields.withDefault "responses" .null Json.canonical?
    archivedV1 := ← fields.optional "archivedV1" Json.canonical? }

/-- The entries of an array that can be read; anything but an array has none. -/
def readableEntries {α : Type} (read : Json → Option α) : Json → List α
  | .list items => items.filterMap read
  | _ => []

/-- The state of the parts of a document, or the reason why they are stale. -/
def DocumentParts.toState (parts : DocumentParts) : Except StaleDocument State :=
  let found := parts.schema.bind Json.asUInt64?
  if found ≠ some schemaVersion.toUInt64 then .error (.otherSchema found)
  else
    match readableEntries Template.ofJson? parts.templates with
    | [] => .error .noTemplates
    | templates =>
      .ok
        { schemaVersion
          templates
          assignments := readableEntries Assignment.ofJson? parts.assignments
          responses := readableEntries Response.ofJson? parts.responses
          archivedV1 := parts.archivedV1 }

/-- The state of a stored text, or the reason why the text is stale. -/
def readDocument : Option String → Except StaleDocument State
  | none => .error .missing
  | some text =>
    match (Json.parse? text).bind DocumentParts.ofJson? with
    | none => .error .corrupt
    | some parts => parts.toState

end Questionnaire
