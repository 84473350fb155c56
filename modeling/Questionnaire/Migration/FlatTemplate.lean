import Questionnaire.Json.Fields

/-!
# Documents of the first schema

A document of the first schema is a list of flat templates, whose questions are text, longer text or
files. Reading is forgiving: an entry that cannot be read is left out, and a document that cannot be
read at all has no entries.
-/

namespace Questionnaire

/-- What a flat question asks for. -/
inductive FlatQuestionKind where
  /-- One line of text. -/
  | text
  /-- Several lines of text. -/
  | textarea
  /-- Uploaded files. -/
  | file
deriving DecidableEq, Repr

/-- One question of a flat template. -/
structure FlatQuestion where
  /-- The name of the question. -/
  id : String
  /-- What it asks for. -/
  kind : FlatQuestionKind
  /-- The question. -/
  label : String
  /-- Whether it has to be answered. -/
  required : Bool
deriving DecidableEq, Repr

/-- A template of the first schema. -/
structure FlatTemplate where
  /-- The name of the template. -/
  id : String
  /-- The title. -/
  title : String
  /-- What the template is for. -/
  description : Option String
  /-- The questions, in order. -/
  questions : List FlatQuestion
deriving DecidableEq, Repr

/-- Every kind of flat question. -/
def FlatQuestionKind.all : List FlatQuestionKind := [text, textarea, file]

/-- The name of the kind in documents. -/
def FlatQuestionKind.name : FlatQuestionKind → String
  | text => "text"
  | textarea => "textarea"
  | file => "file"

/-- The tree with a member of an older name under its newer name. -/
def renameMember (older newer : String) : Json → Json
  | .object members =>
    .object (members.map fun member => (if member.1 = older then newer else member.1, member.2))
  | tree => tree

/-- Reads a question; its label may also be written as its prompt, but not both ways at once. -/
def FlatQuestion.ofJson? (tree : Json) : Option FlatQuestion := do
  let fields ← (renameMember "prompt" "label" tree).fields? ["id", "kind", "label", "required"]
  return {
    id := ← fields.required "id" Json.asText?
    kind := ← fields.required "kind" (Json.asOneOf? FlatQuestionKind.all FlatQuestionKind.name)
    label := ← fields.required "label" Json.asText?
    required := ← fields.withDefault "required" false Json.asBool? }

/-- Reads a template, every question of which has to be readable. -/
def FlatTemplate.ofJson? (tree : Json) : Option FlatTemplate := do
  let fields ← tree.fields? ["id", "title", "description", "questions"]
  return {
    id := ← fields.required "id" Json.asText?
    title := ← fields.required "title" Json.asText?
    description := ← fields.optional "description" Json.asText?
    questions := ← fields.required "questions" (Json.asList? FlatQuestion.ofJson?) }

/-- What stands for the templates of a document; a document without the field has none. -/
def flatEntries? (document : Json) : Option (List Json) := do
  let fields ← document.fields? ["templates"]
  fields.withDefault "templates" [] (Json.asList? some)

/-- The templates of a document that can be read, in order. -/
def flatTemplates (document : Json) : List FlatTemplate :=
  ((flatEntries? document).getD []).filterMap FlatTemplate.ofJson?

end Questionnaire
