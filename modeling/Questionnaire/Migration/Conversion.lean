import Questionnaire.Graph.Chain
import Questionnaire.Json.Text
import Questionnaire.Migration.FlatTemplate
import Questionnaire.Seed.Shipped

/-!
# Conversion of the first schema

A flat template becomes a published template whose graph is a chain of its questions in one
section. Templates without an id or a title are left out. A converted template keeps its id if it
is free, and otherwise takes the id with the least number of `v1-` in front that is. The document
itself is kept as it was.
-/

namespace Questionnaire

/-- The id of the one section of a converted template. -/
def flatSectionId : String := "sec-main"

/-- The node of a flat question. -/
def FlatQuestion.toNode (question : FlatQuestion) : Node :=
  let id := "node-" ++ question.id
  let node :=
    match question.kind with
    | .text => Node.ofKind .question id
    | .textarea => { Node.ofKind .question id with inputType := some .textarea }
    | .file =>
      { Node.ofKind .docRequest id with
        fileRules := some { minFiles := if question.required then some 1 else none } }
  { node with
    title := trim question.label
    required := question.required
    sectionId := some flatSectionId }

namespace FlatTemplate

/-- Whether the template has an id and a title. -/
def isNamed (flat : FlatTemplate) : Bool :=
  !isBlankText flat.id && !isBlankText flat.title

/-- The graph of a flat template. -/
def toGraph (flat : FlatTemplate) : Graph :=
  .chain <|
    [Node.ofKind .start "start",
      { Node.ofKind .sectionHeader flatSectionId with title := trim flat.title }] ++
    flat.questions.map FlatQuestion.toNode ++ [Node.ofKind .finish "end"]

/-- The converted template, under an id. -/
def toTemplate (flat : FlatTemplate) (id : String) (now : Timestamp) : Template :=
  let version := TemplateVersion.published 1 flat.toGraph .system now (some "Migrated from v1")
  { Template.ofVersion id (trim flat.title) .custom .attorney version now with
    description := (trimmed? flat.description).getD "" }

end FlatTemplate

/-- The id with so many marks of the first schema in front. -/
def markedId (id : String) (marks : Nat) : String :=
  String.join (List.replicate marks "v1-") ++ id

/-- The id with the least number of marks in front that is free. There are more numbers to try than
ids taken, so one of them is. -/
def freeId (id : String) (taken : List String) : String :=
  (((List.range (taken.length + 1)).map (markedId id)).find? fun candidate =>
    !taken.contains candidate).getD id

/-- The converted templates, each under an id that is free when its turn comes. -/
def convertTemplates (now : Timestamp) (taken : List String) : List FlatTemplate → List Template
  | [] => []
  | flat :: rest =>
    let id := freeId (trim flat.id) taken
    flat.toTemplate id now :: convertTemplates now (id :: taken) rest

/-- The templates that a document of the first schema gives besides those whose ids are taken. -/
def convertDocument (now : Timestamp) (taken : List String) (document : Json) : List Template :=
  convertTemplates now taken ((flatTemplates document).filter FlatTemplate.isNamed)

/-- The state that a document of the first schema gives, on top of what a store starts with if that
is asked for. -/
def migrate (catalog : Catalog) (document : Option Json) (seeded : Bool) (now : Timestamp) :
    State :=
  let state := if seeded then seedState catalog now else State.empty
  match document with
  | none => state
  | some document =>
    let taken := state.templates.map Template.id
    { state with
      templates := state.templates ++ convertDocument now taken document
      archivedV1 := some document }

/-- The value of a stored document of the first schema, if it can be read. -/
def readFirstSchema (text : Option String) : Option Json :=
  (text.bind Json.parse?).bind Json.canonical?

end Questionnaire
