import Questionnaire.Graph.Chain
import Questionnaire.Graph.Ordering
import Questionnaire.State.Action
import Questionnaire.Title

/-!
# Authoring of templates

Templates are created, copied, edited, published, archived and removed. A template that came with
the product is copied before it is edited. One that was ever issued is never deleted.
-/

namespace Questionnaire

/-- What became of a template that was to be removed. -/
inductive Removal where
  /-- It is gone. -/
  | deleted
  /-- It is archived, since it was issued. -/
  | archived
  /-- It stays, since it comes with the product. -/
  | retained
deriving DecidableEq, Repr

/-- The name of what became of a template. -/
def Removal.name : Removal → String
  | deleted => "deleted"
  | archived => "archived"
  | retained => "retained"

/-- The graph of a new template: start, a section with one question, and end, in a row. -/
def starterGraph (startId sectionId questionId finishId title : String) : Graph :=
  .chain
    [{ Node.ofKind .start startId with position := some (.ofNats 80 160) },
      { Node.ofKind .sectionHeader sectionId with
        title
        labels := [.other]
        position := some (.ofNats 300 140) },
      { Node.ofKind .question questionId with
        sectionId := some sectionId
        position := some (.ofNats 520 140) },
      { Node.ofKind .finish finishId with position := some (.ofNats 740 160) }]

/-- The templates that are not archived. -/
def State.activeTemplates (state : State) : List Template :=
  state.templates.filter fun template => !template.archived

namespace Action

/-- Puts a template in front of all others and reports it. -/
def addTemplate (template : Template) : Action Template := do
  modifyState fun state => { state with templates := template :: state.templates }
  emit (.templateCreated template.id)
  return template

/-- Creates a template of the firm's own with a starter graph, which is a draft. -/
def createTemplate (title : String) (description : Option String) : Action Template := do
  let title := trim title
  if title.isEmpty then
    throw .emptyTitle
  let now ← now
  let startId ← mint "start"
  let sectionId ← mint "section"
  let questionId ← mint "question"
  let finishId ← mint "end"
  let id ← mint "qtpl"
  let graph := starterGraph startId sectionId questionId finishId title
  addTemplate
    { Template.ofVersion id title .custom .attorney (.draft 1 graph) now with
      description := (trimmed? description).getD "Custom questionnaire" }

/-- Copies a template with its history, under a new id and a title that no template has. -/
def duplicateTemplate (id : String) : Action Template := do
  let source ← template id
  let taken := (← state).templates.map Template.title
  let now ← now
  let copyId ← mint "qtpl"
  addTemplate
    { source with
      id := copyId
      title := uniqueTitle (stripCopyMarks source.title) taken
      kind := .custom
      isDefault := false
      createdBy := .attorney
      createdAt := now
      updatedAt := now
      archived := false }

/-- The template to be edited: one that came with the product is copied first. -/
def cloneForEdit (id : String) : Action Template := do
  let source ← template id
  if source.isSystemOwned then duplicateTemplate id else return source

/-- Hides a template from listings, and tells whether it did so; the one that comes with the product
stays. -/
def archiveTemplate (id : String) : Action Bool := do
  let template ← template id
  if template.isDefault then return false
  setTemplate { template with archived := true, updatedAt := ← now }
  return true

/-- Deletes a template that was never issued, and archives any other. -/
def removeTemplate (id : String) : Action Removal := do
  let template ← template id
  if template.isDefault then return .retained
  if (← state).assignments.any fun assignment => assignment.templateId == id then
    let _ ← archiveTemplate id
    return .archived
  modifyState fun state =>
    { state with templates := state.templates.filter fun template => template.id != id }
  return .deleted

/-- Gives a template a new active graph, whose order numbers are normalized. -/
def updateGraph (id : String) (graph : Graph) : Action GraphEdit := do
  let template ← template id
  let some (edit, edited) := template.editGraph? graph.normalizeOrder (← now)
    | throw .numberOverflow
  setTemplate edited
  return edit

/-- Makes an existing version of a template active. -/
def activateVersion (id : String) (version : UInt32) : Action Unit := do
  let template ← template id
  let (found, activated) := template.activate version
  unless found do
    throw (.versionNotFound id version)
  setTemplate { activated with updatedAt := ← now }

/-- Appends the active graph of a template as a published version and gives its number; a graph with
defects is refused. -/
def publishVersion (nodeLimit : Nat) (id : String) (publisher : Option Publisher)
    (notes : Option String) : Action UInt32 := do
  let template ← template id
  let some graph := template.activeGraph? | throw (.versionNotFound id template.activeVersion)
  let report := graph.check nodeLimit
  unless report.isValid do
    throw (.invalidGraph report)
  let some (number, published) :=
      template.publish? (publisher.getD .attorney) (trimmed? notes) (← now)
    | throw .numberOverflow
  let some version := number | throw (.versionNotFound id template.activeVersion)
  setTemplate published
  emit (.templatePublished id version)
  return version

end Action

end Questionnaire
