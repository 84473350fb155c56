import Questionnaire.Assignment.Basic
import Questionnaire.Document.Node
import Questionnaire.Template.Basic
import Questionnaire.Time.Reader

/-!
# Templates and assignments in documents

How templates, their versions and assignments are written as JSON, and read back.
-/

namespace Questionnaire

open Json (member memberIfSome memberIfTrue ofMembers)

/-- The name of a template kind. -/
def TemplateKind.toJson (kind : TemplateKind) : Json := .text kind.name

/-- A template kind by its name. -/
def TemplateKind.ofJson? : Json → Option TemplateKind := Json.asOneOf? all name

/-- The name of a creator. -/
def Creator.toJson (creator : Creator) : Json := .text creator.name

/-- A creator by its name. -/
def Creator.ofJson? : Json → Option Creator := Json.asOneOf? all name

/-- The name of a publisher. -/
def Publisher.toJson (publisher : Publisher) : Json := .text publisher.name

/-- A publisher by its name. -/
def Publisher.ofJson? : Json → Option Publisher := Json.asOneOf? all name

/-- The name of a stage. -/
def Stage.toJson (stage : Stage) : Json := .text stage.name

/-- A stage by its name. -/
def Stage.ofJson? : Json → Option Stage := Json.asOneOf? all name

/-- The name of a status of the form. -/
def FormStatus.toJson (status : FormStatus) : Json := .text status.name

/-- A status of the form by its name. -/
def FormStatus.ofJson? : Json → Option FormStatus := Json.asOneOf? all name

/-- The record of a version. -/
def TemplateVersion.toJson (version : TemplateVersion) : Json :=
  ofMembers
    [member "version" (.ofUInt32 version.number),
      member "graph" version.graph.toJson,
      memberIfSome "publishedAt" Timestamp.toJson version.publishedAt,
      memberIfSome "publishedBy" Publisher.toJson version.publishedBy,
      memberIfSome "notes" Json.text version.notes]

/-- Reads the record of a version. -/
def TemplateVersion.ofJson? (tree : Json) : Option TemplateVersion := do
  let fields ← tree.fields? ["version", "graph", "publishedAt", "publishedBy", "notes"]
  return {
    number := ← fields.required "version" Json.asUInt32?
    graph := ← fields.required "graph" Graph.ofJson?
    publishedAt := ← fields.optional "publishedAt" Timestamp.ofJson?
    publishedBy := ← fields.optional "publishedBy" Publisher.ofJson?
    notes := ← fields.optional "notes" Json.asText? }

/-- The names of the fields of a template, in order. -/
def Template.fieldNames : List String :=
  ["id", "title", "description", "scope", "kind", "isDefault", "createdBy", "createdAt",
    "updatedAt", "activeVersion", "versions", "archived"]

/-- The record of a template. -/
def Template.toJson (template : Template) : Json :=
  ofMembers
    [member "id" (.text template.id),
      member "title" (.text template.title),
      member "description" (.text template.description),
      member "scope" (.text template.scope),
      member "kind" template.kind.toJson,
      member "isDefault" (.bool template.isDefault),
      member "createdBy" template.createdBy.toJson,
      member "createdAt" template.createdAt.toJson,
      member "updatedAt" template.updatedAt.toJson,
      member "activeVersion" (.ofUInt32 template.activeVersion),
      member "versions" (.list (template.versions.map TemplateVersion.toJson)),
      memberIfTrue "archived" template.archived]

/-- Reads the record of a template. -/
def Template.ofJson? (tree : Json) : Option Template := do
  let fields ← tree.fields? Template.fieldNames
  return {
    id := ← fields.required "id" Json.asText?
    title := ← fields.required "title" Json.asText?
    description := ← fields.withDefault "description" "" Json.asText?
    scope := ← fields.withDefault "scope" "firm" Json.asText?
    kind := ← fields.required "kind" TemplateKind.ofJson?
    isDefault := ← fields.withDefault "isDefault" false Json.asBool?
    createdBy := ← fields.required "createdBy" Creator.ofJson?
    createdAt := ← fields.required "createdAt" Timestamp.ofJson?
    updatedAt := ← fields.required "updatedAt" Timestamp.ofJson?
    activeVersion := ← fields.required "activeVersion" Json.asUInt32?
    versions := ← fields.required "versions" (Json.asList? TemplateVersion.ofJson?)
    archived := ← fields.withDefault "archived" false Json.asBool? }

/-- The names of the fields of an assignment, in order. -/
def Assignment.fieldNames : List String :=
  ["id", "templateId", "templateVersion", "title", "assignedAt", "dueAt", "computedStage",
    "archived"]

/-- The record of an assignment. -/
def Assignment.toJson (assignment : Assignment) : Json :=
  ofMembers
    [member "id" (.text assignment.id),
      member "templateId" (.text assignment.templateId),
      member "templateVersion" (.ofUInt32 assignment.templateVersion),
      member "title" (.text assignment.title),
      member "assignedAt" assignment.assignedAt.toJson,
      memberIfSome "dueAt" Json.text assignment.dueAt,
      memberIfSome "computedStage" Stage.toJson assignment.recordedStage,
      memberIfTrue "archived" assignment.archived]

/-- Reads the record of an assignment. -/
def Assignment.ofJson? (tree : Json) : Option Assignment := do
  let fields ← tree.fields? Assignment.fieldNames
  return {
    id := ← fields.required "id" Json.asText?
    templateId := ← fields.required "templateId" Json.asText?
    templateVersion := ← fields.required "templateVersion" Json.asUInt32?
    title := ← fields.required "title" Json.asText?
    assignedAt := ← fields.required "assignedAt" Timestamp.ofJson?
    dueAt := ← fields.optional "dueAt" Json.asText?
    recordedStage := ← fields.optional "computedStage" Stage.ofJson?
    archived := ← fields.withDefault "archived" false Json.asBool? }

end Questionnaire
