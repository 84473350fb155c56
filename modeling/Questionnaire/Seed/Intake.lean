import Questionnaire.Form.Catalog
import Questionnaire.Graph.Chain
import Questionnaire.Template.Basic
import Questionnaire.Text.Blank

/-!
# The guided intake

The guided intake is the template that carries the flat intake form. Its graph is a chain: start,
then for each step of the catalog a section header followed by one node for each field, then end.
The nodes name the step and the field that they stand for, so that the gates of the form decide
what is shown.

On the canvas, steps stand side by side, and the fields of a step in columns of eight below its
header.
-/

namespace Questionnaire

/-- Whether a character of a form id may stand in a node id. -/
def isIdChar (char : Char) : Bool :=
  char.isAlphanum || char == '_' || char == '-'

/-- The text with every character that may not stand in a node id turned into a dash. -/
def plainId (text : String) : String :=
  String.ofList (text.toList.map fun char => if isIdChar char then char else '-')

/-- The filing labels that the steps of the form feed. -/
def stepLabelTable : List (String × List Label) :=
  [("filing", [.identityHousehold]),
    ("identity", [.identityHousehold]),
    ("contact", [.identityHousehold]),
    ("spouse", [.identityHousehold]),
    ("urgency", [.legalActions, .sofa]),
    ("real_estate", [.assets, .scheduleAB, .scheduleD]),
    ("bank_accounts", [.assets, .scheduleAB]),
    ("security_deposits", [.assets, .scheduleAB]),
    ("financial_assets", [.assets, .scheduleAB]),
    ("household_property", [.assets, .scheduleAB, .exemptions]),
    ("valuables", [.assets, .scheduleAB, .exemptions]),
    ("vehicles", [.assets, .scheduleAB, .scheduleD, .exemptions]),
    ("other_secured", [.debtsSecured, .scheduleD]),
    ("priority_debts", [.debtsUnsecured, .scheduleEF]),
    ("unsecured", [.debtsUnsecured, .scheduleEF]),
    ("leases", [.sofa]),
    ("income", [.income, .scheduleIJ]),
    ("expenses", [.expenses, .scheduleIJ]),
    ("income_history", [.income, .sofa]),
    ("documents", [.documents]),
    ("recent_activity", [.sofa, .legalActions])]

namespace FormStep

/-- The filing labels that the step feeds. -/
def labels (step : FormStep) : List Label :=
  (stepLabelTable.lookup step.id).getD [.other]

/-- The id of the section header that stands for the step. -/
def sectionId (step : FormStep) : String :=
  "sec-" ++ plainId step.id

/-- The distance of the column of a field from the left, for the places of its step and of the
field. -/
def column (stepPlace fieldPlace : Nat) : Nat :=
  220 + 460 * stepPlace + 250 * (fieldPlace / 8)

/-- The distance of the last column of the step from the left. -/
def lastColumn (step : FormStep) (stepPlace : Nat) : Nat :=
  column stepPlace (step.fields.length - 1)

/-- The section header that stands for the step. -/
def toHeader (step : FormStep) (stepPlace : Nat) : Node :=
  { Node.ofKind .sectionHeader step.sectionId with
    title := step.title
    helpText := step.description
    labels := step.labels
    formStepId := some step.id
    position := some (.ofNats (column stepPlace 0) 80) }

end FormStep

/-- The input type that stands for an input of the form. -/
def FieldKind.inputType : FieldKind → InputType
  | text => .text
  | textarea => .textarea
  | email => .email
  | date => .date
  | radio | select => .singleSelect
  | checkbox => .multiSelect
  | grid => .grid
  | file => .fileUpload

/-- The media types that the intake accepts. -/
def intakeMediaTypes : List String :=
  ["application/pdf", "image/jpeg", "image/png", "image/heic"]

namespace FormField

/-- The id of the node that stands for the field. -/
def nodeId (field : FormField) : String :=
  "node-" ++ plainId field.id

/-- The label of the field without the stars that mark it as required. -/
def plainLabel (field : FormField) : String :=
  trim (String.ofList (field.label.toList.filter fun char => char != '*'))

/-- Whether the field asks for files. -/
def isUpload (field : FormField) : Bool :=
  field.kind == .file

/-- The filing labels that a field of a step feeds; an upload always is a document. -/
def labels (field : FormField) (step : FormStep) : List Label :=
  if field.isUpload && !step.labels.contains .documents then step.labels ++ [.documents]
  else step.labels

/-- What uploads the field accepts. -/
def fileRules (field : FormField) : Option FileRules :=
  if field.isUpload then
    some
      { minFiles := if field.required then some 1 else none
        allowedMime := intakeMediaTypes
        maxSizeMb := some (.ofNat 25) }
  else none

/-- The node that stands for a field of a step, for the places of both. -/
def toNode (step : FormStep) (stepPlace : Nat) (field : FormField) (fieldPlace : Nat) : Node :=
  { Node.ofKind (if field.isUpload then .docRequest else .question) field.nodeId with
    title := field.plainLabel
    helpText := field.helper
    whyWeAsk := field.whyWeAsk
    placeholder := field.placeholder
    labels := field.labels step
    inputType := some field.kind.inputType
    required := field.required
    blocksWorkflow := field.required
    options := field.options
    rows := field.rows
    columns := field.columns
    fileRules := field.fileRules
    sectionId := some step.sectionId
    formStepId := some step.id
    formFieldId := some field.id
    position :=
      some (.ofNats (FormStep.column stepPlace fieldPlace) (210 + 130 * (fieldPlace % 8))) }

end FormField

/-- The nodes that stand for a step: its header and one node for each field. -/
def FormStep.toNodes (step : FormStep) (stepPlace : Nat) : List Node :=
  step.toHeader stepPlace ::
    step.fields.zipIdx.map fun (field, fieldPlace) => field.toNode step stepPlace fieldPlace

namespace Catalog

/-- The nodes that stand for the steps and fields of the catalog. -/
def formNodes (catalog : Catalog) : List Node :=
  catalog.zipIdx.flatMap fun (step, stepPlace) => step.toNodes stepPlace

/-- The distance of the end of the intake from the left. -/
def finishColumn (catalog : Catalog) : Nat :=
  let columns := catalog.zipIdx.map fun (step, stepPlace) => step.lastColumn stepPlace
  columns.foldl max 40 + 300

/-- The graph of the guided intake. -/
def intakeGraph (catalog : Catalog) : Graph :=
  let start := { Node.ofKind .start "start" with position := some (.ofNats 40 110) }
  let finish :=
    { Node.ofKind .finish "end" with position := some (.ofNats catalog.finishColumn 110) }
  .chain (start :: (catalog.formNodes ++ [finish]))

end Catalog

/-- The id of the guided intake. -/
def intakeTemplateId : String := "intake-default"

/-- The guided intake of a catalog, published as its first version. -/
def intakeTemplate (catalog : Catalog) (now : Timestamp) : Template :=
  let version :=
    TemplateVersion.published 1 catalog.intakeGraph .system now (some "Initial intake graph seed")
  { Template.ofVersion intakeTemplateId "Guided Bankruptcy Intake" .intake .system version now with
    description := "System intake assignment with filing-critical questions and branching."
    isDefault := true }

/-- Whether the active graph of a template still carries the catalog: a node stands for every
field, and there are no fewer such nodes than fields and no fewer sections than steps. -/
def Template.isHydrated (template : Template) (catalog : Catalog) : Bool :=
  match template.activeGraph? with
  | none => false
  | some graph =>
    let carried := graph.nodes.filterMap Node.formFieldId
    let fields := catalog.flatMap FormStep.fields
    fields.all (fun field => carried.contains field.id) &&
      decide (fields.length ≤ carried.length) &&
      decide (catalog.length ≤ (graph.nodesOfKind .sectionHeader).length)

end Questionnaire
