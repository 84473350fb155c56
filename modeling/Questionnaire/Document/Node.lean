import Questionnaire.Graph.Basic
import Questionnaire.Json.Fields

/-!
# Graphs in documents

How nodes, edges and graphs are written as JSON, and read back. Fields that say nothing are left out
where they have a default.
-/

namespace Questionnaire

open Json (member memberIfSome memberIfItems ofMembers)

/-- The name of a label. -/
def Label.toJson (label : Label) : Json := .text label.name

/-- A label by its name. -/
def Label.ofJson? : Json → Option Label := Json.asOneOf? all name

/-- The name of an input type. -/
def InputType.toJson (inputType : InputType) : Json := .text inputType.name

/-- An input type by its name. -/
def InputType.ofJson? : Json → Option InputType := Json.asOneOf? all name

/-- The name of a kind. -/
def NodeKind.toJson (kind : NodeKind) : Json := .text kind.name

/-- A kind by its name. -/
def NodeKind.ofJson? : Json → Option NodeKind := Json.asOneOf? all name

/-- The record of a choice. -/
def Choice.toJson (choice : Choice) : Json :=
  ofMembers [member "id" (.text choice.id), member "label" (.text choice.label)]

/-- Reads the record of a choice. -/
def Choice.ofJson? (tree : Json) : Option Choice := do
  let fields ← tree.fields? ["id", "label"]
  return {
    id := ← fields.required "id" Json.asText?
    label := ← fields.required "label" Json.asText? }

/-- The record of file rules. -/
def FileRules.toJson (rules : FileRules) : Json :=
  ofMembers
    [memberIfSome "minFiles" Json.ofUInt32 rules.minFiles,
      memberIfItems "allowedMime" Json.text rules.allowedMime,
      memberIfSome "maxSizeMb" Json.ofBinary64 rules.maxSizeMb]

/-- Reads the record of file rules. -/
def FileRules.ofJson? (tree : Json) : Option FileRules := do
  let fields ← tree.fields? ["minFiles", "allowedMime", "maxSizeMb"]
  return {
    minFiles := ← fields.optional "minFiles" Json.asUInt32?
    allowedMime := ← fields.withDefault "allowedMime" [] (Json.asList? Json.asText?)
    maxSizeMb := ← fields.optional "maxSizeMb" Json.asBinary64? }

/-- The record of a place on the canvas. -/
def CanvasPosition.toJson (position : CanvasPosition) : Json :=
  ofMembers [member "x" (.ofBinary64 position.x), member "y" (.ofBinary64 position.y)]

/-- Reads the record of a place on the canvas. -/
def CanvasPosition.ofJson? (tree : Json) : Option CanvasPosition := do
  let fields ← tree.fields? ["x", "y"]
  return {
    x := ← fields.required "x" Json.asBinary64?
    y := ← fields.required "y" Json.asBinary64? }

/-- The names of the fields of a node, in order. -/
def Node.fieldNames : List String :=
  ["id", "kind", "title", "helpText", "whyWeAsk", "placeholder", "clientVisible", "labels",
    "customTags", "inputType", "required", "blocksWorkflow", "options", "rows", "columns",
    "fileRules", "sectionId", "order", "sectionOrder", "legacyStepId", "legacyFieldId", "ui"]

/-- The record of a node. -/
def Node.toJson (node : Node) : Json :=
  ofMembers
    [member "id" (.text node.id),
      member "kind" node.kind.toJson,
      member "title" (.text node.title),
      memberIfSome "helpText" Json.text node.helpText,
      memberIfSome "whyWeAsk" Json.text node.whyWeAsk,
      memberIfSome "placeholder" Json.text node.placeholder,
      member "clientVisible" (.bool node.clientVisible),
      member "labels" (.list (node.labels.map Label.toJson)),
      memberIfItems "customTags" Json.text node.customTags,
      memberIfSome "inputType" InputType.toJson node.inputType,
      member "required" (.bool node.required),
      member "blocksWorkflow" (.bool node.blocksWorkflow),
      memberIfItems "options" Choice.toJson node.options,
      memberIfItems "rows" Choice.toJson node.rows,
      memberIfItems "columns" Choice.toJson node.columns,
      memberIfSome "fileRules" FileRules.toJson node.fileRules,
      memberIfSome "sectionId" Json.text node.sectionId,
      memberIfSome "order" Json.ofUInt32 node.order,
      memberIfSome "sectionOrder" Json.ofUInt32 node.sectionOrder,
      memberIfSome "legacyStepId" Json.text node.formStepId,
      memberIfSome "legacyFieldId" Json.text node.formFieldId,
      memberIfSome "ui" CanvasPosition.toJson node.position]

/-- Reads the record of a node. -/
def Node.ofJson? (tree : Json) : Option Node := do
  let fields ← tree.fields? Node.fieldNames
  let choices := Json.asList? Choice.ofJson?
  return {
    id := ← fields.required "id" Json.asText?
    kind := ← fields.required "kind" NodeKind.ofJson?
    title := ← fields.withDefault "title" "" Json.asText?
    helpText := ← fields.optional "helpText" Json.asText?
    whyWeAsk := ← fields.optional "whyWeAsk" Json.asText?
    placeholder := ← fields.optional "placeholder" Json.asText?
    clientVisible := ← fields.withDefault "clientVisible" false Json.asBool?
    labels := ← fields.withDefault "labels" [] (Json.asList? Label.ofJson?)
    customTags := ← fields.withDefault "customTags" [] (Json.asList? Json.asText?)
    inputType := ← fields.optional "inputType" InputType.ofJson?
    required := ← fields.withDefault "required" false Json.asBool?
    blocksWorkflow := ← fields.withDefault "blocksWorkflow" false Json.asBool?
    options := ← fields.withDefault "options" [] choices
    rows := ← fields.withDefault "rows" [] choices
    columns := ← fields.withDefault "columns" [] choices
    fileRules := ← fields.optional "fileRules" FileRules.ofJson?
    sectionId := ← fields.optional "sectionId" Json.asText?
    order := ← fields.optional "order" Json.asUInt32?
    sectionOrder := ← fields.optional "sectionOrder" Json.asUInt32?
    formStepId := ← fields.optional "legacyStepId" Json.asText?
    formFieldId := ← fields.optional "legacyFieldId" Json.asText?
    position := ← fields.optional "ui" CanvasPosition.ofJson? }

/-- The record of a condition: its name, and the option that it asks for, if any. -/
def EdgeCondition.toJson (condition : EdgeCondition) : Json :=
  let option :=
    match condition with
    | choiceEquals option | choiceContains option => option
    | _ => none
  ofMembers [member "type" (.text condition.name), memberIfSome "optionId" Json.text option]

/-- A condition by its name and the fields that belong to it. -/
def EdgeCondition.ofName? (name : String) (option : Option (Option String)) :
    Option EdgeCondition :=
  match name with
  | "always" => some .always
  | "yes" => some .yes
  | "no" => some .no
  | "exists" => some .answered
  | "choice_equals" => option.map .choiceEquals
  | "choice_contains" => option.map .choiceContains
  | _ => none

/-- Reads a condition: an object that names its type and may not repeat the fields of that type, or
an array of the name and the option. Unlike other records it has to be readable as a whole. -/
def EdgeCondition.ofJson? (tree : Json) : Option EdgeCondition := do
  let _ ← tree.canonical?
  match tree with
  | .object members =>
    let named := members.filter fun member => member.1 == "type"
    let rest := members.filter fun member => member.1 != "type"
    match named with
    | [(_, written)] =>
      let option := do
        let fields ← (Json.object rest).fields? ["optionId"]
        fields.optional "optionId" Json.asText?
      ofName? (← written.asText?) option
    | _ => none
  | .list (written :: rest) =>
    let name ← written.asText?
    let option := do
      let fields ← (Json.list rest).fields? ["optionId"]
      fields.optional "optionId" Json.asText?
    match ← ofName? name option, rest with
    | .choiceEquals option, _ => some (.choiceEquals option)
    | .choiceContains option, _ => some (.choiceContains option)
    | condition, [] => some condition
    | _, _ :: _ => none
  | _ => none

/-- The record of an edge. -/
def Edge.toJson (edge : Edge) : Json :=
  ofMembers
    [member "id" (.text edge.id), member "from" (.text edge.source),
      member "to" (.text edge.target), member "when" edge.condition.toJson]

/-- Reads the record of an edge. -/
def Edge.ofJson? (tree : Json) : Option Edge := do
  let fields ← tree.fields? ["id", "from", "to", "when"]
  return {
    id := ← fields.required "id" Json.asText?
    source := ← fields.required "from" Json.asText?
    target := ← fields.required "to" Json.asText?
    condition := ← fields.withDefault "when" .always EdgeCondition.ofJson? }

/-- The record of a graph. -/
def Graph.toJson (graph : Graph) : Json :=
  ofMembers
    [member "nodes" (.list (graph.nodes.map Node.toJson)),
      member "edges" (.list (graph.edges.map Edge.toJson))]

/-- Reads the record of a graph. -/
def Graph.ofJson? (tree : Json) : Option Graph := do
  let fields ← tree.fields? ["nodes", "edges"]
  return {
    nodes := ← fields.withDefault "nodes" [] (Json.asList? Node.ofJson?)
    edges := ← fields.withDefault "edges" [] (Json.asList? Edge.ofJson?) }

end Questionnaire
