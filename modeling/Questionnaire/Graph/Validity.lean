import Questionnaire.Graph.Cycle

/-!
# Validity of graphs

A graph is checked before it is published. Defects keep it from being published; advice does not.
All of them are collected: first those of the graph as a whole, then those of its nodes in order.
-/

namespace Questionnaire

/-- What keeps a graph from being published. -/
inductive Defect where
  /-- There is no start node. -/
  | missingStart
  /-- There is no end node. -/
  | missingEnd
  /-- The source of an edge is no node. -/
  | unknownSource (edgeId : String)
  /-- The target of an edge is no node. -/
  | unknownTarget (edgeId : String)
  /-- A cycle is closed at this id. -/
  | cycle (nodeId : String)
  /-- A node that the client answers has no filing label. -/
  | missingLabel (nodeId title : String)
  /-- A question has no input type. -/
  | missingInputType (nodeId title : String)
deriving DecidableEq, Repr

/-- What a graph may be published with, but should rather not have. -/
inductive Advice where
  /-- A node other than a decision branches. -/
  | severalOutgoing (nodeId title : String)
  /-- A decision lacks an edge for yes or for no. -/
  | incompleteDecision (nodeId title : String)
  /-- There are more workflow nodes than the limit. -/
  | oversized (count limit : Nat)
  /-- Some nodes that the client answers are in no section. -/
  | unsectioned (count : Nat)
deriving DecidableEq, Repr

/-- The text of a defect. -/
def Defect.message : Defect → String
  | missingStart => "Graph requires a Start node."
  | missingEnd => "Graph requires an End node."
  | unknownSource edgeId => "Edge " ++ edgeId ++ " has unknown source node."
  | unknownTarget edgeId => "Edge " ++ edgeId ++ " has unknown target node."
  | cycle nodeId => "Cycles are not allowed (cycle through \"" ++ nodeId ++ "\")."
  | missingLabel _ title => "Node \"" ++ title ++ "\" must include at least one filing label."
  | missingInputType _ title => "Question \"" ++ title ++ "\" is missing an input type."

/-- The text of an advice. -/
def Advice.message : Advice → String
  | severalOutgoing _ title =>
    "Node \"" ++ title ++ "\" has multiple outgoing edges; this can reduce predictability."
  | incompleteDecision _ title =>
    "Decision \"" ++ title ++ "\" should define both Yes and No paths."
  | oversized _ limit =>
    "This questionnaire is large (> " ++ toString limit ++
      " workflow nodes). Consider splitting into smaller assignments."
  | unsectioned count => toString count ++ " nodes are not assigned to a section."

/-- What a check of a graph found. -/
structure ValidityReport where
  /-- What keeps the graph from being published. -/
  defects : List Defect
  /-- What the graph should rather not have. -/
  advice : List Advice
deriving DecidableEq, Repr

namespace ValidityReport

/-- Whether the graph may be published. -/
def isValid (report : ValidityReport) : Bool :=
  report.defects.isEmpty

/-- Whether a cycle was found. -/
def hasCycle (report : ValidityReport) : Bool :=
  report.defects.any fun defect =>
    match defect with
    | .cycle _ => true
    | _ => false

/-- The counts, followed by every defect. -/
def message (report : ValidityReport) : String :=
  toString report.defects.length ++ " error(s), " ++ toString report.advice.length ++
    " warning(s)" ++ String.join (report.defects.map fun defect => "; " ++ defect.message)

end ValidityReport

/-- The limit on workflow nodes when none is set. -/
def defaultNodeLimit : Nat := 60

namespace Graph

/-- The defects of the ends of an edge. -/
def edgeDefects (graph : Graph) (edge : Edge) : List Defect :=
  (if graph.contains edge.source then [] else [.unknownSource edge.id]) ++
    (if graph.contains edge.target then [] else [.unknownTarget edge.id])

/-- The defects of the graph as a whole. -/
def structureDefects (graph : Graph) : List Defect :=
  (if graph.hasKind .start then [] else [.missingStart]) ++
    (if graph.hasKind .finish then [] else [.missingEnd]) ++
    graph.edges.flatMap graph.edgeDefects ++ (graph.findCycle?.map Defect.cycle).toList

/-- The defects of a node. -/
def nodeDefects (node : Node) : List Defect :=
  (if node.kind.isAnswerable && node.labels.isEmpty then [.missingLabel node.id node.title]
    else []) ++
    (if node.kind == .question && node.inputType.isNone then
      [.missingInputType node.id node.title]
    else [])

/-- The advice on a node. -/
def nodeAdvice (graph : Graph) (node : Node) : List Advice :=
  let conditions := (graph.outgoing node.id).map Edge.condition
  if node.kind == .decision then
    if conditions.contains .yes && conditions.contains .no then []
    else [.incompleteDecision node.id node.title]
  else if 1 < conditions.length then [.severalOutgoing node.id node.title]
  else []

/-- The number of nodes that count towards the size limit. -/
def workflowCount (graph : Graph) : Nat :=
  graph.nodes.countP fun node => node.kind.isWorkflow

/-- The number of nodes that the client answers and that are in no section. -/
def unsectionedCount (graph : Graph) : Nat :=
  graph.nodes.countP fun node => node.kind.isAnswerable && node.sectionId.isNone

/-- The advice on the size and the sections of the graph. -/
def sizeAdvice (limit : Nat) (graph : Graph) : List Advice :=
  (if limit < graph.workflowCount then [.oversized graph.workflowCount limit] else []) ++
    (if 0 < graph.unsectionedCount then [.unsectioned graph.unsectionedCount] else [])

/-- Checks the graph against a limit on workflow nodes. -/
def check (graph : Graph) (limit : Nat) : ValidityReport where
  defects := graph.structureDefects ++ graph.nodes.flatMap nodeDefects
  advice := graph.nodes.flatMap graph.nodeAdvice ++ graph.sizeAdvice limit

end Graph

end Questionnaire
