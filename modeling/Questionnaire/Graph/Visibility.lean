import Questionnaire.Form.Catalog
import Questionnaire.Form.Projection
import Questionnaire.Graph.Firing

/-!
# Visibility

A client sees a node when the node may be shown to clients at all, when the gates of the step and
the field that it stands for let it through, and, unless the node is structural, when no edge leads
to it or one of the edges to it fires.
-/

namespace Questionnaire

/-- What the visibility of the nodes of a graph depends on. -/
structure View where
  /-- The graph. -/
  graph : Graph
  /-- The responses by node. -/
  responses : ResponseIndex
  /-- The catalog whose gates apply. -/
  catalog : Catalog
  /-- The answers that the gates see. -/
  answers : FormAnswers

namespace View

/-- The view in which the gates see the responses themselves. -/
def ofResponses (graph : Graph) (responses : ResponseIndex) (catalog : Catalog) : View :=
  { graph, responses, catalog, answers := FormAnswers.ofResponses graph responses }

/-- Whether the gates of the step and the field that a node stands for let it through; a step or a
field that the catalog lacks has no gate. -/
def passesGates (view : View) (node : Node) : Bool :=
  match node.formStepId.bind (Catalog.step? view.catalog) with
  | none => true
  | some step =>
    step.isShown view.answers &&
      (node.formFieldId.bind step.field?).all fun field => field.isShown view.answers

/-- Whether no edge leads to the node, or one of those that do fires. -/
def isReached (view : View) (node : Node) : Bool :=
  let incoming := view.graph.incoming node.id
  incoming.isEmpty || incoming.any (Edge.fires view.responses)

/-- Whether the client sees the node. -/
def isVisible (view : View) (node : Node) : Bool :=
  node.clientVisible && view.passesGates node && (node.kind.isStructural || view.isReached node)

/-- The nodes that the client sees, in declaration order. -/
def visibleNodes (view : View) : List Node :=
  view.graph.nodes.filter view.isVisible

end View

end Questionnaire
