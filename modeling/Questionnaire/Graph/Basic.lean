import Questionnaire.Edge
import Questionnaire.FirstMatch
import Questionnaire.Node.Basic

/-!
# Graphs

A questionnaire graph is a list of nodes and a list of edges between node ids. Ids are meant to be
unique, but a graph from outside may repeat them or name nodes that it lacks; a look-up then takes
the first node with the id. Start and end nodes may not be removed.
-/

namespace Questionnaire

/-- A directed graph of nodes. -/
structure Graph where
  /-- The nodes, in declaration order. -/
  nodes : List Node := []
  /-- The edges between node ids. -/
  edges : List Edge := []
deriving DecidableEq, Repr, Inhabited

namespace Graph

/-- The graph without nodes and edges. -/
def empty : Graph := {}

/-- The first node with the id. -/
def node? (graph : Graph) (id : String) : Option Node :=
  graph.nodes.find? fun node => node.id == id

/-- Whether some node has the id. -/
def contains (graph : Graph) (id : String) : Bool :=
  graph.nodes.any fun node => node.id == id

/-- Whether some node is of the kind. -/
def hasKind (graph : Graph) (kind : NodeKind) : Bool :=
  graph.nodes.any fun node => node.kind == kind

/-- The nodes of a kind, in order. -/
def nodesOfKind (graph : Graph) (kind : NodeKind) : List Node :=
  graph.nodes.filter fun node => node.kind == kind

/-- The edges that lead to an id. -/
def incoming (graph : Graph) (id : String) : List Edge :=
  graph.edges.filter fun edge => edge.target == id

/-- The edges that leave an id. -/
def outgoing (graph : Graph) (id : String) : List Edge :=
  graph.edges.filter fun edge => edge.source == id

/-- Appends a node. -/
def addNode (graph : Graph) (node : Node) : Graph :=
  { graph with nodes := graph.nodes ++ [node] }

/-- Appends an edge. -/
def addEdge (graph : Graph) (edge : Edge) : Graph :=
  { graph with edges := graph.edges ++ [edge] }

/-- Changes the first node with the id. -/
def modifyNode (graph : Graph) (id : String) (change : Node → Node) : Graph :=
  { graph with nodes := modifyFirst (fun node => node.id == id) change graph.nodes }

/-- Puts the node in place of the first node with its id, and tells whether there was one. -/
def updateNode (graph : Graph) (node : Node) : Bool × Graph :=
  (graph.contains node.id, graph.modifyNode node.id fun _ => node)

/-- Gives the first node with the id a new title, and tells whether there was one. -/
def retitle (graph : Graph) (id title : String) : Bool × Graph :=
  (graph.contains id, graph.modifyNode id fun node => { node with title })

/-- Removes the first node with the id and all edges at the id, and tells whether it did so; a
start or end node stays. -/
def removeNode (graph : Graph) (id : String) : Bool × Graph :=
  match graph.node? id with
  | none => (false, graph)
  | some node =>
    if node.kind.isProtected then (false, graph)
    else
      (true,
        { nodes := graph.nodes.eraseP fun node => node.id == id
          edges := graph.edges.filter fun edge => edge.source != id && edge.target != id })

/-- Removes the edges with the id, and tells whether there were any. -/
def removeEdge (graph : Graph) (id : String) : Bool × Graph :=
  (graph.edges.any fun edge => edge.id == id,
    { graph with edges := graph.edges.filter fun edge => edge.id != id })

end Graph

end Questionnaire
