import Questionnaire.Graph.Sections

/-!
# Normal order numbers

Order numbers are reset to multiples of 1000, so that the order survives moves on the canvas
and leaves room for insertions. Sections are numbered in their order, and within each section its
items in theirs. Nodes outside every section keep their numbers. The pass over the nodes also tells
whether any number became another one.
-/

namespace Questionnaire

-- Powers are those of the core library, whatever other powers are known.
attribute [local instance (10000)] instPowNat

/-- The order number of a place, counted from zero; the last numbers all are the greatest of 32
bits. -/
def spacedOrder (place : Nat) : UInt32 :=
  (min (1000 * (place + 1)) (2 ^ (32 : Nat) - 1)).toUInt32

/-- The order numbers of nodes in their order, by id. -/
def spacedOrders (nodes : List Node) : List (String × UInt32) :=
  nodes.zipIdx.map fun (node, place) => (node.id, spacedOrder place)

namespace Graph

/-- All section headers, in order. -/
def headers (graph : Graph) : List Node :=
  sortNodes Node.sectionKey (graph.nodesOfKind .sectionHeader)

/-- The items of a section, in order. -/
def sectionItems (graph : Graph) (sectionId : String) : List Node :=
  sortNodes Node.itemKey <| graph.nodes.filter fun node =>
    node.kind.isSectionItem && node.sectionId == some sectionId

/-- The order numbers of the sections. -/
def sectionOrders (graph : Graph) : KeyMap UInt32 :=
  KeyMap.ofList (spacedOrders graph.headers)

/-- The order numbers of the items of all sections. -/
def itemOrders (graph : Graph) : KeyMap UInt32 :=
  KeyMap.ofList (graph.headers.flatMap fun header => spacedOrders (graph.sectionItems header.id))

/-- The node with its new order number, if it has one, after whether that is another number. -/
def renumber (sectionOrders itemOrders : KeyMap UInt32) (node : Node) : Bool × Node :=
  if node.kind == .sectionHeader then
    match sectionOrders.get? node.id with
    | some order => (node.sectionOrder != some order, { node with sectionOrder := some order })
    | none => (false, node)
  else if node.sectionId.isSome then
    match itemOrders.get? node.id with
    | some order => (node.order != some order, { node with order := some order })
    | none => (false, node)
  else (false, node)

/-- The nodes with their new order numbers, after whether any of them has another number, or a node
before them had. -/
def renumberAll (sectionOrders itemOrders : KeyMap UInt32) (changed : Bool) :
    List Node → Bool × List Node
  | [] => (changed, [])
  | node :: rest =>
    let (differs, renumbered) := renumber sectionOrders itemOrders node
    let (changed, nodes) := renumberAll sectionOrders itemOrders (changed || differs) rest
    (changed, renumbered :: nodes)

/-- The pass over the nodes of the graph. -/
def orderPass (graph : Graph) : Bool × List Node :=
  renumberAll graph.sectionOrders graph.itemOrders false graph.nodes

/-- The graph with normal order numbers. -/
def normalizeOrder (graph : Graph) : Graph :=
  { graph with nodes := graph.orderPass.2 }

/-- Whether the pass gives a node of the graph another order number. -/
def needsOrder (graph : Graph) : Bool :=
  graph.orderPass.1

end Graph

end Questionnaire
