import Questionnaire.Graph.Visibility

/-!
# Sections

For a client, the nodes of a graph are laid out in sections. Each section node that clients may see
heads a bucket with the client steps that name it; client steps that name none of these go to a
last bucket without a header. Sections are ordered by their section keys and the nodes of a bucket
by their item keys; nodes with equal keys are ordered by id, and those that still agree keep their
order.
-/

namespace Questionnaire

/-- Whether a node may stand before another in the order by a key and then by id. -/
def Node.precedes (key : Node → SortKey) (left right : Node) : Bool :=
  (key left).rank < (key right).rank ||
    ((key left).rank == (key right).rank && decide (left.id ≤ right.id))

/-- The nodes in the order by a key and then by id. -/
def sortNodes (key : Node → SortKey) (nodes : List Node) : List Node :=
  nodes.mergeSort (Node.precedes key)

/-- Some nodes under the header of their section. -/
structure Bucket where
  /-- The header; the last bucket may have none. -/
  header : Option Node
  /-- The nodes, in order. -/
  nodes : List Node
deriving DecidableEq, Repr

namespace Graph

/-- The headers of the sections that clients may see, in order. -/
def visibleHeaders (graph : Graph) : List Node :=
  sortNodes Node.sectionKey
    ((graph.nodesOfKind .sectionHeader).filter fun node => node.clientVisible)

/-- The client steps that name a section, in order. -/
def sectionSteps (graph : Graph) (sectionId : String) : List Node :=
  sortNodes Node.itemKey
    (graph.nodes.filter fun node => node.isClientStep && node.sectionId == some sectionId)

/-- The client steps that name none of the headers, in order. -/
def unsectionedSteps (graph : Graph) (headers : List Node) : List Node :=
  sortNodes Node.itemKey <| graph.nodes.filter fun node =>
    node.isClientStep && !headers.any fun header => node.sectionId == some header.id

/-- The client steps under the headers of their sections, and those without one in a last bucket. -/
def sections (graph : Graph) : List Bucket :=
  let headers := graph.visibleHeaders
  let sectioned : List Bucket := headers.map fun header =>
    { header := some header, nodes := graph.sectionSteps header.id }
  match graph.unsectionedSteps headers with
  | [] => sectioned
  | rest => sectioned ++ [{ header := none, nodes := rest }]

end Graph

/-- The bucket with only the nodes that the client sees, unless its header is hidden or no node is
left. -/
def View.visibleBucket? (view : View) (bucket : Bucket) : Option Bucket :=
  if bucket.header.all view.isVisible then
    match bucket.nodes.filter view.isVisible with
    | [] => none
    | nodes => some { bucket with nodes }
  else none

/-- The sections as the client sees them now. -/
def View.visibleSections (view : View) : List Bucket :=
  view.graph.sections.filterMap view.visibleBucket?

/-- The required nodes of the buckets that no response completes. -/
def missingRequired (buckets : List Bucket) (responses : ResponseIndex) : List Node :=
  (buckets.flatMap Bucket.nodes).filter fun node =>
    node.required && !responses.completes node.id

end Questionnaire
