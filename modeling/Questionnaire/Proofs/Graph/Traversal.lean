import Questionnaire.Proofs.Graph.Visibility
import Questionnaire.Proofs.Graph.Walks

/-!
# Visibility and traversal

Visibility asks of a node whether an edge to it fires, and traversal lists where the edges from a
node lead that fire. Both read the same edges from their two ends: a node that edges lead to is
reached exactly if traversal comes to it from the source of some edge. Looking the edges up in an
index by target, made once for the graph, finds the same.
-/

namespace Questionnaire

/-! ## Edges by target -/

/-- The index with one more edge, after those with the same target. -/
def addByTarget (index : KeyMap (List Edge)) (edge : Edge) : KeyMap (List Edge) :=
  index.insert edge.target ((index.get? edge.target).getD [] ++ [edge])

/-- The edges of a graph by target; an id that no edge leads to is missing. -/
def Graph.edgesByTarget (graph : Graph) : KeyMap (List Edge) :=
  graph.edges.foldl addByTarget KeyMap.empty

/-- The index keeps what it had of an id, followed by the new edges that lead there. -/
theorem get?_foldl_addByTarget (edges : List Edge) (index : KeyMap (List Edge)) (id : String) :
    (edges.foldl addByTarget index).get? id =
      match edges.filter fun edge => edge.target == id with
      | [] => index.get? id
      | incoming => some ((index.get? id).getD [] ++ incoming) := by
  induction edges generalizing index with
  | nil => rfl
  | cons edge rest inductionHypothesis =>
    rw [List.foldl_cons, inductionHypothesis, addByTarget, KeyMap.get?_insert]
    by_cases leads : edge.target = id
    · have leadsOn : (edge :: rest).filter (fun other => other.target == id) =
          edge :: rest.filter fun other => other.target == id :=
        List.filter_cons_of_pos (beq_iff_eq.2 leads)
      rw [if_pos leads.symm, leadsOn, leads]
      cases rest.filter fun other => other.target == id <;> simp
    · rw [if_neg (Ne.symm leads), List.filter_cons_of_neg (by simpa using leads)]

namespace Graph

theorem get?_edgesByTarget (graph : Graph) (id : String) :
    graph.edgesByTarget.get? id =
      if (graph.incoming id).isEmpty then none else some (graph.incoming id) := by
  rw [edgesByTarget, get?_foldl_addByTarget, ← incoming]
  cases graph.incoming id <;> simp

theorem incoming_eq_nil_iff {graph : Graph} {id : String} :
    graph.incoming id = [] ↔ ∀ edge ∈ graph.edges, edge.target ≠ id := by
  simp only [incoming, List.filter_eq_nil_iff, beq_iff_eq]

end Graph

namespace View

variable {view : View} {node : Node}

/-- In the index by target, an id that is missing and an id with an edge that fires are reached. -/
theorem isReached_eq_all_edgesByTarget (view : View) (node : Node) :
    view.isReached node = (view.graph.edgesByTarget.get? node.id).all fun incoming =>
      incoming.any (Edge.fires view.responses) := by
  rw [Graph.get?_edgesByTarget, isReached]
  cases view.graph.incoming node.id <;> simp

/-- Some edge to the node fires exactly if traversal comes to it from the source of some edge. -/
theorem any_fires_iff_next :
    (view.graph.incoming node.id).any (Edge.fires view.responses) = true ↔
      ∃ edge ∈ view.graph.edges,
        node.id ∈ nextNodeIds view.graph.edges view.responses edge.source := by
  simp only [List.any_eq_true, Graph.incoming, List.mem_filter, beq_iff_eq, mem_nextNodeIds]
  constructor
  · rintro ⟨edge, ⟨inside, leads⟩, fires⟩
    exact ⟨edge, inside, edge, inside, ⟨rfl, fires⟩, leads⟩
  · -- The edge that fires may be another one from the same source.
    rintro ⟨_, _, edge, inside, ⟨_, fires⟩, leads⟩
    exact ⟨edge, ⟨inside, leads⟩, fires⟩

theorem isReached_iff_next :
    view.isReached node = true ↔ (∀ edge ∈ view.graph.edges, edge.target ≠ node.id) ∨
      ∃ edge ∈ view.graph.edges,
        node.id ∈ nextNodeIds view.graph.edges view.responses edge.source := by
  rw [isReached, Bool.or_eq_true, any_fires_iff_next, List.isEmpty_iff, Graph.incoming_eq_nil_iff]

/-- The step that the node stands for, if the catalog has it, is shown, and so is the field, if the
step has it. -/
def LetsThrough (view : View) (node : Node) : Prop :=
  ∀ step ∈ node.formStepId.bind (Catalog.step? view.catalog), step.isShown view.answers = true ∧
    ∀ field ∈ node.formFieldId.bind step.field?, field.isShown view.answers = true

instance (view : View) (node : Node) : Decidable (view.LetsThrough node) :=
  inferInstanceAs (Decidable (∀ step ∈ node.formStepId.bind (Catalog.step? view.catalog),
    step.isShown view.answers = true ∧
      ∀ field ∈ node.formFieldId.bind step.field?, field.isShown view.answers = true))

theorem passesGates_iff_letsThrough : view.passesGates node = true ↔ view.LetsThrough node := by
  rw [passesGates, LetsThrough]
  cases node.formStepId.bind (Catalog.step? view.catalog) with
  | none => simp
  | some step => simp [Option.all_eq_true]

/-- What opens a node to the client: nodes that clients may see, that the gates let through, and
that are structural, led to by no edge or come to by traversal. -/
structure Opens (view : View) (node : Node) : Prop where
  client : node.clientVisible = true
  gates : view.LetsThrough node
  way : node.kind.isStructural = true ∨ (∀ edge ∈ view.graph.edges, edge.target ≠ node.id) ∨
    ∃ edge ∈ view.graph.edges,
      node.id ∈ nextNodeIds view.graph.edges view.responses edge.source

instance (view : View) (node : Node) : Decidable (view.Opens node) :=
  decidable_of_iff
    (node.clientVisible = true ∧ view.LetsThrough node ∧
      (node.kind.isStructural = true ∨ (∀ edge ∈ view.graph.edges, edge.target ≠ node.id) ∨
        ∃ edge ∈ view.graph.edges,
          node.id ∈ nextNodeIds view.graph.edges view.responses edge.source))
    ⟨fun ⟨client, gates, way⟩ => ⟨client, gates, way⟩,
      fun ⟨client, gates, way⟩ => ⟨client, gates, way⟩⟩

theorem isVisible_iff : view.isVisible node = true ↔ view.Opens node := by
  rw [isVisible, Bool.and_eq_true, Bool.and_eq_true, Bool.or_eq_true, passesGates_iff_letsThrough,
    isReached_iff_next]
  constructor
  · rintro ⟨⟨client, gates⟩, way⟩
    exact ⟨client, gates, way⟩
  · rintro ⟨client, gates, way⟩
    exact ⟨⟨client, gates⟩, way⟩

/-- A client sees exactly the nodes that clients may see, that the gates let through, and that are
structural, led to by no edge or come to by traversal; they are listed in the order of the graph. An
index by target finds which nodes are reached. -/
theorem isVisible_iff_opens (view : View) :
    (∀ node, view.isVisible node = true ↔ view.Opens node) ∧
      view.visibleNodes = view.graph.nodes.filter (fun node => decide (view.Opens node)) ∧
      ∀ node, view.isReached node = (view.graph.edgesByTarget.get? node.id).all fun incoming =>
        incoming.any (Edge.fires view.responses) := by
  refine ⟨fun node => isVisible_iff, ?_, view.isReached_eq_all_edgesByTarget⟩
  rw [visibleNodes]
  refine List.filter_congr fun node _ => ?_
  rw [Bool.eq_iff_iff, decide_eq_true_iff, isVisible_iff]

end View

end Questionnaire
