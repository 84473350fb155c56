import Questionnaire.Graph.Chain
import Questionnaire.Graph.Visibility
import Questionnaire.Proofs.Response.Agreement

/-!
# What visibility depends on

Visibility reads the responses in two ways: through the answers of the form that the gates see, and
through the edges that lead to a node. Views with the same gates whose responses agree at the
sources of these edges show the same. Edges without a condition hide nothing.
-/

namespace Questionnaire

theorem condition_of_mem_chainEdges {nodes : List Node} {edge : Edge}
    (inside : edge ∈ chainEdges nodes) : edge.condition = .always := by
  fun_induction chainEdges nodes with
  | case1 first second rest inductionHypothesis =>
    rcases List.mem_cons.1 inside with rfl | later
    · rfl
    · exact inductionHypothesis later
  | case2 => exact absurd inside List.not_mem_nil

namespace View

variable {left right : View} {node : Node}

theorem clientVisible_of_isVisible {view : View} (visible : view.isVisible node = true) :
    node.clientVisible = true := by
  rw [isVisible, Bool.and_eq_true, Bool.and_eq_true] at visible
  exact visible.1.1

theorem passesGates_of_same (sameCatalog : left.catalog = right.catalog)
    (sameAnswers : left.answers = right.answers) (node : Node) :
    left.passesGates node = right.passesGates node := by
  rw [passesGates, passesGates, sameCatalog, sameAnswers]

/-- Responses that agree at the sources of the edges to a node reach it alike. -/
theorem isReached_of_agreeAt (sameGraph : left.graph = right.graph)
    (agree : ∀ edge ∈ left.graph.incoming node.id,
      left.responses.AgreeAt right.responses edge.source) :
    left.isReached node = right.isReached node := by
  have fires : (left.graph.incoming node.id).any (Edge.fires left.responses) =
      (left.graph.incoming node.id).any (Edge.fires right.responses) := by
    rw [Bool.eq_iff_iff, List.any_eq_true, List.any_eq_true]
    refine exists_congr fun edge => and_congr_right fun inside => ?_
    rw [(agree edge inside).fires]
  rw [isReached, isReached, fires, sameGraph]

/-- A node is seen alike in views with the same gates whose responses agree at the sources of the
edges to it. -/
theorem isVisible_of_agreeAt (sameGraph : left.graph = right.graph)
    (sameCatalog : left.catalog = right.catalog) (sameAnswers : left.answers = right.answers)
    (agree : ∀ edge ∈ left.graph.incoming node.id,
      left.responses.AgreeAt right.responses edge.source) :
    left.isVisible node = right.isVisible node := by
  rw [isVisible, isVisible, passesGates_of_same sameCatalog sameAnswers,
    isReached_of_agreeAt sameGraph agree]

/-- Responses that agree at every node show the same. -/
theorem isVisible_ofResponses_of_agreeAt {responses others : ResponseIndex}
    (agree : ∀ nodeId, responses.AgreeAt others nodeId) (graph : Graph) (catalog : Catalog) :
    (ofResponses graph responses catalog).isVisible =
      (ofResponses graph others catalog).isVisible := by
  funext node
  have sameAnswers : FormAnswers.ofResponses graph responses =
      FormAnswers.ofResponses graph others :=
    ResponseIndex.formAnswers_of_agreeAt fun node _ _ => agree node.id
  exact isVisible_of_agreeAt rfl rfl sameAnswers fun edge _ => agree edge.source

/-- Where all edges are unconditional, every node is reached. -/
theorem isReached_of_unconditional {view : View}
    (unconditional : ∀ edge ∈ view.graph.edges, edge.condition = .always) (node : Node) :
    view.isReached node = true := by
  rw [isReached, Bool.or_eq_true]
  cases leads : view.graph.incoming node.id with
  | nil => exact .inl rfl
  | cons edge rest =>
    have inside : edge ∈ view.graph.edges :=
      List.mem_of_mem_filter (leads ▸ List.mem_cons_self : edge ∈ view.graph.incoming node.id)
    have fires : edge.fires view.responses = true := by
      rw [Edge.fires, unconditional edge inside, EdgeCondition.fires]
    exact .inr (List.any_eq_true.2 ⟨edge, List.mem_cons_self, fires⟩)

/-- In a chain, what a client sees depends on the gates only. -/
theorem isVisible_of_chain {view : View} {nodes : List Node} (isChain : view.graph = .chain nodes)
    (node : Node) : view.isVisible node = (node.clientVisible && view.passesGates node) := by
  have unconditional : ∀ edge ∈ view.graph.edges, edge.condition = .always :=
    fun edge inside => condition_of_mem_chainEdges (isChain ▸ inside)
  rw [isVisible, isReached_of_unconditional unconditional, Bool.or_true, Bool.and_true]

end View

end Questionnaire
