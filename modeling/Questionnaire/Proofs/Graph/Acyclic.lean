import Mathlib.Data.Finset.Card
import Mathlib.Logic.Relation
import Questionnaire.Graph.Cycle

/-!
# Acyclic graphs

An id follows another one when an edge leads there. A graph is acyclic when no id can be reached
from itself along one edge or more, which is so exactly when the ids can be ranked in such a way that
every edge leads to a higher rank.
-/

namespace Questionnaire

namespace Graph

/-- An edge leads from the first id to the second. -/
def Follows (graph : Graph) (source target : String) : Prop :=
  ∃ edge ∈ graph.edges, edge.source = source ∧ edge.target = target

/-- A walk along edges, possibly of none. -/
def Reaches (graph : Graph) : String → String → Prop :=
  Relation.ReflTransGen graph.Follows

/-- The id lies on a directed cycle. -/
def OnCycle (graph : Graph) (id : String) : Prop :=
  Relation.TransGen graph.Follows id id

/-- No id lies on a directed cycle. -/
def Acyclic (graph : Graph) : Prop :=
  ∀ id, ¬ graph.OnCycle id

/-- Every edge leads to a higher rank. -/
def RankedBy (graph : Graph) (rank : String → Nat) : Prop :=
  ∀ edge ∈ graph.edges, rank edge.source < rank edge.target

theorem Follows.of_edge {graph : Graph} {edge : Edge} (member : edge ∈ graph.edges) :
    graph.Follows edge.source edge.target :=
  ⟨edge, member, rfl, rfl⟩

theorem mem_outgoing_target {graph : Graph} {id target : String} :
    target ∈ (graph.outgoing id).map Edge.target ↔ graph.Follows id target := by
  simp only [List.mem_map, outgoing, List.mem_filter, beq_iff_eq, Follows, and_assoc]

/-- A source of an edge is one of the ids of the graph. -/
theorem Follows.source_mem {graph : Graph} {source target : String}
    (follows : graph.Follows source target) : source ∈ graph.allIds := by
  obtain ⟨edge, member, rfl, _⟩ := follows
  simp only [allIds, List.mem_eraseDups, List.mem_append, List.mem_map]
  exact .inl (.inr ⟨edge, member, rfl⟩)

/-- A target of an edge is one of the ids of the graph. -/
theorem Follows.target_mem {graph : Graph} {source target : String}
    (follows : graph.Follows source target) : target ∈ graph.allIds := by
  obtain ⟨edge, member, _, rfl⟩ := follows
  simp only [allIds, List.mem_eraseDups, List.mem_append, List.mem_map]
  exact .inr ⟨edge, member, rfl⟩

theorem node_id_mem_allIds {graph : Graph} {node : Node} (member : node ∈ graph.nodes) :
    node.id ∈ graph.allIds := by
  simp only [allIds, List.mem_eraseDups, List.mem_append, List.mem_map]
  exact .inl (.inl ⟨node, member, rfl⟩)

/-- Ranks rise along every walk. -/
theorem RankedBy.lt {graph : Graph} {rank : String → Nat} (ranked : graph.RankedBy rank)
    {source target : String} (walk : Relation.TransGen graph.Follows source target) :
    rank source < rank target := by
  induction walk with
  | single follows =>
    obtain ⟨edge, member, rfl, rfl⟩ := follows
    exact ranked edge member
  | tail _ follows inductionHypothesis =>
    obtain ⟨edge, member, rfl, rfl⟩ := follows
    exact inductionHypothesis.trans (ranked edge member)

theorem RankedBy.acyclic {graph : Graph} {rank : String → Nat} (ranked : graph.RankedBy rank) :
    graph.Acyclic :=
  fun _ cycle => Nat.lt_irrefl _ (ranked.lt cycle)

open Classical in
/-- The ids of the graph from which a walk of at least one edge leads to the id. -/
noncomputable def ancestors (graph : Graph) (id : String) : Finset String :=
  graph.allIds.toFinset.filter fun other => Relation.TransGen graph.Follows other id

theorem mem_ancestors {graph : Graph} {other id : String} :
    other ∈ graph.ancestors id ↔ Relation.TransGen graph.Follows other id := by
  simp only [ancestors, Finset.mem_filter, List.mem_toFinset]
  refine and_iff_right_of_imp ?_
  intro walk
  obtain ⟨_, follows, _⟩ := Relation.TransGen.head'_iff.1 walk
  exact follows.source_mem

/-- In an acyclic graph every edge leads to an id with more ancestors. -/
theorem Acyclic.rankedBy_ancestors {graph : Graph} (acyclic : graph.Acyclic) :
    graph.RankedBy fun id => (graph.ancestors id).card := by
  intro edge member
  have follows := Follows.of_edge member
  refine Finset.card_lt_card ?_
  rw [Finset.ssubset_iff_of_subset]
  · -- The source is an ancestor of the target, but not of itself.
    refine ⟨edge.source, mem_ancestors.2 (.single follows), ?_⟩
    intro inside
    exact acyclic edge.source (mem_ancestors.1 inside)
  · intro id inside
    exact mem_ancestors.2 ((mem_ancestors.1 inside).tail follows)

/-- A graph is acyclic exactly when its ids can be ranked. -/
theorem acyclic_iff_exists_rankedBy (graph : Graph) :
    graph.Acyclic ↔ ∃ rank, graph.RankedBy rank := by
  constructor
  · intro acyclic
    exact ⟨_, acyclic.rankedBy_ancestors⟩
  · rintro ⟨rank, ranked⟩
    exact ranked.acyclic

end Graph

end Questionnaire
