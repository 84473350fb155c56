import Mathlib.Data.List.Nodup
import Questionnaire.Proofs.Graph.Visibility
import Questionnaire.Proofs.Graph.WellFormed

/-!
# Chains as paths

The edges of a chain pair each id with the next one. A chain from a start to an end is one simple
path through all of its nodes, and has no directed cycle, exactly when no two nodes have one id: an
id that comes back closes a cycle, and distinct ids are ranked by their places.
-/

namespace Questionnaire

/-- The edges of a chain lead from each id to the next one. -/
theorem ends_chainEdges (nodes : List Node) :
    (chainEdges nodes).map (fun edge => (edge.source, edge.target)) =
      (nodes.map Node.id).zip (nodes.map Node.id).tail := by
  fun_induction chainEdges nodes with
  | case1 first second rest inductionHypothesis =>
    rw [List.map_cons, inductionHypothesis]
    rfl
  | case2 nodes short =>
    rcases nodes with _ | ⟨first, _ | ⟨second, rest⟩⟩
    · rfl
    · rfl
    · exact absurd rfl (short first second rest)

/-- Between two ends that are apart and new, only what stands between them can come back. -/
theorem nodup_between_iff {α : Type} {first last : α} {between : List α} (apart : first ≠ last)
    (firstNew : first ∉ between) (lastNew : last ∉ between) :
    (first :: (between ++ [last])).Nodup ↔ between.Nodup := by
  rw [List.nodup_cons, List.nodup_append', List.mem_append, List.mem_singleton]
  constructor
  · rintro ⟨_, distinct, _⟩
    exact distinct
  · intro distinct
    refine ⟨not_or.2 ⟨firstNew, apart⟩, distinct, List.nodup_singleton last, ?_⟩
    exact List.disjoint_singleton.2 lastNew

/-- Ids that begin alike are distinct exactly when what follows is. -/
theorem nodup_map_append_iff {α : Type} (beginning : String) (key : α → String) (items : List α) :
    (items.map fun item => beginning ++ key item).Nodup ↔ (items.map key).Nodup := by
  have mapped : (items.map fun item => beginning ++ key item) =
      (items.map key).map fun text => beginning ++ text := List.map_map.symm
  rw [mapped]
  exact List.nodup_map_iff fun _ _ same => (String.append_right_inj _).1 same

/-- A text that does not begin alike is none of those that do. -/
theorem append_ne_of_begins_apart {beginning other : String}
    (apart : ¬ beginning.toList <+: other.toList) (text : String) : beginning ++ text ≠ other := by
  rintro rfl
  rw [String.toList_append] at apart
  exact apart (List.prefix_append _ _)

namespace Graph

variable {nodes : List Node}

/-- The edges lead, in order and without a condition, from each node to the next one, the first node
is a start and the last one an end, and no id comes back. -/
structure IsSimplePath (graph : Graph) : Prop where
  distinct : (graph.nodes.map Node.id).Nodup
  edges : graph.edges.map (fun edge => (edge.source, edge.target)) =
    (graph.nodes.map Node.id).zip (graph.nodes.map Node.id).tail
  unconditional : ∀ edge ∈ graph.edges, edge.condition = .always
  start : graph.nodes.head?.map Node.kind = some .start
  finish : graph.nodes.getLast?.map Node.kind = some .finish

theorem edgesKnown_chain (nodes : List Node) : (chain nodes).EdgesKnown := by
  intro edge inside
  have ends := List.mem_map_of_mem (f := fun edge => (edge.source, edge.target)) inside
  rw [chain, ends_chainEdges] at ends
  obtain ⟨source, target⟩ := List.of_mem_zip ends
  exact ⟨List.mem_map.1 source, List.mem_map.1 (List.mem_of_mem_tail target)⟩

/-- In a graph with the edges of a chain, each id of the chain follows the one before. -/
theorem isChain_follows {graph : Graph} (nodes : List Node)
    (edges : ∀ edge ∈ chainEdges nodes, edge ∈ graph.edges) :
    (nodes.map Node.id).IsChain graph.Follows := by
  fun_induction chainEdges nodes with
  | case1 first second rest inductionHypothesis =>
    obtain ⟨here, later⟩ := List.forall_mem_cons.1 edges
    exact List.isChain_cons_cons.2 ⟨.of_edge here, inductionHypothesis later⟩
  | case2 nodes short =>
    rcases nodes with _ | ⟨first, _ | ⟨second, rest⟩⟩
    · exact .nil
    · exact .singleton _
    · exact absurd rfl (short first second rest)

/-- Distinct ids of a chain are ranked by their places. -/
theorem rankedBy_chain (distinct : (nodes.map Node.id).Nodup) :
    (chain nodes).RankedBy (nodes.map Node.id).idxOf := by
  intro edge inside
  dsimp only [chain] at inside ⊢
  fun_induction chainEdges nodes with
  | case1 first second rest inductionHypothesis =>
    obtain ⟨isNew, distinctRest⟩ := List.nodup_cons.1 distinct
    have shifted {id : String} (later : id ∈ (second :: rest).map Node.id) :
        ((first :: second :: rest).map Node.id).idxOf id =
          ((second :: rest).map Node.id).idxOf id + 1 :=
      List.idxOf_cons_ne _ fun same => isNew (same ▸ later)
    rcases List.mem_cons.1 inside with rfl | later
    · change List.idxOf first.id _ < List.idxOf second.id _
      rw [shifted List.mem_cons_self, List.map_cons, List.idxOf_cons_self]
      exact Nat.succ_pos _
    · obtain ⟨⟨_, source, sameSource⟩, _, target, sameTarget⟩ := edgesKnown_chain _ edge later
      rw [shifted (List.mem_map.2 ⟨_, source, sameSource⟩),
        shifted (List.mem_map.2 ⟨_, target, sameTarget⟩)]
      exact Nat.succ_lt_succ (inductionHypothesis distinctRest later)
  | case2 => exact absurd inside List.not_mem_nil

/-- A chain has no directed cycle exactly when no id comes back. -/
theorem acyclic_chain_iff (nodes : List Node) :
    (chain nodes).Acyclic ↔ (nodes.map Node.id).Nodup := by
  constructor
  · intro acyclic
    have follows : (nodes.map Node.id).IsChain (chain nodes).Follows :=
      isChain_follows nodes fun _ inside => inside
    have walks : (nodes.map Node.id).Pairwise (Relation.TransGen (chain nodes).Follows) :=
      (follows.imp fun _ _ => .single).pairwise
    refine List.Pairwise.imp ?_ walks
    rintro id _ walk rfl
    exact acyclic id walk
  · intro distinct
    exact (rankedBy_chain distinct).acyclic

/-- A chain from a start to an end is a simple path exactly when no id comes back. -/
theorem isSimplePath_chain_iff {start finish : Node} {between : List Node}
    (isStart : start.kind = .start) (isFinish : finish.kind = .finish) :
    (chain (start :: (between ++ [finish]))).IsSimplePath ↔
      ((start :: (between ++ [finish])).map Node.id).Nodup := by
  constructor
  · exact IsSimplePath.distinct
  · intro distinct
    refine ⟨distinct, ends_chainEdges _, fun _ => condition_of_mem_chainEdges, ?_, ?_⟩
    · rw [chain, List.head?_cons, Option.map_some, isStart]
    · rw [chain, ← List.cons_append, List.getLast?_concat, Option.map_some, isFinish]

/-- A chain from a start to an end, with sound nodes in between, is valid exactly when no id comes
back. -/
theorem check_chain_isValid_iff {start finish : Node} {between : List Node}
    (isStart : start.kind = .start) (isFinish : finish.kind = .finish)
    (sound : ∀ node ∈ between, nodeDefects node = []) (limit : Nat) :
    ((chain (start :: (between ++ [finish]))).check limit).isValid = true ↔
      ((start :: (between ++ [finish])).map Node.id).Nodup := by
  have isSound : ∀ node ∈ start :: (between ++ [finish]), nodeDefects node = [] := by
    refine List.forall_mem_cons.2 ⟨by simp [nodeDefects_eq_nil_iff, isStart], ?_⟩
    refine List.forall_mem_append.2 ⟨sound, List.forall_mem_singleton.2 ?_⟩
    simp [nodeDefects_eq_nil_iff, isFinish]
  rw [check_isValid_iff, structureDefects_eq_nil_iff, acyclic_chain_iff]
  constructor
  · rintro ⟨⟨_, _, _, distinct⟩, _⟩
    exact distinct
  · intro distinct
    refine ⟨⟨⟨start, List.mem_cons_self, isStart⟩, ⟨finish, ?_, isFinish⟩, edgesKnown_chain _,
      distinct⟩, isSound⟩
    exact List.mem_cons_of_mem _ (List.mem_append_right _ List.mem_cons_self)

end Graph

end Questionnaire
