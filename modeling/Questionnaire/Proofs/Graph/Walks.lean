import Mathlib.Data.List.Dedup
import Mathlib.Data.List.Chain
import Questionnaire.Graph.Firing
import Questionnaire.Proofs.Graph.WellFormed
import Questionnaire.Response.Table

/-!
# Walks through a graph

The runtime goes on from an id to one of those that come next for the responses at that step.
Whatever the responses are, each step follows an edge, so that the ids of a walk rise in rank: a
walk through a valid graph comes to no id twice and is over when the nodes are.
-/

namespace Questionnaire

theorem mem_nextNodeIds {edges : List Edge} {responses : ResponseIndex} {source target : String} :
    target ∈ nextNodeIds edges responses source ↔
      ∃ edge ∈ edges, (edge.source = source ∧ edge.fires responses = true) ∧
        edge.target = target := by
  simp only [nextNodeIds, List.mem_map, List.mem_filter, Bool.and_eq_true, beq_iff_eq, and_assoc]

namespace Graph

/-- Each id is one of those that come next after the id before it, for the responses at that
step. -/
def IsWalk (graph : Graph) (responsesAt : Nat → ResponseIndex) (ids : List String) : Prop :=
  ∀ (step : Nat) (inside : step + 1 < ids.length),
    ids[step + 1] ∈ nextNodeIds graph.edges (responsesAt step) ids[step]

instance (graph : Graph) (responsesAt : Nat → ResponseIndex) (ids : List String) :
    Decidable (graph.IsWalk responsesAt ids) :=
  decidable_of_iff
    (∀ step : Fin (ids.length - 1),
      ids[step.val + 1] ∈ nextNodeIds graph.edges (responsesAt step) ids[step.val])
    ⟨fun each step inside => each ⟨step, by omega⟩, fun walk step => walk step (by omega)⟩

variable {graph : Graph} {responsesAt : Nat → ResponseIndex} {ids : List String}

/-- Whatever comes next follows along an edge. -/
theorem follows_of_mem_nextNodeIds {responses : ResponseIndex} {source target : String}
    (next : target ∈ nextNodeIds graph.edges responses source) : graph.Follows source target := by
  obtain ⟨edge, inside, ⟨same, _⟩, leads⟩ := mem_nextNodeIds.1 next
  exact ⟨edge, inside, same, leads⟩

theorem IsWalk.isChain (walk : graph.IsWalk responsesAt ids) : ids.IsChain graph.Follows :=
  List.isChain_iff_getElem.2 fun step inside => follows_of_mem_nextNodeIds (walk step inside)

/-- Where the ids are ranked, a walk comes to no id twice. -/
theorem RankedBy.nodup {rank : String → Nat} (ranked : graph.RankedBy rank)
    (chain : ids.IsChain graph.Follows) : ids.Nodup := by
  have rising : (ids.map rank).IsChain (· < ·) := by
    refine (List.isChain_map rank).2 (chain.imp fun _ _ follows => ?_)
    exact ranked.lt (.single follows)
  exact List.Nodup.of_map rank (List.isChain_iff_pairwise.1 rising).nodup

/-- A walk of several ids comes only to nodes. -/
theorem EdgesKnown.mem_ids (known : graph.EdgesKnown) (chain : ids.IsChain graph.Follows)
    (several : 2 ≤ ids.length) : ∀ id ∈ ids, id ∈ graph.nodes.map Node.id := by
  have isNode {id : String} (named : ∃ node ∈ graph.nodes, node.id = id) :
      id ∈ graph.nodes.map Node.id :=
    List.mem_map.2 named
  intro id inside
  obtain ⟨place, bound, rfl⟩ := List.mem_iff_getElem.1 inside
  -- Every id but the last starts an edge, and every id but the first ends one.
  by_cases last : place + 1 < ids.length
  · obtain ⟨edge, member, starts, _⟩ := List.isChain_iff_getElem.1 chain place last
    exact starts ▸ isNode (known edge member).1
  · obtain ⟨before, rfl⟩ : ∃ before, place = before + 1 := ⟨place - 1, by omega⟩
    obtain ⟨edge, member, _, ends⟩ := List.isChain_iff_getElem.1 chain before bound
    exact ends ▸ isNode (known edge member).2

/-- Through a valid graph every walk comes to no id twice, whatever the responses are at each step;
if it is more than its first id, it is not longer than the graph has ids of nodes. So no walk goes
on for ever. -/
theorem isWalk_bounded {limit : Nat} (valid : (graph.check limit).isValid = true)
    (responsesAt : Nat → ResponseIndex) :
    (∀ ids, graph.IsWalk responsesAt ids → ids.Nodup ∧
        ((∃ id, ids = [id]) ∨ ids.length ≤ (graph.nodes.map Node.id).dedup.length)) ∧
      ∀ idAt : Nat → String, ∃ step,
        idAt (step + 1) ∉ nextNodeIds graph.edges (responsesAt step) (idAt step) := by
  have wellFormed : graph.WellFormed := (check_isValid_iff_wellFormed graph limit).1.1 valid
  obtain ⟨rank, ranked⟩ := graph.acyclic_iff_exists_rankedBy.1 wellFormed.acyclic
  have bounded (ids : List String) (walk : graph.IsWalk responsesAt ids)
      (several : 2 ≤ ids.length) : ids.length ≤ (graph.nodes.map Node.id).dedup.length := by
    refine (ranked.nodup walk.isChain).subperm (fun id inside => ?_) |>.length_le
    exact List.mem_dedup.2 (wellFormed.edges.mem_ids walk.isChain several id inside)
  refine ⟨fun ids walk => ⟨ranked.nodup walk.isChain, ?_⟩, fun idAt => ?_⟩
  · match ids with
    | [] => exact .inr (Nat.zero_le _)
    | [id] => exact .inl ⟨id, rfl⟩
    | first :: second :: rest => exact .inr (bounded _ walk (by simp))
  · by_contra endless
    -- Cut off late enough, an endless walk would be too long.
    let ids := (List.range ((graph.nodes.map Node.id).dedup.length + 2)).map idAt
    have walk : graph.IsWalk responsesAt ids := by
      intro step inside
      have goesOn := not_exists.1 endless step
      simpa [ids] using goesOn
    have tooLong := bounded ids walk (by simp [ids])
    rw [List.length_map, List.length_range] at tooLong
    omega

/-- A walk along a branch that an answer opens after the first step, in a graph with another node
that the walk leaves out. -/
theorem isWalk_bounded_branch :
    let decision : Node := { Node.ofKind .decision "d" with labels := [.income] }
    let task : Node := .ofKind .task "t"
    let edge (source target : String) (condition : EdgeCondition) : Edge :=
      { id := source ++ target, source, target, condition }
    let graph : Graph :=
      { nodes := [.ofKind .start "s", decision, task, .ofKind .finish "e"]
        edges := [edge "s" "d" .always, edge "d" "t" .no, edge "t" "e" .always,
          edge "d" "e" .yes] }
    let responsesAt (step : Nat) : ResponseIndex :=
      .ofList (if step = 0 then [] else [.answered "a" "d" (.bool true) .epoch])
    let ids := ["s", "d", "e"]
    (graph.check 10).isValid = true ∧ graph.IsWalk responsesAt ids ∧
      nextNodeIds graph.edges (responsesAt 0) "d" = [] ∧ ids.Nodup ∧
      ((∃ id, ids = [id]) ∨ ids.length ≤ (graph.nodes.map Node.id).dedup.length) := by
  intro decision task edge graph responsesAt ids
  have valid : (graph.check 10).isValid = true := by decide +kernel
  have walk : graph.IsWalk responsesAt ids := by decide +kernel
  obtain ⟨distinct, short⟩ := (isWalk_bounded valid responsesAt).1 ids walk
  exact ⟨valid, walk, by decide +kernel, distinct, short⟩

end Graph

end Questionnaire
