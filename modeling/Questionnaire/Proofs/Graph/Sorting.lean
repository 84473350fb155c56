import Mathlib.Data.List.Nodup
import Mathlib.Data.Prod.Lex
import Mathlib.Data.String.Basic
import Questionnaire.Graph.Sections

/-!
# Nodes in order

Nodes stand in the order of a sort key and then of their ids. Sorting keeps all of them and puts
them in this order. With distinct ids no two stand at one place, so that sorting has one outcome:
it does not matter whether some nodes are left out, or changed without a change of the order, before
or after it.
-/

namespace Questionnaire

section

variable {α β : Type} [LinearOrder β]

/-- Sorting puts items in the order of their keys. -/
theorem pairwise_mergeSort_key (key : α → β) (items : List α) :
    (items.mergeSort fun left right => decide (key left ≤ key right)).Pairwise
      fun left right => key left ≤ key right := by
  refine (List.pairwise_mergeSort (fun _ _ _ first second => ?_) (fun left right => ?_) items).imp
    of_decide_eq_true
  · exact decide_eq_true ((of_decide_eq_true first).trans (of_decide_eq_true second))
  · rw [Bool.or_eq_true, decide_eq_true_eq, decide_eq_true_eq]
    exact le_total _ _

/-- Sorting items with distinct keys puts them in strict order. -/
theorem pairwise_mergeSort_of_distinct {key : α → β} {items : List α}
    (distinct : (items.map key).Nodup) :
    (items.mergeSort fun left right => decide (key left ≤ key right)).Pairwise
      fun left right => key left < key right := by
  have perm := List.mergeSort_perm items fun left right => decide (key left ≤ key right)
  have apart := List.pairwise_map.1 ((perm.map key).nodup_iff.2 distinct)
  exact ((pairwise_mergeSort_key key items).and apart).imp fun both => both.1.lt_of_ne both.2

end

theorem perm_sortNodes (key : Node → SortKey) (nodes : List Node) :
    (sortNodes key nodes).Perm nodes :=
  List.mergeSort_perm nodes _

namespace Node

/-- Where a node stands in the order by a sort key and then by id. -/
def standing (key : Node → SortKey) (node : Node) : Int ×ₗ String :=
  toLex ((key node).rank, node.id)

variable {key : Node → SortKey} {left right : Node} {nodes : List Node}

theorem standing_le_standing_iff :
    standing key left ≤ standing key right ↔ precedes key left right = true := by
  rw [standing, standing, Prod.Lex.toLex_le_toLex, precedes]
  simp only [Bool.or_eq_true, Bool.and_eq_true, decide_eq_true_eq, beq_iff_eq]

theorem id_eq_of_standing_eq (same : standing key left = standing key right) :
    left.id = right.id :=
  congrArg Prod.snd (toLex.injective same)

theorem nodup_standing (distinct : (nodes.map Node.id).Nodup) :
    (nodes.map (standing key)).Nodup := by
  have projected : nodes.map Node.id = (nodes.map (standing key)).map fun place =>
      (ofLex place).2 := by
    rw [List.map_map]
    rfl
  rw [projected] at distinct
  exact distinct.of_map _

theorem sortNodes_eq (key : Node → SortKey) (nodes : List Node) :
    sortNodes key nodes =
      nodes.mergeSort fun left right => decide (standing key left ≤ standing key right) := by
  have sameOrder : precedes key = fun left right =>
      decide (standing key left ≤ standing key right) := by
    funext left right
    rw [Bool.eq_iff_iff, decide_eq_true_eq, standing_le_standing_iff]
  rw [sortNodes, sameOrder]

/-- Sorting puts nodes in the order in which they stand. -/
theorem pairwise_sortNodes (key : Node → SortKey) (nodes : List Node) :
    (sortNodes key nodes).Pairwise fun left right => standing key left ≤ standing key right := by
  rw [sortNodes_eq]
  exact pairwise_mergeSort_key _ _

/-- Of nodes with distinct ids, no two stand at one place. -/
theorem pairwise_sortNodes_of_distinct (distinct : (nodes.map Node.id).Nodup) :
    (sortNodes key nodes).Pairwise fun left right => standing key left < standing key right := by
  rw [sortNodes_eq]
  exact pairwise_mergeSort_of_distinct (nodup_standing distinct)

/-- Nodes in strict order are what sorting makes of them in any order. -/
theorem eq_sortNodes {sorted : List Node} (same : sorted.Perm nodes)
    (ordered : sorted.Pairwise fun left right => standing key left < standing key right) :
    sorted = sortNodes key nodes := by
  have apart : (sorted.map (standing key)).Nodup := List.pairwise_map.2 (ordered.imp LT.lt.ne)
  have distinct : (nodes.map (standing key)).Nodup := (same.map _).nodup_iff.1 apart
  rw [sortNodes_eq]
  exact (same.trans (List.mergeSort_perm nodes _).symm).eq_of_pairwise
    (fun _ _ _ _ less greater => absurd greater less.not_gt) ordered
    (pairwise_mergeSort_of_distinct distinct)

/-- Changes that keep the order may be made before or after sorting. -/
theorem sortNodes_map {change : Node → Node}
    (kept : ∀ left ∈ nodes, ∀ right ∈ nodes,
      standing key (change left) < standing key (change right) ↔
        standing key left < standing key right) :
    sortNodes key (nodes.map change) = (sortNodes key nodes).map change := by
  rw [sortNodes_eq, sortNodes_eq]
  refine (List.map_mergeSort fun left isLeft right isRight => ?_).symm
  rw [decide_eq_decide, ← not_lt, ← not_lt, kept right isRight left isLeft]

/-- Of nodes with distinct ids, some may be left out before or after sorting. -/
theorem filter_sortNodes (distinct : (nodes.map Node.id).Nodup) (test : Node → Bool) :
    (sortNodes key nodes).filter test = sortNodes key (nodes.filter test) :=
  eq_sortNodes ((perm_sortNodes key nodes).filter test)
    ((pairwise_sortNodes_of_distinct distinct).filter _)

end Node

end Questionnaire
