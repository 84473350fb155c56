import Mathlib.Data.List.Nodup
import Mathlib.Data.Prod.Lex
import Mathlib.Data.String.Basic
import Questionnaire.Graph.Ordering
import Questionnaire.Proofs.Graph.Sorting

/-!
# Ranks and spaced order numbers

The rank of an item in a list is the number of items there that have a lesser key. Where keys are
distinct, sorting puts each item at the place of its rank. When the sort keys of nodes are replaced
by the order numbers of their ranks, the numbers of the ranks after that are the same again,
although great ranks share one number.
-/

namespace Questionnaire

section

variable {α β : Type} [LinearOrder β] {key : α → β} {items : List α} {item other : α}

/-- The number of items with a lesser key. -/
def rankIn (key : α → β) (items : List α) (item : α) : Nat :=
  items.countP fun other => key other < key item

theorem rankIn_perm {others : List α} (same : items.Perm others) :
    rankIn key items = rankIn key others :=
  funext fun _ => same.countP_eq _

theorem rankIn_cons (first : α) (rest : List α) (item : α) :
    rankIn key (first :: rest) item =
      rankIn key rest item + if key first < key item then 1 else 0 := by
  simp only [rankIn, List.countP_cons, decide_eq_true_eq]

theorem rankIn_le_rankIn (notLess : key item ≤ key other) :
    rankIn key items item ≤ rankIn key items other := by
  refine List.countP_mono_left fun before _ less => ?_
  simp only [decide_eq_true_eq] at less ⊢
  exact less.trans_le notLess

/-- Ranks are in the order of the keys. -/
theorem rankIn_lt_rankIn_iff (inside : item ∈ items) :
    rankIn key items item < rankIn key items other ↔ key item < key other := by
  refine ⟨fun less => ?_, fun less => ?_⟩
  · by_contra notLess
    have atMost : rankIn key items other ≤ rankIn key items item :=
      rankIn_le_rankIn (not_lt.1 notLess)
    exact absurd less (not_lt.2 atMost)
  · -- The item itself counts for the greater key only.
    induction items with
    | nil => exact absurd inside List.not_mem_nil
    | cons first rest inductionHypothesis =>
      have restLess : rankIn key rest item ≤ rankIn key rest other := rankIn_le_rankIn less.le
      rw [rankIn_cons, rankIn_cons]
      rcases List.mem_cons.1 inside with rfl | later
      · rw [if_neg (lt_irrefl _), if_pos less]
        omega
      · have strictly := inductionHypothesis later
        by_cases firstLess : key first < key item
        · rw [if_pos firstLess, if_pos (firstLess.trans less)]
          omega
        · rw [if_neg firstLess]
          omega

theorem rankIn_eq_rankIn_iff (inside : item ∈ items) (otherInside : other ∈ items) :
    rankIn key items item = rankIn key items other ↔ key item = key other := by
  refine ⟨fun same => ?_, fun same => ?_⟩
  · refine le_antisymm (not_lt.1 fun less => ?_) (not_lt.1 fun less => ?_)
    · exact same.not_gt ((rankIn_lt_rankIn_iff otherInside).2 less)
    · exact same.not_lt ((rankIn_lt_rankIn_iff inside).2 less)
  · exact le_antisymm (rankIn_le_rankIn same.le) (rankIn_le_rankIn same.ge)

/-- In a list that is in strict order, the ranks are the places. -/
theorem map_rankIn_of_pairwise
    (ordered : items.Pairwise fun left right => key left < key right) :
    items.map (rankIn key items) = List.range items.length := by
  induction items with
  | nil => rfl
  | cons first rest inductionHypothesis =>
    obtain ⟨least, restOrdered⟩ := List.pairwise_cons.1 ordered
    have firstRank : rankIn key (first :: rest) first = 0 := by
      refine List.countP_eq_zero.2 fun other inside less => ?_
      rcases List.mem_cons.1 inside with rfl | later
      · exact lt_irrefl _ (of_decide_eq_true less)
      · exact lt_asymm (least other later) (of_decide_eq_true less)
    have restRanks : rest.map (rankIn key (first :: rest)) =
        (rest.map (rankIn key rest)).map Nat.succ := by
      rw [List.map_map]
      refine List.map_congr_left fun item inside => ?_
      rw [rankIn_cons, if_pos (least item inside)]
      rfl
    rw [List.map_cons, firstRank, restRanks, inductionHypothesis restOrdered, List.length_cons,
      List.range_succ_eq_map]

/-- Sorting puts each item at the place of its rank. -/
theorem map_rankIn_mergeSort (distinct : (items.map key).Nodup) :
    (items.mergeSort fun left right => decide (key left ≤ key right)).map (rankIn key items) =
      List.range items.length := by
  have perm := List.mergeSort_perm items fun left right => decide (key left ≤ key right)
  rw [← rankIn_perm perm, map_rankIn_of_pairwise (pairwise_mergeSort_of_distinct distinct),
    perm.length_eq]

theorem rankIn_lt_length (distinct : (items.map key).Nodup) (inside : item ∈ items) :
    rankIn key items item < items.length := by
  rw [← List.mem_range, ← map_rankIn_mergeSort distinct]
  exact List.mem_map_of_mem (List.mem_mergeSort.2 inside)

/-- Every place is the rank of an item. -/
theorem exists_rankIn_eq (distinct : (items.map key).Nodup) {rank : Nat}
    (inRange : rank < items.length) : ∃ item ∈ items, rankIn key items item = rank := by
  rw [← List.mem_range, ← map_rankIn_mergeSort distinct] at inRange
  obtain ⟨item, inside, isRank⟩ := List.mem_map.1 inRange
  exact ⟨item, List.mem_mergeSort.1 inside, isRank⟩

end

/-- Order numbers are spaced by 1000 up to the greatest number of 32 bits. -/
theorem toNat_spacedOrder (place : Nat) :
    (spacedOrder place).toNat = min (1000 * (place + 1)) (2 ^ 32 - 1) := by
  rw [spacedOrder, Nat.toUInt32, UInt32.toNat_ofNat']
  omega

theorem SortKey.rank_order_lt_iff {left right : UInt32} :
    (order left).rank < (order right).rank ↔ left.toNat < right.toNat := by
  have positive : (0 : Int) < 2 ^ 1075 := Int.pow_pos (by decide)
  rw [rank, rank, Int.mul_lt_mul_right positive, Int.ofNat_lt]

theorem SortKey.rank_order_eq_iff {left right : UInt32} :
    (order left).rank = (order right).rank ↔ left.toNat = right.toNat := by
  have nonzero : (2 ^ 1075 : Int) ≠ 0 := (Int.pow_pos (by decide)).ne'
  rw [rank, rank, Int.mul_eq_mul_right_iff nonzero, Int.ofNat_inj]

namespace Node

variable {key : Node → SortKey} {node left right : Node} {nodes : List Node}

/-- The nodes in order have the ranks from zero on. -/
theorem map_rankIn_sortNodes (distinct : (nodes.map Node.id).Nodup) :
    (sortNodes key nodes).map (rankIn (standing key) nodes) = List.range nodes.length := by
  rw [sortNodes_eq]
  exact map_rankIn_mergeSort (nodup_standing distinct)

/-- Each node is numbered by its rank. -/
theorem spacedOrders_sortNodes (distinct : (nodes.map Node.id).Nodup) :
    spacedOrders (sortNodes key nodes) = (sortNodes key nodes).map fun node =>
      (node.id, spacedOrder (rankIn (standing key) nodes node)) := by
  have places : (sortNodes key nodes).zipIdx =
      (sortNodes key nodes).map fun node => (node, rankIn (standing key) nodes node) := by
    have length : (sortNodes key nodes).length = nodes.length := List.length_mergeSort _
    rw [List.zipIdx_eq_zip_range', length, ← List.range_eq_range', ← map_rankIn_sortNodes distinct]
    nth_rewrite 1 [← List.map_id (sortNodes key nodes)]
    exact List.zip_map'
  rw [spacedOrders, places, List.map_map]
  rfl

/-- The changed nodes keep their ids, and their sort keys are the order numbers of the ranks. -/
def IsNumberedBy (key : Node → SortKey) (nodes : List Node) (change : Node → Node) : Prop :=
  ∀ node ∈ nodes, (change node).id = node.id ∧
    key (change node) = .order (spacedOrder (rankIn (standing key) nodes node))

namespace IsNumberedBy

variable {change : Node → Node}

/-- Changed nodes stand by their numbers, and where these agree by id. -/
theorem standing_lt_iff (numbered : IsNumberedBy key nodes change) (isLeft : left ∈ nodes)
    (isRight : right ∈ nodes) :
    standing key (change left) < standing key (change right) ↔
      min (1000 * (rankIn (standing key) nodes left + 1)) (2 ^ 32 - 1) <
          min (1000 * (rankIn (standing key) nodes right + 1)) (2 ^ 32 - 1) ∨
        min (1000 * (rankIn (standing key) nodes left + 1)) (2 ^ 32 - 1) =
          min (1000 * (rankIn (standing key) nodes right + 1)) (2 ^ 32 - 1) ∧
        left.id < right.id := by
  obtain ⟨leftId, leftKey⟩ := numbered left isLeft
  obtain ⟨rightId, rightKey⟩ := numbered right isRight
  rw [standing, standing, Prod.Lex.toLex_lt_toLex, leftId, rightId, leftKey, rightKey,
    SortKey.rank_order_lt_iff, SortKey.rank_order_eq_iff, toNat_spacedOrder, toNat_spacedOrder]

/-- As long as one of two numbers is not the greatest, or few nodes have the greatest, the changed
nodes stand in the order in which they stood. -/
theorem standing_lt_iff_of_rankIn (numbered : IsNumberedBy key nodes change) (isLeft : left ∈ nodes)
    (isRight : right ∈ nodes)
    (small : rankIn (standing key) nodes right ≤ 4294966 ∨
      rankIn (standing key) nodes left ≤ 4294967 ∧ rankIn (standing key) nodes right ≤ 4294967) :
    standing key (change left) < standing key (change right) ↔
      standing key left < standing key right := by
  have ranks : rankIn (standing key) nodes left < rankIn (standing key) nodes right ↔
      standing key left < standing key right := rankIn_lt_rankIn_iff isLeft
  rw [numbered.standing_lt_iff isLeft isRight, ← ranks]
  constructor
  · rintro (less | ⟨same, less⟩)
    · omega
    · have sameRank : rankIn (standing key) nodes left = rankIn (standing key) nodes right := by
        omega
      rw [rankIn_eq_rankIn_iff isLeft isRight] at sameRank
      rw [id_eq_of_standing_eq sameRank] at less
      exact absurd less (lt_irrefl _)
  · intro less
    omega

/-- Where at most one node would be numbered past the greatest number, the order stays. -/
theorem standing_lt_iff_of_few (numbered : IsNumberedBy key nodes change)
    (distinct : (nodes.map Node.id).Nodup) (few : nodes.length < 4294968) (isLeft : left ∈ nodes)
    (isRight : right ∈ nodes) :
    standing key (change left) < standing key (change right) ↔
      standing key left < standing key right := by
  have apart : (nodes.map (standing key)).Nodup := nodup_standing distinct
  have leftRank := rankIn_lt_length apart isLeft
  have rightRank := rankIn_lt_length apart isRight
  exact numbered.standing_lt_iff_of_rankIn isLeft isRight (.inr (by omega))

/-- Changed nodes would be given the numbers that they have: the rank of a node stays, or is so
great before and after that its number is the greatest. -/
theorem spacedOrder_rankIn (numbered : IsNumberedBy key nodes change)
    (distinct : (nodes.map Node.id).Nodup) (inside : node ∈ nodes) :
    spacedOrder (rankIn (standing key) (nodes.map change) (change node)) =
      spacedOrder (rankIn (standing key) nodes node) := by
  have changedRank : rankIn (standing key) (nodes.map change) (change node) =
      nodes.countP fun other => standing key (change other) < standing key (change node) :=
    List.countP_map
  by_cases small : rankIn (standing key) nodes node ≤ 4294966
  · rw [changedRank]
    refine congrArg spacedOrder (List.countP_congr fun other isOther => ?_)
    rw [decide_eq_true_eq, decide_eq_true_eq,
      numbered.standing_lt_iff_of_rankIn isOther inside (.inl small)]
  · -- As many nodes as have a lesser number than the greatest stand before the changed node.
    have apart : (nodes.map (standing key)).Nodup := nodup_standing distinct
    have more := rankIn_lt_length apart inside
    have many : 4294967 < nodes.length := by omega
    obtain ⟨bound, isBound, boundRank⟩ := exists_rankIn_eq apart many
    have enough : 4294967 ≤ rankIn (standing key) (nodes.map change) (change node) := by
      rw [changedRank, ← boundRank]
      refine List.countP_mono_left fun other isOther less => ?_
      rw [decide_eq_true_eq, ← rankIn_lt_rankIn_iff isOther, boundRank] at less
      rw [decide_eq_true_eq, numbered.standing_lt_iff isOther inside]
      omega
    refine UInt32.toNat_inj.1 ?_
    rw [toNat_spacedOrder, toNat_spacedOrder]
    omega

end IsNumberedBy

end Node

end Questionnaire
