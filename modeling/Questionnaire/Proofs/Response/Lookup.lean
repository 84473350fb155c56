import Mathlib.Data.List.Nodup
import Questionnaire.Proofs.KeyMap
import Questionnaire.Response.Table

/-!
# First and last responses

The store looks up the first response of an assignment to a node, and the evaluators index the last
one. Both are read off the list of all responses with this key, so they agree where there is at most
one. A write replaces the first response with the key and leaves the others alone.
-/

namespace Questionnaire

/-- The assignment and the node that a response belongs to. -/
def Response.key (response : Response) : String × String :=
  (response.assignmentId, response.nodeId)

theorem Response.isOf_iff {assignmentId nodeId : String} {response : Response} :
    response.isOf assignmentId nodeId = true ↔ response.key = (assignmentId, nodeId) := by
  rw [Response.isOf, Bool.and_eq_true, beq_iff_eq, beq_iff_eq, Response.key, Prod.mk.injEq]

namespace ResponseTable

/-- The responses of an assignment to a node. -/
def ofKey (table : ResponseTable) (assignmentId nodeId : String) : ResponseTable :=
  table.filter (Response.isOf assignmentId nodeId)

/-- No two responses belong to one node of one assignment. -/
def HasDistinctKeys (table : ResponseTable) : Prop :=
  (table.map Response.key).Nodup

instance (table : ResponseTable) : Decidable table.HasDistinctKeys :=
  inferInstanceAs (Decidable (table.map Response.key).Nodup)

variable {table : ResponseTable} {response : Response} {assignmentId nodeId : String}

theorem find?_eq_head? (table : ResponseTable) (assignmentId nodeId : String) :
    find? table assignmentId nodeId = (ofKey table assignmentId nodeId).head? :=
  (List.head?_filter ..).symm

/-- The index keeps the last response of a key. -/
theorem get?_ofAssignment (table : ResponseTable) (assignmentId nodeId : String) :
    (ResponseIndex.ofAssignment table assignmentId).get? nodeId =
      (ofKey table assignmentId nodeId).getLast? := by
  have ofNode : (ofKey table assignmentId nodeId) =
      (table.filter fun response => response.assignmentId == assignmentId).filter
        fun response => response.nodeId == nodeId := by
    rw [ofKey, List.filter_filter]
    refine List.filter_congr fun response _ => ?_
    rw [Response.isOf, Bool.and_comm]
  rw [ResponseIndex.ofAssignment, ResponseIndex.ofList, KeyMap.get?_ofList_eq_lookup_reverse,
    ← List.map_reverse, KeyMap.lookup_map_key, ← List.head?_filter, List.filter_reverse,
    List.head?_reverse, ofNode]

/-- The keys are distinct if and only if no key has two responses. -/
theorem hasDistinctKeys_iff :
    table.HasDistinctKeys ↔
      ∀ assignmentId nodeId, (ofKey table assignmentId nodeId).length ≤ 1 := by
  have counted (key : String × String) :
      (table.map Response.key).count key = (ofKey table key.1 key.2).length := by
    rw [List.count_eq_countP, List.countP_map, List.countP_eq_length_filter, ofKey]
    refine congrArg List.length (List.filter_congr fun response _ => ?_)
    rw [Bool.eq_iff_iff, Response.isOf_iff]
    exact beq_iff_eq
  rw [HasDistinctKeys, List.nodup_iff_count_le_one]
  constructor
  · intro distinct assignmentId nodeId
    rw [← counted (assignmentId, nodeId)]
    exact distinct (assignmentId, nodeId)
  · intro single key
    rw [counted key]
    exact single key.1 key.2

/-- Where keys are distinct, the evaluators index the response that the store looks up. -/
theorem HasDistinctKeys.get?_ofAssignment (distinct : table.HasDistinctKeys)
    (assignmentId nodeId : String) :
    (ResponseIndex.ofAssignment table assignmentId).get? nodeId =
      find? table assignmentId nodeId := by
  have single := hasDistinctKeys_iff.1 distinct assignmentId nodeId
  rw [ResponseTable.get?_ofAssignment, find?_eq_head?]
  match found : ofKey table assignmentId nodeId with
  | [] | [_] => rfl
  | _ :: _ :: _ =>
    rw [found] at single
    exact absurd single (by simp)

/-! ## Writes -/

/-- A write replaces the first response of its key, if there is one. -/
theorem ofKey_put (response : Response) (table : ResponseTable) :
    ofKey (put response table) response.assignmentId response.nodeId =
      response :: (ofKey table response.assignmentId response.nodeId).tail := by
  have own : response.isOf response.assignmentId response.nodeId = true :=
    Response.isOf_iff.2 rfl
  induction table with
  | nil => simp [put, ofKey, own]
  | cons first rest inductionHypothesis =>
    rw [put]
    by_cases here : first.isOf response.assignmentId response.nodeId = true
    · simp [ofKey, here, own]
    · rw [if_neg here, ofKey, List.filter_cons_of_neg here, ofKey, List.filter_cons_of_neg here]
      exact inductionHypothesis

/-- A write leaves the responses of all other keys alone. -/
theorem ofKey_put_of_ne (table : ResponseTable) (apart : response.key ≠ (assignmentId, nodeId)) :
    ofKey (put response table) assignmentId nodeId = ofKey table assignmentId nodeId := by
  have foreign {other : Response} (same : other.key = response.key) :
      ¬ other.isOf assignmentId nodeId = true :=
    fun matched => apart (same.symm.trans (Response.isOf_iff.1 matched))
  induction table with
  | nil => exact List.filter_cons_of_neg (foreign rfl)
  | cons first rest inductionHypothesis =>
    rw [put]
    by_cases here : first.isOf response.assignmentId response.nodeId = true
    · have sameKey : first.key = response.key := Response.isOf_iff.1 here
      rw [if_pos here, ofKey, List.filter_cons_of_neg (foreign rfl), ofKey,
        List.filter_cons_of_neg (foreign sameKey)]
    · rw [if_neg here]
      simp only [ofKey, List.filter_cons] at inductionHypothesis ⊢
      rw [inductionHypothesis]

/-- The look-up after a write. -/
theorem find?_put (response : Response) (table : ResponseTable) (assignmentId nodeId : String) :
    find? (put response table) assignmentId nodeId =
      if response.key = (assignmentId, nodeId) then some response
      else find? table assignmentId nodeId := by
  rw [find?_eq_head?]
  split
  · rename_i same
    obtain ⟨rfl, rfl⟩ := Prod.mk.inj same
    rw [ofKey_put]
    rfl
  · rename_i apart
    rw [ofKey_put_of_ne table apart, find?_eq_head?]

/-- The look-up after an assignment was cleared. -/
theorem find?_clear (table : ResponseTable) (cleared assignmentId nodeId : String) :
    find? (clear table cleared) assignmentId nodeId =
      if assignmentId = cleared then none else find? table assignmentId nodeId := by
  rw [find?_eq_head?, ofKey, clear, List.filter_filter]
  split
  · rename_i same
    subst same
    rw [List.head?_eq_none_iff, List.filter_eq_nil_iff]
    intro response _ matched
    rw [Response.isOf, Bool.and_eq_true, Bool.and_eq_true, bne_iff_ne, beq_iff_eq] at matched
    exact matched.2 matched.1.1
  · rename_i apart
    rw [find?_eq_head?, ofKey]
    refine congrArg List.head? (List.filter_congr fun response _ => ?_)
    by_cases own : response.assignmentId = assignmentId
    · rw [own, bne_iff_ne.2 apart, Bool.and_true]
    · rw [Response.isOf, beq_eq_false_iff_ne.2 own, Bool.false_and, Bool.false_and]

theorem HasDistinctKeys.put (distinct : table.HasDistinctKeys) (response : Response) :
    HasDistinctKeys (put response table) := by
  rw [hasDistinctKeys_iff] at distinct ⊢
  intro assignmentId nodeId
  by_cases same : response.key = (assignmentId, nodeId)
  · obtain ⟨rfl, rfl⟩ := Prod.mk.inj same
    have single := distinct response.assignmentId response.nodeId
    rw [ofKey_put, List.length_cons, List.length_tail]
    omega
  · rw [ofKey_put_of_ne table same]
    exact distinct assignmentId nodeId

theorem HasDistinctKeys.putAnswer (distinct : table.HasDistinctKeys) (assignmentId nodeId : String)
    (answer : Option Answer) (now : Timestamp) :
    HasDistinctKeys (putAnswer table assignmentId nodeId answer now) := by
  unfold ResponseTable.putAnswer
  split
  · exact distinct.put _
  · exact distinct.put _
  · exact distinct

theorem HasDistinctKeys.clear (distinct : table.HasDistinctKeys) (assignmentId : String) :
    HasDistinctKeys (clear table assignmentId) :=
  List.Nodup.sublist (List.filter_sublist.map Response.key) distinct

end ResponseTable

end Questionnaire
