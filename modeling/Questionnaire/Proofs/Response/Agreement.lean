import Questionnaire.Form.Projection
import Questionnaire.Graph.Firing
import Questionnaire.Proofs.Response.Lookup

/-!
# Responses that say the same

Of a response, the evaluators read its answer and whether it is a skip. Two indexes agree at a node
when they hold the same of it in this sense; completion, the firing of edges and the answers of the
form then come out the same. Two lists of responses agree on an assignment when the last responses
of its nodes do, which leaves out other assignments, earlier responses of a node, the order of
responses of different nodes, the reasons of skips and all times.
-/

namespace Questionnaire

/-- What the evaluators read of a response: its answer, and whether it is a skip. -/
def Response.reading (response : Response) : Option Answer × Bool :=
  (response.answer, response.skip.isSome)

theorem Response.answer_of_reading {left right : Response} (same : left.reading = right.reading) :
    left.answer = right.answer :=
  congrArg Prod.fst same

theorem Response.isMeaningful_of_reading {left right : Response}
    (same : left.reading = right.reading) : left.isMeaningful = right.isMeaningful := by
  rw [isMeaningful, isMeaningful, answer_of_reading same]

theorem Response.isComplete_of_reading {left right : Response}
    (same : left.reading = right.reading) : left.isComplete = right.isComplete := by
  have skipped : left.skip.isSome = right.skip.isSome := congrArg Prod.snd same
  rw [isComplete, isComplete, skipped, isMeaningful_of_reading same]

theorem Response.formValue?_of_reading {left right : Response}
    (same : left.reading = right.reading) : left.formValue? = right.formValue? := by
  have skipped : left.skip.isSome = right.skip.isSome := congrArg Prod.snd same
  rw [formValue?, formValue?, skipped, answer_of_reading same]

/-- What depends on the reading of a response is the same where there may be no response. -/
theorem Response.eq_of_reading {β : Type} (read : Option Response → β)
    (ofReading : ∀ {left right : Response}, left.reading = right.reading →
      read (some left) = read (some right))
    {left right : Option Response} (same : left.map reading = right.map reading) :
    read left = read right := by
  cases left with
  | none =>
    rw [Option.map_eq_none_iff.1 same.symm]
  | some left =>
    obtain ⟨right, rfl, reading⟩ := Option.map_eq_some_iff.1 same.symm
    exact ofReading reading.symm

namespace ResponseIndex

/-- Two indexes hold the same of a node. -/
def AgreeAt (left right : ResponseIndex) (nodeId : String) : Prop :=
  (left.get? nodeId).map Response.reading = (right.get? nodeId).map Response.reading

variable {left right : ResponseIndex}

theorem AgreeAt.completes {nodeId : String} (agree : left.AgreeAt right nodeId) :
    left.completes nodeId = right.completes nodeId :=
  Response.eq_of_reading (Option.any Response.isComplete) Response.isComplete_of_reading agree

/-- Indexes that agree at the source of an edge fire it alike. -/
theorem AgreeAt.fires {edge : Edge} (agree : left.AgreeAt right edge.source) :
    edge.fires left = edge.fires right := by
  refine Response.eq_of_reading edge.condition.fires (fun reading => ?_) agree
  have answer := Response.answer_of_reading reading
  have meaningful := Response.isMeaningful_of_reading reading
  cases edge.condition <;> simp only [EdgeCondition.fires, answer, meaningful]

/-- Indexes that agree at a node, if it stands for a field, contribute alike to the form. -/
theorem AgreeAt.addNode {node : Node} (answers : FormAnswers)
    (agree : node.formFieldId.isSome → left.AgreeAt right node.id) :
    FormAnswers.addNode left answers node = FormAnswers.addNode right answers node := by
  cases standsFor : node.formFieldId with
  | none => simp only [FormAnswers.addNode, standsFor]
  | some fieldId =>
    have value := Response.eq_of_reading (Option.bind · Response.formValue?)
      Response.formValue?_of_reading (agree (by rw [standsFor]; rfl))
    simp only [FormAnswers.addNode, standsFor, value]

/-- Indexes that agree at all nodes that stand for fields amount to the same answers of the
form. -/
theorem formAnswers_of_agreeAt {graph : Graph}
    (agree : ∀ node ∈ graph.nodes, node.formFieldId.isSome → left.AgreeAt right node.id) :
    FormAnswers.ofResponses graph left = FormAnswers.ofResponses graph right :=
  List.foldl_ext _ _ _ fun answers node inside => AgreeAt.addNode answers (agree node inside)

end ResponseIndex

namespace ResponseTable

/-- Two tables hold the same of an assignment: at every node its last response is missing from both,
or has the same answer in both and is a skip in both or in neither. -/
def AgreeOn (left right : ResponseTable) (assignmentId : String) : Prop :=
  ∀ nodeId, (ofKey left assignmentId nodeId).getLast?.map Response.reading =
    (ofKey right assignmentId nodeId).getLast?.map Response.reading

variable {left right : ResponseTable} {assignmentId : String}

theorem ofKey_eq_nil_of_absent {table : ResponseTable} {nodeId : String}
    (absent : ∀ response ∈ table, response.nodeId ≠ nodeId) (assignmentId : String) :
    ofKey table assignmentId nodeId = [] := by
  refine List.filter_eq_nil_iff.2 fun response inside isOf => ?_
  exact absent response inside (Prod.mk.inj (Response.isOf_iff.1 isOf)).2

/-- Only nodes that have a response need a look. -/
theorem agreeOn_iff : left.AgreeOn right assignmentId ↔ ∀ response ∈ left ++ right,
    (ofKey left assignmentId response.nodeId).getLast?.map Response.reading =
      (ofKey right assignmentId response.nodeId).getLast?.map Response.reading := by
  constructor
  · intro agree response _
    exact agree response.nodeId
  · intro agree nodeId
    by_cases present : ∃ response ∈ left ++ right, response.nodeId = nodeId
    · obtain ⟨response, inside, rfl⟩ := present
      exact agree response inside
    · have absent (response : Response) (inside : response ∈ left ++ right) :
          response.nodeId ≠ nodeId :=
        fun same => present ⟨response, inside, same⟩
      rw [ofKey_eq_nil_of_absent fun response inside =>
          absent response (List.mem_append_left _ inside),
        ofKey_eq_nil_of_absent fun response inside =>
          absent response (List.mem_append_right _ inside)]

instance (left right : ResponseTable) (assignmentId : String) :
    Decidable (left.AgreeOn right assignmentId) :=
  decidable_of_iff _ agreeOn_iff.symm

/-- The indexes of tables that hold the same of an assignment agree at every node. -/
theorem AgreeOn.agreeAt (agree : left.AgreeOn right assignmentId) (nodeId : String) :
    (ResponseIndex.ofAssignment left assignmentId).AgreeAt
      (ResponseIndex.ofAssignment right assignmentId) nodeId := by
  rw [ResponseIndex.AgreeAt, get?_ofAssignment, get?_ofAssignment]
  exact agree nodeId

/-- The responses of other assignments may go. -/
theorem agreeOn_ofAssignment (table : ResponseTable) (assignmentId : String) :
    (table.ofAssignment assignmentId).AgreeOn table assignmentId := by
  intro nodeId
  have own : ofKey (table.ofAssignment assignmentId) assignmentId nodeId =
      ofKey table assignmentId nodeId := by
    rw [ofKey, ofAssignment, List.filter_filter]
    refine List.filter_congr fun response _ => ?_
    rw [Response.isOf, Bool.and_right_comm, Bool.and_self]
  rw [own]

/-- Responses with distinct keys may change places. -/
theorem HasDistinctKeys.agreeOn_of_perm (distinct : left.HasDistinctKeys)
    (moved : left.Perm right) (assignmentId : String) : left.AgreeOn right assignmentId := by
  intro nodeId
  have single := hasDistinctKeys_iff.1 distinct assignmentId nodeId
  have movedKey : (ofKey left assignmentId nodeId).Perm (ofKey right assignmentId nodeId) :=
    moved.filter _
  have same : ofKey left assignmentId nodeId = ofKey right assignmentId nodeId := by
    match found : ofKey left assignmentId nodeId with
    | [] => exact (List.nil_perm.1 (found ▸ movedKey)).symm
    | [response] => exact List.singleton_perm.1 (found ▸ movedKey)
    | _ :: _ :: _ =>
      rw [found] at single
      exact absurd single (by simp)
  rw [same]

/-- A response that a later one of its key follows may go. -/
theorem agreeOn_shadowed (before : ResponseTable) {shadowed later : Response}
    {after : ResponseTable} (follows : later ∈ after) (sameKey : later.key = shadowed.key)
    (assignmentId : String) :
    AgreeOn (before ++ shadowed :: after) (before ++ after) assignmentId := by
  intro nodeId
  have last : (ofKey (shadowed :: after) assignmentId nodeId).getLast? =
      (ofKey after assignmentId nodeId).getLast? := by
    by_cases own : shadowed.isOf assignmentId nodeId = true
    · have laterOwn : later.isOf assignmentId nodeId = true :=
        Response.isOf_iff.2 (sameKey.trans (Response.isOf_iff.1 own))
      have inside : later ∈ ofKey after assignmentId nodeId :=
        List.mem_filter.2 ⟨follows, laterOwn⟩
      rw [ofKey, List.filter_cons_of_pos own]
      exact List.getLast?_cons_of_ne_nil (List.ne_nil_of_mem inside)
    · rw [ofKey, List.filter_cons_of_neg own, ofKey]
  have split (rest : ResponseTable) : ofKey (before ++ rest) assignmentId nodeId =
      ofKey before assignmentId nodeId ++ ofKey rest assignmentId nodeId :=
    List.filter_append ..
  rw [split, split, List.getLast?_append, List.getLast?_append, last]

/-- Whatever is neither the key nor the reading of a response may change. -/
theorem agreeOn_map {change : Response → Response}
    (kept : ∀ response ∈ left, (change response).key = response.key ∧
      (change response).reading = response.reading) (assignmentId : String) :
    AgreeOn (left.map change) left assignmentId := by
  intro nodeId
  have changed : ofKey (left.map change) assignmentId nodeId =
      (ofKey left assignmentId nodeId).map change := by
    rw [ofKey, List.filter_map]
    refine congrArg (List.map change) (List.filter_congr fun response inside => ?_)
    rw [Bool.eq_iff_iff, Function.comp, Response.isOf_iff, Response.isOf_iff,
      (kept response inside).1]
  rw [changed, List.getLast?_map, Option.map_map]
  refine Option.map_congr fun response last => ?_
  have inside := List.mem_of_mem_filter (List.mem_of_getLast? last)
  exact (kept response inside).2

end ResponseTable

end Questionnaire
