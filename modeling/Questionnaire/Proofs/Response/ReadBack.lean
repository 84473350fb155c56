import Questionnaire.Proofs.Document.State
import Questionnaire.Proofs.Response.Lookup
import Questionnaire.Proofs.State.Performing

/-!
# Reading back what was recorded

An answer that is recorded is looked up again in every state, since a write goes to the response
that a look-up finds. The evaluators index the last response of a key and miss the answer if another
response stands behind the one written. The reader of documents keeps repeated responses, so an
answer can be missed in a state that was read.
-/

namespace Questionnaire

open ResponseTable

/-- The evaluators see a write unless another response of its key stands behind it. -/
theorem ResponseTable.get?_ofAssignment_put (response : Response) (table : ResponseTable) :
    (ResponseIndex.ofAssignment (put response table) response.assignmentId).get? response.nodeId =
      if (ofKey table response.assignmentId response.nodeId).length ≤ 1 then some response
      else (ResponseIndex.ofAssignment table response.assignmentId).get? response.nodeId := by
  rw [get?_ofAssignment, get?_ofAssignment, ofKey_put]
  match ofKey table response.assignmentId response.nodeId with
  | [] | [_] => rfl
  | _ :: second :: rest =>
    rw [if_neg (by simp), List.tail_cons, List.getLast?_cons_cons, List.getLast?_cons_cons]

namespace State

/-- The state after an answer was recorded, whether or not it was refused. -/
def recording (state : State) (services : Services) (assignmentId nodeId : String)
    (answer : Answer) : State :=
  ((Action.recordAnswer assignmentId nodeId answer).perform { state, services }).2.state

/-- The answer that the evaluators see at a node of an assignment. -/
def indexedAnswer? (state : State) (assignmentId nodeId : String) : Option Answer :=
  ((ResponseIndex.ofAssignment state.responses assignmentId).get? nodeId).bind Response.answer

variable {state : State} {assignment : Assignment}

/-- An answer for an assignment that is there goes to the table of responses. -/
theorem perform_recordAnswer_of_mem (issued : assignment ∈ state.assignments)
    (services : Services) (nodeId : String) (answer : Answer) :
    ((Action.recordAnswer assignment.id nodeId answer).perform { state, services }).1 = .ok () ∧
      (state.recording services assignment.id nodeId answer).responses =
        put (.answered assignment.id nodeId answer services.now) state.responses := by
  obtain ⟨found, isFound⟩ := Option.isSome_iff_exists.1
    (isSome_assignment?_iff.2 (List.mem_map_of_mem issued))
  rw [recording, Action.perform_recordAnswer, isFound]
  exact ⟨rfl, rfl⟩

/-- Every answer that is recorded for an assignment of the state is looked up and indexed
afterwards. -/
def ReadsItsWrites (state : State) : Prop :=
  ∀ assignment ∈ state.assignments, ∀ (services : Services) (nodeId : String) (answer : Answer),
    ((Action.recordAnswer assignment.id nodeId answer).perform { state, services }).1 = .ok () ∧
      answer? (state.recording services assignment.id nodeId answer).responses
        assignment.id nodeId = some answer ∧
      (state.recording services assignment.id nodeId answer).indexedAnswer?
        assignment.id nodeId = some answer

/-- A recorded answer is always looked up, and it is indexed unless its node had several
responses. -/
theorem indexedAnswer?_recording (issued : assignment ∈ state.assignments) (services : Services)
    (nodeId : String) (answer : Answer) :
    answer? (state.recording services assignment.id nodeId answer).responses
        assignment.id nodeId = some answer ∧
      (state.recording services assignment.id nodeId answer).indexedAnswer? assignment.id nodeId =
        if (ofKey state.responses assignment.id nodeId).length ≤ 1 then some answer
        else state.indexedAnswer? assignment.id nodeId := by
  rw [indexedAnswer?, (perform_recordAnswer_of_mem issued services nodeId answer).2]
  constructor
  · rw [answer?, find?_put]
    exact congrArg (Option.bind · Response.answer) (if_pos rfl)
  · have indexed := get?_ofAssignment_put (.answered assignment.id nodeId answer services.now)
      state.responses
    refine (congrArg (Option.bind · Response.answer) indexed).trans ?_
    exact apply_ite (Option.bind · Response.answer) _ _ _

/-- A state reads its writes if and only if no node has several responses of one of its
assignments. -/
theorem readsItsWrites_iff :
    state.ReadsItsWrites ↔ ∀ assignment ∈ state.assignments, ∀ nodeId,
      (ofKey state.responses assignment.id nodeId).length ≤ 1 := by
  constructor
  · intro reads assignment issued nodeId
    by_contra several
    -- Of two answers, one differs from the answer that stays indexed.
    have kept (answer : Answer) : state.indexedAnswer? assignment.id nodeId = some answer := by
      obtain ⟨_, _, indexed⟩ := reads assignment issued { now := .epoch } nodeId answer
      rwa [(indexedAnswer?_recording issued _ nodeId answer).2, if_neg several] at indexed
    have same := (kept (.bool true)).symm.trans (kept (.bool false))
    exact absurd same (by decide)
  · intro single assignment issued services nodeId answer
    obtain ⟨lookedUp, indexed⟩ := indexedAnswer?_recording issued services nodeId answer
    rw [if_pos (single assignment issued nodeId)] at indexed
    exact ⟨(perform_recordAnswer_of_mem issued services nodeId answer).1, lookedUp, indexed⟩

/-- A state that is read from a text reads its writes if and only if no node has several responses
of one of its assignments. -/
theorem readDocument_readsItsWrites_iff (text : String) :
    (∀ state, readDocument (some text) = .ok state → state.ReadsItsWrites) ↔
      ∀ state, readDocument (some text) = .ok state → ∀ assignment ∈ state.assignments,
        ∀ nodeId, (ofKey state.responses assignment.id nodeId).length ≤ 1 :=
  forall_congr' fun _ => imp_congr_right fun _ => readsItsWrites_iff

/-- A document with a second response to a question, which is empty, is read with both. The answer
that is recorded then is looked up, but the question stays open. -/
theorem not_readsItsWrites_repeated :
    let question : Node :=
      { Node.ofKind .question "q" with clientVisible := true, inputType := some .text }
    let graph : Graph := .chain [.ofKind .start "s", question, .ofKind .finish "e"]
    let template : Template := .ofVersion "t" "A" .custom .attorney (.draft 1 graph) .epoch
    let assignment : Assignment := .issue "a" "t" 1 "A" .epoch
    let state : State :=
      { templates := [template]
        assignments := [assignment]
        responses :=
          [.answered "a" "q" (.text "old") .epoch,
            { assignmentId := "a", nodeId := "q", updatedAt := .epoch }] }
    let after := state.recording { now := .epoch } "a" "q" (.text "new")
    readDocument (some state.render) = .ok state ∧ ¬ state.ReadsItsWrites ∧
      answer? after.responses "a" "q" = some (.text "new") ∧
      after.indexedAnswer? "a" "q" = none ∧
      assignment.progress (some template) after.responses [] =
        { total := 1, completed := 0, percent := 0, stage := .assigned } := by
  intro question graph template assignment state after
  have printed : Json.parse? state.render = some state.toJson :=
    State.parse?_render (fun _ inside => absurd inside List.not_mem_nil) nofun
  have dated : ∀ response ∈ state.responses, response.IsDated := by
    intro response inside file uploaded
    rcases List.mem_pair.1 inside with rfl | rfl
    · exact absurd uploaded List.not_mem_nil
    · exact absurd uploaded List.not_mem_nil
  have read : readDocument (some state.render) = .ok state :=
    (readDocument_render ⟨rfl, dated, nofun⟩ printed).trans (if_neg (List.cons_ne_nil _ _))
  refine ⟨read, ?_, by decide +kernel, by decide +kernel, by decide +kernel⟩
  rw [readsItsWrites_iff]
  intro single
  exact absurd (single assignment List.mem_cons_self "q") (by decide)

end State

end Questionnaire
