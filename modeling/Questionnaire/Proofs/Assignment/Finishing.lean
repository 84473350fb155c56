import Mathlib.Data.Finset.Card
import Questionnaire.Proofs.Assignment.Completion
import Questionnaire.Proofs.Assignment.Percent
import Questionnaire.Proofs.State.Stages

/-!
# Finishing an assignment

The client advances an assignment by answering or skipping a step that he sees and that is open. An
answer may reveal and hide other steps, so neither the total nor the completed count is bound to
rise. What falls with every advance are the ids of client steps, seen or not, that no response
completes: a response to one step takes nothing from another. While progress is incomplete there is
a step to advance by, and once there is none the assignment is submitted.
-/

namespace Questionnaire

/-- The ids of the client steps, each once. -/
def Graph.clientStepIds (graph : Graph) : Finset String :=
  ((graph.nodes.filter Node.isClientStep).map Node.id).toFinset

/-- The ids of the client steps that no response completes. -/
def Graph.pendingIds (graph : Graph) (responses : ResponseIndex) : Finset String :=
  graph.clientStepIds.filter fun id => responses.completes id = false

theorem Graph.mem_pendingIds {graph : Graph} {responses : ResponseIndex} {id : String} :
    id ∈ graph.pendingIds responses ↔
      id ∈ graph.clientStepIds ∧ responses.completes id = false :=
  Finset.mem_filter

theorem View.id_mem_pendingIds {view : View} {node : Node} (isOpen : node ∈ view.openSteps) :
    node.id ∈ view.graph.pendingIds view.responses := by
  obtain ⟨seen, unanswered⟩ := View.mem_openSteps.1 isOpen
  obtain ⟨inside, counts⟩ := List.mem_filter.1 seen
  have isClientStep : node.isClientStep = true := (Bool.and_eq_true _ _ ▸ counts).1
  refine Graph.mem_pendingIds.2 ⟨List.mem_toFinset.2 ?_, unanswered⟩
  exact List.mem_map_of_mem (List.mem_filter.2 ⟨inside, isClientStep⟩)

/-- Where keys are distinct, a write decides whether its own node is complete, and only that. -/
theorem ResponseTable.completes_put {table : ResponseTable} (distinct : table.HasDistinctKeys)
    (response : Response) (nodeId : String) :
    (ResponseIndex.ofAssignment (put response table) response.assignmentId).completes nodeId =
      if response.nodeId = nodeId then response.isComplete
      else (ResponseIndex.ofAssignment table response.assignmentId).completes nodeId := by
  rw [ResponseIndex.completes, (distinct.put response).get?_ofAssignment, find?_put,
    ResponseIndex.completes, distinct.get?_ofAssignment]
  by_cases own : response.nodeId = nodeId
  · have sameKey : response.key = (response.assignmentId, nodeId) := congrArg (Prod.mk _) own
    rw [if_pos own, if_pos sameKey]
    rfl
  · have otherKey : response.key ≠ (response.assignmentId, nodeId) :=
      fun same => own (Prod.mk.inj same).2
    rw [if_neg own, if_neg otherKey]

/-- A write that completes a pending step leaves fewer of them. -/
theorem Graph.pendingIds_put_ssubset {graph : Graph} {table : ResponseTable} {response : Response}
    (distinct : table.HasDistinctKeys) (completes : response.isComplete = true)
    (pending : response.nodeId ∈ graph.pendingIds (.ofAssignment table response.assignmentId)) :
    graph.pendingIds (.ofAssignment (ResponseTable.put response table) response.assignmentId) ⊂
      graph.pendingIds (.ofAssignment table response.assignmentId) := by
  have stillPending {id : String} (inside : id ∈ graph.pendingIds
      (.ofAssignment (ResponseTable.put response table) response.assignmentId)) :
      response.nodeId ≠ id ∧
        id ∈ graph.pendingIds (.ofAssignment table response.assignmentId) := by
    obtain ⟨isStep, unanswered⟩ := mem_pendingIds.1 inside
    rw [ResponseTable.completes_put distinct] at unanswered
    split at unanswered
    · exact absurd (completes.symm.trans unanswered) nofun
    · rename_i other
      exact ⟨other, mem_pendingIds.2 ⟨isStep, unanswered⟩⟩
  refine (Finset.ssubset_iff_of_subset fun id inside => (stillPending inside).2).2 ?_
  exact ⟨response.nodeId, pending, fun inside => (stillPending inside).1 rfl⟩

/-! ## Complete progress -/

theorem stageOfCounts_self (whole : Nat) : stageOfCounts whole whole = .submitted := by
  cases whole with
  | zero => rfl
  | succ =>
    rw [stageOfCounts, if_neg (Nat.succ_ne_zero _), if_neg (Nat.succ_ne_zero _),
      if_neg (Nat.lt_irrefl _)]

theorem Stage.le_rank_max (left right : Stage) : left.rank ≤ (left.max right).rank := by
  rw [max]
  split
  · exact Nat.le_of_lt ‹_›
  · exact Nat.le_refl _

namespace Assignment

variable {assignment : Assignment} {template : Option Template} {graph : Graph}

/-- Progress is complete exactly when no step is open. -/
theorem completed_eq_total_iff (resolved : assignment.pinnedGraph? template = some graph)
    (responses : List Response) (catalog : Catalog) :
    (assignment.progress template responses catalog).completed =
        (assignment.progress template responses catalog).total ↔
      (assignment.view graph responses catalog).openSteps = [] := by
  rw [total_eq_completed_add resolved, ← List.length_eq_zero_iff]
  omega

/-- Complete progress is a hundred percent, and stands for a submission at least. -/
theorem progress_of_complete (resolved : assignment.pinnedGraph? template = some graph)
    (responses : List Response) (catalog : Catalog)
    (complete : (assignment.progress template responses catalog).completed =
      (assignment.progress template responses catalog).total) :
    (assignment.progress template responses catalog).percent = 100 ∧
      Stage.submitted.rank ≤ (assignment.progress template responses catalog).stage.rank := by
  rw [progress, resolved] at complete ⊢
  dsimp only at complete ⊢
  rw [complete, stageOfCounts_self]
  refine ⟨?_, Stage.le_rank_max _ _⟩
  split
  · rfl
  · rename_i someSteps
    exact roundedPercent_self (Nat.pos_of_ne_zero someSteps)

end Assignment

/-! ## Advancing -/

namespace Session

variable {session before after : Session} {assignment : Assignment} {graph : Graph}
  {catalog : Catalog}

/-- The steps that an assignment leaves open: the client sees them, and no response completes them.
-/
def openSteps (session : Session) (catalog : Catalog) (id : String) : List Node :=
  match session.state.assignment? id with
  | none => []
  | some assignment =>
    match assignment.pinnedGraph? (session.state.templateOf? assignment) with
    | none => []
    | some graph => (assignment.view graph session.state.responses catalog).openSteps

/-- The assignment is found, its template has the version that was issued, and there is at most one
response for each assignment and node. -/
structure IsUnderway (session : Session) (assignment : Assignment) (graph : Graph) : Prop where
  /-- It is found under its id. -/
  found : session.state.assignment? assignment.id = some assignment
  /-- The template has the version. -/
  resolved : assignment.pinnedGraph? (session.state.templateOf? assignment) = some graph
  /-- The responses have distinct keys. -/
  distinct : ResponseTable.HasDistinctKeys session.state.responses

/-- An open step is answered, with an answer that says something, or skipped. -/
inductive Advances (catalog : Catalog) (id : String) (before after : Session) : Prop where
  /-- The step is answered. -/
  | answered (moment : Timestamp) {node : Node} {answer : Answer}
    (isOpen : node ∈ before.openSteps catalog id) (meaningful : answer.isMeaningful = true)
    (accepted : (Action.recordAnswer id node.id answer).perform (before.atTime moment) =
      (.ok (), after))
  /-- The step is skipped. -/
  | skipped (moment : Timestamp) {node : Node} (reason : String) (actor : SkipActor)
    (isOpen : node ∈ before.openSteps catalog id)
    (accepted : (Action.skipNode id node.id reason actor).perform (before.atTime moment) =
      (.ok (), after))

/-- So many open steps are answered or skipped, one after the other. -/
inductive AdvancesIn (catalog : Catalog) (id : String) : Nat → Session → Session → Prop where
  /-- No step yet. -/
  | refl (session : Session) : AdvancesIn catalog id 0 session session
  /-- One step, and then the others. -/
  | step {count : Nat} {first next last : Session} (advance : Advances catalog id first next)
    (others : AdvancesIn catalog id count next last) :
    AdvancesIn catalog id (count + 1) first last

/-- The ids of the client steps that no response of the assignment completes. -/
def pendingIds (session : Session) (assignment : Assignment) (graph : Graph) : Finset String :=
  graph.pendingIds (.ofAssignment session.state.responses assignment.id)

theorem IsUnderway.openSteps_eq (underway : session.IsUnderway assignment graph)
    (catalog : Catalog) : session.openSteps catalog assignment.id =
      (assignment.view graph session.state.responses catalog).openSteps := by
  rw [openSteps, underway.found]
  dsimp only
  rw [underway.resolved]

theorem IsUnderway.id_mem_pendingIds (underway : session.IsUnderway assignment graph) {node : Node}
    (isOpen : node ∈ session.openSteps catalog assignment.id) :
    node.id ∈ session.pendingIds assignment graph := by
  rw [underway.openSteps_eq] at isOpen
  have isPending := View.id_mem_pendingIds isOpen
  exact isPending

/-- An advance writes a response that completes an open step, and changes nothing else of the
state. -/
theorem Advances.written (underway : before.IsUnderway assignment graph)
    (advance : Advances catalog assignment.id before after) : ∃ response : Response,
    response.assignmentId = assignment.id ∧ response.isComplete = true ∧
      response.nodeId ∈ before.pendingIds assignment graph ∧
      after.state =
        { before.state with responses := ResponseTable.put response before.state.responses } := by
  have found (moment : Timestamp) :
      (before.atTime moment).state.assignment? assignment.id = some assignment := underway.found
  cases advance with
  | @answered moment node answer isOpen meaningful accepted =>
    rw [Action.perform_recordAnswer, found] at accepted
    obtain ⟨-, rfl⟩ := Prod.mk.inj accepted
    exact ⟨.answered assignment.id node.id answer moment, rfl, meaningful,
      underway.id_mem_pendingIds isOpen, rfl⟩
  | skipped moment reason actor isOpen accepted =>
    rw [Action.perform_skipNode, found] at accepted
    obtain ⟨-, rfl⟩ := Prod.mk.inj accepted
    exact ⟨_, rfl, rfl, underway.id_mem_pendingIds isOpen, rfl⟩

/-- An advance leaves the assignment and its graph as they are, and fewer ids pending. -/
theorem Advances.step (underway : before.IsUnderway assignment graph)
    (advance : Advances catalog assignment.id before after) :
    after.IsUnderway assignment graph ∧
      (after.pendingIds assignment graph).card < (before.pendingIds assignment graph).card := by
  obtain ⟨response, own, completes, pending, written⟩ := advance.written underway
  refine ⟨⟨?_, ?_, ?_⟩, Finset.card_lt_card ?_⟩
  · rw [written]
    exact underway.found
  · rw [written]
    exact underway.resolved
  · rw [written]
    exact underway.distinct.put response
  · rw [pendingIds, ← own] at pending
    rw [pendingIds, pendingIds, written, ← own]
    exact Graph.pendingIds_put_ssubset underway.distinct completes pending

/-- So many advances complete at least as many pending ids. -/
theorem AdvancesIn.run {count : Nat} (underway : before.IsUnderway assignment graph)
    (run : AdvancesIn catalog assignment.id count before after) :
    after.IsUnderway assignment graph ∧ count + (after.pendingIds assignment graph).card ≤
      (before.pendingIds assignment graph).card := by
  induction run with
  | refl => exact ⟨underway, Nat.le_of_eq (Nat.zero_add _)⟩
  | step advance others inductionHypothesis =>
    obtain ⟨stillUnderway, fewer⟩ := advance.step underway
    obtain ⟨atEnd, bounded⟩ := inductionHypothesis stillUnderway
    exact ⟨atEnd, by omega⟩

/-- An open step can be answered and can be skipped. -/
theorem IsUnderway.advances (underway : session.IsUnderway assignment graph) {node : Node}
    (isOpen : node ∈ session.openSteps catalog assignment.id) (moment : Timestamp) :
    (∀ answer : Answer, answer.isMeaningful = true → ∃ next,
      (Action.recordAnswer assignment.id node.id answer).perform (session.atTime moment) =
        (.ok (), next) ∧ Advances catalog assignment.id session next) ∧
      ∀ (reason : String) (actor : SkipActor), ∃ next,
        (Action.skipNode assignment.id node.id reason actor).perform (session.atTime moment) =
          (.ok (), next) ∧ Advances catalog assignment.id session next := by
  have found : (session.atTime moment).state.assignment? assignment.id = some assignment :=
    underway.found
  refine ⟨fun answer meaningful => ?_, fun reason actor => ?_⟩
  · have accepted := Action.perform_recordAnswer assignment.id node.id answer
      (session.atTime moment)
    rw [found] at accepted
    exact ⟨_, accepted, .answered moment isOpen meaningful accepted⟩
  · have accepted := Action.perform_skipNode assignment.id node.id reason actor
      (session.atTime moment)
    rw [found] at accepted
    exact ⟨_, accepted, .skipped moment reason actor isOpen accepted⟩

/-- Some run leaves no step open. -/
theorem IsUnderway.exists_finished (underway : session.IsUnderway assignment graph)
    (catalog : Catalog) : ∃ count last, AdvancesIn catalog assignment.id count session last ∧
      last.openSteps catalog assignment.id = [] := by
  induction pending : (session.pendingIds assignment graph).card using Nat.strongRecOn
    generalizing session with
  | ind _ inductionHypothesis =>
    cases isOpen : session.openSteps catalog assignment.id with
    | nil => exact ⟨0, session, .refl session, isOpen⟩
    | cons node rest =>
      have here : node ∈ session.openSteps catalog assignment.id := isOpen ▸ List.mem_cons_self
      obtain ⟨next, -, advance⟩ := (underway.advances here .epoch).2 "" .client
      obtain ⟨stillUnderway, fewer⟩ := advance.step underway
      obtain ⟨count, last, others, finished⟩ :=
        inductionHypothesis _ (pending ▸ fewer) stillUnderway rfl
      exact ⟨count + 1, last, .step advance others, finished⟩

theorem IsUnderway.perform_assignmentProgress (underway : session.IsUnderway assignment graph)
    (catalog : Catalog) :
    (Action.assignmentProgress catalog assignment.id).perform session =
      (.ok (assignment.progress (session.state.templateOf? assignment) session.state.responses
        catalog), session) := by
  simp only [Action.assignmentProgress, Action.perform_bind, Action.perform_assignment,
    underway.found, Action.perform_state, Action.perform_pure]

/-- A refresh records the stage that follows from progress. -/
theorem IsUnderway.refreshStage (underway : session.IsUnderway assignment graph)
    (catalog : Catalog) :
    let progress := assignment.progress (session.state.templateOf? assignment)
      session.state.responses catalog
    ∃ refreshed revised,
      (Action.refreshStage catalog assignment.id).perform session = (.ok progress, refreshed) ∧
        refreshed.state.assignment? assignment.id = some revised ∧
        revised.stage = progress.stage := by
  intro progress
  have forward : assignment.stage.rank ≤ progress.stage.rank :=
    assignment.rank_le_progress _ _ _
  rw [Action.perform_refreshStage, underway.found]
  dsimp only
  rw [Action.perform_setStage, underway.found]
  dsimp only
  rw [if_pos forward]
  by_cases same : assignment.stage = progress.stage
  · rw [if_pos same]
    exact ⟨session, assignment, rfl, underway.found, same⟩
  · rw [if_neg same]
    let revised : Assignment := { assignment with recordedStage := some progress.stage }
    have sameId : revised.id = assignment.id := rfl
    have replaced := assignment?_withAssignment underway.found sameId assignment.id
    rw [if_pos rfl] at replaced
    exact ⟨_, revised, rfl, replaced, rfl⟩

/-- No assignment whose version is still there gets stuck. However its open steps are answered and
skipped, this ends after at most as many advances as the graph has ids of client steps. On the way a
step is open while progress is incomplete, and each open step can be answered and skipped. At the
end progress is complete, and a refresh records that the assignment is submitted, or further. -/
theorem advancing_finishes (underway : session.IsUnderway assignment graph) (catalog : Catalog) :
    (∀ count after, AdvancesIn catalog assignment.id count session after →
      count ≤ graph.clientStepIds.card ∧
        ∃ progress,
          (Action.assignmentProgress catalog assignment.id).perform after =
              (.ok progress, after) ∧
            (progress.completed < progress.total →
              after.openSteps catalog assignment.id ≠ []) ∧
            (∀ node ∈ after.openSteps catalog assignment.id, ∀ moment,
              (∀ answer : Answer, answer.isMeaningful = true → ∃ next,
                (Action.recordAnswer assignment.id node.id answer).perform
                    (after.atTime moment) = (.ok (), next) ∧
                  Advances catalog assignment.id after next) ∧
                ∀ (reason : String) (actor : SkipActor), ∃ next,
                  (Action.skipNode assignment.id node.id reason actor).perform
                      (after.atTime moment) = (.ok (), next) ∧
                    Advances catalog assignment.id after next) ∧
            (after.openSteps catalog assignment.id = [] →
              progress.completed = progress.total ∧ progress.percent = 100 ∧
                ∃ refreshed revised,
                  (Action.refreshStage catalog assignment.id).perform after =
                      (.ok progress, refreshed) ∧
                    refreshed.state.assignment? assignment.id = some revised ∧
                    Stage.submitted.rank ≤ revised.stage.rank)) ∧
      ∃ count last, AdvancesIn catalog assignment.id count session last ∧
        last.openSteps catalog assignment.id = [] := by
  refine ⟨fun count after run => ?_, underway.exists_finished catalog⟩
  obtain ⟨atEnd, bounded⟩ := run.run underway
  have pendingBound : (session.pendingIds assignment graph).card ≤ graph.clientStepIds.card :=
    Finset.card_filter_le _ _
  refine ⟨by omega, _, atEnd.perform_assignmentProgress catalog, ?_,
    fun node isOpen moment => atEnd.advances isOpen moment, ?_⟩
  · rw [atEnd.openSteps_eq]
    intro incomplete noneOpen
    exact Nat.ne_of_lt incomplete
      ((Assignment.completed_eq_total_iff atEnd.resolved _ catalog).2 noneOpen)
  · rw [atEnd.openSteps_eq]
    intro noneOpen
    have complete := (Assignment.completed_eq_total_iff atEnd.resolved _ catalog).2 noneOpen
    obtain ⟨percent, submitted⟩ :=
      Assignment.progress_of_complete atEnd.resolved _ catalog complete
    obtain ⟨refreshed, revised, isRefreshed, found, stage⟩ := atEnd.refreshStage catalog
    exact ⟨complete, percent, refreshed, revised, isRefreshed, found, stage ▸ submitted⟩

/-- Of the two questions after a decision, the answer yes reveals the first one. Once that is
skipped, the assignment is submitted, although the graph has a third client step. -/
theorem advancing_finishes_revealed :
    let decision : Node := .ofKind .decision "d"
    let revealed : Node := .ofKind .question "q"
    let hidden : Node := .ofKind .question "r"
    let graph : Graph :=
      { nodes := [decision, revealed, hidden]
        edges :=
          [{ id := "e", source := "d", target := "q", condition := .yes },
            { id := "f", source := "d", target := "r", condition := .no }] }
    let template : Template := .ofVersion "t" "A" .custom .attorney (.draft 1 graph) .epoch
    let assignment : Assignment := .issue "a" "t" 1 "A" .epoch
    let session : Session :=
      { empty with state := { templates := [template], assignments := [assignment] } }
    let yes : Response := .answered "a" "d" (.bool true) .epoch
    let skip : Response :=
      .skipped "a" "q" { reason := "lost", actor := .client, moment := .epoch } .epoch
    let answered := session.withResponses [yes]
    let finished := session.withResponses [yes, skip]
    session.IsUnderway assignment graph ∧
      (session.openSteps [] "a" = [decision] ∧ answered.openSteps [] "a" = [revealed] ∧
        finished.openSteps [] "a" = []) ∧
      AdvancesIn [] "a" 2 session finished ∧ 2 ≤ graph.clientStepIds.card ∧
      ∃ progress refreshed revised,
        (Action.refreshStage [] "a").perform finished = (.ok progress, refreshed) ∧
          progress.completed = progress.total ∧ progress.percent = 100 ∧
          refreshed.state.assignment? "a" = some revised ∧
          Stage.submitted.rank ≤ revised.stage.rank := by
  intro decision revealed hidden graph template assignment session yes skip answered finished
  have underway : session.IsUnderway assignment graph := ⟨rfl, rfl, by decide +kernel⟩
  have atFirst : session.openSteps [] "a" = [decision] := by decide +kernel
  have afterYes : answered.openSteps [] "a" = [revealed] := by decide +kernel
  have atEnd : finished.openSteps [] "a" = [] := by decide +kernel
  have first : Advances [] "a" session answered :=
    .answered .epoch (atFirst ▸ List.mem_cons_self) rfl rfl
  have second : Advances [] "a" answered finished :=
    .skipped .epoch " lost " .client (afterYes ▸ List.mem_cons_self) rfl
  have run : AdvancesIn [] "a" 2 session finished := .step first (.step second (.refl finished))
  obtain ⟨bounded, progress, _, _, _, complete⟩ :=
    (advancing_finishes underway []).1 2 finished run
  obtain ⟨all, percent, refreshed, revised, isRefreshed, found, submitted⟩ := complete atEnd
  exact ⟨underway, ⟨atFirst, afterYes, atEnd⟩, run, bounded, progress, refreshed, revised,
    isRefreshed, all, percent, found, submitted⟩

end Session

end Questionnaire
