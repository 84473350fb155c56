import Questionnaire.Assignment.Coverage
import Questionnaire.Proofs.Graph.Visibility

/-!
# Assignments are judged by their own last responses

Progress and coverage read the responses through the index of the assignment only, and of it only
which nodes are seen and which are complete. Tables of responses that hold the same of the
assignment are therefore judged alike.
-/

namespace Questionnaire

namespace View

variable {left right : View}

theorem clientSteps_of_sameVisible (sameGraph : left.graph = right.graph)
    (sameVisible : left.isVisible = right.isVisible) : left.clientSteps = right.clientSteps := by
  rw [clientSteps, clientSteps, sameGraph, sameVisible]

theorem coverage_of_sameVisible (sameGraph : left.graph = right.graph)
    (sameVisible : left.isVisible = right.isVisible)
    (sameComplete : left.responses.completes = right.responses.completes) :
    left.coverage = right.coverage := by
  have sameSteps : left.trackedSteps = right.trackedSteps := by
    rw [trackedSteps, trackedSteps, sameGraph, sameVisible]
  have sameCounts (label : Label) (steps : List Node) :
      LabelCoverage.ofSteps label steps left.responses =
        LabelCoverage.ofSteps label steps right.responses := by
    rw [LabelCoverage.ofSteps, LabelCoverage.ofSteps, sameComplete]
  funext label
  simp only [coverage, sameSteps, sameCounts]

end View

namespace Assignment

/-- What the evaluators find out about an assignment: its progress and the coverage of every
label. -/
def evaluation (assignment : Assignment) (template : Option Template) (catalog : Catalog)
    (responses : ResponseTable) : Progress × List LabelCoverage :=
  (assignment.progress template responses catalog,
    coverage template (some assignment) responses catalog)

/-- Tables that hold the same of an assignment give the same evaluation of it. -/
theorem evaluation_of_agreeOn (assignment : Assignment) (template : Option Template)
    (catalog : Catalog) {left right : ResponseTable} (agree : left.AgreeOn right assignment.id) :
    assignment.evaluation template catalog left = assignment.evaluation template catalog right := by
  have sameVisible (graph : Graph) : (assignment.view graph left catalog).isVisible =
      (assignment.view graph right catalog).isVisible :=
    View.isVisible_ofResponses_of_agreeAt agree.agreeAt graph catalog
  have sameComplete (graph : Graph) : (assignment.view graph left catalog).responses.completes =
      (assignment.view graph right catalog).responses.completes :=
    funext fun nodeId => (agree.agreeAt nodeId).completes
  have sameSteps (graph : Graph) : (assignment.view graph left catalog).clientSteps =
      (assignment.view graph right catalog).clientSteps :=
    View.clientSteps_of_sameVisible rfl (sameVisible graph)
  have sameCoverage (graph : Graph) : (assignment.view graph left catalog).coverage =
      (assignment.view graph right catalog).coverage :=
    View.coverage_of_sameVisible rfl (sameVisible graph) (sameComplete graph)
  refine Prod.ext ?_ ?_
  · simp only [evaluation, progress, sameSteps, sameComplete]
  · simp only [evaluation, Questionnaire.coverage, sameCoverage]

/-- The evaluation of an assignment depends on nothing but the answers and the skips in the last
responses to its nodes. In particular, responses of other assignments may go, responses with
distinct keys may change places, a response that a later one of its key follows may go, and
whatever else a response holds may change. -/
theorem evaluation_isolated (assignment : Assignment) (template : Option Template)
    (catalog : Catalog) :
    let evaluate := assignment.evaluation template catalog
    (∀ left right : ResponseTable, left.AgreeOn right assignment.id →
        evaluate left = evaluate right) ∧
      (∀ table : ResponseTable, evaluate (table.ofAssignment assignment.id) = evaluate table) ∧
      (∀ left right : ResponseTable, left.HasDistinctKeys → left.Perm right →
        evaluate left = evaluate right) ∧
      (∀ before shadowed after, (∃ later ∈ after, later.key = shadowed.key) →
        evaluate (before ++ shadowed :: after) = evaluate (before ++ after)) ∧
      (∀ (table : ResponseTable) (change : Response → Response),
        (∀ response ∈ table, (change response).key = response.key ∧
          (change response).reading = response.reading) →
        evaluate (table.map change) = evaluate table) := by
  intro evaluate
  have same {left right : ResponseTable} (agree : left.AgreeOn right assignment.id) :
      evaluate left = evaluate right :=
    assignment.evaluation_of_agreeOn template catalog agree
  refine ⟨fun _ _ agree => same agree, ?_, ?_, ?_, ?_⟩
  · intro table
    exact same (ResponseTable.agreeOn_ofAssignment table assignment.id)
  · intro left right distinct moved
    exact same (distinct.agreeOn_of_perm moved assignment.id)
  · rintro before shadowed after ⟨later, follows, sameKey⟩
    exact same (ResponseTable.agreeOn_shadowed before follows sameKey assignment.id)
  · intro table change kept
    exact same (ResponseTable.agreeOn_map kept assignment.id)

/-- A yes to a decision that reveals a question, and the question skipped: the same is found out
from a table that also has a no of another assignment, an earlier no, another order and another
reason. -/
theorem evaluation_isolated_rearranged :
    let decision : Node := .ofKind .decision "d"
    let question : Node := .ofKind .question "q"
    let reveals : Edge := { id := "e", source := "d", target := "q", condition := .yes }
    let graph : Graph := { nodes := [decision, question], edges := [reveals] }
    let template : Template := .ofVersion "t" "A" .custom .attorney (.draft 1 graph) .epoch
    let assignment : Assignment := .issue "a" "t" 1 "A" .epoch
    let evaluate := assignment.evaluation (some template) []
    let no : Response := .answered "a" "d" (.bool false) .epoch
    let yes : Response := .answered "a" "d" (.bool true) .epoch
    let skip (reason : String) : Response :=
      .skipped "a" "q" { reason, actor := .client, moment := .epoch } .epoch
    let foreign : Response := .answered "b" "d" (.bool false) .epoch
    let excuse (response : Response) : Response :=
      { response with
        skip := response.skip.map fun skip => { skip with reason := "later" } }
    let table : ResponseTable := [yes, skip "lost"]
    let rearranged : ResponseTable := [no, skip "late", yes, foreign]
    (table.AgreeOn rearranged "a" ∧ evaluate table = evaluate rearranged) ∧
      (table.HasDistinctKeys ∧ table.Perm [skip "lost", yes] ∧
        evaluate table = evaluate [skip "lost", yes]) ∧
      ((∃ later ∈ table, later.key = no.key) ∧ evaluate (no :: table) = evaluate table) ∧
      ((∀ response ∈ table, (excuse response).key = response.key ∧
          (excuse response).reading = response.reading) ∧
        evaluate [yes, skip "later"] = evaluate table) ∧
      (evaluate table).1 = { total := 2, completed := 2, percent := 100, stage := .submitted } := by
  intro decision question reveals graph template assignment evaluate no yes skip foreign excuse
    table rearranged
  obtain ⟨agreeing, _, moving, shadowing, changing⟩ :=
    evaluation_isolated assignment (some template) []
  have agree : table.AgreeOn rearranged "a" := by decide
  have distinct : table.HasDistinctKeys := by decide
  have moved : table.Perm [skip "lost", yes] := .swap _ _ _
  have shadowed : ∃ later ∈ table, later.key = no.key := ⟨yes, List.mem_cons_self, rfl⟩
  have kept : ∀ response ∈ table, (excuse response).key = response.key ∧
      (excuse response).reading = response.reading := by decide
  exact ⟨⟨agree, agreeing _ _ agree⟩, ⟨distinct, moved, moving _ _ distinct moved⟩,
    ⟨shadowed, shadowing [] no table shadowed⟩, ⟨kept, changing table excuse kept⟩,
    by decide +kernel⟩

end Assignment

end Questionnaire
