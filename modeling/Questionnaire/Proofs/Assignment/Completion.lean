import Questionnaire.Assignment.Coverage
import Questionnaire.Proofs.Graph.Sections
import Questionnaire.Proofs.Graph.Visibility

/-!
# What counts as open

Progress, the coverage of labels and the list of missing required nodes each go through the nodes in
their own way, but all of them speak of the client steps that the client sees. The steps that are
left open bound what a label may miss and hold every required node that is reported. A step that is
counted may stand under a hidden header, where no visible section lists it.
-/

namespace Questionnaire

namespace View

variable {view : View} {label : Label} {node : Node}

/-- The client steps that the client sees and that no response completes. -/
def openSteps (view : View) : List Node :=
  view.clientSteps.filter fun node => !view.responses.completes node.id

theorem mem_openSteps :
    node ∈ view.openSteps ↔
      node ∈ view.clientSteps ∧ view.responses.completes node.id = false := by
  rw [openSteps, List.mem_filter, Bool.not_eq_true']

/-! ## Coverage -/

@[simp] theorem label_coverage (view : View) (label : Label) :
    (view.coverage label).label = label := by
  rw [coverage]
  split <;> rfl

theorem covered_coverage_iff : (view.coverage label).covered = true ↔
    (view.coverage label).missing = 0 := by
  rw [coverage]
  split
  · cases critical : label.isCritical <;> simp [LabelCoverage.untracked, critical]
  · rw [LabelCoverage.ofSteps, List.isEmpty_iff_length_eq_zero]

theorem blocking_coverage_le (view : View) (label : Label) :
    (view.coverage label).blocking ≤ (view.coverage label).missing := by
  rw [coverage]
  split
  · exact Nat.zero_le _
  · exact List.countP_le_length

/-- A step that counts towards a label is a client step. -/
theorem trackedSteps_sublist (view : View) : view.trackedSteps.Sublist view.clientSteps := by
  refine List.monotone_filter_right _ fun node tracked => ?_
  rw [Bool.and_eq_true, Bool.and_eq_true] at tracked
  obtain ⟨⟨answerable, _⟩, visible⟩ := tracked
  have asks : node.kind.isStructural = false := by
    revert answerable
    cases node.kind <;> decide
  rw [Bool.and_eq_true, Node.isClientStep, Bool.and_eq_true, Bool.not_eq_true']
  exact ⟨⟨clientVisible_of_isVisible visible, asks⟩, visible⟩

/-- What misses for a label that some step counts towards is open. -/
theorem missing_coverage_le (tracked : ∃ node ∈ view.trackedSteps, label ∈ node.labels) :
    (view.coverage label).missing ≤ view.openSteps.length := by
  have isTracked : view.trackedSteps.filter (fun node => node.labels.contains label) ≠ [] := by
    obtain ⟨node, inside, carries⟩ := tracked
    exact List.ne_nil_of_mem (List.mem_filter.2 ⟨inside, List.contains_iff_mem.2 carries⟩)
  have within : (view.trackedSteps.filter fun node => node.labels.contains label).Sublist
      view.clientSteps :=
    List.filter_sublist.trans view.trackedSteps_sublist
  rw [coverage]
  split
  · rename_i noStep
    exact absurd noStep isTracked
  · exact (within.filter fun node => !view.responses.completes node.id).length_le

theorem coverage_of_not_tracked (untracked : ¬ ∃ node ∈ view.trackedSteps, label ∈ node.labels) :
    view.coverage label = .untracked label := by
  have noStep : view.trackedSteps.filter (fun node => node.labels.contains label) = [] := by
    refine List.filter_eq_nil_iff.2 fun node inside carries => untracked ⟨node, inside, ?_⟩
    exact List.contains_iff_mem.1 carries
  rw [coverage, noStep]

/-- What blocks for a label is open, whether or not a step counts towards it. -/
theorem blocking_coverage_le_openSteps (view : View) (label : Label) :
    (view.coverage label).blocking ≤ view.openSteps.length := by
  by_cases tracked : ∃ node ∈ view.trackedSteps, label ∈ node.labels
  · exact Nat.le_trans (view.blocking_coverage_le label) (missing_coverage_le tracked)
  · rw [coverage_of_not_tracked tracked]
    exact Nat.zero_le _

/-! ## Required nodes -/

/-- A required node that is reported is open. -/
theorem mem_openSteps_of_missing
    (missing : node ∈ missingRequired view.visibleSections view.responses) :
    node ∈ view.openSteps := by
  rw [missingRequired, List.mem_filter, Bool.and_eq_true, Bool.not_eq_true'] at missing
  obtain ⟨listed, _, unanswered⟩ := missing
  exact mem_openSteps.2 ⟨mem_clientSteps_of_mem_visibleSections listed, unanswered⟩

end View

namespace Assignment

variable {assignment : Assignment} {template : Option Template} {graph : Graph}

theorem total_progress (resolved : assignment.pinnedGraph? template = some graph)
    (responses : List Response) (catalog : Catalog) :
    (assignment.progress template responses catalog).total =
      (assignment.view graph responses catalog).clientSteps.length := by
  rw [progress, resolved]

theorem completed_progress (resolved : assignment.pinnedGraph? template = some graph)
    (responses : List Response) (catalog : Catalog) :
    let view := assignment.view graph responses catalog
    (assignment.progress template responses catalog).completed =
      view.clientSteps.countP fun node => view.responses.completes node.id := by
  rw [progress, resolved]

/-- What is counted and not completed is open. -/
theorem total_eq_completed_add (resolved : assignment.pinnedGraph? template = some graph)
    (responses : List Response) (catalog : Catalog) :
    (assignment.progress template responses catalog).total =
      (assignment.progress template responses catalog).completed +
        (assignment.view graph responses catalog).openSteps.length := by
  rw [total_progress resolved, completed_progress resolved, List.countP_eq_length_filter,
    View.openSteps, ← List.length_append, (List.filter_append_perm _ _).length_eq]

theorem coverage_of_pinnedGraph (resolved : assignment.pinnedGraph? template = some graph)
    (responses : List Response) (catalog : Catalog) :
    coverage template (some assignment) responses catalog =
      Label.all.map (assignment.view graph responses catalog).coverage := by
  rw [coverage, resolved]

/-- The evaluators agree on what is complete. A label is covered exactly when nothing of it is
missing; of a label that some step counts towards, no more blocks than is missing, and no more is
missing than progress leaves open; and a required node that the visible sections miss is counted,
but not as completed. So when progress is complete, no required node is missing, no label has a
blocking node, and every label that a step counts towards is covered. -/
theorem completion_agrees {template : Template} {version : TemplateVersion}
    (resolved : template.version? assignment.templateVersion = some version)
    (responses : List Response) (catalog : Catalog) :
    let view := assignment.view version.graph responses catalog
    let progress := assignment.progress (some template) responses catalog
    let labels := coverage (some template) (some assignment) responses catalog
    let missing := missingRequired view.visibleSections view.responses
    let isTracked (label : Label) := ∃ node ∈ view.trackedSteps, label ∈ node.labels
    (labels.map LabelCoverage.label = Label.all ∧ progress.total = view.clientSteps.length ∧
        progress.completed =
          view.clientSteps.countP fun node => view.responses.completes node.id) ∧
      (∀ entry ∈ labels, (entry.covered = true ↔ entry.missing = 0) ∧
        (isTracked entry.label → entry.blocking ≤ entry.missing ∧
          entry.missing ≤ progress.total - progress.completed)) ∧
      (∀ node ∈ missing, node ∈ view.clientSteps ∧ view.responses.completes node.id = false) ∧
      (progress.completed = progress.total → missing = [] ∧
        ∀ entry ∈ labels, entry.blocking = 0 ∧
          (isTracked entry.label → entry.covered = true)) := by
  intro view progress labels missing isTracked
  have pinned : assignment.pinnedGraph? (some template) = some version.graph := by
    rw [pinnedGraph?, Option.bind_some, resolved, Option.map_some]
  have total : progress.total = progress.completed + view.openSteps.length :=
    total_eq_completed_add pinned responses catalog
  have entries : labels = Label.all.map view.coverage :=
    coverage_of_pinnedGraph pinned responses catalog
  have ofView {entry : LabelCoverage} (inside : entry ∈ labels) :
      ∃ label, view.coverage label = entry := by
    obtain ⟨label, _, same⟩ := List.mem_map.1 (entries ▸ inside)
    exact ⟨label, same⟩
  have isOpen {node : Node} (inside : node ∈ missing) : node ∈ view.openSteps :=
    View.mem_openSteps_of_missing inside
  refine ⟨⟨?_, total_progress pinned responses catalog,
      completed_progress pinned responses catalog⟩,
    ?_, fun node inside => View.mem_openSteps.1 (isOpen inside), ?_⟩
  · rw [entries, List.map_map]
    exact List.map_id'' view.label_coverage Label.all
  · intro entry inside
    obtain ⟨label, rfl⟩ := ofView inside
    refine ⟨View.covered_coverage_iff, fun tracked => ⟨view.blocking_coverage_le label, ?_⟩⟩
    rw [View.label_coverage] at tracked
    have bounded := View.missing_coverage_le tracked
    omega
  · intro complete
    have noneOpen : view.openSteps = [] := List.length_eq_zero_iff.1 (by omega)
    refine ⟨List.eq_nil_iff_forall_not_mem.2 fun node inside => ?_, fun entry inside => ?_⟩
    · exact List.not_mem_nil (noneOpen ▸ isOpen inside)
    · obtain ⟨label, rfl⟩ := ofView inside
      have blocked := view.blocking_coverage_le_openSteps label
      rw [noneOpen, List.length_nil] at blocked
      refine ⟨Nat.le_zero.1 blocked, fun tracked => View.covered_coverage_iff.2 ?_⟩
      rw [View.label_coverage] at tracked
      have bounded := View.missing_coverage_le tracked
      rw [noneOpen, List.length_nil] at bounded
      exact Nat.le_zero.1 bounded

/-- An unanswered question leaves its labels uncovered. Once it is skipped, all that the answered
decision reveals is complete. -/
theorem completion_agrees_skipped :
    let decision : Node := { Node.ofKind .decision "d" with labels := [.income] }
    let question : Node :=
      { Node.ofKind .question "q" with labels := [.income, .assets], blocksWorkflow := true }
    let reveals : Edge := { id := "e", source := "d", target := "q", condition := .yes }
    let graph : Graph := { nodes := [decision, question], edges := [reveals] }
    let template : Template := .ofVersion "t" "A" .custom .attorney (.draft 1 graph) .epoch
    let assignment : Assignment := .issue "a" "t" 1 "A" .epoch
    let yes : Response := .answered "a" "d" (.bool true) .epoch
    let skip : Response :=
      .skipped "a" "q" { reason := "lost", actor := .client, moment := .epoch } .epoch
    let responses := [yes, skip]
    let view := assignment.view graph responses []
    let progress := assignment.progress (some template) responses []
    let labels := coverage (some template) (some assignment) responses []
    let assets : LabelCoverage := { label := .assets, covered := true, missing := 0, blocking := 0 }
    template.version? assignment.templateVersion = some (.draft 1 graph) ∧
      (assets ∈ labels ∧ ∃ node ∈ view.trackedSteps, assets.label ∈ node.labels) ∧
      progress.completed = progress.total ∧ progress.total = 2 ∧
      missingRequired view.visibleSections view.responses = [] ∧
      (∀ entry ∈ labels, entry.blocking = 0) ∧ assets.covered = true ∧
      coverage (some template) (some assignment) [yes] [] ≠ labels := by
  intro decision question reveals graph template assignment yes skip responses view progress labels
    assets
  have resolved : template.version? assignment.templateVersion = some (.draft 1 graph) := rfl
  have listed : assets ∈ labels := by decide +kernel
  have tracked : ∃ node ∈ view.trackedSteps, assets.label ∈ node.labels := by decide +kernel
  have complete : progress.completed = progress.total := by decide +kernel
  obtain ⟨_, _, _, settled⟩ := completion_agrees resolved responses []
  obtain ⟨noneMissing, covered⟩ := settled complete
  exact ⟨resolved, ⟨listed, tracked⟩, complete, by decide +kernel, noneMissing,
    fun entry inside => (covered entry inside).1, (covered assets listed).2 tracked,
    by decide +kernel⟩

end Assignment

/-! ## What is shown -/

/-- Of a graph without repeated ids, the visible sections list exactly the client steps that
progress counts, each once, except those under a header that clients may see but that its gates
hide: the total is the number of listed steps and of these. -/
theorem Graph.visibleSections_listing {graph : Graph} (distinct : graph.HasDistinctIds)
    (responses : ResponseIndex) (catalog : Catalog) :
    let view := View.ofResponses graph responses catalog
    let listed := view.visibleSections.flatMap Bucket.nodes
    listed.Perm (view.clientSteps.filter fun node => !view.isUnderHiddenHeader node) ∧
      (listed.map Node.id).Nodup ∧
      (listed.Perm view.clientSteps ↔
        ∀ node ∈ view.clientSteps, view.isUnderHiddenHeader node = false) ∧
      ∀ (assignment : Assignment) (template : Option Template) (table : ResponseTable),
        assignment.pinnedGraph? template = some graph →
        ResponseIndex.ofAssignment table assignment.id = responses →
        (assignment.progress template table catalog).total =
          listed.length + view.clientSteps.countP view.isUnderHiddenHeader := by
  intro view listed
  have shown : listed.Perm (view.clientSteps.filter fun node => !view.isUnderHiddenHeader node) :=
    View.perm_nodes_visibleSections distinct.visibleHeaders
  refine ⟨shown, ?_, ⟨?_, ?_⟩, ?_⟩
  · refine (shown.map Node.id).nodup_iff.2 (distinct.sublist ?_)
    exact (List.filter_sublist.trans List.filter_sublist).map Node.id
  · intro all node inside
    have kept := List.length_filter_eq_length_iff.1 (shown.length_eq.symm.trans all.length_eq)
    rw [← Bool.not_eq_true', kept node inside]
  · intro noneUnder
    refine shown.trans (.of_eq (List.filter_eq_self.2 fun node inside => ?_))
    rw [noneUnder node inside, Bool.not_false]
  · rintro assignment template table resolved rfl
    rw [Assignment.total_progress resolved, shown.length_eq, List.countP_eq_length_filter,
      Nat.add_comm, ← List.length_append]
    exact (List.filter_append_perm _ _).length_eq.symm

/-- Of three questions that progress counts, the one under the hidden header is not listed. -/
theorem Graph.visibleSections_listing_gated :
    let shownHeader : Node := .ofKind .sectionHeader "s"
    let hiddenHeader : Node := { Node.ofKind .sectionHeader "h" with formStepId := some "g" }
    let first : Node := { Node.ofKind .question "p" with sectionId := some "s" }
    let second : Node := { Node.ofKind .question "q" with sectionId := some "h" }
    let third : Node := { Node.ofKind .question "r" with sectionId := some "unknown" }
    let graph : Graph := { nodes := [second, third, hiddenHeader, first, shownHeader] }
    let gated : FormStep := { id := "g", title := "G", isShown := fun _ => false }
    let template : Template := .ofVersion "t" "A" .custom .attorney (.draft 1 graph) .epoch
    let assignment : Assignment := .issue "a" "t" 1 "A" .epoch
    let table : ResponseTable := [.answered "a" "p" (.text "x") .epoch]
    let index := ResponseIndex.ofAssignment table assignment.id
    let view := View.ofResponses graph index [gated]
    let listed := view.visibleSections.flatMap Bucket.nodes
    graph.HasDistinctIds ∧ assignment.pinnedGraph? (some template) = some graph ∧
      listed.Perm [first, third] ∧ (listed.map Node.id).Nodup ∧ ¬ listed.Perm view.clientSteps ∧
      (assignment.progress (some template) table [gated]).total = listed.length + 1 := by
  intro shownHeader hiddenHeader first second third graph gated template assignment table index
    view listed
  have distinct : graph.HasDistinctIds := by decide
  have resolved : assignment.pinnedGraph? (some template) = some graph := rfl
  obtain ⟨shown, once, all, counted⟩ := visibleSections_listing distinct index [gated]
  have isCounted : second ∈ view.clientSteps := by decide +kernel
  have isUnder : view.isUnderHiddenHeader second = true := by decide +kernel
  have others : (view.clientSteps.filter fun node => !view.isUnderHiddenHeader node) =
      [third, first] := by decide +kernel
  have under : view.clientSteps.countP view.isUnderHiddenHeader = 1 := by decide +kernel
  refine ⟨distinct, resolved, shown.trans (others ▸ .swap _ _ _), once, fun same => ?_, ?_⟩
  · exact Bool.false_ne_true ((all.1 same second isCounted).symm.trans isUnder)
  · rw [counted assignment (some template) table resolved rfl, under]

/-- A question that is seen, under a header that its gate hides: progress counts it, and no section
lists it. -/
theorem Graph.not_perm_visibleSections_gated :
    let header : Node := { Node.ofKind .sectionHeader "s" with formStepId := some "g" }
    let question : Node := { Node.ofKind .question "q" with sectionId := some "s" }
    let graph : Graph := { nodes := [header, question] }
    let gated : FormStep := { id := "g", title := "G", isShown := fun _ => false }
    let view := View.ofResponses graph KeyMap.empty [gated]
    graph.HasDistinctIds ∧ view.clientSteps = [question] ∧ view.visibleSections = [] ∧
      ¬ (view.visibleSections.flatMap Bucket.nodes).Perm view.clientSteps := by
  intro header question graph gated view
  have counted : view.clientSteps = [question] := by decide +kernel
  have shown : view.visibleSections = [] := by decide +kernel
  refine ⟨by decide, counted, shown, ?_⟩
  rw [counted, shown]
  exact fun same => List.cons_ne_nil _ _ same.nil_eq.symm

end Questionnaire
