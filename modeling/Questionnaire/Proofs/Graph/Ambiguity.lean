import Questionnaire.Proofs.Graph.Layout
import Questionnaire.Proofs.Graph.WellFormed

/-!
# Ambiguous ids

Sections, look-ups and responses refer to nodes by id. A client step is listed once in the sections,
and found under its id, exactly where no node before a step has the id of the step and no two
headers that clients may see have one id that a step names. Validity does not say so: a check of a
graph looks at what nodes there are and not at how often, so a valid graph stays valid when one of
its steps is added to it again.
-/

namespace Questionnaire

namespace Graph

/-- Every client step is listed once in the sections and found under its id. -/
structure ListsOnce (graph : Graph) : Prop where
  once : (graph.sections.flatMap Bucket.nodes).Nodup
  found : ∀ node ∈ graph.sections.flatMap Bucket.nodes, graph.node? node.id = some node

/-- Ids are distinct as far as client steps depend on them. -/
structure IsUnambiguous (graph : Graph) : Prop where
  /-- No node before a client step has its id. -/
  steps : graph.nodes.Pairwise fun earlier later =>
    later.isClientStep = true → earlier.id ≠ later.id
  /-- No client step names two headers that clients may see. -/
  headers : graph.clientHeaders.Pairwise fun left right =>
    left.id = right.id → ∀ step ∈ graph.nodes, step.isClientStep = true →
      step.sectionId ≠ some left.id

variable {graph : Graph} {node : Node}

/-- The sections list the client steps, whatever ids are repeated. -/
theorem mem_nodes_sections :
    node ∈ graph.sections.flatMap Bucket.nodes ↔
      node ∈ graph.nodes ∧ node.isClientStep = true := by
  rw [nodes_sections, List.mem_append, List.mem_flatMap, mem_unsectionedSteps]
  simp only [mem_sectionSteps]
  constructor
  · rintro (⟨_, _, isNode, isStep, _⟩ | ⟨isNode, isStep, _⟩) <;> exact ⟨isNode, isStep⟩
  · rintro ⟨isNode, isStep⟩
    by_cases named : ∃ header ∈ graph.visibleHeaders, node.sectionId = some header.id
    · obtain ⟨header, isHeader, names⟩ := named
      exact .inl ⟨header, isHeader, isNode, isStep, names⟩
    · exact .inr ⟨isNode, isStep, fun header isHeader names => named ⟨header, isHeader, names⟩⟩

/-- Of the client steps that pass a test, in order, each is there as often as in the graph. -/
theorem count_sortNodes (test : Node → Bool) (isStep : node.isClientStep = true)
    (passes : test node = true) :
    (sortNodes Node.itemKey
        (graph.nodes.filter fun node => node.isClientStep && test node)).count node =
      (graph.nodes.filter Node.isClientStep).count node := by
  have both : (fun node : Node => node.isClientStep && test node) node = true :=
    Bool.and_eq_true_iff.2 ⟨isStep, passes⟩
  rw [(perm_sortNodes _ _).count_eq, List.count_filter isStep]
  exact List.count_filter both

theorem nodup_sortNodes (test : Node → Bool)
    (distinct : (graph.nodes.filter Node.isClientStep).Nodup) :
    (sortNodes Node.itemKey
      (graph.nodes.filter fun node => node.isClientStep && test node)).Nodup := by
  refine (perm_sortNodes _ _).nodup_iff.2 (distinct.sublist ?_)
  exact List.monotone_filter_right _ fun node both => (Bool.and_eq_true_iff.1 both).1

/-- The client steps under headers, and those without one, are not repeated exactly where no client
step is. -/
theorem nodup_clientSteps_iff (graph : Graph) :
    (graph.nodes.filter Node.isClientStep).Nodup ↔
      (∀ header ∈ graph.visibleHeaders, (graph.sectionSteps header.id).Nodup) ∧
        (graph.unsectionedSteps graph.visibleHeaders).Nodup := by
  constructor
  · intro distinct
    exact ⟨fun header _ => nodup_sortNodes _ distinct, nodup_sortNodes _ distinct⟩
  · rintro ⟨sectioned, unsectioned⟩
    rw [List.nodup_iff_count_le_one]
    intro node
    by_cases isStep : node ∈ graph.nodes.filter Node.isClientStep
    · -- Some bucket has the step as often as the graph.
      have isClient := List.of_mem_filter isStep
      by_cases named : ∃ header ∈ graph.visibleHeaders, node.sectionId = some header.id
      · obtain ⟨header, isHeader, names⟩ := named
        rw [← count_sortNodes (fun node => node.sectionId == some header.id) isClient
          (beq_iff_eq.2 names)]
        exact List.nodup_iff_count_le_one.1 (sectioned header isHeader) node
      · have namesNone : (graph.visibleHeaders.any fun header =>
            node.sectionId == some header.id) = false :=
          List.any_eq_false.2 fun header isHeader names =>
            named ⟨header, isHeader, eq_of_beq names⟩
        rw [← count_sortNodes (fun node => !graph.visibleHeaders.any fun header =>
          node.sectionId == some header.id) isClient (congrArg not namesNone)]
        exact List.nodup_iff_count_le_one.1 unsectioned node
    · rw [List.count_eq_zero_of_not_mem isStep]
      exact Nat.zero_le 1

theorem disjoint_sectionSteps_iff {left right : String} :
    (graph.sectionSteps left).Disjoint (graph.sectionSteps right) ↔
      (left = right → ∀ step ∈ graph.nodes, step.isClientStep = true →
        step.sectionId ≠ some left) := by
  constructor
  · rintro apart rfl step isNode isStep names
    have listed := mem_sectionSteps.2 ⟨isNode, isStep, names⟩
    exact apart listed listed
  · intro apart step inLeft inRight
    obtain ⟨isNode, isStep, namesLeft⟩ := mem_sectionSteps.1 inLeft
    obtain ⟨_, _, namesRight⟩ := mem_sectionSteps.1 inRight
    exact apart (Option.some.inj (namesLeft.symm.trans namesRight)) step isNode isStep namesLeft

/-- The sections repeat no node exactly where no client step is repeated and none names two headers
that clients may see. -/
theorem nodup_nodes_sections_iff (graph : Graph) :
    (graph.sections.flatMap Bucket.nodes).Nodup ↔
      (graph.nodes.filter Node.isClientStep).Nodup ∧
        graph.clientHeaders.Pairwise fun left right =>
          left.id = right.id → ∀ step ∈ graph.nodes, step.isClientStep = true →
            step.sectionId ≠ some left.id := by
  have apart : (graph.visibleHeaders.flatMap fun header => graph.sectionSteps header.id).Disjoint
      (graph.unsectionedSteps graph.visibleHeaders) := by
    intro node sectioned unsectioned
    obtain ⟨header, isHeader, listed⟩ := List.mem_flatMap.1 sectioned
    exact (mem_unsectionedSteps.1 unsectioned).2.2 header isHeader (mem_sectionSteps.1 listed).2.2
  have headers : graph.visibleHeaders.Pairwise (Function.onFun List.Disjoint fun header =>
      graph.sectionSteps header.id) ↔ graph.clientHeaders.Pairwise fun left right =>
        left.id = right.id → ∀ step ∈ graph.nodes, step.isClientStep = true →
          step.sectionId ≠ some left.id := by
    rw [graph.perm_visibleHeaders.pairwise_iff List.Disjoint.symm]
    simp only [disjoint_sectionSteps_iff]
  rw [nodes_sections, List.nodup_append', List.nodup_flatMap, headers, nodup_clientSteps_iff,
    and_iff_left apart, and_right_comm]

theorem listsOnce_iff (graph : Graph) : graph.ListsOnce ↔ graph.IsUnambiguous := by
  have steps : (graph.nodes.Pairwise fun earlier later =>
      later.isClientStep = true → earlier.id ≠ later.id) ↔
        (graph.nodes.filter Node.isClientStep).Nodup ∧ ∀ node ∈ graph.nodes,
          node.isClientStep = true → graph.node? node.id = some node := pairwise_key_ne_iff
  constructor
  · rintro ⟨once, found⟩
    obtain ⟨distinct, headers⟩ := graph.nodup_nodes_sections_iff.1 once
    refine ⟨steps.2 ⟨distinct, fun node isNode isStep => ?_⟩, headers⟩
    exact found node (mem_nodes_sections.2 ⟨isNode, isStep⟩)
  · rintro ⟨apart, headers⟩
    obtain ⟨distinct, found⟩ := steps.1 apart
    refine ⟨graph.nodup_nodes_sections_iff.2 ⟨distinct, headers⟩, fun node listed => ?_⟩
    obtain ⟨isNode, isStep⟩ := mem_nodes_sections.1 listed
    exact found node isNode isStep

/-- A graph stays valid, or not, when one of its nodes is added again. -/
theorem isValid_addNode (isNode : node ∈ graph.nodes) (limit : Nat) :
    ((graph.addNode node).check limit).isValid = (graph.check limit).isValid := by
  have same (other : Node) : other ∈ (graph.addNode node).nodes ↔ other ∈ graph.nodes := by
    rw [addNode, List.mem_append, List.mem_singleton]
    exact or_iff_left_of_imp fun isOther => isOther ▸ isNode
  have sameCycles : (graph.addNode node).Acyclic ↔ graph.Acyclic := Iff.rfl
  rw [Bool.eq_iff_iff, check_isValid_iff, check_isValid_iff, structureDefects_eq_nil_iff,
    structureDefects_eq_nil_iff, sameCycles]
  simp only [EdgesKnown, same]
  rfl

/-- Every client step is listed once and found exactly where ids are distinct as far as client steps
depend on them. When a client step is added again, this is lost, but a valid graph stays valid. -/
theorem listsOnce_iff_isUnambiguous (graph : Graph) (limit : Nat) :
    (graph.ListsOnce ↔ graph.IsUnambiguous) ∧
      (graph.HasDistinctIds → graph.ListsOnce) ∧
      ∀ node ∈ graph.nodes, node.isClientStep = true →
        ((graph.addNode node).check limit).isValid = (graph.check limit).isValid ∧
          ¬ (graph.addNode node).ListsOnce := by
  refine ⟨graph.listsOnce_iff, fun distinct => graph.listsOnce_iff.2 ⟨?_, ?_⟩,
    fun node isNode isStep => ⟨isValid_addNode isNode limit, fun listsOnce => ?_⟩⟩
  · have apart : graph.nodes.Pairwise fun left right => left.id ≠ right.id :=
      List.pairwise_map.1 distinct
    refine apart.imp fun differ => ?_
    exact fun _ => differ
  · have apart := nodup_ids_clientHeaders (distinct.nodesOfKind .sectionHeader)
    exact (List.pairwise_map.1 apart).imp fun differ same => absurd same differ
  · have apart := ((listsOnce_iff _).1 listsOnce).steps
    rw [addNode, List.pairwise_append] at apart
    exact apart.2.2 node isNode node List.mem_cons_self isStep rfl

/-- A valid graph with distinct ids stays valid when its question is added again, and then lists the
question twice. -/
theorem listsOnce_iff_isUnambiguous_again :
    let header : Node := .ofKind .sectionHeader "s"
    let question : Node := { Node.ofKind .question "q" with sectionId := some "s" }
    let graph : Graph :=
      { nodes := [.ofKind .start "start", header, question, .ofKind .finish "end"]
        edges := [{ id := "e", source := "start", target := "q" }] }
    let again := graph.addNode question
    graph.HasDistinctIds ∧ question ∈ graph.nodes ∧ question.isClientStep = true ∧
      graph.ListsOnce ∧ (again.check defaultNodeLimit).isValid = true ∧ ¬ again.ListsOnce := by
  intro header question graph again
  have distinct : graph.HasDistinctIds := by decide
  have isNode : question ∈ graph.nodes := by decide
  have isStep : question.isClientStep = true := rfl
  have isValid : (graph.check defaultNodeLimit).isValid = true := by decide +kernel
  obtain ⟨_, once, twice⟩ := listsOnce_iff_isUnambiguous graph defaultNodeLimit
  obtain ⟨sameValid, notOnce⟩ := twice question isNode isStep
  exact ⟨distinct, isNode, isStep, once distinct, sameValid.trans isValid, notOnce⟩

/-- A valid graph with a header twice, under which a question is listed twice. -/
theorem not_listsOnce_twoHeaders :
    let header : Node := .ofKind .sectionHeader "s"
    let question : Node := { Node.ofKind .question "q" with sectionId := some "s" }
    let graph : Graph :=
      { nodes := [.ofKind .start "start", header, header, question, .ofKind .finish "end"] }
    (graph.check defaultNodeLimit).isValid = true ∧
      graph.sections.flatMap Bucket.nodes = [question, question] ∧ ¬ graph.ListsOnce := by
  intro header question graph
  have same : graph.visibleHeaders.Perm (List.replicate 2 header) := graph.perm_visibleHeaders
  have headers : graph.visibleHeaders = [header, header] := List.perm_replicate.1 same
  have listed : graph.sections.flatMap Bucket.nodes = [question, question] := by
    rw [nodes_sections, headers]
    decide +kernel
  refine ⟨by decide +kernel, listed, fun listsOnce => ?_⟩
  exact absurd (listed ▸ listsOnce.once) (by decide)

end Graph

end Questionnaire
