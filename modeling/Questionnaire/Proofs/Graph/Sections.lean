import Mathlib.Data.List.Perm.Basic
import Questionnaire.Assignment.Progress
import Questionnaire.Proofs.Graph.Sorting

/-!
# Sections as a partition

Where the headers that clients may see have distinct ids, the buckets of the section projection
split the client steps: each is in one bucket, once. Of them, the sections that the client sees list
those that are seen, except under a header that clients may see but that its own gates hide: such a
bucket is dropped as a whole, also where its nodes pass their own gates. Progress counts these nodes
all the same.
-/

namespace Questionnaire

namespace Graph

/-- No two nodes have the same id. -/
def HasDistinctIds (graph : Graph) : Prop :=
  (graph.nodes.map Node.id).Nodup

instance (graph : Graph) : Decidable graph.HasDistinctIds :=
  inferInstanceAs (Decidable (graph.nodes.map Node.id).Nodup)

variable {graph : Graph} {node header : Node} {bucket : Bucket}

theorem mem_visibleHeaders :
    header ∈ graph.visibleHeaders ↔
      header ∈ graph.nodes ∧ header.kind = .sectionHeader ∧ header.clientVisible = true := by
  rw [visibleHeaders, (perm_sortNodes _ _).mem_iff, List.mem_filter, nodesOfKind, List.mem_filter,
    beq_iff_eq, and_assoc]

theorem HasDistinctIds.nodesOfKind (distinct : graph.HasDistinctIds) (kind : NodeKind) :
    ((graph.nodesOfKind kind).map Node.id).Nodup :=
  distinct.sublist (List.filter_sublist.map Node.id)

theorem HasDistinctIds.visibleHeaders (distinct : graph.HasDistinctIds) :
    (graph.visibleHeaders.map Node.id).Nodup := by
  have headers := distinct.nodesOfKind .sectionHeader
  exact ((perm_sortNodes _ _).map Node.id).nodup_iff.2
    (headers.sublist (List.filter_sublist.map Node.id))

theorem mem_sectionSteps {sectionId : String} :
    node ∈ graph.sectionSteps sectionId ↔
      node ∈ graph.nodes ∧ node.isClientStep = true ∧ node.sectionId = some sectionId := by
  rw [sectionSteps, (perm_sortNodes _ _).mem_iff, List.mem_filter, Bool.and_eq_true, beq_iff_eq]

theorem mem_unsectionedSteps {headers : List Node} :
    node ∈ graph.unsectionedSteps headers ↔
      node ∈ graph.nodes ∧ node.isClientStep = true ∧
        ∀ header ∈ headers, node.sectionId ≠ some header.id := by
  rw [unsectionedSteps, (perm_sortNodes _ _).mem_iff, List.mem_filter, Bool.and_eq_true,
    Bool.not_eq_true', List.any_eq_false]
  simp only [beq_iff_eq, ne_eq]

/-- One more header takes its steps from those without a header. -/
theorem perm_unsectionedSteps_cons {headers : List Node}
    (isNew : header.id ∉ headers.map Node.id) :
    (graph.sectionSteps header.id ++ graph.unsectionedSteps (header :: headers)).Perm
      (graph.unsectionedSteps headers) := by
  have named : (graph.nodes.filter fun node =>
      node.isClientStep && !headers.any fun header => node.sectionId == some header.id).filter
        (fun node => node.sectionId == some header.id) =
      graph.nodes.filter fun node => node.isClientStep && node.sectionId == some header.id := by
    rw [List.filter_filter]
    refine List.filter_congr fun node _ => ?_
    cases names : node.sectionId == some header.id with
    | false => simp
    | true =>
      have others : (headers.any fun other => node.sectionId == some other.id) = false := by
        refine List.any_eq_false.2 fun other inside same => isNew ?_
        have sameId := (eq_of_beq names).symm.trans (eq_of_beq same)
        exact Option.some.inj sameId ▸ List.mem_map_of_mem inside
      rw [others]
      simp
  have unnamed : (graph.nodes.filter fun node =>
      node.isClientStep && !headers.any fun header => node.sectionId == some header.id).filter
        (fun node => !node.sectionId == some header.id) =
      graph.nodes.filter fun node => node.isClientStep &&
        !(header :: headers).any fun header => node.sectionId == some header.id := by
    rw [List.filter_filter]
    refine List.filter_congr fun node _ => ?_
    rw [List.any_cons, Bool.not_or, Bool.and_left_comm]
  refine ((perm_sortNodes _ _).append (perm_sortNodes _ _)).trans ?_
  rw [← named, ← unnamed]
  exact (List.filter_append_perm _ _).trans (perm_sortNodes _ _).symm

/-- Under headers with distinct ids, and under none of them, are all client steps, each once. -/
theorem perm_sectionSteps {headers : List Node} (distinct : (headers.map Node.id).Nodup) :
    ((headers.flatMap fun header => graph.sectionSteps header.id) ++
        graph.unsectionedSteps headers).Perm
      (graph.nodes.filter Node.isClientStep) := by
  induction headers with
  | nil =>
    refine (perm_sortNodes _ _).trans (.of_eq ?_)
    exact List.filter_congr fun node _ => Bool.and_true _
  | cons header headers inductionHypothesis =>
    obtain ⟨isNew, distinctRest⟩ := List.nodup_cons.1 distinct
    rw [List.flatMap_cons, List.append_assoc]
    refine (List.perm_append_comm_assoc _ _ _).trans ?_
    exact ((perm_unsectionedSteps_cons isNew).append_left _).trans
      (inductionHypothesis distinctRest)

/-- The bucket of a header. -/
def headedBucket (graph : Graph) (header : Node) : Bucket where
  header := some header
  nodes := graph.sectionSteps header.id

@[simp] theorem header_headedBucket (graph : Graph) (header : Node) :
    (graph.headedBucket header).header = some header := rfl

@[simp] theorem nodes_headedBucket (graph : Graph) (header : Node) :
    (graph.headedBucket header).nodes = graph.sectionSteps header.id := rfl

/-- The bucket of the client steps without a header, unless there are none. -/
def trailingBuckets (graph : Graph) : List Bucket :=
  match graph.unsectionedSteps graph.visibleHeaders with
  | [] => []
  | steps => [{ header := none, nodes := steps }]

theorem sections_eq (graph : Graph) :
    graph.sections = graph.visibleHeaders.map graph.headedBucket ++ graph.trailingBuckets := by
  rw [sections, trailingBuckets]
  cases graph.unsectionedSteps graph.visibleHeaders with
  | nil => exact (List.append_nil _).symm
  | cons first rest => rfl

theorem nodes_trailingBuckets (graph : Graph) :
    graph.trailingBuckets.flatMap Bucket.nodes = graph.unsectionedSteps graph.visibleHeaders := by
  rw [trailingBuckets]
  cases graph.unsectionedSteps graph.visibleHeaders with
  | nil => rfl
  | cons first rest => exact List.flatMap_singleton ..

theorem nodes_sections (graph : Graph) :
    graph.sections.flatMap Bucket.nodes =
      (graph.visibleHeaders.flatMap fun header => graph.sectionSteps header.id) ++
        graph.unsectionedSteps graph.visibleHeaders := by
  rw [sections_eq, List.flatMap_append, List.flatMap_map, nodes_trailingBuckets]
  simp only [nodes_headedBucket]

/-- Where the headers have distinct ids, the buckets hold all client steps, each once. -/
theorem perm_nodes_sections (distinct : (graph.visibleHeaders.map Node.id).Nodup) :
    (graph.sections.flatMap Bucket.nodes).Perm (graph.nodes.filter Node.isClientStep) := by
  rw [nodes_sections]
  exact perm_sectionSteps distinct

theorem mem_trailingBuckets :
    bucket ∈ graph.trailingBuckets ↔ graph.unsectionedSteps graph.visibleHeaders ≠ [] ∧
      bucket = { header := none, nodes := graph.unsectionedSteps graph.visibleHeaders } := by
  rw [trailingBuckets]
  cases graph.unsectionedSteps graph.visibleHeaders with
  | nil => simp only [List.not_mem_nil, ne_eq, not_true_eq_false, false_and]
  | cons first rest =>
    simp only [List.mem_singleton, ne_eq, List.cons_ne_nil, not_false_eq_true, true_and]

/-- A bucket has a header that clients may see and the steps that name it, or has no header and the
steps that name none. -/
theorem bucket_of_mem_sections (inside : bucket ∈ graph.sections) :
    (∃ header ∈ graph.visibleHeaders, bucket = graph.headedBucket header) ∨
      bucket = { header := none, nodes := graph.unsectionedSteps graph.visibleHeaders } := by
  rw [sections_eq, List.mem_append, List.mem_map, mem_trailingBuckets] at inside
  rcases inside with ⟨header, isHeader, rfl⟩ | ⟨_, isTrailing⟩
  · exact .inl ⟨header, isHeader, rfl⟩
  · exact .inr isTrailing

theorem isClientStep_of_mem_sections (inside : bucket ∈ graph.sections)
    (listed : node ∈ bucket.nodes) : node ∈ graph.nodes ∧ node.isClientStep = true := by
  rcases bucket_of_mem_sections inside with ⟨header, _, rfl⟩ | rfl
  · obtain ⟨isNode, isStep, _⟩ := mem_sectionSteps.1 listed
    exact ⟨isNode, isStep⟩
  · obtain ⟨isNode, isStep, _⟩ := mem_unsectionedSteps.1 listed
    exact ⟨isNode, isStep⟩

end Graph

namespace View

variable {view : View} {node : Node} {bucket : Bucket}

/-- Whether the node names a header that clients may see, but that its own gates hide now. -/
def isUnderHiddenHeader (view : View) (node : Node) : Bool :=
  view.graph.nodes.any fun header => header.kind == .sectionHeader && header.clientVisible &&
    node.sectionId == some header.id && !view.isVisible header

theorem isUnderHiddenHeader_iff :
    view.isUnderHiddenHeader node = true ↔ ∃ header ∈ view.graph.visibleHeaders,
      node.sectionId = some header.id ∧ view.isVisible header = false := by
  simp only [isUnderHiddenHeader, List.any_eq_true, Bool.and_eq_true, beq_iff_eq, Bool.not_eq_true',
    Graph.mem_visibleHeaders, and_assoc]

/-- Where the headers have distinct ids, the nodes of a bucket are under a hidden header if and
only if the header of the bucket is hidden. -/
theorem isUnderHiddenHeader_of_mem_sections
    (distinct : (view.graph.visibleHeaders.map Node.id).Nodup)
    (inside : bucket ∈ view.graph.sections) (listed : node ∈ bucket.nodes) :
    view.isUnderHiddenHeader node = !bucket.header.all view.isVisible := by
  rcases Graph.bucket_of_mem_sections inside with ⟨header, isHeader, rfl⟩ | rfl
  · obtain ⟨_, _, names⟩ := Graph.mem_sectionSteps.1 listed
    rw [Graph.header_headedBucket, Option.all_some, Bool.eq_iff_iff, isUnderHiddenHeader_iff,
      Bool.not_eq_true']
    constructor
    · rintro ⟨other, isOther, namesOther, hidden⟩
      have sameId := Option.some.inj (namesOther.symm.trans names)
      exact List.inj_on_of_nodup_map distinct isOther isHeader sameId ▸ hidden
    · intro hidden
      exact ⟨header, isHeader, names, hidden⟩
  · obtain ⟨_, _, namesNone⟩ := Graph.mem_unsectionedSteps.1 listed
    rw [Option.all_none, Bool.not_true, ← Bool.not_eq_true, isUnderHiddenHeader_iff]
    rintro ⟨header, isHeader, names, _⟩
    exact namesNone header isHeader names

/-- The sections that the client sees list what is seen of the buckets whose header is seen. -/
theorem nodes_visibleSections (view : View) :
    view.visibleSections.flatMap Bucket.nodes = view.graph.sections.flatMap fun bucket =>
      if bucket.header.all view.isVisible then bucket.nodes.filter view.isVisible else [] := by
  rw [visibleSections]
  induction view.graph.sections with
  | nil => rfl
  | cons bucket rest inductionHypothesis =>
    rw [List.flatMap_cons, ← inductionHypothesis, List.filterMap_cons, visibleBucket?]
    split_ifs with seen
    · cases left : bucket.nodes.filter view.isVisible <;> rfl
    · rfl

/-- Every node that the visible sections list is a client step that the client sees. -/
theorem mem_clientSteps_of_mem_visibleSections
    (listed : node ∈ view.visibleSections.flatMap Bucket.nodes) : node ∈ view.clientSteps := by
  rw [nodes_visibleSections] at listed
  obtain ⟨bucket, inside, kept⟩ := List.mem_flatMap.1 listed
  split_ifs at kept
  · obtain ⟨held, seen⟩ := List.mem_filter.1 kept
    obtain ⟨isNode, isStep⟩ := Graph.isClientStep_of_mem_sections inside held
    exact List.mem_filter.2 ⟨isNode, Bool.and_eq_true_iff.2 ⟨isStep, seen⟩⟩
  · exact absurd kept List.not_mem_nil

/-- Where the headers have distinct ids, the visible sections list the client steps that are seen,
each once, without those under a hidden header. -/
theorem perm_nodes_visibleSections (distinct : (view.graph.visibleHeaders.map Node.id).Nodup) :
    (view.visibleSections.flatMap Bucket.nodes).Perm
      (view.clientSteps.filter fun node => !view.isUnderHiddenHeader node) := by
  have keeps (bucket : Bucket) (inside : bucket ∈ view.graph.sections) :
      (if bucket.header.all view.isVisible then bucket.nodes.filter view.isVisible else []) =
        bucket.nodes.filter fun node => !view.isUnderHiddenHeader node && view.isVisible node := by
    have underHidden {node : Node} (listed : node ∈ bucket.nodes) :=
      isUnderHiddenHeader_of_mem_sections distinct inside listed
    split_ifs with seen
    · refine List.filter_congr fun node listed => ?_
      rw [underHidden listed, seen, Bool.not_true, Bool.not_false, Bool.true_and]
    · refine (List.filter_eq_nil_iff.2 fun node listed => ?_).symm
      rw [underHidden listed, Bool.eq_false_iff.2 seen]
      exact Bool.false_ne_true
  have steps : (view.graph.nodes.filter Node.isClientStep).filter
      (fun node => !view.isUnderHiddenHeader node && view.isVisible node) =
        view.clientSteps.filter fun node => !view.isUnderHiddenHeader node := by
    rw [clientSteps, List.filter_filter, List.filter_filter]
    refine List.filter_congr fun node _ => ?_
    rw [Bool.and_assoc, Bool.and_comm (view.isVisible node)]
  rw [nodes_visibleSections, List.flatMap_congr keeps, ← List.filter_flatMap, ← steps]
  exact (Graph.perm_nodes_sections distinct).filter _

end View

end Questionnaire
