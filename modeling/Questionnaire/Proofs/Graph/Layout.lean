import Mathlib.Data.List.Forall2
import Questionnaire.Proofs.FirstMatch
import Questionnaire.Proofs.Graph.Sections

/-!
# The layout of the client steps

Where the section headers of a graph have distinct ids, its sections are a layout of the client
steps: every step is listed once, in the bucket of the header under which it is shown, headers and
steps are in order, and a bucket without a header comes last exactly if some step needs it. The
sections that the client sees at a time are some of these buckets, each with some of its steps, in
the same order.
-/

namespace Questionnaire

/-- A bucket is a part of another one if it has the same header and some of the nodes, in order. -/
structure Bucket.IsPartOf (part whole : Bucket) : Prop where
  header : part.header = whole.header
  nodes : part.nodes.Sublist whole.nodes

namespace Graph

/-- The headers that clients may see, in declaration order. -/
def clientHeaders (graph : Graph) : List Node :=
  (graph.nodesOfKind .sectionHeader).filter Node.clientVisible

/-- The header under which a node is shown: the one that it names, if clients may see that. -/
def shownUnder? (graph : Graph) (node : Node) : Option Node :=
  node.sectionId.bind fun id => graph.clientHeaders.find? fun header => header.id == id

/-- What buckets have to be in order to lay out the client steps of a graph. -/
structure IsLayout (graph : Graph) (buckets : List Bucket) : Prop where
  /-- All client steps are listed, each once. -/
  once : (buckets.flatMap Bucket.nodes).Perm (graph.nodes.filter Node.isClientStep)
  /-- No client step is in two buckets. -/
  apart : buckets.Pairwise fun left right => left.nodes.Disjoint right.nodes
  /-- A bucket has the client steps that are shown under its header. -/
  placed : ∀ bucket ∈ buckets, bucket.nodes.Perm
    (graph.nodes.filter fun node => node.isClientStep && graph.shownUnder? node == bucket.header)
  /-- The nodes of a bucket are in order. -/
  ordered : ∀ bucket ∈ buckets, bucket.nodes.Pairwise fun left right =>
    left.standing Node.itemKey ≤ right.standing Node.itemKey
  /-- There is one bucket for each header, in order, and then one without a header exactly if some
  client step is shown under none. -/
  headers : ∃ headers : List Node, headers.Perm graph.clientHeaders ∧
    (headers.Pairwise fun left right =>
      left.standing Node.sectionKey < right.standing Node.sectionKey) ∧
    buckets.map Bucket.header = headers.map some ++
      if ∃ node ∈ graph.nodes, node.isClientStep = true ∧ graph.shownUnder? node = none then [none]
      else []

variable {graph : Graph} {node header : Node}

theorem perm_visibleHeaders (graph : Graph) : graph.visibleHeaders.Perm graph.clientHeaders :=
  perm_sortNodes _ _

theorem mem_visibleHeaders_iff : header ∈ graph.visibleHeaders ↔ header ∈ graph.clientHeaders :=
  graph.perm_visibleHeaders.mem_iff

theorem shownUnder?_eq_none_iff :
    graph.shownUnder? node = none ↔
      ∀ header ∈ graph.visibleHeaders, node.sectionId ≠ some header.id := by
  rw [shownUnder?]
  cases node.sectionId with
  | none => simp only [Option.bind_none, ne_eq, reduceCtorEq, not_false_eq_true, implies_true]
  | some id =>
    simp only [Option.bind_some, List.find?_eq_none, mem_visibleHeaders_iff, beq_iff_eq, ne_eq,
      Option.some.injEq]
    exact forall₂_congr fun header _ => not_congr eq_comm

section

variable (distinct : ((graph.nodesOfKind .sectionHeader).map Node.id).Nodup)
include distinct

theorem nodup_ids_clientHeaders : (graph.clientHeaders.map Node.id).Nodup :=
  distinct.sublist (List.filter_sublist.map Node.id)

theorem nodup_ids_visibleHeaders : (graph.visibleHeaders.map Node.id).Nodup :=
  (graph.perm_visibleHeaders.map Node.id).nodup_iff.2 (nodup_ids_clientHeaders distinct)

theorem shownUnder?_eq_some_iff (isHeader : header ∈ graph.visibleHeaders) :
    graph.shownUnder? node = some header ↔ node.sectionId = some header.id := by
  constructor
  · intro shown
    obtain ⟨id, names, found⟩ := Option.bind_eq_some_iff.1 shown
    have sameId := List.find?_some found
    rw [names, eq_of_beq sameId]
  · intro names
    rw [shownUnder?, names, Option.bind_some]
    exact find?_of_distinct (nodup_ids_clientHeaders distinct) (mem_visibleHeaders_iff.1 isHeader)

/-- Under a header are the client steps that are shown there. -/
theorem perm_sectionSteps_shown (isHeader : header ∈ graph.visibleHeaders) :
    (graph.sectionSteps header.id).Perm (graph.nodes.filter fun node =>
      node.isClientStep && graph.shownUnder? node == some header) := by
  refine (perm_sortNodes _ _).trans (.of_eq (List.filter_congr fun node _ => congrArg _ ?_))
  rw [Bool.eq_iff_iff, beq_iff_eq, beq_iff_eq, shownUnder?_eq_some_iff distinct isHeader]

end

/-- Without a header are the client steps that are shown under none. -/
theorem perm_unsectionedSteps_shown (graph : Graph) :
    (graph.unsectionedSteps graph.visibleHeaders).Perm
      (graph.nodes.filter fun node => node.isClientStep && graph.shownUnder? node == none) := by
  refine (perm_sortNodes _ _).trans (.of_eq (List.filter_congr fun node _ => congrArg _ ?_))
  rw [Bool.eq_iff_iff, Bool.not_eq_true', List.any_eq_false, beq_iff_eq, shownUnder?_eq_none_iff]
  simp only [beq_iff_eq, ne_eq]

/-- A bucket without a header is made exactly if some client step is shown under none. -/
theorem map_header_trailingBuckets (graph : Graph) :
    graph.trailingBuckets.map Bucket.header =
      if ∃ node ∈ graph.nodes, node.isClientStep = true ∧ graph.shownUnder? node = none then [none]
      else [] := by
  have loose (node : Node) : node ∈ graph.unsectionedSteps graph.visibleHeaders ↔
      node ∈ graph.nodes ∧ node.isClientStep = true ∧ graph.shownUnder? node = none := by
    rw [mem_unsectionedSteps, shownUnder?_eq_none_iff]
  rw [trailingBuckets]
  cases steps : graph.unsectionedSteps graph.visibleHeaders with
  | nil =>
    rw [steps] at loose
    refine (if_neg ?_).symm
    rintro ⟨node, isLoose⟩
    exact absurd ((loose node).2 isLoose) List.not_mem_nil
  | cons first rest =>
    rw [steps] at loose
    exact (if_pos ⟨first, (loose first).1 List.mem_cons_self⟩).symm

theorem map_header_sections (graph : Graph) :
    graph.sections.map Bucket.header = graph.visibleHeaders.map some ++
      if ∃ node ∈ graph.nodes, node.isClientStep = true ∧ graph.shownUnder? node = none then [none]
      else [] := by
  rw [sections_eq, List.map_append, map_header_trailingBuckets, List.map_map]
  rfl

/-- A bucket has the client steps that are shown under its header. -/
theorem perm_nodes_of_mem_sections
    (distinct : ((graph.nodesOfKind .sectionHeader).map Node.id).Nodup) {bucket : Bucket}
    (inside : bucket ∈ graph.sections) :
    bucket.nodes.Perm (graph.nodes.filter fun node =>
      node.isClientStep && graph.shownUnder? node == bucket.header) := by
  rcases bucket_of_mem_sections inside with ⟨header, isHeader, rfl⟩ | rfl
  · exact perm_sectionSteps_shown distinct isHeader
  · exact graph.perm_unsectionedSteps_shown

theorem pairwise_nodes_of_mem_sections {bucket : Bucket} (inside : bucket ∈ graph.sections) :
    bucket.nodes.Pairwise fun left right =>
      left.standing Node.itemKey ≤ right.standing Node.itemKey := by
  rcases bucket_of_mem_sections inside with ⟨header, _, rfl⟩ | rfl
  · exact Node.pairwise_sortNodes _ _
  · exact Node.pairwise_sortNodes _ _

theorem nodup_headers_sections
    (distinct : ((graph.nodesOfKind .sectionHeader).map Node.id).Nodup) :
    (graph.sections.map Bucket.header).Nodup := by
  have headed : (graph.visibleHeaders.map some).Nodup :=
    (nodup_ids_visibleHeaders distinct).of_map.map fun _ _ => Option.some.inj
  rw [map_header_sections]
  split_ifs
  · refine List.nodup_append'.2 ⟨headed, List.nodup_singleton none, ?_⟩
    rw [List.disjoint_singleton]
    intro inside
    obtain ⟨header, _, isNone⟩ := List.mem_map.1 inside
    exact absurd isNone nofun
  · rwa [List.append_nil]

/-- No node is shown under two headers, or under one and under none. -/
theorem pairwise_disjoint_sections
    (distinct : ((graph.nodesOfKind .sectionHeader).map Node.id).Nodup) :
    graph.sections.Pairwise fun left right => left.nodes.Disjoint right.nodes := by
  have apart : graph.sections.Pairwise fun left right => left.header ≠ right.header :=
    List.pairwise_map.1 (nodup_headers_sections distinct)
  have shown {bucket : Bucket} (inside : bucket ∈ graph.sections) {node : Node}
      (listed : node ∈ bucket.nodes) : graph.shownUnder? node = bucket.header := by
    have isShown := List.of_mem_filter ((perm_nodes_of_mem_sections distinct inside).subset listed)
    exact eq_of_beq (Bool.and_eq_true_iff.1 isShown).2
  refine apart.imp_of_mem fun isLeft isRight differ node inLeft inRight => ?_
  exact differ ((shown isLeft inLeft).symm.trans (shown isRight inRight))

end Graph

namespace View

variable {view : View} {bucket part : Bucket}

theorem isPartOf_of_visibleBucket? (shown : view.visibleBucket? bucket = some part) :
    part.IsPartOf bucket := by
  rw [visibleBucket?] at shown
  split_ifs at shown
  split at shown
  · exact absurd shown.symm (Option.some_ne_none part)
  · obtain rfl := Option.some.inj shown
    exact ⟨rfl, List.filter_sublist⟩

/-- What the client sees are parts of some of the sections, in order. -/
theorem sublistForall₂_visibleSections (view : View) :
    List.SublistForall₂ Bucket.IsPartOf view.visibleSections view.graph.sections := by
  rw [visibleSections]
  induction view.graph.sections with
  | nil => exact .nil
  | cons bucket rest inductionHypothesis =>
    cases shown : view.visibleBucket? bucket with
    | none =>
      rw [List.filterMap_cons_none shown]
      exact .cons_right inductionHypothesis
    | some part =>
      rw [List.filterMap_cons_some shown]
      exact .cons (isPartOf_of_visibleBucket? shown) inductionHypothesis

end View

/-- Where section headers have distinct ids, the sections lay out the client steps, and whatever the
client sees are parts of some of the sections, in order. -/
theorem Graph.sections_layout {graph : Graph}
    (distinct : ((graph.nodesOfKind .sectionHeader).map Node.id).Nodup) :
    graph.IsLayout graph.sections ∧
      ∀ (responses : ResponseIndex) (catalog : Catalog),
        List.SublistForall₂ Bucket.IsPartOf
          (View.ofResponses graph responses catalog).visibleSections graph.sections := by
  refine ⟨?_, fun responses catalog => View.sublistForall₂_visibleSections _⟩
  exact
    { once := perm_nodes_sections (nodup_ids_visibleHeaders distinct)
      apart := pairwise_disjoint_sections distinct
      placed := fun _ inside => perm_nodes_of_mem_sections distinct inside
      ordered := fun _ inside => pairwise_nodes_of_mem_sections inside
      headers := ⟨graph.visibleHeaders, graph.perm_visibleHeaders,
        Node.pairwise_sortNodes_of_distinct (nodup_ids_clientHeaders distinct),
        graph.map_header_sections⟩ }

/-- Two headers with one sort key, a hidden one, steps that are ordered by number, by height and by
id, one of them twice in the graph, and steps that name the hidden header, a step or nothing. A gate
hides one header, and another step waits for an answer. -/
theorem Graph.sections_layout_mixed :
    let under (id : String) (node : Node) : Node := { node with sectionId := some id }
    let late : Node := { Node.ofKind .sectionHeader "t" with sectionOrder := some 2 }
    let early : Node :=
      { Node.ofKind .sectionHeader "s" with order := some 2, formStepId := some "g" }
    let hidden : Node := { Node.ofKind .sectionHeader "h" with clientVisible := false }
    let first : Node := { under "s" (.ofKind .question "p") with order := some 7 }
    let second : Node := { under "s" (.ofKind .task "q") with position := some (.ofNats 0 8) }
    let twin : Node := under "t" (.ofKind .question "b")
    let waiting : Node := under "t" (.ofKind .question "w")
    let others : List Node :=
      [under "h" (.ofKind .question "z"), under "w" (.ofKind .question "x"), .ofKind .decision "y"]
    let graph : Graph :=
      { nodes := [second, waiting, late, twin, hidden, first, twin, early] ++ others
        edges := [{ id := "e", source := "y", target := "w", condition := .yes }] }
    let gated : FormStep := { id := "g", title := "G", isShown := fun _ => false }
    let view := View.ofResponses graph KeyMap.empty [gated]
    ((graph.nodesOfKind .sectionHeader).map Node.id).Nodup ∧
      graph.clientHeaders = [late, early] ∧
      [first, second].map graph.shownUnder? = [some early, some early] ∧
      [twin, waiting].map graph.shownUnder? = [some late, some late] ∧
      others.map graph.shownUnder? = [none, none, none] ∧
      graph.IsLayout graph.sections ∧
      view.isVisible early = false ∧ view.isVisible waiting = false ∧
      List.SublistForall₂ Bucket.IsPartOf view.visibleSections graph.sections := by
  intro under late early hidden first second twin waiting others graph gated view
  have distinct : ((graph.nodesOfKind .sectionHeader).map Node.id).Nodup := by decide
  obtain ⟨layout, parts⟩ := sections_layout distinct
  exact ⟨distinct, by decide, by decide, by decide, by decide, layout, by decide +kernel,
    by decide +kernel, parts KeyMap.empty [gated]⟩

end Questionnaire
