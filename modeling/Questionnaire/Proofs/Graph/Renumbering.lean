import Questionnaire.Proofs.Graph.Layout
import Questionnaire.Proofs.Graph.Ordering

/-!
# Sections with normal order numbers

Items are numbered section by section, also in sections that clients may not see. Steps that are
numbered together keep their order, and so do those that are numbered in no section. A bucket with a
header has steps of one section only and stays as it is. The bucket without a header has the steps
of all sections that clients may not see besides those in no section: there, steps of different
sections may change places.
-/

namespace Questionnaire

namespace Bucket

/-- The ids of the header and of the nodes, in order. -/
def outline (bucket : Bucket) : Option String × List String :=
  (bucket.header.map Node.id, bucket.nodes.map Node.id)

/-- Two buckets have the same ids, and those of each group in the same order. -/
structure KeepsGroups (group : Node → Option String) (before after : Bucket) : Prop where
  header : after.header.map Node.id = before.header.map Node.id
  ids : (after.nodes.map Node.id).Perm (before.nodes.map Node.id)
  order : ∀ name, (after.nodes.filter fun node => group node == name).map Node.id =
    (before.nodes.filter fun node => group node == name).map Node.id

/-- All nodes of a bucket are in one group. -/
def IsOneGroup (group : Node → Option String) (bucket : Bucket) : Prop :=
  ∀ left ∈ bucket.nodes, ∀ right ∈ bucket.nodes, group left = group right

variable {group : Node → Option String} {before after : Bucket}

/-- No node has a new group. -/
theorem KeepsGroups.exists_group_eq (kept : KeepsGroups group before after) {node : Node}
    (inside : node ∈ after.nodes) : ∃ other ∈ before.nodes, group other = group node := by
  have isListed : node ∈ after.nodes.filter fun other => group other == group node :=
    List.mem_filter.2 ⟨inside, beq_self_eq_true (group node)⟩
  have listed := List.mem_map_of_mem (f := Node.id) isListed
  rw [kept.order] at listed
  obtain ⟨other, isOther, _⟩ := List.mem_map.1 listed
  obtain ⟨otherInside, sameGroup⟩ := List.mem_filter.1 isOther
  exact ⟨other, otherInside, eq_of_beq sameGroup⟩

/-- Where all nodes are in one group, nothing changes places. -/
theorem KeepsGroups.outline_eq (kept : KeepsGroups group before after)
    (oneGroup : before.IsOneGroup group) : after.outline = before.outline := by
  refine Prod.ext kept.header ?_
  cases nodes : before.nodes with
  | nil =>
    have isEmpty := kept.ids
    rw [nodes] at isEmpty
    rw [outline, outline, nodes]
    exact isEmpty.eq_nil
  | cons first rest =>
    have isFirst : first ∈ before.nodes := nodes ▸ List.mem_cons_self
    -- The group of the first node is all of both buckets.
    have order := kept.order (group first)
    rw [List.filter_eq_self.2, List.filter_eq_self.2] at order
    · exact order
    · intro node inside
      exact beq_iff_eq.2 (oneGroup node inside first isFirst)
    · intro node inside
      obtain ⟨other, otherInside, sameGroup⟩ := kept.exists_group_eq inside
      exact beq_iff_eq.2 (sameGroup.symm.trans (oneGroup other otherInside first isFirst))

end Bucket

namespace Graph

/-- The section in which a node would be numbered: the one that it names, if there is such a
section. Whether clients may see the section does not matter. -/
def numberedIn? (graph : Graph) (node : Node) : Option String :=
  node.sectionId.filter fun id =>
    (graph.nodesOfKind .sectionHeader).any fun header => header.id == id

/-- Whether a node names none of the headers. -/
def namesNone (headers : List Node) (node : Node) : Bool :=
  !headers.any fun header => node.sectionId == some header.id

variable {graph : Graph} {node header : Node}

theorem numberedIn?_eq_some_iff {id : String} :
    graph.numberedIn? node = some id ↔
      node.sectionId = some id ∧ ∃ header ∈ graph.nodesOfKind .sectionHeader, header.id = id := by
  rw [numberedIn?, Option.filter_eq_some_iff, List.any_eq_true]
  simp only [beq_iff_eq]

theorem numberedIn?_numbered (graph : Graph) (node : Node) :
    graph.numberedIn? (graph.numbered node) = graph.numberedIn? node := by
  rw [numberedIn?, numberedIn?, sectionId_numbered]

theorem isClientStep_numbered (graph : Graph) (node : Node) :
    (graph.numbered node).isClientStep = node.isClientStep := by
  rw [numbered_eq]
  rfl

theorem clientVisible_numbered (graph : Graph) (node : Node) :
    (graph.numbered node).clientVisible = node.clientVisible := by
  rw [numbered_eq]

/-- The client steps that pass a test are the same. -/
theorem filter_normalizeOrder (graph : Graph) (test : Node → Bool)
    (testNumbered : ∀ node, test (graph.numbered node) = test node) :
    graph.normalizeOrder.nodes.filter (fun node => node.isClientStep && test node) =
      (graph.nodes.filter fun node => node.isClientStep && test node).map graph.numbered := by
  rw [nodes_normalizeOrder, List.filter_map]
  simp only [Function.comp_def, isClientStep_numbered, testNumbered]

/-- A client step is an item of the section that it names. -/
theorem isSectionItem_of_isClientStep (isStep : node.isClientStep = true) :
    node.kind.isSectionItem = true := by
  obtain ⟨_, notStructural⟩ := Bool.and_eq_true_iff.1 isStep
  cases isKind : node.kind <;> rw [isKind] at notStructural <;>
    first | rfl | exact absurd notStructural (by decide)

section

variable (distinct : graph.HasDistinctIds) (few : graph.nodes.length < 4294968)
include distinct

/-- A client step that is numbered in no section stays as it is. -/
theorem numbered_of_numberedIn?_eq_none (inside : node ∈ graph.nodes)
    (isStep : node.isClientStep = true) (inNone : graph.numberedIn? node = none) :
    graph.numbered node = node := by
  have isItem := isSectionItem_of_isClientStep isStep
  refine (numbers_numbered distinct inside).unique (.outside ?_ fun _ header isSection named => ?_)
  · intro isHeader
    exact absurd isItem (by rw [isHeader]; decide)
  · have inSection := numberedIn?_eq_some_iff.2 ⟨named, header, isSection, rfl⟩
    exact absurd (inNone.symm.trans inSection) nofun

include few

/-- Client steps that are numbered together keep their order. -/
theorem standing_numbered_lt_iff {left right : Node} (isLeft : left ∈ graph.nodes)
    (isRight : right ∈ graph.nodes) (leftStep : left.isClientStep = true)
    (rightStep : right.isClientStep = true)
    (together : graph.numberedIn? left = graph.numberedIn? right) :
    (graph.numbered left).standing Node.itemKey < (graph.numbered right).standing Node.itemKey ↔
      left.standing Node.itemKey < right.standing Node.itemKey := by
  cases inRight : graph.numberedIn? right with
  | none =>
    rw [numbered_of_numberedIn?_eq_none distinct isLeft leftStep (together.trans inRight),
      numbered_of_numberedIn?_eq_none distinct isRight rightStep inRight]
  | some id =>
    obtain ⟨leftNames, header, isSection, rfl⟩ := numberedIn?_eq_some_iff.1 (together.trans inRight)
    obtain ⟨rightNames, _⟩ := numberedIn?_eq_some_iff.1 inRight
    have fewItems : (graph.itemsOf header.id).length < 4294968 :=
      (List.length_filter_le _ _).trans_lt few
    exact (isNumberedBy_items distinct isSection).standing_lt_iff_of_few
      (distinct.itemsOf header.id) fewItems
      (mem_itemsOf.2 ⟨isLeft, isSectionItem_of_isClientStep leftStep, leftNames⟩)
      (mem_itemsOf.2 ⟨isRight, isSectionItem_of_isClientStep rightStep, rightNames⟩)

/-- The headers that clients may see keep their order. -/
theorem visibleHeaders_normalizeOrder :
    graph.normalizeOrder.visibleHeaders = graph.visibleHeaders.map graph.numbered := by
  have fewHeaders : (graph.nodesOfKind .sectionHeader).length < 4294968 :=
    (List.length_filter_le _ _).trans_lt few
  have sameHeaders :
      ((graph.nodesOfKind .sectionHeader).map graph.numbered).filter Node.clientVisible =
        ((graph.nodesOfKind .sectionHeader).filter Node.clientVisible).map graph.numbered := by
    rw [List.filter_map]
    simp only [Function.comp_def, clientVisible_numbered]
  rw [visibleHeaders, nodesOfKind_normalizeOrder, sameHeaders]
  exact Node.sortNodes_map fun left isLeft right isRight =>
    (isNumberedBy_headers distinct).standing_lt_iff_of_few (distinct.nodesOfKind _) fewHeaders
      (List.mem_of_mem_filter isLeft) (List.mem_of_mem_filter isRight)

/-- Client steps that pass a test and are numbered together are the same, in the same order. -/
theorem sortNodes_normalizeOrder (test : Node → Bool)
    (testNumbered : ∀ node, test (graph.numbered node) = test node) (name : Option String)
    (together : ∀ node, test node = true → graph.numberedIn? node = name) :
    sortNodes Node.itemKey
        (graph.normalizeOrder.nodes.filter fun node => node.isClientStep && test node) =
      (sortNodes Node.itemKey
        (graph.nodes.filter fun node => node.isClientStep && test node)).map graph.numbered := by
  rw [filter_normalizeOrder graph test testNumbered]
  refine Node.sortNodes_map fun left isLeft right isRight => ?_
  obtain ⟨leftNode, leftPasses⟩ := List.mem_filter.1 isLeft
  obtain ⟨rightNode, rightPasses⟩ := List.mem_filter.1 isRight
  obtain ⟨leftStep, leftTest⟩ := Bool.and_eq_true_iff.1 leftPasses
  obtain ⟨rightStep, rightTest⟩ := Bool.and_eq_true_iff.1 rightPasses
  exact standing_numbered_lt_iff distinct few leftNode rightNode leftStep rightStep
    ((together left leftTest).trans (together right rightTest).symm)

/-- The steps of a section keep their order. -/
theorem sectionSteps_normalizeOrder (isSection : header ∈ graph.nodesOfKind .sectionHeader) :
    graph.normalizeOrder.sectionSteps header.id =
      (graph.sectionSteps header.id).map graph.numbered := by
  refine sortNodes_normalizeOrder distinct few _ (fun node => ?_) (some header.id)
    fun node names => ?_
  · rw [sectionId_numbered]
  · exact numberedIn?_eq_some_iff.2 ⟨eq_of_beq names, header, isSection, rfl⟩

end

theorem namesNone_numbered (headers : List Node) (node : Node) :
    namesNone headers (graph.numbered node) = namesNone headers node := by
  rw [namesNone, namesNone, sectionId_numbered]

theorem unsectionedSteps_map_numbered (other : Graph) (headers : List Node) :
    other.unsectionedSteps (headers.map graph.numbered) = other.unsectionedSteps headers := by
  simp only [unsectionedSteps, List.any_map, Function.comp_def, id_numbered]

/-- The steps without a header are the same. -/
theorem perm_unsectionedSteps_normalizeOrder (graph : Graph) (headers : List Node) :
    (graph.normalizeOrder.unsectionedSteps headers).Perm
      ((graph.unsectionedSteps headers).map graph.numbered) := by
  have same := filter_normalizeOrder graph (namesNone headers) (namesNone_numbered headers)
  exact (perm_sortNodes _ _).trans ((List.Perm.of_eq same).trans ((perm_sortNodes _ _).map _).symm)

theorem filter_unsectionedSteps (distinct : graph.HasDistinctIds) (headers : List Node)
    (test : Node → Bool) :
    (graph.unsectionedSteps headers).filter test =
      sortNodes Node.itemKey (graph.nodes.filter fun node =>
        node.isClientStep && (namesNone headers node && test node)) := by
  have loose : ((graph.nodes.filter fun node =>
      node.isClientStep && namesNone headers node).map Node.id).Nodup :=
    distinct.sublist (List.filter_sublist.map Node.id)
  refine (Node.filter_sortNodes loose test).trans (congrArg _ ?_)
  rw [List.filter_filter]
  exact List.filter_congr fun node _ => (Bool.and_comm _ _).trans (Bool.and_assoc _ _ _)

/-- Of the steps without a header, those that are numbered together keep their order. -/
theorem filter_unsectionedSteps_normalizeOrder (distinct : graph.HasDistinctIds)
    (few : graph.nodes.length < 4294968) (headers : List Node) (name : Option String) :
    ((graph.normalizeOrder.unsectionedSteps headers).filter fun node =>
        graph.numberedIn? node == name) =
      ((graph.unsectionedSteps headers).filter fun node =>
        graph.numberedIn? node == name).map graph.numbered := by
  rw [filter_unsectionedSteps distinct, filter_unsectionedSteps distinct.normalizeOrder]
  refine sortNodes_normalizeOrder distinct few _ (fun node => ?_) name fun node passes => ?_
  · rw [namesNone_numbered, numberedIn?_numbered]
  · exact eq_of_beq (Bool.and_eq_true_iff.1 passes).2

/-! ## Buckets before and after -/

theorem keepsGroups_of_filter {before after : Bucket}
    (header : after.header.map Node.id = before.header.map Node.id)
    (same : after.nodes.Perm (before.nodes.map graph.numbered))
    (order : ∀ name, (after.nodes.filter fun node => graph.numberedIn? node == name) =
      (before.nodes.filter fun node => graph.numberedIn? node == name).map graph.numbered) :
    Bucket.KeepsGroups graph.numberedIn? before after where
  header := header
  ids := graph.map_id_numbered before.nodes ▸ same.map Node.id
  order name := by rw [order, map_id_numbered]

section

variable (distinct : graph.HasDistinctIds) (few : graph.nodes.length < 4294968)
include distinct few

theorem keepsGroups_headedBucket (isHeader : header ∈ graph.visibleHeaders) :
    Bucket.KeepsGroups graph.numberedIn? (graph.headedBucket header)
      (graph.normalizeOrder.headedBucket (graph.numbered header)) := by
  obtain ⟨isNode, isKind, _⟩ := mem_visibleHeaders.1 isHeader
  have steps := sectionSteps_normalizeOrder distinct few (mem_nodesOfKind.2 ⟨isNode, isKind⟩)
  have sameNodes : (graph.normalizeOrder.headedBucket (graph.numbered header)).nodes =
      (graph.headedBucket header).nodes.map graph.numbered := by
    rw [nodes_headedBucket, nodes_headedBucket, id_numbered, steps]
  refine keepsGroups_of_filter (congrArg some (graph.id_numbered header)) (.of_eq sameNodes) ?_
  intro name
  rw [sameNodes, List.filter_map]
  simp only [Function.comp_def, numberedIn?_numbered]

theorem forall₂_trailingBuckets :
    List.Forall₂ (Bucket.KeepsGroups graph.numberedIn?) graph.trailingBuckets
      graph.normalizeOrder.trailingBuckets := by
  have same := graph.perm_unsectionedSteps_normalizeOrder graph.visibleHeaders
  have order := filter_unsectionedSteps_normalizeOrder distinct few graph.visibleHeaders
  rw [trailingBuckets, trailingBuckets, visibleHeaders_normalizeOrder distinct few,
    unsectionedSteps_map_numbered]
  -- Only that the steps are the same matters now, since an empty bucket is left out.
  generalize graph.unsectionedSteps graph.visibleHeaders = before at same order ⊢
  generalize graph.normalizeOrder.unsectionedSteps graph.visibleHeaders = after at same order ⊢
  cases before with
  | nil =>
    rw [same.eq_nil]
    exact .nil
  | cons first rest =>
    cases after with
    | nil => exact absurd same.symm.eq_nil (List.cons_ne_nil _ _)
    | cons => exact .cons (keepsGroups_of_filter rfl same order) .nil

/-- Every bucket has the same ids, and those that are numbered together in the same order. -/
theorem forall₂_keepsGroups :
    List.Forall₂ (Bucket.KeepsGroups graph.numberedIn?) graph.sections
      graph.normalizeOrder.sections := by
  have headed : List.Forall₂ (Bucket.KeepsGroups graph.numberedIn?)
      (graph.visibleHeaders.map graph.headedBucket)
      (graph.normalizeOrder.visibleHeaders.map graph.normalizeOrder.headedBucket) := by
    rw [visibleHeaders_normalizeOrder distinct few, List.forall₂_map_left_iff,
      List.forall₂_map_right_iff, List.forall₂_map_right_iff, List.forall₂_same]
    exact fun header isHeader => keepsGroups_headedBucket distinct few isHeader
  rw [sections_eq, sections_eq]
  exact List.rel_append headed (forall₂_trailingBuckets distinct few)

end

/-- The steps under a header are numbered together. -/
theorem isOneGroup_of_header {bucket : Bucket} (inside : bucket ∈ graph.sections)
    (headed : bucket.header ≠ none) : bucket.IsOneGroup graph.numberedIn? := by
  rcases bucket_of_mem_sections inside with ⟨header, isHeader, rfl⟩ | rfl
  · obtain ⟨isNode, isKind, _⟩ := mem_visibleHeaders.1 isHeader
    have inSection {node : Node} (listed : node ∈ graph.sectionSteps header.id) :
        graph.numberedIn? node = some header.id :=
      numberedIn?_eq_some_iff.2 ⟨(mem_sectionSteps.1 listed).2.2, header,
        mem_nodesOfKind.2 ⟨isNode, isKind⟩, rfl⟩
    exact fun left isLeft right isRight => (inSection isLeft).trans (inSection isRight).symm
  · exact absurd rfl headed

/-- Where no client step names a section that clients may not see, the steps of every bucket are
numbered together. -/
theorem isOneGroup_of_mem_sections
    (noneHidden : ∀ header ∈ graph.nodesOfKind .sectionHeader, header.clientVisible = false →
      ∀ step ∈ graph.nodes, step.isClientStep = true → step.sectionId ≠ some header.id)
    {bucket : Bucket} (inside : bucket ∈ graph.sections) :
    bucket.IsOneGroup graph.numberedIn? := by
  rcases bucket_of_mem_sections inside with ⟨header, isHeader, rfl⟩ | rfl
  · exact isOneGroup_of_header inside nofun
  · have inNone {node : Node} (listed : node ∈ graph.unsectionedSteps graph.visibleHeaders) :
        graph.numberedIn? node = none := by
      obtain ⟨isNode, isStep, namesNone⟩ := mem_unsectionedSteps.1 listed
      refine Option.eq_none_iff_forall_not_mem.2 fun id inSection => ?_
      obtain ⟨names, header, isSection, rfl⟩ := numberedIn?_eq_some_iff.1 inSection
      cases isVisible : header.clientVisible with
      | false => exact noneHidden header isSection isVisible node isNode isStep names
      | true =>
        obtain ⟨headerNode, isKind⟩ := mem_nodesOfKind.1 isSection
        exact namesNone header (mem_visibleHeaders.2 ⟨headerNode, isKind, isVisible⟩) names
    exact fun left isLeft right isRight => (inNone isLeft).trans (inNone isRight).symm

/-- Normal order numbers keep the buckets, their order and their ids. Steps that are numbered
together, or in no section, keep their order, so that a bucket stays as it is if it has a header or
if its steps are numbered together. If no client step names a section that clients may not see,
every bucket stays as it is. -/
theorem sections_normalizeOrder (distinct : graph.HasDistinctIds)
    (few : graph.nodes.length < 4294968) :
    List.Forall₂ (fun before after =>
        Bucket.KeepsGroups graph.numberedIn? before after ∧
          (before.header ≠ none ∨ before.IsOneGroup graph.numberedIn? →
            after.outline = before.outline))
      graph.sections graph.normalizeOrder.sections ∧
    ((∀ header ∈ graph.nodesOfKind .sectionHeader, header.clientVisible = false →
        ∀ step ∈ graph.nodes, step.isClientStep = true → step.sectionId ≠ some header.id) →
      graph.normalizeOrder.sections.map Bucket.outline = graph.sections.map Bucket.outline) := by
  have kept := forall₂_keepsGroups distinct few
  constructor
  · have insideKept := (List.forall₂_and_left _ _).2 ⟨fun _ inside => inside, kept⟩
    refine insideKept.imp fun before after ⟨inside, groups⟩ => ⟨groups, ?_⟩
    rintro (headed | oneGroup)
    · exact groups.outline_eq (isOneGroup_of_header inside headed)
    · exact groups.outline_eq oneGroup
  · intro noneHidden
    have oneGroup := (List.forall₂_and_left _ _).2
      ⟨fun _ inside => isOneGroup_of_mem_sections noneHidden inside, kept⟩
    have outlines : List.Forall₂ (fun before after => before.outline = after.outline)
        graph.sections graph.normalizeOrder.sections :=
      oneGroup.imp fun _ _ ⟨together, groups⟩ => (groups.outline_eq together).symm
    rw [← List.forall₂_eq_eq_eq, List.forall₂_map_left_iff, List.forall₂_map_right_iff]
    exact outlines.flip.imp fun _ _ => Eq.symm

/-- Two sections and a step in none. If clients may see both sections, every bucket stays, and if
they may not see one of them, its two steps keep their order in the last bucket. -/
theorem sections_normalizeOrder_mixed :
    let inSection (sectionId : String) (order : UInt32) (node : Node) : Node :=
      { node with sectionId := some sectionId, order := some order }
    let graph (isShown : Bool) : Graph :=
      { nodes :=
          [{ Node.ofKind .sectionHeader "h" with clientVisible := isShown },
            .ofKind .sectionHeader "s",
            inSection "h" 7000 (.ofKind .question "d"), inSection "h" 5000 (.ofKind .task "a"),
            inSection "s" 4 (.ofKind .question "c"), inSection "s" 3 (.ofKind .question "e"),
            { Node.ofKind .decision "b" with order := some 1500 }] }
    let group := (graph false).numberedIn?
    ((graph false).HasDistinctIds ∧ (graph false).nodes.length < 4294968) ∧
    ((graph false).unsectionedSteps (graph false).visibleHeaders).map group =
      [none, some "h", some "h"] ∧
    List.Forall₂ (fun before after => Bucket.KeepsGroups group before after ∧
        (before.header ≠ none ∨ before.IsOneGroup group → after.outline = before.outline))
      (graph false).sections (graph false).normalizeOrder.sections ∧
    (graph true).normalizeOrder.sections.map Bucket.outline =
      (graph true).sections.map Bucket.outline := by
  intro inSection graph group
  have distinct (isShown : Bool) : (graph isShown).HasDistinctIds := by
    cases isShown <;> decide +kernel
  have few (isShown : Bool) : (graph isShown).nodes.length < 4294968 := by
    cases isShown <;> decide +kernel
  have noneHidden : ∀ header ∈ (graph true).nodesOfKind .sectionHeader,
      header.clientVisible = false → ∀ step ∈ (graph true).nodes, step.isClientStep = true →
        step.sectionId ≠ some header.id := by
    decide +kernel
  have grouped : ((graph false).unsectionedSteps (graph false).visibleHeaders).map group =
      [none, some "h", some "h"] := by
    have steps : [{ Node.ofKind .decision "b" with order := some 1500 },
        inSection "h" 5000 (.ofKind .task "a"), inSection "h" 7000 (.ofKind .question "d")] =
          (graph false).unsectionedSteps (graph false).visibleHeaders :=
      Node.eq_sortNodes (by decide +kernel) (by decide +kernel)
    rw [← steps]
    decide +kernel
  exact ⟨⟨distinct false, few false⟩, grouped,
    (sections_normalizeOrder (distinct false) (few false)).1,
    (sections_normalizeOrder (distinct true) (few true)).2 noneHidden⟩

/-- A step of a section that clients may not see changes places with a step in no section. -/
theorem sections_normalizeOrder_swapped :
    let hidden : Node :=
      { Node.ofKind .sectionHeader "h" with clientVisible := false, sectionOrder := some 1000 }
    let inHidden : Node :=
      { Node.ofKind .question "a" with sectionId := some "h", order := some 5000 }
    let loose : Node := { Node.ofKind .question "b" with order := some 2000 }
    let graph : Graph := { nodes := [hidden, inHidden, loose] }
    graph.HasDistinctIds ∧ graph.nodes.length < 4294968 ∧
      graph.sections.map Bucket.outline = [(none, ["b", "a"])] ∧
      graph.normalizeOrder.sections.map Bucket.outline = [(none, ["a", "b"])] := by
  intro hidden inHidden loose graph
  have after : graph.normalizeOrder =
      { nodes := [hidden, { inHidden with order := some 1000 }, loose] } := by decide +kernel
  have stepsBefore : [loose, inHidden] = graph.unsectionedSteps [] :=
    Node.eq_sortNodes (by decide +kernel) (by decide +kernel)
  have stepsAfter : [{ inHidden with order := some 1000 }, loose] =
      graph.normalizeOrder.unsectionedSteps [] := by
    rw [after]
    exact Node.eq_sortNodes (by decide +kernel) (by decide +kernel)
  have noneBefore : graph.visibleHeaders = [] := by decide +kernel
  have noneAfter : graph.normalizeOrder.visibleHeaders = [] := by decide +kernel
  refine ⟨by decide, by decide, ?_, ?_⟩
  · rw [sections_eq, trailingBuckets, noneBefore, ← stepsBefore]
    rfl
  · rw [sections_eq, trailingBuckets, noneAfter, ← stepsAfter]
    rfl

end Graph

end Questionnaire
