import Mathlib.Data.List.Forall2
import Questionnaire.Proofs.Graph.Ranking
import Questionnaire.Proofs.Graph.Sections
import Questionnaire.Proofs.KeyMap

/-!
# Normal order numbers

In a graph with distinct ids every section header is numbered by its rank among the headers, and
every item of a section by its rank among the items there. Nothing else of the graph changes. The
numbers keep the order as long as none would be past the greatest one, and in any case they are
normal numbers of their own graph.
-/

namespace Questionnaire

namespace Graph

/-- The items of a section, in declaration order. -/
def itemsOf (graph : Graph) (sectionId : String) : List Node :=
  graph.nodes.filter fun node => node.kind.isSectionItem && node.sectionId == some sectionId

/-- The rank of a header among all headers. -/
def headerRank (graph : Graph) (node : Node) : Nat :=
  rankIn (Node.standing Node.sectionKey) (graph.nodesOfKind .sectionHeader) node

/-- The rank of an item among the items of a section. -/
def itemRank (graph : Graph) (sectionId : String) (node : Node) : Nat :=
  rankIn (Node.standing Node.itemKey) (graph.itemsOf sectionId) node

/-- What becomes of a node when order numbers are normalized. -/
inductive Numbers (graph : Graph) : Node → Node → Prop where
  /-- A header is numbered by its rank among the headers. -/
  | header {node : Node} {order : UInt32} (isHeader : node.kind = .sectionHeader)
      (spaced : order.toNat = min (1000 * (graph.headerRank node + 1)) (2 ^ 32 - 1)) :
      Numbers graph node { node with sectionOrder := some order }
  /-- An item of a section is numbered by its rank among the items of that section. -/
  | item {node header : Node} {order : UInt32} (isItem : node.kind.isSectionItem = true)
      (isHeader : header ∈ graph.nodesOfKind .sectionHeader)
      (named : node.sectionId = some header.id)
      (spaced : order.toNat = min (1000 * (graph.itemRank header.id node + 1)) (2 ^ 32 - 1)) :
      Numbers graph node { node with order := some order }
  /-- Any other node stays as it is. -/
  | outside {node : Node} (noHeader : node.kind ≠ .sectionHeader)
      (noItem : node.kind.isSectionItem = true →
        ∀ header ∈ graph.nodesOfKind .sectionHeader, node.sectionId ≠ some header.id) :
      Numbers graph node node

/-- The nodes of the pairs stand in the same order by a sort key before and after. -/
def KeepsOrder (key : Node → SortKey) (pairs : List (Node × Node)) : Prop :=
  ∀ left ∈ pairs, ∀ right ∈ pairs,
    left.2.standing key < right.2.standing key ↔ left.1.standing key < right.1.standing key

/-- What normal order numbers make of a node. -/
def numbered (graph : Graph) (node : Node) : Node :=
  (renumber graph.sectionOrders graph.itemOrders node).2

variable {graph : Graph} {node other header : Node}

/-- A pass renumbers each node on its own, and its flag is raised by any of them. -/
theorem renumberAll_eq (sectionOrders itemOrders : KeyMap UInt32) (changed : Bool)
    (nodes : List Node) :
    renumberAll sectionOrders itemOrders changed nodes =
      (changed || nodes.any fun node => (renumber sectionOrders itemOrders node).1,
        nodes.map fun node => (renumber sectionOrders itemOrders node).2) := by
  induction nodes generalizing changed with
  | nil => rw [renumberAll, List.any_nil, Bool.or_false, List.map_nil]
  | cons node rest inductionHypothesis =>
    simp only [renumberAll, inductionHypothesis, List.any_cons, List.map_cons, Bool.or_assoc]

/-- The flag of a node tells whether the node changes. -/
theorem renumber_fst (sectionOrders itemOrders : KeyMap UInt32) (node : Node) :
    (renumber sectionOrders itemOrders node).1 = true ↔
      (renumber sectionOrders itemOrders node).2 ≠ node := by
  rw [renumber]
  split
  · split
    · rw [bne_iff_ne, not_iff_not]
      exact ⟨fun same => by rw [← same], fun same => (congrArg Node.sectionOrder same).symm⟩
    · exact iff_of_false Bool.false_ne_true (not_not_intro rfl)
  · split
    · split
      · rw [bne_iff_ne, not_iff_not]
        exact ⟨fun same => by rw [← same], fun same => (congrArg Node.order same).symm⟩
      · exact iff_of_false Bool.false_ne_true (not_not_intro rfl)
    · exact iff_of_false Bool.false_ne_true (not_not_intro rfl)

theorem nodes_normalizeOrder (graph : Graph) :
    graph.normalizeOrder.nodes = graph.nodes.map graph.numbered := by
  rw [normalizeOrder, orderPass, renumberAll_eq]
  rfl

/-- The flag of the pass tells whether some node changes. -/
theorem needsOrder_iff_exists (graph : Graph) :
    graph.needsOrder = true ↔ ∃ node ∈ graph.nodes, graph.numbered node ≠ node := by
  rw [needsOrder, orderPass, renumberAll_eq, Bool.false_or, List.any_eq_true]
  exact exists_congr fun node => and_congr_right fun _ => renumber_fst _ _ node

theorem mem_nodesOfKind {kind : NodeKind} :
    node ∈ graph.nodesOfKind kind ↔ node ∈ graph.nodes ∧ node.kind = kind := by
  rw [nodesOfKind, List.mem_filter, beq_iff_eq]

theorem mem_itemsOf {sectionId : String} :
    node ∈ graph.itemsOf sectionId ↔
      node ∈ graph.nodes ∧ node.kind.isSectionItem = true ∧ node.sectionId = some sectionId := by
  rw [itemsOf, List.mem_filter, Bool.and_eq_true, beq_iff_eq]

theorem mem_headers : node ∈ graph.headers ↔ node ∈ graph.nodesOfKind .sectionHeader :=
  (perm_sortNodes _ _).mem_iff

theorem mem_sectionItems {sectionId : String} :
    node ∈ graph.sectionItems sectionId ↔ node ∈ graph.itemsOf sectionId :=
  (perm_sortNodes _ _).mem_iff

theorem HasDistinctIds.itemsOf (distinct : graph.HasDistinctIds) (sectionId : String) :
    ((graph.itemsOf sectionId).map Node.id).Nodup :=
  distinct.sublist (List.filter_sublist.map Node.id)

/-! ## The numbers that are given out -/

/-- Under the id of each header is the number of its rank. -/
theorem get?_sectionOrders_iff (distinct : graph.HasDistinctIds) {id : String} {order : UInt32} :
    graph.sectionOrders.get? id = some order ↔
      ∃ header ∈ graph.nodesOfKind .sectionHeader, header.id = id ∧
        spacedOrder (graph.headerRank header) = order := by
  have headersDistinct := distinct.nodesOfKind .sectionHeader
  have numbers : spacedOrders graph.headers = graph.headers.map fun header =>
      (header.id, spacedOrder (graph.headerRank header)) :=
    Node.spacedOrders_sortNodes headersDistinct
  have keysDistinct : ((spacedOrders graph.headers).map Prod.fst).Nodup := by
    rw [numbers, List.map_map]
    exact ((perm_sortNodes _ _).map Node.id).nodup_iff.2 headersDistinct
  rw [sectionOrders, KeyMap.get?_ofList_eq_some_iff keysDistinct, numbers, List.mem_map]
  simp only [mem_headers, Prod.mk.injEq]

/-- The items that are numbered, each once. -/
theorem nodup_ids_sectionItems (distinct : graph.HasDistinctIds) :
    (graph.headers.flatMap fun header => (graph.sectionItems header.id).map Node.id).Nodup := by
  refine List.nodup_flatMap.2 ⟨fun header _ => ?_, ?_⟩
  · exact ((perm_sortNodes _ _).map Node.id).nodup_iff.2 (distinct.itemsOf header.id)
  · have headersDistinct : (graph.headers.map Node.id).Nodup :=
      ((perm_sortNodes _ _).map Node.id).nodup_iff.2 (distinct.nodesOfKind .sectionHeader)
    refine (List.pairwise_map.1 headersDistinct).imp fun apart id inLeft inRight => apart ?_
    -- An item names one section only.
    obtain ⟨left, isLeft, rfl⟩ := List.mem_map.1 inLeft
    obtain ⟨right, isRight, sameId⟩ := List.mem_map.1 inRight
    obtain ⟨leftNode, _, leftNames⟩ := mem_itemsOf.1 (mem_sectionItems.1 isLeft)
    obtain ⟨rightNode, _, rightNames⟩ := mem_itemsOf.1 (mem_sectionItems.1 isRight)
    obtain rfl := List.inj_on_of_nodup_map distinct rightNode leftNode sameId
    exact Option.some.inj (leftNames.symm.trans rightNames)

/-- Under the id of each item of a section is the number of its rank there. -/
theorem get?_itemOrders_iff (distinct : graph.HasDistinctIds) {id : String} {order : UInt32} :
    graph.itemOrders.get? id = some order ↔
      ∃ header ∈ graph.nodesOfKind .sectionHeader, ∃ item ∈ graph.itemsOf header.id,
        item.id = id ∧ spacedOrder (graph.itemRank header.id item) = order := by
  have numbers (header : Node) : spacedOrders (graph.sectionItems header.id) =
      (graph.sectionItems header.id).map fun item =>
        (item.id, spacedOrder (graph.itemRank header.id item)) :=
    Node.spacedOrders_sortNodes (distinct.itemsOf header.id)
  have keysDistinct : ((graph.headers.flatMap fun header =>
      spacedOrders (graph.sectionItems header.id)).map Prod.fst).Nodup := by
    simp only [numbers, List.map_flatMap, List.map_map]
    exact nodup_ids_sectionItems distinct
  rw [itemOrders, KeyMap.get?_ofList_eq_some_iff keysDistinct]
  simp only [numbers, List.mem_flatMap, List.mem_map, mem_headers, mem_sectionItems,
    Prod.mk.injEq]

/-- Every node is numbered by its rank, or stays. -/
theorem numbers_numbered (distinct : graph.HasDistinctIds) (inside : node ∈ graph.nodes) :
    graph.Numbers node (graph.numbered node) := by
  by_cases isHeader : node.kind = .sectionHeader
  · have given : graph.sectionOrders.get? node.id = some (spacedOrder (graph.headerRank node)) :=
      (get?_sectionOrders_iff distinct).2 ⟨node, mem_nodesOfKind.2 ⟨inside, isHeader⟩, rfl, rfl⟩
    rw [numbered, renumber, if_pos (beq_iff_eq.2 isHeader), given]
    exact .header isHeader (toNat_spacedOrder _)
  · have noHeader : ¬ (node.kind == .sectionHeader) = true := fun same => isHeader (eq_of_beq same)
    cases given : graph.itemOrders.get? node.id with
    | some order =>
      obtain ⟨header, isSection, item, isItem, sameId, rfl⟩ :=
        (get?_itemOrders_iff distinct).1 given
      obtain ⟨itemInside, isSectionItem, named⟩ := mem_itemsOf.1 isItem
      obtain rfl := List.inj_on_of_nodup_map distinct itemInside inside sameId
      have inSection : item.sectionId.isSome = true := named ▸ rfl
      rw [numbered, renumber, if_neg noHeader, if_pos inSection, given]
      exact .item isSectionItem isSection named (toNat_spacedOrder _)
    | none =>
      have stays : graph.numbered node = node := by
        rw [numbered, renumber, if_neg noHeader, given, ite_self]
      rw [stays]
      refine .outside isHeader fun isItem header isSection named => ?_
      have numberedItem := (get?_itemOrders_iff distinct).2
        ⟨header, isSection, node, mem_itemsOf.2 ⟨inside, isItem, named⟩, rfl, rfl⟩
      exact absurd (given.symm.trans numberedItem) nofun

/-- A node is numbered in one way only. -/
theorem Numbers.unique {first second : Node} (isFirst : graph.Numbers node first)
    (isSecond : graph.Numbers node second) : first = second := by
  cases isFirst with
  | header isHeader spaced =>
    cases isSecond with
    | header _ spacedAgain => rw [UInt32.toNat_inj.1 (spaced.trans spacedAgain.symm)]
    | item isItem => exact absurd isItem (by rw [isHeader]; decide)
    | outside noHeader => exact absurd isHeader noHeader
  | item isItem isSection named spaced =>
    cases isSecond with
    | header isHeader => exact absurd isItem (by rw [isHeader]; decide)
    | item _ _ namedAgain spacedAgain =>
      rw [← Option.some.inj (named.symm.trans namedAgain)] at spacedAgain
      rw [UInt32.toNat_inj.1 (spaced.trans spacedAgain.symm)]
    | outside _ noItem => exact absurd named (noItem isItem _ isSection)
  | outside noHeader noItem =>
    cases isSecond with
    | header isHeader => exact absurd isHeader noHeader
    | item isItem isSection named => exact absurd named (noItem isItem _ isSection)
    | outside => rfl

/-! ## The graph with normal numbers -/

/-- Only the order numbers of a node change. -/
theorem numbered_eq (graph : Graph) (node : Node) :
    graph.numbered node =
      { node with
        order := (graph.numbered node).order
        sectionOrder := (graph.numbered node).sectionOrder } := by
  rw [numbered, renumber]
  split
  · split <;> rfl
  · split
    · split <;> rfl
    · rfl

theorem id_numbered (graph : Graph) (node : Node) : (graph.numbered node).id = node.id := by
  rw [numbered_eq]

theorem kind_numbered (graph : Graph) (node : Node) : (graph.numbered node).kind = node.kind := by
  rw [numbered_eq]

theorem sectionId_numbered (graph : Graph) (node : Node) :
    (graph.numbered node).sectionId = node.sectionId := by
  rw [numbered_eq]

theorem map_id_numbered (graph : Graph) (nodes : List Node) :
    (nodes.map graph.numbered).map Node.id = nodes.map Node.id := by
  rw [List.map_map]
  exact List.map_congr_left fun node _ => graph.id_numbered node

theorem HasDistinctIds.normalizeOrder (distinct : graph.HasDistinctIds) :
    graph.normalizeOrder.HasDistinctIds := by
  rwa [HasDistinctIds, nodes_normalizeOrder, map_id_numbered]

theorem nodesOfKind_normalizeOrder (graph : Graph) (kind : NodeKind) :
    graph.normalizeOrder.nodesOfKind kind = (graph.nodesOfKind kind).map graph.numbered := by
  rw [nodesOfKind, nodes_normalizeOrder, List.filter_map, nodesOfKind]
  simp only [Function.comp_def, kind_numbered]

theorem itemsOf_normalizeOrder (graph : Graph) (sectionId : String) :
    graph.normalizeOrder.itemsOf sectionId = (graph.itemsOf sectionId).map graph.numbered := by
  rw [itemsOf, nodes_normalizeOrder, List.filter_map, itemsOf]
  simp only [Function.comp_def, kind_numbered, sectionId_numbered]

theorem isNumberedBy_headers (distinct : graph.HasDistinctIds) :
    Node.IsNumberedBy Node.sectionKey (graph.nodesOfKind .sectionHeader) graph.numbered := by
  intro node inside
  obtain ⟨isNode, isHeader⟩ := mem_nodesOfKind.1 inside
  have numbers := numbers_numbered distinct isNode
  generalize graph.numbered node = after at numbers
  cases numbers with
  | header _ spaced =>
    exact ⟨rfl, congrArg _ (UInt32.toNat_inj.1 (spaced.trans (toNat_spacedOrder _).symm))⟩
  | item isItem => exact absurd isItem (by rw [isHeader]; decide)
  | outside noHeader => exact absurd isHeader noHeader

theorem isNumberedBy_items (distinct : graph.HasDistinctIds)
    (isSection : header ∈ graph.nodesOfKind .sectionHeader) :
    Node.IsNumberedBy Node.itemKey (graph.itemsOf header.id) graph.numbered := by
  intro node inside
  obtain ⟨isNode, isItem, named⟩ := mem_itemsOf.1 inside
  have numbers := numbers_numbered distinct isNode
  generalize graph.numbered node = after at numbers
  cases numbers with
  | header isHeader => exact absurd isItem (by rw [isHeader]; decide)
  | item _ _ alsoNamed spaced =>
    rw [← Option.some.inj (named.symm.trans alsoNamed)] at spaced
    exact ⟨rfl, congrArg _ (UInt32.toNat_inj.1 (spaced.trans (toNat_spacedOrder _).symm))⟩
  | outside _ noItem => exact absurd named (noItem isItem header isSection)

theorem spacedOrder_headerRank_again (distinct : graph.HasDistinctIds)
    (isSection : header ∈ graph.nodesOfKind .sectionHeader) :
    spacedOrder (graph.normalizeOrder.headerRank (graph.numbered header)) =
      spacedOrder (graph.headerRank header) := by
  rw [headerRank, nodesOfKind_normalizeOrder]
  exact (isNumberedBy_headers distinct).spacedOrder_rankIn (distinct.nodesOfKind _) isSection

theorem spacedOrder_itemRank_again (distinct : graph.HasDistinctIds)
    (isSection : header ∈ graph.nodesOfKind .sectionHeader)
    (isItem : node ∈ graph.itemsOf header.id) :
    spacedOrder (graph.normalizeOrder.itemRank header.id (graph.numbered node)) =
      spacedOrder (graph.itemRank header.id node) := by
  rw [itemRank, itemsOf_normalizeOrder]
  exact (isNumberedBy_items distinct isSection).spacedOrder_rankIn (distinct.itemsOf _) isItem

/-- A numbered node has the number that it would be given again. -/
theorem numbers_again (distinct : graph.HasDistinctIds) (inside : node ∈ graph.nodes) :
    graph.normalizeOrder.Numbers (graph.numbered node) (graph.numbered node) := by
  have isSectionAgain {header : Node} (isSection : header ∈ graph.nodesOfKind .sectionHeader) :
      graph.numbered header ∈ graph.normalizeOrder.nodesOfKind .sectionHeader :=
    nodesOfKind_normalizeOrder graph _ ▸ List.mem_map_of_mem isSection
  have headerAgain (isSection : node ∈ graph.nodesOfKind .sectionHeader) :=
    spacedOrder_headerRank_again distinct isSection
  have itemAgain {header : Node} (isSection : header ∈ graph.nodesOfKind .sectionHeader)
      (isItem : node ∈ graph.itemsOf header.id) :=
    spacedOrder_itemRank_again distinct isSection isItem
  have numbers := numbers_numbered distinct inside
  generalize graph.numbered node = after at numbers headerAgain itemAgain
  cases numbers with
  | header isHeader spaced =>
    refine .header isHeader ?_
    rw [spaced, ← toNat_spacedOrder, ← toNat_spacedOrder,
      headerAgain (mem_nodesOfKind.2 ⟨inside, isHeader⟩)]
  | @item header _ isItem isSection named spaced =>
    refine .item isItem (isSectionAgain isSection) (named.trans ?_) ?_
    · rw [id_numbered]
    · rw [spaced, ← toNat_spacedOrder, ← toNat_spacedOrder, id_numbered,
        itemAgain isSection (mem_itemsOf.2 ⟨inside, isItem, named⟩)]
  | outside noHeader noItem =>
    refine .outside noHeader fun isItem headerAfter isSection => ?_
    rw [nodesOfKind_normalizeOrder] at isSection
    obtain ⟨header, isHeader, rfl⟩ := List.mem_map.1 isSection
    rw [id_numbered]
    exact noItem isItem header isHeader

/-- A node with its normal order number keeps it. -/
theorem numbered_again (distinct : graph.HasDistinctIds)
    (inside : node ∈ graph.normalizeOrder.nodes) :
    graph.normalizeOrder.numbered node = node := by
  have numbers := numbers_numbered distinct.normalizeOrder inside
  rw [nodes_normalizeOrder] at inside
  obtain ⟨before, isBefore, rfl⟩ := List.mem_map.1 inside
  exact numbers.unique (numbers_again distinct isBefore)

/-! ## Nodes before and after -/

theorem mem_zip_normalizeOrder {pair : Node × Node} :
    pair ∈ graph.nodes.zip graph.normalizeOrder.nodes ↔
      pair.1 ∈ graph.nodes ∧ pair.2 = graph.numbered pair.1 := by
  have zipped : graph.nodes.zip graph.normalizeOrder.nodes =
      graph.nodes.map fun node => (node, graph.numbered node) := by
    rw [nodes_normalizeOrder]
    nth_rewrite 1 [← List.map_id graph.nodes]
    exact List.zip_map'
  rw [zipped, List.mem_map]
  constructor
  · rintro ⟨node, inside, rfl⟩
    exact ⟨inside, rfl⟩
  · rintro ⟨inside, isNumbered⟩
    exact ⟨pair.1, inside, Prod.ext rfl isNumbered.symm⟩

theorem keepsOrder_of_isNumberedBy {key : Node → SortKey} {nodes : List Node}
    (numbered : Node.IsNumberedBy key nodes graph.numbered) (distinct : (nodes.map Node.id).Nodup)
    (few : nodes.length < 4294968) {pairs : List (Node × Node)}
    (arePairs : ∀ pair ∈ pairs, pair.1 ∈ nodes ∧ pair.2 = graph.numbered pair.1) :
    KeepsOrder key pairs := by
  intro left isLeft right isRight
  obtain ⟨leftInside, leftAfter⟩ := arePairs left isLeft
  obtain ⟨rightInside, rightAfter⟩ := arePairs right isRight
  rw [leftAfter, rightAfter]
  exact numbered.standing_lt_iff_of_few distinct few leftInside rightInside

/-- Order numbers are to be normalized exactly if that changes one of them. -/
theorem needsOrder_iff (graph : Graph) :
    graph.needsOrder = true ↔ ∃ pair ∈ graph.nodes.zip graph.normalizeOrder.nodes,
      pair.2.order ≠ pair.1.order ∨ pair.2.sectionOrder ≠ pair.1.sectionOrder := by
  rw [needsOrder_iff_exists]
  constructor
  · rintro ⟨node, inside, changes⟩
    refine ⟨(node, graph.numbered node), mem_zip_normalizeOrder.2 ⟨inside, rfl⟩, ?_⟩
    by_contra unchanged
    rw [not_or, not_not, not_not] at unchanged
    obtain ⟨order, sectionOrder⟩ : (graph.numbered node).order = node.order ∧
        (graph.numbered node).sectionOrder = node.sectionOrder := unchanged
    exact changes (by rw [numbered_eq, order, sectionOrder])
  · rintro ⟨pair, isPair, differs⟩
    obtain ⟨inside, isNumbered⟩ := mem_zip_normalizeOrder.1 isPair
    refine ⟨pair.1, inside, fun same => ?_⟩
    rw [isNumbered, same] at differs
    exact differs.elim (· rfl) (· rfl)

/-- In a graph with distinct ids every header gets the order number of its rank among the headers
and every item of a section that of its rank among the items there; all else stays. The headers, and
the items of a section, keep their order as long as none of them would be numbered past the greatest
number. Order numbers are to be normalized exactly if one of them changes, and afterwards no
more. -/
theorem normalizeOrder_numbers (distinct : graph.HasDistinctIds) :
    let after := graph.normalizeOrder
    let pairs := graph.nodes.zip after.nodes
    (List.Forall₂ graph.Numbers graph.nodes after.nodes ∧ after.edges = graph.edges) ∧
    ((graph.nodesOfKind .sectionHeader).length < 4294968 →
      KeepsOrder Node.sectionKey (pairs.filter fun pair => pair.1.kind == .sectionHeader)) ∧
    (∀ header ∈ graph.nodesOfKind .sectionHeader, (graph.itemsOf header.id).length < 4294968 →
      KeepsOrder Node.itemKey (pairs.filter fun pair =>
        pair.1.kind.isSectionItem && pair.1.sectionId == some header.id)) ∧
    (graph.needsOrder = true ↔ ∃ pair ∈ pairs,
      pair.2.order ≠ pair.1.order ∨ pair.2.sectionOrder ≠ pair.1.sectionOrder) ∧
    after.needsOrder = false := by
  intro after pairs
  refine ⟨⟨?_, rfl⟩, fun few => ?_, fun header isSection few => ?_, graph.needsOrder_iff, ?_⟩
  · rw [nodes_normalizeOrder, List.forall₂_map_right_iff, List.forall₂_same]
    exact fun node inside => numbers_numbered distinct inside
  · refine keepsOrder_of_isNumberedBy (isNumberedBy_headers distinct) (distinct.nodesOfKind _) few
      fun pair inside => ?_
    obtain ⟨isPair, isHeader⟩ := List.mem_filter.1 inside
    obtain ⟨isNode, isNumbered⟩ := mem_zip_normalizeOrder.1 isPair
    exact ⟨mem_nodesOfKind.2 ⟨isNode, eq_of_beq isHeader⟩, isNumbered⟩
  · refine keepsOrder_of_isNumberedBy (isNumberedBy_items distinct isSection) (distinct.itemsOf _)
      few fun pair inside => ?_
    obtain ⟨isPair, isItem⟩ := List.mem_filter.1 inside
    obtain ⟨isNode, isNumbered⟩ := mem_zip_normalizeOrder.1 isPair
    exact ⟨List.mem_filter.2 ⟨isNode, isItem⟩, isNumbered⟩
  · rw [Bool.eq_false_iff, Ne, needsOrder_iff_exists]
    rintro ⟨node, inside, changes⟩
    exact changes (numbered_again distinct inside)

/-- Sections and items that are ordered by numbers, by heights and by ids, among them a note. A node
of another kind, one that names no section and one that names a node which is none stay outside. -/
theorem normalizeOrder_numbers_mixed :
    let atHeight (y : Nat) (node : Node) : Node := { node with position := some (.ofNats 0 y) }
    let inSection (sectionId : String) (node : Node) : Node := { node with sectionId }
    let first : Node := { atHeight 9 (.ofKind .sectionHeader "s") with order := some 2 }
    let headers : List Node :=
      [first, atHeight 2 (.ofKind .sectionHeader "r"), atHeight 1 (.ofKind .sectionHeader "p")]
    let items : List Node :=
      [{ inSection "s" (.ofKind .task "b") with order := some 7 },
        atHeight 3 (inSection "s" (.ofKind .note "n")),
        atHeight 7 (inSection "s" (.ofKind .question "a"))]
    let others : List Node :=
      [inSection "s" (.ofKind .start "x"), .ofKind .task "y", inSection "a" (.ofKind .task "z")]
    let graph : Graph := { nodes := headers ++ items ++ others }
    let after := graph.normalizeOrder
    let pairs := graph.nodes.zip after.nodes
    (graph.HasDistinctIds ∧ (graph.nodesOfKind .sectionHeader).length < 4294968 ∧
      first ∈ graph.nodesOfKind .sectionHeader ∧ (graph.itemsOf "s").length < 4294968) ∧
    headers.map graph.headerRank = [2, 1, 0] ∧ items.map (graph.itemRank "s") = [2, 0, 1] ∧
    List.Forall₂ graph.Numbers graph.nodes after.nodes ∧
    KeepsOrder Node.sectionKey (pairs.filter fun pair => pair.1.kind == .sectionHeader) ∧
    KeepsOrder Node.itemKey (pairs.filter fun pair =>
      pair.1.kind.isSectionItem && pair.1.sectionId == some "s") ∧
    after.needsOrder = false := by
  intro atHeight inSection first headers items others graph after pairs
  have distinct : graph.HasDistinctIds := by decide +kernel
  have fewHeaders : (graph.nodesOfKind .sectionHeader).length < 4294968 := by decide +kernel
  have isSection : first ∈ graph.nodesOfKind .sectionHeader := by decide +kernel
  have fewItems : (graph.itemsOf "s").length < 4294968 := by decide +kernel
  obtain ⟨⟨numbers, _⟩, headersKept, itemsKept, _, again⟩ := normalizeOrder_numbers distinct
  exact ⟨⟨distinct, fewHeaders, isSection, fewItems⟩, by decide +kernel, by decide +kernel, numbers,
    headersKept fewHeaders, itemsKept first isSection fewItems, again⟩

end Graph

end Questionnaire
