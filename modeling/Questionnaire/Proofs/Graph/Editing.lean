import Questionnaire.Proofs.FirstMatch
import Questionnaire.Proofs.Graph.WellFormed

/-!
# Editing a graph

Nodes are added, replaced, given other titles and removed; edges are removed only. So an edit draws
no new edge, and takes no node away from an edge that stays, also where ids are repeated: a removal
takes out the first node with an id, but all edges at the id. Whatever the edits are, edges then
lead from nodes to nodes without a directed cycle if they did before.
-/

namespace Questionnaire

namespace Graph

/-! ## Removal of a node -/

/-- The node is the first one with the id, between those before it and those after it. -/
structure IsFirstWith (graph : Graph) (id : String) (before : List Node) (node : Node)
    (after : List Node) : Prop where
  nodes : graph.nodes = before ++ node :: after
  own : node.id = id
  first : ∀ other ∈ before, other.id ≠ id

/-- All that a removal of an id can do, and what it tells. -/
inductive Removal (graph : Graph) (id : String) : Bool × Graph → Prop where
  /-- No node has the id, and nothing changes. -/
  | unknown (absent : ∀ node ∈ graph.nodes, node.id ≠ id) : Removal graph id (false, graph)
  /-- The first node with the id is a start or an end, and nothing changes. -/
  | withheld {before after : List Node} {node : Node}
      (found : graph.IsFirstWith id before node after)
      (kind : node.kind = .start ∨ node.kind = .finish) : Removal graph id (false, graph)
  /-- The first node with the id goes, and all edges from or to the id. -/
  | removed {before after : List Node} {node : Node}
      (found : graph.IsFirstWith id before node after)
      (kind : node.kind ≠ .start ∧ node.kind ≠ .finish) :
      Removal graph id (true,
        { nodes := before ++ after
          edges := graph.edges.filter fun edge => edge.source ≠ id ∧ edge.target ≠ id })

variable {graph : Graph}

theorem isProtected_iff {kind : NodeKind} :
    kind.isProtected = true ↔ kind = .start ∨ kind = .finish := by
  cases kind <;> simp [NodeKind.isProtected]

theorem isFirstWith_of_node? {id : String} {node : Node} (found : graph.node? id = some node) :
    ∃ before after, graph.IsFirstWith id before node after := by
  obtain ⟨own, before, after, nodes, first⟩ := List.find?_eq_some_iff_append.1 found
  refine ⟨before, after, nodes, eq_of_beq own, fun other inside => ?_⟩
  simpa using first other inside

/-- The nodes without the first one with the id. -/
theorem IsFirstWith.eraseP_nodes {id : String} {before after : List Node} {node : Node}
    (found : graph.IsFirstWith id before node after) :
    graph.nodes.eraseP (fun other => other.id == id) = before ++ after := by
  have noneBefore : ∀ other ∈ before, ¬ (other.id == id) = true := fun other inside same =>
    found.first other inside (eq_of_beq same)
  rw [found.nodes, List.eraseP_append_right _ noneBefore,
    List.eraseP_cons_of_pos (by simpa using found.own)]

theorem removal_removeNode (graph : Graph) (id : String) :
    graph.Removal id (graph.removeNode id) := by
  rw [removeNode]
  cases found : graph.node? id with
  | none =>
    refine .unknown fun node inside same => ?_
    exact List.find?_eq_none.1 found node inside (beq_iff_eq.2 same)
  | some node =>
    obtain ⟨before, after, isFirst⟩ := isFirstWith_of_node? found
    dsimp only
    split
    · rename_i withheld
      exact .withheld isFirst (isProtected_iff.1 withheld)
    · rename_i free
      have kept : (graph.edges.filter fun edge => edge.source != id && edge.target != id) =
          graph.edges.filter fun edge => edge.source ≠ id ∧ edge.target ≠ id :=
        List.filter_congr fun edge _ => by rw [Bool.eq_iff_iff]; simp
      rw [isFirst.eraseP_nodes, kept]
      exact .removed isFirst (not_or.1 fun kind => free (isProtected_iff.2 kind))

/-! ## Edits -/

/-- An edit of a graph that draws no edge. -/
inductive Edit where
  /-- Adds a node. -/
  | addNode (node : Node)
  /-- Puts a node in place of the first one with its id. -/
  | updateNode (node : Node)
  /-- Removes a node and the edges at its id. -/
  | removeNode (id : String)
  /-- Removes edges. -/
  | removeEdge (id : String)
  /-- Gives a node another title. -/
  | retitle (id title : String)

/-- The graph after an edit. -/
def edit (graph : Graph) : Edit → Graph
  | .addNode node => graph.addNode node
  | .updateNode node => (graph.updateNode node).2
  | .removeNode id => (graph.removeNode id).2
  | .removeEdge id => (graph.removeEdge id).2
  | .retitle id title => (graph.retitle id title).2

/-- The graph after a list of edits. -/
def editAll (graph : Graph) (edits : List Edit) : Graph :=
  edits.foldl edit graph

/-- No edge is new, and each end of an edge that stays is the id of a node if it was before. -/
structure Prunes (before after : Graph) : Prop where
  edges : after.edges.Sublist before.edges
  ends : ∀ edge ∈ after.edges, ∀ id, id = edge.source ∨ id = edge.target →
    id ∈ before.nodes.map Node.id → id ∈ after.nodes.map Node.id

theorem Prunes.refl (graph : Graph) : graph.Prunes graph where
  edges := List.Sublist.refl _
  ends _ _ _ _ isNode := isNode

theorem Prunes.trans {before between after : Graph} (first : before.Prunes between)
    (second : between.Prunes after) : before.Prunes after where
  edges := second.edges.trans first.edges
  ends edge inside id isEnd isNode :=
    second.ends edge inside id isEnd
      (first.ends edge (second.edges.subset inside) id isEnd isNode)

theorem Prunes.edgesKnown {before after : Graph} (prunes : before.Prunes after)
    (known : before.EdgesKnown) : after.EdgesKnown := by
  intro edge inside
  obtain ⟨source, target⟩ := known edge (prunes.edges.subset inside)
  exact ⟨List.mem_map.1 (prunes.ends edge inside _ (.inl rfl) (List.mem_map.2 source)),
    List.mem_map.1 (prunes.ends edge inside _ (.inr rfl) (List.mem_map.2 target))⟩

theorem Prunes.acyclic {before after : Graph} (prunes : before.Prunes after)
    (acyclic : before.Acyclic) : after.Acyclic := by
  have fewer : after.Follows ≤ before.Follows := by
    rintro _ _ ⟨edge, inside, ends⟩
    exact ⟨edge, prunes.edges.subset inside, ends⟩
  exact fun id cycle => acyclic id (Relation.TransGen.mono fewer id id cycle)

/-- A change of a node that keeps its id keeps all ids. -/
theorem prunes_modifyNode (id : String) {change : Node → Node}
    (sameId : ∀ node, node.id = id → (change node).id = id) :
    graph.Prunes (graph.modifyNode id change) where
  edges := List.Sublist.refl _
  ends edge _ other _ isNode := by
    have sameIds : (graph.modifyNode id change).nodes.map Node.id = graph.nodes.map Node.id := by
      refine map_modifyFirst Node.id fun node own => ?_
      rw [sameId node (eq_of_beq own), eq_of_beq own]
    rwa [sameIds]

theorem Removal.prunes {id : String} {outcome : Bool × Graph} (removal : graph.Removal id outcome) :
    graph.Prunes outcome.2 := by
  cases removal with
  | unknown | withheld => exact .refl graph
  | removed found =>
    refine ⟨List.filter_sublist, fun edge inside other isEnd isNode => ?_⟩
    have notRemoved : other ≠ id := by
      have away := of_decide_eq_true (List.mem_filter.1 inside).2
      rcases isEnd with rfl | rfl
      · exact away.1
      · exact away.2
    rw [found.nodes, List.map_append, List.map_cons, found.own] at isNode
    rw [List.map_append]
    exact List.mem_append.2 ((List.mem_append.1 isNode).imp_right fun later =>
      List.mem_of_ne_of_mem notRemoved later)

theorem prunes_edit (graph : Graph) (edit : Edit) : graph.Prunes (graph.edit edit) := by
  cases edit with
  | addNode node =>
    refine ⟨List.Sublist.refl _, fun _ _ id _ isNode => ?_⟩
    rw [Graph.edit, addNode, List.map_append]
    exact List.mem_append_left _ isNode
  | updateNode node => exact prunes_modifyNode node.id fun _ _ => rfl
  | removeNode id => exact (graph.removal_removeNode id).prunes
  | removeEdge id => exact ⟨List.filter_sublist, fun _ _ _ _ isNode => isNode⟩
  | retitle id title => exact prunes_modifyNode id fun _ own => own

theorem prunes_editAll (graph : Graph) (edits : List Edit) :
    graph.Prunes (graph.editAll edits) := by
  induction edits generalizing graph with
  | nil => exact .refl graph
  | cons first rest inductionHypothesis =>
    exact (graph.prunes_edit first).trans (inductionHypothesis (graph.edit first))

/-- In a graph whose edges lead from nodes to nodes without a directed cycle, they still do after
every list of edits; and a removal then either leaves the graph as it is and says so, where no node
has the id or the first that has it is a start or an end, or takes out that node and the edges at
the id, and nothing else. -/
theorem editAll_staysSound (known : graph.EdgesKnown) (acyclic : graph.Acyclic)
    (edits : List Edit) :
    (graph.editAll edits).EdgesKnown ∧ (graph.editAll edits).Acyclic ∧
      ∀ id, (graph.editAll edits).Removal id ((graph.editAll edits).removeNode id) :=
  ⟨(graph.prunes_editAll edits).edgesKnown known, (graph.prunes_editAll edits).acyclic acyclic,
    (graph.editAll edits).removal_removeNode⟩

/-- A start that is repeated becomes a task and is removed, together with the edge at its id. The
second start is then the first node with the id, and stays. -/
theorem editAll_staysSound_repeated :
    let start : Node := .ofKind .start "s"
    let question : Node := .ofKind .question "q"
    let finish : Node := .ofKind .finish "e"
    let graph : Graph :=
      { nodes := [start, start, question, finish]
        edges := [.always "s" "q", .always "q" "e"] }
    let edits : List Edit :=
      [.updateNode (.ofKind .task "s"), .removeNode "s", .retitle "q" "Name?", .removeNode "e"]
    let after := graph.editAll edits
    graph.EdgesKnown ∧ graph.Acyclic ∧
      after = { nodes := [start, { question with title := "Name?" }, finish]
                edges := [.always "q" "e"] } ∧
      after.EdgesKnown ∧ after.Acyclic ∧ after.Removal "s" (false, after) ∧
      after.Removal "q" (true, { nodes := [start, finish], edges := [] }) := by
  intro start question finish graph edits after
  have known : graph.EdgesKnown := edgesKnown_iff.2 (by decide +kernel)
  have acyclic : graph.Acyclic := (findCycle?_eq_none_iff known).1 (by decide +kernel)
  obtain ⟨stillKnown, stillAcyclic, removal⟩ := editAll_staysSound known acyclic edits
  have kept : after.removeNode "s" = (false, after) := by decide +kernel
  have gone : after.removeNode "q" = (true, { nodes := [start, finish], edges := [] }) := by
    decide +kernel
  exact ⟨known, acyclic, by decide +kernel, stillKnown, stillAcyclic, kept ▸ removal "s",
    gone ▸ removal "q"⟩

end Graph

end Questionnaire
