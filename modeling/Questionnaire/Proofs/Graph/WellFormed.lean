import Questionnaire.Graph.Validity
import Questionnaire.Proofs.Graph.CycleSearch

/-!
# Well-formed graphs

A graph is found valid exactly when it is well formed: it has a start and an end, its edges lead from
nodes to nodes without a directed cycle, and its nodes carry the labels and input types that the
client's answers need. The limit on workflow nodes has no say in this.
-/

namespace Questionnaire

namespace Graph

/-- Both ends of every edge are nodes. -/
def EdgesKnown (graph : Graph) : Prop :=
  ∀ edge ∈ graph.edges, (∃ node ∈ graph.nodes, node.id = edge.source) ∧
    ∃ node ∈ graph.nodes, node.id = edge.target

/-- What a graph has to be to be published. -/
structure WellFormed (graph : Graph) : Prop where
  start : ∃ node ∈ graph.nodes, node.kind = .start
  finish : ∃ node ∈ graph.nodes, node.kind = .finish
  edges : graph.EdgesKnown
  acyclic : graph.Acyclic
  labels : ∀ node ∈ graph.nodes,
    node.kind = .question ∨ node.kind = .docRequest ∨ node.kind = .decision → node.labels ≠ []
  inputTypes : ∀ node ∈ graph.nodes, node.kind = .question → node.inputType ≠ none

theorem contains_iff {graph : Graph} {id : String} :
    graph.contains id = true ↔ ∃ node ∈ graph.nodes, node.id = id := by
  simp only [contains, List.any_eq_true, beq_iff_eq]

theorem hasKind_iff {graph : Graph} {kind : NodeKind} :
    graph.hasKind kind = true ↔ ∃ node ∈ graph.nodes, node.kind = kind := by
  simp only [hasKind, List.any_eq_true, beq_iff_eq]

theorem edgeDefects_eq_nil_iff {graph : Graph} {edge : Edge} :
    graph.edgeDefects edge = [] ↔
      graph.contains edge.source = true ∧ graph.contains edge.target = true := by
  simp only [edgeDefects, List.append_eq_nil_iff, ite_eq_left_iff, List.cons_ne_nil, imp_false,
    not_not]

theorem edgesKnown_iff {graph : Graph} :
    graph.EdgesKnown ↔ ∀ edge ∈ graph.edges, graph.edgeDefects edge = [] := by
  simp only [EdgesKnown, edgeDefects_eq_nil_iff, contains_iff]

/-- In a graph whose edges start at nodes, the search misses no cycle. -/
theorem findCycle?_eq_none_iff {graph : Graph} (known : graph.EdgesKnown) :
    graph.findCycle? = none ↔ graph.Acyclic := by
  have found := graph.findCycle?_spec
  constructor
  · intro isNone id cycle
    rw [isNone] at found
    obtain ⟨_, ⟨edge, member, rfl, _⟩, _⟩ := Relation.TransGen.head'_iff.1 cycle
    obtain ⟨node, nodeMember, same⟩ := (known edge member).1
    exact found node nodeMember edge.source (by rw [same]; exact .refl) cycle
  · intro acyclic
    cases outcome : graph.findCycle? with
    | none => rfl
    | some id =>
      rw [outcome] at found
      exact absurd found.1 (acyclic id)

theorem structureDefects_eq_nil_iff {graph : Graph} :
    graph.structureDefects = [] ↔
      (∃ node ∈ graph.nodes, node.kind = .start) ∧ (∃ node ∈ graph.nodes, node.kind = .finish) ∧
        graph.EdgesKnown ∧ graph.Acyclic := by
  have uncycled : (graph.findCycle?.map Defect.cycle).toList = [] ↔ graph.findCycle? = none := by
    cases graph.findCycle? <;> simp
  simp only [structureDefects, List.append_eq_nil_iff, List.flatMap_eq_nil_iff, ite_eq_left_iff,
    List.cons_ne_nil, imp_false, not_not, hasKind_iff, uncycled,
    ← edgesKnown_iff, and_assoc]
  constructor
  · rintro ⟨start, finish, known, isNone⟩
    exact ⟨start, finish, known, (findCycle?_eq_none_iff known).1 isNone⟩
  · rintro ⟨start, finish, known, acyclic⟩
    exact ⟨start, finish, known, (findCycle?_eq_none_iff known).2 acyclic⟩

theorem isAnswerable_iff {kind : NodeKind} :
    kind.isAnswerable = true ↔ kind = .question ∨ kind = .docRequest ∨ kind = .decision := by
  cases kind <;> simp [NodeKind.isAnswerable]

theorem nodeDefects_eq_nil_iff {node : Node} :
    nodeDefects node = [] ↔
      (node.kind = .question ∨ node.kind = .docRequest ∨ node.kind = .decision →
        node.labels ≠ []) ∧
      (node.kind = .question → node.inputType ≠ none) := by
  rw [← isAnswerable_iff]
  simp only [nodeDefects, List.append_eq_nil_iff, ite_eq_right_iff, List.cons_ne_nil, imp_false,
    Bool.and_eq_true, not_and, List.isEmpty_iff, beq_iff_eq, Option.isNone_iff_eq_none, ne_eq]

/-- A graph is valid exactly when it has no defect as a whole and none of its nodes has one. -/
theorem check_isValid_iff {graph : Graph} {limit : Nat} :
    (graph.check limit).isValid = true ↔
      graph.structureDefects = [] ∧ ∀ node ∈ graph.nodes, nodeDefects node = [] := by
  simp only [check, ValidityReport.isValid, List.isEmpty_iff, List.append_eq_nil_iff,
    List.flatMap_eq_nil_iff]

/-- A graph is valid, whatever the limit on workflow nodes, exactly when it is well formed; and that
it has no directed cycle is to say that some rank of the ids rises along every edge. -/
theorem check_isValid_iff_wellFormed (graph : Graph) (limit : Nat) :
    ((graph.check limit).isValid = true ↔ graph.WellFormed) ∧
      (graph.Acyclic ↔ ∃ rank, graph.RankedBy rank) := by
  refine ⟨?_, graph.acyclic_iff_exists_rankedBy⟩
  simp only [check, ValidityReport.isValid, List.isEmpty_iff, List.append_eq_nil_iff,
    structureDefects_eq_nil_iff, List.flatMap_eq_nil_iff, nodeDefects_eq_nil_iff]
  constructor
  · rintro ⟨⟨start, finish, edges, acyclic⟩, nodes⟩
    exact ⟨start, finish, edges, acyclic, fun node member => (nodes node member).1,
      fun node member => (nodes node member).2⟩
  · intro wellFormed
    exact ⟨⟨wellFormed.start, wellFormed.finish, wellFormed.edges, wellFormed.acyclic⟩,
      fun node member => ⟨wellFormed.labels node member, wellFormed.inputTypes node member⟩⟩

end Graph

end Questionnaire
