import Questionnaire.Proofs.Seed.Gating
import Questionnaire.Proofs.Seed.Hydration

/-!
# What hydration says about the catalog

A graph mirrors a catalog if a header stands for every step and a node for every field of every
step. Nodes that stand for a step or a field are seen only if its gates let them through. That a
template is hydrated says less: every field id is carried by some node, and there are enough headers
and enough such nodes. Which step a header or a node stands for is not looked at. That the graph
mirrors the catalog then follows by counting, as long as each of them stands for something in the
catalog and no two for the same.
-/

namespace Questionnaire

/-- The ids of the steps are distinct, and so are those of the fields of a step. -/
structure Catalog.HasDistinctIds (catalog : Catalog) : Prop where
  steps : (catalog.map FormStep.id).Nodup
  fields : ∀ step ∈ catalog, (step.fields.map FormField.id).Nodup

namespace Graph

/-- The nodes that carry the id of a field. -/
def fieldNodes (graph : Graph) : List Node :=
  graph.nodes.filter fun node => node.formFieldId.isSome

/-- There is a header for every step, and a node for every field of every step. -/
structure Mirrors (graph : Graph) (catalog : Catalog) : Prop where
  steps : ∀ step ∈ catalog, ∃ header ∈ graph.nodesOfKind .sectionHeader,
    header.formStepId = some step.id
  fields : ∀ step ∈ catalog, ∀ field ∈ step.fields, ∃ node ∈ graph.nodes,
    node.formStepId = some step.id ∧ node.formFieldId = some field.id

/-- Whatever is answered, the client sees a node that stands for a step, or for a field of it, only
if the step, and the field, is shown. -/
def IsGatedBy (graph : Graph) (catalog : Catalog) : Prop :=
  ∀ responses : ResponseIndex, ∀ step ∈ catalog, ∀ node ∈ graph.nodes,
    let view := View.ofResponses graph responses catalog
    node.formStepId = some step.id → view.isVisible node = true →
      step.isShown view.answers = true ∧ ∀ field ∈ step.fields,
        node.formFieldId = some field.id → field.isShown view.answers = true

/-- Every header stands for a step of the catalog, every node that carries the id of a field for a
field of the catalog, and no two for the same. -/
structure StandsOnlyFor (graph : Graph) (catalog : Catalog) : Prop where
  steps : ∀ header ∈ graph.nodesOfKind .sectionHeader, ∃ step ∈ catalog,
    header.formStepId = some step.id
  onceSteps : ((graph.nodesOfKind .sectionHeader).map Node.formStepId).Nodup
  fields : ∀ node ∈ graph.fieldNodes, ∃ step ∈ catalog, ∃ field ∈ step.fields,
    node.formStepId = some step.id ∧ node.formFieldId = some field.id
  onceFields : (graph.fieldNodes.map fun node => (node.formStepId, node.formFieldId)).Nodup

end Graph

namespace Catalog

/-- The step and the field of each field of the catalog, as nodes name them. -/
def formPlaces (catalog : Catalog) : List (Option String × Option String) :=
  catalog.flatMap fun step => step.fields.map fun field => (some step.id, some field.id)

variable {catalog : Catalog} {place : Option String × Option String}

theorem mem_formPlaces :
    place ∈ catalog.formPlaces ↔
      ∃ step ∈ catalog, ∃ field ∈ step.fields, place = (some step.id, some field.id) := by
  simp only [formPlaces, List.mem_flatMap, List.mem_map, eq_comm]

theorem length_formPlaces (catalog : Catalog) :
    catalog.formPlaces.length = (catalog.flatMap FormStep.fields).length := by
  simp only [formPlaces, List.length_flatMap, List.length_map]

theorem nodup_formPlaces (distinct : catalog.HasDistinctIds) : catalog.formPlaces.Nodup := by
  refine List.nodup_flatMap.2 ⟨fun step isStep => ?_, ?_⟩
  · refine List.Nodup.of_map Prod.snd ?_
    rw [List.map_map]
    have fields := (distinct.fields step isStep).map fun _ _ => Option.some.inj
    rwa [List.map_map] at fields
  · refine (List.pairwise_map.1 distinct.steps).imp fun apart place inLeft inRight => apart ?_
    obtain ⟨_, _, rfl⟩ := List.mem_map.1 inLeft
    obtain ⟨_, _, same⟩ := List.mem_map.1 inRight
    exact (Option.some.inj (congrArg Prod.fst same)).symm

end Catalog

/-- Distinct elements of a list that are as many as the list are all of them. -/
theorem subset_of_length_le {α : Type} {chosen all : List α} (distinct : chosen.Nodup)
    (within : chosen ⊆ all) (enough : all.length ≤ chosen.length) : all ⊆ chosen :=
  ((distinct.subperm within).perm_of_length_le enough).symm.subset

variable {template : Template} {graph : Graph} {catalog : Catalog} {node : Node}

namespace Graph

theorem mem_fieldNodes : node ∈ graph.fieldNodes ↔
    node ∈ graph.nodes ∧ node.formFieldId.isSome = true :=
  List.mem_filter

/-- Mirroring as an inclusion of what the catalog has in what nodes stand for. -/
theorem mirrors_iff (graph : Graph) (catalog : Catalog) :
    graph.Mirrors catalog ↔
      (catalog.map fun step => some step.id) ⊆
          (graph.nodesOfKind .sectionHeader).map Node.formStepId ∧
        catalog.formPlaces ⊆
          graph.fieldNodes.map fun node => (node.formStepId, node.formFieldId) := by
  constructor
  · rintro ⟨steps, fields⟩
    refine ⟨fun id isId => ?_, fun place isPlace => ?_⟩
    · obtain ⟨step, isStep, rfl⟩ := List.mem_map.1 isId
      exact List.mem_map.2 (steps step isStep)
    · obtain ⟨step, isStep, field, isField, rfl⟩ := Catalog.mem_formPlaces.1 isPlace
      obtain ⟨node, isNode, ofStep, ofField⟩ := fields step isStep field isField
      have carries : node.formFieldId.isSome = true := ofField ▸ rfl
      exact List.mem_map.2 ⟨node, mem_fieldNodes.2 ⟨isNode, carries⟩, Prod.ext ofStep ofField⟩
  · rintro ⟨steps, places⟩
    refine ⟨fun step isStep => List.mem_map.1 (steps (List.mem_map.2 ⟨step, isStep, rfl⟩)), ?_⟩
    intro step isStep field isField
    have isPlace := Catalog.mem_formPlaces.2 ⟨step, isStep, field, isField, rfl⟩
    obtain ⟨node, isFieldNode, same⟩ := List.mem_map.1 (places isPlace)
    obtain ⟨ofStep, ofField⟩ := Prod.mk.inj same
    exact ⟨node, (mem_fieldNodes.1 isFieldNode).1, ofStep, ofField⟩

/-- Where nothing else is stood for, and nothing twice, it is enough to count. -/
theorem StandsOnlyFor.mirrors (only : graph.StandsOnlyFor catalog)
    (enoughHeaders : catalog.length ≤ (graph.nodesOfKind .sectionHeader).length)
    (enoughNodes : (catalog.flatMap FormStep.fields).length ≤ graph.fieldNodes.length) :
    graph.Mirrors catalog := by
  refine (mirrors_iff graph catalog).2 ⟨subset_of_length_le only.onceSteps ?_ ?_,
    subset_of_length_le only.onceFields ?_ ?_⟩
  · intro id isId
    obtain ⟨header, isHeader, rfl⟩ := List.mem_map.1 isId
    obtain ⟨step, isStep, ofStep⟩ := only.steps header isHeader
    exact List.mem_map.2 ⟨step, isStep, ofStep.symm⟩
  · rwa [List.length_map, List.length_map]
  · intro place isPlace
    obtain ⟨node, isFieldNode, rfl⟩ := List.mem_map.1 isPlace
    obtain ⟨step, isStep, field, isField, ofStep, ofField⟩ := only.fields node isFieldNode
    exact Catalog.mem_formPlaces.2 ⟨step, isStep, field, isField, Prod.ext ofStep ofField⟩
  · rwa [List.length_map, Catalog.length_formPlaces]

/-- A graph that mirrors a catalog without repeated ids has enough headers and enough nodes. -/
theorem Mirrors.length_le (mirrors : graph.Mirrors catalog) (distinct : catalog.HasDistinctIds) :
    catalog.length ≤ (graph.nodesOfKind .sectionHeader).length ∧
      (catalog.flatMap FormStep.fields).length ≤ graph.fieldNodes.length := by
  obtain ⟨steps, places⟩ := (mirrors_iff graph catalog).1 mirrors
  have distinctSteps : (catalog.map fun step => some step.id).Nodup := by
    have apart := distinct.steps.map fun _ _ => Option.some.inj
    rwa [List.map_map] at apart
  have enoughHeaders := (distinctSteps.subperm steps).length_le
  have enoughNodes := ((Catalog.nodup_formPlaces distinct).subperm places).length_le
  rw [List.length_map, List.length_map] at enoughHeaders
  rw [List.length_map, Catalog.length_formPlaces] at enoughNodes
  exact ⟨enoughHeaders, enoughNodes⟩

/-- The gates of a catalog without repeated ids are in force for all nodes that stand for its steps
and fields. -/
theorem isGatedBy (graph : Graph) (distinct : catalog.HasDistinctIds) :
    graph.IsGatedBy catalog := by
  intro responses step isStep node _ view ofStep seen
  have passes : view.passesGates node = true :=
    (Bool.and_eq_true_iff.1 (Bool.and_eq_true_iff.1 seen).1).2
  have found : Catalog.step? view.catalog step.id = some step :=
    find?_of_distinct distinct.steps isStep
  rw [View.passesGates, ofStep, Option.bind_some, found] at passes
  obtain ⟨shown, shownField⟩ := Bool.and_eq_true_iff.1 passes
  refine ⟨shown, fun field isField ofField => ?_⟩
  have foundField : step.field? field.id = some field :=
    find?_of_distinct (distinct.fields step isStep) isField
  rwa [ofField, Option.bind_some, foundField, Option.all_some] at shownField

end Graph

/-- The guided intake mirrors the catalog that it is made of. -/
theorem Catalog.mirrors_intakeGraph (catalog : Catalog) : catalog.intakeGraph.Mirrors catalog := by
  have isNode {node : Node} (inside : node ∈ catalog.formNodes) :
      node ∈ catalog.intakeGraph.nodes :=
    List.mem_cons_of_mem _ (List.mem_append_left _ inside)
  constructor
  · intro step isStep
    obtain ⟨stepPlace, placed⟩ := List.mem_iff_getElem?.1 isStep
    have isHeader := isNode (mem_formNodes_of_mem_toNodes placed List.mem_cons_self)
    exact ⟨step.toHeader stepPlace, List.mem_filter.2 ⟨isHeader, rfl⟩, rfl⟩
  · intro step isStep field isField
    obtain ⟨stepPlace, placed⟩ := List.mem_iff_getElem?.1 isStep
    obtain ⟨fieldPlace, placedField⟩ := List.mem_iff_getElem?.1 isField
    have isFormNode := mem_formNodes_of_mem_toNodes placed (mem_toNodes_of_field placedField)
    exact ⟨field.toNode step stepPlace fieldPlace, isNode isFormNode, rfl, rfl⟩

namespace Template

theorem isHydrated_iff (active : template.activeGraph? = some graph) :
    template.isHydrated catalog = true ↔
      (∀ step ∈ catalog, ∀ field ∈ step.fields, ∃ node ∈ graph.nodes,
          node.formFieldId = some field.id) ∧
        (catalog.flatMap FormStep.fields).length ≤ graph.fieldNodes.length ∧
        catalog.length ≤ (graph.nodesOfKind .sectionHeader).length := by
  have carried : (graph.nodes.filterMap Node.formFieldId).length = graph.fieldNodes.length := by
    rw [List.length_filterMap_eq_countP, Graph.fieldNodes, List.countP_eq_length_filter]
  simp only [isHydrated, active, carried, Bool.and_eq_true, decide_eq_true_eq, and_assoc,
    List.all_eq_true, List.mem_flatMap, List.contains_iff_mem, List.mem_filterMap,
    forall_exists_index, and_imp]
  exact and_congr_left' ⟨fun all step isStep field isField => all field step isStep isField,
    fun all field step isStep isField => all step isStep field isField⟩

/-- Hydration depends on the catalog only through its field ids and the number of its steps. -/
theorem isHydrated_congr {other : Catalog} (sameLength : other.length = catalog.length)
    (sameFields : ((other.flatMap FormStep.fields).map FormField.id).Perm
      ((catalog.flatMap FormStep.fields).map FormField.id)) :
    template.isHydrated other = template.isHydrated catalog := by
  have sameCount : (other.flatMap FormStep.fields).length =
      (catalog.flatMap FormStep.fields).length := by
    simpa only [List.length_map] using sameFields.length_eq
  have sameCarried (carried : List String) :
      (other.flatMap FormStep.fields).all (fun field => carried.contains field.id) =
        (catalog.flatMap FormStep.fields).all fun field => carried.contains field.id := by
    have ids (catalog : Catalog) :
        (catalog.flatMap FormStep.fields).all (fun field => carried.contains field.id) =
          ((catalog.flatMap FormStep.fields).map FormField.id).all carried.contains := by
      rw [List.all_map]
      rfl
    rw [ids, ids, sameFields.all_eq]
  cases active : template.activeGraph? with
  | none => rw [isHydrated, isHydrated, active]
  | some graph =>
    simp only [isHydrated, active, sameCarried, sameCount, sameLength]

/-- A hydrated template has an active graph in which every field id is carried. Where this graph
stands for nothing but the catalog, and for nothing twice, it mirrors the catalog. A catalog without
repeated ids is in force wherever it is stood for, and a template whose active graph mirrors it is
hydrated. But hydration does not depend on step ids, nor on the steps to which fields belong. -/
theorem isHydrated_mirrors (template : Template) (catalog : Catalog) :
    (template.isHydrated catalog = true → ∃ graph, template.activeGraph? = some graph ∧
      (∀ step ∈ catalog, ∀ field ∈ step.fields, ∃ node ∈ graph.nodes,
        node.formFieldId = some field.id) ∧
      (graph.StandsOnlyFor catalog → graph.Mirrors catalog)) ∧
    (catalog.HasDistinctIds → ∀ graph, template.activeGraph? = some graph →
      graph.IsGatedBy catalog ∧
        (graph.Mirrors catalog → template.isHydrated catalog = true)) ∧
    ∀ other : Catalog, other.length = catalog.length →
      ((other.flatMap FormStep.fields).map FormField.id).Perm
        ((catalog.flatMap FormStep.fields).map FormField.id) →
      template.isHydrated other = template.isHydrated catalog := by
  refine ⟨fun hydrated => ?_, fun distinct graph active => ⟨graph.isGatedBy distinct, ?_⟩,
    fun other => isHydrated_congr⟩
  · cases active : template.activeGraph? with
    | none =>
      rw [isHydrated, active] at hydrated
      exact absurd hydrated Bool.false_ne_true
    | some graph =>
      obtain ⟨carried, enoughNodes, enoughHeaders⟩ := (isHydrated_iff active).1 hydrated
      exact ⟨graph, rfl, carried, fun only => only.mirrors enoughHeaders enoughNodes⟩
  · intro mirrors
    obtain ⟨enoughHeaders, enoughNodes⟩ := mirrors.length_le distinct
    refine (isHydrated_iff active).2 ⟨fun step isStep field isField => ?_, enoughNodes,
      enoughHeaders⟩
    obtain ⟨node, isNode, _, ofField⟩ := mirrors.fields step isStep field isField
    exact ⟨node, isNode, ofField⟩

/-- An intake to which a question of its own was added. It stands for each step and each field once,
also for the two fields that have one id. -/
theorem isHydrated_mirrors_edited :
    let name : FormField := { id := "name", kind := .text, label := "Name" }
    let debtor : FormStep := { id := "debtor", title := "Debtor", fields := [name] }
    let spouse : FormStep :=
      { id := "spouse"
        title := "Spouse"
        fields := [name]
        isShown := fun answers => (answers.get? "name").isSome }
    let catalog : Catalog := [debtor, spouse]
    let graph := catalog.intakeGraph.addNode (.ofKind .question "extra")
    let version : TemplateVersion := .published 1 graph .system .epoch none
    let template := Template.ofVersion "t" "Intake" .intake .system version .epoch
    catalog.HasDistinctIds ∧ template.isHydrated catalog = true ∧ graph.StandsOnlyFor catalog ∧
      graph.Mirrors catalog ∧ graph.IsGatedBy catalog ∧
      template.isHydrated [{ debtor with fields := [name, name] }, { spouse with fields := [] }] =
        true := by
  intro name debtor spouse catalog graph version template
  have distinct : catalog.HasDistinctIds := by
    refine ⟨by decide, fun step inside => ?_⟩
    rcases List.mem_pair.1 inside with rfl | rfl <;> decide
  have active : template.activeGraph? = some graph := rfl
  have only : graph.StandsOnlyFor catalog :=
    ⟨by decide +kernel, by decide +kernel, by decide +kernel, by decide +kernel⟩
  have hydrated : template.isHydrated catalog = true := by decide +kernel
  obtain ⟨mirrored, gated, congruent⟩ := isHydrated_mirrors template catalog
  obtain ⟨found, isFound, _, mirrors⟩ := mirrored hydrated
  obtain rfl := Option.some.inj (active.symm.trans isFound)
  exact ⟨distinct, hydrated, only, mirrors only, (gated distinct graph active).1,
    (congruent [{ debtor with fields := [name, name] }, { spouse with fields := [] }] rfl
      (.refl _)).trans hydrated⟩

/-- An intake stays hydrated when its only step gets another id and is hidden. No header stands for
the step, and the node of its field is seen. -/
theorem not_mirrors_renamed :
    let field : FormField := { id := "f", kind := .text, label := "F" }
    let step : FormStep := { id := "a", title := "A", fields := [field] }
    let renamed : FormStep := { step with id := "b", isShown := fun _ => false }
    let template := intakeTemplate [step] .epoch
    let graph := Catalog.intakeGraph [step]
    let view := View.ofResponses graph KeyMap.empty [renamed]
    (template.activeGraph? = some graph ∧ template.isHydrated [renamed] = true) ∧
      (∀ node ∈ graph.nodes, node.formStepId ≠ some renamed.id) ∧ ¬ graph.Mirrors [renamed] ∧
      renamed.isShown view.answers = false ∧
      ∃ node ∈ graph.nodes, node.formFieldId = some field.id ∧ view.isVisible node = true := by
  intro field step renamed template graph view
  have noneStands : ∀ node ∈ graph.nodes, node.formStepId ≠ some renamed.id := by decide +kernel
  refine ⟨⟨rfl, by decide +kernel⟩, noneStands, fun mirrors => ?_, rfl, by decide +kernel⟩
  obtain ⟨header, isHeader, ofStep⟩ := mirrors.steps renamed List.mem_cons_self
  exact noneStands header (List.mem_of_mem_filter isHeader) ofStep

end Template

end Questionnaire
