import Mathlib.Data.List.Perm.Basic
import Questionnaire.Proofs.Graph.Chain
import Questionnaire.Seed.Intake

/-!
# Validity of the guided intake

The guided intake is published as it is made, without a check. Its graph is a chain of sound nodes,
so it is valid, and one simple path, exactly when no two of its nodes have one id. The id of a node
is the id of its step or field with a dash in place of every character that may not stand in a node
id. Distinct ids of the form can come out as one node id, and then the edges close a cycle.
-/

namespace Questionnaire

/-- A step feeds some label. -/
theorem FormStep.labels_ne_nil (step : FormStep) : step.labels ≠ [] := by
  have listed : ∀ entry ∈ stepLabelTable, entry.2 ≠ [] := by decide
  rw [labels]
  cases found : stepLabelTable.lookup step.id with
  | none => exact List.cons_ne_nil _ _
  | some labels =>
    obtain ⟨before, after, split, _⟩ := List.lookup_eq_some_iff.1 found
    exact listed (step.id, labels) (split ▸ List.mem_append_right _ List.mem_cons_self)

/-- A field of a step feeds some label. -/
theorem FormField.labels_ne_nil (field : FormField) (step : FormStep) : field.labels step ≠ [] := by
  rw [labels]
  split
  · exact List.append_ne_nil_of_right_ne_nil _ (List.cons_ne_nil _ _)
  · exact step.labels_ne_nil

theorem FormField.nodeDefects_toNode (step : FormStep) (stepPlace : Nat) (field : FormField)
    (fieldPlace : Nat) : Graph.nodeDefects (field.toNode step stepPlace fieldPlace) = [] := by
  rw [Graph.nodeDefects_eq_nil_iff]
  exact ⟨fun _ => field.labels_ne_nil step, fun _ => Option.some_ne_none _⟩

/-- The nodes of a step are sound. -/
theorem FormStep.nodeDefects_toNodes {step : FormStep} {stepPlace : Nat} {node : Node}
    (inside : node ∈ step.toNodes stepPlace) : Graph.nodeDefects node = [] := by
  rcases List.mem_cons.1 inside with rfl | ofField
  · rfl
  · obtain ⟨⟨field, fieldPlace⟩, _, rfl⟩ := List.mem_map.1 ofField
    exact field.nodeDefects_toNode step stepPlace fieldPlace

theorem FormStep.ids_toNodes (step : FormStep) (stepPlace : Nat) :
    (step.toNodes stepPlace).map Node.id =
      step.sectionId :: step.fields.map FormField.nodeId := by
  have named : (Node.id ∘ fun place : FormField × Nat =>
      place.1.toNode step stepPlace place.2) = FormField.nodeId ∘ Prod.fst := rfl
  rw [toNodes, List.map_cons, List.map_map, named, ← List.map_map, List.zipIdx_map_fst]
  rfl

namespace Catalog

/-- No two steps and no two fields have one id, once every character that may not stand in a node id
has become a dash. -/
structure HasDistinctPlainIds (catalog : Catalog) : Prop where
  steps : (catalog.map fun step => plainId step.id).Nodup
  fields : ((catalog.flatMap FormStep.fields).map fun field => plainId field.id).Nodup

theorem ids_formNodes (catalog : Catalog) :
    catalog.formNodes.map Node.id =
      catalog.flatMap fun step => step.sectionId :: step.fields.map FormField.nodeId := by
  have steps (start : Nat) :
      ((catalog.zipIdx start).flatMap fun place => place.1.toNodes place.2).map Node.id =
        catalog.flatMap fun step => step.sectionId :: step.fields.map FormField.nodeId := by
    induction catalog generalizing start with
    | nil => rfl
    | cons step rest inductionHypothesis =>
      rw [List.zipIdx_cons, List.flatMap_cons, List.map_append, step.ids_toNodes,
        inductionHypothesis, List.flatMap_cons]
  exact steps 0

/-- Headers and fields share no node id, so only two headers or two fields can. -/
theorem nodup_ids_formNodes_iff (catalog : Catalog) :
    (catalog.formNodes.map Node.id).Nodup ↔ catalog.HasDistinctPlainIds := by
  have headers : (catalog.map FormStep.sectionId).Nodup ↔
      (catalog.map fun step => plainId step.id).Nodup := nodup_map_append_iff "sec-" _ _
  have fields : ((catalog.flatMap FormStep.fields).map FormField.nodeId).Nodup ↔
      ((catalog.flatMap FormStep.fields).map fun field => plainId field.id).Nodup :=
    nodup_map_append_iff "node-" _ _
  have apart : (catalog.map FormStep.sectionId).Disjoint
      ((catalog.flatMap FormStep.fields).map FormField.nodeId) := by
    intro id ofStep ofField
    obtain ⟨step, _, rfl⟩ := List.mem_map.1 ofStep
    obtain ⟨field, _, same⟩ := List.mem_map.1 ofField
    have letters := congrArg String.toList same
    simp [FormField.nodeId, FormStep.sectionId] at letters
  rw [ids_formNodes,
    ← (List.map_append_flatMap_perm catalog FormStep.sectionId _).nodup_iff, ← List.map_flatMap,
    List.nodup_append', headers, fields]
  constructor
  · rintro ⟨steps, fields, _⟩
    exact ⟨steps, fields⟩
  · rintro ⟨steps, fields⟩
    exact ⟨steps, fields, apart⟩

/-- The ids of start and end are not those of a step or of a field. -/
theorem nodup_ids_intakeGraph_iff (catalog : Catalog) :
    (catalog.intakeGraph.nodes.map Node.id).Nodup ↔ catalog.HasDistinctPlainIds := by
  have apart {id : String} (noHeader : ∀ step : FormStep, step.sectionId ≠ id)
      (noField : ∀ field : FormField, field.nodeId ≠ id) : id ∉ catalog.formNodes.map Node.id := by
    rw [ids_formNodes]
    intro inside
    obtain ⟨step, _, here⟩ := List.mem_flatMap.1 inside
    rcases List.mem_cons.1 here with same | ofField
    · exact noHeader step same.symm
    · obtain ⟨field, _, same⟩ := List.mem_map.1 ofField
      exact noField field same
  have startNew : "start" ∉ catalog.formNodes.map Node.id :=
    apart (fun _ => append_ne_of_begins_apart (by decide) _)
      fun _ => append_ne_of_begins_apart (by decide) _
  have finishNew : "end" ∉ catalog.formNodes.map Node.id :=
    apart (fun _ => append_ne_of_begins_apart (by decide) _)
      fun _ => append_ne_of_begins_apart (by decide) _
  rw [← nodup_ids_formNodes_iff, ← nodup_between_iff (by decide) startNew finishNew, intakeGraph,
    Graph.chain, List.map_cons, List.map_append]
  rfl

theorem nodeDefects_formNodes {catalog : Catalog} :
    ∀ node ∈ catalog.formNodes, Graph.nodeDefects node = [] := by
  intro node inside
  obtain ⟨_, _, ofStep⟩ := List.mem_flatMap.1 inside
  exact FormStep.nodeDefects_toNodes ofStep

/-- The guided intake is published with a graph that has distinct node ids, that is valid, and that
is one simple path from start to end through every node, each of them exactly when steps and fields
keep distinct ids as node ids. -/
theorem isValid_intakeGraph_iff (catalog : Catalog) (now : Timestamp) (limit : Nat) :
    let graph := catalog.intakeGraph
    (∃ version, (intakeTemplate catalog now).active? = some version ∧
      version.isPublished = true ∧ version.graph = graph) ∧
    ((graph.nodes.map Node.id).Nodup ↔ catalog.HasDistinctPlainIds) ∧
    ((graph.check limit).isValid = true ↔ catalog.HasDistinctPlainIds) ∧
    (graph.IsSimplePath ↔ catalog.HasDistinctPlainIds) := by
  intro graph
  have distinct := catalog.nodup_ids_intakeGraph_iff
  refine ⟨⟨_, rfl, rfl, rfl⟩, distinct, ?_, ?_⟩
  · exact (Graph.check_chain_isValid_iff rfl rfl nodeDefects_formNodes limit).trans distinct
  · exact (Graph.isSimplePath_chain_iff rfl rfl).trans distinct

/-- Two steps with distinct ids get one node id, so that the guided intake has a cycle. -/
theorem not_isValid_intakeGraph_spaced :
    let catalog : Catalog :=
      [{ id := "set up", title := "Filing" }, { id := "set-up", title := "Spouse" }]
    (catalog.map FormStep.id).Nodup ∧
      ((catalog.flatMap FormStep.fields).map FormField.id).Nodup ∧
      ¬ (catalog.intakeGraph.nodes.map Node.id).Nodup ∧
      (catalog.intakeGraph.check defaultNodeLimit).defects = [.cycle "sec-set-up"] ∧
      ¬ catalog.intakeGraph.IsSimplePath := by
  intro catalog
  have repeated : ¬ (catalog.intakeGraph.nodes.map Node.id).Nodup := by decide +kernel
  exact ⟨by decide, by decide, repeated, by decide +kernel, fun path => repeated path.distinct⟩

end Catalog

end Questionnaire
