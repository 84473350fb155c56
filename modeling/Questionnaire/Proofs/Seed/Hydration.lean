import Questionnaire.Seed.Shipped

/-!
# The intake carries its catalog

The guided intake is made with one header for each step and one node for each field, so it carries
the catalog that it is made of, whatever the catalog repeats.
-/

namespace Questionnaire

/-- The nodes of a step stand for its fields, in order. -/
theorem FormStep.formFieldIds_toNodes (step : FormStep) (stepPlace : Nat) :
    (step.toNodes stepPlace).filterMap Node.formFieldId = step.fields.map FormField.id := by
  have standsFor : (Node.formFieldId ∘ fun place : FormField × Nat =>
      place.1.toNode step stepPlace place.2) = some ∘ FormField.id ∘ Prod.fst := rfl
  rw [toNodes, List.filterMap_cons_none rfl, List.filterMap_map, standsFor, List.filterMap_eq_map,
    ← List.map_map, List.zipIdx_map_fst]

/-- A header is among the nodes of a step. -/
theorem FormStep.one_le_headers_toNodes (step : FormStep) (stepPlace : Nat) :
    1 ≤ ((step.toNodes stepPlace).filter fun node => node.kind == .sectionHeader).length := by
  rw [toNodes, List.filter_cons_of_pos rfl]
  exact Nat.le_add_left 1 _

namespace Catalog

/-- The nodes of the catalog stand for its fields, in order. -/
theorem formFieldIds_formNodes (catalog : Catalog) :
    catalog.formNodes.filterMap Node.formFieldId =
      (catalog.flatMap FormStep.fields).map FormField.id := by
  have steps (start : Nat) :
      ((catalog.zipIdx start).flatMap fun place =>
        place.1.toNodes place.2).filterMap Node.formFieldId =
          (catalog.flatMap FormStep.fields).map FormField.id := by
    induction catalog generalizing start with
    | nil => rfl
    | cons step rest inductionHypothesis =>
      rw [List.zipIdx_cons, List.flatMap_cons, List.flatMap_cons, List.filterMap_append,
        List.map_append, step.formFieldIds_toNodes, inductionHypothesis]
  exact steps 0

/-- There is a header for each step of the catalog. -/
theorem length_le_headers_formNodes (catalog : Catalog) :
    catalog.length ≤ (catalog.formNodes.filter fun node => node.kind == .sectionHeader).length := by
  have steps (start : Nat) :
      catalog.length ≤ (((catalog.zipIdx start).flatMap fun place =>
        place.1.toNodes place.2).filter fun node => node.kind == .sectionHeader).length := by
    induction catalog generalizing start with
    | nil => exact Nat.le_refl 0
    | cons step rest inductionHypothesis =>
      have later := inductionHypothesis (start + 1)
      have here := step.one_le_headers_toNodes start
      rw [List.zipIdx_cons, List.flatMap_cons, List.filter_append, List.length_append,
        List.length_cons, Nat.add_comm]
      exact Nat.add_le_add here later
  exact steps 0

theorem formFieldIds_intakeGraph (catalog : Catalog) :
    catalog.intakeGraph.nodes.filterMap Node.formFieldId =
      (catalog.flatMap FormStep.fields).map FormField.id := by
  rw [intakeGraph, Graph.chain, List.filterMap_cons_none rfl, List.filterMap_append,
    formFieldIds_formNodes]
  exact List.append_nil _

theorem length_le_headers_intakeGraph (catalog : Catalog) :
    catalog.length ≤ (catalog.intakeGraph.nodesOfKind .sectionHeader).length := by
  have headers := length_le_headers_formNodes catalog
  rw [Graph.nodesOfKind, intakeGraph, Graph.chain, List.filter_cons_of_neg (by decide),
    List.filter_append, List.length_append]
  omega

end Catalog

theorem activeGraph?_intakeTemplate (catalog : Catalog) (now : Timestamp) :
    (intakeTemplate catalog now).activeGraph? = some catalog.intakeGraph := rfl

/-- The guided intake carries its catalog. -/
theorem isHydrated_intakeTemplate (catalog : Catalog) (now : Timestamp) :
    (intakeTemplate catalog now).isHydrated catalog = true := by
  have carried := catalog.formFieldIds_intakeGraph
  have headers := catalog.length_le_headers_intakeGraph
  rw [Template.isHydrated, activeGraph?_intakeTemplate]
  simp only [carried, Bool.and_eq_true, decide_eq_true_eq, List.length_map]
  refine ⟨⟨?_, Nat.le_refl _⟩, headers⟩
  refine List.all_eq_true.2 fun field inside => List.contains_iff_mem.2 ?_
  exact List.mem_map_of_mem inside

end Questionnaire
