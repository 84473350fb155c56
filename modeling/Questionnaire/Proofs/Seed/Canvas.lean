import Mathlib.Algebra.Group.Nat.Defs
import Questionnaire.Proofs.Document.State
import Questionnaire.Proofs.Json.WholeNumbers
import Questionnaire.Seed.Shipped

/-!
# The numbers of the seeds are read back

The binary64 numbers in the state that a store starts with are places on the canvas and the size of
an upload. They are natural numbers, and the places are multiples of ten, so that they are read back
from the document as long as they stay below `10 * 2 ^ 48`. Only a catalog that no machine can hold
is wider than that.
-/

namespace Questionnaire

/-! ## Places on the canvas -/

/-- A distance on the canvas that is read back: a multiple of ten that is not too long. -/
def IsNear (distance : Nat) : Prop :=
  distance % 10 = 0 ∧ distance < 10 * 2 ^ 48

instance (distance : Nat) : Decidable (IsNear distance) :=
  inferInstanceAs (Decidable (_ ∧ _))

theorem IsNear.isReadBack {distance : Nat} (near : IsNear distance) :
    (Binary64.ofNat distance).IsReadBack := by
  obtain ⟨isTens, short⟩ := near
  have tenfold : distance * 10 = 25 * (distance / 10) * 2 ^ 2 := by omega
  exact Binary64.isReadBack_ofNat (by omega) tenfold (by omega)

/-- The numbers in the node are read back. -/
def Node.IsReadBack (node : Node) : Prop :=
  ∀ number ∈ node.numbers, number.IsReadBack

/-- A node that is near is read back if the numbers in its rules are. -/
theorem Node.isReadBack_of_near {node : Node} {x y : Nat}
    (rules : ∀ number ∈ node.fileRules.toList.flatMap FileRules.numbers, number.IsReadBack)
    (position : node.position = some (.ofNats x y)) (xNear : IsNear x) (yNear : IsNear y) :
    node.IsReadBack := by
  rw [IsReadBack, numbers, List.forall_mem_append, position]
  refine ⟨rules, ?_⟩
  rw [Option.toList_some, List.flatMap_singleton, CanvasPosition.numbers, List.forall_mem_cons,
    List.forall_mem_singleton]
  exact ⟨xNear.isReadBack, yNear.isReadBack⟩

theorem FormField.isReadBack_fileRules (field : FormField) :
    ∀ number ∈ field.fileRules.toList.flatMap FileRules.numbers, number.IsReadBack := by
  have size : (Binary64.ofNat 25).IsReadBack := by decide +kernel
  rw [fileRules]
  split
  · rw [Option.toList_some, List.flatMap_singleton, FileRules.numbers, Option.toList_some,
      List.forall_mem_singleton]
    exact size
  · exact fun _ inside => absurd inside List.not_mem_nil

/-! ## The intake -/

theorem FormStep.isNear_column {stepPlace fieldPlace : Nat} (stepLeft : stepPlace < 2 ^ 42)
    (fieldLeft : fieldPlace ≤ 2 ^ 42) : IsNear (column stepPlace fieldPlace) := by
  rw [IsNear, column]
  omega

/-- The nodes of a step are read back. -/
theorem FormStep.isReadBack_toNodes {step : FormStep} {stepPlace : Nat}
    (stepLeft : stepPlace < 2 ^ 42) (few : step.fields.length ≤ 2 ^ 42) :
    ∀ node ∈ step.toNodes stepPlace, node.IsReadBack := by
  rw [toNodes, List.forall_mem_cons]
  constructor
  · refine Node.isReadBack_of_near ?_ rfl (isNear_column stepLeft (by decide)) (by decide)
    exact fun _ inside => absurd inside List.not_mem_nil
  · intro node inside
    obtain ⟨⟨field, fieldPlace⟩, isField, rfl⟩ := List.mem_map.1 inside
    have fieldLeft := List.snd_lt_of_mem_zipIdx isField
    have row : IsNear (210 + 130 * (fieldPlace % 8)) := by
      rw [IsNear]
      omega
    exact Node.isReadBack_of_near field.isReadBack_fileRules rfl
      (isNear_column stepLeft (by omega)) row

namespace Catalog

/-- The catalog fits a machine: it has at most `2 ^ 42` steps, and each step as many fields. In an
address space of `2 ^ 47` bytes there is no room for more, as steps and fields take more than 32
bytes each. -/
structure FitsMachine (catalog : Catalog) : Prop where
  /-- There are not too many steps. -/
  steps : catalog.length ≤ 2 ^ 42
  /-- No step has too many fields. -/
  fields : ∀ step ∈ catalog, step.fields.length ≤ 2 ^ 42

variable {catalog : Catalog}

theorem FitsMachine.isReadBack_formNodes (fits : catalog.FitsMachine) :
    ∀ node ∈ catalog.formNodes, node.IsReadBack := by
  intro node inside
  obtain ⟨⟨step, stepPlace⟩, isStep, ofStep⟩ := List.mem_flatMap.1 inside
  have stepLeft := List.snd_lt_of_mem_zipIdx isStep
  have stepInside := List.fst_mem_of_mem_zipIdx isStep
  have bound := fits.steps
  exact FormStep.isReadBack_toNodes (by omega) (fits.fields step stepInside) node ofStep

theorem FitsMachine.isNear_finishColumn (fits : catalog.FitsMachine) :
    IsNear catalog.finishColumn := by
  -- A little is left between the last column and the greatest distance that is read back.
  have columns : ∀ column ∈ catalog.zipIdx.map fun place => place.1.lastColumn place.2,
      column % 10 = 0 ∧ column + 300 < 10 * 2 ^ 48 := by
    intro column inside
    obtain ⟨⟨step, stepPlace⟩, isStep, rfl⟩ := List.mem_map.1 inside
    have stepLeft := List.snd_lt_of_mem_zipIdx isStep
    have few := fits.fields step (List.fst_mem_of_mem_zipIdx isStep)
    have bound := fits.steps
    simp only [FormStep.lastColumn, FormStep.column]
    omega
  rw [finishColumn]
  generalize catalog.zipIdx.map (fun place => place.1.lastColumn place.2) = distances at columns
  obtain ⟨isTens, short⟩ : distances.foldl max 40 % 10 = 0 ∧
      distances.foldl max 40 + 300 < 10 * 2 ^ 48 := by
    refine List.foldlRecOn (motive := fun column => column % 10 = 0 ∧ column + 300 < 10 * 2 ^ 48)
      distances max (by decide : 40 % 10 = 0 ∧ 40 + 300 < 10 * 2 ^ 48)
      fun greatest ofGreatest column inside => ?_
    rcases Nat.le_total greatest column with less | greater
    · rw [Nat.max_eq_right less]
      exact columns column inside
    · rw [Nat.max_eq_left greater]
      exact ofGreatest
  exact ⟨by rw [Nat.add_mod, isTens], short⟩

/-- The numbers in the graph of the guided intake are read back. -/
theorem FitsMachine.isReadBack_intakeGraph (fits : catalog.FitsMachine) :
    ∀ number ∈ catalog.intakeGraph.numbers, number.IsReadBack := by
  have noRules : ∀ number ∈ (none : Option FileRules).toList.flatMap FileRules.numbers,
      number.IsReadBack := fun _ inside => absurd inside List.not_mem_nil
  rw [Graph.numbers, List.forall_mem_flatMap, intakeGraph, Graph.chain, List.forall_mem_cons,
    List.forall_mem_append, List.forall_mem_singleton]
  exact ⟨Node.isReadBack_of_near noRules rfl (by decide) (by decide), fits.isReadBack_formNodes,
    Node.isReadBack_of_near noRules rfl fits.isNear_finishColumn (by decide)⟩

end Catalog

/-! ## The state that a store starts with -/

/-- The numbers in the state that a store starts with are read back. -/
theorem isReadBack_seedState {catalog : Catalog} (fits : catalog.FitsMachine) (now : Timestamp) :
    ∀ number ∈ (seedState catalog now).numbers, number.IsReadBack := by
  have followup : ∀ number ∈ followupGraph.numbers, number.IsReadBack := by decide +kernel
  have clarification : ∀ number ∈ clarificationGraph.numbers, number.IsReadBack := by
    decide +kernel
  have numbers : (seedState catalog now).numbers =
      catalog.intakeGraph.numbers ++ (followupGraph.numbers ++ clarificationGraph.numbers) := by
    simp [State.numbers, seedState, seedTemplates, Template.numbers, intakeTemplate,
      shippedTemplate, Template.ofVersion, TemplateVersion.published]
  rw [numbers, List.forall_mem_append, List.forall_mem_append]
  exact ⟨fits.isReadBack_intakeGraph, followup, clarification⟩

end Questionnaire
