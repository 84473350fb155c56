import Questionnaire.Seed.Intake
import Questionnaire.State.Issuing

/-!
# Rehydration of the intake

An intake that no longer carries the catalog is replaced by a fresh one. Its assignments and their
responses go with it, and the fresh intake is issued once.
-/

namespace Questionnaire

namespace State

/-- Whether the state holds an intake that carries the catalog. -/
def hasHydratedIntake (state : State) (catalog : Catalog) : Bool :=
  (state.template? intakeTemplateId).any fun template => template.isHydrated catalog

/-- The ids of the assignments of the intake. -/
def intakeAssignmentIds (state : State) : List String :=
  (state.assignments.filter fun assignment => assignment.templateId == intakeTemplateId).map
    Assignment.id

/-- The state with another intake in front, and without the assignments of the old one and their
responses. -/
def replaceIntake (state : State) (intake : Template) : State :=
  let dropped := state.intakeAssignmentIds
  let others := state.templates.filter fun template => template.id != intakeTemplateId
  { state with
    templates := intake :: others
    assignments := state.assignments.filter fun assignment => !dropped.contains assignment.id
    responses := state.responses.filter fun response => !dropped.contains response.assignmentId }

variable {state : State} {intake : Template} {dropped : Assignment}

/-- An id that is not dropped is not that of an assignment of the old intake. -/
theorem ne_of_not_dropped {id : String} (stays : (!state.intakeAssignmentIds.contains id) = true)
    (inside : dropped ∈ state.assignments) (ofIntake : dropped.templateId = intakeTemplateId) :
    id ≠ dropped.id := by
  rintro rfl
  have isDropped : dropped.id ∈ state.intakeAssignmentIds :=
    List.mem_map_of_mem (List.mem_filter.2 ⟨inside, beq_iff_eq.2 ofIntake⟩)
  rw [List.contains_iff_mem.2 isDropped] at stays
  contradiction

/-- No assignment is left with the id of an assignment of the old intake. -/
theorem id_ne_of_mem_replaceIntake {assignment : Assignment}
    (left : assignment ∈ (state.replaceIntake intake).assignments)
    (inside : dropped ∈ state.assignments) (ofIntake : dropped.templateId = intakeTemplateId) :
    assignment.id ≠ dropped.id :=
  ne_of_not_dropped (List.mem_filter.1 left).2 inside ofIntake

/-- No response is left of an assignment of the old intake. -/
theorem assignmentId_ne_of_mem_replaceIntake {response : Response}
    (left : response ∈ (state.replaceIntake intake).responses)
    (inside : dropped ∈ state.assignments) (ofIntake : dropped.templateId = intakeTemplateId) :
    response.assignmentId ≠ dropped.id :=
  ne_of_not_dropped (List.mem_filter.1 left).2 inside ofIntake

end State

namespace Action

/-- Replaces and issues the intake unless it carries the catalog, and tells whether it did so. -/
def rehydrateIntake (catalog : Catalog) : Action Bool := do
  if (← state).hasHydratedIntake catalog then return false
  let intake := intakeTemplate catalog (← now)
  modifyState fun state => state.replaceIntake intake
  let _ ← assignTemplate intakeTemplateId none none
  return true

end Action

end Questionnaire
