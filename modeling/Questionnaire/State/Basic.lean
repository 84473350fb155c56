import Questionnaire.Assignment.Basic
import Questionnaire.Json.Basic
import Questionnaire.Response.Basic
import Questionnaire.Template.Basic

/-!
# The state of a store

The state is everything that a store keeps: templates, assignments and responses, the newest first,
and the document of the first schema that it may have been migrated from. Look-ups take the first
entry with the id.
-/

namespace Questionnaire

/-- The schema of the documents that are written. -/
def schemaVersion : UInt32 := 3

/-- Everything that a store keeps. -/
structure State where
  /-- The schema of the document that the state was read from. -/
  schemaVersion : UInt32 := Questionnaire.schemaVersion
  /-- The templates, newest first. -/
  templates : List Template := []
  /-- The assignments, newest first. -/
  assignments : List Assignment := []
  /-- The responses of all assignments. -/
  responses : List Response := []
  /-- The document of the first schema, as it was. -/
  archivedV1 : Option Json := none
deriving Inhabited

namespace State

/-- The state without entries. -/
def empty : State := {}

/-- The first template with the id. -/
def template? (state : State) (id : String) : Option Template :=
  state.templates.find? fun template => template.id == id

/-- The first assignment with the id. -/
def assignment? (state : State) (id : String) : Option Assignment :=
  state.assignments.find? fun assignment => assignment.id == id

/-- The template that an assignment was issued from. -/
def templateOf? (state : State) (assignment : Assignment) : Option Template :=
  state.template? assignment.templateId

end State

end Questionnaire
