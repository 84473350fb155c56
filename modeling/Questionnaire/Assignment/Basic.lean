import Questionnaire.Stage
import Questionnaire.Time.Timestamp

/-!
# Assignments

An assignment is a version of a template that was issued to a client. The version number is fixed
when the assignment is issued and never changes afterwards.
-/

namespace Questionnaire

/-- A version of a template that was issued to a client. -/
structure Assignment where
  /-- The name of the assignment. -/
  id : String
  /-- The template that was issued. -/
  templateId : String
  /-- The version that was issued. -/
  templateVersion : UInt32
  /-- The title shown to the client. -/
  title : String
  /-- When it was issued. -/
  assignedAt : Timestamp
  /-- The day it is due, as written. -/
  dueAt : Option String := none
  /-- The stage recorded last, if any was. -/
  recordedStage : Option Stage := none
  /-- Whether it is hidden from listings. -/
  archived : Bool := false
deriving DecidableEq, Repr

namespace Assignment

/-- A new assignment, whose stage is the first one. -/
def issue (id templateId : String) (templateVersion : UInt32) (title : String)
    (assignedAt : Timestamp) : Assignment :=
  { id, templateId, templateVersion, title, assignedAt, recordedStage := some .assigned }

/-- The stage of the assignment; the first one if none was recorded. -/
def stage (assignment : Assignment) : Stage :=
  assignment.recordedStage.getD .assigned

end Assignment

end Questionnaire
