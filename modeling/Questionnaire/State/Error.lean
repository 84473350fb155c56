import Questionnaire.Graph.Validity
import Questionnaire.Stage

/-!
# Refused operations

Why an operation on the state, or an access to the store, is refused. An operation that needs a
version number past the last one of 32 bits is not refused by the program, which stops instead; here
this is one more reason, and so the state stays as it was.
-/

namespace Questionnaire

/-- Why an operation is refused. -/
inductive StoreError where
  /-- No template has the id. -/
  | templateNotFound (id : String)
  /-- No assignment has the id. -/
  | assignmentNotFound (id : String)
  /-- The template has no version with the number. -/
  | versionNotFound (templateId : String) (version : UInt32)
  /-- The title is blank. -/
  | emptyTitle
  /-- The graph has defects. -/
  | invalidGraph (report : ValidityReport)
  /-- The stage would move backwards. -/
  | downgrade (move : StageDowngrade)
  /-- The place where documents are kept failed. -/
  | persistence (reason : String)
  /-- The program stops: one past the highest version number is not a number of 32 bits. -/
  | numberOverflow
deriving DecidableEq, Repr

namespace StoreError

/-- The text of the refusal. -/
def message : StoreError → String
  | templateNotFound id => "template not found: " ++ id
  | assignmentNotFound id => "assignment not found: " ++ id
  | versionNotFound templateId version =>
    "template " ++ templateId ++ " has no version " ++ toString version.toNat
  | emptyTitle => "title must not be empty"
  | invalidGraph report => "graph failed validation: " ++ report.message
  | downgrade move => move.message
  | persistence reason => "persistence error: " ++ reason
  | numberOverflow => "attempt to add with overflow"

/-- Whether something that the caller named does not exist. -/
def isNotFound : StoreError → Bool
  | templateNotFound _ | assignmentNotFound _ | versionNotFound _ _ => true
  | _ => false

end StoreError

end Questionnaire
