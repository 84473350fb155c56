/-!
# Stages

The stage of an assignment says how far it has come. Stages are ordered by rank, and an assignment
only ever moves to a stage of the same or a higher rank.
-/

namespace Questionnaire

/-- How far an assignment has come. -/
inductive Stage where
  /-- Issued, and nothing answered. -/
  | assigned
  /-- Answered in part. -/
  | inProgress
  /-- Everything that the client sees is answered or skipped. -/
  | submitted
  /-- The attorney has been asked for a review. -/
  | needsReview
  /-- The attorney approved. -/
  | approved
  /-- Finished. -/
  | closed
deriving DecidableEq, Repr

/-- How far an assignment of the flat intake form had come. -/
inductive FormStatus where
  /-- Not begun. -/
  | assigned
  /-- Begun. -/
  | inProgress
  /-- Finished by the client. -/
  | completed
deriving DecidableEq, Repr

namespace Stage

/-- Every stage, by rank. -/
def all : List Stage :=
  [assigned, inProgress, submitted, needsReview, approved, closed]

/-- The place of the stage in the order. -/
def rank : Stage → Nat
  | assigned => 0
  | inProgress => 1
  | submitted => 2
  | needsReview => 3
  | approved => 4
  | closed => 5

/-- Stages of one rank are the same. -/
theorem rank_injective {left right : Stage} (same : left.rank = right.rank) : left = right := by
  cases left <;> cases right <;> first | rfl | contradiction

/-- The name of the stage in documents. -/
def name : Stage → String
  | assigned => "assigned"
  | inProgress => "in_progress"
  | submitted => "submitted"
  | needsReview => "needs_review"
  | approved => "approved"
  | closed => "closed"

/-- The name of the stage for people. -/
def label : Stage → String
  | assigned => "assigned"
  | inProgress => "in progress"
  | submitted => "submitted"
  | needsReview => "needs review"
  | approved => "approved"
  | closed => "closed"

/-- The stage of the higher rank; the first one if they are the same. -/
def max (left right : Stage) : Stage :=
  if left.rank < right.rank then right else left

/-- The stages after this one. -/
def later (stage : Stage) : List Stage :=
  all.filter fun next => stage.rank < next.rank

end Stage

namespace FormStatus

/-- Every status, in order. -/
def all : List FormStatus :=
  [assigned, inProgress, completed]

/-- The name of the status in documents. -/
def name : FormStatus → String
  | assigned => "assigned"
  | inProgress => "in_progress"
  | completed => "completed"

/-- The stage that the status stands for. -/
def toStage : FormStatus → Stage
  | assigned => .assigned
  | inProgress => .inProgress
  | completed => .submitted

end FormStatus

/-- A move to a stage of a lower rank, which is refused. -/
structure StageDowngrade where
  /-- The stage that the assignment is in. -/
  current : Stage
  /-- The stage that was asked for. -/
  requested : Stage
deriving DecidableEq, Repr

/-- The text of the refusal. -/
def StageDowngrade.message (downgrade : StageDowngrade) : String :=
  "stage cannot move backwards from " ++ downgrade.current.name ++ " to " ++
    downgrade.requested.name

/-- Allows a move to a stage of the same or a higher rank. -/
def Stage.checkMove (current requested : Stage) : Except StageDowngrade Unit :=
  if current.rank ≤ requested.rank then .ok () else .error { current, requested }

end Questionnaire
