/-!
# Edges

An edge leads from one node to another and fires under a condition on the response to its source.
-/

namespace Questionnaire

/-- When an edge fires, depending on the response to its source. -/
inductive EdgeCondition where
  /-- In any case. -/
  | always
  /-- When the answer is yes. -/
  | yes
  /-- When the answer is no. -/
  | no
  /-- When the answer is this option. -/
  | choiceEquals (option : Option String)
  /-- When this option is among those chosen. -/
  | choiceContains (option : Option String)
  /-- When there is an answer. -/
  | answered
deriving DecidableEq, Repr

/-- A conditional connection from one node to another. -/
structure Edge where
  /-- The name of the edge. -/
  id : String
  /-- The id of the source. -/
  source : String
  /-- The id of the target. -/
  target : String
  /-- When the edge fires. -/
  condition : EdgeCondition := .always
deriving DecidableEq, Repr

/-- The name of a condition in documents. -/
def EdgeCondition.name : EdgeCondition → String
  | always => "always"
  | yes => "yes"
  | no => "no"
  | choiceEquals _ => "choice_equals"
  | choiceContains _ => "choice_contains"
  | answered => "exists"

/-- The edge that fires in any case, named after its ends. -/
def Edge.always (source target : String) : Edge where
  id := "edge-" ++ source ++ "-" ++ target
  source
  target

end Questionnaire
