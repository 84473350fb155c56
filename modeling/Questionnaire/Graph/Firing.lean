import Questionnaire.Graph.Basic
import Questionnaire.Response.Basic

/-!
# Firing of edges

An unconditional edge always fires. Every other edge needs a response to its source, and an answer
in it that fits the condition; a skip alone fires nothing.
-/

namespace Questionnaire

/-- Whether a condition holds for the response to the source of an edge. -/
def EdgeCondition.fires (condition : EdgeCondition) (response : Option Response) : Bool :=
  match condition, response with
  | always, _ => true
  | _, none => false
  | yes, some response => response.answer.any Answer.isYes
  | no, some response => response.answer.any Answer.isNo
  | answered, some response => response.isMeaningful
  | choiceEquals option, some response =>
    match response.answer, option with
    | some (.text value), some option => value == option
    | _, _ => false
  | choiceContains option, some response =>
    match response.answer, option with
    | some (.list items), some option => !option.isEmpty && items.contains option
    | _, _ => false

/-- Whether an edge fires for the responses. -/
def Edge.fires (responses : ResponseIndex) (edge : Edge) : Bool :=
  edge.condition.fires (responses.get? edge.source)

/-- The targets of the edges that leave a node and fire, in edge order. -/
def nextNodeIds (edges : List Edge) (responses : ResponseIndex) (source : String) : List String :=
  (edges.filter fun edge => edge.source == source && edge.fires responses).map Edge.target

end Questionnaire
