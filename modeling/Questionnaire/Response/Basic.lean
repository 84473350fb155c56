import Questionnaire.Response.Answer

/-!
# Responses

A response is what an assignment holds for one node: an answer, a record that the node was skipped,
or both. It completes the node when the answer is meaningful or the node was skipped. The
evaluators read responses through an index by node id, in which a later response replaces an
earlier one.
-/

namespace Questionnaire

/-- Who skipped a node. -/
inductive SkipActor where
  /-- The client. -/
  | client
  /-- The attorney. -/
  | attorney
deriving DecidableEq, Repr

/-- The record that a node was skipped. -/
structure Skip where
  /-- Why it was skipped. -/
  reason : String
  /-- Who skipped it. -/
  actor : SkipActor
  /-- When it was skipped. -/
  moment : Timestamp
deriving DecidableEq, Repr

/-- What an assignment holds for one node. -/
structure Response where
  /-- The assignment. -/
  assignmentId : String
  /-- The node. -/
  nodeId : String
  /-- The answer, if there is one. -/
  answer : Option Answer := none
  /-- The record of a skip, if the node was skipped. -/
  skip : Option Skip := none
  /-- When the response was written last. -/
  updatedAt : Timestamp
deriving DecidableEq, Repr

/-- Every actor that may skip a node. -/
def SkipActor.all : List SkipActor :=
  [client, attorney]

/-- The name of the actor in documents. -/
def SkipActor.name : SkipActor → String
  | client => "client"
  | attorney => "attorney"

namespace Response

/-- Whether the response has an answer that says something. -/
def isMeaningful (response : Response) : Bool :=
  response.answer.any Answer.isMeaningful

/-- Whether the response completes its node. -/
def isComplete (response : Response) : Bool :=
  response.skip.isSome || response.isMeaningful

end Response

/-- Responses by the node that they belong to. -/
abbrev ResponseIndex := KeyMap Response

namespace ResponseIndex

/-- The index of a list of responses; a later one replaces an earlier one of the same node. -/
def ofList (responses : List Response) : ResponseIndex :=
  KeyMap.ofList (responses.map fun response => (response.nodeId, response))

/-- The index of the responses of one assignment. -/
def ofAssignment (responses : List Response) (assignmentId : String) : ResponseIndex :=
  ofList (responses.filter fun response => response.assignmentId == assignmentId)

/-- Whether the node has a response that completes it. -/
def completes (index : ResponseIndex) (nodeId : String) : Bool :=
  (index.get? nodeId).any Response.isComplete

end ResponseIndex

end Questionnaire
