import Questionnaire.FirstMatch
import Questionnaire.Response.Basic

/-!
# Tables of responses

A state holds the responses of all assignments in one list, at most one for each assignment and
node. A look-up takes the first response of a key, and a write goes to that response, or to the end
if there is none.
-/

namespace Questionnaire

/-- Whether the response is the one of an assignment to a node. -/
def Response.isOf (assignmentId nodeId : String) (response : Response) : Bool :=
  response.assignmentId == assignmentId && response.nodeId == nodeId

/-- A response that is an answer only. -/
def Response.answered (assignmentId nodeId : String) (answer : Answer) (now : Timestamp) :
    Response :=
  { assignmentId, nodeId, answer := some answer, updatedAt := now }

/-- A response that is a skip only. -/
def Response.skipped (assignmentId nodeId : String) (skip : Skip) (now : Timestamp) : Response :=
  { assignmentId, nodeId, skip := some skip, updatedAt := now }

/-- The response with another answer, or none; an answer undoes a skip. -/
def Response.withAnswer (response : Response) (answer : Option Answer) (now : Timestamp) :
    Response :=
  { response with
    answer
    skip := if answer.isSome then none else response.skip
    updatedAt := now }

/-- The responses of all assignments, in the order of their first writes. -/
abbrev ResponseTable := List Response

namespace ResponseTable

/-- The response of an assignment to a node. -/
def find? (table : ResponseTable) (assignmentId nodeId : String) : Option Response :=
  List.find? (Response.isOf assignmentId nodeId) table

/-- The answer of an assignment to a node. -/
def answer? (table : ResponseTable) (assignmentId nodeId : String) : Option Answer :=
  (find? table assignmentId nodeId).bind Response.answer

/-- The responses of an assignment. -/
def ofAssignment (table : ResponseTable) (assignmentId : String) : ResponseTable :=
  table.filter fun response => response.assignmentId == assignmentId

/-- Puts a response in place of the one of its assignment and node, or at the end. -/
def put (response : Response) : ResponseTable → ResponseTable
  | [] => [response]
  | other :: rest =>
    if other.isOf response.assignmentId response.nodeId then response :: rest
    else other :: put response rest

/-- Gives an assignment another answer to a node, or none. Nothing is written where there is
neither a response nor an answer. -/
def putAnswer (table : ResponseTable) (assignmentId nodeId : String) (answer : Option Answer)
    (now : Timestamp) : ResponseTable :=
  match find? table assignmentId nodeId, answer with
  | some response, answer => put (response.withAnswer answer now) table
  | none, some answer => put (.answered assignmentId nodeId answer now) table
  | none, none => table

/-- The table without the responses of an assignment. -/
def clear (table : ResponseTable) (assignmentId : String) : ResponseTable :=
  table.filter fun response => response.assignmentId != assignmentId

end ResponseTable

end Questionnaire
