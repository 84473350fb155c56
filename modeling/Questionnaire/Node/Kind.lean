/-!
# Kinds of nodes

The kind of a node says what the node does in a questionnaire, and its input type how a node that
asks something collects the answer.
-/

namespace Questionnaire

/-- How a node collects its answer. -/
inductive InputType where
  /-- One line of text. -/
  | text
  /-- Several lines of text. -/
  | textarea
  /-- An e-mail address. -/
  | email
  /-- A number. -/
  | number
  /-- A calendar date. -/
  | date
  /-- Yes or no. -/
  | yesNo
  /-- One option of several. -/
  | singleSelect
  /-- Any number of options. -/
  | multiSelect
  /-- One column for each row. -/
  | grid
  /-- Uploaded files. -/
  | fileUpload
deriving DecidableEq, Repr

/-- What a node does in a questionnaire. -/
inductive NodeKind where
  /-- The entry point. -/
  | start
  /-- The header of a section, a group of nodes shown together. -/
  | sectionHeader
  /-- A question to the client. -/
  | question
  /-- A question that branches, mostly yes or no. -/
  | decision
  /-- A request for uploaded documents. -/
  | docRequest
  /-- An internal piece of work. -/
  | task
  /-- A point where the attorney has to approve. -/
  | approvalGate
  /-- A reminder to follow up. -/
  | reminder
  /-- The exit point. -/
  | finish
  /-- An annotation. -/
  | note
deriving DecidableEq, Repr

namespace InputType

/-- Every input type. -/
def all : List InputType :=
  [text, textarea, email, number, date, yesNo, singleSelect, multiSelect, grid, fileUpload]

/-- The name of the input type in documents. -/
def name : InputType → String
  | text => "text"
  | textarea => "textarea"
  | email => "email"
  | number => "number"
  | date => "date"
  | yesNo => "yes_no"
  | singleSelect => "single_select"
  | multiSelect => "multi_select"
  | grid => "grid"
  | fileUpload => "file_upload"

end InputType

namespace NodeKind

/-- Every kind. -/
def all : List NodeKind :=
  [start, sectionHeader, question, decision, docRequest, task, approvalGate, reminder, finish, note]

/-- The name of the kind in documents. -/
def name : NodeKind → String
  | start => "start"
  | sectionHeader => "section"
  | question => "question"
  | decision => "decision"
  | docRequest => "doc_request"
  | task => "task"
  | approvalGate => "approval_gate"
  | reminder => "reminder"
  | finish => "end"
  | note => "note"

/-- Whether the kind shapes the questionnaire and asks for nothing: edges do not decide whether
such a node is visible, and it never counts towards progress. -/
def isStructural : NodeKind → Bool
  | start | sectionHeader | finish | note => true
  | _ => false

/-- Whether the client answers a node of this kind, which then has to carry a filing label. -/
def isAnswerable : NodeKind → Bool
  | question | docRequest | decision => true
  | _ => false

/-- Whether a node of this kind counts towards the size limit of a questionnaire. -/
def isWorkflow : NodeKind → Bool
  | question | docRequest | decision | task | approvalGate | reminder => true
  | _ => false

/-- Whether a node of this kind is ordered inside a section. -/
def isSectionItem (kind : NodeKind) : Bool :=
  kind.isWorkflow || kind == note

/-- Whether a node of this kind may not be removed. -/
def isProtected : NodeKind → Bool
  | start | finish => true
  | _ => false

/-- The title of a new node. -/
def defaultTitle : NodeKind → String
  | start => "Start"
  | sectionHeader => "Section"
  | question => "New question"
  | decision => "Decision"
  | docRequest => "Document request"
  | task => "Task"
  | approvalGate => "Approval gate"
  | reminder => "Reminder"
  | finish => "End"
  | note => "Note"

/-- The input type of a new node. -/
def defaultInputType : NodeKind → Option InputType
  | question => some .text
  | decision => some .yesNo
  | docRequest => some .fileUpload
  | _ => none

end NodeKind

end Questionnaire
