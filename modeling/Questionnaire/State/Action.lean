import Questionnaire.State.Basic
import Questionnaire.State.Error

/-!
# Operations on the state

An operation reads and changes the state of a session, may ask for the time and for new ids, and
reports events. One that is refused keeps whatever it did before the refusal; that none of them does
anything before it may be refused is a fact about the operations.

The clock stands still during an operation: one that asks for the time twice, as a file that moves
from node to node makes it do, gets the same time, and so does a change to a store with the load
before it.
-/

namespace Questionnaire

/-- Something worth recording. -/
inductive Event where
  /-- A template was created or copied. -/
  | templateCreated (templateId : String)
  /-- A version of a template was published. -/
  | templatePublished (templateId : String) (version : UInt32)
  /-- A version of a template was issued. -/
  | assignmentCreated (assignmentId templateId : String) (templateVersion : UInt32)
  /-- An assignment moved to another stage. -/
  | stageChanged (assignmentId : String) (previous next : Stage)
  /-- The state was rebuilt, with or without a document of the first schema, to so many templates.
  -/
  | stateMigrated (archivedV1 : Bool) (templates : Nat)
deriving DecidableEq, Repr

/-- What an operation may ask for besides the state. -/
structure Services where
  /-- The time. -/
  now : Timestamp
  /-- The text of the id with a number; ids are counted from one. -/
  idText : Nat → String := toString
  /-- How many ids have been handed out. -/
  minted : Nat := 0
  /-- The events reported, oldest first. -/
  events : List Event := []

/-- The next id of a kind, such as `assign-7`. -/
def Services.nextId (services : Services) (kind : String) : String :=
  kind ++ "-" ++ services.idText (services.minted + 1)

/-- The services after an event was reported. -/
def Services.report (services : Services) (event : Event) : Services :=
  { services with events := services.events ++ [event] }

/-- A state with the services that operations on it use. -/
structure Session where
  /-- The state. -/
  state : State
  /-- The services. -/
  services : Services

/-- An operation on the state of a session, which may be refused. -/
abbrev Action := ExceptT StoreError (StateM Session)

namespace Action

/-- The state. -/
def state : Action State :=
  return (← get).state

/-- Changes the state. -/
def modifyState (change : State → State) : Action Unit :=
  modify fun session => { session with state := change session.state }

/-- The time. -/
def now : Action Timestamp :=
  return (← get).services.now

/-- A new id of a kind. -/
def mint (kind : String) : Action String := do
  let services := (← get).services
  modify fun session => { session with services := { services with minted := services.minted + 1 } }
  return services.nextId kind

/-- Reports an event. -/
def emit (event : Event) : Action Unit :=
  modify fun session => { session with services := session.services.report event }

/-- The template with the id, or a refusal. -/
def template (id : String) : Action Template := do
  match (← state).template? id with
  | some template => return template
  | none => throw (.templateNotFound id)

/-- The assignment with the id, or a refusal. -/
def assignment (id : String) : Action Assignment := do
  match (← state).assignment? id with
  | some assignment => return assignment
  | none => throw (.assignmentNotFound id)

/-- Puts a template in place of the first one with its id. -/
def setTemplate (template : Template) : Action Unit :=
  modifyState fun state =>
    { state with
      templates :=
        modifyFirst (fun other => other.id == template.id) (fun _ => template) state.templates }

/-- Puts an assignment in place of the first one with its id. -/
def setAssignment (assignment : Assignment) : Action Unit :=
  modifyState fun state =>
    { state with
      assignments :=
        modifyFirst (fun other => other.id == assignment.id) (fun _ => assignment)
          state.assignments }

end Action

end Questionnaire
