import Questionnaire.Command.Help
import Questionnaire.Document.Report
import Questionnaire.Store.Basic
import Questionnaire.Store.KeyFolder

/-!
# Running the command line

A run prints lines, may print an error, and ends with an exit code: 0 when all is well, 1 when a
graph has defects or something fails, and 2 when the command line makes no sense. The store of the
command line has no catalog.
-/

namespace Questionnaire

/-- What a run leaves behind besides files. -/
structure Outcome where
  /-- The exit code. -/
  exitCode : UInt8 := 0
  /-- What is printed. -/
  output : String := ""
  /-- What is printed as an error. -/
  errors : String := ""
deriving DecidableEq, Repr

namespace Outcome

/-- The outcome of a run that printed lines. -/
def ofLines (lines : List String) : Outcome :=
  { output := String.join (lines.map fun line => line ++ "\n") }

/-- The outcome of a run that failed. -/
def failed (message : String) : Outcome :=
  { exitCode := 1, errors := "error: " ++ message ++ "\n" }

/-- The outcome of a digression. -/
def ofDigression : Digression → Outcome
  | .misuse => { exitCode := 2 }
  | .help topic => { output := topic.text }
  | .version => ofLines [programName ++ " " ++ programVersion]

/-- The outcome of the check of a graph. -/
def ofReport (report : ValidityReport) : Outcome :=
  let counts :=
    toString report.defects.length ++ " error(s), " ++ toString report.advice.length ++
      " warning(s)"
  let lines :=
    report.defects.map (fun defect => "error: " ++ defect.message) ++
      report.advice.map (fun advice => "warning: " ++ advice.message) ++ [counts]
  { ofLines lines with exitCode := if report.isValid then 0 else 1 }

end Outcome

/-- The line on the coverage of a label. -/
def LabelCoverage.line (coverage : LabelCoverage) : String :=
  padRight 24 coverage.label.displayName ++ " " ++
    padRight 8 (if coverage.covered then "covered" else "open") ++ " missing=" ++
    toString coverage.missing ++ " blocking=" ++ toString coverage.blocking

/-- The line on what a state holds. -/
def State.countLine (state : State) : String :=
  "schema version " ++ toString Questionnaire.schemaVersion.toNat ++ " (" ++
    toString state.templates.length ++ " templates, " ++ toString state.assignments.length ++
    " assignments, " ++ toString state.responses.length ++ " responses)"

/-- The files that a run reaches. -/
structure FileAccess (m : Type → Type) where
  /-- The text of the file at a path. -/
  read : String → m (Except FileFailure String)
  /-- The backend over the files in a folder. -/
  backend : String → Backend m

/-- The files of a tree. -/
def FileTree.access : FileAccess (StateM FileTree) where
  read path := fun tree => (tree.read (pathNames path), tree)
  backend := FileTree.backend

namespace Invocation

variable {m : Type → Type} [Monad m]

/-- The store that the command line works on. -/
def store (files : FileAccess m) (invocation : Invocation) : Store m where
  backend := files.backend invocation.folder
  config := { scope := invocation.scope }

/-- The outcome of the check of the text of a graph. -/
def checkText (invocation : Invocation) (text : String) : Outcome :=
  match (Json.parse? text).bind Graph.ofJson? with
  | none => .failed ("parsing " ++ invocation.subject ++ ": not a graph document")
  | some graph => .ofReport (graph.check (invocation.nodeLimit.getD defaultNodeLimit))

/-- Checks the graph in a file. -/
def validate (files : FileAccess m) (invocation : Invocation) : m Outcome := do
  match ← files.read invocation.subject with
  | .error failure =>
    return .failed ("reading " ++ invocation.subject ++ ": " ++ failure.message)
  | .ok text => return invocation.checkText text

/-- Loads the state and prints what an operation on it gives; nothing is written afterwards. -/
def report {α : Type} (store : Store m) (action : Action α) (lines : α → List String) :
    StoreAction m Outcome := do
  let (value, _) ← Store.onState (← store.load) action
  return .ofLines (lines value)

/-- Cleans the titles of the state as it is stored, or else as it is loaded. -/
def cleanTitles (store : Store m) : StoreAction m Outcome := do
  let stored ←
    match ← store.readStored with
    | some state => pure state
    | none => store.load
  let (changed, state) := stored.normalizeTitles
  if changed then
    store.save state
  return .ofLines [if changed then "titles updated" else "titles already unique"]

/-- The outcome of an operation on the store. -/
def finish (services : Services) (action : StoreAction m Outcome) : m Outcome := do
  match (← action.run services).1 with
  | .ok outcome => return outcome
  | .error error => return .failed error.message

/-- Does what the command line asks for. -/
def run (files : FileAccess m) (services : Services) (invocation : Invocation) : m Outcome :=
  let store := invocation.store files
  let subject := invocation.subject
  match invocation.verb with
  | .validate => invocation.validate files
  | .progress =>
    finish services <| report store (.assignmentProgress store.catalog subject) fun progress =>
      [progress.toJson.renderIndented]
  | .coverage =>
    finish services <| report store (.assignmentCoverage store.catalog subject) fun labels =>
      labels.map LabelCoverage.line
  | .migrate => finish services <| report store .state fun state => [state.countLine]
  | .normalizeTitles => finish services (cleanTitles store)

end Invocation

/-- Reads the words of a command line, and does what they ask for. -/
def runCommand {m : Type → Type} [Monad m] (files : FileAccess m) (services : Services)
    (words : List String) : m Outcome :=
  match Invocation.read words with
  | .error digression => return .ofDigression digression
  | .ok invocation => invocation.run files services

end Questionnaire
