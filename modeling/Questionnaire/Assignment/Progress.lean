import Questionnaire.Assignment.Basic
import Questionnaire.Graph.Visibility
import Questionnaire.Template.Basic

/-!
# Progress of assignments

The progress of an assignment counts the client steps that the client sees in the version it was
issued with, and how many of them a response completes. The stage that follows from the counts
never ranks below the stage recorded.
-/

namespace Questionnaire

/-- How much of an assignment is done. -/
structure Progress where
  /-- The client steps that the client sees. -/
  total : Nat
  /-- Those of them that a response completes. -/
  completed : Nat
  /-- The completed part in percent. -/
  percent : UInt8
  /-- The stage that follows. -/
  stage : Stage
deriving DecidableEq, Repr

/-- The byte that holds a number, if one does. -/
def byteOf? (number : Nat) : Option UInt8 :=
  if number < UInt8.size then some (.ofNat number) else none

/-- The part of a whole in percent, and 100 at most: half of the whole is added before the division.
The numbers are counts or machine words. -/
def cappedPercent {Number : Type} [Add Number] [Mul Number] [Div Number] [Min Number]
    [OfNat Number 2] [OfNat Number 100] (part whole : Number) : Number :=
  min ((part * 100 + whole / 2) / whole) 100

/-- The part of a whole in percent, a half rounded up; it is never more than 100. -/
def roundedPercent (part whole : Nat) : UInt8 :=
  (byteOf? (cappedPercent part whole)).getD 100

/-- The stage that follows from the counts alone. -/
def stageOfCounts (completed total : Nat) : Stage :=
  if total = 0 then .submitted
  else if completed = 0 then .assigned
  else if completed < total then .inProgress
  else .submitted

namespace Assignment

/-- The graph that the assignment was issued with, if its template still has that version. -/
def pinnedGraph? (assignment : Assignment) (template : Option Template) : Option Graph :=
  (template.bind fun template => template.version? assignment.templateVersion).map
    TemplateVersion.graph

/-- What the client of the assignment sees of a graph. -/
def view (assignment : Assignment) (graph : Graph) (responses : List Response)
    (catalog : Catalog) : View :=
  .ofResponses graph (.ofAssignment responses assignment.id) catalog

end Assignment

/-- The client steps that the client sees. -/
def View.clientSteps (view : View) : List Node :=
  view.graph.nodes.filter fun node => node.isClientStep && view.isVisible node

/-- The progress of an assignment. Without the graph that it was issued with, nothing is counted and
the stage stays as recorded. -/
def Assignment.progress (assignment : Assignment) (template : Option Template)
    (responses : List Response) (catalog : Catalog) : Progress :=
  match assignment.pinnedGraph? template with
  | none => { total := 0, completed := 0, percent := 0, stage := assignment.stage }
  | some graph =>
    let view := assignment.view graph responses catalog
    let steps := view.clientSteps
    let total := steps.length
    let completed := steps.countP fun node => view.responses.completes node.id
    { total
      completed
      percent := if total = 0 then 100 else roundedPercent completed total
      stage := (stageOfCounts completed total).max assignment.stage }

end Questionnaire
