import Questionnaire.Assignment.Progress

/-!
# Coverage of filing labels

The coverage of an assignment says for each filing label whether the client steps that feed it are
complete. The steps that count are those that the client answers, that carry a label and that the
client sees. A filing-critical label that no step feeds is a gap of its own.
-/

namespace Questionnaire

/-- How far a filing label is covered. -/
structure LabelCoverage where
  /-- The label. -/
  label : Label
  /-- Whether nothing is missing. -/
  covered : Bool
  /-- The steps that are not complete; one for a critical label that no step feeds. -/
  missing : Nat
  /-- Those of them that are required or block the workflow. -/
  blocking : Nat
deriving DecidableEq, Repr

namespace LabelCoverage

/-- The coverage of a label when there is nothing to judge it by. -/
def unknown (label : Label) : LabelCoverage :=
  { label, covered := false, missing := 0, blocking := 0 }

/-- The coverage of a label that no step feeds. -/
def untracked (label : Label) : LabelCoverage :=
  { label
    covered := !label.isCritical
    missing := if label.isCritical then 1 else 0
    blocking := 0 }

/-- The coverage of a label by the steps that feed it. -/
def ofSteps (label : Label) (steps : List Node) (responses : ResponseIndex) : LabelCoverage :=
  let missing := steps.filter fun node => !responses.completes node.id
  { label
    covered := missing.isEmpty
    missing := missing.length
    blocking := missing.countP fun node => node.required || node.blocksWorkflow }

end LabelCoverage

/-- The steps that count towards the coverage of labels. -/
def View.trackedSteps (view : View) : List Node :=
  view.graph.nodes.filter fun node =>
    node.kind.isAnswerable && !node.labels.isEmpty && view.isVisible node

/-- The coverage of a label in a view. -/
def View.coverage (view : View) (label : Label) : LabelCoverage :=
  match view.trackedSteps.filter fun node => node.labels.contains label with
  | [] => .untracked label
  | steps => .ofSteps label steps view.responses

/-- The coverage of every label, in order. Without an assignment, or the graph that it was issued
with, no label is covered and nothing is missing. -/
def coverage (template : Option Template) (assignment : Option Assignment)
    (responses : List Response) (catalog : Catalog) : List LabelCoverage :=
  match assignment with
  | none => Label.all.map .unknown
  | some assignment =>
    match assignment.pinnedGraph? template with
    | none => Label.all.map .unknown
    | some graph => Label.all.map (assignment.view graph responses catalog).coverage

end Questionnaire
