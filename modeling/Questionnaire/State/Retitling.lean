import Questionnaire.State.Basic
import Questionnaire.Title

/-!
# Clean titles

The titles of the firm's own templates and of all assignments are freed of the marks of a copy, and
stay unique among the templates and among the assignments.
-/

namespace Questionnaire

/-- Whether the title is to be cleaned; the titles that came with the product stay. -/
def Template.needsTitle (template : Template) : Bool :=
  template.createdBy == .attorney && hasCopyMark template.title

/-- The templates with clean titles, after whether any title changed. -/
def retitleTemplates (templates : List Template) : Bool × List Template :=
  let (changed, titles) := dedupe <| templates.map fun template =>
    (template.title, template.needsTitle)
  (changed, templates.zipWith (fun template title => { template with title }) titles)

/-- The assignments with clean titles, after whether any title changed. -/
def retitleAssignments (assignments : List Assignment) : Bool × List Assignment :=
  let (changed, titles) := dedupe <| assignments.map fun assignment =>
    (assignment.title, hasCopyMark assignment.title)
  (changed, assignments.zipWith (fun assignment title => { assignment with title }) titles)

namespace State

/-- The titles of the templates and of the assignments. -/
def titles (state : State) : List String × List String :=
  (state.templates.map Template.title, state.assignments.map Assignment.title)

/-- The state with clean titles, after whether any title changed. -/
def normalizeTitles (state : State) : Bool × State :=
  let (templatesChanged, templates) := retitleTemplates state.templates
  let (assignmentsChanged, assignments) := retitleAssignments state.assignments
  (templatesChanged || assignmentsChanged, { state with templates, assignments })

end State

end Questionnaire
