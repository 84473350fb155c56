import Questionnaire.Form.Answers
import Questionnaire.Node.Basic

/-!
# The catalog of the flat intake form

The catalog lists the steps of the form and the fields of each step. Steps and fields are shown or
hidden by a predicate over all answers. Look-ups take the first step, or the first field of a step,
with the id.
-/

namespace Questionnaire

/-- The input of a field of the form. -/
inductive FieldKind where
  /-- One line of text. -/
  | text
  /-- Several lines of text. -/
  | textarea
  /-- An e-mail address. -/
  | email
  /-- A date. -/
  | date
  /-- One option, all of them shown. -/
  | radio
  /-- Any number of options. -/
  | checkbox
  /-- One option of a list. -/
  | select
  /-- Rows and columns. -/
  | grid
  /-- Uploaded files. -/
  | file
deriving DecidableEq, Repr

/-- Every kind of field. -/
def FieldKind.all : List FieldKind :=
  [text, textarea, email, date, radio, checkbox, select, grid, file]

/-- The name of the kind of field in documents. -/
def FieldKind.name : FieldKind → String
  | text => "text"
  | textarea => "textarea"
  | email => "email"
  | date => "date"
  | radio => "radio"
  | checkbox => "checkbox"
  | select => "select"
  | grid => "grid"
  | file => "file"

/-- One field of a step of the form. -/
structure FormField where
  /-- The key of the field's value among the answers. -/
  id : String
  /-- The input. -/
  kind : FieldKind
  /-- The question. -/
  label : String
  /-- Whether the field has to be answered. -/
  required : Bool := false
  /-- Help for the client. -/
  helper : Option String := none
  /-- The hint inside an empty input. -/
  placeholder : Option String := none
  /-- Why the question is asked. -/
  whyWeAsk : Option String := none
  /-- The options of a choice. -/
  options : List Choice := []
  /-- The rows of a grid. -/
  rows : List Choice := []
  /-- The columns of a grid. -/
  columns : List Choice := []
  /-- Whether the field is shown for the answers. -/
  isShown : FormAnswers → Bool := fun _ => true

/-- One step of the form. -/
structure FormStep where
  /-- The name of the step. -/
  id : String
  /-- The title. -/
  title : String
  /-- What the step is about. -/
  description : Option String := none
  /-- The fields, in display order. -/
  fields : List FormField := []
  /-- Whether the step is shown for the answers. -/
  isShown : FormAnswers → Bool := fun _ => true

/-- The steps of the form, in display order. -/
abbrev Catalog := List FormStep

/-- The first field of the step with the id. -/
def FormStep.field? (step : FormStep) (id : String) : Option FormField :=
  step.fields.find? fun field => field.id == id

/-- The first step of the catalog with the id. -/
def Catalog.step? (catalog : Catalog) (id : String) : Option FormStep :=
  catalog.find? fun step => step.id == id

end Questionnaire
