import Questionnaire.KeyMap

/-!
# Answers of the flat intake form

Before questionnaires were graphs, the intake was a flat form, whose fields hold text, a list or the
entries of a grid. The steps and fields of the form are gated by predicates over these answers.
-/

namespace Questionnaire

/-- The value of one field of the form. -/
inductive FormValue where
  /-- Text or a single choice. -/
  | text (value : String)
  /-- Ticked choices or names of files. -/
  | list (items : List String)
  /-- The column chosen for each row of a grid. -/
  | record (entries : KeyMap String)
deriving DecidableEq, Repr

/-- The values of the form by field id. -/
abbrev FormAnswers := KeyMap FormValue

/-- The text, if the value is text. -/
def FormValue.text? : FormValue → Option String
  | text value => some value
  | _ => none

/-- Whether the value is a list that holds the item. -/
def FormValue.contains (value : FormValue) (item : String) : Bool :=
  match value with
  | list items => items.contains item
  | _ => false

/-- A predicate over the answers of the form. -/
inductive Gate where
  /-- The field has this text. -/
  | equals (field text : String)
  /-- The field is a list that holds this item. -/
  | contains (field item : String)
  /-- The field has a value. -/
  | present (field : String)
  /-- The predicate does not hold. -/
  | not (gate : Gate)
  /-- Some predicate holds. -/
  | any (gates : List Gate)
  /-- Every predicate holds. -/
  | all (gates : List Gate)

namespace Gate

mutual

/-- Whether the predicate holds of the answers. -/
def holds (answers : FormAnswers) : Gate → Bool
  | equals field text => (answers.get? field).bind FormValue.text? == some text
  | contains field item => (answers.get? field).any fun value => value.contains item
  | present field => (answers.get? field).isSome
  | not gate => !holds answers gate
  | any gates => someHolds answers gates
  | all gates => everyHolds answers gates

/-- Whether some predicate of the list holds. -/
def someHolds (answers : FormAnswers) : List Gate → Bool
  | [] => false
  | gate :: rest => holds answers gate || someHolds answers rest

/-- Whether every predicate of the list holds. -/
def everyHolds (answers : FormAnswers) : List Gate → Bool
  | [] => true
  | gate :: rest => holds answers gate && everyHolds answers rest

end

end Gate

end Questionnaire
