import Questionnaire.KeyMap
import Questionnaire.Numeric.Binary64
import Questionnaire.Text.Blank
import Questionnaire.Time.Timestamp

/-!
# Answers

An answer is what a client gives to one node. It counts as meaningful when it says something: text
other than blanks, any number or truth value, or a list, a set of files or a grid with at least one
entry.
-/

namespace Questionnaire

/-- What is known of one uploaded file. -/
structure UploadedFile where
  /-- The name by which the file is referred to. -/
  id : String
  /-- The name that the file was uploaded under. -/
  name : String
  /-- When it was uploaded, if that is known. -/
  uploadedAt : Option Timestamp := none
  /-- The media type, if that is known. -/
  mimeType : Option String := none
  /-- The size in bytes, if that is known. -/
  sizeBytes : Option UInt64 := none
  /-- Where the contents are kept. -/
  blobKey : Option String := none
deriving DecidableEq, Repr

/-- What a client gives to one node. -/
inductive Answer where
  /-- Text, a single choice, or yes or no in words. -/
  | text (value : String)
  /-- A number. -/
  | number (value : Binary64)
  /-- Yes or no. -/
  | bool (value : Bool)
  /-- Several choices. -/
  | list (items : List String)
  /-- Uploaded files. -/
  | files (uploads : List UploadedFile)
  /-- The column chosen for each row of a grid. -/
  | record (entries : KeyMap String)
deriving DecidableEq, Repr

namespace Answer

/-- Whether the answer says something. -/
def isMeaningful : Answer → Bool
  | text value => !isBlankText value
  | number _ | bool _ => true
  | list items => !items.isEmpty
  | files uploads => !uploads.isEmpty
  | record entries => !entries.isEmpty

/-- Whether the answer is true or the word yes, in any case and with blanks around it. -/
def isYes : Answer → Bool
  | bool value => value
  | text value => sameIgnoringCase (trim value) "yes"
  | _ => false

/-- Whether the answer is false or the word no, in any case and with blanks around it. -/
def isNo : Answer → Bool
  | bool value => !value
  | text value => sameIgnoringCase (trim value) "no"
  | _ => false

/-- The uploaded files; an answer of another shape has none. -/
def fileList : Answer → List UploadedFile
  | files uploads => uploads
  | _ => []

end Answer

/-- The uploaded files of an answer, if there is one. -/
def filesOf (answer : Option Answer) : List UploadedFile :=
  (answer.map Answer.fileList).getD []

end Questionnaire
