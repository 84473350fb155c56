import Questionnaire.Response.Answer

/-!
# Files of answers

Files are added to an answer, removed from it and moved between answers by their ids. A file
without an id is never kept by an addition, and of two files with one id the earlier one stays.
Removing the last file leaves no answer at all.
-/

namespace Questionnaire

/-- Adds a file at the end unless it has no id or one that is there already. -/
def keepNew (kept : List UploadedFile) (file : UploadedFile) : List UploadedFile :=
  if file.id.isEmpty || kept.any (fun other => other.id == file.id) then kept else kept ++ [file]

/-- The files of an answer followed by further files, each id once. -/
def appendFiles (answer : Option Answer) (incoming : List UploadedFile) : Answer :=
  .files ((filesOf answer ++ incoming).foldl keepNew [])

/-- The answer without the files of these ids. An answer without files, and one from which no id is
to be removed, stays as it is. -/
def removeFiles (answer : Option Answer) (ids : List String) : Option Answer :=
  let removing := ids.filter fun id => !id.isEmpty
  if (filesOf answer).isEmpty || removing.isEmpty then answer
  else
    match (filesOf answer).filter fun file => !removing.contains file.id with
    | [] => none
    | remaining => some (.files remaining)

/-- Two answers after a move of a file from the first to the second. -/
structure FileMove where
  /-- The answer that the file was in. -/
  source : Option Answer
  /-- The answer that the file goes to. -/
  target : Option Answer
  /-- The file that was moved, if the source had it. -/
  moved : Option UploadedFile
deriving DecidableEq, Repr

/-- Moves the first file with the id from one answer to another, if there is one. -/
def moveFile (source target : Option Answer) (id : String) : FileMove :=
  match (filesOf source).find? fun file => file.id == id with
  | some file =>
    { source := removeFiles source [id]
      target := some (appendFiles target [file])
      moved := some file }
  | none => { source, target, moved := none }

end Questionnaire
