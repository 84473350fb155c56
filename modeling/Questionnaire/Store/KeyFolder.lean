import Questionnaire.Store.Backend
import Questionnaire.Store.FileName
import Questionnaire.Store.FileTree

/-!
# Keys in a folder

A folder keeps the text of each key in a file of its own. A text is written to the staging file of
the key, which then takes the place of the file, so that a file never holds a part of a text. The
folder is made when the first text is written.
-/

namespace Questionnaire

/-- The text in the file of a key, if there is one. -/
def FileTree.readKey (tree : FileTree) (folder key : String) :
    Except FileFailure (Option String) :=
  match tree.read (pathNames (pathIn folder (fileName key))) with
  | .ok text => .ok (some text)
  | .error .notFound => .ok none
  | .error failure => .error failure

/-- Puts a text into the file of a key by way of its staging file, which stays if it cannot take the
place of the file. -/
def FileAction.writeKey (folder key text : String) : FileAction Unit := do
  let staging := pathNames (pathIn folder (stagingName key))
  ensureFolders (pathNames folder)
  write staging text
  move staging (pathNames (pathIn folder (fileName key)))

/-- The names of the files in a folder, in order. -/
def FileTree.fileNamesIn (tree : FileTree) (folder : Place) : List String :=
  tree.entries.entries.filterMap fun (path, entry) =>
    match entry with
    | .folder => none
    | .file _ =>
      let names := pathNames path
      if names.dropLast = folder then names.getLast? else none

/-- The backend over the files in a folder. -/
def FileTree.backend (folder : String) : Backend (StateM FileTree) where
  read key := fun tree => ((tree.readKey folder key).mapError FileFailure.message, tree)
  write key text := do
    return (← (FileAction.writeKey folder key text).run).mapError FileFailure.message

end Questionnaire
