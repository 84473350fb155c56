import Questionnaire.KeyMap
import Questionnaire.Store.FilePath

/-!
# Trees of files

A `FileTree` holds the files and folders that are known around the working folder. Paths are
followed from the working folder name by name, and every name has to be looked up in a folder. An
access that fails keeps what it did to the tree before it failed.
-/

namespace Questionnaire

/-- Why a file or folder cannot be used. -/
inductive FileFailure where
  /-- There is nothing at the path, or the path leads through a missing folder. -/
  | notFound
  /-- The path leads through a file. -/
  | notFolder
  /-- There is a folder at the path. -/
  | isFolder
  /-- There is something where a folder is to be made. -/
  | alreadyThere
  /-- The path or a name on it is too long. -/
  | nameTooLong
  /-- Any other reason. -/
  | other (text : String)
deriving DecidableEq, Repr

/-- The text of the reason. -/
def FileFailure.message : FileFailure → String
  | notFound => "No such file or directory (os error 2)"
  | notFolder => "Not a directory (os error 20)"
  | isFolder => "Is a directory (os error 21)"
  | alreadyThere => "File exists (os error 17)"
  | nameTooLong => "File name too long (os error 36)"
  | other text => text

/-- What lies at a place. -/
inductive FileEntry where
  /-- A folder. -/
  | folder
  /-- A file with its text. -/
  | file (text : String)
deriving DecidableEq, Repr

/-- The names that lead to a place from the working folder. Above the working folder they are two
points each, and at the root a slash. -/
abbrev Place := List String

/-- The place of the folder above. -/
def Place.above (place : Place) : Place :=
  if place = ["/"] then place
  else if place.all (· == "..") then ".." :: place
  else place.dropLast

/-- The text of a place. -/
def Place.text (place : Place) : String :=
  "/".intercalate place

/-- The files and folders by the text of their place. -/
structure FileTree where
  /-- What lies at each place. The working folder and those above it are not listed. -/
  entries : KeyMap FileEntry := KeyMap.empty

namespace FileTree

/-- What lies at a place. -/
def entryAt? (tree : FileTree) (place : Place) : Option FileEntry :=
  if place.all fun name => name == ".." || name == "/" then some .folder
  else tree.entries.get? (Place.text place)

/-- The tree with an entry at a place, instead of what was there. -/
def put (tree : FileTree) (place : Place) (entry : FileEntry) : FileTree where
  entries := tree.entries.insert (Place.text place) entry

/-- The tree without the entry at a place. -/
def remove (tree : FileTree) (place : Place) : FileTree where
  entries := tree.entries.erase (Place.text place)

/-- The place to which a name leads. -/
def enter (tree : FileTree) (place : Place) (name : String) : Except FileFailure Place :=
  match tree.entryAt? place with
  | none => .error .notFound
  | some (.file _) => .error .notFolder
  | some .folder =>
    if staysInFolder name then .ok place
    else if name = ".." then .ok (Place.above place)
    else if nameLimit < name.utf8ByteSize then .error .nameTooLong
    else .ok (place ++ [name])

/-- The place to which the names of a path lead. -/
def follow (tree : FileTree) (names : List String) : Except FileFailure Place :=
  if !fitsPathLimit names then .error .nameTooLong
  else
    match names with
    | "" :: rest => rest.foldlM tree.enter ["/"]
    | names => names.foldlM tree.enter []

/-- Whether a path leads to a folder. -/
def isFolder (tree : FileTree) (names : List String) : Bool :=
  match tree.follow names with
  | .ok place => tree.entryAt? place == some .folder
  | .error _ => false

/-- The text of the file at a path. -/
def read (tree : FileTree) (names : List String) : Except FileFailure String := do
  match tree.entryAt? (← tree.follow names) with
  | some (.file text) => return text
  | some .folder => throw .isFolder
  | none => throw .notFound

end FileTree

/-- An access that may change the tree, also when it fails. -/
abbrev FileAction (α : Type) := ExceptT FileFailure (StateM FileTree) α

namespace FileAction

/-- The place to which a path leads now. -/
def follow (names : List String) : FileAction Place := do
  ExceptT.mk (return (← get).follow names)

/-- Makes a folder in a folder that is there. Slashes at the end of the path do not count. -/
def makeFolder (names : List String) : FileAction Unit := do
  if !fitsPathLimit names then throw .nameTooLong
  let place ← follow (dropLastWhile String.isEmpty names)
  if ((← get).entryAt? place).isSome then throw .alreadyThere
  modify (·.put place .folder)

/-- Makes a folder, unless it is there. -/
def ensureFolder (names : List String) : FileAction Unit :=
  tryCatch (makeFolder names) fun failure => do
    if (← get).isFolder names then return
    throw failure

/-- Makes a folder, unless it is there, and before it the folders above it that are missing. -/
def ensureFolders (names : List String) : FileAction Unit :=
  if names = [] then return
  else
    tryCatch (ensureFolder names) fun failure => do
      if failure ≠ .notFound then throw failure
      ensureFolders (folderAbove names)
      ensureFolder names
termination_by names.length
decreasing_by exact length_folderAbove_lt ‹_›

/-- Writes the text of a file, in a folder that is there. -/
def write (names : List String) (text : String) : FileAction Unit := do
  let place ← follow names
  if (← get).entryAt? place = some .folder then throw .isFolder
  modify (·.put place (.file text))

/-- Moves a file to another path, in place of a file that is there. -/
def move (source target : List String) : FileAction Unit := do
  let sourcePlace ← follow source
  let targetPlace ← follow target
  let tree ← get
  match tree.entryAt? sourcePlace, tree.entryAt? targetPlace with
  | none, _ => throw .notFound
  | some .folder, _ => throw .isFolder
  | _, some .folder => throw .isFolder
  | some entry, _ => set ((tree.remove sourcePlace).put targetPlace entry)

/-- Writes the text of a file, in folders that are made if they are missing. -/
def place (names : List String) (text : String) : FileAction Unit := do
  ensureFolders (folderAbove names)
  write names text

end FileAction

end Questionnaire
