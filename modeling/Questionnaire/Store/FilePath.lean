/-!
# Paths

A path is a list of names that are followed one after the other. An empty name and a point stay in
the folder, two points lead to the folder above, and a path whose first name is empty starts at the
root instead of the working folder.
-/

namespace Questionnaire

/-- The greatest number of bytes in the name of a file or folder. -/
def nameLimit : Nat := 255

/-- The greatest number of bytes in the text of a path. -/
def pathLimit : Nat := 4095

/-- The names on a path, in order. -/
def pathNames (path : String) : List String :=
  (path.toList.splitOn '/').map String.ofList

/-- The path of a file in a folder. A slash at the end of the folder is used. -/
def pathIn (folder name : String) : String :=
  match folder.toList.getLast? with
  | none | some '/' => folder ++ name
  | some _ => folder ++ "/" ++ name

/-- Whether the text of a path is not too long. -/
def fitsPathLimit (names : List String) : Bool :=
  ("/".intercalate names).utf8ByteSize ≤ pathLimit

/-- Whether a name stays in its folder. -/
def staysInFolder (name : String) : Bool :=
  name.isEmpty || name == "."

/-- The names up to the last one that fails the test. -/
def dropLastWhile (test : String → Bool) (names : List String) : List String :=
  (names.reverse.dropWhile test).reverse

/-- The path of the folder above, in which names that stay in a folder do not count. -/
def folderAbove (names : List String) : List String :=
  dropLastWhile staysInFolder (dropLastWhile staysInFolder names).dropLast

theorem length_dropLastWhile_le (test : String → Bool) (names : List String) :
    (dropLastWhile test names).length ≤ names.length := by
  simpa [dropLastWhile] using (List.dropWhile_suffix test (l := names.reverse)).length_le

/-- The path of the folder above is shorter. -/
theorem length_folderAbove_lt {names : List String} (nonempty : names ≠ []) :
    (folderAbove names).length < names.length := by
  have positive := List.length_pos_iff.2 nonempty
  have outer := length_dropLastWhile_le staysInFolder (dropLastWhile staysInFolder names).dropLast
  have inner := length_dropLastWhile_le staysInFolder names
  rw [List.length_dropLast] at outer
  unfold folderAbove
  omega

end Questionnaire
