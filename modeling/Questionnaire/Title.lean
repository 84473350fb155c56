import Questionnaire.Text.Blank

/-!
# Titles

A copy used to be titled `Copy of X` or `X (Copy)`. `stripCopyMarks` takes such marks off a title,
however they are stacked, and `uniqueTitle` tells titles apart by a number in brackets.
`dedupe` does both for the titles of a collection that are to be cleaned, and tells whether any of
them changed; the other titles keep precedence.
-/

namespace Questionnaire

/-- Whether the characters begin with a text, without regard to the case of ASCII letters. -/
def beginsWith (text chars : List Char) : Bool :=
  (chars.take text.length).map Char.toLower == text.map Char.toLower

/-- The words in front of the title of a copy. -/
def copyWords : List Char := ['C', 'o', 'p', 'y', ' ', 'o', 'f']

/-- The bracket at the end of the title of a copy. -/
def copyBracket : List Char := ['(', 'C', 'o', 'p', 'y', ')']

/-- What follows the copy words and the blanks after them, if the characters begin so. -/
def afterCopyWords? (chars : List Char) : Option (List Char) :=
  let rest := chars.drop copyWords.length
  if beginsWith copyWords chars ∧ rest.head?.any isBlankChar then some (trimStart rest) else none

/-- What stands before the copy bracket and the blanks around it, if the characters end so. -/
def beforeCopyBracket? (chars : List Char) : Option (List Char) :=
  let reversed := (trimEnd chars).reverse
  if beginsWith copyBracket.reverse reversed then
    some (trimEnd (reversed.drop copyBracket.length).reverse)
  else none

/-- Whether the title carries a mark of a copy. -/
def hasCopyMark (title : String) : Bool :=
  let chars := trimChars title.toList
  (afterCopyWords? chars).isSome || (beforeCopyBracket? chars).isSome

/-- The characters without one mark of a copy at each end. -/
def stripCopyMarksOnce (chars : List Char) : List Char :=
  let chars := (afterCopyWords? chars).getD chars
  trimChars ((beforeCopyBracket? chars).getD chars)

/-- The characters without any mark of a copy. -/
def stripCopyMarkChars (chars : List Char) : List Char :=
  let next := stripCopyMarksOnce chars
  if next.length < chars.length then stripCopyMarkChars next else chars
termination_by chars.length

/-- The title without any mark of a copy and without blanks at its ends. -/
def stripCopyMarks (title : String) : String :=
  String.ofList (stripCopyMarkChars (trimChars title.toList))

/-- The title with a number in brackets. -/
def numberedTitle (base : String) (number : Nat) : String :=
  base ++ " (" ++ toString number ++ ")"

/-- The trimmed title, or a stand-in if it is blank. -/
def titleBase (title : String) : String :=
  if isBlankText title then "Untitled" else trim title

/-- The trimmed title if it is free, and else the title with the least number from 2 on that is.
There are more numbers to try than titles taken, so one of them is free. -/
def uniqueTitle (title : String) (taken : List String) : String :=
  let base := titleBase title
  if taken.contains base then
    (((List.range' 2 (taken.length + 1)).map (numberedTitle base)).find? fun candidate =>
      !taken.contains candidate).getD base
  else base

/-- The titles, of which those marked are cleaned and made unique one after the other, after whether
any of them changed, or a title before them did. -/
def renamePass (taken : List String) (changed : Bool) : List (String × Bool) → Bool × List String
  | [] => (changed, [])
  | (title, false) :: rest =>
    let (changed, titles) := renamePass taken changed rest
    (changed, title :: titles)
  | (title, true) :: rest =>
    let unique := uniqueTitle (stripCopyMarks title) taken
    let (changed, titles) := renamePass (unique :: taken) (changed || title != unique) rest
    (changed, unique :: titles)

/-- The titles, of which those marked are cleaned and made unique, after whether any of them
changed; the titles that are not marked are taken from the start. -/
def dedupe (titles : List (String × Bool)) : Bool × List String :=
  renamePass ((titles.filter fun title => !title.2).map (·.1)) false titles

end Questionnaire
