/-!
# Blank characters

The blanks are the 25 characters that Unicode calls white space. Text is trimmed of them at both
ends, and a text that has nothing else is blank. Letters are compared without regard to case for
the 26 letters of ASCII only.
-/

namespace Questionnaire

/-- Whether the character is white space in Unicode. -/
def isBlankChar (char : Char) : Bool :=
  let point := char.toNat
  (0x09 ≤ point && point ≤ 0x0D) || point == 0x20 || point == 0x85 || point == 0xA0 ||
    point == 0x1680 || (0x2000 ≤ point && point ≤ 0x200A) || point == 0x2028 || point == 0x2029 ||
    point == 0x202F || point == 0x205F || point == 0x3000

/-- The characters without the blanks in front. -/
def trimStart (chars : List Char) : List Char :=
  chars.dropWhile isBlankChar

/-- The characters without the blanks at the end. -/
def trimEnd (chars : List Char) : List Char :=
  (trimStart chars.reverse).reverse

/-- The characters without the blanks at both ends. -/
def trimChars (chars : List Char) : List Char :=
  trimEnd (trimStart chars)

/-- The text without the blanks at both ends. -/
def trim (text : String) : String :=
  String.ofList (trimChars text.toList)

/-- Whether the text has no character besides blanks. -/
def isBlankText (text : String) : Bool :=
  text.toList.all isBlankChar

/-- The text without blanks at its ends, unless nothing is left. -/
def trimmed? (text : Option String) : Option String :=
  (text.map trim).filter fun text => !text.isEmpty

/-- Whether two texts differ at most in the case of ASCII letters. -/
def sameIgnoringCase (left right : String) : Bool :=
  left.toList.map Char.toLower == right.toList.map Char.toLower

end Questionnaire
