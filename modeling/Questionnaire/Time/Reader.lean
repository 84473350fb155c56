import Questionnaire.Text.Blank
import Questionnaire.Time.Timestamp

/-!
# Reading timestamps

Moments are written in two forms. The lenient form allows blanks before numbers and around marks,
numbers without leading zeros, a signed year of any length, and an offset `Z`, `UTC`, `+hh:mm` or
`+hhmm`. The strict form has a fixed number of digits everywhere and an offset `Z` or `+hh:mm`. Both
need the seconds and the offset, keep a second number 60, and drop fraction digits beyond the ninth.

Upload times are read in the strict form or as a bare date, which stands for its first moment.
-/

namespace Questionnaire

-- Powers are those of the core library, whatever other powers are known.
attribute [local instance (10000)] instPowNat

/-- A reader of the front of a text, which may fail. -/
abbrev Scan := StateT (List Char) Option

namespace Scan

/-- Takes characters while the test holds. -/
def takeWhile (test : Char → Bool) : Scan (List Char) := fun input =>
  some (input.takeWhile test, input.dropWhile test)

/-- Skips blanks. -/
def blanks : Scan Unit := fun input =>
  some ((), trimStart input)

/-- Takes one character that passes the test. -/
def satisfy (test : Char → Bool) : Scan Char
  | [] => none
  | first :: rest => if test first then some (first, rest) else none

/-- Takes a given character. -/
def char (expected : Char) : Scan Unit := do
  let _ ← satisfy (· == expected)

/-- The number of a run of decimal digits. -/
def digitsValue (digits : List Char) : Nat :=
  digits.foldl (fun value digit => value * 10 + (digit.toNat - '0'.toNat)) 0

/-- Takes a number of at least `least` and at most `most` digits. -/
def number (least most : Nat) : Scan Nat := fun input =>
  let digits := (input.take most).takeWhile Char.isDigit
  if least ≤ digits.length then some (digitsValue digits, input.drop digits.length) else none

/-- Takes a number of any length from one digit on. -/
def anyNumber : Scan Nat := do
  let digits ← takeWhile Char.isDigit
  if digits = [] then failure else return digitsValue digits

/-- Takes a number of one or two digits, blanks before it allowed. -/
def shortNumber : Scan Nat := do
  blanks
  number 1 2

/-- Takes a year: up to four digits, or any number of digits after a sign. -/
def plainYear : Scan Int
  | '-' :: rest => (do return -((← anyNumber) : Int) : Scan Int) rest
  | '+' :: rest => (do return (← anyNumber) : Scan Int) rest
  | input => (do return (← number 1 4) : Scan Int) input

/-- Takes a year, blanks before it allowed. -/
def year : Scan Int := do
  blanks
  plainYear

/-- Takes a fraction of a second, if a point comes next; digits after the ninth are dropped. -/
def fraction : Scan Nat := do
  match ← get with
  | '.' :: rest =>
    set rest
    let digits ← takeWhile Char.isDigit
    if digits = [] then failure
    else
      let kept := digits.take 9
      return digitsValue kept * 10 ^ (9 - kept.length)
  | _ => return 0

/-- Takes the letter or the blank between a date and a time. -/
def dateEnd : Scan Unit := do
  let _ ← satisfy fun char => char == 'T' || char == 't' || char == ' '

/-- Takes a number of exactly two digits. -/
def twoDigits : Scan Nat :=
  number 2 2

/-- Takes an offset in minutes: `Z`, or a sign, hours, what `separator` takes, and minutes. -/
def offset (separator : Scan Unit) : Scan Int := do
  let sign ← satisfy fun char =>
    char == 'Z' || char == 'z' || char == '+' || char == '-' || char == '−'
  if sign = 'Z' ∨ sign = 'z' then return 0
  else
    let hours ← twoDigits
    separator
    let minutes ← twoDigits
    if hours < 24 ∧ minutes < 60 then
      let size : Int := 60 * hours + minutes
      return if sign = '+' then size else -size
    else failure

/-- Takes an offset of the lenient form. -/
def lenientOffset : Scan Int := do
  let input ← get
  if (input.take 3).map Char.toUpper = ['U', 'T', 'C'] then
    set (input.drop 3)
    return 0
  else
    offset do
      let _ ← takeWhile fun char => char == ':' || isBlankChar char

/-- The whole of a text that the reader takes, nothing being left over. -/
def whole? {α : Type} (scan : Scan α) (text : String) : Option α :=
  match scan.run text.toList with
  | some (value, []) => some value
  | _ => none

/-- Takes a date of the lenient form, blanks around its hyphens allowed. -/
def lenientDate : Scan Date := do
  let year ← year
  blanks
  char '-'
  let month ← shortNumber
  blanks
  char '-'
  let day ← shortNumber
  return { year, month, day }

/-- Takes a moment of the lenient form. -/
def lenientMoment : Scan Timestamp := do
  let date ← lenientDate
  dateEnd
  let hour ← shortNumber
  blanks
  char ':'
  let minute ← shortNumber
  blanks
  char ':'
  let second ← shortNumber
  let nanosecond ← fraction
  blanks
  let offset ← lenientOffset
  blanks
  Timestamp.ofParts? date hour minute second nanosecond offset

/-- Takes a moment of the strict form. -/
def strictMoment : Scan Timestamp := do
  let year ← number 4 4
  char '-'
  let month ← twoDigits
  char '-'
  let day ← twoDigits
  dateEnd
  let hour ← twoDigits
  char ':'
  let minute ← twoDigits
  char ':'
  let second ← twoDigits
  let nanosecond ← fraction
  let offset ← offset (char ':')
  Timestamp.ofParts? { year, month, day } hour minute second nanosecond offset

/-- Takes a bare date, blanks before its numbers allowed. -/
def bareDate : Scan Date := do
  let year ← year
  char '-'
  let month ← shortNumber
  char '-'
  let day ← shortNumber
  return { year, month, day }

end Scan

namespace Timestamp

/-- A moment in the lenient form. -/
def parse? (text : String) : Option Timestamp :=
  Scan.lenientMoment.whole? text

/-- A moment in the strict form. -/
def parseStrict? (text : String) : Option Timestamp :=
  Scan.strictMoment.whole? text

/-- The first moment of a bare date. -/
def parseDate? (text : String) : Option Timestamp :=
  (Scan.bareDate.whole? text).bind fun date =>
    if valid : date.isValid = true then some (ofDate date valid) else none

/-- The time of an upload: a moment in the strict form or a bare date, blanks around it allowed. -/
def parseUpload? (text : String) : Option Timestamp :=
  let text := trim text
  match parseStrict? text with
  | some moment => some moment
  | none => parseDate? text

/-- A moment in the lenient form, as a JSON string. -/
def ofJson? : Json → Option Timestamp
  | .text value => parse? value
  | _ => none

end Timestamp

end Questionnaire
