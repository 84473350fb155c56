import Questionnaire.Json.Basic
import Questionnaire.Numeric.Style

/-!
# Numbers in JSON texts

The grammar of a number is an optional minus, a whole part without leading zeros, an optional
fraction and an optional exponent. A number without fraction and exponent is an integer if it fits
64 bits; minus zero does not, since no integer carries its sign.

Every other number is read through a significand of at most 64 bits: digits that no longer fit are
dropped, those of the whole part raising the exponent, and the significand is then multiplied or
divided by a power of ten in binary64 arithmetic. A number beyond the range stands for no value.
-/

namespace Questionnaire

-- Powers are those of the core library, whatever other powers are known.
attribute [local instance (10000)] instPowNat

namespace Binary64

/-- The largest power of ten that binary64 holds is the one with this exponent. -/
def largestPower : Nat := 308

/-- The number divided by a power of ten within the range. -/
def divideByPower? (number : Binary64) (exponent : Nat) : Option Binary64 :=
  (ofNat? (10 ^ exponent)).bind number.div?

/-- The number divided by the largest power of ten as often as asked for; zero stays as it is. -/
def divideByLargest? : Nat → Binary64 → Option Binary64
  | 0, number => some number
  | times + 1, number =>
    if number.isZero then some number
    else (number.divideByPower? largestPower).bind (divideByLargest? times)

/-- The number times a power of ten, each step rounded, or `none` beyond the range. A divisor that
is itself beyond the range is split into largest powers and a rest. -/
def scaleByTen? (number : Binary64) (exponent : Int) : Option Binary64 :=
  let size := exponent.natAbs
  if 0 ≤ exponent then
    if size ≤ largestPower then (ofNat? (10 ^ size)).bind number.mul?
    else if number.isZero then some number
    else none
  else
    let times := (size - 1) / largestPower
    (divideByLargest? times number).bind fun quotient =>
      if quotient.isZero then some quotient
      else quotient.divideByPower? (size - times * largestPower)

end Binary64

namespace Json

/-- Digits gathered into a significand of at most 64 bits and a power of ten. -/
structure Scaled where
  /-- The digits that fit. -/
  significand : Nat
  /-- The power of ten of the last digit that fits. -/
  exponent : Int
  /-- Whether a digit of the present part has been dropped. -/
  full : Bool

/-- The value of a decimal digit. -/
def digitValue (digit : Char) : Nat :=
  digit.toNat - '0'.toNat

/-- Whether one more digit still fits 64 bits. -/
def Scaled.fits (gathered : Scaled) (digit : Char) : Bool :=
  !gathered.full && gathered.significand * 10 + digitValue digit < 2 ^ (64 : Nat)

/-- Gathers a digit of the whole part; one that does not fit raises the exponent. -/
def Scaled.pushWhole (gathered : Scaled) (digit : Char) : Scaled :=
  if gathered.fits digit then
    { gathered with significand := gathered.significand * 10 + digitValue digit }
  else { gathered with exponent := gathered.exponent + 1, full := true }

/-- Gathers a digit of the fraction; one that does not fit is dropped. -/
def Scaled.pushFraction (gathered : Scaled) (digit : Char) : Scaled :=
  if gathered.fits digit then
    { gathered with
      significand := gathered.significand * 10 + digitValue digit
      exponent := gathered.exponent - 1 }
  else { gathered with full := true }

/-- The parts of a number, as written. -/
structure NumberParts where
  /-- Whether a minus is in front. -/
  negative : Bool
  /-- The digits of the whole part. -/
  whole : List Char
  /-- The digits after the point, if there is one. -/
  fraction : Option (List Char)
  /-- The sign and the digits of the exponent, if there is one. -/
  exponent : Option (Bool × List Char)

/-- Splits off the leading digits. -/
def spanDigits (chars : List Char) : List Char × List Char :=
  (chars.takeWhile Char.isDigit, chars.dropWhile Char.isDigit)

/-- Reads an optional exponent, which ends the number. -/
def exponentPart? : List Char → Option (Option (Bool × List Char))
  | [] => some none
  | mark :: rest =>
    if mark = 'e' ∨ mark = 'E' then
      let (negative, digits) :=
        match rest with
        | '+' :: digits => (false, digits)
        | '-' :: digits => (true, digits)
        | digits => (false, digits)
      if digits ≠ [] ∧ digits.all Char.isDigit then some (some (negative, digits)) else none
    else none

/-- Reads an optional fraction and the exponent after it. -/
def fractionPart? : List Char → Option (Option (List Char) × Option (Bool × List Char))
  | '.' :: rest =>
    let (digits, rest) := spanDigits rest
    if digits = [] then none else (exponentPart? rest).map fun exponent => (some digits, exponent)
  | rest => (exponentPart? rest).map fun exponent => (none, exponent)

/-- Splits a number into its parts, or returns `none` if it breaks the grammar. -/
def NumberParts.ofChars? (chars : List Char) : Option NumberParts :=
  let (negative, unsigned) :=
    match chars with
    | '-' :: unsigned => (true, unsigned)
    | unsigned => (false, unsigned)
  let (whole, rest) := spanDigits unsigned
  if whole = [] ∨ (whole.head? = some '0' ∧ whole ≠ ['0']) then none
  else (fractionPart? rest).map fun (fraction, exponent) => { negative, whole, fraction, exponent }

/-- The natural number of a run of digits. -/
def natOfDigits (digits : List Char) : Nat :=
  digits.foldl (fun value digit => value * 10 + digitValue digit) 0

/-- The binary64 number of the parts, or `none` beyond the range. -/
def NumberParts.binary? (parts : NumberParts) : Option Binary64 := do
  let whole := parts.whole.foldl Scaled.pushWhole { significand := 0, exponent := 0, full := false }
  let gathered := (parts.fraction.getD []).foldl Scaled.pushFraction { whole with full := false }
  let exponent : Int :=
    match parts.exponent with
    | none => 0
    | some (negative, digits) =>
      if negative then -(natOfDigits digits : Int) else (natOfDigits digits : Int)
  let significand ← Binary64.ofNat? gathered.significand
  let magnitude ← significand.scaleByTen? (gathered.exponent + exponent)
  return if parts.negative then magnitude.neg else magnitude

/-- The integer of the parts, if they have no fraction, no exponent and fit 64 bits. -/
def NumberParts.integer? (parts : NumberParts) : Option Number :=
  if parts.fraction.isSome || parts.exponent.isSome then none
  else
    let magnitude := natOfDigits parts.whole
    if parts.negative then
      if small : 0 < magnitude ∧ magnitude ≤ 2 ^ (63 : Nat) then
        some (.integer (-(magnitude : Int)) (by omega) (by omega))
      else none
    else if small : magnitude < 2 ^ (64 : Nat) then
      some (.integer magnitude (by omega) (by omega))
    else none

/-- The number of the parts, or `none` beyond the range. -/
def NumberParts.value? (parts : NumberParts) : Option Number :=
  match parts.integer? with
  | some value => some value
  | none => parts.binary?.map .binary

/-- Binary64 numbers are written with `.0` or a fraction from `10 ^ (-5)` up to `10 ^ 16`, and with
an exponent otherwise; a tie goes to the even digit. -/
def numberStyle : NumberStyle where
  tie := .toEven
  writtenOut := fun power => -5 ≤ power && power ≤ 15
  showsFraction := true

/-- The text of a number. -/
def Number.render : Number → String
  | .integer value _ _ => toString value
  | .binary value => numberStyle.render value

end Json

end Questionnaire
