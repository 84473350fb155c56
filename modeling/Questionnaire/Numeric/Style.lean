import Questionnaire.Numeric.Shortest

/-!
# Written numbers

A `NumberStyle` is the set of decisions a format makes about writing a binary64 number: which way
an exact tie goes, which magnitudes are written out in full, and whether a whole number shows a
fraction. The digits themselves are always the shortest ones.
-/

namespace Questionnaire

/-- How a format writes binary64 numbers. -/
structure NumberStyle where
  /-- Which of two equally near shortest decimals is written. -/
  tie : Tie
  /-- Whether a number whose leading digit has this power of ten is written without an exponent. -/
  writtenOut : Int → Bool
  /-- Whether a whole number that is written out ends in `.0`. -/
  showsFraction : Bool

/-- As many zeros as asked for. -/
private def zeros (count : Nat) : String :=
  String.ofList (List.replicate count '0')

/-- The decimal without an exponent. -/
def Decimal.writtenOut (showsFraction : Bool) (decimal : Decimal) : String :=
  let digits := toString decimal.digits
  if 0 ≤ decimal.exponent then
    digits ++ zeros decimal.exponent.toNat ++ (if showsFraction then ".0" else "")
  else
    let fractionLength := (-decimal.exponent).toNat
    if digits.length ≤ fractionLength then
      "0." ++ zeros (fractionLength - digits.length) ++ digits
    else
      let wholeLength := digits.length - fractionLength
      String.ofList (digits.toList.take wholeLength) ++ "." ++
        String.ofList (digits.toList.drop wholeLength)

/-- The power of ten of the leading digit. -/
def Decimal.leadingPower (decimal : Decimal) : Int :=
  decimal.exponent + (decimalLength decimal.digits : Int) - 1

/-- The decimal with one digit before the point and a signed exponent. -/
def Decimal.scientific (decimal : Decimal) : String :=
  let power := decimal.leadingPower
  let mantissa :=
    match (toString decimal.digits).toList with
    | [] => ""
    | [digit] => String.ofList [digit]
    | digit :: rest => String.ofList (digit :: '.' :: rest)
  mantissa ++ (if power < 0 then "e-" else "e+") ++ toString power.natAbs

/-- The text of a number in a style. -/
def NumberStyle.render (style : NumberStyle) (number : Binary64) : String :=
  let decimal := number.shortest style.tie
  let magnitude :=
    if style.writtenOut decimal.leadingPower then decimal.writtenOut style.showsFraction
    else decimal.scientific
  (if number.negative then "-" else "") ++ magnitude

end Questionnaire
