import Questionnaire.Numeric.Binary64

/-!
# Shortest decimals

The reals that round to a binary64 number form an interval, whose ends belong to it exactly when the
significand is even. `Binary64.shortest` is the decimal with the fewest digits in that interval and,
among those, the one nearest to the number. Two equally near decimals are told apart by a `Tie` rule
that the caller chooses.
-/

namespace Questionnaire

-- Powers are those of the core library, whatever other powers are known.
attribute [local instance (10000)] instPowNat

/-- A nonnegative decimal `digits * 10 ^ exponent`. -/
structure Decimal where
  /-- The digits, read as one natural number. -/
  digits : Nat
  /-- The power of ten of the last digit. -/
  exponent : Int
deriving DecidableEq, Repr

/-- Which of two equally near neighbours is taken. -/
inductive Tie where
  /-- The neighbour with an even last digit. -/
  | toEven
  /-- The greater neighbour. -/
  | up
deriving DecidableEq, Repr

/-- The number of decimal digits; zero has one. -/
def decimalLength (value : Nat) : Nat :=
  if value < 10 then 1 else decimalLength (value / 10) + 1

/-- The same decimal without trailing zeros in its digits. -/
def Decimal.stripZeros (digits : Nat) (exponent : Int) : Decimal :=
  if digits ≠ 0 ∧ digits % 10 = 0 then stripZeros (digits / 10) (exponent + 1)
  else { digits, exponent }

namespace Binary64

/-- Whether the number below is only half as far away as the number above. -/
def narrowBelow (number : Binary64) : Bool :=
  number.significand == 2 ^ (52 : Nat) && number.doublings != 0

/-- The ends of the interval of reals that round to the magnitude, in quarters of a unit. -/
def roundingInterval (number : Binary64) : Nat × Nat :=
  let below := if number.narrowBelow then 1 else 2
  ((4 * number.significand - below) * 2 ^ number.doublings,
    (4 * number.significand + 2) * 2 ^ number.doublings)

/-- Whether `numerator / denominator` quarters of a unit round to the magnitude. -/
def roundsHere (number : Binary64) (numerator denominator : Nat) : Bool :=
  let (low, high) := number.roundingInterval
  if number.significand % 2 = 0 then
    low * denominator ≤ numerator && numerator ≤ high * denominator
  else
    low * denominator < numerator && numerator < high * denominator

/-- The least power of ten above the magnitude of a number other than zero. -/
def decimalScale (number : Binary64) : Int :=
  if 2 ^ (1074 : Nat) ≤ number.units then decimalLength (number.units / 2 ^ (1074 : Nat))
  else 1 - (decimalLength ((2 ^ (1074 : Nat) - 1) / number.units) : Int)

/-- The decimal of at most `length` digits that rounds to the magnitude and lies nearest to it. -/
def nearestOfLength? (tie : Tie) (number : Binary64) (length : Nat) : Option Decimal :=
  let exponent := number.decimalScale - length
  -- The magnitude is `numerator / denominator` steps of `10 ^ exponent`.
  let numerator := number.units * 10 ^ (-exponent).toNat
  let denominator := 2 ^ (1074 : Nat) * 10 ^ exponent.toNat
  let below := numerator / denominator
  let step := 10 ^ (-exponent).toNat
  let lowerReads := number.roundsHere (4 * below * denominator) step
  let upperReads := number.roundsHere (4 * (below + 1) * denominator) step
  let lower : Decimal := { digits := below, exponent }
  let upper : Decimal := Decimal.stripZeros (below + 1) exponent
  match lowerReads, upperReads with
  | true, false => some lower
  | false, true => some upper
  | false, false => none
  | true, true =>
    match compare (2 * numerator) ((2 * below + 1) * denominator) with
    | .lt => some lower
    | .gt => some upper
    | .eq =>
      match tie with
      | .toEven => some (if below % 2 = 0 then lower else upper)
      | .up => some upper

/-- The magnitude itself, with all its digits. -/
def exactDecimal (number : Binary64) : Decimal :=
  Decimal.stripZeros (number.units * 5 ^ (1074 : Nat)) (-1074)

/-- The shortest decimal that rounds to the magnitude, the nearest among the shortest. -/
def shortest (tie : Tie) (number : Binary64) : Decimal :=
  if number.isZero then { digits := 0, exponent := 0 }
  else
    ((List.range' 1 17).findSome? (number.nearestOfLength? tie)).getD number.exactDecimal

end Binary64

end Questionnaire
