/-!
# Finite binary64 numbers

`Binary64` holds the finite numbers of the 64-bit binary format, signed zeros included, as a
significand and a count of doublings of the least positive number `2 ^ (-1074)`. Every operation is
exact natural-number arithmetic followed by one rounding to nearest, ties to the even significand;
`none` stands for a result beyond the largest finite number.

There is no infinity here and no value that is not a number. A JSON text cannot say either, so none
is ever read; one that a caller hands to the program would be written as `null`, and is left out.
-/

namespace Questionnaire

-- Powers are those of the core library, whatever other powers are known.
attribute [local instance (10000)] instPowNat

/-- A finite binary64 number `± significand * 2 ^ doublings * 2 ^ (-1074)`, in its only form. -/
structure Binary64 where
  /-- Whether the sign is minus; zero has both signs. -/
  negative : Bool
  /-- The significant bits, at most 53 of them. -/
  significand : Nat
  /-- How often the least positive number is doubled. -/
  doublings : Nat
  /-- No significand is wider than 53 bits. -/
  significand_lt : significand < 2 ^ (53 : Nat)
  /-- A doubled number uses all 53 bits. -/
  normalized : doublings = 0 ∨ 2 ^ (52 : Nat) ≤ significand
  /-- The largest exponent of the format. -/
  doublings_le : doublings ≤ 2045
deriving DecidableEq, Repr

namespace Binary64

/-- The magnitude, counted in units of `2 ^ (-1074)`. -/
def units (number : Binary64) : Nat :=
  number.significand * 2 ^ number.doublings

/-- The place of a number in the total order, in which minus zero comes just before zero. -/
def rank (number : Binary64) : Int :=
  if number.negative then -(2 * number.units + 1 : Nat) else (2 * number.units : Nat)

/-- Positive zero. -/
def zero : Binary64 where
  negative := false
  significand := 0
  doublings := 0
  significand_lt := by decide
  normalized := .inl rfl
  doublings_le := by decide

instance : Inhabited Binary64 := ⟨zero⟩

/-- The number with the sign turned around. -/
def neg (number : Binary64) : Binary64 :=
  { number with negative := !number.negative }

/-- Whether the number is a zero of either sign. -/
def isZero (number : Binary64) : Bool :=
  number.significand == 0

/-- The integer nearest to `numerator / denominator`, a tie going to the even one. -/
def roundToEven (numerator denominator : Nat) : Nat :=
  let whole := numerator / denominator
  let twiceRest := 2 * (numerator % denominator)
  if twiceRest < denominator then whole
  else if denominator < twiceRest then whole + 1
  else whole + whole % 2

/-- The nonnegative number with these parts when they are in form. -/
def ofParts? (significand doublings : Nat) : Option Binary64 :=
  if form : significand < 2 ^ (53 : Nat) ∧
      (doublings = 0 ∨ 2 ^ (52 : Nat) ≤ significand) ∧ doublings ≤ 2045 then
    some
      { negative := false
        significand
        doublings
        significand_lt := form.1
        normalized := form.2.1
        doublings_le := form.2.2 }
  else none

/-- The nonnegative number nearest to a fraction of units, or `none` beyond the range. -/
def ofUnits? (numerator denominator : Nat) : Option Binary64 :=
  let doublings := (numerator / denominator).log2 - 52
  let significand := roundToEven numerator (denominator * 2 ^ doublings)
  -- Rounding up may fill a 54th bit; the significand is then a power of two.
  if significand = 2 ^ (53 : Nat) then ofParts? (2 ^ (52 : Nat)) (doublings + 1)
  else ofParts? significand doublings

/-- The nonnegative number nearest to `numerator / denominator`, or `none` beyond the range. -/
def ofRatio? (numerator denominator : Nat) : Option Binary64 :=
  ofUnits? (numerator * 2 ^ (1074 : Nat)) denominator

/-- The number nearest to a natural number, or `none` beyond the range. -/
def ofNat? (value : Nat) : Option Binary64 :=
  ofRatio? value 1

/-- The number nearest to a natural number; zero beyond the range, which no count reaches. -/
def ofNat (value : Nat) : Binary64 :=
  (ofNat? value).getD zero

/-- The product, rounded, with the sign of equal signs, or `none` beyond the range. -/
def mul? (left right : Binary64) : Option Binary64 :=
  (ofUnits? (left.units * right.units) (2 ^ (1074 : Nat))).map fun product =>
    { product with negative := left.negative != right.negative }

/-- The quotient by a divisor other than zero, rounded, or `none` beyond the range. -/
def div? (left right : Binary64) : Option Binary64 :=
  (ofUnits? (left.units * 2 ^ (1074 : Nat)) right.units).map fun quotient =>
    { quotient with negative := left.negative != right.negative }

end Binary64

end Questionnaire
