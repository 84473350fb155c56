import Mathlib.Algebra.Group.Int.Defs
import Mathlib.Data.List.TakeWhile
import Questionnaire.Json.Token
import Questionnaire.Proofs.Time.RoundTrip

/-!
# Numbers are read back

An integer is read back from its own text. A binary64 number need not be, since the reader rounds
more than once; whether it is can be computed. Nothing that the grammar of numbers allows ends a
word.
-/

namespace Questionnaire

namespace Json

/-- The number is what its own text is read as. -/
def Number.IsReadBack (number : Number) : Prop :=
  (NumberParts.ofChars? number.render.toList).bind NumberParts.value? = some number

instance (number : Number) : Decidable number.IsReadBack :=
  inferInstanceAs (Decidable (_ = _))

end Json

/-- The number is read back from its text in a document. -/
def Binary64.IsReadBack (number : Binary64) : Prop :=
  (Json.Number.binary number).IsReadBack

instance (number : Binary64) : Decidable number.IsReadBack :=
  inferInstanceAs (Decidable (Json.Number.binary number).IsReadBack)

/-- The number written as `0.9519418628696709` is read as its neighbour. -/
example : ∃ number : Binary64, ¬number.IsReadBack :=
  ⟨⟨false, 8574330037796451, 1021, by decide, by decide, by decide⟩, by decide +kernel⟩

namespace Json

/-! ## Characters of numbers -/

/-- The characters that end a word. -/
def wordEnds : List Char :=
  [' ', '\n', '\r', '\t', '"', '[', ']', '\x7b', '\x7d', ',', ':']

theorem mem_wordEnds {char : Char} (ends : endsWord char = true) : char ∈ wordEnds := by
  unfold endsWord mark? at ends
  split at ends
  · decide
  · decide
  · decide
  · decide
  · decide
  · decide
  · simp only [isBlank, Option.isSome_none, Bool.or_false, Bool.or_eq_true, beq_iff_eq] at ends
    simp only [wordEnds, List.mem_cons]
    rcases ends with (((space | newline) | return_) | tab) | quote
    all_goals simp [*]

theorem endsWord_digit {char : Char} (isDigit : char.isDigit = true) : endsWord char = false := by
  have noDigit : ∀ other ∈ wordEnds, other.isDigit = false := by simp [wordEnds]
  cases ends : endsWord char with
  | false => rfl
  | true => exact absurd (isDigit.symm.trans (noDigit char (mem_wordEnds ends))) nofun

/-- No character ends a word. -/
def IsPlain (chars : List Char) : Prop :=
  ∀ char ∈ chars, endsWord char = false

instance (chars : List Char) : Decidable (IsPlain chars) :=
  decidable_of_iff (chars.all fun char => !endsWord char) (by simp [IsPlain])

theorem isPlain_digits {digits : List Char} (areDigits : ∀ char ∈ digits, char.isDigit = true) :
    IsPlain digits :=
  fun char inside => endsWord_digit (areDigits char inside)

theorem IsPlain.cons {char : Char} {rest : List Char} (here : endsWord char = false)
    (later : IsPlain rest) : IsPlain (char :: rest) :=
  List.forall_mem_cons.2 ⟨here, later⟩

theorem IsPlain.append {first rest : List Char} (here : IsPlain first) (later : IsPlain rest) :
    IsPlain (first ++ rest) :=
  List.forall_mem_append.2 ⟨here, later⟩

/-- What is left of a number after its digits, if it goes on as the grammar says, is plain, and so
is the number. -/
theorem isPlain_of_dropWhile {chars : List Char}
    (rest : IsPlain (chars.dropWhile Char.isDigit)) : IsPlain chars := by
  rw [← List.takeWhile_append_dropWhile (p := Char.isDigit) (l := chars)]
  exact (isPlain_digits fun _ => List.mem_takeWhile_imp).append rest

theorem isPlain_exponentPart {chars : List Char} {exponent : Option (Bool × List Char)}
    (isExponent : exponentPart? chars = some exponent) : IsPlain chars := by
  unfold exponentPart? at isExponent
  split at isExponent
  · exact fun _ inside => absurd inside List.not_mem_nil
  · rename_i mark rest
    split at isExponent
    · rename_i isMark
      have markPlain : endsWord mark = false := by
        rcases isMark with rfl | rfl
        · rfl
        · rfl
      refine .cons markPlain ?_
      split at isExponent
      rename_i negative digits shape
      split at isExponent
      · rename_i areDigits
        have digitsPlain : IsPlain digits := isPlain_digits (List.all_eq_true.1 areDigits.2)
        split at shape
        · obtain ⟨-, rfl⟩ := Prod.mk.inj shape
          exact .cons rfl digitsPlain
        · obtain ⟨-, rfl⟩ := Prod.mk.inj shape
          exact .cons rfl digitsPlain
        · obtain ⟨-, rfl⟩ := Prod.mk.inj shape
          exact digitsPlain
      · contradiction
    · contradiction

theorem isPlain_fractionPart {chars : List Char}
    {parts : Option (List Char) × Option (Bool × List Char)}
    (areParts : fractionPart? chars = some parts) : IsPlain chars := by
  unfold fractionPart? at areParts
  split at areParts
  · rename_i rest
    refine .cons rfl (isPlain_of_dropWhile ?_)
    obtain ⟨-, areParts⟩ := Option.ite_none_left_eq_some.1 areParts
    obtain ⟨exponent, isExponent, -⟩ := Option.map_eq_some_iff.1 areParts
    exact isPlain_exponentPart isExponent
  · obtain ⟨exponent, isExponent, -⟩ := Option.map_eq_some_iff.1 areParts
    exact isPlain_exponentPart isExponent

/-- Nothing in a number ends a word. -/
theorem isPlain_of_ofChars? {chars : List Char} {parts : NumberParts}
    (areParts : NumberParts.ofChars? chars = some parts) : IsPlain chars := by
  unfold NumberParts.ofChars? at areParts
  split at areParts
  rename_i negative unsigned shape
  obtain ⟨-, areParts⟩ := Option.ite_none_left_eq_some.1 areParts
  obtain ⟨rest, isRest, -⟩ := Option.map_eq_some_iff.1 areParts
  have unsignedPlain : IsPlain unsigned := isPlain_of_dropWhile (isPlain_fractionPart isRest)
  split at shape
  · obtain ⟨-, rfl⟩ := Prod.mk.inj shape
    exact .cons rfl unsignedPlain
  · obtain ⟨-, rfl⟩ := Prod.mk.inj shape
    exact unsignedPlain

/-! ## Whole parts -/

open Scan (EndsNumber endsNumber_nil takeWhile_digits)

theorem head?_toDigits {number : Nat} (positive : 0 < number) :
    (Nat.toDigits 10 number).head? ≠ some '0' := by
  induction number using Nat.strongRecOn with
  | ind number inductionHypothesis =>
    by_cases small : number < 10
    · rw [Nat.toDigits_of_lt_base small]
      have each : ∀ digit < 10, 0 < digit → [Nat.digitChar digit].head? ≠ some '0' := by decide
      exact each number small positive
    · have shorter := inductionHypothesis (number / 10) (by omega) (by omega)
      rw [Nat.toDigits_of_base_le (by decide) (by omega), List.head?_append]
      cases head : (Nat.toDigits 10 (number / 10)).head? with
      | none => exact absurd (List.head?_eq_none_iff.1 head) Nat.toDigits_ne_nil
      | some digit =>
        rw [head] at shorter
        exact shorter

theorem isDigit_toDigits (number : Nat) : ∀ char ∈ Nat.toDigits 10 number, char.isDigit = true :=
  fun _ => Nat.isDigit_of_mem_toDigits (by decide) (by decide)

theorem eq_zero_of_head?_toDigits {number : Nat}
    (zero : (Nat.toDigits 10 number).head? = some '0') : number = 0 := by
  rcases Nat.eq_zero_or_pos number with isZero | positive
  · exact isZero
  · exact absurd zero (head?_toDigits positive)

theorem natOfDigits_toDigits (number : Nat) : natOfDigits (Nat.toDigits 10 number) = number := by
  have same : natOfDigits (Nat.toDigits 10 number) =
      Nat.ofDigitChars 10 (Nat.toDigits 10 number) 0 := by
    simp only [natOfDigits, digitValue, Nat.ofDigitChars_eq_foldl, Nat.mul_comm]
  rw [same, Nat.ofDigitChars_ten_toDigits]

/-- A whole part without leading zeros is taken up to its end, and the rest decides about fraction
and exponent. -/
theorem ofChars?_whole (negative : Bool) {whole rest : List Char}
    {fraction : Option (List Char)} {exponent : Option (Bool × List Char)}
    (areDigits : ∀ char ∈ whole, char.isDigit = true) (nonempty : whole ≠ [])
    (noLeadingZero : whole.head? = some '0' → whole = ['0']) (ended : EndsNumber rest)
    (isRest : fractionPart? rest = some (fraction, exponent)) :
    NumberParts.ofChars? ((if negative then ['-'] else []) ++ (whole ++ rest)) =
      some { negative, whole, fraction, exponent } := by
  obtain ⟨taken, left⟩ := takeWhile_digits areDigits ended
  have wellFormed : ¬(whole = [] ∨ (whole.head? = some '0' ∧ whole ≠ ['0'])) := by
    rintro (none | ⟨zero, longer⟩)
    · exact nonempty none
    · exact longer (noLeadingZero zero)
  have unsigned (digits : List Char) : whole ++ rest ≠ '-' :: digits := by
    obtain ⟨digit, others, rfl⟩ := List.exists_cons_of_ne_nil nonempty
    intro same
    have minus : digit = '-' := (List.cons.inj same).1
    have isDigit : digit.isDigit = true := areDigits digit List.mem_cons_self
    rw [minus] at isDigit
    contradiction
  cases negative with
  | true =>
    simp only [NumberParts.ofChars?, if_true, List.singleton_append, spanDigits, taken, left,
      if_neg wellFormed, isRest, Option.map_some]
  | false =>
    rw [if_neg Bool.false_ne_true, List.nil_append, NumberParts.ofChars?]
    · simp only [spanDigits, taken, left, if_neg wellFormed, isRest, Option.map_some]
    · exact unsigned

/-- The digits of a natural number are a whole part without fraction and exponent. -/
theorem ofChars?_toDigits (negative : Bool) (number : Nat) :
    NumberParts.ofChars? ((if negative then ['-'] else []) ++ Nat.toDigits 10 number) =
      some { negative, whole := Nat.toDigits 10 number, fraction := none, exponent := none } := by
  have noLeadingZero (zero : (Nat.toDigits 10 number).head? = some '0') :
      Nat.toDigits 10 number = ['0'] := by
    rw [eq_zero_of_head?_toDigits zero]
    rfl
  have whole := ofChars?_whole negative (isDigit_toDigits number) Nat.toDigits_ne_nil noLeadingZero
    endsNumber_nil rfl
  rwa [List.append_nil] at whole

/-! ## Integers -/

theorem toList_render_integer (value : Int) (low : -2 ^ 63 ≤ value) (high : value < 2 ^ 64) :
    (Number.integer value low high).render.toList =
      (if decide (value < 0) then ['-'] else []) ++ Nat.toDigits 10 value.natAbs := by
  rw [Number.render, Int.toString_eq_repr, Int.repr_eq_if]
  by_cases negative : value < 0
  · have size : (-value).toNat = value.natAbs := by omega
    rw [if_neg (by omega), String.toList_append, Nat.toList_repr, size, decide_eq_true negative]
    rfl
  · have size : value.toNat = value.natAbs := by omega
    rw [if_pos (by omega), Nat.toList_repr, size, decide_eq_false negative]
    rfl

/-- An integer is read back from its own text. -/
theorem isReadBack_integer (value : Int) (low : -2 ^ 63 ≤ value) (high : value < 2 ^ 64) :
    (Number.integer value low high).IsReadBack := by
  rw [Number.IsReadBack, toList_render_integer, ofChars?_toDigits, Option.bind_some,
    NumberParts.value?, NumberParts.integer?]
  simp only [natOfDigits_toDigits]
  by_cases negative : value < 0
  · have small : 0 < value.natAbs ∧ value.natAbs ≤ 2 ^ 63 := by omega
    have same : -(value.natAbs : Int) = value := by omega
    simp only [decide_eq_true negative, Option.isSome_none, Bool.or_self, Bool.false_eq_true,
      if_false, if_true, dif_pos small, same]
  · have small : value.natAbs < 2 ^ 64 := by omega
    have same : (value.natAbs : Int) = value := by omega
    simp only [decide_eq_false negative, Option.isSome_none, Bool.or_self, Bool.false_eq_true,
      if_false, dif_pos small, same]

end Json

end Questionnaire
