import Questionnaire.Proofs.Json.Numbers

/-!
# Texts of binary64 numbers

Whatever binary64 number is written, its text keeps to the grammar of numbers and has a fraction or
an exponent. So it is read as a binary64 number again, though perhaps not as the same one, or lies
beyond the range. The grammar forbids a leading zero, which is why it matters that a number other
than zero is never written with zero digits.
-/

namespace Questionnaire

-- Powers are those of the core library, whatever other powers are known.
attribute [local instance (10000)] instPowNat

/-! ## Digits -/

theorem Decimal.digits_stripZeros_ne_zero {digits : Nat} (exponent : Int) (nonzero : digits ≠ 0) :
    (stripZeros digits exponent).digits ≠ 0 := by
  induction digits using Nat.strongRecOn generalizing exponent with
  | ind digits inductionHypothesis =>
    rw [stripZeros]
    split
    · rename_i ends
      exact inductionHypothesis (digits / 10) (by omega) (exponent + 1) (by omega)
    · exact nonzero

namespace Binary64

variable {number : Binary64}

/-- Zero does not round to another number. -/
theorem roundsHere_zero (nonzero : number.isZero = false) {denominator : Nat}
    (positive : 0 < denominator) : number.roundsHere 0 denominator = false := by
  have significand : 0 < number.significand :=
    Nat.pos_of_ne_zero (beq_eq_false_iff_ne.1 nonzero)
  have low : 0 < number.roundingInterval.1 := by
    refine Nat.mul_pos ?_ (Nat.two_pow_pos _)
    split
    · omega
    · omega
  have product : 0 < number.roundingInterval.1 * denominator := Nat.mul_pos low positive
  simp only [roundsHere]
  split
  · rw [decide_eq_false (Nat.not_le_of_lt product), Bool.false_and]
  · rw [decide_eq_false (Nat.not_lt_zero _), Bool.false_and]

theorem digits_nearestOfLength?_ne_zero (nonzero : number.isZero = false) {tie : Tie}
    {length : Nat} {decimal : Decimal}
    (nearest : number.nearestOfLength? tie length = some decimal) : decimal.digits ≠ 0 := by
  unfold nearestOfLength? at nearest
  extract_lets exponent numerator denominator below step lowerReads upperReads lower upper
    at nearest
  have upperNonzero : upper.digits ≠ 0 :=
    Decimal.digits_stripZeros_ne_zero exponent (Nat.succ_ne_zero below)
  have lowerNonzero (reads : lowerReads = true) : lower.digits ≠ 0 := by
    intro isZero
    have noSteps : 4 * below * denominator = 0 := by
      rw [show below = 0 from isZero, Nat.mul_zero, Nat.zero_mul]
    have refuted : lowerReads = false := by
      rw [show lowerReads = number.roundsHere (4 * below * denominator) step from rfl, noSteps]
      exact roundsHere_zero nonzero (Nat.pow_pos (by decide))
    exact absurd (reads.symm.trans refuted) nofun
  clear_value lowerReads upperReads lower upper numerator denominator below
  split at nearest
  · obtain rfl := Option.some.inj nearest
    exact lowerNonzero rfl
  · obtain rfl := Option.some.inj nearest
    exact upperNonzero
  · contradiction
  · split at nearest
    · obtain rfl := Option.some.inj nearest
      exact lowerNonzero rfl
    · obtain rfl := Option.some.inj nearest
      exact upperNonzero
    · split at nearest
      · obtain rfl := Option.some.inj nearest
        split
        · exact lowerNonzero rfl
        · exact upperNonzero
      · obtain rfl := Option.some.inj nearest
        exact upperNonzero

/-- A number other than zero is not written with zero digits. -/
theorem digits_shortest_ne_zero (nonzero : number.isZero = false) (tie : Tie) :
    (number.shortest tie).digits ≠ 0 := by
  rw [shortest, nonzero, if_neg Bool.false_ne_true]
  cases found : (List.range' 1 17).findSome? (number.nearestOfLength? tie) with
  | some decimal =>
    obtain ⟨length, _, nearest⟩ := List.exists_of_findSome?_eq_some found
    exact digits_nearestOfLength?_ne_zero nonzero nearest
  | none =>
    have units : number.units ≠ 0 :=
      Nat.mul_ne_zero (beq_eq_false_iff_ne.1 nonzero) (Nat.ne_of_gt (Nat.two_pow_pos _))
    have powers (exponent : Nat) : 5 ^ exponent ≠ 0 := Nat.ne_of_gt (Nat.pow_pos (by decide))
    rw [Option.getD_none, exactDecimal]
    exact Decimal.digits_stripZeros_ne_zero _ (Nat.mul_ne_zero units (powers 1074))

/-- Only zero is written with zero digits, and then without an exponent. -/
theorem exponent_shortest {tie : Tie} (isZero : (number.shortest tie).digits = 0) :
    (number.shortest tie).exponent = 0 := by
  cases zero : number.isZero with
  | true => rw [shortest, zero, if_pos rfl]
  | false => exact absurd isZero (digits_shortest_ne_zero zero tie)

end Binary64

namespace Json

open Scan (EndsNumber endsNumber_nil endsNumber_cons takeWhile_digits)

/-! ## Fractions and exponents -/

/-- A point and some digits are a fraction. -/
theorem fractionPart?_digits {digits rest : List Char} {exponent : Option (Bool × List Char)}
    (areDigits : ∀ char ∈ digits, char.isDigit = true) (nonempty : digits ≠ [])
    (ended : EndsNumber rest) (isExponent : exponentPart? rest = some exponent) :
    fractionPart? ('.' :: (digits ++ rest)) = some (some digits, exponent) := by
  obtain ⟨taken, left⟩ := takeWhile_digits areDigits ended
  simp only [fractionPart?, spanDigits, taken, left, if_neg nonempty, isExponent, Option.map_some]

/-- The exponent that a power of ten is written as. -/
def exponentChars (power : Int) : List Char :=
  'e' :: (if power < 0 then '-' else '+') :: Nat.toDigits 10 power.natAbs

theorem exponentPart?_exponentChars (power : Int) :
    exponentPart? (exponentChars power) =
      some (some (decide (power < 0), Nat.toDigits 10 power.natAbs)) := by
  have areDigits : Nat.toDigits 10 power.natAbs ≠ [] ∧
      (Nat.toDigits 10 power.natAbs).all Char.isDigit = true :=
    ⟨Nat.toDigits_ne_nil, List.all_eq_true.2 (isDigit_toDigits _)⟩
  by_cases negative : power < 0
  · simp only [exponentChars, if_pos negative, decide_eq_true negative, exponentPart?, true_or,
      if_true, if_pos areDigits]
  · simp only [exponentChars, if_neg negative, decide_eq_false negative, exponentPart?, true_or,
      if_true, if_pos areDigits]

/-- Behind an optional minus, the characters are a number with a fraction or an exponent. -/
def IsFractional (chars : List Char) : Prop :=
  ∀ negative : Bool, ∃ parts,
    NumberParts.ofChars? ((if negative then ['-'] else []) ++ chars) = some parts ∧
      parts.integer? = none

theorem IsFractional.of_whole {whole rest : List Char} {fraction : Option (List Char)}
    {exponent : Option (Bool × List Char)} (areDigits : ∀ char ∈ whole, char.isDigit = true)
    (nonempty : whole ≠ []) (noLeadingZero : whole.head? = some '0' → whole = ['0'])
    (ended : EndsNumber rest) (isRest : fractionPart? rest = some (fraction, exponent))
    (noInteger : (fraction.isSome || exponent.isSome) = true) : IsFractional (whole ++ rest) :=
  fun negative => ⟨_, ofChars?_whole negative areDigits nonempty noLeadingZero ended isRest, by
    rw [NumberParts.integer?, if_pos noInteger]⟩

/-- A whole part, a point and some digits are a number with a fraction. -/
theorem IsFractional.of_fraction {whole digits : List Char}
    (wholeDigits : ∀ char ∈ whole, char.isDigit = true) (wholeNonempty : whole ≠ [])
    (noLeadingZero : whole.head? = some '0' → whole = ['0'])
    (areDigits : ∀ char ∈ digits, char.isDigit = true) (nonempty : digits ≠ []) :
    IsFractional (whole ++ '.' :: digits) := by
  have fraction := fractionPart?_digits areDigits nonempty endsNumber_nil rfl
  rw [List.append_nil] at fraction
  have ended : EndsNumber ('.' :: digits) := endsNumber_cons (by decide) _
  exact of_whole wholeDigits wholeNonempty noLeadingZero ended fraction rfl

theorem isDigit_replicate_zero (count : Nat) :
    ∀ char ∈ List.replicate count '0', char.isDigit = true := by
  intro char inside
  rw [List.eq_of_mem_replicate inside]
  decide

theorem isDigit_append {first later : List Char} (here : ∀ char ∈ first, char.isDigit = true)
    (there : ∀ char ∈ later, char.isDigit = true) :
    ∀ char ∈ first ++ later, char.isDigit = true :=
  List.forall_mem_append.2 ⟨here, there⟩

theorem toList_toString (number : Nat) : (toString number).toList = Nat.toDigits 10 number :=
  Nat.toList_repr

section WrittenOut

variable {decimal : Decimal}

theorem toList_writtenOut_whole (whole : 0 ≤ decimal.exponent) :
    (decimal.writtenOut true).toList =
      (Nat.toDigits 10 decimal.digits ++ List.replicate decimal.exponent.toNat '0') ++
        '.' :: ['0'] := by
  have text : decimal.writtenOut true = toString decimal.digits ++
      String.ofList (List.replicate decimal.exponent.toNat '0') ++ ".0" := if_pos whole
  rw [text, String.toList_append, String.toList_append, toList_toString, String.toList_ofList]
  rfl

theorem length_toString (number : Nat) :
    (toString number).length = (Nat.toDigits 10 number).length := by
  rw [← String.length_toList, toList_toString]

theorem toList_writtenOut_small (negative : ¬0 ≤ decimal.exponent)
    (short : (Nat.toDigits 10 decimal.digits).length ≤ (-decimal.exponent).toNat) :
    (decimal.writtenOut true).toList = ['0'] ++
      '.' :: (List.replicate ((-decimal.exponent).toNat - (Nat.toDigits 10 decimal.digits).length)
        '0' ++ Nat.toDigits 10 decimal.digits) := by
  have text : decimal.writtenOut true = "0." ++
      String.ofList (List.replicate ((-decimal.exponent).toNat - (toString decimal.digits).length)
        '0') ++ toString decimal.digits :=
    (if_neg negative).trans (if_pos (length_toString _ ▸ short))
  simp only [text, String.toList_append, String.toList_ofList, toList_toString, length_toString,
    List.append_assoc]
  rfl

theorem toList_writtenOut_large (negative : ¬0 ≤ decimal.exponent)
    (long : ¬(Nat.toDigits 10 decimal.digits).length ≤ (-decimal.exponent).toNat) :
    let wholeLength := (Nat.toDigits 10 decimal.digits).length - (-decimal.exponent).toNat
    (decimal.writtenOut true).toList = (Nat.toDigits 10 decimal.digits).take wholeLength ++
      '.' :: (Nat.toDigits 10 decimal.digits).drop wholeLength := by
  intro wholeLength
  have text : decimal.writtenOut true =
      String.ofList ((toString decimal.digits).toList.take
        ((toString decimal.digits).length - (-decimal.exponent).toNat)) ++ "." ++
      String.ofList ((toString decimal.digits).toList.drop
        ((toString decimal.digits).length - (-decimal.exponent).toNat)) :=
    (if_neg negative).trans (if_neg (length_toString _ ▸ long))
  simp only [text, String.toList_append, String.toList_ofList, toList_toString, length_toString,
    List.append_assoc]
  rfl

/-- A decimal that is written out has a fraction. -/
theorem isFractional_writtenOut (zero : decimal.digits = 0 → decimal.exponent = 0) :
    IsFractional (decimal.writtenOut true).toList := by
  have nonempty : Nat.toDigits 10 decimal.digits ≠ [] := Nat.toDigits_ne_nil
  have areDigits := isDigit_toDigits decimal.digits
  have zeros := isDigit_replicate_zero
  by_cases whole : 0 ≤ decimal.exponent
  · rw [toList_writtenOut_whole whole]
    refine .of_fraction (isDigit_append areDigits (zeros _))
      (List.append_ne_nil_of_left_ne_nil nonempty _) ?_ (zeros 1) (List.cons_ne_nil _ _)
    intro isZero
    rw [List.head?_append, Option.or_of_isSome (by simp)] at isZero
    have noDigits := eq_zero_of_head?_toDigits isZero
    rw [noDigits, zero noDigits]
    rfl
  · -- Either the point comes before all digits, or it stands between them.
    by_cases short : (Nat.toDigits 10 decimal.digits).length ≤ (-decimal.exponent).toNat
    · rw [toList_writtenOut_small whole short]
      exact .of_fraction (zeros 1) (List.cons_ne_nil _ _) (fun _ => rfl)
        (isDigit_append (zeros _) areDigits) (List.append_ne_nil_of_right_ne_nil _ nonempty)
    · have someWhole : (Nat.toDigits 10 decimal.digits).length - (-decimal.exponent).toNat ≠ 0 := by
        omega
      rw [toList_writtenOut_large whole short]
      refine .of_fraction (fun char inside => areDigits char (List.mem_of_mem_take inside)) ?_ ?_
        (fun char inside => areDigits char (List.mem_of_mem_drop inside)) ?_
      · rw [ne_eq, List.take_eq_nil_iff, not_or]
        exact ⟨someWhole, nonempty⟩
      · intro isZero
        rw [List.head?_take, if_neg someWhole] at isZero
        have single : (Nat.toDigits 10 decimal.digits).length = 1 := by
          rw [eq_zero_of_head?_toDigits isZero]
          rfl
        omega
      · rw [ne_eq, List.drop_eq_nil_iff]
        omega

end WrittenOut

/-- A decimal in scientific form has an exponent. -/
theorem isFractional_scientific (decimal : Decimal) : IsFractional decimal.scientific.toList := by
  have areDigits := isDigit_toDigits decimal.digits
  have ended : EndsNumber (exponentChars decimal.leadingPower) := endsNumber_cons (by decide) _
  have isExponent := exponentPart?_exponentChars decimal.leadingPower
  have exponent : ((if decimal.leadingPower < 0 then "e-" else "e+") ++
      toString decimal.leadingPower.natAbs).toList = exponentChars decimal.leadingPower := by
    rw [String.toList_append, toList_toString, exponentChars]
    split
    · rfl
    · rfl
  unfold Decimal.scientific
  extract_lets power mantissa
  rw [String.append_assoc, String.toList_append, exponent]
  have shape : (toString decimal.digits).toList = Nat.toDigits 10 decimal.digits :=
    toList_toString _
  cases digits : Nat.toDigits 10 decimal.digits with
  | nil => exact absurd digits Nat.toDigits_ne_nil
  | cons digit rest =>
    rw [digits] at areDigits shape
    obtain ⟨isDigit, restDigits⟩ := List.forall_mem_cons.1 areDigits
    have firstDigit : ∀ char ∈ [digit], char.isDigit = true := by simpa using isDigit
    have noLeadingZero (zero : [digit].head? = some '0') : [digit] = ['0'] :=
      congrArg (fun char => [char]) (Option.some.inj zero)
    cases rest with
    | nil =>
      have text : mantissa.toList = [digit] := by
        simp only [mantissa, shape, String.toList_ofList]
      have noFraction : fractionPart? (exponentChars decimal.leadingPower) = _ :=
        congrArg (Option.map fun exponent => (none, exponent)) isExponent
      rw [text]
      exact .of_whole firstDigit (List.cons_ne_nil _ _) noLeadingZero ended noFraction rfl
    | cons next later =>
      have text : mantissa.toList = [digit] ++ '.' :: next :: later := by
        simp only [mantissa, shape, String.toList_ofList]
        rfl
      have fraction := fractionPart?_digits restDigits (List.cons_ne_nil _ _) ended isExponent
      rw [text, List.append_assoc]
      exact .of_whole firstDigit (List.cons_ne_nil _ _) noLeadingZero
        (endsNumber_cons (by decide) _) fraction rfl

/-- The text of a binary64 number keeps to the grammar and is no integer. -/
theorem exists_parts_binary (number : Binary64) : ∃ parts,
    NumberParts.ofChars? (Number.binary number).render.toList = some parts ∧
      parts.integer? = none := by
  let decimal := number.shortest numberStyle.tie
  let magnitude :=
    if numberStyle.writtenOut decimal.leadingPower then decimal.writtenOut true
    else decimal.scientific
  have fractional : IsFractional magnitude.toList := by
    simp only [magnitude]
    split
    · exact isFractional_writtenOut Binary64.exponent_shortest
    · exact isFractional_scientific decimal
  have text : (Number.binary number).render = (if number.negative then "-" else "") ++ magnitude :=
    rfl
  obtain ⟨parts, areParts, noInteger⟩ := fractional number.negative
  refine ⟨parts, ?_, noInteger⟩
  rw [← areParts, text, String.toList_append]
  cases number.negative with
  | false | true => rfl

/-- The text of a number keeps to the grammar. -/
theorem exists_parts (number : Number) :
    ∃ parts, NumberParts.ofChars? number.render.toList = some parts := by
  cases number with
  | integer value low high =>
    rw [toList_render_integer]
    exact ⟨_, ofChars?_toDigits _ _⟩
  | binary value =>
    obtain ⟨parts, areParts, _⟩ := exists_parts_binary value
    exact ⟨parts, areParts⟩

/-! ## Numbers read again -/

/-- The number that the text of a number is read as, or `none` beyond the range. -/
def Number.reread? (number : Number) : Option Number :=
  (NumberParts.ofChars? number.render.toList).bind NumberParts.value?

/-- A binary64 number is read again as one, if it is read at all. -/
theorem eq_binary_of_reread? {value : Binary64} {number : Number}
    (reread : (Number.binary value).reread? = some number) : ∃ read, number = .binary read := by
  obtain ⟨parts, areParts, noInteger⟩ := exists_parts_binary value
  rw [Number.reread?, areParts, Option.bind_some, NumberParts.value?, noInteger] at reread
  obtain ⟨read, _, same⟩ := Option.map_eq_some_iff.1 reread
  exact ⟨read, same.symm⟩

end Json

end Questionnaire
