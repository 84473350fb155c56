import Questionnaire.Proofs.Json.Decimals

/-!
# Whole numbers are read back

A binary64 number that is a natural number below `2 ^ 53` is written with all its digits and `.0`
behind them. The reader takes the digits for ten times the number, rounds that, and divides it by
ten. So the number is read back if ten times the number is a binary64 number too.
-/

namespace Questionnaire

-- Powers are those of the core library, whatever other powers are known.
attribute [local instance (10000)] instPowNat

/-! ## Digits -/

theorem decimalLength_pos (value : Nat) : 0 < decimalLength value := by
  rw [decimalLength]
  split
  · exact Nat.one_pos
  · exact Nat.succ_pos _

theorem decimalLength_le {value length : Nat} (positive : 0 < length) (less : value < 10 ^ length) :
    decimalLength value ≤ length := by
  induction length generalizing value with
  | zero => contradiction
  | succ length inductionHypothesis =>
    rw [decimalLength]
    split
    · exact positive
    · rename_i long
      rcases Nat.eq_zero_or_pos length with rfl | shorter
      · exact absurd less long
      · refine Nat.succ_le_succ (inductionHypothesis shorter ?_)
        exact Nat.div_lt_of_lt_mul (Nat.pow_succ' ▸ less)

theorem decimalLength_mul_pow {value : Nat} (positive : 0 < value) (count : Nat) :
    decimalLength (value * 10 ^ count) = decimalLength value + count := by
  induction count with
  | zero => rw [Nat.pow_zero, Nat.mul_one, Nat.add_zero]
  | succ count inductionHypothesis =>
    have shorter_pos : 0 < value * 10 ^ count := Nat.mul_pos positive (Nat.pow_pos (by decide))
    rw [Nat.pow_succ, ← Nat.mul_assoc, decimalLength, if_neg (by omega),
      Nat.mul_div_cancel _ (by decide), inductionHypothesis, Nat.add_assoc]

namespace Binary64

/-! ## Exact results are not rounded -/

theorem roundToEven_mul_right (numerator denominator : Nat) {factor : Nat}
    (positive : 0 < factor) :
    roundToEven (numerator * factor) (denominator * factor) =
      roundToEven numerator denominator := by
  have rest : 2 * (numerator % denominator * factor) = 2 * (numerator % denominator) * factor :=
    (Nat.mul_assoc ..).symm
  simp only [roundToEven, Nat.mul_div_mul_right _ _ positive, Nat.mul_mod_mul_right, rest,
    Nat.mul_lt_mul_right positive]

theorem roundToEven_mul_self (quotient : Nat) {denominator : Nat} (positive : 0 < denominator) :
    roundToEven (quotient * denominator) denominator = quotient := by
  simp only [roundToEven, Nat.mul_div_cancel _ positive, Nat.mul_mod_left, Nat.mul_zero,
    if_pos positive]

/-- Equal fractions are rounded alike. -/
theorem ofUnits?_mul_right (numerator denominator : Nat) {factor : Nat} (positive : 0 < factor) :
    ofUnits? (numerator * factor) (denominator * factor) = ofUnits? numerator denominator := by
  simp only [ofUnits?, Nat.mul_div_mul_right _ _ positive, Nat.mul_right_comm denominator factor,
    roundToEven_mul_right _ _ positive]

/-- The doublings of a number can be told from its units. -/
theorem log2_units (number : Binary64) : number.units.log2 - 52 = number.doublings := by
  have significand_lt := number.significand_lt
  rcases number.normalized with undoubled | full
  · rw [units, undoubled, Nat.pow_zero, Nat.mul_one]
    rcases Nat.eq_zero_or_pos number.significand with isZero | positive
    · rw [isZero, Nat.log2_zero]
    · have short := (Nat.log2_lt (Nat.ne_of_gt positive)).2 significand_lt
      omega
  · have low : 2 ^ (52 + number.doublings) ≤ number.units := by
      rw [Nat.pow_add]
      exact Nat.mul_le_mul_right _ full
    have high : number.units < 2 ^ (52 + number.doublings + 1) := by
      have shape : 2 ^ (52 + number.doublings + 1) = 2 ^ (53 : Nat) * 2 ^ number.doublings := by
        rw [← Nat.pow_add]
        congr 1
        omega
      rw [shape]
      exact Nat.mul_lt_mul_of_pos_right significand_lt (Nat.two_pow_pos _)
    have positive : number.units ≠ 0 := Nat.ne_of_gt (Nat.lt_of_lt_of_le (Nat.two_pow_pos _) low)
    have log2 := (Nat.log2_eq_iff positive).2 ⟨low, high⟩
    omega

/-- A number is the one nearest to itself. -/
theorem ofUnits?_units {number : Binary64} (nonnegative : number.negative = false) :
    ofUnits? number.units 1 = some number := by
  have exact : roundToEven number.units (1 * 2 ^ number.doublings) = number.significand := by
    rw [Nat.one_mul]
    exact roundToEven_mul_self _ (Nat.two_pow_pos _)
  simp only [ofUnits?, Nat.div_one, log2_units, exact, if_neg (Nat.ne_of_lt number.significand_lt)]
  rw [ofParts?, dif_pos ⟨number.significand_lt, number.normalized, number.doublings_le⟩]
  cases number
  cases nonnegative
  rfl

/-- A significand of 53 bits can be doubled until all of them are used. -/
theorem exists_units {significand doublings : Nat} (positive : 0 < significand)
    (fits : significand < 2 ^ (53 : Nat)) (low : 52 ≤ doublings) (high : doublings ≤ 2045) :
    ∃ number : Binary64, number.negative = false ∧
      number.units = significand * 2 ^ doublings := by
  have nonzero := Nat.ne_of_gt positive
  have short := (Nat.log2_lt nonzero).2 fits
  obtain ⟨atLeast, below⟩ := (Nat.log2_eq_iff nonzero).1 rfl
  have factor_pos := Nat.two_pow_pos (52 - significand.log2)
  have full : 2 ^ (52 : Nat) ≤ significand * 2 ^ (52 - significand.log2) := by
    have shape : 2 ^ (52 : Nat) = 2 ^ significand.log2 * 2 ^ (52 - significand.log2) := by
      rw [← Nat.pow_add]
      congr 1
      omega
    rw [shape]
    exact Nat.mul_le_mul_right _ atLeast
  have bounded : significand * 2 ^ (52 - significand.log2) < 2 ^ (53 : Nat) := by
    have shape : 2 ^ (53 : Nat) = 2 ^ (significand.log2 + 1) * 2 ^ (52 - significand.log2) := by
      rw [← Nat.pow_add]
      congr 1
      omega
    rw [shape]
    exact Nat.mul_lt_mul_of_pos_right below factor_pos
  refine ⟨{ negative := false
            significand := significand * 2 ^ (52 - significand.log2)
            doublings := doublings - (52 - significand.log2)
            significand_lt := bounded
            normalized := .inr full
            doublings_le := by omega }, rfl, ?_⟩
  have sum : 52 - significand.log2 + (doublings - (52 - significand.log2)) = doublings := by omega
  rw [units, Nat.mul_assoc, ← Nat.pow_add, sum]

/-- The number is a natural number. -/
structure IsWhole (number : Binary64) (value : Nat) : Prop where
  /-- The number is not negative. -/
  nonnegative : number.negative = false
  /-- The number has as many units as the natural number. -/
  units : number.units = value * 2 ^ (1074 : Nat)

/-- A natural number that is a power of two times one of 53 bits is a binary64 number. -/
theorem exists_isWhole {significand doublings : Nat} (positive : 0 < significand)
    (fits : significand < 2 ^ (53 : Nat)) (high : doublings ≤ 971) :
    ∃ number : Binary64, number.IsWhole (significand * 2 ^ doublings) ∧
      ofNat? (significand * 2 ^ doublings) = some number := by
  obtain ⟨number, nonnegative, units⟩ : ∃ number : Binary64, number.negative = false ∧
      number.units = significand * 2 ^ (doublings + 1074) :=
    exists_units positive fits (by omega) (by omega)
  rw [Nat.pow_add, ← Nat.mul_assoc] at units
  refine ⟨number, ⟨nonnegative, units⟩, ?_⟩
  rw [ofNat?, ofRatio?, ← units]
  exact ofUnits?_units nonnegative

/-! ## The shortest decimal -/

section Shortest

variable {number : Binary64} {value : Nat}

theorem IsWhole.isZero (whole : number.IsWhole value) (positive : 0 < value) :
    number.isZero = false := by
  refine beq_false_of_ne fun isZero => ?_
  have noUnits := whole.units
  rw [Binary64.units, isZero, Nat.zero_mul] at noUnits
  exact absurd noUnits.symm (Nat.ne_of_gt (Nat.mul_pos positive (Nat.two_pow_pos 1074)))

/-- The last significant bit of a natural number of 53 bits does not exceed one. -/
theorem IsWhole.doublings_le (whole : number.IsWhole value) (small : value < 2 ^ (53 : Nat)) :
    number.doublings ≤ 1074 := by
  rcases number.normalized with undoubled | full
  · omega
  · have fewer := Nat.mul_le_mul_right (2 ^ number.doublings) full
    have more := (Nat.mul_lt_mul_right (Nat.two_pow_pos 1074)).2 small
    rw [← whole.units, Binary64.units] at more
    have bound := Nat.lt_of_le_of_lt fewer more
    rw [← Nat.pow_add, ← Nat.pow_add 2 53 1074] at bound
    have exponents := (Nat.pow_lt_pow_iff_right (by decide)).1 bound
    omega

/-- The interval of a natural number reaches two quarters of the last significant bit upwards, and
as far downwards or half as far. -/
theorem IsWhole.exists_roundingInterval (whole : number.IsWhole value) :
    ∃ reach, 0 < reach ∧ reach ≤ 2 * 2 ^ number.doublings ∧
      number.roundingInterval =
        (4 * (value * 2 ^ (1074 : Nat)) - reach,
          4 * (value * 2 ^ (1074 : Nat)) + 2 * 2 ^ number.doublings) := by
  have bit_pos := Nat.two_pow_pos number.doublings
  rw [← whole.units, Binary64.units, roundingInterval]
  refine ⟨(if number.narrowBelow then 1 else 2) * 2 ^ number.doublings, ?_, ?_, ?_⟩
  · split <;> omega
  · split <;> omega
  · simp only [Nat.sub_mul, Nat.add_mul, Nat.mul_assoc]

/-- No other natural number rounds to a natural number of 53 bits. -/
theorem IsWhole.roundsHere (whole : number.IsWhole value) (positive : 0 < value)
    (small : value < 2 ^ (53 : Nat)) (other : Nat) :
    number.roundsHere (4 * (other * 2 ^ (1074 : Nat))) 1 = decide (other = value) := by
  have bit_le := Nat.pow_le_pow_right Nat.two_pos (whole.doublings_le small)
  obtain ⟨reach, reach_pos, reach_le, interval⟩ := whole.exists_roundingInterval
  have unit_pos := Nat.two_pow_pos 1074
  have value_pos := Nat.mul_pos positive unit_pos
  rw [Binary64.roundsHere, interval]
  simp only [Nat.mul_one]
  generalize 2 ^ (1074 : Nat) = unit at *
  generalize 2 ^ number.doublings = bit at *
  have apart {lower upper : Nat} (less : lower < upper) :
      lower * unit + unit ≤ upper * unit := by
    rw [← Nat.succ_mul]
    exact Nat.mul_le_mul_right unit less
  rcases Nat.lt_trichotomy other value with less | rfl | greater
  · have below := apart less
    rw [decide_eq_false (Nat.ne_of_lt less)]
    split
    · rw [decide_eq_false (by omega), Bool.false_and]
    · rw [decide_eq_false (by omega), Bool.false_and]
  · rw [decide_eq_true rfl]
    split
    · rw [decide_eq_true (by omega), decide_eq_true (by omega), Bool.true_and]
    · rw [decide_eq_true (by omega), decide_eq_true (by omega), Bool.true_and]
  · have above := apart greater
    have beyond : 4 * (value * unit) + 2 * bit < 4 * (other * unit) := by omega
    rw [decide_eq_false (Nat.ne_of_gt greater)]
    split
    · rw [decide_eq_false (Nat.not_le_of_lt beyond), Bool.and_false]
    · rw [decide_eq_false (Nat.not_lt_of_gt beyond), Bool.and_false]

theorem IsWhole.decimalScale (whole : number.IsWhole value) (positive : 0 < value) :
    number.decimalScale = decimalLength value := by
  have unit_pos := Nat.two_pow_pos 1074
  rw [Binary64.decimalScale, whole.units]
  generalize 2 ^ (1074 : Nat) = unit at *
  rw [if_pos (Nat.le_mul_of_pos_left unit positive), Nat.mul_div_cancel _ unit_pos]

/-- With fewer digits than it has, a natural number is written only if it ends in zeros. -/
theorem IsWhole.nearestOfLength? (whole : number.IsWhole value) (positive : 0 < value)
    (small : value < 2 ^ (53 : Nat)) (tie : Tie) {length dropped : Nat}
    (digits : length + dropped = decimalLength value) :
    number.nearestOfLength? tie length =
      if 10 ^ dropped ∣ value then some { digits := value / 10 ^ dropped, exponent := dropped }
      else none := by
  have exponent : number.decimalScale - (length : Int) = (dropped : Int) := by
    rw [whole.decimalScale positive]
    omega
  have power_pos : 0 < 10 ^ dropped := Nat.pow_pos (by decide)
  have above : (value / 10 ^ dropped + 1) * 10 ^ dropped ≠ value :=
    Nat.ne_of_gt (Nat.lt_mul_of_div_lt (Nat.lt_succ_self _) power_pos)
  have unit_pos := Nat.two_pow_pos 1074
  have sameUnits := whole.units
  have onlyHere := whole.roundsHere positive small
  unfold Binary64.nearestOfLength?
  -- The units of one are too many to be computed with.
  generalize 2 ^ (1074 : Nat) = unit at *
  have reads (count : Nat) : number.roundsHere (4 * count * (unit * 10 ^ dropped)) 1 =
      decide (count * 10 ^ dropped = value) := by
    rw [← onlyHere, Nat.mul_assoc, Nat.mul_comm unit, Nat.mul_assoc count]
  have below : number.units / (unit * 10 ^ dropped) = value / 10 ^ dropped := by
    rw [sameUnits, Nat.mul_comm value, Nat.mul_div_mul_left _ _ unit_pos]
  simp only [exponent, Int.toNat_neg_natCast, Int.toNat_natCast, Nat.pow_zero, Nat.mul_one, below,
    reads, decide_eq_false above]
  by_cases divides : 10 ^ dropped ∣ value
  · rw [if_pos divides, decide_eq_true (Nat.div_mul_cancel divides)]
  · have inexact : value / 10 ^ dropped * 10 ^ dropped ≠ value :=
      fun same => divides ⟨_, (Nat.mul_comm .. ▸ same).symm⟩
    rw [if_neg divides, decide_eq_false inexact]

/-- The shortest decimal of a natural number leaves out some of the zeros at its end. -/
theorem IsWhole.exists_shortest (whole : number.IsWhole value) (positive : 0 < value)
    (small : value < 2 ^ (53 : Nat)) (tie : Tie) :
    ∃ dropped : Nat, 10 ^ dropped ∣ value ∧
      number.shortest tie = { digits := value / 10 ^ dropped, exponent := dropped } := by
  have ofLength := fun {length dropped} (digits : length + dropped = decimalLength value) =>
    whole.nearestOfLength? positive small tie digits
  have length_pos := decimalLength_pos value
  have length_le : decimalLength value ≤ 16 := decimalLength_le (by decide) (by omega)
  have lengths : List.range' 1 17 =
      List.range' 1 (decimalLength value) ++
        List.range' (1 + decimalLength value) (17 - decimalLength value) := by
    rw [List.range'_append_1]
    congr 1
    omega
  -- All digits are enough, so that the search ends there at the latest.
  have enough : ((List.range' 1 (decimalLength value)).findSome?
      (number.nearestOfLength? tie)).isSome = true := by
    refine List.findSome?_isSome_iff.2 ⟨decimalLength value, ?_, ?_⟩
    · exact List.mem_range'_1.2 ⟨length_pos, by omega⟩
    · rw [ofLength (Nat.add_zero _), if_pos (by simp)]
      rfl
  obtain ⟨decimal, found⟩ := Option.isSome_iff_exists.1 enough
  have shortest : number.shortest tie = decimal := by
    rw [Binary64.shortest, whole.isZero positive, if_neg Bool.false_ne_true, lengths,
      List.findSome?_append, found]
    rfl
  obtain ⟨length, inside, nearest⟩ := List.exists_of_findSome?_eq_some found
  have bounds := List.mem_range'_1.1 inside
  rw [ofLength (Nat.add_sub_of_le (by omega : length ≤ decimalLength value))] at nearest
  obtain ⟨divides, same⟩ := Option.ite_none_right_eq_some.1 nearest
  exact ⟨_, divides, shortest.trans (Option.some.inj same).symm⟩

end Shortest

/-! ## Division by ten -/

/-- Ten times a natural number, divided by ten, is the number. -/
theorem IsWhole.div?_ten {number tenfold ten : Binary64} {value : Nat}
    (whole : number.IsWhole value) (isTenfold : tenfold.IsWhole (value * 10))
    (isTen : ten.IsWhole 10) : tenfold.div? ten = some number := by
  have unit_pos := Nat.two_pow_pos 1074
  have sameUnits := whole.units
  have tenfoldUnits := isTenfold.units
  have tenUnits := isTen.units
  unfold div?
  generalize 2 ^ (1074 : Nat) = unit at *
  have quotient : ofUnits? (tenfold.units * unit) ten.units = some number := by
    have numerator : tenfold.units * unit = number.units * ten.units := by
      rw [tenfoldUnits, sameUnits, tenUnits, Nat.mul_right_comm value 10, Nat.mul_assoc _ 10]
    have ten_pos : 0 < ten.units := by omega
    rw [numerator, ← ofUnits?_units whole.nonnegative, ← ofUnits?_mul_right number.units 1 ten_pos,
      Nat.one_mul]
  rw [quotient, isTenfold.nonnegative, isTen.nonnegative, Option.map_some]
  cases number
  cases whole.nonnegative
  rfl

theorem scaleByTen?_neg_one {number : Binary64} (nonzero : number.isZero = false) :
    number.scaleByTen? (-1) = (ofNat? 10).bind number.div? := by
  have unscaled : number.scaleByTen? (-1) =
      (divideByLargest? 0 number).bind fun quotient =>
        if quotient.isZero then some quotient else quotient.divideByPower? 1 := rfl
  rw [unscaled, divideByLargest?, Option.bind_some, if_neg (Bool.eq_false_iff.1 nonzero)]
  rfl

end Binary64

namespace Json

/-! ## The text -/

theorem toDigits_mul_pow {value : Nat} (positive : 0 < value) (count : Nat) :
    Nat.toDigits 10 (value * 10 ^ count) = Nat.toDigits 10 value ++ List.replicate count '0' := by
  induction count with
  | zero => rw [Nat.pow_zero, Nat.mul_one, List.replicate_zero, List.append_nil]
  | succ count inductionHypothesis =>
    have shorter_pos : 0 < value * 10 ^ count := Nat.mul_pos positive (Nat.pow_pos (by decide))
    rw [Nat.pow_succ, ← Nat.mul_assoc, Nat.toDigits_of_base_le (by decide) (by omega),
      Nat.mul_div_cancel _ (by decide), Nat.mul_mod_left, inductionHypothesis,
      List.replicate_succ', List.append_assoc]
    rfl

/-- A natural number of 53 bits is written with all its digits and a zero behind the point. -/
theorem toList_render_whole {number : Binary64} {value : Nat} (whole : number.IsWhole value)
    (positive : 0 < value) (small : value < 2 ^ (53 : Nat)) :
    (Number.binary number).render.toList = Nat.toDigits 10 value ++ ['.', '0'] := by
  obtain ⟨dropped, divides, shortest⟩ := whole.exists_shortest positive small numberStyle.tie
  have power_pos : 0 < 10 ^ dropped := Nat.pow_pos (by decide)
  have digits_pos : 0 < value / 10 ^ dropped :=
    Nat.div_pos (Nat.le_of_dvd positive divides) power_pos
  have sameValue : value / 10 ^ dropped * 10 ^ dropped = value := Nat.div_mul_cancel divides
  have length_pos := decimalLength_pos value
  have length_le : decimalLength value ≤ 16 := decimalLength_le (by decide) (by omega)
  have length := decimalLength_mul_pow digits_pos dropped
  rw [sameValue] at length
  have writtenOut :
      numberStyle.writtenOut (number.shortest numberStyle.tie).leadingPower = true := by
    rw [shortest, Decimal.leadingPower]
    simp only [numberStyle, Bool.and_eq_true, decide_eq_true_eq]
    omega
  have text : (Number.binary number).render =
      "" ++ (number.shortest numberStyle.tie).writtenOut true := by
    rw [Number.render, NumberStyle.render, whole.nonnegative]
    simp only [writtenOut, if_true]
    rfl
  have nonnegative : 0 ≤ (number.shortest numberStyle.tie).exponent := by
    rw [shortest]
    exact Int.natCast_nonneg _
  rw [text, String.toList_append, toList_writtenOut_whole nonnegative, shortest, Int.toNat_natCast,
    ← toDigits_mul_pow digits_pos, sameValue]
  rfl

/-! ## The reader -/

theorem le_foldl_digits (digits : List Char) (value : Nat) :
    value ≤ digits.foldl (fun value digit => value * 10 + digitValue digit) value := by
  induction digits generalizing value with
  | nil => exact Nat.le_refl _
  | cons digit rest inductionHypothesis =>
    have later := inductionHypothesis (value * 10 + digitValue digit)
    rw [List.foldl_cons]
    omega

/-- Digits that fit 64 bits are all gathered. -/
theorem foldl_pushWhole {digits : List Char} {value : Nat} (exponent : Int)
    (fits : digits.foldl (fun value digit => value * 10 + digitValue digit) value <
      2 ^ (64 : Nat)) :
    digits.foldl Scaled.pushWhole { significand := value, exponent, full := false } =
      { significand := digits.foldl (fun value digit => value * 10 + digitValue digit) value
        exponent
        full := false } := by
  induction digits generalizing value with
  | nil => rfl
  | cons digit rest inductionHypothesis =>
    rw [List.foldl_cons] at fits
    have fitsHere := Nat.lt_of_le_of_lt (le_foldl_digits rest _) fits
    have pushed : Scaled.pushWhole { significand := value, exponent, full := false } digit =
        { significand := value * 10 + digitValue digit, exponent, full := false } := by
      rw [Scaled.pushWhole, if_pos]
      simpa [Scaled.fits] using fitsHere
    rw [List.foldl_cons, List.foldl_cons, pushed, inductionHypothesis fits]

/-- The digits of a natural number and a zero behind the point are read as ten times the number,
divided by ten. -/
theorem binary?_whole {value : Nat} (fits : value * 10 < 2 ^ (64 : Nat)) :
    NumberParts.binary?
        { negative := false
          whole := Nat.toDigits 10 value
          fraction := some ['0']
          exponent := none } =
      (Binary64.ofNat? (value * 10)).bind fun tenfold => tenfold.scaleByTen? (-1) := by
  have digits : (Nat.toDigits 10 value).foldl
      (fun value digit => value * 10 + digitValue digit) 0 = value := natOfDigits_toDigits value
  have whole : (Nat.toDigits 10 value).foldl Scaled.pushWhole
      { significand := 0, exponent := 0, full := false } =
        { significand := value, exponent := 0, full := false } := by
    rw [foldl_pushWhole 0 (by omega), digits]
  have fraction : ['0'].foldl Scaled.pushFraction
      { significand := value, exponent := 0, full := false } =
        { significand := value * 10, exponent := -1, full := false } := by
    have zero : digitValue '0' = 0 := rfl
    have pushed :
        Scaled.fits { significand := value, exponent := 0, full := false } '0' = true := by
      simpa [Scaled.fits, zero] using fits
    rw [List.foldl_cons, List.foldl_nil, Scaled.pushFraction, if_pos pushed, zero, Nat.add_zero,
      Int.zero_sub]
  simp only [NumberParts.binary?, whole, Option.getD_some, fraction, Int.add_zero,
    Bool.false_eq_true, if_false, Option.pure_def, Option.bind_eq_bind, Option.bind_fun_some]

/-- A natural number of 53 bits is read back if ten times the number is a binary64 number. -/
theorem isReadBack_whole {number tenfold : Binary64} {value : Nat} (whole : number.IsWhole value)
    (positive : 0 < value) (small : value < 2 ^ (53 : Nat))
    (isTenfold : tenfold.IsWhole (value * 10))
    (rounded : Binary64.ofNat? (value * 10) = some tenfold) : number.IsReadBack := by
  obtain ⟨ten, isTen, tenRounded⟩ : ∃ ten : Binary64, ten.IsWhole 10 ∧
      Binary64.ofNat? 10 = some ten :=
    Binary64.exists_isWhole (by decide : 0 < 5) (by decide) (by decide : 1 ≤ 971)
  have ended : Scan.EndsNumber ['.', '0'] := Scan.endsNumber_cons (by decide) _
  have noLeadingZero (zero : (Nat.toDigits 10 value).head? = some '0') :
      Nat.toDigits 10 value = ['0'] := absurd zero (head?_toDigits positive)
  let parts : NumberParts :=
    { negative := false
      whole := Nat.toDigits 10 value
      fraction := some ['0']
      exponent := none }
  have areParts : NumberParts.ofChars? (Nat.toDigits 10 value ++ ['.', '0']) = some parts :=
    ofChars?_whole false (isDigit_toDigits value) Nat.toDigits_ne_nil noLeadingZero ended rfl
  have noInteger : parts.integer? = none := rfl
  have tenfold_pos : 0 < value * 10 := Nat.mul_pos positive (by decide)
  have binary : parts.binary? = some number := by
    rw [binary?_whole (by omega), rounded, Option.bind_some,
      Binary64.scaleByTen?_neg_one (isTenfold.isZero tenfold_pos), tenRounded, Option.bind_some,
      whole.div?_ten isTenfold isTen]
  rw [Binary64.IsReadBack, Number.IsReadBack, toList_render_whole whole positive small, areParts,
    Option.bind_some, NumberParts.value?, noInteger, binary, Option.map_some]

end Json

/-- A natural number of 53 bits is read back if ten times the number needs no more than 53 bits
before the zeros at its end. -/
theorem Binary64.isReadBack_ofNat {value significand doublings : Nat}
    (small : value < 2 ^ (53 : Nat))
    (tenfold : value * 10 = significand * 2 ^ doublings) (fits : significand < 2 ^ (53 : Nat)) :
    (Binary64.ofNat value).IsReadBack := by
  rcases Nat.eq_zero_or_pos value with rfl | positive
  · decide +kernel
  · have significand_pos : 0 < significand := by
      refine Nat.pos_of_ne_zero ?_
      rintro rfl
      omega
    have doublings_le : doublings ≤ 971 := by
      have bound : 2 ^ doublings < 2 ^ (57 : Nat) :=
        calc 2 ^ doublings
          _ ≤ significand * 2 ^ doublings := Nat.le_mul_of_pos_left _ significand_pos
          _ = value * 10 := tenfold.symm
          _ < 2 ^ (57 : Nat) := by omega
      have exponents := (Nat.pow_lt_pow_iff_right (by decide)).1 bound
      omega
    obtain ⟨number, whole, rounded⟩ : ∃ number : Binary64, number.IsWhole value ∧
        ofNat? value = some number := by
      have exact := exists_isWhole positive small (Nat.zero_le 971)
      rwa [Nat.pow_zero, Nat.mul_one] at exact
    obtain ⟨tenfoldNumber, isTenfold, tenfoldRounded⟩ :=
      exists_isWhole significand_pos fits doublings_le
    rw [← tenfold] at isTenfold tenfoldRounded
    rw [ofNat, rounded, Option.getD_some]
    exact Json.isReadBack_whole whole positive small isTenfold tenfoldRounded

end Questionnaire
