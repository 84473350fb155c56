import Mathlib.Algebra.Order.Round
import Mathlib.Data.Rat.Floor
import Mathlib.Tactic.FieldSimp
import Mathlib.Tactic.Ring
import Questionnaire.Assignment.Progress

/-!
# Percent

A part of a whole in percent is the exact quotient rounded to the nearest whole number, a half
upwards. The half that is added before the division may itself be rounded down, which changes
nothing: the quotient is the one over twice the whole. It is 100 at most without the bound on it,
fits a byte, and is the same in words of 64 bits as long as nothing overflows there.
-/

namespace Questionnaire

variable {part more whole : Nat}

/-- Half of the whole, rounded down, makes the same quotient as half of the whole. -/
theorem percent_eq (part whole : Nat) :
    (part * 100 + whole / 2) / whole = (200 * part + whole) / (2 * whole) := by
  have halved : part * 100 + whole / 2 = (200 * part + whole) / 2 := by omega
  rw [halved, Nat.div_div_eq_div_mul]

theorem percent_le_hundred (within : part ≤ whole) (positive : 1 ≤ whole) :
    (200 * part + whole) / (2 * whole) ≤ 100 := by
  rw [← Nat.lt_succ_iff, Nat.div_lt_iff_lt_mul (by omega)]
  omega

/-- A part of the whole does not need the bound. -/
theorem cappedPercent_eq (within : part ≤ whole) (positive : 1 ≤ whole) :
    cappedPercent part whole = (200 * part + whole) / (2 * whole) := by
  rw [cappedPercent, percent_eq, Nat.min_eq_left (percent_le_hundred within positive)]

/-- The bound makes every quotient fit a byte. -/
theorem byteOf?_cappedPercent (part whole : Nat) :
    byteOf? (cappedPercent part whole) = some (roundedPercent part whole) := by
  have bounded : cappedPercent part whole ≤ 100 := Nat.min_le_right _ _
  have fits : cappedPercent part whole < UInt8.size := Nat.lt_of_le_of_lt bounded (by decide)
  rw [roundedPercent, byteOf?, if_pos fits, Option.getD_some]

theorem toNat_of_byteOf? {number : Nat} {byte : UInt8} (held : byteOf? number = some byte) :
    byte.toNat = number := by
  rw [byteOf?] at held
  split at held
  · rename_i fits
    injection held with same
    rw [← same, UInt8.toNat_ofNat', Nat.mod_eq_of_lt fits]
  · contradiction

theorem toNat_roundedPercent (within : part ≤ whole) (positive : 1 ≤ whole) :
    (roundedPercent part whole).toNat = (200 * part + whole) / (2 * whole) := by
  rw [toNat_of_byteOf? (byteOf?_cappedPercent part whole), cappedPercent_eq within positive]

/-- The exact quotient, rounded to the nearest whole number and a half upwards. -/
theorem percent_eq_round (part : Nat) (positive : 1 ≤ whole) :
    (((200 * part + whole) / (2 * whole) : Nat) : ℤ) = round (100 * part / whole : ℚ) := by
  have nonzero : (whole : ℚ) ≠ 0 := Nat.cast_ne_zero.2 (Nat.ne_of_gt positive)
  have exact : (100 * part / whole + 1 / 2 : ℚ) =
      ((200 * part + whole : Nat) : ℚ) / ((2 * whole : Nat) : ℚ) := by
    push_cast
    field_simp
    ring
  rw [round_eq, exact, Rat.floor_natCast_div_natCast, Int.natCast_div]

/-- Where nothing overflows, words of 64 bits give what counts give. -/
theorem toNat_cappedPercent_words (within : part ≤ whole)
    (fits : 100 * whole + whole / 2 < 2 ^ 64) :
    (cappedPercent (UInt64.ofNat part) (UInt64.ofNat whole)).toNat = cappedPercent part whole := by
  have partWord : (UInt64.ofNat part).toNat = part := by
    rw [UInt64.toNat_ofNat', Nat.mod_eq_of_lt (by omega)]
  have wholeWord : (UInt64.ofNat whole).toNat = whole := by
    rw [UInt64.toNat_ofNat', Nat.mod_eq_of_lt (by omega)]
  -- Neither the product nor the sum wraps around.
  have product : part * 100 < 2 ^ 64 := by omega
  have sum : part * 100 + whole / 2 < 2 ^ 64 := by omega
  rw [cappedPercent, UInt64.toNat_min, UInt64.toNat_div, UInt64.toNat_add, UInt64.toNat_mul,
    UInt64.toNat_div, partWord, wholeWord]
  change min ((part * 100 % 2 ^ 64 + whole / 2) % 2 ^ 64 / whole) 100 = _
  rw [Nat.mod_eq_of_lt product, Nat.mod_eq_of_lt sum, cappedPercent]

theorem roundedPercent_le_roundedPercent (ordered : part ≤ more) (within : more ≤ whole)
    (positive : 1 ≤ whole) : roundedPercent part whole ≤ roundedPercent more whole := by
  rw [UInt8.le_iff_toNat_le, toNat_roundedPercent (Nat.le_trans ordered within) positive,
    toNat_roundedPercent within positive]
  exact Nat.div_le_div_right (by omega)

theorem roundedPercent_eq_zero_iff (within : part ≤ whole) (positive : 1 ≤ whole) :
    roundedPercent part whole = 0 ↔ 200 * part < whole := by
  rw [← UInt8.toNat_inj, toNat_roundedPercent within positive, UInt8.toNat_zero,
    Nat.div_eq_zero_iff]
  omega

theorem roundedPercent_eq_hundred_iff (within : part ≤ whole) (positive : 1 ≤ whole) :
    roundedPercent part whole = 100 ↔ 200 * (whole - part) ≤ whole := by
  have atMost := percent_le_hundred within positive
  have reaches : 100 ≤ (200 * part + whole) / (2 * whole) ↔
      100 * (2 * whole) ≤ 200 * part + whole := Nat.le_div_iff_mul_le (by omega)
  rw [← UInt8.toNat_inj, toNat_roundedPercent within positive]
  change _ = 100 ↔ _
  omega

theorem roundedPercent_self (positive : 0 < whole) : roundedPercent whole whole = 100 :=
  (roundedPercent_eq_hundred_iff (Nat.le_refl _) positive).2 (by omega)

/-- A part of a whole in percent is the exact quotient rounded to the nearest whole number, a half
upwards. A byte holds it without the stand-in, and words of 64 bits come to the same as long as the
sum fits them. It grows with the part. It is zero exactly for less than half a percent, and 100
exactly where no more than half a percent is left. -/
theorem roundedPercent_roundsHalfUp (within : part ≤ whole) (positive : 1 ≤ whole)
    (fits : 100 * whole + whole / 2 < 2 ^ 64) :
    ((roundedPercent part whole).toNat : ℤ) = round (100 * part / whole : ℚ) ∧
      byteOf? (cappedPercent part whole) = some (roundedPercent part whole) ∧
      byteOf? (cappedPercent (UInt64.ofNat part) (UInt64.ofNat whole)).toNat =
        some (roundedPercent part whole) ∧
      (∀ more, part ≤ more → more ≤ whole →
        roundedPercent part whole ≤ roundedPercent more whole) ∧
      (roundedPercent part whole = 0 ↔ 200 * part < whole) ∧
      (roundedPercent part whole = 100 ↔ 200 * (whole - part) ≤ whole) := by
  have held := byteOf?_cappedPercent part whole
  refine ⟨?_, held, ?_, ?_, roundedPercent_eq_zero_iff within positive,
    roundedPercent_eq_hundred_iff within positive⟩
  · rw [toNat_roundedPercent within positive]
    exact percent_eq_round part positive
  · rw [toNat_cappedPercent_words within fits, held]
  · intro more ordered below
    exact roundedPercent_le_roundedPercent ordered below positive

/-- An eighth is 12.5 percent, which is rounded to 13. -/
theorem roundedPercent_roundsHalfUp_eighth :
    1 ≤ 8 ∧ 100 * 8 + 8 / 2 < 2 ^ 64 ∧ roundedPercent 1 8 = 13 ∧
      ((roundedPercent 1 8).toNat : ℤ) = round (100 * (1 : Nat) / (8 : Nat) : ℚ) ∧
      byteOf? (cappedPercent (UInt64.ofNat 1) (UInt64.ofNat 8)).toNat = some 13 ∧
      roundedPercent 1 8 ≤ roundedPercent 7 8 ∧ (roundedPercent 7 8 = 100 ↔ 200 * (8 - 7) ≤ 8) := by
  have within : 1 ≤ 8 := by decide
  have fits : 100 * 8 + 8 / 2 < 2 ^ 64 := by decide
  obtain ⟨rounded, _, words, grows, _⟩ := roundedPercent_roundsHalfUp within within fits
  obtain ⟨_, _, _, _, _, whole⟩ := roundedPercent_roundsHalfUp (by decide : 7 ≤ 8) within fits
  exact ⟨within, fits, by decide, rounded, words, grows 7 (by decide) (by decide), whole⟩

end Questionnaire
