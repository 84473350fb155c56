import Mathlib.Data.List.Nodup
import Questionnaire.Proofs.FirstMatch
import Questionnaire.Proofs.Title.CopyMarks
import Std.Data.String.ToNat

/-!
# Titles that are only the copy words

A cleaned title carries a mark of a copy if and only if the copy words are all that was left of it
and were taken. What cleaning makes of such a title in turn is no copy words, so that it is clean
from then on. The titles of a collection are clean after one pass if and only if those that are left
with the copy words differ from each other and from the titles that are kept.
-/

namespace Questionnaire

/-- The title without marks of a copy, or a stand-in if nothing else was in it. -/
def cleanTitle (title : String) : String :=
  titleBase (stripCopyMarks title)

theorem cleanTitle_clean (title : String) :
    IsTrimmed (cleanTitle title).toList ∧ IsUnmarked (cleanTitle title).toList ∧
      (cleanTitle title).toList ≠ [] := by
  obtain ⟨trimmed, unmarked⟩ := stripCopyMarks_clean title
  exact titleBase_clean trimmed unmarked

/-! ## Unique titles -/

/-- Different numbers make different titles. -/
theorem numberedTitle_injective (base : String) : Function.Injective (numberedTitle base) := by
  intro first second same
  rw [numberedTitle, numberedTitle] at same
  have digits := (String.append_right_inj _).1 ((String.append_left_inj _).1 same)
  exact Nat.repr_injective digits

variable {title : String} {taken : List String}

/-- A title that is free stays without a number. -/
theorem uniqueTitle_of_not_mem (free : titleBase title ∉ taken) :
    uniqueTitle title taken = titleBase title := by
  rw [uniqueTitle, if_neg]
  rwa [List.contains_iff_mem]

/-- A title that is taken gets a number with which it is free. -/
theorem uniqueTitle_of_mem (used : titleBase title ∈ taken) :
    ∃ number, uniqueTitle title taken = numberedTitle (titleBase title) number ∧
      uniqueTitle title taken ∉ taken := by
  have distinct :
      ((List.range' 2 (taken.length + 1)).map (numberedTitle (titleBase title))).Nodup :=
    List.Nodup.map (numberedTitle_injective _) List.nodup_range'
  have more : taken.length <
      ((List.range' 2 (taken.length + 1)).map (numberedTitle (titleBase title))).length := by
    simp
  obtain ⟨free, found, candidate, notTaken⟩ := exists_find?_free distinct more
  obtain ⟨number, _, same⟩ := List.mem_map.1 candidate
  have isFree : uniqueTitle title taken = free := by
    rw [uniqueTitle, if_pos (List.contains_iff_mem.2 used), found, Option.getD_some]
  exact ⟨number, by rw [isFree, same], by rwa [isFree]⟩

/-! ## Copy words with a number -/

instance (base : String) : Decidable (IsCopyWords base) :=
  inferInstanceAs (Decidable (_ = _))

/-- A blank has no case. -/
theorem toLower_of_isBlankChar {char : Char} (blank : isBlankChar char = true) :
    char.toLower = char := by
  refine dif_neg ?_
  rintro ⟨low, high⟩
  have from65 : 65 ≤ char.toNat := UInt32.le_iff_toNat_le.1 low
  have upTo90 : char.toNat ≤ 90 := UInt32.le_iff_toNat_le.1 high
  simp only [isBlankChar, Bool.or_eq_true, Bool.and_eq_true, decide_eq_true_eq, beq_iff_eq] at blank
  omega

variable {base : String}

theorem IsCopyWords.isTrimmed (words : IsCopyWords base) : IsTrimmed base.toList := by
  have visible {char lower : Char} (same : char.toLower = lower)
      (letter : isBlankChar lower = false) : isBlankChar char = false := by
    refine Bool.eq_false_iff.2 fun blank => ?_
    rw [← same, toLower_of_isBlankChar blank, blank] at letter
    contradiction
  constructor
  · intro char isHead
    have lower := congrArg List.head? words
    rw [List.head?_map, isHead] at lower
    exact visible (Option.some.inj lower) (by decide)
  · intro char isLast
    have lower := congrArg List.getLast? words
    rw [List.getLast?_map, isLast] at lower
    exact visible (Option.some.inj lower) (by decide)

theorem IsCopyWords.length (words : IsCopyWords base) : base.toList.length = 7 := by
  have lengths := congrArg List.length words
  rwa [List.length_map, List.length_map] at lengths

theorem not_isCopyWords_numberedTitle (base : String) (number : Nat) :
    ¬ IsCopyWords (numberedTitle base number) := by
  intro words
  have last := congrArg List.getLast? words
  rw [List.getLast?_map, toList_numberedTitle, ← List.cons_append, ← List.cons_append,
    ← List.append_assoc, List.getLast?_concat] at last
  exact absurd last (by decide)

/-- The copy words with a number begin like the title of a copy. -/
theorem IsCopyWords.afterCopyWords?_numberedTitle (words : IsCopyWords base) (number : Nat) :
    afterCopyWords? (numberedTitle base number).toList =
      some ('(' :: (Nat.toDigits 10 number ++ [')'])) := by
  have front : copyWords.length = base.toList.length := words.length.symm
  rw [toList_numberedTitle, afterCopyWords?, front, List.drop_left, if_pos]
  · rfl
  · refine ⟨?_, by rfl⟩
    rw [beginsWith, front, List.take_left]
    exact beq_iff_eq.2 words

/-- The number in brackets is trimmed and carries no mark of a copy. -/
theorem bracketedNumber_clean (number : Nat) :
    IsTrimmed ('(' :: (Nat.toDigits 10 number ++ [')'])) ∧
      IsUnmarked ('(' :: (Nat.toDigits 10 number ++ [')'])) := by
  refine ⟨⟨?_, ?_⟩, ?_, beforeCopyBracket?_number [] number⟩
  · intro char isHead
    rw [← Option.some.inj isHead]
    decide
  · intro char isLast
    rw [← List.cons_append, List.getLast?_concat] at isLast
    rw [← Option.some.inj isLast]
    decide
  · rw [afterCopyWords?, if_neg]
    rintro ⟨begins, _⟩
    have first : some '('.toLower = some 'C'.toLower :=
      congrArg List.head? (beq_iff_eq.1 begins)
    exact absurd first (by decide)

/-- A round leaves characters without marks as they are. -/
theorem stripCopyMarksOnce_of_isUnmarked {chars : List Char} (trimmed : IsTrimmed chars)
    (unmarked : IsUnmarked chars) : stripCopyMarksOnce chars = chars := by
  rw [stripCopyMarksOnce, unmarked.words, Option.getD_none, unmarked.bracket, Option.getD_none,
    trimmed.trimChars]

/-- Characters without marks are left as they are. -/
theorem stripCopyMarkChars_of_isUnmarked {chars : List Char} (trimmed : IsTrimmed chars)
    (unmarked : IsUnmarked chars) : stripCopyMarkChars chars = chars := by
  rw [stripCopyMarkChars, stripCopyMarksOnce_of_isUnmarked trimmed unmarked,
    if_neg (Nat.lt_irrefl _)]

/-- Of the copy words with a number, the number in brackets is left. -/
theorem IsCopyWords.stripCopyMarks_numberedTitle (words : IsCopyWords base) (number : Nat) :
    (stripCopyMarks (numberedTitle base number)).toList =
      '(' :: (Nat.toDigits 10 number ++ [')']) := by
  obtain ⟨trimmed, unmarked⟩ := bracketedNumber_clean number
  have nonempty : base.toList ≠ [] := by
    rw [← List.length_pos_iff, words.length]
    decide
  have once : stripCopyMarksOnce (numberedTitle base number).toList =
      '(' :: (Nat.toDigits 10 number ++ [')']) := by
    rw [stripCopyMarksOnce, words.afterCopyWords?_numberedTitle, Option.getD_some,
      unmarked.bracket, Option.getD_none, trimmed.trimChars]
  have shorter : (stripCopyMarksOnce (numberedTitle base number).toList).length <
      (numberedTitle base number).toList.length := by
    rw [once, toList_numberedTitle, List.length_append, words.length, List.length_cons,
      List.length_cons, List.length_cons]
    omega
  rw [stripCopyMarks, String.toList_ofList, (isTrimmed_numberedTitle words.isTrimmed nonempty
    number).trimChars, stripCopyMarkChars, if_pos shorter, once,
    stripCopyMarkChars_of_isUnmarked trimmed unmarked]

/-- Cleaning the copy words with a number leaves no copy words. -/
theorem not_isCopyWords_cleanTitle (numbered : IsNumberedCopyWords title) :
    ¬ IsCopyWords (cleanTitle title) := by
  obtain ⟨base, number, words, rfl⟩ := numbered
  have left := words.stripCopyMarks_numberedTitle number
  obtain ⟨trimmed, _⟩ := bracketedNumber_clean number
  have visible : ¬ isBlankText (stripCopyMarks (numberedTitle base number)) = true := by
    rw [isBlankText, left, List.all_cons]
    exact Bool.false_ne_true
  intro again
  rw [cleanTitle, titleBase, if_neg visible, trim, left, trimmed.trimChars, IsCopyWords,
    String.toList_ofList] at again
  have first : some '('.toLower = some 'C'.toLower := congrArg List.head? again
  exact absurd first (by decide)

/-! ## Cleaned titles -/

theorem hasCopyMark_numberedTitle_iff (trimmed : IsTrimmed base.toList)
    (unmarked : IsUnmarked base.toList) (nonempty : base.toList ≠ []) (number : Nat) :
    hasCopyMark (numberedTitle base number) = true ↔ IsCopyWords base := by
  refine ⟨isCopyWords_of_numberedTitle trimmed unmarked nonempty, fun words => ?_⟩
  rw [hasCopyMark, (isTrimmed_numberedTitle trimmed nonempty number).trimChars,
    words.afterCopyWords?_numberedTitle]
  rfl

/-- A cleaned title carries a mark of a copy if and only if it is left with the copy words and they
are taken. -/
theorem hasCopyMark_uniqueTitle_iff (title : String) (taken : List String) :
    hasCopyMark (uniqueTitle (stripCopyMarks title) taken) = true ↔
      IsCopyWords (cleanTitle title) ∧ cleanTitle title ∈ taken := by
  obtain ⟨trimmed, unmarked, nonempty⟩ := cleanTitle_clean title
  by_cases used : cleanTitle title ∈ taken
  · obtain ⟨number, numbered, _⟩ := uniqueTitle_of_mem used
    rw [numbered]
    exact (hasCopyMark_numberedTitle_iff trimmed unmarked nonempty number).trans
      (and_iff_left used).symm
  · have plain : uniqueTitle (stripCopyMarks title) taken = cleanTitle title :=
      uniqueTitle_of_not_mem used
    rw [plain, (hasCopyMark_of_isTrimmed trimmed).2 unmarked]
    exact ⟨nofun, fun words => absurd words.2 used⟩

/-- A cleaned title is the copy words only if it is left with them and they are free. -/
theorem cleanTitle_of_uniqueTitle (words : IsCopyWords (uniqueTitle (stripCopyMarks title) taken)) :
    cleanTitle title = uniqueTitle (stripCopyMarks title) taken ∧ cleanTitle title ∉ taken := by
  by_cases used : cleanTitle title ∈ taken
  · obtain ⟨number, numbered, _⟩ := uniqueTitle_of_mem used
    rw [numbered] at words
    exact absurd words (not_isCopyWords_numberedTitle _ number)
  · exact ⟨(uniqueTitle_of_not_mem used).symm, used⟩

/-- Cleaning changes every title that carries a mark of a copy. -/
theorem uniqueTitle_ne_of_hasCopyMark (marked : hasCopyMark title = true) (taken : List String) :
    uniqueTitle (stripCopyMarks title) taken ≠ title := by
  intro same
  have still : hasCopyMark (uniqueTitle (stripCopyMarks title) taken) = true := by rwa [same]
  have numbered := isNumberedCopyWords_of_cleaned still
  rw [same] at numbered
  exact not_isCopyWords_cleanTitle numbered ((hasCopyMark_uniqueTitle_iff title taken).1 still).1

end Questionnaire
