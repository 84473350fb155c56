import Mathlib.Data.List.TakeWhile
import Questionnaire.Text.Blank

/-!
# Trimmed characters

Characters are trimmed if neither the first nor the last of them is a blank. Trimming makes them so
and leaves them alone once they are. Of blanks alone it leaves nothing.
-/

namespace Questionnaire

/-- Neither the first nor the last of the characters is a blank. -/
structure IsTrimmed (chars : List Char) : Prop where
  /-- The first character is visible. -/
  head : ∀ char, chars.head? = some char → isBlankChar char = false
  /-- The last character is visible. -/
  last : ∀ char, chars.getLast? = some char → isBlankChar char = false

theorem trimStart_of_head {chars : List Char}
    (head : ∀ char, chars.head? = some char → isBlankChar char = false) :
    trimStart chars = chars := by
  cases chars with
  | nil => rfl
  | cons char rest =>
    rw [trimStart, List.dropWhile_cons_of_neg]
    simp [head char rfl]

theorem trimEnd_of_last {chars : List Char}
    (last : ∀ char, chars.getLast? = some char → isBlankChar char = false) :
    trimEnd chars = chars := by
  have reversed : trimStart chars.reverse = chars.reverse := by
    refine trimStart_of_head fun char isHead => last char ?_
    rwa [List.head?_reverse] at isHead
  rw [trimEnd, reversed, List.reverse_reverse]

/-- Trimmed characters stay as they are. -/
theorem IsTrimmed.trimChars {chars : List Char} (trimmed : IsTrimmed chars) :
    trimChars chars = chars := by
  rw [Questionnaire.trimChars, trimStart_of_head trimmed.head, trimEnd_of_last trimmed.last]

theorem head_trimStart (chars : List Char) (char : Char)
    (isHead : (trimStart chars).head? = some char) : isBlankChar char = false := by
  have stops := List.head?_dropWhile_not isBlankChar chars
  rw [trimStart] at isHead
  rw [isHead] at stops
  exact stops

theorem trimEnd_isPrefix (chars : List Char) : trimEnd chars <+: chars := by
  have suffix : trimStart chars.reverse <:+ chars.reverse := List.dropWhile_suffix _
  exact List.reverse_suffix.1 (by rwa [trimEnd, List.reverse_reverse])

theorem last_trimEnd (chars : List Char) (char : Char)
    (isLast : (trimEnd chars).getLast? = some char) : isBlankChar char = false := by
  rw [trimEnd, List.getLast?_reverse] at isLast
  exact head_trimStart _ _ isLast

/-- Trimming leaves trimmed characters. -/
theorem isTrimmed_trimChars (chars : List Char) : IsTrimmed (trimChars chars) where
  head := by
    intro char isHead
    obtain ⟨rest, whole⟩ := trimEnd_isPrefix (trimStart chars)
    have startsSo : (trimStart chars).head? = some char := by
      rw [← whole, List.head?_append, show (trimEnd (trimStart chars)).head? = _ from isHead]
      rfl
    exact head_trimStart chars char startsSo
  last := last_trimEnd _

theorem length_trimStart_le (chars : List Char) : (trimStart chars).length ≤ chars.length :=
  (List.dropWhile_suffix _).length_le

theorem length_trimEnd_le (chars : List Char) : (trimEnd chars).length ≤ chars.length :=
  (trimEnd_isPrefix chars).length_le

theorem length_trimChars_le (chars : List Char) : (trimChars chars).length ≤ chars.length :=
  Nat.le_trans (length_trimEnd_le _) (length_trimStart_le chars)

/-- Of a text of blanks nothing is left. -/
theorem trim_of_isBlankText {text : String} (blank : isBlankText text = true) : trim text = "" := by
  have nothing : trimStart text.toList = [] := List.dropWhile_eq_nil_iff.2 (List.all_eq_true.1 blank)
  rw [trim, trimChars, nothing]
  rfl

/-- A text is blank exactly if nothing is left of it. -/
theorem isBlankText_iff {text : String} : isBlankText text = true ↔ trim text = "" := by
  refine ⟨trim_of_isBlankText, fun nothing => ?_⟩
  have ended : trimEnd (trimStart text.toList) = [] := String.ofList_eq_empty_iff.1 nothing
  rw [trimEnd, List.reverse_eq_nil_iff] at ended
  have allBlank : ∀ char ∈ trimStart text.toList, isBlankChar char = true := fun char inside =>
    List.dropWhile_eq_nil_iff.1 ended char (List.mem_reverse.2 inside)
  refine List.all_eq_true.2 (List.dropWhile_eq_nil_iff.1 ?_)
  -- What is left at the front begins with a character that is no blank.
  refine List.head?_eq_none_iff.1 (Option.eq_none_iff_forall_ne_some.2 fun char isHead => ?_)
  have visible := head_trimStart text.toList char isHead
  rw [allBlank char (List.mem_of_head? isHead)] at visible
  contradiction

/-- A text that is a word, up to case and to blanks around it, is not blank. -/
theorem isBlankText_of_sameIgnoringCase {text word : String} (isWord : word ≠ "")
    (same : sameIgnoringCase (trim text) word = true) : isBlankText text = false := by
  by_contra blank
  rw [Bool.not_eq_false] at blank
  rw [trim_of_isBlankText blank, sameIgnoringCase, beq_iff_eq] at same
  have noLetters : word.toList = [] := List.map_eq_nil_iff.1 same.symm
  exact isWord (String.toList_eq_nil_iff.1 noLetters)

end Questionnaire
