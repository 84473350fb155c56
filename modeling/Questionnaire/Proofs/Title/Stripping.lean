import Mathlib.Algebra.Group.Nat.Defs
import Mathlib.Logic.Function.Iterate
import Questionnaire.Proofs.Title.CopyWords

/-!
# Stripping comes to an end

A title is stripped in rounds, each of which takes one mark of a copy off each end and trims what is
left. The marks are described here by how the characters are put together. A round that changes
anything makes the characters shorter, so the rounds come to an end, and what they end with is a
trimmed part of the title without a mark.
-/

namespace Questionnaire

/-! ## What a mark is -/

/-- The characters are all blanks. -/
def AreBlank (chars : List Char) : Prop :=
  ∀ char ∈ chars, isBlankChar char = true

/-- The characters are the word, in any case of letters. -/
def AreWord (word chars : List Char) : Prop :=
  chars.map Char.toLower = word.map Char.toLower

/-- The characters are the copy words, some blanks, all that there are, and the rest. -/
def IsAfterCopyWords (rest chars : List Char) : Prop :=
  ∃ words blanks, AreWord copyWords words ∧ AreBlank blanks ∧ blanks ≠ [] ∧
    (∀ char, rest.head? = some char → isBlankChar char = false) ∧
    chars = words ++ (blanks ++ rest)

/-- The characters are the front and the copy bracket, with all the blanks around it. -/
def IsBeforeCopyBracket (front chars : List Char) : Prop :=
  ∃ before bracket after, AreWord copyBracket bracket ∧ AreBlank before ∧ AreBlank after ∧
    (∀ char, front.getLast? = some char → isBlankChar char = false) ∧
    chars = front ++ before ++ bracket ++ after

theorem AreWord.length {word chars : List Char} (isWord : AreWord word chars) :
    chars.length = word.length := by
  have lengths := congrArg List.length isWord
  rwa [List.length_map, List.length_map] at lengths

theorem areBlank_takeWhile (chars : List Char) : AreBlank (chars.takeWhile isBlankChar) :=
  fun _ inside => List.mem_takeWhile_imp inside

theorem trimStart_append {blanks : List Char} (areBlank : AreBlank blanks) (rest : List Char) :
    trimStart (blanks ++ rest) = trimStart rest :=
  List.dropWhile_append_of_pos areBlank

theorem trimEnd_append {blanks : List Char} (areBlank : AreBlank blanks) (front : List Char) :
    trimEnd (front ++ blanks) = trimEnd front := by
  rw [trimEnd, List.reverse_append, trimStart_append, trimEnd]
  exact fun char inside => areBlank char (List.mem_reverse.1 inside)

/-- Trimming takes the blanks off the end and nothing else. -/
theorem exists_blanks_trimEnd (chars : List Char) :
    ∃ blanks, AreBlank blanks ∧ chars = trimEnd chars ++ blanks := by
  refine ⟨(chars.reverse.takeWhile isBlankChar).reverse, ?_, ?_⟩
  · exact fun char inside => areBlank_takeWhile _ char (List.mem_reverse.1 inside)
  · rw [trimEnd, ← List.reverse_append, trimStart, List.takeWhile_append_dropWhile,
      List.reverse_reverse]

/-- The copy words are found exactly where a title begins with them and blanks. -/
theorem afterCopyWords?_eq_some_iff {chars rest : List Char} :
    afterCopyWords? chars = some rest ↔ IsAfterCopyWords rest chars := by
  rw [afterCopyWords?, Option.ite_none_right_eq_some, Option.some.injEq]
  constructor
  · rintro ⟨⟨begins, blank⟩, rfl⟩
    refine ⟨chars.take copyWords.length, (chars.drop copyWords.length).takeWhile isBlankChar,
      beq_iff_eq.1 begins, areBlank_takeWhile _, ?_, head_trimStart _, ?_⟩
    · intro none
      cases tail : chars.drop copyWords.length with
      | nil => simp [tail] at blank
      | cons first others =>
        rw [tail, List.head?_cons, Option.any_some] at blank
        rw [tail, List.takeWhile_cons_of_pos blank] at none
        contradiction
    · rw [trimStart, List.takeWhile_append_dropWhile, List.take_append_drop]
  · rintro ⟨words, blanks, areWords, areBlank, some, head, rfl⟩
    rw [← areWords.length, List.drop_left, trimStart_append areBlank, trimStart_of_head head]
    refine ⟨⟨?_, ?_⟩, rfl⟩
    · rw [beginsWith, ← areWords.length, List.take_left]
      exact beq_iff_eq.2 areWords
    · obtain ⟨first, others, rfl⟩ := List.exists_cons_of_ne_nil some
      exact areBlank first List.mem_cons_self

/-- The copy bracket ends with no blank. -/
theorem AreWord.last_copyBracket {bracket : List Char} (isBracket : AreWord copyBracket bracket)
    (front : List Char) (char : Char) (isLast : (front ++ bracket).getLast? = some char) :
    isBlankChar char = false := by
  have lower := congrArg List.getLast? isBracket
  have nonempty : bracket ≠ [] := List.ne_nil_of_length_eq_add_one isBracket.length
  rw [List.getLast?_append_of_ne_nil _ nonempty] at isLast
  rw [List.getLast?_map, isLast] at lower
  refine Bool.eq_false_iff.2 fun blank => ?_
  rw [Option.map_some, toLower_of_isBlankChar blank] at lower
  rw [Option.some.inj lower] at blank
  exact absurd blank (by decide)

/-- The copy bracket is found exactly where a title ends with it, with or without blanks around. -/
theorem beforeCopyBracket?_eq_some_iff {chars front : List Char} :
    beforeCopyBracket? chars = some front ↔ IsBeforeCopyBracket front chars := by
  rw [beforeCopyBracket?, Option.ite_none_right_eq_some, Option.some.injEq]
  constructor
  · rintro ⟨begins, rfl⟩
    obtain ⟨after, afterBlank, whole⟩ := exists_blanks_trimEnd chars
    obtain ⟨before, beforeBlank, body⟩ := exists_blanks_trimEnd
      ((trimEnd chars).reverse.drop copyBracket.length).reverse
    refine ⟨before, ((trimEnd chars).reverse.take copyBracket.length).reverse, after, ?_,
      beforeBlank, afterBlank, last_trimEnd _, ?_⟩
    · rw [beginsWith, List.length_reverse, beq_iff_eq, List.map_reverse] at begins
      rw [AreWord, List.map_reverse, begins, List.reverse_reverse]
    · rw [← body, ← List.reverse_append, List.take_append_drop, List.reverse_reverse, ← whole]
  · rintro ⟨before, bracket, after, isBracket, beforeBlank, afterBlank, last, rfl⟩
    rw [trimEnd_append afterBlank, trimEnd_of_last (isBracket.last_copyBracket _),
      List.reverse_append]
    have front : copyBracket.length = bracket.reverse.length := by
      rw [List.length_reverse, isBracket.length]
    refine ⟨?_, ?_⟩
    · rw [beginsWith, List.length_reverse, front, List.take_left, List.map_reverse, isBracket,
        List.map_reverse]
      exact beq_self_eq_true _
    · rw [front, List.drop_left, List.reverse_reverse, trimEnd_append beforeBlank,
        trimEnd_of_last last]

/-- A title carries a mark if it begins with the copy words or ends with the copy bracket, apart
from blanks around it. -/
theorem hasCopyMark_iff (title : String) :
    hasCopyMark title = true ↔
      (∃ rest, IsAfterCopyWords rest (trimChars title.toList)) ∨
        ∃ front, IsBeforeCopyBracket front (trimChars title.toList) := by
  simp only [hasCopyMark, Bool.or_eq_true, Option.isSome_iff_exists, afterCopyWords?_eq_some_iff,
    beforeCopyBracket?_eq_some_iff]

/-! ## What is left -/

theorem trimChars_isInfix (chars : List Char) : trimChars chars <:+: chars :=
  (trimEnd_isPrefix _).isInfix.trans (List.dropWhile_suffix _).isInfix

/-- What follows the copy words is a part of the characters, and all of them if there are none. -/
theorem afterCopyWords?_isInfix (chars : List Char) :
    (afterCopyWords? chars).getD chars <:+: chars := by
  cases after : afterCopyWords? chars with
  | none => exact List.infix_rfl
  | some rest =>
    obtain ⟨words, blanks, _, _, _, _, rfl⟩ := afterCopyWords?_eq_some_iff.1 after
    exact ⟨words ++ blanks, [], by simp⟩

/-- What stands before the copy bracket is a part of the characters, and all of them if there is
none. -/
theorem beforeCopyBracket?_isInfix (chars : List Char) :
    (beforeCopyBracket? chars).getD chars <:+: chars := by
  cases before : beforeCopyBracket? chars with
  | none => exact List.infix_rfl
  | some front =>
    obtain ⟨blanks, bracket, after, _, _, _, _, rfl⟩ := beforeCopyBracket?_eq_some_iff.1 before
    exact ⟨[], blanks ++ bracket ++ after, by simp⟩

theorem stripCopyMarksOnce_isInfix (chars : List Char) : stripCopyMarksOnce chars <:+: chars :=
  (trimChars_isInfix _).trans
    ((beforeCopyBracket?_isInfix _).trans (afterCopyWords?_isInfix chars))

theorem stripCopyMarkChars_isInfix (chars : List Char) : stripCopyMarkChars chars <:+: chars := by
  fun_induction stripCopyMarkChars chars with
  | case1 chars next shorter inductionHypothesis =>
    exact inductionHypothesis.trans (stripCopyMarksOnce_isInfix chars)
  | case2 chars next kept => exact List.infix_rfl

/-! ## The rounds -/

/-- So many rounds change the characters, and the next one leaves the result as it is. -/
structure SettlesIn (rounds : Nat) (chars result : List Char) : Prop where
  reached : stripCopyMarksOnce^[rounds] chars = result
  /-- No round before that leaves the characters as they are. -/
  changing : ∀ earlier < rounds,
    stripCopyMarksOnce^[earlier + 1] chars ≠ stripCopyMarksOnce^[earlier] chars
  settled : stripCopyMarksOnce result = result

/-- A round that changes something comes first. -/
theorem SettlesIn.cons {rounds : Nat} {chars result : List Char}
    (settles : SettlesIn rounds (stripCopyMarksOnce chars) result)
    (changes : stripCopyMarksOnce chars ≠ chars) : SettlesIn (rounds + 1) chars result where
  reached := settles.reached
  changing earlier before := by
    cases earlier with
    | zero => exact changes
    | succ earlier => exact settles.changing earlier (Nat.lt_of_succ_lt_succ before)
  settled := settles.settled

/-- Trimmed characters settle in no more rounds than there are characters. -/
theorem exists_settlesIn {chars : List Char} (trimmed : IsTrimmed chars) :
    ∃ rounds ≤ chars.length, SettlesIn rounds chars (stripCopyMarkChars chars) := by
  fun_induction stripCopyMarkChars chars with
  | case1 chars next shorter inductionHypothesis =>
    obtain ⟨rounds, few, settles⟩ := inductionHypothesis (isTrimmed_trimChars _)
    have changes : stripCopyMarksOnce chars ≠ chars :=
      fun same => Nat.lt_irrefl _ (same ▸ shorter)
    exact ⟨rounds + 1, Nat.succ_le_of_lt (Nat.lt_of_le_of_lt few shorter), settles.cons changes⟩
  | case2 chars next kept =>
    have settled : stripCopyMarksOnce chars = chars :=
      stripCopyMarksOnce_of_isUnmarked trimmed (isUnmarked_of_stripCopyMarksOnce kept)
    exact ⟨0, Nat.zero_le _, rfl, fun _ before => absurd before (Nat.not_lt_zero _), settled⟩

/-- A stripped title carries no mark. -/
theorem hasCopyMark_stripCopyMarks (title : String) :
    hasCopyMark (stripCopyMarks title) = false := by
  obtain ⟨trimmed, unmarked⟩ := stripCopyMarks_clean title
  exact (hasCopyMark_of_isTrimmed trimmed).2 unmarked

/-- A title without a mark is only trimmed. -/
theorem stripCopyMarks_of_clean {title : String} (clean : hasCopyMark title = false) :
    stripCopyMarks title = trim title := by
  have trimmed : IsTrimmed (trim title).toList := by
    rw [trim, String.toList_ofList]
    exact isTrimmed_trimChars _
  have unmarked : IsUnmarked (trim title).toList := by
    rw [← hasCopyMark_of_isTrimmed trimmed, hasCopyMark, trimmed.trimChars, trim,
      String.toList_ofList]
    exact clean
  rw [trim, String.toList_ofList] at trimmed unmarked
  rw [stripCopyMarks, stripCopyMarkChars_of_isUnmarked trimmed unmarked, trim]

theorem hasCopyMark_trim (title : String) : hasCopyMark (trim title) = hasCopyMark title := by
  rw [hasCopyMark, trim, String.toList_ofList, (isTrimmed_trimChars _).trimChars, hasCopyMark]

/-- Stripping settles on a clean title. The rounds, of which there are no more than characters, end
with the first one that changes nothing. What is left is trimmed, begins with no copy words and ends
with no copy bracket, is a contiguous part of the title, and stays as it is when it is stripped
again. It is the trimmed title exactly if that carries no mark. -/
theorem stripCopyMarks_settles (title : String) :
    (∃ rounds ≤ title.length,
      SettlesIn rounds (trimChars title.toList) (stripCopyMarks title).toList) ∧
    IsTrimmed (stripCopyMarks title).toList ∧
    hasCopyMark (stripCopyMarks title) = false ∧
    (∀ part, ¬ IsAfterCopyWords part (stripCopyMarks title).toList ∧
      ¬ IsBeforeCopyBracket part (stripCopyMarks title).toList) ∧
    (stripCopyMarks title).toList <:+: title.toList ∧
    stripCopyMarks (stripCopyMarks title) = stripCopyMarks title ∧
    (stripCopyMarks title = trim title ↔ hasCopyMark title = false) := by
  obtain ⟨trimmed, unmarked⟩ := stripCopyMarks_clean title
  have clean := hasCopyMark_stripCopyMarks title
  refine ⟨?_, trimmed, clean, fun part => ⟨fun after => ?_, fun before => ?_⟩, ?_, ?_, ?_⟩
  · obtain ⟨rounds, few, settles⟩ := exists_settlesIn (isTrimmed_trimChars title.toList)
    refine ⟨rounds, Nat.le_trans few (length_trimChars_le _), ?_⟩
    rwa [stripCopyMarks, String.toList_ofList]
  · rw [← afterCopyWords?_eq_some_iff, unmarked.words] at after
    contradiction
  · rw [← beforeCopyBracket?_eq_some_iff, unmarked.bracket] at before
    contradiction
  · rw [stripCopyMarks, String.toList_ofList]
    exact (stripCopyMarkChars_isInfix _).trans (trimChars_isInfix _)
  · rw [stripCopyMarks_of_clean clean, trim, trimmed.trimChars, String.ofList_toList]
  · refine ⟨fun same => ?_, stripCopyMarks_of_clean⟩
    rw [← hasCopyMark_trim, ← same, clean]

/-- Marks are stacked on a title that is inside of blanks. -/
example : stripCopyMarks " Copy of copy OF\tDemo (Copy)(copy) " = "Demo" := by decide +kernel

end Questionnaire
