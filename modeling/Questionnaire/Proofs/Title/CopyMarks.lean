import Questionnaire.Proofs.Text.Blank
import Questionnaire.Title

/-!
# Titles without marks of a copy

A title that was stripped carries no mark of a copy. Making it unique may give it one again, but
only if all that was left of it are the copy words themselves: the number in brackets then stands
where the title of the copied template would.
-/

namespace Questionnaire

theorem length_of_beginsWith {text chars : List Char} (begins : beginsWith text chars = true) :
    text.length ≤ chars.length := by
  have same := congrArg List.length (beq_iff_eq.1 begins)
  rw [List.length_map, List.length_map, List.length_take] at same
  omega

theorem length_afterCopyWords?_lt {chars rest : List Char}
    (after : afterCopyWords? chars = some rest) : rest.length < chars.length := by
  simp only [afterCopyWords?, Option.ite_none_right_eq_some, Option.some.injEq] at after
  obtain ⟨⟨begins, _⟩, rfl⟩ := after
  have long : 7 ≤ chars.length := length_of_beginsWith begins
  have short := length_trimStart_le (chars.drop copyWords.length)
  rw [List.length_drop] at short
  have words : copyWords.length = 7 := rfl
  omega

theorem length_beforeCopyBracket?_lt {chars front : List Char}
    (before : beforeCopyBracket? chars = some front) : front.length < chars.length := by
  simp only [beforeCopyBracket?, Option.ite_none_right_eq_some, Option.some.injEq] at before
  obtain ⟨begins, rfl⟩ := before
  have long : 6 ≤ (trimEnd chars).reverse.length := length_of_beginsWith begins
  have trimmed := length_trimEnd_le chars
  have short := length_trimEnd_le
    ((trimEnd chars).reverse.drop copyBracket.length).reverse
  rw [List.length_reverse, List.length_drop, List.length_reverse] at short
  rw [List.length_reverse] at long
  have bracket : copyBracket.length = 6 := rfl
  omega

theorem length_getD_beforeCopyBracket?_le (chars : List Char) :
    ((beforeCopyBracket? chars).getD chars).length ≤ chars.length := by
  cases before : beforeCopyBracket? chars with
  | none => exact Nat.le_refl _
  | some front => exact Nat.le_of_lt (length_beforeCopyBracket?_lt before)

/-- The characters carry no mark of a copy. -/
structure IsUnmarked (chars : List Char) : Prop where
  /-- They do not begin with the copy words. -/
  words : afterCopyWords? chars = none
  /-- They do not end with the copy bracket. -/
  bracket : beforeCopyBracket? chars = none

/-- Taking marks off shortens the characters unless they carry none. -/
theorem isUnmarked_of_stripCopyMarksOnce {chars : List Char}
    (kept : ¬ (stripCopyMarksOnce chars).length < chars.length) : IsUnmarked chars := by
  have words : afterCopyWords? chars = none := by
    cases after : afterCopyWords? chars with
    | none => rfl
    | some rest =>
      have shorter := length_afterCopyWords?_lt after
      have front := length_getD_beforeCopyBracket?_le rest
      have trimmed := length_trimChars_le ((beforeCopyBracket? rest).getD rest)
      rw [stripCopyMarksOnce, after, Option.getD_some] at kept
      omega
  refine ⟨words, ?_⟩
  cases before : beforeCopyBracket? chars with
  | none => rfl
  | some front =>
    have shorter := length_beforeCopyBracket?_lt before
    have trimmed := length_trimChars_le front
    rw [stripCopyMarksOnce, words, Option.getD_none, before, Option.getD_some] at kept
    omega

/-- Stripping trimmed characters leaves trimmed characters without marks. -/
theorem stripCopyMarkChars_clean (chars : List Char) (trimmed : IsTrimmed chars) :
    IsTrimmed (stripCopyMarkChars chars) ∧ IsUnmarked (stripCopyMarkChars chars) := by
  fun_induction stripCopyMarkChars chars with
  | case1 chars next shorter inductionHypothesis =>
    exact inductionHypothesis (isTrimmed_trimChars _)
  | case2 chars next kept => exact ⟨trimmed, isUnmarked_of_stripCopyMarksOnce kept⟩

theorem hasCopyMark_of_isTrimmed {title : String} (trimmed : IsTrimmed title.toList) :
    hasCopyMark title = false ↔ IsUnmarked title.toList := by
  rw [hasCopyMark, trimmed.trimChars, Bool.or_eq_false_iff, Option.isSome_eq_false_iff,
    Option.isSome_eq_false_iff, Option.isNone_iff_eq_none, Option.isNone_iff_eq_none]
  exact ⟨fun clean => ⟨clean.1, clean.2⟩, fun clean => ⟨clean.words, clean.bracket⟩⟩

/-- A stripped title is trimmed and carries no mark. -/
theorem stripCopyMarks_clean (title : String) :
    IsTrimmed (stripCopyMarks title).toList ∧ IsUnmarked (stripCopyMarks title).toList := by
  rw [stripCopyMarks, String.toList_ofList]
  exact stripCopyMarkChars_clean _ (isTrimmed_trimChars _)

theorem untitled_clean : IsTrimmed "Untitled".toList ∧ IsUnmarked "Untitled".toList ∧
    "Untitled".toList ≠ [] := by
  have letters : "Untitled".toList = ['U', 'n', 't', 'i', 't', 'l', 'e', 'd'] := by decide
  rw [letters]
  refine ⟨⟨?_, ?_⟩, ⟨by decide, by decide⟩, by decide⟩
  · intro char isHead
    obtain rfl : 'U' = char := Option.some.inj isHead
    decide
  · intro char isLast
    obtain rfl : 'd' = char := Option.some.inj isLast
    decide

/-- What a title becomes unique from is trimmed and has no mark if the title is so. -/
theorem titleBase_clean {title : String} (trimmed : IsTrimmed title.toList)
    (unmarked : IsUnmarked title.toList) :
    IsTrimmed (titleBase title).toList ∧ IsUnmarked (titleBase title).toList ∧
      (titleBase title).toList ≠ [] := by
  by_cases blank : isBlankText title = true
  · rw [titleBase, if_pos blank]
    exact untitled_clean
  · have same : titleBase title = title := by
      rw [titleBase, if_neg blank, trim, trimmed.trimChars, String.ofList_toList]
    rw [same]
    refine ⟨trimmed, unmarked, ?_⟩
    intro empty
    rw [isBlankText, empty] at blank
    exact blank rfl

/-! ## Numbered titles -/

/-- The base is the copy words, in any case of letters. -/
def IsCopyWords (base : String) : Prop :=
  base.toList.map Char.toLower = copyWords.map Char.toLower

theorem toList_numberedTitle (base : String) (number : Nat) :
    (numberedTitle base number).toList =
      base.toList ++ ' ' :: '(' :: (Nat.toDigits 10 number ++ [')']) := by
  simp [numberedTitle, Nat.toString_eq_repr, Nat.toList_repr]

theorem beginsWith_copyWords (chars : List Char) :
    beginsWith copyWords chars = ((chars.take 7).map Char.toLower == copyWords.map Char.toLower) :=
  rfl

/-- Fewer than seven characters and a bracket do not begin with the copy words. -/
theorem not_beginsWith_copyWords {base rest : List Char} (short : base.length < 7) :
    beginsWith copyWords (base ++ ' ' :: '(' :: rest) = false := by
  rcases base with _ | ⟨first, _ | ⟨second, _ | ⟨third, _ | ⟨fourth, _ | ⟨fifth, _ | ⟨sixth, _ |
    ⟨seventh, longer⟩⟩⟩⟩⟩⟩⟩
  · rfl
  · simp [beginsWith, copyWords]
  · simp [beginsWith, copyWords]
  · simp [beginsWith, copyWords]
  · simp [beginsWith, copyWords]
  · simp [beginsWith, copyWords]
  · simp [beginsWith, copyWords]
  · simp only [List.length_cons] at short
    omega

theorem isTrimmed_numberedTitle {base : String} (trimmed : IsTrimmed base.toList)
    (nonempty : base.toList ≠ []) (number : Nat) :
    IsTrimmed (numberedTitle base number).toList := by
  rw [toList_numberedTitle]
  constructor
  · intro char isHead
    obtain ⟨first, rest, same⟩ := List.exists_cons_of_ne_nil nonempty
    rw [same] at isHead trimmed
    exact trimmed.head char isHead
  · intro char isLast
    rw [← List.cons_append, ← List.cons_append, ← List.append_assoc, List.getLast?_concat] at isLast
    rw [← Option.some.inj isLast]
    decide

theorem toLower_digit_ne {digit : Char} (isDigit : digit.isDigit = true) :
    digit.toLower ≠ 'y' := by
  have low : digit.toNat ≤ 57 := (Char.isDigit_iff_toNat.1 isDigit).2
  have small : ¬ (digit.val ≥ 'A'.val ∧ digit.val ≤ 'Z'.val) := by
    rintro ⟨upper, _⟩
    have high : 65 ≤ digit.toNat := UInt32.le_iff_toNat_le.1 upper
    omega
  have same : digit.toLower = digit := dif_neg small
  rw [same]
  rintro rfl
  exact absurd isDigit (by decide)

/-- A number in brackets is not the copy bracket. -/
theorem beforeCopyBracket?_number (front : List Char) (number : Nat) :
    beforeCopyBracket? (front ++ '(' :: (Nat.toDigits 10 number ++ [')'])) = none := by
  obtain ⟨earlier, digit, digits⟩ : ∃ earlier digit, Nat.toDigits 10 number = earlier ++ [digit] :=
    ⟨_, _, (List.dropLast_concat_getLast Nat.toDigits_ne_nil).symm⟩
  have isDigit : digit.isDigit = true := by
    refine Nat.isDigit_of_mem_toDigits (b := 10) (n := number) (by decide) (by decide) ?_
    rw [digits]
    exact List.mem_append_right earlier List.mem_cons_self
  have notLetter := toLower_digit_ne isDigit
  have whole : front ++ '(' :: (Nat.toDigits 10 number ++ [')']) =
      (front ++ '(' :: earlier) ++ [digit] ++ [')'] := by
    simp [digits]
  have visible : trimEnd ((front ++ '(' :: earlier) ++ [digit] ++ [')']) =
      (front ++ '(' :: earlier) ++ [digit] ++ [')'] := by
    refine trimEnd_of_last fun char isLast => ?_
    rw [List.getLast?_concat] at isLast
    rw [← Option.some.inj isLast]
    decide
  rw [beforeCopyBracket?, whole, visible]
  simp [beginsWith, copyBracket, notLetter]

theorem beforeCopyBracket?_numberedTitle (base : String) (number : Nat) :
    beforeCopyBracket? (numberedTitle base number).toList = none := by
  have bracket := beforeCopyBracket?_number (base.toList ++ [' ']) number
  rwa [List.append_assoc, List.singleton_append, ← toList_numberedTitle] at bracket

/-- A number in brackets makes a mark only of the copy words themselves. -/
theorem isCopyWords_of_numberedTitle {base : String} (trimmed : IsTrimmed base.toList)
    (unmarked : IsUnmarked base.toList) (nonempty : base.toList ≠ []) {number : Nat}
    (marked : hasCopyMark (numberedTitle base number) = true) : IsCopyWords base := by
  have isMarked : ¬ IsUnmarked (numberedTitle base number).toList := by
    rw [← hasCopyMark_of_isTrimmed (isTrimmed_numberedTitle trimmed nonempty number), marked]
    nofun
  have begins : beginsWith copyWords (numberedTitle base number).toList = true ∧
      ((numberedTitle base number).toList.drop 7).head?.any isBlankChar = true := by
    refine Classical.byContradiction fun unfit => ?_
    exact isMarked ⟨if_neg unfit, beforeCopyBracket?_numberedTitle base number⟩
  rw [toList_numberedTitle] at begins
  rcases Nat.lt_trichotomy base.toList.length 7 with short | exact | long
  · rw [not_beginsWith_copyWords short] at begins
    exact absurd begins.1 nofun
  · rw [beginsWith_copyWords] at begins
    have words := beq_iff_eq.1 begins.1
    rwa [List.take_append_of_le_length (Nat.le_of_eq exact.symm),
      List.take_of_length_le (Nat.le_of_eq exact)] at words
  · have remaining : base.toList.drop 7 ≠ [] := by
      rw [ne_eq, List.drop_eq_nil_iff]
      omega
    obtain ⟨next, rest, same⟩ := List.exists_cons_of_ne_nil remaining
    rw [beginsWith_copyWords, List.take_append_of_le_length (Nat.le_of_lt long),
      List.drop_append_of_le_length (Nat.le_of_lt long), same] at begins
    have words := unmarked.words
    rw [afterCopyWords?, if_pos] at words
    · contradiction
    · rw [show copyWords.length = 7 from rfl, same]
      exact begins

/-- A title is the copy words with a number in brackets. -/
def IsNumberedCopyWords (title : String) : Prop :=
  ∃ base number, IsCopyWords base ∧ title = numberedTitle base number

theorem uniqueTitle_eq (title : String) (taken : List String) :
    uniqueTitle title taken = titleBase title ∨
      ∃ number, uniqueTitle title taken = numberedTitle (titleBase title) number := by
  rw [uniqueTitle]
  split
  · cases found : ((List.range' 2 (taken.length + 1)).map (numberedTitle (titleBase title))).find?
        fun candidate => !taken.contains candidate with
    | none => exact .inl rfl
    | some candidate =>
      obtain ⟨number, _, same⟩ := List.mem_map.1 (List.mem_of_find?_eq_some found)
      exact .inr ⟨number, same.symm⟩
  · exact .inl rfl

/-- A cleaned title carries a mark of a copy only if it is the copy words with a number. -/
theorem isNumberedCopyWords_of_cleaned {title : String} {taken : List String}
    (marked : hasCopyMark (uniqueTitle (stripCopyMarks title) taken) = true) :
    IsNumberedCopyWords (uniqueTitle (stripCopyMarks title) taken) := by
  obtain ⟨stripped, unmarkedTitle⟩ := stripCopyMarks_clean title
  obtain ⟨trimmed, unmarked, nonempty⟩ := titleBase_clean stripped unmarkedTitle
  rcases uniqueTitle_eq (stripCopyMarks title) taken with plain | ⟨number, numbered⟩
  · rw [plain, (hasCopyMark_of_isTrimmed trimmed).2 unmarked] at marked
    contradiction
  · rw [numbered] at marked
    exact ⟨_, number, isCopyWords_of_numberedTitle trimmed unmarked nonempty marked, numbered⟩

/-! ## Passes over titles -/

/-- The titles that a pass leaves. -/
def renameTitles (taken : List String) : List (String × Bool) → List String
  | [] => []
  | (title, false) :: rest => title :: renameTitles taken rest
  | (title, true) :: rest =>
    let unique := uniqueTitle (stripCopyMarks title) taken
    unique :: renameTitles (unique :: taken) rest

/-- The titles that a pass leaves if those that are not marked are taken from the start. -/
def dedupeTitles (titles : List (String × Bool)) : List String :=
  renameTitles ((titles.filter fun title => !title.2).map (·.1)) titles

/-- The flag of a pass tells whether the titles that it leaves are others than those given. -/
theorem renamePass_eq (taken : List String) (changed : Bool) (titles : List (String × Bool)) :
    renamePass taken changed titles =
      (changed || titles.map Prod.fst != renameTitles taken titles, renameTitles taken titles) := by
  have step (title new : String) (rest : List (String × Bool)) (renamed : List String) :
      (title :: rest.map Prod.fst != new :: renamed) =
        (title != new || rest.map Prod.fst != renamed) := by
    rw [bne, List.cons_beq_cons, Bool.not_and]
    rfl
  induction titles generalizing taken changed with
  | nil => rw [renamePass, renameTitles, List.map_nil, bne_self_eq_false, Bool.or_false]
  | cons first rest inductionHypothesis =>
    obtain ⟨title, marked⟩ := first
    cases marked with
    | false =>
      simp only [renamePass, renameTitles, inductionHypothesis, List.map_cons, step,
        bne_self_eq_false, Bool.false_or]
    | true =>
      simp only [renamePass, renameTitles, inductionHypothesis, List.map_cons, step, Bool.or_assoc]

theorem dedupe_eq (titles : List (String × Bool)) :
    dedupe titles = (titles.map Prod.fst != dedupeTitles titles, dedupeTitles titles) := by
  rw [dedupe, renamePass_eq, Bool.false_or]
  rfl

/-- A title of a collection is left as it is, or it is cleaned. -/
theorem mem_zip_renameTitles (taken : List String) (titles : List (String × Bool)) :
    ∀ entry ∈ titles.zip (renameTitles taken titles),
      entry.1.2 = false ∧ entry.2 = entry.1.1 ∨
        ∃ taken, entry.2 = uniqueTitle (stripCopyMarks entry.1.1) taken := by
  induction titles generalizing taken with
  | nil => exact fun _ inside => absurd inside List.not_mem_nil
  | cons first rest inductionHypothesis =>
    obtain ⟨title, marked⟩ := first
    intro entry inside
    cases marked with
    | false =>
      rcases List.mem_cons.1 inside with rfl | later
      · exact .inl ⟨rfl, rfl⟩
      · exact inductionHypothesis _ entry later
    | true =>
      rcases List.mem_cons.1 inside with rfl | later
      · exact .inr ⟨taken, rfl⟩
      · exact inductionHypothesis _ entry later

end Questionnaire
