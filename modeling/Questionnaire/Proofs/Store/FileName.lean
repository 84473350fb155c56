import Mathlib.Logic.Function.Basic
import Questionnaire.Store.FileName
import Questionnaire.Store.FilePath

/-!
# File names tell keys apart

What stands for a byte in a file name is a code without prefixes: one character other than the
underscore, or an underscore and two digits. So distinct keys have distinct files. The staging file
of a key never has the name of a file, and of keys that are not empty each has a staging file of its
own; the empty key shares one with the key `.json`. Each name is one step on a path.
-/

namespace Questionnaire

/-- A name that is one step on a path, from a folder to another place. -/
structure IsStep (name : String) : Prop where
  /-- The name does not stay in the folder. -/
  leads : staysInFolder name = false
  /-- The name is not cut on a path. -/
  single : '/' ∉ name.toList

/-! ## The code of a byte -/

theorem toNat_charOfByte (byte : UInt8) : (Char.ofNat byte.toNat).toNat = byte.toNat := by
  have valid : byte.toNat.isValidChar := .inl (Nat.lt_of_lt_of_le byte.toNat_lt (by decide))
  rw [Char.ofNat, dif_pos valid]
  rfl

theorem charOfByte_inj {left right : UInt8}
    (same : Char.ofNat left.toNat = Char.ofNat right.toNat) : left = right := by
  refine UInt8.toNat_inj.1 ?_
  rw [← toNat_charOfByte left, same, toNat_charOfByte]

/-- A character that is no name byte does not stand for itself. -/
theorem charOfByte_ne {byte other : UInt8} (isName : isNameByte byte = true)
    (noName : isNameByte other = false) : Char.ofNat byte.toNat ≠ Char.ofNat other.toNat := by
  intro same
  rw [charOfByte_inj same, noName] at isName
  contradiction

theorem hexDigit_inj :
    ∀ left < 16, ∀ right < 16, hexDigit left = hexDigit right → left = right := by
  decide

theorem hexDigit_ne_slash : ∀ value < 16, hexDigit value ≠ '/' := by
  decide

theorem nameCharsOfByte_ne_nil (byte : UInt8) : nameCharsOfByte byte ≠ [] := by
  rw [nameCharsOfByte]
  split <;> exact List.cons_ne_nil _ _

/-- Whatever follows what stands for a byte, the byte and what follows can be told from it. -/
theorem nameCharsOfByte_append_inj {left right : UInt8} {leftRest rightRest : List Char}
    (same : nameCharsOfByte left ++ leftRest = nameCharsOfByte right ++ rightRest) :
    left = right ∧ leftRest = rightRest := by
  have noUnderscore : isNameByte 0x5F = false := by decide
  rw [nameCharsOfByte, nameCharsOfByte] at same
  by_cases leftName : isNameByte left = true
  · by_cases rightName : isNameByte right = true
    · rw [if_pos leftName, if_pos rightName] at same
      obtain ⟨sameChar, sameRest⟩ := List.cons.inj same
      exact ⟨charOfByte_inj sameChar, sameRest⟩
    · rw [if_pos leftName, if_neg rightName] at same
      exact absurd (List.cons.inj same).1 (charOfByte_ne leftName noUnderscore)
  · by_cases rightName : isNameByte right = true
    · rw [if_neg leftName, if_pos rightName] at same
      exact absurd (List.cons.inj same).1.symm (charOfByte_ne rightName noUnderscore)
    · rw [if_neg leftName, if_neg rightName] at same
      obtain ⟨high, sameLow⟩ := List.cons.inj (List.cons.inj same).2
      obtain ⟨low, sameRest⟩ := List.cons.inj sameLow
      have leftByte := left.toNat_lt
      have rightByte := right.toNat_lt
      have sameHigh := hexDigit_inj _ (by omega) _ (by omega) high
      have sameLowDigit := hexDigit_inj _ (by omega) _ (by omega) low
      exact ⟨UInt8.toNat_inj.1 (by omega), sameRest⟩

theorem slash_not_mem_nameCharsOfByte (byte : UInt8) : '/' ∉ nameCharsOfByte byte := by
  have noSlash : isNameByte 0x2F = false := by decide
  rw [nameCharsOfByte]
  split
  · rename_i isName
    intro inside
    exact charOfByte_ne isName noSlash (List.mem_singleton.1 inside).symm
  · have isByte := byte.toNat_lt
    have high := hexDigit_ne_slash (byte.toNat / 16) (by omega)
    have low := hexDigit_ne_slash (byte.toNat % 16) (by omega)
    simp [high.symm, low.symm]

/-! ## The code of a key -/

theorem flatMap_nameCharsOfByte_inj {left right : List UInt8}
    (same : left.flatMap nameCharsOfByte = right.flatMap nameCharsOfByte) : left = right := by
  induction left generalizing right with
  | nil =>
    cases right with
    | nil => rfl
    | cons byte rest =>
      have isNil := (List.append_eq_nil_iff.1 same.symm).1
      exact absurd isNil (nameCharsOfByte_ne_nil byte)
  | cons byte rest inductionHypothesis =>
    cases right with
    | nil =>
      have isNil := (List.append_eq_nil_iff.1 same).1
      exact absurd isNil (nameCharsOfByte_ne_nil byte)
    | cons other otherRest =>
      obtain ⟨rfl, sameRest⟩ := nameCharsOfByte_append_inj same
      rw [inductionHypothesis sameRest]

/-- Distinct keys have distinct characters in file names. -/
theorem nameCharsOfKey_injective : Function.Injective nameCharsOfKey := by
  intro left right same
  have sameBytes := flatMap_nameCharsOfByte_inj same
  exact String.toByteArray_inj.1 (ByteArray.ext (Array.toList_inj.1 sameBytes))

theorem slash_not_mem_nameCharsOfKey (key : String) : '/' ∉ nameCharsOfKey key := by
  intro inside
  obtain ⟨byte, _, ofByte⟩ := List.mem_flatMap.1 inside
  exact slash_not_mem_nameCharsOfByte byte ofByte

theorem toList_fileName (key : String) :
    (fileName key).toList = nameCharsOfKey key ++ ".json".toList := by
  rw [fileName, String.toList_append, String.toList_ofList]

/-- The characters of the staging file of a key. -/
theorem toList_stagingName {key : String} (noPoint : key ≠ ".") (nonempty : key ≠ "") :
    (stagingName key).toList = nameCharsOfKey key ++ ".json.tmp".toList := by
  have notEmpty : ¬ key.isEmpty = true := fun isEmpty => nonempty (String.isEmpty_iff.1 isEmpty)
  rw [stagingName, if_neg noPoint, if_neg notEmpty, String.toList_append, String.toList_ofList]

/-- A staging file has an ending that tells it from a file, save the one of the lone point. -/
theorem exists_toList_stagingName {key : String} (noPoint : key ≠ ".") :
    ∃ stem, '/' ∉ stem ∧ (stagingName key).toList = stem ++ ".json.tmp".toList := by
  by_cases isEmpty : key = ""
  · subst isEmpty
    exact ⟨".json".toList, by decide, by decide⟩
  · exact ⟨_, slash_not_mem_nameCharsOfKey key, toList_stagingName noPoint isEmpty⟩

/-- Distinct keys have distinct files. -/
theorem fileName_injective : Function.Injective fileName := by
  intro left right same
  have sameChars := congrArg String.toList same
  rw [toList_fileName, toList_fileName] at sameChars
  exact nameCharsOfKey_injective (List.append_cancel_right sameChars)

/-- Only the lone point has its staging file above the folder. -/
theorem stagingName_ne_above {key : String} (noPoint : key ≠ ".") : stagingName key ≠ ".." := by
  intro isAbove
  obtain ⟨stem, -, chars⟩ := exists_toList_stagingName noPoint
  rw [isAbove] at chars
  have sameLength := congrArg List.length chars
  rw [List.length_append] at sameLength
  have ofAbove : "..".toList.length = 2 := rfl
  have ofEnding : ".json.tmp".toList.length = 9 := rfl
  omega

/-- Distinct keys have distinct staging files, if none of them is empty. -/
theorem stagingName_inj {left right : String} (leftNonempty : left ≠ "")
    (rightNonempty : right ≠ "") (same : stagingName left = stagingName right) : left = right := by
  by_cases leftPoint : left = "."
  · by_contra distinct
    subst leftPoint
    exact stagingName_ne_above (Ne.symm distinct) same.symm
  · have rightPoint : right ≠ "." := by
      rintro rfl
      exact stagingName_ne_above leftPoint same
    have sameChars := congrArg String.toList same
    rw [toList_stagingName leftPoint leftNonempty,
      toList_stagingName rightPoint rightNonempty] at sameChars
    exact nameCharsOfKey_injective (List.append_cancel_right sameChars)

/-- No staging file has the name of a file. -/
theorem stagingName_ne_fileName (key other : String) : stagingName key ≠ fileName other := by
  intro same
  have sameLast := congrArg (fun name : String => name.toList.getLast?) same
  have ofFile : (nameCharsOfKey other ++ ".json".toList).getLast? = some 'n' := by
    rw [List.getLast?_append]
    rfl
  simp only [toList_fileName, ofFile] at sameLast
  by_cases isPoint : key = "."
  · subst isPoint
    exact absurd sameLast (by decide)
  · obtain ⟨stem, -, chars⟩ := exists_toList_stagingName isPoint
    have ofStaging : (stem ++ ".json.tmp".toList).getLast? = some 'p' := by
      rw [List.getLast?_append]
      rfl
    rw [chars, ofStaging] at sameLast
    exact absurd sameLast (by decide)

/-! ## The names are steps -/

/-- A name of two characters or more that holds no slash is one step. -/
theorem isStep_of_length {name : String} (long : 2 ≤ name.toList.length)
    (single : '/' ∉ name.toList) : IsStep name := by
  have ne_of_length {other : String} (short : other.toList.length < 2) : name ≠ other := by
    rintro rfl
    omega
  have notEmpty : name.isEmpty = false :=
    Bool.eq_false_iff.2 fun isEmpty => ne_of_length (by decide) (String.isEmpty_iff.1 isEmpty)
  have notPoint : (name == ".") = false := beq_false_of_ne (ne_of_length (by decide))
  exact ⟨by rw [staysInFolder, notEmpty, notPoint, Bool.or_false], single⟩

theorem isStep_fileName (key : String) : IsStep (fileName key) := by
  have chars := toList_fileName key
  have ofEnding : ".json".toList.length = 5 := rfl
  refine isStep_of_length ?_ ?_
  · rw [chars, List.length_append]
    omega
  · rw [chars, List.mem_append, not_or]
    exact ⟨slash_not_mem_nameCharsOfKey key, by decide⟩

theorem isStep_stagingName (key : String) : IsStep (stagingName key) := by
  by_cases isPoint : key = "."
  · subst isPoint
    exact isStep_of_length (by decide) (by decide)
  · obtain ⟨stem, noSlash, chars⟩ := exists_toList_stagingName isPoint
    have ofEnding : ".json.tmp".toList.length = 9 := rfl
    refine isStep_of_length ?_ ?_
    · rw [chars, List.length_append]
      omega
    · rw [chars, List.mem_append, not_or]
      exact ⟨noSlash, by decide⟩

end Questionnaire
