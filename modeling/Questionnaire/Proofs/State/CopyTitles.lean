import Mathlib.Data.Finset.Card
import Mathlib.Data.Finset.Dedup
import Mathlib.Data.Nat.Find
import Mathlib.Order.Interval.Finset.Nat
import Questionnaire.Proofs.State.Performing
import Questionnaire.Proofs.State.UniqueTitles
import Questionnaire.Proofs.Text.Blank

/-!
# Titles of copies

A title that is taken gets the least number from two on with which it is free. Different numbers
make different titles, and none of them is the title without a number, so that among as many numbers
as there are titles taken one is free. Where fewer than 2 ^ 32 - 2 titles are taken, a counter of
32 bits comes to that number and never past its end. The title of a copied template is found in this
way among the titles of all templates.
-/

namespace Questionnaire

variable {base title : String} {taken : List String} {number : Nat}

/-- With the number the title is free, and with all smaller ones from two on it is taken. -/
structure IsLeastFree (base : String) (taken : List String) (number : Nat) : Prop where
  two_le : 2 ≤ number
  free : numberedTitle base number ∉ taken
  least : ∀ smaller, 2 ≤ smaller → smaller < number → numberedTitle base smaller ∈ taken

/-- What a title is numbered from is the trimmed title, or the stand-in for a blank one. -/
theorem titleBase_eq (title : String) :
    titleBase title = if trim title = "" then "Untitled" else trim title := by
  rw [titleBase, if_congr isBlankText_iff rfl rfl]

theorem numberedTitle_ne_base (base : String) (number : Nat) :
    numberedTitle base number ≠ base := by
  intro same
  have chars := congrArg String.toList same
  rw [toList_numberedTitle] at chars
  exact absurd (List.append_right_eq_self.1 chars) (List.cons_ne_nil _ _)

/-- Of the numbers from two on, as many as there are titles taken, one makes a free title. -/
theorem exists_free_number (used : base ∈ taken) :
    ∃ number, 2 ≤ number ∧ number ≤ taken.toFinset.card + 1 ∧
      numberedTitle base number ∉ taken := by
  by_contra none
  push Not at none
  let candidates := (Finset.Icc 2 (taken.toFinset.card + 1)).image (numberedTitle base)
  have within : candidates ⊆ taken.toFinset.erase base := by
    intro candidate inside
    obtain ⟨number, range, rfl⟩ := Finset.mem_image.1 inside
    obtain ⟨low, high⟩ := Finset.mem_Icc.1 range
    exact Finset.mem_erase.2
      ⟨numberedTitle_ne_base base number, List.mem_toFinset.2 (none number low high)⟩
  have count : candidates.card = taken.toFinset.card := by
    rw [Finset.card_image_of_injective _ (numberedTitle_injective base), Nat.card_Icc]
    omega
  have isUsed : base ∈ taken.toFinset := List.mem_toFinset.2 used
  have fewer := Finset.card_le_card within
  have positive : 0 < taken.toFinset.card := Finset.card_pos.2 ⟨base, isUsed⟩
  rw [Finset.card_erase_of_mem isUsed] at fewer
  omega

theorem exists_isLeastFree (used : base ∈ taken) :
    ∃ number, IsLeastFree base taken number ∧ number ≤ taken.toFinset.card + 1 := by
  obtain ⟨some, low, high, free⟩ := exists_free_number used
  have exists_free : ∃ number, 2 ≤ number ∧ numberedTitle base number ∉ taken := ⟨some, low, free⟩
  obtain ⟨two_le, isFree⟩ := Nat.find_spec exists_free
  refine ⟨Nat.find exists_free, ⟨two_le, isFree, ?_⟩, ?_⟩
  · intro smaller from2 before
    by_contra notTaken
    exact Nat.find_min exists_free before ⟨from2, notTaken⟩
  · exact Nat.le_trans (Nat.find_min' exists_free ⟨low, free⟩) high

/-- A search that goes far enough finds the title with the least number. -/
theorem IsLeastFree.find? (least : IsLeastFree base taken number) {count : Nat}
    (reached : number < 2 + count) :
    (((List.range' 2 count).map (numberedTitle base)).find? fun candidate =>
      !taken.contains candidate) = some (numberedTitle base number) := by
  obtain ⟨two_le, free, isTaken⟩ := least
  have found : (List.range' 2 count).find?
      ((fun candidate => !taken.contains candidate) ∘ numberedTitle base) = some number := by
    rw [List.find?_range'_eq_some]
    refine ⟨by simpa using free, List.mem_range'_1.2 ⟨two_le, reached⟩, ?_⟩
    intro smaller from2 before
    simpa using isTaken smaller from2 before
  rw [List.find?_map, found, Option.map_some]

/-- A title that is taken gets the least number with which it is free. -/
theorem IsLeastFree.uniqueTitle_eq (least : IsLeastFree (titleBase title) taken number)
    (used : titleBase title ∈ taken) (bounded : number ≤ taken.toFinset.card + 1) :
    uniqueTitle title taken = numberedTitle (titleBase title) number := by
  have short : taken.toFinset.card ≤ taken.length := List.toFinset_card_le taken
  rw [uniqueTitle, if_pos (List.contains_iff_mem.2 used), least.find? (by omega), Option.getD_some]

/-- A template that is copied gets a title that no template had. -/
theorem duplicateTemplate_ok {session : Session} {id : String} {source : Template}
    (found : session.state.template? id = some source) :
    ∃ copy after, (Action.duplicateTemplate id).perform session = (.ok copy, after) ∧
      copy.title = uniqueTitle (stripCopyMarks source.title)
        (session.state.templates.map Template.title) ∧
      copy.title ∉ session.state.templates.map Template.title ∧
      after.state.templates = copy :: session.state.templates := by
  have outcome := Action.perform_duplicateTemplate id session
  rw [found] at outcome
  exact ⟨_, _, outcome, rfl, uniqueTitle_not_mem _ _, rfl⟩

/-- While fewer than 2 ^ 32 - 2 titles are taken, the unique title is none of them. It is the
trimmed title, or the stand-in for a blank one, if that is free. Otherwise it has the least number
from two on with which it is free; the search over all numbers of 32 bits finds it, and the number
after it still has 32 bits. So a template that is copied gets a title that differs from those of all
templates. -/
theorem uniqueTitle_isLeastFree :
    (∀ (title : String) (taken : List String), taken.toFinset.card < 2 ^ 32 - 2 →
      let base := if trim title = "" then "Untitled" else trim title
      uniqueTitle title taken ∉ taken ∧
      (base ∉ taken → uniqueTitle title taken = base) ∧
      (base ∈ taken → ∃ number, IsLeastFree base taken number ∧
        number + 1 < 2 ^ 32 ∧ uniqueTitle title taken = numberedTitle base number ∧
        (((List.range' 2 (2 ^ 32 - 2)).map (numberedTitle base)).find? fun candidate =>
          !taken.contains candidate) = some (uniqueTitle title taken))) ∧
    ∀ (session : Session) (id : String) (source : Template),
      session.state.template? id = some source →
      (session.state.templates.map Template.title).toFinset.card < 2 ^ 32 - 2 →
      ∃ copy after, (Action.duplicateTemplate id).perform session = (.ok copy, after) ∧
        copy.title = uniqueTitle (stripCopyMarks source.title)
          (session.state.templates.map Template.title) ∧
        after.state.templates = copy :: session.state.templates ∧
        ∀ template ∈ session.state.templates, copy.title ≠ template.title := by
  constructor
  · intro title taken few
    rw [← titleBase_eq]
    refine ⟨uniqueTitle_not_mem title taken, uniqueTitle_of_not_mem, fun used => ?_⟩
    obtain ⟨number, least, bounded⟩ := exists_isLeastFree used
    have numbered := least.uniqueTitle_eq used bounded
    refine ⟨number, least, by omega, numbered, ?_⟩
    rw [numbered]
    exact least.find? (by omega)
  · intro session id source found _
    obtain ⟨copy, after, copied, title, isNew, templates⟩ := duplicateTemplate_ok found
    refine ⟨copy, after, copied, title, templates, fun template inside same => isNew ?_⟩
    exact same ▸ List.mem_map_of_mem inside

/-- A copy of a copy gets the third number, as the second one is taken. Blanks around a title do not
count, and a blank title is stood in for. -/
theorem uniqueTitle_isLeastFree_third :
    let template (id title : String) : Template :=
      .ofVersion id title .custom .attorney (.draft 1 .empty) .epoch
    let state : State :=
      { templates := [template "c" "Demo (2)", template "b" "Copy of Demo", template "a" "Demo"] }
    let session : Session := ⟨state, { now := .epoch }⟩
    let taken := state.templates.map Template.title
    taken.toFinset.card < 2 ^ 32 - 2 ∧
      uniqueTitle " Demo " taken ∉ taken ∧ uniqueTitle " Demo " taken = "Demo (3)" ∧
      uniqueTitle " " taken = "Untitled" ∧
      ∃ copy after, (Action.duplicateTemplate "b").perform session = (.ok copy, after) ∧
        copy.title = "Demo (3)" ∧ ∀ template ∈ state.templates, copy.title ≠ template.title := by
  intro template state session taken
  have few : taken.toFinset.card < 2 ^ 32 - 2 := by decide +kernel
  obtain ⟨isNew, _, _⟩ := uniqueTitle_isLeastFree.1 " Demo " taken few
  obtain ⟨_, unnumbered, _⟩ := uniqueTitle_isLeastFree.1 " " taken few
  have blank : trim " " = "" := by decide +kernel
  rw [if_pos blank] at unnumbered
  have third : uniqueTitle " Demo " taken = "Demo (3)" := by decide +kernel
  have stripped : stripCopyMarks "Copy of Demo" = "Demo" := by decide +kernel
  have copied : uniqueTitle "Demo" taken = "Demo (3)" := by decide +kernel
  have found : session.state.template? "b" = some (template "b" "Copy of Demo") := by rfl
  obtain ⟨copy, after, performed, title, _, differs⟩ :=
    uniqueTitle_isLeastFree.2 session "b" _ found few
  refine ⟨few, isNew, third, unnumbered (by decide), copy, after, performed, ?_, differs⟩
  rw [title]
  exact (congrArg (uniqueTitle · taken) stripped).trans copied

end Questionnaire
