import Mathlib.Data.List.Perm.Subperm
import Questionnaire.FirstMatch

/-!
# Keys of first matches

A change of the first match that keeps the keys keeps the list of all keys. An element is the first
match of its key exactly where no element before it has the key, which is so for all of them where
keys are distinct. A free name is searched among numbered candidates; if there are more candidates
than names taken, one of them is free.
-/

namespace Questionnaire

/-- A change that keeps the keys of the matches keeps all keys. -/
theorem map_modifyFirst {α κ : Type} (key : α → κ) {test : α → Bool} {change : α → α}
    {items : List α} (kept : ∀ item, test item = true → key (change item) = key item) :
    (modifyFirst test change items).map key = items.map key := by
  induction items with
  | nil => rfl
  | cons first rest inductionHypothesis =>
    rw [modifyFirst]
    split
    · rename_i matched
      rw [List.map_cons, List.map_cons, kept first matched]
    · rw [List.map_cons, List.map_cons, inductionHypothesis]

/-- An element with a new key keeps the keys distinct. -/
theorem nodup_map_cons {α κ : Type} {key : α → κ} {item : α} {items : List α}
    (isNew : ∀ other ∈ items, key other ≠ key item) (distinct : (items.map key).Nodup) :
    ((item :: items).map key).Nodup := by
  refine List.nodup_cons.2 ⟨fun used => ?_, distinct⟩
  obtain ⟨other, inside, same⟩ := List.mem_map.1 used
  exact isNew other inside same

/-- Where keys are distinct, an element is the first one with its key. -/
theorem find?_of_distinct {α κ : Type} [BEq κ] [LawfulBEq κ] {key : α → κ} {item : α}
    {items : List α} (distinct : (items.map key).Nodup) (inside : item ∈ items) :
    items.find? (fun other => key other == key item) = some item := by
  induction items with
  | nil => exact absurd inside List.not_mem_nil
  | cons first rest inductionHypothesis =>
    obtain ⟨isNew, distinctRest⟩ := List.nodup_cons.1 distinct
    rcases List.mem_cons.1 inside with rfl | insideRest
    · exact List.find?_cons_of_pos (beq_self_eq_true _)
    · have apart : key first ≠ key item :=
        fun same => isNew (same ▸ List.mem_map_of_mem insideRest)
      rw [find?_cons_of_ne key rest apart, inductionHypothesis distinctRest insideRest]

/-- Among items that pass a test, none is repeated and each is the first one with its key, exactly
if no item before one of them has its key. -/
theorem pairwise_key_ne_iff {α κ : Type} [BEq κ] [LawfulBEq κ] {key : α → κ} {test : α → Bool}
    {items : List α} :
    (items.Pairwise fun earlier later => test later = true → key earlier ≠ key later) ↔
      (items.filter test).Nodup ∧ ∀ item ∈ items, test item = true →
        items.find? (fun other => key other == key item) = some item := by
  induction items with
  | nil => simp only [List.Pairwise.nil, List.filter_nil, List.nodup_nil, List.not_mem_nil,
      false_implies, implies_true, and_self]
  | cons first rest inductionHypothesis =>
    rw [List.pairwise_cons, inductionHypothesis]
    constructor
    · rintro ⟨firstApart, distinct, found⟩
      refine ⟨?_, List.forall_mem_cons.2 ⟨fun _ => List.find?_cons_of_pos (beq_self_eq_true _),
        fun item inside passes => ?_⟩⟩
      · rw [List.filter_cons]
        split_ifs with passes
        · refine List.nodup_cons.2 ⟨fun again => ?_, distinct⟩
          exact firstApart first (List.mem_of_mem_filter again) passes rfl
        · exact distinct
      · rw [find?_cons_of_ne key rest (firstApart item inside passes), found item inside passes]
    · rintro ⟨distinct, found⟩
      have firstApart : ∀ item ∈ rest, test item = true → key first ≠ key item := by
        intro item inside passes same
        have isFirst : (first :: rest).find? (fun other => key other == key item) = some first :=
          List.find?_cons_of_pos (beq_iff_eq.2 same)
        obtain rfl := Option.some.inj
          (isFirst.symm.trans (found item (List.mem_cons_of_mem _ inside) passes))
        rw [List.filter_cons_of_pos passes, List.nodup_cons] at distinct
        exact distinct.1 (List.mem_filter.2 ⟨inside, passes⟩)
      refine ⟨firstApart, distinct.sublist ((List.sublist_cons_self _ _).filter _),
        fun item inside passes => ?_⟩
      rw [← find?_cons_of_ne key rest (firstApart item inside passes)]
      exact found item (List.mem_cons_of_mem _ inside) passes

/-- Among more candidates than names taken, the first free one is found. -/
theorem exists_find?_free {candidates taken : List String} (distinct : candidates.Nodup)
    (more : taken.length < candidates.length) :
    ∃ free, candidates.find? (fun candidate => !taken.contains candidate) = some free ∧
      free ∈ candidates ∧ free ∉ taken := by
  cases found : candidates.find? fun candidate => !taken.contains candidate with
  | some free =>
    have isFree := List.find?_some found
    exact ⟨free, rfl, List.mem_of_find?_eq_some found, by simpa using isFree⟩
  | none =>
    have within : candidates ⊆ taken := by
      intro candidate inside
      simpa using List.find?_eq_none.1 found candidate inside
    have short := (List.subperm_of_subset distinct within).length_le
    omega

end Questionnaire
