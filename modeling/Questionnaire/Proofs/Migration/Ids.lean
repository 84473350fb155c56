import Mathlib.Data.List.Nodup
import Mathlib.Order.Bounds.Basic
import Questionnaire.Migration.Conversion
import Questionnaire.Proofs.FirstMatch

/-!
# Ids of converted templates

A converted template takes an id that no template has when its turn comes, so the templates that a
document of the first schema gives have distinct ids, which are not among those taken before.
-/

namespace Questionnaire

theorem length_markedId (id : String) (marks : Nat) :
    (markedId id marks).toList.length = 3 * marks + id.toList.length := by
  have joined : (String.join (List.replicate marks "v1-")).toList.length = 3 * marks := by
    rw [String.toList_join, List.length_flatMap, List.map_replicate, List.sum_replicate_nat]
    exact Nat.mul_comm marks 3
  rw [markedId, String.toList_append, List.length_append, joined]

/-- An id with another number of marks is another id. -/
theorem markedId_injective (id : String) : Function.Injective (markedId id) := by
  intro first second same
  have lengths := congrArg (fun marked => marked.toList.length) same
  simp only [length_markedId] at lengths
  omega

/-- The search for a free id ends after at most as many marks as ids are taken, and at the least
number of marks that makes the id free. -/
theorem freeId_isLeast (id : String) (taken : List String) :
    ∃ marks ≤ taken.length, freeId id taken = markedId id marks ∧
      IsLeast {marks | markedId id marks ∉ taken} marks := by
  have distinct : ((List.range (taken.length + 1)).map (markedId id)).Nodup :=
    List.Nodup.map (markedId_injective id) List.nodup_range
  have more : taken.length < ((List.range (taken.length + 1)).map (markedId id)).length := by simp
  obtain ⟨free, found, _, notTaken⟩ := exists_find?_free distinct more
  have isFree : freeId id taken = free := by rw [freeId, found, Option.getD_some]
  rw [List.find?_map] at found
  obtain ⟨marks, first, rfl⟩ := Option.map_eq_some_iff.1 found
  obtain ⟨_, inRange, earlier⟩ := List.find?_range_eq_some.1 first
  refine ⟨marks, Nat.le_of_lt_succ (List.mem_range.1 inRange), isFree, notTaken, ?_⟩
  intro other otherFree
  refine Nat.le_of_not_lt fun less => otherFree ?_
  simpa using earlier other less

/-- The free id is not taken. -/
theorem freeId_not_mem (id : String) (taken : List String) : freeId id taken ∉ taken := by
  obtain ⟨marks, _, isFree, least⟩ := freeId_isLeast id taken
  rw [isFree]
  exact least.1

/-- The free id depends on which ids are taken only, not on their order. -/
theorem freeId_congr {taken other : List String} (same : ∀ id, id ∈ taken ↔ id ∈ other)
    (id : String) : freeId id taken = freeId id other := by
  obtain ⟨marks, _, isFree, least⟩ := freeId_isLeast id taken
  obtain ⟨otherMarks, _, otherFree, otherLeast⟩ := freeId_isLeast id other
  simp only [same] at least
  rw [isFree, otherFree, least.unique otherLeast]

/-- Converted templates have distinct ids, none of which was taken. -/
theorem ids_convertTemplates (now : Timestamp) (taken : List String) (flats : List FlatTemplate) :
    ((convertTemplates now taken flats).map Template.id).Nodup ∧
      ∀ template ∈ convertTemplates now taken flats, template.id ∉ taken := by
  induction flats generalizing taken with
  | nil => exact ⟨List.nodup_nil, fun _ inside => absurd inside List.not_mem_nil⟩
  | cons flat rest inductionHypothesis =>
    obtain ⟨laterDistinct, laterFree⟩ := inductionHypothesis (freeId (trim flat.id) taken :: taken)
    constructor
    · refine List.nodup_cons.2 ⟨?_, laterDistinct⟩
      intro repeated
      obtain ⟨later, inside, same⟩ := List.mem_map.1 repeated
      exact laterFree later inside (same ▸ List.mem_cons_self)
    · intro template inside
      rcases List.mem_cons.1 inside with same | later
      · rw [same]
        exact freeId_not_mem _ taken
      · exact fun isTaken => laterFree template later (List.mem_cons_of_mem _ isTaken)

/-- A template whose history is one version has this version active. -/
theorem Template.active?_of_singleton {template : Template} {version : TemplateVersion}
    (versions : template.versions = [version]) (active : template.activeVersion = version.number) :
    template.active? = some version := by
  rw [active?, version?, versions, active]
  exact List.find?_cons_of_pos (beq_self_eq_true _)

/-- A converted template has an active version. -/
theorem isSome_active?_convertTemplates {now : Timestamp} {taken : List String}
    {flats : List FlatTemplate} {template : Template}
    (inside : template ∈ convertTemplates now taken flats) : template.active?.isSome = true := by
  induction flats generalizing taken with
  | nil => exact absurd inside List.not_mem_nil
  | cons flat rest inductionHypothesis =>
    rcases List.mem_cons.1 inside with rfl | later
    · exact congrArg Option.isSome (Template.active?_of_singleton rfl rfl)
    · exact inductionHypothesis later

end Questionnaire
