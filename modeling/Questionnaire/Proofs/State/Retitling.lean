import Questionnaire.Migration.Rehydration
import Questionnaire.Proofs.Title.CopyMarks
import Questionnaire.State.Retitling

/-!
# Clean titles stay

A state in which no title is to be cleaned is left as it is. In any state, cleaning changes nothing
besides titles, so the intake carries the catalog afterwards if it did before.
-/

namespace Questionnaire

theorem length_renameTitles (taken : List String) (titles : List (String × Bool)) :
    (renameTitles taken titles).length = titles.length := by
  induction titles generalizing taken with
  | nil => rfl
  | cons first rest inductionHypothesis =>
    obtain ⟨title, marked⟩ := first
    cases marked with
    | false => rw [renameTitles, List.length_cons, inductionHypothesis, List.length_cons]
    | true => rw [renameTitles, List.length_cons, inductionHypothesis, List.length_cons]

@[simp] theorem length_dedupeTitles (titles : List (String × Bool)) :
    (dedupeTitles titles).length = titles.length :=
  length_renameTitles _ titles

theorem renameTitles_unmarked (taken : List String) {titles : List (String × Bool)}
    (unmarked : ∀ title ∈ titles, title.2 = false) :
    renameTitles taken titles = titles.map Prod.fst := by
  induction titles with
  | nil => rfl
  | cons first rest inductionHypothesis =>
    obtain ⟨title, marked⟩ := first
    obtain rfl : marked = false := unmarked (title, marked) List.mem_cons_self
    rw [renameTitles, List.map_cons,
      inductionHypothesis fun other inside => unmarked other (List.mem_cons_of_mem _ inside)]

/-- Titles none of which is marked are left as they are. -/
theorem dedupeTitles_unmarked {titles : List (String × Bool)}
    (unmarked : ∀ title ∈ titles, title.2 = false) : dedupeTitles titles = titles.map Prod.fst :=
  renameTitles_unmarked _ unmarked

/-! ## Templates and assignments -/

/-- A pass over templates puts new titles in place, and tells whether any of them is another. -/
theorem retitleTemplates_eq (templates : List Template) :
    retitleTemplates templates =
      let titles := dedupeTitles <| templates.map fun template =>
        (template.title, template.needsTitle)
      (templates.map Template.title != titles,
        templates.zipWith (fun template title => { template with title }) titles) := by
  rw [retitleTemplates, dedupe_eq, List.map_map]
  rfl

/-- A pass over assignments puts new titles in place, and tells whether any of them is another. -/
theorem retitleAssignments_eq (assignments : List Assignment) :
    retitleAssignments assignments =
      let titles := dedupeTitles <| assignments.map fun assignment =>
        (assignment.title, hasCopyMark assignment.title)
      (assignments.map Assignment.title != titles,
        assignments.zipWith (fun assignment title => { assignment with title }) titles) := by
  rw [retitleAssignments, dedupe_eq, List.map_map]
  rfl

@[simp] theorem length_retitleTemplates (templates : List Template) :
    (retitleTemplates templates).2.length = templates.length := by
  simp [retitleTemplates_eq]

theorem retitleTemplates_eq_self {templates : List Template}
    (clean : ∀ template ∈ templates, template.needsTitle = false) :
    retitleTemplates templates = (false, templates) := by
  have titles : dedupeTitles (templates.map fun template =>
      (template.title, template.needsTitle)) = templates.map Template.title := by
    rw [dedupeTitles_unmarked, List.map_map]
    · rfl
    · simpa using clean
  rw [retitleTemplates_eq]
  dsimp only
  rw [titles, bne_self_eq_false, List.zipWith_map_right, List.zipWith_self]
  exact congrArg (Prod.mk false) (List.map_id' templates)

theorem retitleAssignments_eq_self {assignments : List Assignment}
    (clean : ∀ assignment ∈ assignments, hasCopyMark assignment.title = false) :
    retitleAssignments assignments = (false, assignments) := by
  have titles : dedupeTitles (assignments.map fun assignment =>
      (assignment.title, hasCopyMark assignment.title)) = assignments.map Assignment.title := by
    rw [dedupeTitles_unmarked, List.map_map]
    · rfl
    · simpa using clean
  rw [retitleAssignments_eq]
  dsimp only
  rw [titles, bne_self_eq_false, List.zipWith_map_right, List.zipWith_self]
  exact congrArg (Prod.mk false) (List.map_id' assignments)

/-- The title that an entry of a collection gets is its own, or it is cleaned and then carries a
mark of a copy only if it is the copy words with a number. -/
theorem mem_zip_dedupeTitles {α : Type} {title : α → String} {isMarked : α → Bool}
    {items : List α} :
    ∀ entry ∈ items.zip (dedupeTitles (items.map fun item => (title item, isMarked item))),
      isMarked entry.1 = false ∧ entry.2 = title entry.1 ∨
        (hasCopyMark entry.2 = true → IsNumberedCopyWords entry.2) := by
  intro entry inside
  have renamed : ((title entry.1, isMarked entry.1), entry.2) ∈
      (items.map fun item => (title item, isMarked item)).zip
        (dedupeTitles (items.map fun item => (title item, isMarked item))) := by
    rw [List.zip_map_left]
    exact List.mem_map_of_mem inside
  rcases mem_zip_renameTitles _ _ _ renamed with kept | ⟨taken, cleaned⟩
  · exact .inl kept
  · right
    rw [show entry.2 = _ from cleaned]
    exact isNumberedCopyWords_of_cleaned

/-- A template that still is to be cleaned is titled by the copy words with a number. -/
theorem isNumberedCopyWords_of_needsTitle {templates : List Template} {template : Template}
    (inside : template ∈ (retitleTemplates templates).2) (needs : template.needsTitle = true) :
    IsNumberedCopyWords template.title := by
  simp only [retitleTemplates_eq, ← List.map_uncurry_zip_eq_zipWith] at inside
  obtain ⟨⟨original, title⟩, entry, rfl⟩ := List.mem_map.1 inside
  rcases mem_zip_dedupeTitles _ entry with ⟨unmarked, same⟩ | cleaned
  · obtain rfl : title = original.title := same
    exact absurd (needs.symm.trans unmarked) nofun
  · exact cleaned (Bool.and_eq_true_iff.1 needs).2

theorem isNumberedCopyWords_of_hasCopyMark {assignments : List Assignment}
    {assignment : Assignment} (inside : assignment ∈ (retitleAssignments assignments).2)
    (marked : hasCopyMark assignment.title = true) : IsNumberedCopyWords assignment.title := by
  simp only [retitleAssignments_eq, ← List.map_uncurry_zip_eq_zipWith] at inside
  obtain ⟨⟨original, title⟩, entry, rfl⟩ := List.mem_map.1 inside
  rcases mem_zip_dedupeTitles _ entry with ⟨unmarked, same⟩ | cleaned
  · obtain rfl : title = original.title := same
    exact absurd (marked.symm.trans unmarked) nofun
  · exact cleaned marked

/-- A collection gets the titles that it is given. -/
theorem map_title_zipWith {α : Type} {title : α → String} {retitle : α → String → α}
    {items : List α} {titles : List String} (given : ∀ item new, title (retitle item new) = new)
    (lengths : titles.length = items.length) :
    (items.zipWith retitle titles).map title = titles := by
  rw [← List.map_uncurry_zip_eq_zipWith, List.map_map]
  have second : title ∘ Function.uncurry retitle = Prod.snd := by
    funext (item, new)
    exact given item new
  rw [second, List.map_snd_zip (Nat.le_of_eq lengths)]

/-- A property of the first template with an id that does not depend on titles is kept by any new
titles. -/
theorem any_find?_zipWith_title {property : Template → Bool}
    (blind : ∀ template title, property { template with title } = property template)
    (id : String) {templates : List Template} {titles : List String}
    (lengths : titles.length = templates.length) :
    ((templates.zipWith (fun template title => { template with title }) titles).find?
        fun template => template.id == id).any property =
      (templates.find? fun template => template.id == id).any property := by
  induction templates generalizing titles with
  | nil => rfl
  | cons template rest inductionHypothesis =>
    cases titles with
    | nil => contradiction
    | cons title titles =>
      rw [List.zipWith_cons_cons, List.find?_cons, List.find?_cons]
      cases template.id == id with
      | true => exact blind template title
      | false => exact inductionHypothesis (Nat.succ.inj lengths)

namespace State

theorem templates_normalizeTitles (state : State) :
    state.normalizeTitles.2.templates =
      state.templates.zipWith (fun template title => { template with title })
        (dedupeTitles (state.templates.map fun template =>
          (template.title, template.needsTitle))) := by
  simp only [normalizeTitles, retitleTemplates_eq]

theorem assignments_normalizeTitles (state : State) :
    state.normalizeTitles.2.assignments =
      state.assignments.zipWith (fun assignment title => { assignment with title })
        (dedupeTitles (state.assignments.map fun assignment =>
          (assignment.title, hasCopyMark assignment.title))) := by
  simp only [normalizeTitles, retitleAssignments_eq]

theorem map_title_templates (state : State) :
    state.normalizeTitles.2.templates.map Template.title =
      dedupeTitles (state.templates.map fun template =>
        (template.title, template.needsTitle)) := by
  rw [templates_normalizeTitles]
  exact map_title_zipWith (fun _ _ => rfl) (by simp)

theorem map_title_assignments (state : State) :
    state.normalizeTitles.2.assignments.map Assignment.title =
      dedupeTitles (state.assignments.map fun assignment =>
        (assignment.title, hasCopyMark assignment.title)) := by
  rw [assignments_normalizeTitles]
  exact map_title_zipWith (fun _ _ => rfl) (by simp)

/-- The flag of a pass tells whether the templates have other titles or the assignments have. -/
theorem normalizeTitles_fst (state : State) :
    state.normalizeTitles.1 =
      (state.templates.map Template.title !=
          state.normalizeTitles.2.templates.map Template.title ||
        state.assignments.map Assignment.title !=
          state.normalizeTitles.2.assignments.map Assignment.title) := by
  rw [map_title_templates, map_title_assignments]
  simp only [normalizeTitles, retitleTemplates_eq, retitleAssignments_eq]

/-- No title of the state is to be cleaned. -/
structure HasCleanTitles (state : State) : Prop where
  /-- The firm's own templates carry no mark of a copy. -/
  templates : ∀ template ∈ state.templates, template.needsTitle = false
  /-- The assignments carry no mark of a copy. -/
  assignments : ∀ assignment ∈ state.assignments, hasCopyMark assignment.title = false

/-- Clean titles are left as they are. -/
theorem HasCleanTitles.normalizeTitles {state : State} (clean : state.HasCleanTitles) :
    state.normalizeTitles = (false, state) := by
  simp [State.normalizeTitles, retitleTemplates_eq_self clean.templates,
    retitleAssignments_eq_self clean.assignments]

/-- What is left to be cleaned in the state is titled by the copy words with a number. -/
structure OnlyNumberedCopyWords (state : State) : Prop where
  /-- The templates that are to be cleaned. -/
  templates : ∀ template ∈ state.templates, template.needsTitle = true →
    IsNumberedCopyWords template.title
  /-- The assignments that are to be cleaned. -/
  assignments : ∀ assignment ∈ state.assignments, hasCopyMark assignment.title = true →
    IsNumberedCopyWords assignment.title

theorem onlyNumberedCopyWords_normalizeTitles (state : State) :
    state.normalizeTitles.2.OnlyNumberedCopyWords where
  templates _ := isNumberedCopyWords_of_needsTitle
  assignments _ := isNumberedCopyWords_of_hasCopyMark

theorem templates_normalizeTitles_ne_nil {state : State} (given : state.templates ≠ []) :
    state.normalizeTitles.2.templates ≠ [] := by
  rw [← List.length_pos_iff] at given ⊢
  rwa [show state.normalizeTitles.2.templates.length = _ from length_retitleTemplates _]

theorem hasHydratedIntake_normalizeTitles (state : State) (catalog : Catalog) :
    state.normalizeTitles.2.hasHydratedIntake catalog = state.hasHydratedIntake catalog := by
  rw [hasHydratedIntake, template?, templates_normalizeTitles]
  exact any_find?_zipWith_title (fun _ _ => rfl) intakeTemplateId (by simp)

end State

end Questionnaire
