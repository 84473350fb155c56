import Mathlib.Tactic.MkIffOfInductiveProp
import Questionnaire.Proofs.State.Retitling
import Questionnaire.Proofs.Title.CopyWords

/-!
# Cleaning titles again

A second pass over titles leaves them as they are unless the first one made copy words with a number
of a title. It does so in a collection in which the copy words alone are left of a title, and the
same words are kept as another title or are left of an earlier one. A third pass never changes
anything.
-/

namespace Questionnaire

/-- The copy words that are left of marked titles. -/
def copyWordTitles (titles : List (String × Bool)) : List String :=
  ((titles.filter fun title => title.2).map fun title => cleanTitle title.1).filter
    fun title => IsCopyWords title

/-- The copy words that are left of marked titles differ from each other and from the titles that
are taken. -/
@[mk_iff]
structure CleansAtOnce (taken : List String) (titles : List (String × Bool)) : Prop where
  /-- No copy words are left twice, letter by letter. -/
  distinct : (copyWordTitles titles).Nodup
  /-- The copy words that are left are not taken. -/
  free : ∀ words ∈ copyWordTitles titles, words ∉ taken

theorem copyWordTitles_cons_of_isCopyWords {title : String} (words : IsCopyWords (cleanTitle title))
    (rest : List (String × Bool)) :
    copyWordTitles ((title, true) :: rest) = cleanTitle title :: copyWordTitles rest :=
  List.filter_cons_of_pos (decide_eq_true words)

theorem copyWordTitles_cons_of_not {title : String} (others : ¬ IsCopyWords (cleanTitle title))
    (rest : List (String × Bool)) : copyWordTitles ((title, true) :: rest) = copyWordTitles rest :=
  List.filter_cons_of_neg (by simpa using others)

theorem mem_copyWordTitles {titles : List (String × Bool)} {words : String}
    (inside : words ∈ copyWordTitles titles) :
    IsCopyWords words ∧ ∃ title, (title, true) ∈ titles ∧ cleanTitle title = words := by
  obtain ⟨left, isWords⟩ := List.mem_filter.1 inside
  obtain ⟨⟨title, marked⟩, isMarked, same⟩ := List.mem_map.1 left
  obtain ⟨member, rfl⟩ := List.mem_filter.1 isMarked
  exact ⟨of_decide_eq_true isWords, title, member, same⟩

theorem forall_not_mem_cons_iff {titles taken : List String} {title : String} :
    (∀ other ∈ titles, other ∉ title :: taken) ↔
      title ∉ titles ∧ ∀ other ∈ titles, other ∉ taken := by
  simp only [List.mem_cons, not_or, forall_and, List.forall_mem_ne']

/-- The first marked title loses its mark, and the rest of the titles does so with this title
taken. -/
theorem cleansAtOnce_cons_iff (taken : List String) (title : String)
    (rest : List (String × Bool)) :
    CleansAtOnce taken ((title, true) :: rest) ↔
      hasCopyMark (uniqueTitle (stripCopyMarks title) taken) = false ∧
        CleansAtOnce (uniqueTitle (stripCopyMarks title) taken :: taken) rest := by
  have mark := hasCopyMark_uniqueTitle_iff title taken
  rw [cleansAtOnce_iff, cleansAtOnce_iff, forall_not_mem_cons_iff]
  by_cases words : IsCopyWords (cleanTitle title)
  · rw [copyWordTitles_cons_of_isCopyWords words, List.nodup_cons, List.forall_mem_cons]
    by_cases used : cleanTitle title ∈ taken
    · constructor
      · rintro ⟨_, free, _⟩
        exact absurd used free
      · rintro ⟨unmarked, _⟩
        exact absurd ((mark.2 ⟨words, used⟩).symm.trans unmarked) nofun
    · have unmarked := Bool.eq_false_iff.2 fun still => used (mark.1 still).2
      have plain : uniqueTitle (stripCopyMarks title) taken = cleanTitle title :=
        uniqueTitle_of_not_mem used
      rw [plain] at unmarked ⊢
      constructor
      · rintro ⟨⟨once, distinct⟩, _, free⟩
        exact ⟨unmarked, distinct, once, free⟩
      · rintro ⟨_, distinct, once, free⟩
        exact ⟨⟨once, distinct⟩, used, free⟩
  · rw [copyWordTitles_cons_of_not words]
    have unmarked := Bool.eq_false_iff.2 fun still => words (mark.1 still).1
    have absent : uniqueTitle (stripCopyMarks title) taken ∉ copyWordTitles rest := by
      intro inside
      have copies := (mem_copyWordTitles inside).1
      rw [← (cleanTitle_of_uniqueTitle copies).1] at copies
      exact words copies
    constructor
    · rintro ⟨distinct, free⟩
      exact ⟨unmarked, distinct, absent, free⟩
    · rintro ⟨_, distinct, _, free⟩
      exact ⟨distinct, free⟩

/-- All marked titles lose their marks if and only if the copy words that are left of them are
distinct and free. -/
theorem hasCopyMark_renameTitles_iff (taken : List String) (titles : List (String × Bool)) :
    (∀ entry ∈ titles.zip (renameTitles taken titles),
        entry.1.2 = true → hasCopyMark entry.2 = false) ↔ CleansAtOnce taken titles := by
  induction titles generalizing taken with
  | nil =>
    exact ⟨fun _ => ⟨List.nodup_nil, fun _ inside => absurd inside List.not_mem_nil⟩,
      fun _ _ inside => absurd inside List.not_mem_nil⟩
  | cons first rest inductionHypothesis =>
    obtain ⟨title, marked⟩ := first
    cases marked with
    | false =>
      have same : CleansAtOnce taken ((title, false) :: rest) ↔ CleansAtOnce taken rest := by
        rw [cleansAtOnce_iff, cleansAtOnce_iff]
        rfl
      rw [renameTitles, List.zip_cons_cons, List.forall_mem_cons, inductionHypothesis taken, same]
      exact and_iff_right fun isMarked => absurd isMarked Bool.false_ne_true
    | true =>
      rw [renameTitles, List.zip_cons_cons, List.forall_mem_cons, inductionHypothesis,
        cleansAtOnce_cons_iff]
      exact and_congr_left' (forall_prop_of_true rfl)

/-- Titles that are not marked are kept. -/
theorem title_of_unmarked (taken : List String) (titles : List (String × Bool)) :
    ∀ entry ∈ titles.zip (renameTitles taken titles), entry.1.2 = false → entry.2 = entry.1.1 := by
  induction titles generalizing taken with
  | nil => exact fun _ inside => absurd inside List.not_mem_nil
  | cons first rest inductionHypothesis =>
    obtain ⟨title, marked⟩ := first
    cases marked with
    | false => exact List.forall_mem_cons.2 ⟨fun _ => rfl, inductionHypothesis taken⟩
    | true => exact List.forall_mem_cons.2 ⟨nofun, inductionHypothesis _⟩

/-- If all titles are kept, none is marked. -/
theorem unmarked_of_renameTitles {taken : List String} {titles : List (String × Bool)}
    (marks : ∀ title ∈ titles, title.2 = true → hasCopyMark title.1 = true)
    (same : renameTitles taken titles = titles.map Prod.fst) :
    ∀ title ∈ titles, title.2 = false := by
  induction titles with
  | nil => exact fun _ inside => absurd inside List.not_mem_nil
  | cons first rest inductionHypothesis =>
    obtain ⟨title, marked⟩ := first
    obtain ⟨mark, laterMarks⟩ := List.forall_mem_cons.1 marks
    cases marked with
    | false =>
      obtain ⟨_, later⟩ := List.cons_eq_cons.1 same
      exact List.forall_mem_cons.2 ⟨rfl, inductionHypothesis laterMarks later⟩
    | true =>
      obtain ⟨here, _⟩ := List.cons_eq_cons.1 same
      exact absurd here (uniqueTitle_ne_of_hasCopyMark (mark rfl) taken)

/-- Copy words with a number lose their marks. -/
theorem cleansAtOnce_of_numbered (taken : List String) {titles : List (String × Bool)}
    (numbered : ∀ title ∈ titles, title.2 = true → IsNumberedCopyWords title.1) :
    CleansAtOnce taken titles := by
  have nothing : copyWordTitles titles = [] := by
    refine List.eq_nil_iff_forall_not_mem.2 fun words inside => ?_
    obtain ⟨isWords, title, marked, rfl⟩ := mem_copyWordTitles inside
    exact not_isCopyWords_cleanTitle (numbered _ marked rfl) isWords
  constructor
  · rw [nothing]
    exact List.nodup_nil
  · rw [nothing]
    exact fun _ inside => absurd inside List.not_mem_nil

/-! ## Templates and assignments -/

section Collections

variable {α : Type} {title : α → String} {isMarked : α → Bool} {retitle : α → String → α}
  {items : List α}

/-- The titles of the entries of a collection with their marks. -/
def markedTitles (title : α → String) (isMarked : α → Bool) (items : List α) :
    List (String × Bool) :=
  items.map fun item => (title item, isMarked item)

@[simp] theorem length_markedTitles (title : α → String) (isMarked : α → Bool) (items : List α) :
    (markedTitles title isMarked items).length = items.length := by
  rw [markedTitles, List.length_map]

/-- The titles of a collection that are not marked. -/
def keptTitles (titles : List (String × Bool)) : List String :=
  (titles.filter fun title => !title.2).map fun title => title.1

theorem dedupeTitles_eq (titles : List (String × Bool)) :
    dedupeTitles titles = renameTitles (keptTitles titles) titles := rfl

/-- The entries of a collection that are not marked keep their titles. -/
theorem title_of_unmarked_item :
    ∀ entry ∈ items.zip (dedupeTitles (markedTitles title isMarked items)),
      isMarked entry.1 = false → entry.2 = title entry.1 := by
  have kept := title_of_unmarked (keptTitles (markedTitles title isMarked items))
    (markedTitles title isMarked items)
  rwa [← dedupeTitles_eq, markedTitles, List.zip_map_left, List.forall_mem_map] at kept

/-- No entry of a collection is marked after a pass if and only if its titles clean at once. -/
theorem isMarked_zipWith_iff
    (marks : ∀ item new, isMarked item = true → isMarked (retitle item new) = hasCopyMark new)
    (keeps : ∀ item, isMarked item = false → isMarked (retitle item (title item)) = false) :
    (∀ item ∈ items.zipWith retitle (dedupeTitles (markedTitles title isMarked items)),
        isMarked item = false) ↔
      CleansAtOnce (keptTitles (markedTitles title isMarked items))
        (markedTitles title isMarked items) := by
  rw [← hasCopyMark_renameTitles_iff, ← dedupeTitles_eq, ← List.map_uncurry_zip_eq_zipWith,
    List.forall_mem_map]
  have kept : ∀ entry ∈ items.zip (dedupeTitles (markedTitles title isMarked items)),
      isMarked entry.1 = false → entry.2 = title entry.1 := title_of_unmarked_item
  rw [markedTitles, List.zip_map_left, List.forall_mem_map]
  refine forall₂_congr fun (item, new) inside => ?_
  change isMarked (retitle item new) = false ↔ (isMarked item = true → hasCopyMark new = false)
  cases marked : isMarked item with
  | true =>
    rw [marks item new marked]
    exact ⟨fun unmarked _ => unmarked, fun unmarked => unmarked rfl⟩
  | false =>
    have same : new = title item := kept (item, new) inside marked
    rw [same, keeps item marked]
    exact ⟨fun _ => nofun, fun _ => rfl⟩

/-- An entry of a collection whose titles all stay is not marked. -/
theorem isMarked_of_dedupeTitles
    (marks : ∀ item ∈ items, isMarked item = true → hasCopyMark (title item) = true)
    (same : dedupeTitles (markedTitles title isMarked items) = items.map title) :
    ∀ item ∈ items, isMarked item = false := by
  have stay : renameTitles (keptTitles (markedTitles title isMarked items))
      (markedTitles title isMarked items) =
        (markedTitles title isMarked items).map Prod.fst := by
    rw [← dedupeTitles_eq, same, markedTitles, List.map_map]
    rfl
  have unmarked := unmarked_of_renameTitles (List.forall_mem_map.2 marks) stay
  exact List.forall_mem_map.1 unmarked

end Collections

namespace State

/-- The titles of the templates, each with whether it is to be cleaned. -/
def templateTitles (state : State) : List (String × Bool) :=
  markedTitles Template.title Template.needsTitle state.templates

/-- The titles of the assignments, each with whether it is to be cleaned. -/
def assignmentTitles (state : State) : List (String × Bool) :=
  markedTitles Assignment.title (fun assignment => hasCopyMark assignment.title) state.assignments

/-- After a pass all titles are clean if and only if those of both collections clean at once. -/
theorem hasCleanTitles_normalizeTitles_iff (state : State) :
    state.normalizeTitles.2.HasCleanTitles ↔
      CleansAtOnce (keptTitles state.templateTitles) state.templateTitles ∧
        CleansAtOnce (keptTitles state.assignmentTitles) state.assignmentTitles := by
  have templates : (∀ template ∈ state.normalizeTitles.2.templates,
      template.needsTitle = false) ↔
        CleansAtOnce (keptTitles state.templateTitles) state.templateTitles := by
    rw [templates_normalizeTitles]
    refine isMarked_zipWith_iff ?_ fun _ unmarked => unmarked
    intro template new needs
    rw [Template.needsTitle, (Bool.and_eq_true_iff.1 needs).1, Bool.true_and]
  have assignments : (∀ assignment ∈ state.normalizeTitles.2.assignments,
      hasCopyMark assignment.title = false) ↔
        CleansAtOnce (keptTitles state.assignmentTitles) state.assignmentTitles := by
    rw [assignments_normalizeTitles]
    exact isMarked_zipWith_iff (fun _ _ _ => rfl) fun _ unmarked => unmarked
  rw [← templates, ← assignments]
  exact ⟨fun clean => ⟨clean.templates, clean.assignments⟩, fun clean => ⟨clean.1, clean.2⟩⟩

/-- A pass tells that no title changed if and only if the titles are clean. -/
theorem normalizeTitles_fst_eq_false_iff (state : State) :
    state.normalizeTitles.1 = false ↔ state.HasCleanTitles := by
  refine ⟨fun unchanged => ?_, fun clean => congrArg Prod.fst clean.normalizeTitles⟩
  rw [normalizeTitles_fst, Bool.or_eq_false_iff, bne_eq_false_iff_eq,
    bne_eq_false_iff_eq] at unchanged
  obtain ⟨templates, assignments⟩ := unchanged
  rw [map_title_templates] at templates
  rw [map_title_assignments] at assignments
  constructor
  · exact isMarked_of_dedupeTitles (fun _ _ needs => (Bool.and_eq_true_iff.1 needs).2)
      templates.symm
  · exact isMarked_of_dedupeTitles (fun _ _ marked => marked) assignments.symm

/-- A pass leaves a state alone if and only if its titles are clean. -/
theorem normalizeTitles_eq_iff (state : State) :
    state.normalizeTitles = (false, state) ↔ state.HasCleanTitles := by
  constructor
  · exact fun same => (normalizeTitles_fst_eq_false_iff state).1 (congrArg Prod.fst same)
  · exact HasCleanTitles.normalizeTitles

/-- A second pass changes nothing if and only if the copy words that are left of titles are distinct
and free, among the templates and among the assignments. A third pass never changes anything. -/
theorem normalizeTitles_again (state : State) :
    (state.normalizeTitles.2.normalizeTitles = (false, state.normalizeTitles.2) ↔
      CleansAtOnce (keptTitles state.templateTitles) state.templateTitles ∧
        CleansAtOnce (keptTitles state.assignmentTitles) state.assignmentTitles) ∧
    state.normalizeTitles.2.normalizeTitles.2.normalizeTitles =
      (false, state.normalizeTitles.2.normalizeTitles.2) := by
  refine ⟨(normalizeTitles_eq_iff _).trans (hasCleanTitles_normalizeTitles_iff state), ?_⟩
  have numbered := onlyNumberedCopyWords_normalizeTitles state
  refine (normalizeTitles_eq_iff _).2 ((hasCleanTitles_normalizeTitles_iff _).2 ⟨?_, ?_⟩)
  · exact cleansAtOnce_of_numbered _ (List.forall_mem_map.2 numbered.templates)
  · exact cleansAtOnce_of_numbered _ (List.forall_mem_map.2 numbered.assignments)

/-- Beside a template that is titled by the copy words, a title that is left with them gets a
number, which the second pass takes for the title of the copied template. -/
theorem normalizeTitles_again_copyWords :
    let template (id title : String) : Template :=
      .ofVersion id title .custom .attorney (.draft 1 .empty) .epoch
    let state : State := { templates := [template "t" "Copy of", template "u" "Copy of(Copy)"] }
    let once := state.normalizeTitles.2
    once.titles.1 = ["Copy of", "Copy of (2)"] ∧
      once.normalizeTitles.1 = true ∧ once.normalizeTitles.2.titles.1 = ["Copy of", "(2)"] ∧
      ¬ ∀ state : State,
          state.normalizeTitles.2.normalizeTitles = (false, state.normalizeTitles.2) := by
  intro template state once
  have again : once.normalizeTitles.1 = true := by decide +kernel
  refine ⟨by decide +kernel, again, by decide +kernel, fun idempotent => ?_⟩
  have unchanged : once.normalizeTitles.1 = false := congrArg Prod.fst (idempotent state)
  exact absurd (again.symm.trans unchanged) nofun

end State

end Questionnaire
