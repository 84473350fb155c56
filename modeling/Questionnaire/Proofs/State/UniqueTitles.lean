import Questionnaire.Proofs.State.Retaining

/-!
# Clean titles are unique

Titles are cleaned one after the other. The titles that are kept are taken from the start, and a
cleaned title is taken from its turn on, so that it differs from those of all other entries, whether
they come before or after it. No entry moves, and nothing of it changes but its title.
-/

namespace Questionnaire

/-- A unique title is not taken. -/
theorem uniqueTitle_not_mem (title : String) (taken : List String) :
    uniqueTitle title taken ∉ taken := by
  by_cases used : titleBase title ∈ taken
  · obtain ⟨_, _, free⟩ := uniqueTitle_of_mem used
    exact free
  · rwa [uniqueTitle_of_not_mem used]

/-- A title that is marked becomes one that was not taken. -/
theorem not_mem_of_marked (taken : List String) (titles : List (String × Bool)) :
    ∀ entry ∈ titles.zip (renameTitles taken titles), entry.1.2 = true → entry.2 ∉ taken := by
  induction titles generalizing taken with
  | nil => exact fun _ inside => absurd inside List.not_mem_nil
  | cons first rest inductionHypothesis =>
    obtain ⟨title, marked⟩ := first
    cases marked with
    | false => exact List.forall_mem_cons.2 ⟨nofun, inductionHypothesis taken⟩
    | true =>
      refine List.forall_mem_cons.2 ⟨fun _ => uniqueTitle_not_mem _ taken, ?_⟩
      intro entry later isMarked used
      exact inductionHypothesis _ entry later isMarked (List.mem_cons_of_mem _ used)

/-- A title that is marked for a copy changes. -/
theorem title_ne_of_marked (taken : List String) {titles : List (String × Bool)}
    (marks : ∀ title ∈ titles, title.2 = true → hasCopyMark title.1 = true) :
    ∀ entry ∈ titles.zip (renameTitles taken titles), entry.1.2 = true → entry.2 ≠ entry.1.1 := by
  intro entry inside marked
  have mark := marks entry.1 (List.of_mem_zip inside).1 marked
  rcases mem_zip_renameTitles taken titles entry inside with ⟨unmarked, _⟩ | ⟨earlier, cleaned⟩
  · exact absurd (marked.symm.trans unmarked) (by decide)
  · rw [cleaned]
    exact uniqueTitle_ne_of_hasCopyMark mark earlier

/-- If the titles that are kept are taken from the start, a title that is renamed differs from every
other one, whether that is kept or renamed, before it or after it. -/
theorem pairwise_renameTitles (taken : List String) (titles : List (String × Bool))
    (kept : ∀ title ∈ titles, title.2 = false → title.1 ∈ taken) :
    (titles.zip (renameTitles taken titles)).Pairwise fun earlier later =>
      earlier.1.2 = true ∨ later.1.2 = true → earlier.2 ≠ later.2 := by
  induction titles generalizing taken with
  | nil => exact .nil
  | cons first rest inductionHypothesis =>
    obtain ⟨title, marked⟩ := first
    obtain ⟨keptFirst, keptRest⟩ := List.forall_mem_cons.1 kept
    cases marked with
    | false =>
      refine List.pairwise_cons.2 ⟨fun later inside oneMarked => ?_, inductionHypothesis taken keptRest⟩
      have laterMarked : later.1.2 = true := oneMarked.resolve_left Bool.false_ne_true
      intro same
      exact not_mem_of_marked taken rest later inside laterMarked (same ▸ keptFirst rfl)
    | true =>
      refine List.pairwise_cons.2 ⟨fun later inside _ => ?_, inductionHypothesis _ ?_⟩
      · -- The new title is taken for those that are renamed later, and those kept were taken before.
        cases laterMarked : later.1.2 with
        | true =>
          intro same
          exact not_mem_of_marked _ rest later inside laterMarked (same ▸ List.mem_cons_self)
        | false =>
          have laterTaken : later.1.1 ∈ taken :=
            keptRest later.1 (List.of_mem_zip inside).1 laterMarked
          rw [title_of_unmarked _ rest later inside laterMarked]
          intro same
          exact uniqueTitle_not_mem _ taken (same ▸ laterTaken)
      · exact fun other inside unmarked =>
          List.mem_cons_of_mem _ (keptRest other inside unmarked)

section Collections

variable {α : Type} {title : α → String} {isMarked : α → Bool} {retitle : α → String → α}
  {items : List α}

/-- Some entry of a collection has another title than before. -/
def HasNewTitle (title : α → String) (before after : List α) : Prop :=
  ∃ entry ∈ before.zip (after.map title), entry.2 ≠ title entry.1

/-- A collection whose marked entries got unique titles. -/
structure IsRetitledUniquely (title : α → String) (isMarked : α → Bool) (retitle : α → String → α)
    (before after : List α) : Prop where
  /-- No entry moves, and no more of it changes than the title, and that only if it is marked. -/
  retitled : List.Forall₂ (IsRetitled isMarked retitle) before after
  /-- A marked entry does get another title. -/
  renamed : ∀ entry ∈ before.zip (after.map title), isMarked entry.1 = true →
    entry.2 ≠ title entry.1
  /-- The new title of a marked entry differs from the title of every other entry. -/
  apart : (before.zip (after.map title)).Pairwise fun earlier later =>
    isMarked earlier.1 = true ∨ isMarked later.1 = true → earlier.2 ≠ later.2
  /-- If the titles left alone differ from each other, all titles do. -/
  distinct : ((before.filter fun item => !isMarked item).map title).Nodup →
    (after.map title).Nodup

theorem pairwise_dedupeTitles :
    (items.zip (dedupeTitles (markedTitles title isMarked items))).Pairwise fun earlier later =>
      isMarked earlier.1 = true ∨ isMarked later.1 = true → earlier.2 ≠ later.2 := by
  have taken : ∀ given ∈ markedTitles title isMarked items, given.2 = false →
      given.1 ∈ keptTitles (markedTitles title isMarked items) := by
    intro given inside unmarked
    exact List.mem_map_of_mem (List.mem_filter.2 ⟨inside, by rw [unmarked]; rfl⟩)
  have renamed := pairwise_renameTitles _ _ taken
  rwa [← dedupeTitles_eq, markedTitles, List.zip_map_left, List.pairwise_map] at renamed

/-- If the titles that are kept differ from each other, all titles do afterwards. -/
theorem nodup_dedupeTitles
    (distinct : ((items.filter fun item => !isMarked item).map title).Nodup) :
    (dedupeTitles (markedTitles title isMarked items)).Nodup := by
  have entries : (items.zip (dedupeTitles (markedTitles title isMarked items))).map Prod.fst =
      items := List.map_fst_zip (by simp)
  have keptApart : items.Pairwise fun earlier later =>
      isMarked earlier = false → isMarked later = false → title earlier ≠ title later := by
    simpa [List.nodup_iff_pairwise_ne, List.pairwise_map, List.pairwise_filter] using distinct
  rw [← entries, List.pairwise_map] at keptApart
  have titles : (items.zip (dedupeTitles (markedTitles title isMarked items))).map Prod.snd =
      dedupeTitles (markedTitles title isMarked items) := List.map_snd_zip (by simp)
  rw [← titles, List.nodup_iff_pairwise_ne, List.pairwise_map]
  refine (keptApart.and pairwise_dedupeTitles).imp_of_mem ?_
  rintro earlier later insideEarlier insideLater ⟨keptDiffer, renamedDiffer⟩
  cases earlierMarked : isMarked earlier.1 with
  | true => exact renamedDiffer (.inl earlierMarked)
  | false =>
    cases laterMarked : isMarked later.1 with
    | true => exact renamedDiffer (.inr laterMarked)
    | false =>
      rw [title_of_unmarked_item earlier insideEarlier earlierMarked,
        title_of_unmarked_item later insideLater laterMarked]
      exact keptDiffer earlierMarked laterMarked

/-- An entry that is marked for a copy gets another title. -/
theorem title_ne_of_marked_item
    (marks : ∀ item ∈ items, isMarked item = true → hasCopyMark (title item) = true) :
    ∀ entry ∈ items.zip (dedupeTitles (markedTitles title isMarked items)),
      isMarked entry.1 = true → entry.2 ≠ title entry.1 := by
  have carryMarks : ∀ given ∈ markedTitles title isMarked items,
      given.2 = true → hasCopyMark given.1 = true := List.forall_mem_map.2 marks
  have renamed := title_ne_of_marked (keptTitles (markedTitles title isMarked items)) carryMarks
  rwa [← dedupeTitles_eq, markedTitles, List.zip_map_left, List.forall_mem_map] at renamed

/-- A pass over the titles of a collection makes those of its marked entries unique. -/
theorem isRetitledUniquely_dedupeTitles (same : ∀ item, retitle item (title item) = item)
    (given : ∀ item new, title (retitle item new) = new)
    (marks : ∀ item ∈ items, isMarked item = true → hasCopyMark (title item) = true) :
    IsRetitledUniquely title isMarked retitle items
      (items.zipWith retitle (dedupeTitles (markedTitles title isMarked items))) := by
  have titles : (items.zipWith retitle (dedupeTitles (markedTitles title isMarked items))).map title =
      dedupeTitles (markedTitles title isMarked items) := map_title_zipWith given (by simp)
  constructor
  · exact forall₂_dedupeTitles same
  · rw [titles]
    exact title_ne_of_marked_item marks
  · rw [titles]
    exact pairwise_dedupeTitles
  · rw [titles]
    exact nodup_dedupeTitles

/-- Some entry gets another title if and only if some entry is marked. -/
theorem IsRetitledUniquely.hasNewTitle_iff {before after : List α}
    (unique : IsRetitledUniquely title isMarked retitle before after) :
    HasNewTitle title before after ↔ ∃ item ∈ before, isMarked item = true := by
  obtain ⟨lengths, retitled⟩ := List.forall₂_iff_zip.1 unique.retitled
  constructor
  · rintro ⟨entry, inside, differs⟩
    refine ⟨entry.1, (List.of_mem_zip inside).1, ?_⟩
    by_contra unmarked
    rw [List.zip_map_right] at inside
    obtain ⟨pair, insidePair, rfl⟩ := List.mem_map.1 inside
    have same : pair.2 = pair.1 := (retitled insidePair).2 (Bool.eq_false_iff.2 unmarked)
    exact differs (congrArg title same)
  · rintro ⟨item, inside, marked⟩
    have entries : (before.zip (after.map title)).map Prod.fst = before :=
      List.map_fst_zip (by rw [List.length_map, lengths])
    rw [← entries] at inside
    obtain ⟨entry, insideEntry, rfl⟩ := List.mem_map.1 inside
    exact ⟨entry, insideEntry, unique.renamed entry insideEntry marked⟩

end Collections

/-- Titles that are cleaned give way to those that are kept, also to later ones, and to each other. -/
example :
    dedupe [("A (Copy)", true), ("A (2)", false), ("Copy of A", true), ("A", false)] =
      (true, ["A (3)", "A (2)", "A (4)", "A"]) := by
  decide +kernel

namespace State

/-- A pass tells that some title changed if and only if some title is to be cleaned. -/
theorem normalizeTitles_fst_eq_true_iff (state : State) :
    state.normalizeTitles.1 = true ↔
      (∃ template ∈ state.templates, template.needsTitle = true) ∨
        ∃ assignment ∈ state.assignments, hasCopyMark assignment.title = true := by
  rw [← not_iff_not, Bool.not_eq_true, normalizeTitles_fst_eq_false_iff]
  constructor
  · rintro clean (⟨template, inside, needs⟩ | ⟨assignment, inside, marked⟩)
    · exact absurd (needs.symm.trans (clean.templates template inside)) nofun
    · exact absurd (marked.symm.trans (clean.assignments assignment inside)) nofun
  · intro nothing
    constructor
    · exact fun template inside =>
        Bool.eq_false_iff.2 fun needs => nothing (.inl ⟨template, inside, needs⟩)
    · exact fun assignment inside =>
        Bool.eq_false_iff.2 fun marked => nothing (.inr ⟨assignment, inside, marked⟩)

/-- A pass over the titles of a state retitles the firm's own templates that carry a mark of a copy,
and the assignments that do, and makes their titles unique among the templates and among the
assignments. Nothing else of the state changes, and the pass tells whether any title did. -/
theorem normalizeTitles_unique (state : State) :
    let after := state.normalizeTitles.2
    IsRetitledUniquely Template.title
        (fun template => template.createdBy == .attorney && hasCopyMark template.title)
        (fun template title => { template with title }) state.templates after.templates ∧
      IsRetitledUniquely Assignment.title (fun assignment => hasCopyMark assignment.title)
        (fun assignment title => { assignment with title }) state.assignments after.assignments ∧
      after = { state with templates := after.templates, assignments := after.assignments } ∧
      (state.normalizeTitles.1 = true ↔
        HasNewTitle Template.title state.templates after.templates ∨
          HasNewTitle Assignment.title state.assignments after.assignments) := by
  intro after
  have templates : IsRetitledUniquely Template.title Template.needsTitle
      (fun template title => { template with title }) state.templates after.templates := by
    rw [state.templates_normalizeTitles]
    exact isRetitledUniquely_dedupeTitles (fun _ => rfl) (fun _ _ => rfl)
      fun _ _ needs => (Bool.and_eq_true_iff.1 needs).2
  have assignments : IsRetitledUniquely Assignment.title
      (fun assignment => hasCopyMark assignment.title)
      (fun assignment title => { assignment with title }) state.assignments after.assignments := by
    rw [state.assignments_normalizeTitles]
    exact isRetitledUniquely_dedupeTitles (fun _ => rfl) (fun _ _ => rfl) fun _ _ marked => marked
  refine ⟨templates, assignments, rfl, ?_⟩
  rw [templates.hasNewTitle_iff, assignments.hasNewTitle_iff]
  exact normalizeTitles_fst_eq_true_iff state

end State

end Questionnaire
