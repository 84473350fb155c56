import Questionnaire.Proofs.Migration.Reading
import Questionnaire.Proofs.Migration.Validity
import Questionnaire.Proofs.State.Integrity
import Questionnaire.Proofs.Text.Blank

/-!
# What the first schema is converted to

Every entry of a document that is a template with an id and a title gives one template, in order.
The template takes the trimmed id of its entry with the least number of marks in front that is
neither taken nor given to a template before it. Entries that give no template make no difference,
nor does the order in which the ids were taken.
-/

namespace Questionnaire

/-- The entry is a template that has an id and a title. -/
structure IsNamedTemplate (entry : Json) (flat : FlatTemplate) : Prop where
  /-- The entry is the template. -/
  isTemplate : IsFlatTemplate entry flat
  /-- The id is not blank. -/
  id : trim flat.id ≠ ""
  /-- The title is not blank. -/
  title : trim flat.title ≠ ""

/-- What the entries of a document are converted to, one after another, next to the ids taken. -/
inductive Converts (now : Timestamp) : List String → List Json → List Template → Prop
  /-- No entries give no templates. -/
  | nil {taken : List String} : Converts now taken [] []
  /-- An entry that is no template, or has no id or title, is left out. -/
  | skipped {taken : List String} {entry : Json} {entries : List Json} {templates : List Template}
      (unfit : ∀ flat, ¬ IsNamedTemplate entry flat) (rest : Converts now taken entries templates) :
      Converts now taken (entry :: entries) templates
  /-- Another entry is converted under its trimmed id with the least number of `v1-` in front that
  is not taken, and this id is taken from then on. -/
  | converted {taken : List String} {entry : Json} {entries : List Json}
      {templates : List Template} {flat : FlatTemplate} {template : Template} {marks : Nat}
      (named : IsNamedTemplate entry flat) (made : template = flat.toTemplate template.id now)
      (id : template.id = String.join (List.replicate marks "v1-") ++ trim flat.id)
      (least : IsLeast
        {marks | String.join (List.replicate marks "v1-") ++ trim flat.id ∉ taken} marks)
      (bounded : marks ≤ taken.length)
      (rest : Converts now (template.id :: taken) entries templates) :
      Converts now taken (entry :: entries) (template :: templates)

/-! ## Entries -/

theorem FlatTemplate.isNamed_iff {flat : FlatTemplate} :
    flat.isNamed = true ↔ trim flat.id ≠ "" ∧ trim flat.title ≠ "" := by
  simp only [isNamed, Bool.and_eq_true, Bool.not_eq_true', ← Bool.not_eq_true, isBlankText_iff,
    ne_eq]

theorem isNamedTemplate_iff {entry : Json} {flat : FlatTemplate} :
    IsNamedTemplate entry flat ↔
      FlatTemplate.ofJson? entry = some flat ∧ flat.isNamed = true := by
  rw [FlatTemplate.ofJson?_eq_some_iff, FlatTemplate.isNamed_iff]
  constructor
  · rintro ⟨isTemplate, id, title⟩
    exact ⟨isTemplate, id, title⟩
  · rintro ⟨isTemplate, id, title⟩
    exact ⟨isTemplate, id, title⟩

/-- The templates with an id and a title that entries are read as. -/
def namedTemplates (entries : List Json) : List FlatTemplate :=
  (entries.filterMap FlatTemplate.ofJson?).filter FlatTemplate.isNamed

/-- An entry that is no template with an id and a title is left out. -/
theorem namedTemplates_cons_of_unfit {entry : Json} (unfit : ∀ flat, ¬ IsNamedTemplate entry flat)
    (entries : List Json) : namedTemplates (entry :: entries) = namedTemplates entries := by
  rw [namedTemplates]
  cases isRead : FlatTemplate.ofJson? entry with
  | none => rw [List.filterMap_cons_none isRead, namedTemplates]
  | some flat =>
    have unnamed : ¬ flat.isNamed = true := fun isNamed =>
      unfit flat (isNamedTemplate_iff.2 ⟨isRead, isNamed⟩)
    rw [List.filterMap_cons_some isRead, List.filter_cons_of_neg unnamed, namedTemplates]

theorem namedTemplates_cons_of_named {entry : Json} {flat : FlatTemplate}
    (named : IsNamedTemplate entry flat) (entries : List Json) :
    namedTemplates (entry :: entries) = flat :: namedTemplates entries := by
  obtain ⟨isRead, isNamed⟩ := isNamedTemplate_iff.1 named
  rw [namedTemplates, List.filterMap_cons_some isRead, List.filter_cons_of_pos isNamed,
    namedTemplates]

theorem namedTemplates_append (entries others : List Json) :
    namedTemplates (entries ++ others) = namedTemplates entries ++ namedTemplates others := by
  simp only [namedTemplates, List.filterMap_append, List.filter_append]

/-- Listed entries are converted as they are read. -/
theorem convertDocument_of_lists {document : Json} {entries : List Json}
    (lists : ListsEntries document entries) (now : Timestamp) (taken : List String) :
    convertDocument now taken document = convertTemplates now taken (namedTemplates entries) := by
  rw [convertDocument, flatTemplates, flatEntries?_eq_some_iff.2 lists]
  rfl

/-! ## Conversion -/

/-- Entries that are read one by one are converted one by one. -/
theorem converts_namedTemplates (now : Timestamp) (taken : List String) (entries : List Json) :
    Converts now taken entries (convertTemplates now taken (namedTemplates entries)) := by
  induction entries generalizing taken with
  | nil => exact .nil
  | cons entry rest inductionHypothesis =>
    by_cases named : ∃ flat, IsNamedTemplate entry flat
    · obtain ⟨flat, named⟩ := named
      obtain ⟨marks, bounded, isFree, least⟩ := freeId_isLeast (trim flat.id) taken
      rw [namedTemplates_cons_of_named named]
      exact .converted named rfl isFree least bounded (inductionHypothesis _)
    · have unfit := not_exists.1 named
      rw [namedTemplates_cons_of_unfit unfit]
      exact .skipped unfit (inductionHypothesis taken)

theorem convertTemplates_congr (now : Timestamp) {taken other : List String}
    (same : ∀ id, id ∈ taken ↔ id ∈ other) (flats : List FlatTemplate) :
    convertTemplates now taken flats = convertTemplates now other flats := by
  induction flats generalizing taken other with
  | nil => rfl
  | cons flat rest inductionHypothesis =>
    have sameFree := freeId_congr same (trim flat.id)
    rw [convertTemplates, convertTemplates, sameFree]
    congr 1
    refine inductionHypothesis fun id => ?_
    rw [List.mem_cons, List.mem_cons, same]

/-- A document of the first schema gives one template for each entry that is a template with an id
and a title, in order, each under the trimmed id of the entry with the least number of marks in
front that is free by then; the ids are distinct and were not taken. A document that lists no
entries gives none. An entry that gives no template may be taken out, and the order of the ids taken
does not count. In the state that the document gives, the templates follow those that a store starts
with, if it is to have them, and have distinct ids. -/
theorem convertDocument_exact (now : Timestamp) (taken : List String) (document : Json) :
    let templates := convertDocument now taken document
    (∀ entries, ListsEntries document entries → Converts now taken entries templates) ∧
      ((∀ entries, ¬ ListsEntries document entries) → templates = []) ∧
      (templates.map Template.id).Nodup ∧ (∀ template ∈ templates, template.id ∉ taken) ∧
      (∀ other before entry after, ListsEntries document (before ++ entry :: after) →
        (∀ flat, ¬ IsNamedTemplate entry flat) → ListsEntries other (before ++ after) →
          convertDocument now taken other = templates) ∧
      (∀ used, (∀ id, id ∈ used ↔ id ∈ taken) → convertDocument now used document = templates) ∧
      ∀ catalog seeded,
        let base := (migrate catalog none seeded now).templates
        let migrated := (migrate catalog (some document) seeded now).templates
        migrated = base ++ convertDocument now (base.map Template.id) document ∧
          (base.map Template.id).Nodup ∧ (migrated.map Template.id).Nodup := by
  intro templates
  obtain ⟨distinct, free⟩ := ids_convertTemplates now taken
    ((flatTemplates document).filter FlatTemplate.isNamed)
  refine ⟨?listed, ?unlisted, distinct, free, ?removed, ?reordered, ?migrated⟩
  case listed =>
    intro entries lists
    rw [show templates = _ from convertDocument_of_lists lists now taken]
    exact converts_namedTemplates now taken entries
  case unlisted =>
    intro unlisted
    have unread : flatEntries? document = none := Option.eq_none_iff_forall_ne_some.2
      fun entries isRead => unlisted entries (flatEntries?_eq_some_iff.1 isRead)
    change convertTemplates now taken ((flatTemplates document).filter FlatTemplate.isNamed) = []
    rw [flatTemplates, unread]
    rfl
  case removed =>
    intro other before entry after lists unfit listsLess
    rw [show templates = _ from convertDocument_of_lists lists now taken,
      convertDocument_of_lists listsLess, namedTemplates_append, namedTemplates_append,
      namedTemplates_cons_of_unfit unfit]
  case reordered =>
    exact fun used same => convertTemplates_congr now same _
  case migrated =>
    intro catalog seeded base migrated
    have distinct (given : Option Json) :
        ((migrate catalog given seeded now).templates.map Template.id).Nodup :=
      (State.IsInitial.migrated catalog given seeded now).isIntact.templateIds
    exact ⟨rfl, distinct none, distinct (some document)⟩

/-- Of six entries three are templates: one with an old name for a label, one written as an array,
and one under a free id. One gives a label twice, one has a blank title and one has no questions. -/
theorem convertDocument_exact_mixed :
    let entry (id title : String) (questions : List Json) : Json :=
      .object [("id", .text id), ("title", .text title), ("questions", .list questions)]
    let deed : List (String × Json) :=
      [("id", .text "q"), ("kind", .text "file"), ("prompt", .text "Deed")]
    let twice := entry "c" "Twice" [.object (("label", .text "Deed") :: deed)]
    let before := [entry " a " "A" [.object deed]]
    let after := [entry "d" " " [], .list [.text "v1-a", .text "B", .null, .list []],
      .object [("id", .text "e"), ("title", .text "E")], entry "b" "C" []]
    let document (entries : List Json) : Json := .object [("templates", .list entries)]
    let mixed := document (before ++ twice :: after)
    IsNamedTemplate (entry " a " "A" [.object deed])
        { id := " a ", title := "A", description := none
          questions := [{ id := "q", kind := .file, label := "Deed", required := false }] } ∧
      Converts .epoch ["a"] (before ++ twice :: after) (convertDocument .epoch ["a"] mixed) ∧
      (convertDocument .epoch ["a"] mixed).map Template.id = ["v1-a", "v1-v1-a", "b"] ∧
      convertDocument .epoch ["a"] (document (before ++ after)) =
        convertDocument .epoch ["a"] mixed := by
  intro entry deed twice before after document mixed
  obtain ⟨listed, _, _, _, removed, _⟩ := convertDocument_exact .epoch ["a"] mixed
  have lists (entries : List Json) : ListsEntries (document entries) entries := {
    record := by simp [document, Json.IsRecord]
    given := .inl ⟨"templates", List.mem_singleton_self _, List.mem_singleton_self _⟩ }
  have unfit : ∀ flat, ¬ IsNamedTemplate twice flat := by
    intro flat named
    have isRead := (isNamedTemplate_iff.1 named).1
    have unread : FlatTemplate.ofJson? twice = none := by decide +kernel
    exact absurd (unread.symm.trans isRead).symm (Option.some_ne_none flat)
  refine ⟨isNamedTemplate_iff.2 ⟨rfl, by decide +kernel⟩, listed _ (lists _), by decide +kernel,
    removed _ before twice after (lists _) unfit (lists _)⟩

end Questionnaire
