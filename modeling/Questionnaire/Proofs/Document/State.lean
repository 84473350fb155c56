import Questionnaire.Document.State
import Questionnaire.Proofs.Document.Response

/-!
# The stored document is read back

The reader of the stored document drops what it cannot read and refuses a document without
templates, so that it is no inverse of the writer for every state. For the states of
`State.IsKept` it is one but for the refusal, if the text of the document is parsed into the tree
that it was printed from. So it is when the binary64 numbers in the document are read back and what
is kept of the first schema is not nested too deeply.
-/

namespace Questionnaire

open Json

/-- The entries of an array that can be read as a whole are all its entries. -/
theorem readableEntries_of_asList? {α : Type} {read : Json → Option α} {tree : Json}
    {values : List α} (isRead : asList? read tree = some values) :
    readableEntries read tree = values := by
  cases tree with
  | null | bool | number | text | object | unreadable => contradiction
  | list items =>
    change items.mapM read = some values at isRead
    change items.filterMap read = values
    induction items generalizing values with
    | nil => exact Option.some.inj isRead
    | cons item rest inductionHypothesis =>
      rw [List.mapM_cons] at isRead
      obtain ⟨first, isFirst, others⟩ := Option.bind_eq_some_iff.1 isRead
      obtain ⟨later, areLater, same⟩ := Option.bind_eq_some_iff.1 others
      rw [List.filterMap_cons_some isFirst, inductionHypothesis areLater]
      exact Option.some.inj same

namespace State

/-- The binary64 numbers in the templates and the responses of the state. -/
def numbers (state : State) : List Binary64 :=
  state.templates.flatMap Template.numbers ++ state.responses.flatMap Response.numbers

/-- The document of the state keeps everything that the state is made of. -/
structure IsKept (state : State) : Prop where
  /-- A document of another schema is stale. -/
  schema : state.schemaVersion = Questionnaire.schemaVersion
  /-- An upload time with a year outside 0 to 9999 is lost. -/
  responses : ∀ response ∈ state.responses, response.IsDated
  /-- What is kept of the first schema is a value, and `null` is taken as nothing kept. -/
  archived : ∀ document, state.archivedV1 = some document → document.IsValue ∧ document ≠ .null

theorem isPrintable {levels : Nat} {state : State}
    (exact : ∀ number ∈ state.numbers, number.IsReadBack)
    (archived : ∀ document, state.archivedV1 = some document →
      document.IsPrintable (levels + 9)) : IsPrintable (levels + 10) state.toJson := by
  obtain ⟨templatesExact, responsesExact⟩ := List.forall_mem_append.1 exact
  have templates : ∀ template ∈ state.templates, IsPrintable (levels + 8) template.toJson :=
    fun template inside => Template.isPrintable fun number isNumber =>
      templatesExact number (List.mem_flatMap.2 ⟨template, inside, isNumber⟩)
  have responses : ∀ response ∈ state.responses, IsPrintable (levels + 8) response.toJson :=
    fun response inside => Response.isPrintable fun number isNumber =>
      responsesExact number (List.mem_flatMap.2 ⟨response, inside, isNumber⟩)
  exact isPrintable_record (by
    simpa [isPrintable_list_map templates, isPrintable_list_map responses] using archived)

/-- The text of the document of a state is parsed into the tree that it was printed from. The
document adds a level to what is kept of the first schema. -/
theorem parse?_render {state : State} (exact : ∀ number ∈ state.numbers, number.IsReadBack)
    (archived : ∀ document, state.archivedV1 = some document →
      document.IsPrintable (depthLimit - 1)) : Json.parse? state.render = some state.toJson := by
  have printable : IsPrintable (117 + 10) state.toJson := isPrintable exact archived
  exact Json.parse?_render printable

/-- The fields of the document of a state. -/
theorem fields?_toJson (state : State) : ∃ fields, state.toJson.fields? fieldNames = some fields ∧
    fields.found.lookup "schemaVersion" = some (.ofUInt32 state.schemaVersion) ∧
    fields.found.lookup "templates" = some (.list (state.templates.map Template.toJson)) ∧
    fields.found.lookup "assignments" = some (.list (state.assignments.map Assignment.toJson)) ∧
    fields.found.lookup "responses" = some (.list (state.responses.map Response.toJson)) ∧
    fields.found.lookup "archivedV1" = state.archivedV1 := by
  cases kept : state.archivedV1 with
  | none | some =>
    rw [toJson, kept]
    exact ⟨_, rfl, rfl, rfl, rfl, rfl, rfl⟩

theorem schema_toJson {state : State} {fields : Fields}
    (found : fields.found.lookup "schemaVersion" = some (.ofUInt32 state.schemaVersion)) :
    fields.optional "schemaVersion" canonical? = some (some (.ofUInt32 state.schemaVersion)) := by
  rw [Fields.optional, Fields.withDefault, found]
  rfl

theorem archived_toJson {state : State} {fields : Fields}
    (found : fields.found.lookup "archivedV1" = state.archivedV1)
    (archived : ∀ document, state.archivedV1 = some document →
      document.IsValue ∧ document ≠ .null) :
    fields.optional "archivedV1" canonical? = some state.archivedV1 := by
  rw [Fields.optional, Fields.withDefault, found]
  cases kept : state.archivedV1 with
  | none => rfl
  | some document =>
    obtain ⟨isValue, notNull⟩ := archived document kept
    exact (asOption?_of_ne_null notNull).trans (congrArg (Option.map some) isValue)

/-- The parts of the document of a state hold its entries. -/
theorem parts_toJson {state : State} (kept : state.IsKept) :
    ∃ parts, DocumentParts.ofJson? state.toJson = some parts ∧
      parts.schema = some (.ofUInt32 state.schemaVersion) ∧
      readableEntries Template.ofJson? parts.templates = state.templates ∧
      readableEntries Assignment.ofJson? parts.assignments = state.assignments ∧
      readableEntries Response.ofJson? parts.responses = state.responses ∧
      parts.archivedV1 = state.archivedV1 := by
  obtain ⟨fields, areFields, schema, templates, assignments, responses, archived⟩ :=
    state.fields?_toJson
  obtain ⟨templateTree, templateValue, templatesRead⟩ :=
    readsBack_list fun template (_ : template ∈ state.templates) => template.readsBack
  obtain ⟨assignmentTree, assignmentValue, assignmentsRead⟩ :=
    readsBack_list fun assignment (_ : assignment ∈ state.assignments) => assignment.readsBack
  obtain ⟨responseTree, responseValue, responsesRead⟩ :=
    readsBack_list fun response inside => Response.readsBack (kept.responses response inside)
  refine
    ⟨{ schema := some (.ofUInt32 state.schemaVersion)
       templates := templateTree
       assignments := assignmentTree
       responses := responseTree
       archivedV1 := state.archivedV1 }, ?_, rfl, readableEntries_of_asList? templatesRead,
      readableEntries_of_asList? assignmentsRead, readableEntries_of_asList? responsesRead, rfl⟩
  rw [DocumentParts.ofJson?, areFields]
  simp only [Option.bind_eq_bind, Option.bind_some, schema_toJson schema,
    archived_toJson archived kept.archived, Fields.withDefault, templates, assignments, responses,
    templateValue, assignmentValue, responseValue]
  rfl

/-- A state is read back from its document, unless it has no templates. -/
theorem readDocument_render {state : State} (kept : state.IsKept)
    (printed : Json.parse? state.render = some state.toJson) :
    readDocument (some state.render) =
      if state.templates = [] then .error .noTemplates else .ok state := by
  obtain ⟨parts, areParts, schema, templates, assignments, responses, archived⟩ :=
    parts_toJson kept
  have found : parts.schema.bind asUInt64? = some Questionnaire.schemaVersion.toUInt64 := by
    rw [schema, Option.bind_some, ofUInt32, asUInt64?_ofUInt64, kept.schema]
  simp only [readDocument, printed, Option.bind_some, areParts, DocumentParts.toState, found,
    ne_eq, not_true, if_false, templates, assignments, responses, archived, ← kept.schema]
  cases state with
  | mk _ stateTemplates _ _ _ =>
    cases stateTemplates with
    | nil => rfl
    | cons => rfl

/-- The state is read back from its document. -/
structure IsReadBack (state : State) : Prop where
  /-- A document without templates is stale. -/
  templates : state.templates ≠ []
  /-- Nothing is lost in the document. -/
  kept : state.IsKept
  /-- The binary64 numbers are read back. -/
  numbers : ∀ number ∈ state.numbers, number.IsReadBack
  /-- What is kept of the first schema is not nested too deeply. -/
  archived : ∀ document, state.archivedV1 = some document →
    document.IsPrintable (depthLimit - 1)

theorem IsReadBack.printed {state : State} (whole : state.IsReadBack) :
    Json.parse? state.render = some state.toJson :=
  parse?_render whole.numbers whole.archived

theorem IsReadBack.readDocument {state : State} (whole : state.IsReadBack) :
    readDocument (some state.render) = .ok state := by
  rw [readDocument_render whole.kept whole.printed, if_neg whole.templates]

/-- Templates without binary64 numbers are read back if there is nothing else in the state. -/
theorem isReadBack_of_templates {templates : List Template} (someTemplates : templates ≠ [])
    (numberless : templates.flatMap Template.numbers = []) : IsReadBack { templates } where
  templates := someTemplates
  kept := ⟨rfl, fun _ inside => absurd inside List.not_mem_nil, nofun⟩
  numbers := by
    rw [numbers, numberless]
    exact fun _ inside => absurd inside List.not_mem_nil
  archived := nofun

theorem forall_mem_numbers_iff {state : State} {property : Binary64 → Prop} :
    (∀ number ∈ state.numbers, property number) ↔
      (∀ template ∈ state.templates, ∀ number ∈ template.numbers, property number) ∧
        ∀ response ∈ state.responses, ∀ number ∈ response.numbers, property number := by
  rw [numbers, List.forall_mem_append, List.forall_mem_flatMap, List.forall_mem_flatMap]

end State

/-! ## What is read -/

theorem isValue_of_asOption? {tree value : Json}
    (read : asOption? canonical? tree = some (some value)) : value.IsValue ∧ value ≠ .null := by
  obtain ⟨notNull, isValue⟩ := asOption?_eq_some_some_iff.1 read
  refine ⟨isValue_of_canonical? _ _ isValue, ?_⟩
  rintro rfl
  exact notNull (eq_null_of_canonical? isValue)

/-- What is kept of the first schema is a value other than `null`. -/
theorem DocumentParts.archived_ofJson? {tree : Json} {parts : DocumentParts}
    (areParts : ofJson? tree = some parts) {document : Json}
    (kept : parts.archivedV1 = some document) : document.IsValue ∧ document ≠ .null := by
  simp only [ofJson?, Option.bind_eq_bind, Option.bind_eq_some_iff] at areParts
  obtain ⟨fields, _, _, _, _, _, _, _, _, _, archived, isArchived, same⟩ := areParts
  obtain rfl := Option.some.inj same
  obtain rfl : archived = some document := kept
  rw [Fields.optional, Fields.withDefault] at isArchived
  split at isArchived
  · exact absurd (Option.some.inj isArchived) (Option.some_ne_none document).symm
  · exact isValue_of_asOption? isArchived

/-- A state that is read has all that it needs to be read back, apart from its upload times. -/
theorem readDocument_ok {text : Option String} {state : State}
    (read : readDocument text = .ok state) :
    state.schemaVersion = schemaVersion ∧ state.templates ≠ [] ∧
      ∀ document, state.archivedV1 = some document → document.IsValue ∧ document ≠ .null := by
  cases text with
  | none => contradiction
  | some text =>
    rw [readDocument] at read
    split at read
    · contradiction
    · rename_i parts areParts
      obtain ⟨tree, _, areParts⟩ := Option.bind_eq_some_iff.1 areParts
      simp only [DocumentParts.toState] at read
      split at read
      · contradiction
      · split at read
        · contradiction
        · rename_i someTemplates
          obtain rfl := Except.ok.inj read
          exact ⟨rfl, someTemplates, fun _ => DocumentParts.archived_ofJson? areParts⟩

end Questionnaire
