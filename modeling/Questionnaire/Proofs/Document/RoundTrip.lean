import Questionnaire.Proofs.Document.Inversion
import Questionnaire.Proofs.Json.Nesting
import Questionnaire.Response.Table

/-!
# Documents survive being read and written

A state goes through its own document if it is of the current schema, has a template, keeps its
upload times to the years 0 to 9999 and keeps no `null` of the first schema, as long as the text of
the document is parsed into the tree that it was printed from. What is read from a text always has
the schema, a template and a readable document of the first schema, so that a document that was read
and written again is read as the same state exactly when no upload time and no number is lost.
-/

namespace Questionnaire

open Json

deriving instance DecidableEq for State

namespace Json

/-- A part of a record nests one level less than the record. -/
theorem nests_of_lookup {tree part : Json} {levels : Nat} {names : List String} {fields : Fields}
    (nests : tree.Nests (levels + 1)) (areFields : tree.fields? names = some fields) {name : String}
    (found : fields.found.lookup name = some part) : part.Nests levels := by
  obtain ⟨before, after, found, _⟩ := List.lookup_eq_some_iff.1 found
  have inside : (name, part) ∈ fields.found :=
    found ▸ List.mem_append_right before List.mem_cons_self
  unfold fields? at areFields
  split at areFields
  · obtain ⟨_, same⟩ := Option.ite_none_right_eq_some.1 areFields
    obtain rfl := Option.some.inj same
    exact nests (name, part) (List.mem_filter.1 inside).1
  · obtain ⟨_, same⟩ := Option.ite_none_right_eq_some.1 areFields
    obtain rfl := Option.some.inj same
    exact nests part (List.of_mem_zip inside).2
  · contradiction

end Json

/-- What is read of the first schema nests one level less than a text may. -/
theorem nests_archived {text : Option String} {state : State} {document : Json}
    (read : readDocument text = .ok state) (kept : state.archivedV1 = some document) :
    document.Nests (depthLimit - 1) := by
  cases text with
  | none => contradiction
  | some text =>
    rw [readDocument] at read
    split at read
    · contradiction
    · -- The first schema stands in a member of the document, which takes one level.
      rename_i parts areParts
      obtain ⟨tree, parsed, areParts⟩ := Option.bind_eq_some_iff.1 areParts
      have archivedRead := (DocumentParts.entries_of_toState read).2.2
      simp only [DocumentParts.ofJson?, Option.bind_eq_bind, Option.bind_eq_some_iff] at areParts
      obtain ⟨fields, areFields, _, _, _, _, _, _, _, _, archived, isArchived, same⟩ := areParts
      obtain rfl := Option.some.inj same
      obtain rfl : archived = some document := archivedRead.trans kept
      rw [Fields.optional, Fields.withDefault] at isArchived
      split at isArchived
      · exact absurd (Option.some.inj isArchived).symm (Option.some_ne_none document)
      · rename_i part found
        exact nests_canonical? (nests_of_lookup (nests_parse? parsed) areFields found)
          (asOption?_eq_some_some_iff.1 isArchived).2

/-- A state whose text is parsed into the tree that it was printed from is read from its document
exactly if it is of the current schema, has a template, keeps its upload times to the years 0 to
9999, and keeps no `null` of the first schema. -/
theorem State.readDocument_printed_iff {state : State}
    (values : ∀ document, state.archivedV1 = some document → document.IsValue)
    (printed : Json.parse? state.render = some state.toJson) :
    readDocument (some state.render) = .ok state ↔
      state.schemaVersion = Questionnaire.schemaVersion ∧ state.templates ≠ [] ∧
        (∀ response ∈ state.responses, response.IsDated) ∧ state.archivedV1 ≠ some .null := by
  constructor
  · intro read
    obtain ⟨schema, someTemplates, archived⟩ := readDocument_ok read
    exact ⟨schema, someTemplates, (isReadBack_of_readDocument read).kept.responses,
      fun isNull => (archived _ isNull).2 rfl⟩
  · rintro ⟨schema, someTemplates, dated, notNull⟩
    have kept : state.IsKept :=
      ⟨schema, dated, fun document is => ⟨values document is, by rintro rfl; exact notNull is⟩⟩
    rw [readDocument_render kept printed, if_neg someTemplates]

/-- Every kind of node, every condition, every shape of an answer and every optional field is read
back, a leap second included. -/
theorem State.readDocument_printed_iff_full :
    let number : Binary64 := .ofNat 2
    let leap : Timestamp :=
      { minute := 24850079, second := 60, nanosecond := 500000000, second_le := by decide
        nanosecond_lt := by decide, inRange := by decide }
    let choice : Choice := { id := "x", label := "X" }
    let full : Node :=
      { id := "f", kind := .question, title := "F", helpText := some "h", whyWeAsk := some "w"
        placeholder := some "p", clientVisible := true, labels := Label.all, customTags := ["c"]
        inputType := some .text, required := true, blocksWorkflow := true, options := [choice]
        rows := [choice], columns := [choice]
        fileRules := some { minFiles := some 1, allowedMime := ["m"], maxSizeMb := some number }
        sectionId := some "s", order := some 1, sectionOrder := some 2, formStepId := some "g"
        formFieldId := some "k", position := some { x := number, y := number.neg } }
    let nodes := NodeKind.all.map fun kind => Node.ofKind kind kind.name
    let inputs := InputType.all.map fun inputType =>
      { Node.ofKind .question inputType.name with inputType := some inputType }
    let conditions : List EdgeCondition :=
      [.always, .yes, .no, .answered, .choiceEquals (some "x"), .choiceEquals none,
        .choiceContains (some "x"), .choiceContains none]
    let edges := conditions.map fun condition =>
      { Edge.always condition.name "f" with condition }
    let graph : Graph := { nodes := full :: nodes ++ inputs, edges }
    let template : Template :=
      { Template.ofVersion "t" "A" .custom .attorney
          (.published 1 graph .staff leap (some "n")) leap with
        archived := true }
    let assignment : Assignment :=
      { Assignment.issue "a" "t" 1 "A" leap with dueAt := some "d", archived := true }
    let file : UploadedFile :=
      { id := "f", name := "f", uploadedAt := some leap, mimeType := some "m", sizeBytes := some 1
        blobKey := some "b" }
    let row : KeyMap String := .ofList [("files", "x")]
    let answers : List Answer :=
      [.text "x", .number number, .bool false, .list ["x"], .files [file], .record row]
    let skip : Skip := { reason := "r", actor := .attorney, moment := leap }
    let responses := answers.map fun answer : Answer =>
      ({ assignmentId := "a", nodeId := "f", answer := some answer, skip := some skip
         updatedAt := leap } : Response)
    let state : State :=
      { templates := [template], assignments := [assignment], responses
        archivedV1 := some (.object [("k", .list [.null, .ofBinary64 number])]) }
    (∀ document, state.archivedV1 = some document → document.IsValue) ∧
      Json.parse? state.render = some state.toJson ∧
      readDocument (some state.render) = .ok state := by
  intro number leap choice full nodes inputs conditions edges graph template assignment file row
    answers skip responses state
  have values : ∀ document ∈ state.archivedV1, document.canonical? = some document := by
    decide +kernel
  have printed : Json.parse? state.render = some state.toJson :=
    parse?_render_iff.2 (reread_eq_self_iff.1 (by decide +kernel))
  have dated : ∀ response ∈ state.responses, response.IsDated := by decide +kernel
  exact ⟨values, printed, (readDocument_printed_iff values printed).2
    ⟨rfl, List.cons_ne_nil _ _, dated, nofun⟩⟩

/-- A document that was read and is written again is read as the same state if and only if its
upload times lie in the years 0 to 9999 and each number in it is read back from its own text. -/
theorem readDocument_again_iff {text : Option String} {state : State}
    (read : readDocument text = .ok state) :
    readDocument (some state.render) = .ok state ↔
      (∀ response ∈ state.responses, response.IsDated) ∧
        (∀ number ∈ state.numbers, number.IsReadBack) ∧
        ∀ document, state.archivedV1 = some document →
          ∀ number ∈ document.numbers, number.IsReadBack := by
  obtain ⟨schema, someTemplates, archived⟩ := readDocument_ok read
  have printable (document : Json) (kept : state.archivedV1 = some document) :
      document.IsPrintable (depthLimit - 1) ↔ ∀ number ∈ document.numbers, number.IsReadBack :=
    isPrintable_iff ⟨document, (archived document kept).1⟩ (nests_archived read kept)
  rw [State.readDocument_render_iff]
  constructor
  · exact fun whole => ⟨whole.kept.responses, whole.numbers, fun document kept =>
      (printable document kept).1 (whole.archived document kept)⟩
  · rintro ⟨dated, exact, archivedExact⟩
    exact ⟨someTemplates, ⟨schema, dated, archived⟩, exact, fun document kept =>
      (printable document kept).2 (archivedExact document kept)⟩

/-- A response and a file that are written as arrays are read, and so are a bare date with blanks
around it, a leap second, and an object of files that is none. Written again they are read as the
same. -/
theorem readDocument_again_iff_loose :
    let template : Template := .ofVersion "t" "A" .custom .attorney (.draft 1 .empty) .epoch
    let file : Json := .list [.text "f", .text "f", .text " 2024-02-29 "]
    let leap : Json := .text "1969-12-31t23:59:60.5-00:00"
    let loose (nodeId : String) (value : Json) : Json :=
      .list [.text "a", .text nodeId, value, .null, leap]
    let document : Json :=
      .object
        [("schemaVersion", .ofUInt32 schemaVersion), ("templates", .list [template.toJson, .null]),
          ("responses", .list
            [loose "p" (.object [("files", .list [file])]),
              loose "q" (.object [("files", .text "x")]), loose "r" (.ofUInt64 1)]),
          ("archivedV1", .list [.ofUInt64 1])]
    let moment : Timestamp :=
      { minute := -1, second := 60, nanosecond := 500000000, second_le := by decide
        nanosecond_lt := by decide, inRange := by decide }
    let day : Timestamp := .ofDate { year := 2024, month := 2, day := 29 } (by decide)
    let response (nodeId : String) (answer : Answer) : Response :=
      .answered "a" nodeId answer moment
    let state : State :=
      { templates := [template]
        responses :=
          [response "p" (.files [{ id := "f", name := "f", uploadedAt := some day }]),
            response "q" (.record (.ofList [("files", "x")])),
            response "r" (.number (.ofNat 1))]
        archivedV1 := some (.list [.ofUInt64 1]) }
    readDocument (some document.render) = .ok state ∧
      readDocument (some state.render) = .ok state := by
  intro template file leap loose document moment day response state
  have read : readDocument (some document.render) = .ok state := by
    rw [readDocument_tree]
    decide +kernel
  have dated : ∀ response ∈ state.responses, response.IsDated := by decide +kernel
  have exact : ∀ number ∈ state.numbers, number.IsReadBack := by decide +kernel
  have archived : ∀ document ∈ state.archivedV1,
      ∀ number ∈ document.numbers, number.IsReadBack := by
    decide +kernel
  exact ⟨read, (readDocument_again_iff read).2 ⟨dated, exact, archived⟩⟩

/-- A bare date of the year 12000 is read as an upload time, which is written in a form that is not
read as one: the file is read again without it. -/
theorem readDocument_again_undated :
    let template : Template := .ofVersion "t" "A" .custom .attorney (.draft 1 .empty) .epoch
    let file : Json :=
      .object [("id", .text "f"), ("name", .text "f"), ("uploadedAt", .text "+12000-01-01")]
    let answered : Json :=
      .object
        [("assignmentId", .text "a"), ("nodeId", .text "n"),
          ("value", .object [("files", .list [file])]),
          ("updatedAt", .text "1970-01-01T00:00:00Z")]
    let document : Json :=
      .object
        [("schemaVersion", .ofUInt32 schemaVersion), ("templates", .list [template.toJson]),
          ("responses", .list [answered])]
    let state (uploadedAt : Option Timestamp) : State :=
      { templates := [template]
        responses := [.answered "a" "n" (.files [{ id := "f", name := "f", uploadedAt }]) .epoch] }
    let day : Timestamp := .ofDate { year := 12000, month := 1, day := 1 } (by decide)
    readDocument (some document.render) = .ok (state (some day)) ∧
      readDocument (some (state (some day)).render) = .ok (state none) ∧
      state (some day) ≠ state none := by
  intro template file answered document state day
  refine ⟨?_, ?_, by decide +kernel⟩
  · rw [readDocument_tree]
    decide +kernel
  · rw [State.render, readDocument_tree]
    decide +kernel

end Questionnaire
