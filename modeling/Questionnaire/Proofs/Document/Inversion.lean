import Questionnaire.Proofs.Document.State
import Questionnaire.Proofs.Json.Inversion

/-!
# What is lost in the document

A state that is read from its own document has lost nothing in the text. For each kind of record,
what is read back has kept its numbers and its upload times; all other fields are read back whatever
they are. At the top, entries that cannot be read are dropped, so that there it is the number of the
entries that says that each of them was read.
-/

namespace Questionnaire

open Json

variable {levels : Nat}

theorem CanvasPosition.exact_of_readsBack {position : CanvasPosition}
    (back : ReadsBack CanvasPosition.ofJson? (position.toJson.reread levels) position) :
    ∀ number ∈ position.numbers, number.IsReadBack := by
  obtain ⟨lower, fields, holds, _, assembled⟩ := back.of_record (by simp [AreNamed]) (by decide)
  obtain ⟨holdsX, holdsY, _⟩ := holds
  simp only [Option.bind_eq_bind, Option.bind_eq_some_iff] at assembled
  obtain ⟨x, isX, y, isY, same⟩ := assembled
  obtain rfl := Option.some.inj same
  have first := (holdsX.of_required isX).isReadBack
  have second := (holdsY.of_required isY).isReadBack
  simpa [numbers] using ⟨first, second⟩

theorem FileRules.exact_of_readsBack {rules : FileRules}
    (back : ReadsBack FileRules.ofJson? (rules.toJson.reread levels) rules) :
    ∀ number ∈ rules.numbers, number.IsReadBack := by
  obtain ⟨lower, fields, holds, _, assembled⟩ := back.of_record (by simp [AreNamed]) (by decide)
  obtain ⟨_, _, holdsSize, _⟩ := holds
  simp only [Option.bind_eq_bind, Option.bind_eq_some_iff] at assembled
  obtain ⟨_, _, _, _, maxSizeMb, isSize, same⟩ := assembled
  obtain rfl := Option.some.inj same
  intro number inside
  exact (holdsSize.of_optional isSize number (Option.mem_toList.1 inside)).isReadBack

theorem Node.exact_of_readsBack {node : Node}
    (back : ReadsBack Node.ofJson? (node.toJson.reread levels) node) :
    ∀ number ∈ node.numbers, number.IsReadBack := by
  obtain ⟨lower, fields, holds, _, assembled⟩ :=
    back.of_record (by simp [AreNamed, Node.fieldNames]) (by decide)
  obtain ⟨_, _, _, _, _, _, _, _, _, _, _, _, _, _, _, holdsRules, _, _, _, _, _, holdsPosition,
    _⟩ := holds
  iterate 15 obtain ⟨_, _, assembled⟩ := Option.bind_eq_some_iff.1 assembled
  obtain ⟨fileRules, isRules, assembled⟩ := Option.bind_eq_some_iff.1 assembled
  iterate 5 obtain ⟨_, _, assembled⟩ := Option.bind_eq_some_iff.1 assembled
  obtain ⟨position, isPosition, same⟩ := Option.bind_eq_some_iff.1 assembled
  obtain rfl := Option.some.inj same
  refine List.forall_mem_append.2 ⟨fun number inside => ?_, fun number inside => ?_⟩
  · obtain ⟨rules, areRules, isNumber⟩ := List.mem_flatMap.1 inside
    have back := holdsRules.of_optional isRules rules (Option.mem_toList.1 areRules)
    exact FileRules.exact_of_readsBack back number isNumber
  · obtain ⟨place, isPlace, isNumber⟩ := List.mem_flatMap.1 inside
    have back := holdsPosition.of_optional isPosition place (Option.mem_toList.1 isPlace)
    exact CanvasPosition.exact_of_readsBack back number isNumber

theorem Graph.exact_of_readsBack {graph : Graph}
    (back : ReadsBack Graph.ofJson? (graph.toJson.reread levels) graph) :
    ∀ number ∈ graph.numbers, number.IsReadBack := by
  obtain ⟨lower, fields, holds, readable, assembled⟩ :=
    back.of_record (by simp [AreNamed]) (by decide)
  obtain ⟨holdsNodes, _⟩ := holds
  simp only [Option.bind_eq_bind, Option.bind_eq_some_iff] at assembled
  obtain ⟨nodes, isNodes, _, _, same⟩ := assembled
  obtain rfl := Option.some.inj same
  have nodesReadable := readable _ List.mem_cons_self _ rfl
  obtain ⟨inner, each⟩ := (holdsNodes.of_withDefault nodesReadable isNodes).of_list
  intro number inside
  obtain ⟨node, isNode, isNumber⟩ := List.mem_flatMap.1 inside
  exact Node.exact_of_readsBack (each node isNode) number isNumber

theorem TemplateVersion.exact_of_readsBack {version : TemplateVersion}
    (back : ReadsBack TemplateVersion.ofJson? (version.toJson.reread levels) version) :
    ∀ number ∈ version.graph.numbers, number.IsReadBack := by
  obtain ⟨lower, fields, holds, _, assembled⟩ := back.of_record (by simp [AreNamed]) (by decide)
  obtain ⟨_, holdsGraph, _⟩ := holds
  simp only [Option.bind_eq_bind, Option.bind_eq_some_iff] at assembled
  obtain ⟨_, _, graph, isGraph, _, _, _, _, _, _, same⟩ := assembled
  obtain rfl := Option.some.inj same
  exact Graph.exact_of_readsBack (holdsGraph.of_required isGraph)

theorem Template.exact_of_readsBack {template : Template}
    (back : ReadsBack Template.ofJson? (template.toJson.reread levels) template) :
    ∀ number ∈ template.numbers, number.IsReadBack := by
  obtain ⟨lower, fields, holds, _, assembled⟩ :=
    back.of_record (by simp [AreNamed, Template.fieldNames]) (by decide)
  obtain ⟨_, _, _, _, _, _, _, _, _, _, holdsVersions, _⟩ := holds
  iterate 10 obtain ⟨_, _, assembled⟩ := Option.bind_eq_some_iff.1 assembled
  obtain ⟨versions, isVersions, assembled⟩ := Option.bind_eq_some_iff.1 assembled
  obtain ⟨_, _, same⟩ := Option.bind_eq_some_iff.1 assembled
  obtain rfl := Option.some.inj same
  obtain ⟨inner, each⟩ := (holdsVersions.of_required isVersions).of_list
  intro number inside
  obtain ⟨version, isVersion, isNumber⟩ := List.mem_flatMap.1 inside
  exact TemplateVersion.exact_of_readsBack (each version isVersion) number isNumber

/-! ## Responses -/

/-- An upload time that is read back has a year of four digits. -/
theorem Timestamp.hasFourDigitYear_of_readsBack {moment : Timestamp}
    (back : ReadsBack readUploadTime? (moment.toJson.reread levels) (some moment)) :
    moment.HasFourDigitYear := by
  obtain ⟨tree, isValue, isRead⟩ := back
  rw [toJson, reread] at isValue
  obtain rfl := Option.some.inj isValue
  by_contra signed
  rw [readUploadTime?, canonical?, Option.map_some, asText?, Option.bind_some,
    parseUpload?_render_signed signed] at isRead
  exact absurd (Option.some.inj isRead).symm (Option.some_ne_none moment)

theorem UploadedFile.dated_of_readsBack {file : UploadedFile}
    (back : ReadsBack UploadedFile.ofJson? (file.toJson.reread levels) file) : file.IsDated := by
  obtain ⟨lower, fields, holds, _, assembled⟩ := back.of_record (by simp [AreNamed]) (by decide)
  obtain ⟨_, _, holdsTime, _⟩ := holds
  simp only [Option.bind_eq_bind, Option.bind_eq_some_iff] at assembled
  obtain ⟨_, _, _, _, uploadedAt, isTime, _, _, _, _, _, _, same⟩ := assembled
  obtain rfl := Option.some.inj same
  intro moment is
  exact Timestamp.hasFourDigitYear_of_readsBack (holdsTime.of_ifSome isTime moment is)

namespace Answer

/-- An answer that is read back is read in its own shape. -/
theorem shapeOf?_of_readsBack {written : Json} {answer : Answer}
    (back : ReadsBack readAnswer? written (some answer)) : ReadsBack shapeOf? written answer := by
  obtain ⟨tree, isValue, isRead⟩ := back
  have isSelf : tree.IsValue := isValue_of_canonical? _ _ isValue
  rw [readAnswer?, show canonical? tree = some tree from isSelf, Option.map_some,
    ofJson?_of_isValue isSelf] at isRead
  exact ⟨tree, isValue, Option.some.inj isRead⟩

theorem asBinary64?_of_shapeOf? {tree : Json} {value : Binary64}
    (shape : shapeOf? tree = some (number value)) : asBinary64? tree = some value := by
  have chosen : asText? tree = none ∧ asBinary64? tree = some value := by
    simpa [shapeOf?, Option.or_eq_some_iff] using shape
  exact chosen.2

theorem filesOfJson?_of_shapeOf? {tree : Json} {uploads : List UploadedFile}
    (shape : shapeOf? tree = some (files uploads)) : filesOfJson? tree = some uploads := by
  have chosen : asText? tree = none ∧ asBinary64? tree = none ∧ asBool? tree = none ∧
      asList? asText? tree = none ∧ filesOfJson? tree = some uploads := by
    simpa [shapeOf?, Option.or_eq_some_iff] using shape
  exact chosen.2.2.2.2

theorem dated_of_readsBack {answer : Answer}
    (back : ReadsBack readAnswer? (answer.toJson.reread levels) (some answer)) :
    ∀ file ∈ answer.fileList, file.IsDated := by
  cases answer with
  | text | number | bool | list | record => exact fun _ inside => absurd inside List.not_mem_nil
  | files uploads =>
    obtain ⟨tree, isValue, isRead⟩ := shapeOf?_of_readsBack back
    have filesBack : ReadsBack filesOfJson? ((files uploads).toJson.reread levels) uploads :=
      ⟨tree, isValue, filesOfJson?_of_shapeOf? isRead⟩
    obtain ⟨lower, fields, holds, _, assembled⟩ :=
      filesBack.of_record (by simp [AreNamed]) (by decide)
    obtain ⟨inner, each⟩ := (holds.1.of_required assembled).of_list
    exact fun file inside => UploadedFile.dated_of_readsBack (each file inside)

theorem exact_of_readsBack {answer : Answer}
    (back : ReadsBack readAnswer? (answer.toJson.reread levels) (some answer)) :
    ∀ number ∈ answer.numbers, number.IsReadBack := by
  cases answer with
  | text | bool | list | files | record => exact fun _ inside => absurd inside List.not_mem_nil
  | number value =>
    obtain ⟨tree, isValue, isRead⟩ := shapeOf?_of_readsBack back
    have numberBack : ReadsBack asBinary64? ((ofBinary64 value).reread levels) value :=
      ⟨tree, isValue, asBinary64?_of_shapeOf? isRead⟩
    exact List.forall_mem_singleton.2 numberBack.isReadBack

end Answer

/-- What the text has kept of a response that is read back: its upload times and its numbers. -/
theorem Response.kept_of_readsBack {response : Response}
    (back : ReadsBack Response.ofJson? (response.toJson.reread levels) response) :
    response.IsDated ∧ ∀ number ∈ response.numbers, number.IsReadBack := by
  obtain ⟨lower, fields, holds, _, assembled⟩ := back.of_record (by simp [AreNamed]) (by decide)
  obtain ⟨_, _, holdsAnswer, _⟩ := holds
  simp only [Option.bind_eq_bind, Option.bind_eq_some_iff] at assembled
  obtain ⟨_, _, _, _, answer, isAnswer, _, _, _, _, same⟩ := assembled
  obtain rfl := Option.some.inj same
  have answerBack := holdsAnswer.of_ifSome isAnswer
  cases answer with
  | none =>
    exact ⟨fun _ inside => absurd inside List.not_mem_nil,
      fun _ inside => absurd inside List.not_mem_nil⟩
  | some given =>
    refine ⟨Answer.dated_of_readsBack (answerBack given rfl), fun number inside => ?_⟩
    rw [numbers, Option.toList_some, List.flatMap_singleton] at inside
    exact Answer.exact_of_readsBack (answerBack given rfl) number inside

/-! ## Whole documents -/

/-- If as many entries are read as were written, none was dropped and each is read back. -/
theorem readsBack_of_filterMap {α : Type} {read : Json → Option α} {write : α → Json}
    {entries : List α} {values : List Json}
    (areValues : List.Forall₂ (fun entry value => canonical? (write entry) = some value)
      entries values)
    (areRead : values.filterMap read = entries) :
    ∀ entry ∈ entries, ReadsBack read (write entry) entry := by
  induction areValues with
  | nil => exact fun _ inside => absurd inside List.not_mem_nil
  | @cons entry value rest values isValue others inductionHypothesis =>
    cases isRead : read value with
    | none =>
      -- An entry that is dropped leaves fewer than were written.
      rw [List.filterMap_cons_none isRead] at areRead
      have short := List.length_filterMap_le read values
      rw [areRead, List.length_cons, others.length_eq] at short
      omega
    | some found =>
      rw [List.filterMap_cons_some isRead] at areRead
      obtain ⟨rfl, areLater⟩ := List.cons.inj areRead
      exact List.forall_mem_cons.2 ⟨⟨value, isValue, isRead⟩, inductionHypothesis areLater⟩

theorem readsBack_of_readableEntries {α : Type} {read : Json → Option α} {write : α → Json}
    {entries : List α} {tree : Json}
    (isValue : canonical? ((Json.list (entries.map write)).reread levels) = some tree)
    (areRead : readableEntries read tree = entries) :
    ∃ lower, ∀ entry ∈ entries, ReadsBack read ((write entry).reread lower) entry := by
  obtain ⟨lower, values, rfl, each⟩ := exists_values_of_list isValue
  exact ⟨lower, readsBack_of_filterMap each areRead⟩

/-- The fields of the text of the document of a state. -/
theorem State.fields?_reread (state : State) (levels : Nat) : ∃ fields,
    (state.toJson.reread (levels + 1)).fields? fieldNames = some fields ∧
      fields.found.lookup "templates" =
        some ((Json.list (state.templates.map Template.toJson)).reread levels) ∧
      fields.found.lookup "responses" =
        some ((Json.list (state.responses.map Response.toJson)).reread levels) ∧
      fields.found.lookup "archivedV1" = state.archivedV1.map (Json.reread levels) := by
  cases kept : state.archivedV1 with
  | none | some =>
    rw [toJson, kept, reread_ofMembers]
    exact ⟨_, rfl, rfl, rfl, rfl⟩

/-- What is read from the tree of a stored text. -/
def readTree (tree : Json) : Except StaleDocument State :=
  match DocumentParts.ofJson? tree with
  | none => .error .corrupt
  | some parts => parts.toState

/-- The text of a tree is read as the tree, read again. -/
theorem readDocument_tree (tree : Json) :
    readDocument (some tree.render) = readTree (tree.reread depthLimit) := by
  rw [readDocument, parse?_render_eq_reread]
  rfl

/-- The entries of a state that is read are those of its parts that can be read. -/
theorem DocumentParts.entries_of_toState {parts : DocumentParts} {state : State}
    (read : parts.toState = .ok state) :
    readableEntries Template.ofJson? parts.templates = state.templates ∧
      readableEntries Response.ofJson? parts.responses = state.responses ∧
      parts.archivedV1 = state.archivedV1 := by
  simp only [toState] at read
  split at read
  · contradiction
  · split at read
    · contradiction
    · rename_i areTemplates
      obtain rfl := Except.ok.inj read
      exact ⟨rfl, rfl, rfl⟩

/-- A state that is read from its own document has all that it takes to be read back. -/
theorem State.isReadBack_of_readDocument {state : State}
    (read : readDocument (some state.render) = .ok state) : state.IsReadBack := by
  obtain ⟨schema, someTemplates, archivedValue⟩ := readDocument_ok read
  obtain ⟨fields, areFields, templatesFound, responsesFound, archivedFound⟩ :=
    state.fields?_reread (depthLimit - 1)
  rw [render, readDocument_tree, readTree] at read
  split at read
  · contradiction
  · rename_i parts areParts
    obtain ⟨templatesRead, responsesRead, archivedRead⟩ := DocumentParts.entries_of_toState read
    simp only [DocumentParts.ofJson?, Option.bind_eq_bind, Option.bind_eq_some_iff] at areParts
    obtain ⟨found, areFound, _, _, templates, areTemplates, _, _, responses, areResponses, archived,
      isArchived, same⟩ := areParts
    obtain rfl := Option.some.inj (areFound.symm.trans areFields)
    obtain rfl := Option.some.inj same
    simp only [Fields.withDefault, templatesFound] at areTemplates
    simp only [Fields.withDefault, responsesFound] at areResponses
    obtain ⟨templateLevels, eachTemplate⟩ := readsBack_of_readableEntries areTemplates templatesRead
    obtain ⟨responseLevels, eachResponse⟩ := readsBack_of_readableEntries areResponses responsesRead
    refine ⟨someTemplates, ⟨schema, fun response inside => ?_, archivedValue⟩,
      forall_mem_numbers_iff.2 ⟨fun template inside => ?_, fun response inside => ?_⟩,
      fun document kept => ?_⟩
    · exact (Response.kept_of_readsBack (eachResponse response inside)).1
    · exact Template.exact_of_readsBack (eachTemplate template inside)
    · exact (Response.kept_of_readsBack (eachResponse response inside)).2
    · obtain rfl : archived = some document := archivedRead.trans kept
      simp only [Fields.optional, Fields.withDefault, archivedFound, kept, Option.map_some]
        at isArchived
      exact isPrintable_of_canonical? (asOption?_eq_some_some_iff.1 isArchived).2

/-- A state is read from its own document if and only if it has all that this takes. -/
theorem State.readDocument_render_iff {state : State} :
    readDocument (some state.render) = .ok state ↔ state.IsReadBack :=
  ⟨isReadBack_of_readDocument, IsReadBack.readDocument⟩

end Questionnaire
