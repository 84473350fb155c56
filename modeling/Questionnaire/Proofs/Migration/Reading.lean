import Mathlib.Data.List.Forall2
import Mathlib.Data.List.Nodup
import Questionnaire.Migration.FlatTemplate
import Questionnaire.Proofs.KeyMap

/-!
# What a document of the first schema says

What a document says is told here by its tree alone: a record is an object or an array, whose fields
have names and places, and a template is a record whose fields have values of certain forms. The
readers of a document find what it says, and nothing that it does not say.
-/

namespace Questionnaire

namespace Json

/-- The tree is a record with these fields, each under the names that it may go by: an object that
gives no field twice, or an array with no more items than there are fields. -/
def IsRecord (fields : List (List String)) : Json → Prop
  | .object members =>
    ∀ names ∈ fields, (members.countP fun member => names.contains member.1) ≤ 1
  | .list items => items.length ≤ fields.length
  | _ => False

/-- The record gives a field this value: under one of the names of the field, or at its place. -/
def Gives (tree : Json) (place : Nat) (names : List String) (value : Json) : Prop :=
  match tree with
  | .object members => ∃ name ∈ names, (name, value) ∈ members
  | .list items => items[place]? = some value
  | _ => False

/-- The record gives a field no value. -/
def LeavesOut (tree : Json) (place : Nat) (names : List String) : Prop :=
  ∀ value, ¬ tree.Gives place names value

end Json

open Json

/-- The tree is a question. The label may be called a prompt, and the kind is a name or an object
with this name over `null`. -/
structure IsFlatQuestion (tree : Json) (question : FlatQuestion) : Prop where
  /-- The tree is a record of four fields. -/
  record : tree.IsRecord [["id"], ["kind"], ["label", "prompt"], ["required"]]
  /-- It gives the name of the question. -/
  id : tree.Gives 0 ["id"] (.text question.id)
  /-- It gives what the question asks for. -/
  kind : ∃ name,
    (name, question.kind) ∈ [("text", .text), ("textarea", .textarea), ("file", .file)] ∧
      (tree.Gives 1 ["kind"] (.text name) ∨ tree.Gives 1 ["kind"] (.object [(name, .null)]))
  /-- It gives the question. -/
  label : tree.Gives 2 ["label", "prompt"] (.text question.label)
  /-- A question has to be answered only where the tree says so. -/
  required : tree.Gives 3 ["required"] (.bool question.required) ∨
    tree.LeavesOut 3 ["required"] ∧ question.required = false

/-- The tree is a template, whose questions are all questions. -/
structure IsFlatTemplate (tree : Json) (flat : FlatTemplate) : Prop where
  /-- The tree is a record of four fields. -/
  record : tree.IsRecord [["id"], ["title"], ["description"], ["questions"]]
  /-- It gives the name of the template. -/
  id : tree.Gives 0 ["id"] (.text flat.id)
  /-- It gives the title. -/
  title : tree.Gives 1 ["title"] (.text flat.title)
  /-- It gives the description, or `null` for none. -/
  description : tree.Gives 2 ["description"] (flat.description.elim .null .text) ∨
    tree.LeavesOut 2 ["description"] ∧ flat.description = none
  /-- It gives a list of questions, in order. -/
  questions : ∃ trees, tree.Gives 3 ["questions"] (.list trees) ∧
    List.Forall₂ IsFlatQuestion trees flat.questions

/-- The document lists these entries; without a list it has none. -/
structure ListsEntries (document : Json) (entries : List Json) : Prop where
  /-- The document is a record of one field. -/
  record : document.IsRecord [["templates"]]
  /-- It gives the entries, unless there are none. -/
  given : document.Gives 0 ["templates"] (.list entries) ∨
    document.LeavesOut 0 ["templates"] ∧ entries = []

/-! ## Fields of a record -/

section Fields

variable {α : Type} {names : List String} {tree : Json} {fields : Fields} {name : String}

/-- Of some keys, those with one of the names are distinct exactly if no name comes twice. -/
theorem nodup_filter_contains_iff {keys : List String} :
    (keys.filter names.contains).Nodup ↔ ∀ name ∈ names, keys.count name ≤ 1 := by
  rw [List.nodup_iff_count_le_one]
  refine forall_congr' fun name => ?_
  by_cases inside : name ∈ names
  · rw [List.count_filter (List.contains_iff_mem.2 inside)]
    exact ⟨fun once _ => once, fun once => once inside⟩
  · have none : (keys.filter names.contains).count name = 0 :=
      List.count_eq_zero.2 fun kept => inside (List.contains_iff_mem.1 (List.mem_filter.1 kept).2)
    simp [none, inside]

/-- A tree has fields exactly if it is a record. -/
theorem exists_fields?_iff : (∃ fields, tree.fields? names = some fields) ↔
    tree.IsRecord (names.map fun name => [name]) := by
  cases tree with
  | null | bool | number | text | unreadable => simp [fields?, IsRecord]
  | list items => simp [fields?, IsRecord]
  | object members =>
    have once (name : String) : (members.map Prod.fst).count name =
        members.countP fun member => [name].contains member.1 := by
      rw [List.count, List.countP_map]
      exact List.countP_congr fun member _ => by simp
    have distinct : ((members.filter fun member => names.contains member.1).map Prod.fst).Nodup ↔
        (object members).IsRecord (names.map fun name => [name]) := by
      have keys : ((members.map Prod.fst).filter names.contains).Nodup ↔ _ :=
        nodup_filter_contains_iff
      rw [List.filter_map] at keys
      simp only [once] at keys
      rw [IsRecord, List.forall_mem_map]
      exact keys
    rw [← distinct]
    simp [fields?]

/-- A field is found exactly if the record gives it. -/
theorem lookup_eq_some_iff_gives (place : Nat) (distinct : names.Nodup)
    (named : names[place]? = some name) (areFields : tree.fields? names = some fields)
    {value : Json} :
    fields.found.lookup name = some value ↔ tree.Gives place [name] value := by
  have isName : name ∈ names := List.mem_of_getElem? named
  cases tree with
  | null | bool | number | text | unreadable => contradiction
  | object members =>
    rw [fields?] at areFields
    split at areFields
    case isFalse => contradiction
    case isTrue apart =>
      obtain rfl := Option.some.inj areFields
      rw [KeyMap.lookup_eq_some_iff_mem apart, List.mem_filter, Gives]
      simp [isName]
  | list items =>
    rw [fields?] at areFields
    split at areFields
    case isFalse => contradiction
    case isTrue short =>
      obtain rfl := Option.some.inj areFields
      have apart : ((names.zip items).map Prod.fst).Nodup := by
        rw [List.zip_eq_zip_take_min, List.map_fst_zip (by simp)]
        exact distinct.sublist (List.take_sublist _ _)
      rw [KeyMap.lookup_eq_some_iff_mem apart, List.mem_iff_getElem?, Gives]
      constructor
      · rintro ⟨other, isPair⟩
        obtain ⟨isOther, isValue⟩ := List.getElem?_zip_eq_some.1 isPair
        rwa [← (List.getElem?_inj (List.getElem?_eq_some_iff.1 isOther).1 distinct).1
          (isOther.trans named.symm)]
      · exact fun isValue => ⟨place, List.getElem?_zip_eq_some.2 ⟨named, isValue⟩⟩

theorem lookup_eq_none_iff_leavesOut (place : Nat) (distinct : names.Nodup)
    (named : names[place]? = some name) (areFields : tree.fields? names = some fields) :
    fields.found.lookup name = none ↔ tree.LeavesOut place [name] := by
  rw [Option.eq_none_iff_forall_ne_some]
  exact forall_congr' fun value =>
    not_congr (lookup_eq_some_iff_gives place distinct named areFields)

variable {read : Json → Option α} {value default : α}

theorem required_eq_some_iff (place : Nat) (distinct : names.Nodup)
    (named : names[place]? = some name) (areFields : tree.fields? names = some fields) :
    fields.required name read = some value ↔
      ∃ part, tree.Gives place [name] part ∧ read part = some value := by
  rw [Fields.required, Option.bind_eq_some_iff]
  exact exists_congr fun part =>
    and_congr_left fun _ => lookup_eq_some_iff_gives place distinct named areFields

theorem withDefault_eq_some_iff (place : Nat) (distinct : names.Nodup)
    (named : names[place]? = some name) (areFields : tree.fields? names = some fields) :
    fields.withDefault name default read = some value ↔
      (∃ part, tree.Gives place [name] part ∧ read part = some value) ∨
        tree.LeavesOut place [name] ∧ value = default := by
  simp only [← lookup_eq_some_iff_gives place distinct named areFields,
    ← lookup_eq_none_iff_leavesOut place distinct named areFields]
  rw [Fields.withDefault]
  cases fields.found.lookup name with
  | none => simp [eq_comm]
  | some part => simp

end Fields

/-! ## Values of fields -/

section Values

variable {α : Type} {tree : Json}

theorem asText?_eq_some_iff {value : String} : asText? tree = some value ↔ tree = .text value := by
  cases tree <;> simp [asText?]

theorem asBool?_eq_some_iff {value : Bool} : asBool? tree = some value ↔ tree = .bool value := by
  cases tree <;> simp [asBool?]

theorem asName?_eq_some_iff {name : String} :
    asName? tree = some name ↔ tree = .text name ∨ tree = .object [(name, .null)] := by
  constructor
  · intro isName
    unfold asName? at isName
    split at isName
    · exact .inl (Option.some.inj isName ▸ rfl)
    · exact .inr (Option.some.inj isName ▸ rfl)
    · contradiction
  · rintro (rfl | rfl) <;> rfl

theorem FlatQuestionKind.asOneOf?_eq_some_iff {kind : FlatQuestionKind} :
    asOneOf? FlatQuestionKind.all FlatQuestionKind.name tree = some kind ↔
      ∃ name, (name, kind) ∈ [("text", text), ("textarea", textarea), ("file", file)] ∧
        (tree = .text name ∨ tree = .object [(name, .null)]) := by
  have named (name : String) : (all.find? fun other => other.name == name) = some kind ↔
      (name, kind) ∈ [("text", text), ("textarea", textarea), ("file", file)] := by
    constructor
    · intro found
      have isNamed := List.find?_some found
      obtain rfl := beq_iff_eq.1 isNamed
      cases kind <;> decide
    · intro inside
      simp only [List.mem_cons, Prod.mk.injEq, List.not_mem_nil, or_false] at inside
      rcases inside with ⟨rfl, rfl⟩ | ⟨rfl, rfl⟩ | ⟨rfl, rfl⟩ <;> rfl
  simp only [asOneOf?, Option.bind_eq_some_iff, named, asName?_eq_some_iff, and_comm]

theorem mapM_eq_some_iff {β : Type} {read : α → Option β} {items : List α} {values : List β} :
    items.mapM read = some values ↔
      List.Forall₂ (fun item value => read item = some value) items values := by
  induction items generalizing values with
  | nil => simp [eq_comm]
  | cons item rest inductionHypothesis =>
    simp only [List.mapM_cons, Option.bind_eq_bind, Option.bind_eq_some_iff, inductionHypothesis,
      List.forall₂_cons_left_iff, Option.pure_def, Option.some.injEq]
    constructor
    · rintro ⟨value, isRead, others, areRead, rfl⟩
      exact ⟨value, others, isRead, areRead, rfl⟩
    · rintro ⟨value, others, isRead, areRead, rfl⟩
      exact ⟨value, isRead, others, areRead, rfl⟩

theorem asList?_eq_some_iff {read : Json → Option α} {values : List α} :
    asList? read tree = some values ↔ ∃ items, tree = .list items ∧
      List.Forall₂ (fun item value => read item = some value) items values := by
  simp only [← mapM_eq_some_iff]
  cases tree <;> simp [asList?]

theorem asOption?_asText?_eq_some_iff {value : Option String} :
    asOption? asText? tree = some value ↔ tree = value.elim .null .text := by
  cases tree <;> cases value <;> simp [asOption?, asText?]

end Values

/-! ## Members with an older name -/

section Renaming

variable {older newer name : String} {tree : Json}

/-- The names that a field has when one of them has an older spelling. -/
def spellings (older newer name : String) : List String :=
  if name = newer then [newer, older] else [name]

theorem renamed_eq_iff (current : name ≠ older) {key : String} :
    (if key = older then newer else key) = name ↔ key ∈ spellings older newer name := by
  rw [spellings]
  split_ifs with isOlder isNewer isNewer
  · simp [isOlder, isNewer]
  · simp [isOlder, Ne.symm current, Ne.symm isNewer]
  · simp [isOlder, isNewer]
  · simp

/-- Under its newer name a field has what it was given under any of its names. -/
theorem gives_renameMember (current : name ≠ older) {place : Nat} {value : Json} :
    (renameMember older newer tree).Gives place [name] value ↔
      tree.Gives place (spellings older newer name) value := by
  cases tree with
  | null | bool | number | text | list | unreadable => exact Iff.rfl
  | object members =>
    simp only [renameMember, Gives, List.mem_singleton, exists_eq_left, List.mem_map,
      Prod.mk.injEq, renamed_eq_iff current]
    constructor
    · rintro ⟨⟨key, _⟩, inside, isSpelling, rfl⟩
      exact ⟨key, isSpelling, inside⟩
    · rintro ⟨key, isSpelling, inside⟩
      exact ⟨(key, value), inside, isSpelling, rfl⟩

theorem isRecord_renameMember {names : List String} (current : older ∉ names) :
    (renameMember older newer tree).IsRecord (names.map fun name => [name]) ↔
      tree.IsRecord (names.map (spellings older newer)) := by
  cases tree with
  | null | bool | number | text | unreadable => exact Iff.rfl
  | list items => simp only [renameMember, IsRecord, List.length_map]
  | object members =>
    simp only [renameMember, IsRecord, List.forall_mem_map]
    refine forall₂_congr fun name inside => ?_
    have apart : name ≠ older := fun same => current (same ▸ inside)
    rw [List.countP_map]
    refine iff_of_eq (congrArg (· ≤ 1) (List.countP_congr fun member _ => ?_))
    simp [renamed_eq_iff apart]

end Renaming

/-! ## Fields of a kind -/

section Kinds

variable {α : Type} {names : List String} {tree : Json} {fields : Fields} {name : String}
  (place : Nat) (distinct : names.Nodup) (named : names[place]? = some name)
  (areFields : tree.fields? names = some fields)

include distinct named areFields

theorem required_asText?_iff {value : String} :
    fields.required name asText? = some value ↔ tree.Gives place [name] (.text value) := by
  simp only [required_eq_some_iff place distinct named areFields, asText?_eq_some_iff,
    exists_eq_right]

theorem required_kind_iff {kind : FlatQuestionKind} :
    fields.required name (asOneOf? FlatQuestionKind.all FlatQuestionKind.name) = some kind ↔
      ∃ written, (written, kind) ∈ [("text", .text), ("textarea", .textarea), ("file", .file)] ∧
        (tree.Gives place [name] (.text written) ∨
          tree.Gives place [name] (.object [(written, .null)])) := by
  simp only [required_eq_some_iff place distinct named areFields,
    FlatQuestionKind.asOneOf?_eq_some_iff]
  constructor
  · rintro ⟨part, given, written, isKind, rfl | rfl⟩
    · exact ⟨written, isKind, .inl given⟩
    · exact ⟨written, isKind, .inr given⟩
  · rintro ⟨written, isKind, given | given⟩
    · exact ⟨_, given, written, isKind, .inl rfl⟩
    · exact ⟨_, given, written, isKind, .inr rfl⟩

theorem withDefault_asBool?_iff {default value : Bool} :
    fields.withDefault name default asBool? = some value ↔
      tree.Gives place [name] (.bool value) ∨ tree.LeavesOut place [name] ∧ value = default := by
  simp only [withDefault_eq_some_iff place distinct named areFields, asBool?_eq_some_iff,
    exists_eq_right]

theorem optional_asText?_iff {value : Option String} :
    fields.optional name asText? = some value ↔
      tree.Gives place [name] (value.elim .null .text) ∨
        tree.LeavesOut place [name] ∧ value = none := by
  simp only [Fields.optional, withDefault_eq_some_iff place distinct named areFields,
    asOption?_asText?_eq_some_iff, exists_eq_right]

theorem required_asList?_iff {read : Json → Option α} {values : List α} :
    fields.required name (asList? read) = some values ↔
      ∃ items, tree.Gives place [name] (.list items) ∧
        List.Forall₂ (fun item value => read item = some value) items values := by
  simp only [required_eq_some_iff place distinct named areFields, asList?_eq_some_iff]
  constructor
  · rintro ⟨_, given, items, rfl, areRead⟩
    exact ⟨items, given, areRead⟩
  · rintro ⟨items, given, areRead⟩
    exact ⟨_, given, items, rfl, areRead⟩

end Kinds

/-! ## Whole records -/

/-- A record is read exactly where it is one and says what its fields are read as. -/
theorem exists_fields?_and_iff {names : List String} {tree : Json} {read : Fields → Prop}
    {said : Prop} (each : ∀ fields, tree.fields? names = some fields → (read fields ↔ said)) :
    (∃ fields, tree.fields? names = some fields ∧ read fields) ↔
      tree.IsRecord (names.map fun name => [name]) ∧ said := by
  rw [exists_congr fun fields => and_congr_right (each fields), exists_and_right,
    exists_fields?_iff]

/-- A question is read exactly where the tree says it. -/
theorem FlatQuestion.ofJson?_eq_some_iff {tree : Json} {question : FlatQuestion} :
    FlatQuestion.ofJson? tree = some question ↔ IsFlatQuestion tree question := by
  have distinct : ["id", "kind", "label", "required"].Nodup := by decide
  have parts : FlatQuestion.ofJson? tree = some question ↔
      ∃ fields, (renameMember "prompt" "label" tree).fields? ["id", "kind", "label", "required"] =
        some fields ∧ (fields.required "id" asText? = some question.id ∧
          fields.required "kind" (asOneOf? FlatQuestionKind.all FlatQuestionKind.name) =
            some question.kind ∧
          fields.required "label" asText? = some question.label ∧
          fields.withDefault "required" false asBool? = some question.required) := by
    rw [FlatQuestion.ofJson?]
    simp only [Option.bind_eq_bind, Option.bind_eq_some_iff]
    constructor
    · rintro ⟨fields, areFields, id, isId, kind, isKind, label, isLabel, required, isRequired, same⟩
      obtain rfl := Option.some.inj same
      exact ⟨fields, areFields, isId, isKind, isLabel, isRequired⟩
    · rintro ⟨fields, areFields, isId, isKind, isLabel, isRequired⟩
      exact ⟨fields, areFields, _, isId, _, isKind, _, isLabel, _, isRequired, rfl⟩
  rw [parts, exists_fields?_and_iff fun fields areFields =>
    and_congr (required_asText?_iff 0 distinct rfl areFields) <|
    and_congr (required_kind_iff 1 distinct rfl areFields) <|
    and_congr (required_asText?_iff 2 distinct rfl areFields)
      (withDefault_asBool?_iff 3 distinct rfl areFields),
    isRecord_renameMember (by decide)]
  simp (disch := decide) only [LeavesOut, gives_renameMember]
  constructor
  · rintro ⟨record, id, kind, label, required⟩
    exact ⟨record, id, kind, label, required⟩
  · rintro ⟨record, id, kind, label, required⟩
    exact ⟨record, id, kind, label, required⟩

/-- A template is read exactly where the tree says it. -/
theorem FlatTemplate.ofJson?_eq_some_iff {tree : Json} {flat : FlatTemplate} :
    FlatTemplate.ofJson? tree = some flat ↔ IsFlatTemplate tree flat := by
  have distinct : ["id", "title", "description", "questions"].Nodup := by decide
  have parts : FlatTemplate.ofJson? tree = some flat ↔
      ∃ fields, tree.fields? ["id", "title", "description", "questions"] = some fields ∧
        (fields.required "id" asText? = some flat.id ∧
          fields.required "title" asText? = some flat.title ∧
          fields.optional "description" asText? = some flat.description ∧
          fields.required "questions" (asList? FlatQuestion.ofJson?) = some flat.questions) := by
    rw [FlatTemplate.ofJson?]
    simp only [Option.bind_eq_bind, Option.bind_eq_some_iff]
    constructor
    · rintro ⟨fields, areFields, id, isId, title, isTitle, description, isDescription, questions,
        areQuestions, same⟩
      obtain rfl := Option.some.inj same
      exact ⟨fields, areFields, isId, isTitle, isDescription, areQuestions⟩
    · rintro ⟨fields, areFields, isId, isTitle, isDescription, areQuestions⟩
      exact ⟨fields, areFields, _, isId, _, isTitle, _, isDescription, _, areQuestions, rfl⟩
  rw [parts, exists_fields?_and_iff fun fields areFields =>
    and_congr (required_asText?_iff 0 distinct rfl areFields) <|
    and_congr (required_asText?_iff 1 distinct rfl areFields) <|
    and_congr (optional_asText?_iff 2 distinct rfl areFields)
      (required_asList?_iff 3 distinct rfl areFields)]
  simp only [FlatQuestion.ofJson?_eq_some_iff]
  constructor
  · rintro ⟨record, id, title, description, questions⟩
    exact ⟨record, id, title, description, questions⟩
  · rintro ⟨record, id, title, description, questions⟩
    exact ⟨record, id, title, description, questions⟩

/-- The entries of a document are read exactly where it lists them. -/
theorem flatEntries?_eq_some_iff {document : Json} {entries : List Json} :
    flatEntries? document = some entries ↔ ListsEntries document entries := by
  have parts : flatEntries? document = some entries ↔
      ∃ fields, document.fields? ["templates"] = some fields ∧
        fields.withDefault "templates" [] (asList? some) = some entries := by
    simp only [flatEntries?, Option.bind_eq_bind, Option.bind_eq_some_iff]
  have areItems (tree : Json) : asList? some tree = some entries ↔ tree = .list entries := by
    simp [asList?_eq_some_iff]
  rw [parts, exists_fields?_and_iff fun fields areFields =>
    withDefault_eq_some_iff 0 (List.nodup_singleton "templates") rfl areFields]
  simp only [areItems, exists_eq_right]
  constructor
  · rintro ⟨record, given⟩
    exact ⟨record, given⟩
  · rintro ⟨record, given⟩
    exact ⟨record, given⟩

end Questionnaire
