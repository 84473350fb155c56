import Mathlib.Data.List.Basic
import Questionnaire.Form.Projection
import Questionnaire.Proofs.KeyMap

/-!
# The record of an intake splits up the answers of the form

Both projections onto the form go through the nodes in order and put what the response to a node
contributes in place of what its field had. They differ in what a response contributes: to the
answers that the gates see, or to one of the three maps of the form's own record. In each of these
maps a field has what the last node with something to say contributes, and where no two nodes stand
for one field, what the response to that node does. So the four maps are compared by looking at one
response.
-/

namespace Questionnaire

/-! ## What nodes carry over to the form -/

section

variable {α β : Type} {contribution : Response → Option α} {responses : ResponseIndex}
  {graph : Graph} {fieldId : String}

/-- The values by field with what the response to one node contributes. -/
def carryOver (contribution : Response → Option α) (responses : ResponseIndex)
    (values : KeyMap α) (node : Node) : KeyMap α :=
  match node.formFieldId, (responses.get? node.id).bind contribution with
  | some fieldId, some value => values.insert fieldId value
  | _, _ => values

/-- The values by field that the responses to a graph contribute. -/
def Graph.carriedOver (graph : Graph) (contribution : Response → Option α)
    (responses : ResponseIndex) : KeyMap α :=
  graph.nodes.foldl (carryOver contribution responses) KeyMap.empty

/-- What the response to a node contributes to a field. -/
def Node.contribution? (contribution : Response → Option α) (responses : ResponseIndex)
    (fieldId : String) (node : Node) : Option α :=
  if node.formFieldId = some fieldId then (responses.get? node.id).bind contribution else none

theorem get?_carryOver (values : KeyMap α) (node : Node) :
    (carryOver contribution responses values node).get? fieldId =
      (node.contribution? contribution responses fieldId).or (values.get? fieldId) := by
  rw [carryOver, Node.contribution?]
  cases node.formFieldId with
  | none => simp
  | some ownId =>
    cases (responses.get? node.id).bind contribution with
    | none => simp
    | some value =>
      by_cases own : fieldId = ownId
      · simp [own]
      · simp [own, Ne.symm own]

/-- A field has what the last node with something to say contributes. -/
theorem get?_foldl_carryOver (nodes : List Node) (values : KeyMap α) :
    (nodes.foldl (carryOver contribution responses) values).get? fieldId =
      (nodes.reverse.findSome? (Node.contribution? contribution responses fieldId)).or
        (values.get? fieldId) := by
  -- What the nodes before contributed counts only where no later one has something to say.
  induction nodes generalizing values with
  | nil => rfl
  | cons node rest inductionHypothesis =>
    rw [List.foldl_cons, inductionHypothesis, get?_carryOver, List.reverse_cons,
      List.findSome?_append, Option.or_assoc, List.findSome?_singleton]

/-- Where all elements with a result have one and the same, this is what is found. -/
theorem findSome?_eq_of_agree {f : β → Option α} {items : List β} {outcome : Option α}
    (agree : ∀ item ∈ items, f item = none ∨ f item = outcome)
    (occurs : outcome ≠ none → ∃ item ∈ items, f item = outcome) :
    items.findSome? f = outcome := by
  cases found : items.findSome? f with
  | some value =>
    obtain ⟨item, inside, own⟩ := List.exists_of_findSome?_eq_some found
    rcases agree item inside with nothing | same
    · exact absurd (own.symm.trans nothing) (Option.some_ne_none value)
    · exact own.symm.trans same
  | none =>
    cases outcome with
    | none => rfl
    | some value =>
      obtain ⟨item, inside, own⟩ := occurs (Option.some_ne_none value)
      exact (List.findSome?_eq_none_iff.1 found item inside).symm.trans own

namespace Graph

/-- No two different nodes stand for one field. -/
def HasDistinctFields (graph : Graph) : Prop :=
  ∀ left ∈ graph.nodes, ∀ right ∈ graph.nodes,
    left.formFieldId.isSome = true → left.formFieldId = right.formFieldId → left = right

instance (graph : Graph) : Decidable graph.HasDistinctFields :=
  inferInstanceAs (Decidable (∀ left ∈ graph.nodes, ∀ right ∈ graph.nodes,
    left.formFieldId.isSome = true → left.formFieldId = right.formFieldId → left = right))

/-- The response to the first node that stands for the field. -/
def fieldResponse? (graph : Graph) (responses : ResponseIndex) (fieldId : String) :
    Option Response :=
  (graph.nodes.find? fun node => node.formFieldId == some fieldId).bind fun node =>
    responses.get? node.id

theorem HasDistinctFields.eq_of_field (distinct : graph.HasDistinctFields) {left right : Node}
    (leftInside : left ∈ graph.nodes) (rightInside : right ∈ graph.nodes)
    (ofLeft : left.formFieldId = some fieldId) (ofRight : right.formFieldId = some fieldId) :
    left = right :=
  distinct left leftInside right rightInside (ofLeft ▸ rfl) (ofLeft.trans ofRight.symm)

/-- Where no two nodes stand for one field, a field has what the response to its node
contributes. -/
theorem HasDistinctFields.get?_carriedOver (distinct : graph.HasDistinctFields)
    (contribution : Response → Option α) (responses : ResponseIndex) (fieldId : String) :
    (graph.carriedOver contribution responses).get? fieldId =
      (graph.fieldResponse? responses fieldId).bind contribution := by
  rw [carriedOver, get?_foldl_carryOver, KeyMap.get?_empty, Option.or_none, fieldResponse?]
  cases found : graph.nodes.find? fun node => node.formFieldId == some fieldId with
  | none =>
    refine findSome?_eq_of_agree (fun node inside => .inl ?_) (fun something => absurd rfl something)
    have other := List.find?_eq_none.1 found node (List.mem_reverse.1 inside)
    exact if_neg fun same => other (beq_iff_eq.2 same)
  | some node =>
    have inside := List.mem_of_find?_eq_some found
    have standsFor : node.formFieldId = some fieldId := eq_of_beq (List.find?_some found :)
    have own : node.contribution? contribution responses fieldId =
        (responses.get? node.id).bind contribution := if_pos standsFor
    refine findSome?_eq_of_agree (fun other isOther => ?_)
      fun _ => ⟨node, List.mem_reverse.2 inside, own⟩
    by_cases same : other.formFieldId = some fieldId
    · have isNode := distinct.eq_of_field (List.mem_reverse.1 isOther) inside same standsFor
      exact .inr (isNode ▸ own)
    · exact .inl (if_neg same)

end Graph

end

/-! ## What one response contributes -/

namespace Response

/-- What a response contributes to the answers of the record: its answer, unless that is files. -/
def recordedValue? (response : Response) : Option FormValue :=
  match response.skip, response.answer with
  | none, some (.files _) => none
  | none, some answer => some answer.toFormValue
  | _, _ => none

/-- The names of the files in an answer, where there is one. -/
def uploadedNames? (response : Response) : Option (List String) :=
  match response.skip, response.answer with
  | none, some (.files uploads) =>
    let names := (uploads.map UploadedFile.name).filter fun name => !name.isEmpty
    if names.isEmpty then none else some names
  | _, _ => none

/-- The mark that a skip leaves. -/
def flag? (response : Response) : Option FieldFlag :=
  response.skip.map fun skip => { flagged := true, note := skip.reason, resolved := false }

/-- The answer is files, none of which has a name. -/
def IsNamelessUpload (response : Response) : Prop :=
  response.skip = none ∧ ∃ uploads, response.answer = some (.files uploads) ∧
    ∀ file ∈ uploads, file.name = ""

variable {response : Response}

theorem formValue?_of_recordedValue? {value : FormValue}
    (recorded : response.recordedValue? = some value) :
    response.formValue? = some value ∧ response.uploadedNames? = none ∧
      response.flag? = none := by
  cases skipped : response.skip with
  | some skip => simp [recordedValue?, skipped] at recorded
  | none =>
    cases given : response.answer with
    | none => simp [recordedValue?, skipped, given] at recorded
    | some answer =>
      cases answer <;>
        simp_all [recordedValue?, formValue?, uploadedNames?, flag?]

theorem formValue?_of_uploadedNames? {names : List String}
    (uploaded : response.uploadedNames? = some names) :
    (∃ items, response.formValue? = some (.list items) ∧
        items.filter (fun name => !name.isEmpty) = names) ∧
      response.flag? = none := by
  cases skipped : response.skip with
  | some skip => simp [uploadedNames?, skipped] at uploaded
  | none =>
    cases given : response.answer with
    | none => simp [uploadedNames?, skipped, given] at uploaded
    | some answer =>
      cases answer with
      | files uploads =>
        rw [uploadedNames?, skipped, given] at uploaded
        obtain ⟨_, sameNames⟩ := Option.ite_none_left_eq_some.1 uploaded
        have mapped : response.formValue? = some (.list (uploads.map UploadedFile.name)) := by
          simp [formValue?, skipped, given, Answer.toFormValue]
        exact ⟨⟨_, mapped, Option.some.inj sameNames⟩, by simp [flag?, skipped]⟩
      | text | number | bool | list | record => simp [uploadedNames?, skipped, given] at uploaded

theorem formValue?_of_flag? (flagged : response.flag?.isSome = true) :
    response.formValue? = some (.text "") := by
  rw [flag?, Option.isSome_map] at flagged
  rw [formValue?, if_pos flagged]

/-- What contributes to the answers that the gates see contributes to the record too, unless it is
files without names. -/
theorem isSome_recorded_iff (seen : response.formValue?.isSome = true) :
    (response.recordedValue?.isSome = true ∨ response.uploadedNames?.isSome = true ∨
        response.flag?.isSome = true) ↔ ¬ response.IsNamelessUpload := by
  cases skipped : response.skip with
  | some skip => simp [flag?, skipped, IsNamelessUpload]
  | none =>
    cases given : response.answer with
    | none => simp [formValue?, skipped, given] at seen
    | some answer =>
      cases answer with
      | files uploads =>
        simp [recordedValue?, uploadedNames?, flag?, IsNamelessUpload, skipped, given]
      | text | number | bool | list | record =>
        simp [recordedValue?, IsNamelessUpload, skipped, given]

end Response

namespace FormAnswers

theorem addNode_eq (responses : ResponseIndex) (answers : FormAnswers) (node : Node) :
    addNode responses answers node = carryOver Response.formValue? responses answers node := by
  rw [addNode, carryOver]
  cases node.formFieldId with
  | none => rfl
  | some fieldId => cases (responses.get? node.id).bind Response.formValue? <;> rfl

theorem ofResponses_eq (graph : Graph) (responses : ResponseIndex) :
    ofResponses graph responses = graph.carriedOver Response.formValue? responses :=
  List.foldl_ext _ _ _ fun answers node _ => addNode_eq responses answers node

end FormAnswers

namespace IntakeState

/-- Each map of the record gets its own contribution of a response. -/
theorem addNode_eq (responses : ResponseIndex) (state : IntakeState) (node : Node) :
    addNode responses state node =
      { answers := carryOver Response.recordedValue? responses state.answers node
        uploads := carryOver Response.uploadedNames? responses state.uploads node
        flags := carryOver Response.flag? responses state.flags node } := by
  simp only [addNode, carryOver]
  cases node.formFieldId with
  | none => rfl
  | some fieldId =>
    cases responses.get? node.id with
    | none => rfl
    | some response =>
      simp only [addResponse, Option.bind_some, Response.recordedValue?, Response.uploadedNames?,
        Response.flag?]
      cases response.skip with
      | some skip => rfl
      | none =>
        cases response.answer with
        | none => rfl
        | some answer =>
          cases answer with
          | files uploads =>
            simp only [Option.map_none]
            split <;> rfl
          | text | number | bool | list | record => rfl

theorem foldl_addNode_eq (responses : ResponseIndex) (nodes : List Node) (state : IntakeState) :
    nodes.foldl (addNode responses) state =
      { answers := nodes.foldl (carryOver Response.recordedValue? responses) state.answers
        uploads := nodes.foldl (carryOver Response.uploadedNames? responses) state.uploads
        flags := nodes.foldl (carryOver Response.flag? responses) state.flags } := by
  induction nodes generalizing state with
  | nil => rfl
  | cons node rest inductionHypothesis =>
    rw [List.foldl_cons, inductionHypothesis, addNode_eq]
    rfl

/-- The record is three maps, each carried over on its own. -/
theorem ofResponses_eq (graph : Graph) (responses : List Response) :
    ofResponses graph responses =
      { answers := graph.carriedOver Response.recordedValue? (.ofList responses)
        uploads := graph.carriedOver Response.uploadedNames? (.ofList responses)
        flags := graph.carriedOver Response.flag? (.ofList responses) } :=
  foldl_addNode_eq (.ofList responses) graph.nodes {}

end IntakeState

/-! ## The two projections side by side -/

/-- The record puts every answer of the form in one of its three maps: as it is, as the names of
uploaded files, or as a mark on a field that is blank. The nameless fields are in none. -/
structure IntakeState.Splits (state : IntakeState) (answers : FormAnswers)
    (nameless : String → Prop) : Prop where
  /-- No field has both an answer and uploads. -/
  answersUploads : state.answers.keys.Disjoint state.uploads.keys
  /-- No field has both an answer and a mark. -/
  answersFlags : state.answers.keys.Disjoint state.flags.keys
  /-- No field has both uploads and a mark. -/
  uploadsFlags : state.uploads.keys.Disjoint state.flags.keys
  /-- An answer of the record is the answer of the form. -/
  answered : ∀ fieldId value, state.answers.get? fieldId = some value →
    answers.get? fieldId = some value
  /-- A field with a mark is blank in the form. -/
  flagged : ∀ fieldId ∈ state.flags.keys, answers.get? fieldId = some (.text "")
  /-- The uploads of a field are the names that its list in the form has, without the empty
  ones. -/
  uploaded : ∀ fieldId names, state.uploads.get? fieldId = some names →
    ∃ items, answers.get? fieldId = some (.list items) ∧
      items.filter (fun name => !name.isEmpty) = names
  /-- Every field with an answer in the form is in the record, save the nameless ones. -/
  covered : ∀ fieldId ∈ answers.keys,
    (fieldId ∈ state.answers.keys ∨ fieldId ∈ state.uploads.keys ∨ fieldId ∈ state.flags.keys) ↔
      ¬ nameless fieldId

namespace Graph

/-- The response to a node of the field is files without names. -/
def HasNamelessUpload (graph : Graph) (responses : ResponseIndex) (fieldId : String) : Prop :=
  ∃ node ∈ graph.nodes, node.formFieldId = some fieldId ∧
    ∃ response, responses.get? node.id = some response ∧ response.IsNamelessUpload

variable {graph : Graph} {responses : ResponseIndex} {fieldId : String}

namespace HasDistinctFields

theorem hasNamelessUpload_iff (distinct : graph.HasDistinctFields) :
    graph.HasNamelessUpload responses fieldId ↔
      ∃ response, graph.fieldResponse? responses fieldId = some response ∧
        response.IsNamelessUpload := by
  constructor
  · rintro ⟨node, inside, standsFor, response, found, isNameless⟩
    have first : (graph.nodes.find? fun node => node.formFieldId == some fieldId) = some node := by
      cases search : graph.nodes.find? fun node => node.formFieldId == some fieldId with
      | none => exact absurd (beq_iff_eq.2 standsFor) (List.find?_eq_none.1 search node inside)
      | some other =>
        exact congrArg some (distinct.eq_of_field (List.mem_of_find?_eq_some search) inside
          (eq_of_beq (List.find?_some search :)) standsFor)
    refine ⟨response, ?_, isNameless⟩
    rw [fieldResponse?, first, Option.bind_some, found]
  · rintro ⟨response, given, isNameless⟩
    obtain ⟨node, search, found⟩ := Option.bind_eq_some_iff.1 given
    exact ⟨node, List.mem_of_find?_eq_some search, eq_of_beq (List.find?_some search :), response,
      found, isNameless⟩

section

variable {α β : Type} {contribution : Response → Option α} {other : Response → Option β}

theorem get?_carriedOver_eq_some_iff (distinct : graph.HasDistinctFields) {value : α} :
    (graph.carriedOver contribution responses).get? fieldId = some value ↔
      ∃ response, graph.fieldResponse? responses fieldId = some response ∧
        contribution response = some value := by
  rw [distinct.get?_carriedOver, Option.bind_eq_some_iff]

theorem mem_keys_carriedOver_iff (distinct : graph.HasDistinctFields) :
    fieldId ∈ (graph.carriedOver contribution responses).keys ↔
      ∃ response, graph.fieldResponse? responses fieldId = some response ∧
        (contribution response).isSome = true := by
  rw [KeyMap.mem_keys_iff, distinct.get?_carriedOver]
  cases graph.fieldResponse? responses fieldId with
  | none => simp
  | some response => simp

/-- Contributions that no response makes both of reach different fields. -/
theorem disjoint_keys_carriedOver (distinct : graph.HasDistinctFields)
    (apart : ∀ response value, contribution response = some value → other response = none) :
    (graph.carriedOver contribution responses).keys.Disjoint
      (graph.carriedOver other responses).keys := by
  intro fieldId inFirst inSecond
  obtain ⟨response, given, contributes⟩ := distinct.mem_keys_carriedOver_iff.1 inFirst
  obtain ⟨_, givenAgain, othersToo⟩ := distinct.mem_keys_carriedOver_iff.1 inSecond
  obtain rfl := Option.some.inj (given.symm.trans givenAgain)
  obtain ⟨value, contributed⟩ := Option.isSome_iff_exists.1 contributes
  rw [apart response value contributed] at othersToo
  contradiction

end

/-- Where no two nodes stand for one field, the record of an intake splits up the answers of the
form, whatever the responses are; only files without names are left out. -/
theorem splits_ofResponses (distinct : graph.HasDistinctFields) (responses : List Response) :
    (IntakeState.ofResponses graph responses).Splits
      (FormAnswers.ofResponses graph (.ofList responses))
      (graph.HasNamelessUpload (.ofList responses)) := by
  rw [IntakeState.ofResponses_eq, FormAnswers.ofResponses_eq]
  constructor
  case answersUploads =>
    exact distinct.disjoint_keys_carriedOver fun response value recorded =>
      (Response.formValue?_of_recordedValue? recorded).2.1
  case answersFlags =>
    exact distinct.disjoint_keys_carriedOver fun response value recorded =>
      (Response.formValue?_of_recordedValue? recorded).2.2
  case uploadsFlags =>
    exact distinct.disjoint_keys_carriedOver fun response names uploaded =>
      (Response.formValue?_of_uploadedNames? uploaded).2
  case answered =>
    intro fieldId value recorded
    obtain ⟨response, given, records⟩ := distinct.get?_carriedOver_eq_some_iff.1 recorded
    have seen := (Response.formValue?_of_recordedValue? records).1
    exact distinct.get?_carriedOver_eq_some_iff.2 ⟨response, given, seen⟩
  case flagged =>
    intro fieldId marked
    obtain ⟨response, given, flags⟩ := distinct.mem_keys_carriedOver_iff.1 marked
    have seen := Response.formValue?_of_flag? flags
    exact distinct.get?_carriedOver_eq_some_iff.2 ⟨response, given, seen⟩
  case uploaded =>
    intro fieldId names uploaded
    obtain ⟨response, given, uploads⟩ := distinct.get?_carriedOver_eq_some_iff.1 uploaded
    obtain ⟨⟨items, seen, named⟩, _⟩ := Response.formValue?_of_uploadedNames? uploads
    exact ⟨items, distinct.get?_carriedOver_eq_some_iff.2 ⟨response, given, seen⟩, named⟩
  case covered =>
    intro fieldId answered
    obtain ⟨response, given, seen⟩ := distinct.mem_keys_carriedOver_iff.1 answered
    -- All four conditions are about this response.
    simp only [distinct.mem_keys_carriedOver_iff, distinct.hasNamelessUpload_iff, given,
      Option.some.injEq, exists_eq_left']
    exact Response.isSome_recorded_iff seen

/-- A name is an answer, a deed with a nameless page is uploads, a question skipped after it was
answered is marked, and pages without names are left out. -/
theorem splits_ofResponses_fourFields :
    let field (fieldId : String) : Node :=
      { Node.ofKind .question fieldId with formFieldId := some fieldId }
    let graph : Graph := { nodes := [field "name", field "deed", field "spouse", field "scan"] }
    let file (name : String) : UploadedFile := { id := name, name }
    let given (nodeId : String) (answer : Answer) : Response :=
      { assignmentId := "a", nodeId, answer := some answer, updatedAt := .epoch }
    let skip : Skip := { reason := "Unknown", actor := .client, moment := .epoch }
    let responses : List Response :=
      [given "name" (.text "Ada"), given "deed" (.files [file "", file "deed.pdf"]),
        { given "spouse" (.bool true) with skip := some skip }, given "scan" (.files [file ""])]
    let state := IntakeState.ofResponses graph responses
    let answers := FormAnswers.ofResponses graph (.ofList responses)
    graph.HasDistinctFields ∧ answers.keys = ["deed", "name", "scan", "spouse"] ∧
      state.answers.keys = ["name"] ∧ state.uploads.keys = ["deed"] ∧
      state.flags.keys = ["spouse"] ∧
      state.Splits answers (graph.HasNamelessUpload (.ofList responses)) := by
  intro field graph file given skip responses state answers
  have distinct : graph.HasDistinctFields := by decide
  have fields : answers.keys = ["deed", "name", "scan", "spouse"] := by decide +kernel
  exact ⟨distinct, fields, by decide +kernel, by decide +kernel, by decide +kernel,
    distinct.splits_ofResponses responses⟩

end HasDistinctFields

end Graph

end Questionnaire
