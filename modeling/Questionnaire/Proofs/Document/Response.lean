import Questionnaire.Document.Response
import Questionnaire.Proofs.Document.Template

/-!
# Responses are read back

A response is read back as it was as long as its upload times lie in the years 0 to 9999. Outside of
these years an upload time is written with a signed year, which the reader of upload times refuses;
the file is then read back without one.
-/

namespace Questionnaire

open Json

/-- The year of the moment is written with four digits. -/
def Timestamp.HasFourDigitYear (moment : Timestamp) : Prop :=
  0 ≤ moment.date.year ∧ moment.date.year ≤ 9999

/-- The upload time, if there is one, is written with a year of four digits. -/
def UploadedFile.IsDated (file : UploadedFile) : Prop :=
  ∀ moment, file.uploadedAt = some moment → moment.HasFourDigitYear

/-- The upload times of all files of the answer are written with a year of four digits. -/
def Response.IsDated (response : Response) : Prop :=
  ∀ file ∈ filesOf response.answer, file.IsDated

instance (moment : Timestamp) : Decidable moment.HasFourDigitYear :=
  inferInstanceAs (Decidable (_ ∧ _))

instance (file : UploadedFile) : Decidable file.IsDated :=
  inferInstanceAs (Decidable (∀ moment ∈ file.uploadedAt, moment.HasFourDigitYear))

instance (response : Response) : Decidable response.IsDated :=
  inferInstanceAs (Decidable (∀ file ∈ filesOf response.answer, file.IsDated))

/-! ## Files -/

theorem Timestamp.readsBack_upload {moment : Timestamp} (dated : moment.HasFourDigitYear) :
    ReadsBack readUploadTime? moment.toJson (some moment) := by
  refine ⟨.text moment.render, rfl, ?_⟩
  rw [readUploadTime?, canonical?, Option.map_some, asText?, Option.bind_some,
    parseUpload?_render moment dated.1 dated.2]

@[simp] theorem UploadedFile.readable (file : UploadedFile) : file.toJson.Readable :=
  readable_record (by simp)

theorem UploadedFile.readsBack {file : UploadedFile} (dated : file.IsDated) :
    ReadsBack UploadedFile.ofJson? file.toJson file := by
  refine readsBack_record (by simp [AreNamed]) (by decide) (by simp)
    fun fields holds => ?_
  obtain ⟨id, name, uploadedAt, mimeType, sizeBytes, blobKey, _⟩ := holds
  simp only [id.required (readsBack_text _), name.required (readsBack_text _),
    uploadedAt.ifSome fun moment is => Timestamp.readsBack_upload (dated moment is),
    mimeType.optional fun inner => ⟨readsBack_text inner, text_ne_null inner⟩,
    sizeBytes.optional fun inner => ⟨readsBack_uint64 inner, ofUInt64_ne_null inner⟩,
    blobKey.optional fun inner => ⟨readsBack_text inner, text_ne_null inner⟩]
  rfl

/-! ## Answers -/

namespace Answer

theorem ofJson?_of_isValue {tree : Json} (isValue : tree.IsValue) :
    ofJson? tree = shapeOf? tree := by
  rw [ofJson?, show canonical? tree = some tree from isValue]
  rfl

theorem readsBack_list (items : List String) :
    ReadsBack ofJson? (list items).toJson (list items) := by
  obtain ⟨tree, isValue, isRead⟩ :=
    Json.readsBack_list fun item (_ : item ∈ items) => readsBack_text item
  refine ⟨tree, isValue, ?_⟩
  rw [ofJson?_of_isValue (isValue_of_canonical? _ _ isValue)]
  obtain ⟨values, _, rfl⟩ := Option.map_eq_some_iff.1 isValue
  simp [shapeOf?, asText?, asBinary64?, asBool?, isRead]

theorem readsBack_files {uploads : List UploadedFile} (dated : ∀ file ∈ uploads, file.IsDated) :
    ReadsBack ofJson? (files uploads).toJson (files uploads) := by
  have filesBack : ReadsBack filesOfJson? (files uploads).toJson uploads := by
    refine Json.readsBack_record (by simp [AreNamed]) (by decide) (by simp) fun fields holds => ?_
    exact holds.1.required
      (Json.readsBack_list fun file inside => UploadedFile.readsBack (dated file inside))
  obtain ⟨tree, isValue, isRead⟩ := filesBack
  refine ⟨tree, isValue, ?_⟩
  rw [ofJson?_of_isValue (isValue_of_canonical? _ _ isValue)]
  obtain ⟨members, _, rfl⟩ := Option.map_eq_some_iff.1 isValue
  simp [shapeOf?, asText?, asBinary64?, asBool?, asList?, isRead]

/-- A grid is no set of files, even if one of its rows is called `files`. -/
theorem filesOfJson?_record (entries : KeyMap String) :
    filesOfJson? (record entries).toJson = none := by
  cases read : filesOfJson? (record entries).toJson with
  | none => rfl
  | some uploads =>
    obtain ⟨fields, areFields, isRequired⟩ := Option.bind_eq_some_iff.1 read
    obtain ⟨tree, found, isRead⟩ := Option.bind_eq_some_iff.1 isRequired
    simp only [toJson, ofKeyMap, fields?, Option.ite_none_right_eq_some, Option.some.injEq]
      at areFields
    obtain ⟨_, rfl⟩ := areFields
    obtain ⟨before, after, found, _⟩ := List.lookup_eq_some_iff.1 found
    have inside : ("files", tree) ∈ entries.entries.map fun entry => (entry.1, Json.text entry.2) :=
      (List.mem_filter.1 (found ▸ List.mem_append_right before List.mem_cons_self)).1
    obtain ⟨entry, _, same⟩ := List.mem_map.1 inside
    obtain ⟨_, rfl⟩ := Prod.mk.inj same
    contradiction

theorem mapM_texts (entries : List (String × String)) :
    ((entries.map fun entry => (entry.1, Json.text entry.2)).mapM fun member =>
      (asText? member.2).map fun value => (member.1, value)) = some entries := by
  induction entries with
  | nil => rfl
  | cons entry rest inductionHypothesis =>
    rw [List.map_cons, List.mapM_cons, inductionHypothesis]
    rfl

theorem readsBack_record (entries : KeyMap String) :
    ReadsBack ofJson? (record entries).toJson (record entries) := by
  have isValue : (record entries).toJson.IsValue := .object fun _ _ => rfl
  have isRead : (record entries).toJson.asKeyMap? asText? = some entries := by
    rw [toJson, ofKeyMap, asKeyMap?, mapM_texts, Option.map_some, KeyMap.ofList_entries]
  refine ⟨_, isValue, ?_⟩
  rw [ofJson?_of_isValue isValue]
  have noFiles := filesOfJson?_record entries
  simp only [toJson, ofKeyMap] at isRead noFiles ⊢
  simp [shapeOf?, asText?, asBinary64?, asBool?, asList?, isRead, noFiles]

/-- An answer is read back in its own shape. -/
theorem readsBack {answer : Answer} (dated : ∀ file ∈ answer.fileList, file.IsDated) :
    ReadsBack ofJson? answer.toJson answer := by
  cases answer with
  | text | number | bool => exact ⟨_, rfl, rfl⟩
  | list items => exact readsBack_list items
  | files uploads => exact readsBack_files dated
  | record entries => exact readsBack_record entries

@[simp] theorem readable (answer : Answer) : answer.toJson.Readable := by
  cases answer with
  | text | number | bool => exact ⟨_, rfl⟩
  | list items => exact (readsBack_list items).readable
  | files uploads => exact readable_record (by simp)
  | record entries => exact (readsBack_record entries).readable

theorem readsBack_lenient {answer : Answer} (dated : ∀ file ∈ answer.fileList, file.IsDated) :
    ReadsBack readAnswer? answer.toJson (some answer) := by
  obtain ⟨tree, isValue, isRead⟩ := readsBack dated
  refine ⟨tree, isValue, ?_⟩
  have isSelf : canonical? tree = some tree := isValue_of_canonical? _ _ isValue
  rw [readAnswer?, isSelf, Option.map_some, isRead]

end Answer

/-! ## Responses -/

theorem SkipActor.readsBack (actor : SkipActor) :
    ReadsBack SkipActor.ofJson? actor.toJson actor :=
  readsBack_oneOf (by cases actor <;> rfl)

@[simp] theorem SkipActor.readable (actor : SkipActor) : actor.toJson.Readable :=
  actor.readsBack.readable

theorem Skip.readsBack (skip : Skip) : ReadsBack Skip.ofJson? skip.toJson skip := by
  refine readsBack_record (by simp [AreNamed]) (by decide) (by simp) fun fields holds => ?_
  obtain ⟨reason, actor, moment, _⟩ := holds
  simp only [reason.withDefault "" (readsBack_text _), actor.required (SkipActor.readsBack _),
    moment.required (Timestamp.readsBack _)]
  rfl

@[simp] theorem Skip.readable (skip : Skip) : skip.toJson.Readable :=
  skip.readsBack.readable

/-- A response is read back as it was. -/
theorem Response.readsBack {response : Response} (dated : response.IsDated) :
    ReadsBack Response.ofJson? response.toJson response := by
  refine readsBack_record (by simp [AreNamed]) (by decide) (by simp) fun fields holds => ?_
  obtain ⟨assignmentId, nodeId, answer, skip, updatedAt, _⟩ := holds
  have answerDated (given : Answer) (is : response.answer = some given) :
      ∀ file ∈ given.fileList, file.IsDated := by
    rw [Response.IsDated, is] at dated
    exact dated
  simp only [assignmentId.required (readsBack_text _), nodeId.required (readsBack_text _),
    answer.ifSome fun given is => Answer.readsBack_lenient (answerDated given is),
    skip.optional fun inner => ⟨Skip.readsBack inner, ofMembers_ne_null _⟩,
    updatedAt.required (Timestamp.readsBack _)]
  rfl

@[simp] theorem Response.readable (response : Response) : response.toJson.Readable :=
  readable_record (by simp)

/-! ## Printable responses -/

variable {levels : Nat}

@[simp] theorem UploadedFile.isPrintable (file : UploadedFile) :
    IsPrintable (levels + 1) file.toJson :=
  isPrintable_record (by simp)

/-- The binary64 numbers in the answer. -/
def Answer.numbers : Answer → List Binary64
  | number value => [value]
  | text _ | bool _ | list _ | files _ | record _ => []

theorem Answer.isPrintable {answer : Answer}
    (exact : ∀ number ∈ answer.numbers, number.IsReadBack) :
    IsPrintable (levels + 3) answer.toJson := by
  cases answer with
  | text | bool => simp [toJson]
  | number value => exact isPrintable_ofBinary64 (exact value List.mem_cons_self)
  | list items => exact isPrintable_list_map (by simp)
  | files uploads => exact isPrintable_record (by simp)
  | record entries => exact isPrintable_ofKeyMap (by simp)

@[simp] theorem SkipActor.isPrintable (actor : SkipActor) : IsPrintable levels actor.toJson :=
  .text levels _

@[simp] theorem Skip.isPrintable (skip : Skip) : IsPrintable (levels + 1) skip.toJson :=
  isPrintable_record (by simp)

/-- The binary64 numbers in the response. -/
def Response.numbers (response : Response) : List Binary64 :=
  response.answer.toList.flatMap Answer.numbers

/-- A response is printable if its binary64 numbers are read back. -/
theorem Response.isPrintable {response : Response}
    (exact : ∀ number ∈ response.numbers, number.IsReadBack) :
    IsPrintable (levels + 4) response.toJson := by
  have answer : ∀ inner, response.answer = some inner →
      IsPrintable (levels + 3) inner.toJson := by
    intro inner is
    rw [Response.numbers, is, Option.toList_some, List.flatMap_singleton] at exact
    exact Answer.isPrintable exact
  exact isPrintable_record (by simpa using answer)

end Questionnaire
