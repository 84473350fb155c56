import Questionnaire.Json.Fields
import Questionnaire.Response.Basic
import Questionnaire.Time.Reader

/-!
# Responses in documents

How answers and responses are written as JSON, and read back. An answer does not name its own
shape: it is read as the first shape that fits, in the order text, number, truth value, list, files
and grid. An answer or an upload time that cannot be read is taken as absent, so that the rest of
the response is not lost.
-/

namespace Questionnaire

open Json (member memberIfSome ofMembers)

/-- The record of an uploaded file. -/
def UploadedFile.toJson (file : UploadedFile) : Json :=
  ofMembers
    [member "id" (.text file.id),
      member "name" (.text file.name),
      memberIfSome "uploadedAt" Timestamp.toJson file.uploadedAt,
      memberIfSome "mimeType" Json.text file.mimeType,
      memberIfSome "sizeBytes" Json.ofUInt64 file.sizeBytes,
      memberIfSome "blobKey" Json.text file.blobKey]

/-- Reads an upload time; any value that is not one counts as none. -/
def readUploadTime? (tree : Json) : Option (Option Timestamp) :=
  tree.canonical?.map fun value => value.asText?.bind Timestamp.parseUpload?

/-- Reads the record of an uploaded file. -/
def UploadedFile.ofJson? (tree : Json) : Option UploadedFile := do
  let fields ← tree.fields?
    ["id", "name", "uploadedAt", "mimeType", "sizeBytes", "blobKey"]
  return {
    id := ← fields.required "id" Json.asText?
    name := ← fields.required "name" Json.asText?
    uploadedAt := ← fields.withDefault "uploadedAt" none readUploadTime?
    mimeType := ← fields.optional "mimeType" Json.asText?
    sizeBytes := ← fields.optional "sizeBytes" Json.asUInt64?
    blobKey := ← fields.optional "blobKey" Json.asText? }

namespace Answer

/-- An answer, in its own shape. -/
def toJson : Answer → Json
  | text value => .text value
  | number value => .ofBinary64 value
  | bool value => .bool value
  | list items => .ofTexts items
  | files uploads => ofMembers [member "files" (.list (uploads.map UploadedFile.toJson))]
  | record entries => .ofKeyMap .text entries

/-- Reads the record of a set of files. -/
def filesOfJson? (tree : Json) : Option (List UploadedFile) := do
  let fields ← tree.fields? ["files"]
  fields.required "files" (Json.asList? UploadedFile.ofJson?)

/-- The first shape that fits the tree. -/
def shapeOf? (tree : Json) : Option Answer :=
  tree.asText?.map text <|> tree.asBinary64?.map number <|> tree.asBool?.map bool <|>
    (tree.asList? Json.asText?).map list <|> (filesOfJson? tree).map files <|>
      (tree.asKeyMap? Json.asText?).map record

/-- Reads an answer, which has to be readable as a whole. -/
def ofJson? (tree : Json) : Option Answer := do
  let _ ← tree.canonical?
  shapeOf? tree

end Answer

/-- The name of an actor. -/
def SkipActor.toJson (actor : SkipActor) : Json := .text actor.name

/-- An actor by its name. -/
def SkipActor.ofJson? : Json → Option SkipActor := Json.asOneOf? all name

/-- The record of a skip. -/
def Skip.toJson (skip : Skip) : Json :=
  ofMembers
    [member "reason" (.text skip.reason), member "by" skip.actor.toJson,
      member "at" skip.moment.toJson]

/-- Reads the record of a skip. -/
def Skip.ofJson? (tree : Json) : Option Skip := do
  let fields ← tree.fields? ["reason", "by", "at"]
  return {
    reason := ← fields.withDefault "reason" "" Json.asText?
    actor := ← fields.required "by" SkipActor.ofJson?
    moment := ← fields.required "at" Timestamp.ofJson? }

/-- Reads the answer of a response; one that fits no shape counts as none. -/
def readAnswer? (tree : Json) : Option (Option Answer) :=
  tree.canonical?.map Answer.ofJson?

/-- The record of a response. -/
def Response.toJson (response : Response) : Json :=
  ofMembers
    [member "assignmentId" (.text response.assignmentId),
      member "nodeId" (.text response.nodeId),
      memberIfSome "value" Answer.toJson response.answer,
      memberIfSome "skipped" Skip.toJson response.skip,
      member "updatedAt" response.updatedAt.toJson]

/-- Reads the record of a response. -/
def Response.ofJson? (tree : Json) : Option Response := do
  let fields ← tree.fields? ["assignmentId", "nodeId", "value", "skipped", "updatedAt"]
  return {
    assignmentId := ← fields.required "assignmentId" Json.asText?
    nodeId := ← fields.required "nodeId" Json.asText?
    answer := ← fields.withDefault "value" none readAnswer?
    skip := ← fields.optional "skipped" Skip.ofJson?
    updatedAt := ← fields.required "updatedAt" Timestamp.ofJson? }

end Questionnaire
