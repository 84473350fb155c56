import Mathlib.Data.Finmap
import Questionnaire.Proofs.Response.Lookup
import Questionnaire.Proofs.State.Operation

/-!
# Responses as a finite map

A table of responses stands for a finite map from an assignment and a node to an answer, a skip and
a time. On the map, an operation writes its own key or its own two keys, or drops the keys of one
assignment, and the last write counts. The operations of a session search a list, take responses out
of it and put others back; every run of them does to the list what the same run does to the map.
-/

namespace Questionnaire

/-- What a response holds besides its key. -/
structure ResponseContent where
  /-- The answer, if there is one. -/
  answer : Option Answer
  /-- The record of a skip, if the node was skipped. -/
  skip : Option Skip
  /-- When it was written last. -/
  updatedAt : Timestamp
deriving DecidableEq

/-- An answer that was written at a time, which undoes a skip. -/
def ResponseContent.ofAnswer (answer : Answer) (now : Timestamp) : ResponseContent :=
  { answer := some answer, skip := none, updatedAt := now }

/-- A skip that was written at a time, which undoes an answer. -/
def ResponseContent.ofSkip (reason : String) (actor : SkipActor) (now : Timestamp) :
    ResponseContent :=
  { answer := none, skip := some { reason := trim reason, actor, moment := now }, updatedAt := now }

/-- The response with this content and a key. -/
def ResponseContent.response (content : ResponseContent) (key : String × String) : Response where
  assignmentId := key.1
  nodeId := key.2
  answer := content.answer
  skip := content.skip
  updatedAt := content.updatedAt

/-- What a response holds besides its key. -/
def Response.content (response : Response) : ResponseContent where
  answer := response.answer
  skip := response.skip
  updatedAt := response.updatedAt

/-- What is written at each assignment and node. -/
abbrev ResponseMap := Finmap fun _ : String × String => ResponseContent

namespace ResponseMap

variable {map : ResponseMap} {key other : String × String}

/-- The answer at a key. -/
def answer? (map : ResponseMap) (key : String × String) : Option Answer :=
  (map.lookup key).bind ResponseContent.answer

/-- The map with files removed from the answer at a key; an answer that is left undoes a skip. -/
def removeFilesAt (map : ResponseMap) (key : String × String) (fileIds : List String)
    (now : Timestamp) : ResponseMap :=
  match map.lookup key with
  | none => map
  | some content =>
    let answer := removeFiles content.answer fileIds
    map.insert key
      { answer, skip := if answer.isSome then none else content.skip, updatedAt := now }

/-- The map with a file moved from the answer at a key, if it is there, to the one at another. -/
def moveFileAt (map : ResponseMap) (source target : String × String) (fileId : String)
    (now : Timestamp) : ResponseMap :=
  match (filesOf (map.answer? source)).find? fun file => file.id == fileId with
  | none => map
  | some file =>
    (map.removeFilesAt source [fileId] now).insert target
      (.ofAnswer (appendFiles (map.answer? target) [file]) now)

/-- The map without the keys of an assignment. -/
def clear (map : ResponseMap) (assignmentId : String) : ResponseMap :=
  Finmap.keysLookupEquiv.symm
    ⟨(map.keys.filter fun key => key.1 ≠ assignmentId,
        fun key => if key.1 = assignmentId then none else map.lookup key), by
      intro key
      rw [Finset.mem_filter, Finmap.mem_keys, ← Finmap.lookup_isSome]
      by_cases own : key.1 = assignmentId
      · simp [own]
      · simp [own]⟩

/-- The map after an operation at a time, where `issued` tells which assignments there are. -/
def apply (issued : String → Bool) (now : Timestamp) (map : ResponseMap) :
    ResponseOperation → ResponseMap
  | .recordAnswer assignmentId nodeId answer =>
    if issued assignmentId then map.insert (assignmentId, nodeId) (.ofAnswer answer now) else map
  | .skipNode assignmentId nodeId reason actor =>
    if issued assignmentId then map.insert (assignmentId, nodeId) (.ofSkip reason actor now)
    else map
  | .attachFiles assignmentId nodeId files =>
    if issued assignmentId then
      map.insert (assignmentId, nodeId)
        (.ofAnswer (appendFiles (map.answer? (assignmentId, nodeId)) files) now)
    else map
  | .detachFiles assignmentId nodeId fileIds =>
    if issued assignmentId then map.removeFilesAt (assignmentId, nodeId) fileIds now else map
  | .moveFile assignmentId sourceId targetId fileId =>
    if issued assignmentId ∧ sourceId ≠ targetId then
      map.moveFileAt (assignmentId, sourceId) (assignmentId, targetId) fileId now
    else map
  | .clear assignmentId => map.clear assignmentId

/-- The map after a list of operations, each at a time of its own. -/
def run (issued : String → Bool) (map : ResponseMap)
    (steps : List (Timestamp × ResponseOperation)) : ResponseMap :=
  steps.foldl (fun map step => map.apply issued step.1 step.2) map

theorem lookup_insert_eq (map : ResponseMap) (key other : String × String)
    (content : ResponseContent) :
    (map.insert key content).lookup other =
      if other = key then some content else map.lookup other := by
  split
  · rename_i same
    rw [same, Finmap.lookup_insert]
  · rename_i apart
    exact Finmap.lookup_insert_of_ne map apart

theorem lookup_clear (map : ResponseMap) (assignmentId : String) (key : String × String) :
    (map.clear assignmentId).lookup key =
      if key.1 = assignmentId then none else map.lookup key := by
  rw [clear, Finmap.keysLookupEquiv_symm_apply_lookup]

theorem lookup_removeFilesAt_of_ne (fileIds : List String) (now : Timestamp)
    (apart : other ≠ key) :
    (map.removeFilesAt key fileIds now).lookup other = map.lookup other := by
  rw [removeFilesAt]
  split
  · rfl
  · rw [lookup_insert_eq, if_neg apart]

end ResponseMap

/-- The keys that an operation may write: its own one or two, or those of the assignment that it
clears. -/
def ResponseOperation.Touches : ResponseOperation → String × String → Prop
  | recordAnswer assignmentId nodeId _, key | skipNode assignmentId nodeId _ _, key
  | attachFiles assignmentId nodeId _, key | detachFiles assignmentId nodeId _, key =>
    key = (assignmentId, nodeId)
  | moveFile assignmentId sourceId targetId _, key =>
    key = (assignmentId, sourceId) ∨ key = (assignmentId, targetId)
  | clear assignmentId, key => key.1 = assignmentId

namespace ResponseMap

/-- An operation leaves everything else unchanged. -/
theorem lookup_apply_of_untouched (issued : String → Bool) (now : Timestamp) (map : ResponseMap)
    {operation : ResponseOperation} {key : String × String} (untouched : ¬ operation.Touches key) :
    (map.apply issued now operation).lookup key = map.lookup key := by
  cases operation with
  | recordAnswer | skipNode | attachFiles =>
    rw [apply]
    split
    · exact Finmap.lookup_insert_of_ne map untouched
    · rfl
  | detachFiles =>
    rw [apply]
    split
    · exact lookup_removeFilesAt_of_ne _ _ untouched
    · rfl
  | moveFile =>
    rw [apply]
    split
    · obtain ⟨notSource, notTarget⟩ := not_or.1 untouched
      rw [moveFileAt]
      split
      · rfl
      · rw [lookup_insert_eq, if_neg notTarget, lookup_removeFilesAt_of_ne _ _ notSource]
    · rfl
  | clear assignmentId =>
    have apart : key.1 ≠ assignmentId := untouched
    rw [apply, lookup_clear, if_neg apart]

theorem lookup_run_of_untouched (issued : String → Bool) {map : ResponseMap}
    {steps : List (Timestamp × ResponseOperation)} {key : String × String}
    (untouched : ∀ step ∈ steps, ¬ step.2.Touches key) :
    (map.run issued steps).lookup key = map.lookup key := by
  induction steps generalizing map with
  | nil => rfl
  | cons step steps inductionHypothesis =>
    obtain ⟨first, later⟩ := List.forall_mem_cons.1 untouched
    exact (inductionHypothesis later).trans (lookup_apply_of_untouched issued step.1 map first)

end ResponseMap

namespace ResponseTable

/-- The map that a table stands for. -/
def toMap (table : ResponseTable) : ResponseMap :=
  (table.map fun response => (⟨response.key, response.content⟩ :
    Σ _ : String × String, ResponseContent)).toFinmap

theorem lookup_toMap (table : ResponseTable) (assignmentId nodeId : String) :
    table.toMap.lookup (assignmentId, nodeId) =
      (find? table assignmentId nodeId).map Response.content := by
  rw [toMap, Finmap.dlookup_list_toFinmap]
  induction table with
  | nil => rfl
  | cons first rest inductionHypothesis =>
    rw [List.map_cons, find?]
    by_cases here : first.key = (assignmentId, nodeId)
    · rw [List.find?_cons_of_pos (Response.isOf_iff.2 here), ← here, List.dlookup_cons_eq]
      rfl
    · rw [List.find?_cons_of_neg (fun matched => here (Response.isOf_iff.1 matched)),
        List.dlookup_cons_ne _ _ (Ne.symm here)]
      exact inductionHypothesis

theorem key_of_find? {table : ResponseTable} {assignmentId nodeId : String} {response : Response}
    (found : find? table assignmentId nodeId = some response) :
    response.key = (assignmentId, nodeId) :=
  Response.isOf_iff.1 (List.find?_some found)

/-- The look-up in a table is the look-up in its map. -/
theorem find?_eq_lookup_toMap (table : ResponseTable) (assignmentId nodeId : String) :
    find? table assignmentId nodeId =
      (table.toMap.lookup (assignmentId, nodeId)).map
        fun content => content.response (assignmentId, nodeId) := by
  rw [lookup_toMap, Option.map_map]
  cases found : find? table assignmentId nodeId with
  | none => rfl
  | some response =>
    rw [Option.map_some, Function.comp_apply, ← key_of_find? found]
    rfl

theorem answer?_toMap (table : ResponseTable) (assignmentId nodeId : String) :
    table.toMap.answer? (assignmentId, nodeId) = answer? table assignmentId nodeId := by
  rw [ResponseMap.answer?, lookup_toMap, answer?, Option.bind_map]
  rfl

/-! ## Writes to the table and to the map -/

theorem toMap_put (response : Response) (table : ResponseTable) :
    toMap (put response table) = table.toMap.insert response.key response.content := by
  refine Finmap.ext_lookup fun (assignmentId, nodeId) => ?_
  rw [lookup_toMap, find?_put, ResponseMap.lookup_insert_eq]
  by_cases own : response.key = (assignmentId, nodeId)
  · rw [if_pos own, if_pos own.symm]
    rfl
  · rw [if_neg own, if_neg (Ne.symm own), lookup_toMap]

/-- An answer is written whether or not there is a response of the key. -/
theorem toMap_putAnswer_some (table : ResponseTable) (assignmentId nodeId : String)
    (answer : Answer) (now : Timestamp) :
    toMap (putAnswer table assignmentId nodeId (some answer) now) =
      table.toMap.insert (assignmentId, nodeId) (.ofAnswer answer now) := by
  unfold putAnswer
  cases found : find? table assignmentId nodeId with
  | none => exact toMap_put _ table
  | some response =>
    rw [← key_of_find? found]
    exact toMap_put _ table

/-- Files are removed where there is a response of the key. -/
theorem toMap_putAnswer_removeFiles (table : ResponseTable) (assignmentId nodeId : String)
    (fileIds : List String) (now : Timestamp) :
    toMap (putAnswer table assignmentId nodeId
        (removeFiles (answer? table assignmentId nodeId) fileIds) now) =
      table.toMap.removeFilesAt (assignmentId, nodeId) fileIds now := by
  unfold putAnswer
  rw [ResponseMap.removeFilesAt, lookup_toMap, answer?]
  cases found : find? table assignmentId nodeId with
  | none => rfl
  | some response =>
    rw [Option.map_some, Option.bind_some, ← key_of_find? found]
    exact toMap_put _ table

theorem toMap_clear (table : ResponseTable) (assignmentId : String) :
    toMap (clear table assignmentId) = table.toMap.clear assignmentId := by
  refine Finmap.ext_lookup fun (otherId, nodeId) => ?_
  rw [lookup_toMap, find?_clear, ResponseMap.lookup_clear]
  split
  · rfl
  · rw [lookup_toMap]

end ResponseTable

open ResponseTable

/-- Whether there is an assignment with the id. -/
def State.hasAssignment (state : State) (id : String) : Bool :=
  (state.assignment? id).isSome

/-- An operation on responses does to the table what it does to the map, and keeps keys distinct. -/
theorem ResponseOperation.perform_refines (operation : ResponseOperation) (session : Session) :
    toMap ((Operation.response operation).perform session).state.responses =
        (toMap session.state.responses).apply session.state.hasAssignment session.services.now
          operation ∧
      (HasDistinctKeys session.state.responses →
        HasDistinctKeys ((Operation.response operation).perform session).state.responses) := by
  rw [Operation.perform, Operation.action]
  cases operation with
  | recordAnswer assignmentId nodeId answer =>
    rw [action, Action.perform_recordAnswer, ResponseMap.apply, State.hasAssignment]
    cases session.state.assignment? assignmentId with
    | none => exact ⟨rfl, id⟩
    | some _ => exact ⟨toMap_put _ _, fun distinct => distinct.put _⟩
  | skipNode assignmentId nodeId reason actor =>
    rw [action, Action.perform_skipNode, ResponseMap.apply, State.hasAssignment]
    cases session.state.assignment? assignmentId with
    | none => exact ⟨rfl, id⟩
    | some _ => exact ⟨toMap_put _ _, fun distinct => distinct.put _⟩
  | attachFiles assignmentId nodeId files =>
    rw [action, Action.attachFiles, Action.perform_modifyAnswer, ResponseMap.apply,
      State.hasAssignment, answer?_toMap]
    cases session.state.assignment? assignmentId with
    | none => exact ⟨rfl, id⟩
    | some _ => exact ⟨toMap_putAnswer_some _ _ _ _ _, fun distinct => distinct.putAnswer _ _ _ _⟩
  | detachFiles assignmentId nodeId fileIds =>
    rw [action, Action.detachFiles, Action.perform_modifyAnswer, ResponseMap.apply,
      State.hasAssignment]
    cases session.state.assignment? assignmentId with
    | none => exact ⟨rfl, id⟩
    | some _ =>
      exact ⟨toMap_putAnswer_removeFiles _ _ _ _ _, fun distinct => distinct.putAnswer _ _ _ _⟩
  | moveFile assignmentId sourceId targetId fileId =>
    rw [action, Action.perform_discard, Action.perform_moveFileBetween, ResponseMap.apply,
      State.hasAssignment]
    cases session.state.assignment? assignmentId with
    | none => exact ⟨rfl, id⟩
    | some assignment =>
      by_cases same : sourceId = targetId
      · simp [same]
      · have moves : (some assignment).isSome = true ∧ sourceId ≠ targetId := ⟨rfl, same⟩
        rw [if_pos moves, ResponseMap.moveFileAt, answer?_toMap, answer?_toMap]
        simp only [Questionnaire.moveFile, beq_eq_false_iff_ne.2 same, Bool.false_or]
        cases (filesOf (answer? session.state.responses assignmentId sourceId)).find?
            fun file => file.id == fileId with
        | none => exact ⟨rfl, id⟩
        | some file =>
          refine ⟨?_, fun distinct => (distinct.putAnswer _ _ _ _).putAnswer _ _ _ _⟩
          exact (toMap_putAnswer_some _ _ _ _ _).trans
            (congrArg _ (toMap_putAnswer_removeFiles _ _ _ _ _))
  | clear assignmentId =>
    rw [action, Action.perform_discard, Action.perform_clearResponses, ResponseMap.apply]
    exact ⟨toMap_clear _ _, fun distinct => distinct.clear _⟩

namespace Session

/-- The session after a list of operations on responses, each at a time of its own. -/
def runResponses (session : Session) (steps : List (Timestamp × ResponseOperation)) : Session :=
  session.run (steps.map fun step => (step.1, .response step.2))

/-- An operation on responses leaves templates and assignments alone. -/
theorem Effect.frame_response {before after : Session} {operation : ResponseOperation}
    (effect : Effect before (.response operation) after) :
    after.state.templates = before.state.templates ∧
      after.state.assignments = before.state.assignments := by
  cases effect with
  | unchanged | responsesWritten => exact ⟨rfl, rfl⟩

/-- A run of operations on responses does to the table what it does to the map, keeps keys distinct
and leaves templates and assignments alone. -/
theorem runResponses_refines (session : Session) (steps : List (Timestamp × ResponseOperation)) :
    toMap (session.runResponses steps).state.responses =
        (toMap session.state.responses).run session.state.hasAssignment steps ∧
      (HasDistinctKeys session.state.responses →
        HasDistinctKeys (session.runResponses steps).state.responses) ∧
      (session.runResponses steps).state.templates = session.state.templates ∧
      (session.runResponses steps).state.assignments = session.state.assignments := by
  induction steps generalizing session with
  | nil => exact ⟨rfl, id, rfl, rfl⟩
  | cons step steps inductionHypothesis =>
    obtain ⟨now, operation⟩ := step
    have frame := ((Operation.response operation).effect (session.atTime now)).frame_response
    have refines := operation.perform_refines (session.atTime now)
    obtain ⟨laterMap, laterDistinct, laterTemplates, laterAssignments⟩ :=
      inductionHypothesis ((Operation.response operation).perform (session.atTime now))
    have sameIssued : ((Operation.response operation).perform
        (session.atTime now)).state.hasAssignment = session.state.hasAssignment := by
      funext id
      rw [State.hasAssignment, State.assignment?, frame.2]
      rfl
    rw [sameIssued, refines.1] at laterMap
    exact ⟨laterMap, fun distinct => laterDistinct (refines.2 distinct),
      laterTemplates.trans frame.1, laterAssignments.trans frame.2⟩

/-- The responses are a finite map. Where they have distinct keys, they still do after every run of
operations on responses; each look-up then gives what the same run computes on the map, in which
keys that no step touches stay as they were; the evaluators index the very response that the store
looks up; and templates and assignments are as before. -/
theorem runResponses_finiteMap {session : Session}
    (distinct : HasDistinctKeys session.state.responses)
    (steps : List (Timestamp × ResponseOperation)) :
    HasDistinctKeys (session.runResponses steps).state.responses ∧
    (∀ assignmentId nodeId,
      find? (session.runResponses steps).state.responses assignmentId nodeId =
        (((toMap session.state.responses).run session.state.hasAssignment steps).lookup
          (assignmentId, nodeId)).map fun content => content.response (assignmentId, nodeId)) ∧
    (∀ assignmentId nodeId, (∀ step ∈ steps, ¬ step.2.Touches (assignmentId, nodeId)) →
      find? (session.runResponses steps).state.responses assignmentId nodeId =
        find? session.state.responses assignmentId nodeId) ∧
    (∀ assignmentId nodeId,
      (ResponseIndex.ofAssignment (session.runResponses steps).state.responses
          assignmentId).get? nodeId =
        find? (session.runResponses steps).state.responses assignmentId nodeId) ∧
    (session.runResponses steps).state.templates = session.state.templates ∧
    (session.runResponses steps).state.assignments = session.state.assignments := by
  obtain ⟨sameMap, keepsDistinct, templates, assignments⟩ := session.runResponses_refines steps
  refine ⟨keepsDistinct distinct, ?_, ?_, (keepsDistinct distinct).get?_ofAssignment, templates,
    assignments⟩
  · intro assignmentId nodeId
    rw [find?_eq_lookup_toMap, sameMap]
  · intro assignmentId nodeId untouched
    rw [find?_eq_lookup_toMap, sameMap, ResponseMap.lookup_run_of_untouched _ untouched,
      ← find?_eq_lookup_toMap]

/-- A file is moved to a node without a response, and the node that it came from is skipped. -/
theorem runResponses_finiteMap_moved :
    let file : UploadedFile := { id := "f", name := "deed.pdf" }
    let session : Session :=
      { state :=
          { assignments := [.issue "a" "t" 1 "A" .epoch]
            responses := [.answered "a" "n" (.files [file]) .epoch] }
        services := { now := .epoch } }
    let steps := [(.epoch, .moveFile "a" "n" "m" "f"), (.epoch, .skipNode "a" "n" " late " .client)]
    HasDistinctKeys session.state.responses ∧
      HasDistinctKeys (session.runResponses steps).state.responses ∧
      (ResponseIndex.ofAssignment (session.runResponses steps).state.responses "a").get? "m" =
        some (.answered "a" "m" (.files [file]) .epoch) := by
  intro file session steps
  have distinct : HasDistinctKeys session.state.responses := by decide
  obtain ⟨still, _, _, indexed, _⟩ := runResponses_finiteMap distinct steps
  exact ⟨distinct, still, (indexed "a" "m").trans (by rfl)⟩

end Session

end Questionnaire
