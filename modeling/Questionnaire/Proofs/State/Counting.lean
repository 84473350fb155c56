import Mathlib.Algebra.Group.Nat.Defs
import Questionnaire.Proofs.State.Ids

/-!
# Counting ids

A counter of 64 bits numbers the ids that it hands out. The number stands behind the last dash of an
id, whatever the kind in front of it looks like. So ids with different numbers differ, and no id
comes back before the counter has gone all the way round. A session that numbers its ids by decimal
numerals hands out the ids of such a counter until the counter is at its end. All steps of starter
graphs, templates and assignments that are made along a run of operations get their ids in this way,
one after the other.
-/

namespace Questionnaire

/-! ## The number of an id -/

/-- The id of a kind with a number of 64 bits. -/
def numberedId (kind : String) (number : UInt64) : String :=
  kind ++ "-" ++ toString number

/-- What stands behind the last mark can be told, from the end. -/
theorem takeWhile_reverse_append_cons {mark : Char} {behind : List Char} (front : List Char)
    (unmarked : mark ∉ behind) :
    (front ++ mark :: behind).reverse.takeWhile (· != mark) = behind.reverse := by
  have others : ∀ char ∈ behind.reverse, (char != mark) = true := by
    intro char member
    exact bne_iff_ne.2 fun same => unmarked (same ▸ List.mem_reverse.1 member)
  rw [List.reverse_append, List.reverse_cons, List.append_assoc,
    List.takeWhile_append_of_pos others, List.singleton_append,
    List.takeWhile_cons_of_neg (by simp), List.append_nil]

theorem dash_not_mem_toString (number : Nat) : '-' ∉ (toString number).toList :=
  fun member => absurd (isDigit_of_mem_toString member) (by decide)

/-- Ids with different numbers differ, whatever their kinds are. -/
theorem number_eq_of_numberedId_eq {kind other : String} {first second : UInt64}
    (same : numberedId kind first = numberedId other second) : first = second := by
  have numeral (kind : String) (number : UInt64) :
      (numberedId kind number).toList.reverse.takeWhile (· != '-') =
        (toString number).toList.reverse := by
    rw [numberedId, String.append_assoc, String.toList_append, String.toList_append]
    exact takeWhile_reverse_append_cons _ (dash_not_mem_toString number.toNat)
  have reversed : (toString first).toList.reverse = (toString second).toList.reverse := by
    rw [← numeral kind, same, numeral]
  have numerals : toString first = toString second :=
    String.toList_inj.1 (List.reverse_inj.1 reversed)
  exact UInt64.toNat_inj.1 (Nat.repr_injective numerals)

/-! ## The counter -/

/-- A counter of 64 bits that hands out ids; after its last number comes zero. -/
structure IdCounter where
  /-- The number of the last id, or zero before the first one. -/
  last : UInt64 := 0

namespace IdCounter

/-- The next id of a kind, and the counter afterwards. -/
def next (counter : IdCounter) (kind : String) : String × IdCounter :=
  (numberedId kind (counter.last + 1), { last := counter.last + 1 })

/-- The ids of some kinds, one after the other. -/
def nextIds (counter : IdCounter) : List String → List String
  | [] => []
  | kind :: kinds => (counter.next kind).1 :: (counter.next kind).2.nextIds kinds

theorem exists_of_mem_nextIds {counter : IdCounter} {kinds : List String} {id : String}
    (member : id ∈ counter.nextIds kinds) :
    ∃ kind place, 1 ≤ place ∧ place ≤ kinds.length ∧
      id = numberedId kind (counter.last + UInt64.ofNat place) := by
  induction kinds generalizing counter with
  | nil => exact absurd member List.not_mem_nil
  | cons kind kinds inductionHypothesis =>
    rcases List.mem_cons.1 member with rfl | later
    · exact ⟨kind, 1, Nat.le_refl _, Nat.succ_pos _, rfl⟩
    · obtain ⟨own, place, _, within, rfl⟩ := inductionHypothesis later
      refine ⟨own, place + 1, Nat.succ_pos _, Nat.succ_le_succ within, congrArg (numberedId own) ?_⟩
      rw [next, UInt64.ofNat_add, UInt64.add_comm (UInt64.ofNat place), ← UInt64.add_assoc]
      rfl

/-- No id comes back before the counter has gone all the way round. -/
theorem nodup_nextIds {counter : IdCounter} {kinds : List String} (few : kinds.length ≤ 2 ^ 64) :
    (counter.nextIds kinds).Nodup := by
  induction kinds generalizing counter with
  | nil => exact List.nodup_nil
  | cons kind kinds inductionHypothesis =>
    rw [List.length_cons] at few
    refine List.nodup_cons.2 ⟨?_, inductionHypothesis (by omega)⟩
    intro again
    obtain ⟨other, place, positive, within, same⟩ := exists_of_mem_nextIds again
    -- The same number comes back only after a multiple of all numbers, and there are fewer calls.
    have round : counter.last + 1 = counter.last + 1 + UInt64.ofNat place :=
      number_eq_of_numberedId_eq same
    have distance : UInt64.ofNat place = 0 := UInt64.add_eq_left.1 round.symm
    have remainder : place % 2 ^ 64 = 0 := by
      rw [← UInt64.toNat_ofNat', distance]
      rfl
    omega

end IdCounter

/-! ## The ids of a session -/

/-- The counter that stands where the services do. -/
def Services.counter (services : Services) : IdCounter :=
  { last := .ofNat services.minted }

/-- The ids of some kinds, with the numbers that follow a number. -/
def Services.idsAfter (services : Services) : Nat → List String → List String
  | _, [] => []
  | number, kind :: kinds =>
    services.idOf kind (number + 1) :: services.idsAfter (number + 1) kinds

namespace Services

variable {services : Services} {number : Nat} {kinds : List String}

theorem idsAfter_append (services : Services) (number : Nat) (kinds later : List String) :
    services.idsAfter number (kinds ++ later) =
      services.idsAfter number kinds ++ services.idsAfter (number + kinds.length) later := by
  induction kinds generalizing number with
  | nil => rfl
  | cons kind kinds inductionHypothesis =>
    rw [List.cons_append, idsAfter, idsAfter, inductionHypothesis, List.length_cons,
      Nat.add_right_comm, Nat.add_assoc]
    rfl

theorem idsAfter_congr {other : Services} (same : other.idText = services.idText) (number : Nat)
    (kinds : List String) : other.idsAfter number kinds = services.idsAfter number kinds := by
  induction kinds generalizing number with
  | nil => rfl
  | cons kind kinds inductionHypothesis =>
    rw [idsAfter, idsAfter, idOf, idOf, same, inductionHypothesis]

/-- Decimal numerals are those of the counter until it is at its end. -/
theorem idsAfter_eq_nextIds (numerals : services.idText = toString)
    (few : number + kinds.length < 2 ^ 64) :
    services.idsAfter number kinds = IdCounter.nextIds { last := .ofNat number } kinds := by
  induction kinds generalizing number with
  | nil => rfl
  | cons kind kinds inductionHypothesis =>
    rw [List.length_cons] at few
    have following : UInt64.ofNat (number + 1) = UInt64.ofNat number + 1 := UInt64.ofNat_add _ _
    have inRange : (UInt64.ofNat (number + 1)).toNat = number + 1 :=
      UInt64.toNat_ofNat_of_lt' (by rw [UInt64.size]; omega)
    have head : services.idOf kind (number + 1) = numberedId kind (.ofNat number + 1) := by
      rw [idOf, numerals, numberedId, ← following]
      change _ = kind ++ "-" ++ toString (UInt64.ofNat (number + 1)).toNat
      rw [inRange]
    rw [idsAfter, head, inductionHypothesis (by omega), following]
    rfl

end Services

open Questionnaire.Action

theorem Action.perform_mapM_mint (kinds : List String) (session : Session) :
    (kinds.mapM mint).perform session =
      (.ok (session.services.idsAfter session.services.minted kinds),
        session.minting kinds.length) := by
  induction kinds generalizing session with
  | nil => rfl
  | cons kind kinds inductionHypothesis =>
    have after : (session.minting 1).minting kinds.length =
        session.minting (kind :: kinds).length := by
      rw [Session.minting, Session.minting, Session.minting, List.length_cons, Nat.add_assoc,
        Nat.add_comm 1]
    have sameTexts : (session.minting 1).services.idText = session.services.idText := rfl
    have later := Services.idsAfter_congr sameTexts (session.services.minted + 1) kinds
    simp only [List.mapM_cons, perform_bind, perform_mint, inductionHypothesis, perform_pure,
      after]
    exact congrArg (fun rest => (Except.ok (_ :: rest), _)) later

/-! ## What a run makes -/

/-- The ids of the steps of all versions of a template. -/
def Template.stepIds (template : Template) : List String :=
  template.versions.flatMap fun version => version.graph.nodes.map Node.id

/-- What a function tells of the value that an action gives; nothing if the action is refused. -/
def Action.told {α : Type} (action : Action α) (tell : α → List String) (session : Session) :
    List String :=
  match (action.perform session).1 with
  | .ok value => tell value
  | .error _ => []

/-- The ids of what an operation makes: of the steps of a starter graph and its template, of a copy
of a template, or of an assignment. -/
def Operation.newIds (session : Session) : Operation → List String
  | .template (.create title description) =>
    (createTemplate title description).told
      (fun template => template.stepIds ++ [template.id]) session
  | .template (.duplicate id) => (duplicateTemplate id).told (fun copy => [copy.id]) session
  | .template (.cloneForEdit id) =>
    if (session.state.template? id).any Template.isSystemOwned then
      (cloneForEdit id).told (fun copy => [copy.id]) session
    else []
  | .assignment (.assign templateId title dueAt) =>
    (assignTemplate templateId title dueAt).told (fun assignment => [assignment.id]) session
  | .rehydrateIntake catalog =>
    match (Action.rehydrateIntake catalog).perform session with
    | (.ok true, after) => (after.state.assignments.take 1).map Assignment.id
    | _ => []
  | _ => []

namespace Session

/-- The ids of all that is made along a run of operations. -/
def newIds (session : Session) : List (Timestamp × Operation) → List String
  | [] => []
  | step :: steps =>
    step.2.newIds (session.atTime step.1) ++
      (step.2.perform (session.atTime step.1)).newIds steps

/-- From one session to the other, ids of some kinds were handed out one after the other. -/
structure HandsOut (before : Session) (kinds ids : List String) (after : Session) : Prop where
  ids : ids = before.services.idsAfter before.services.minted kinds
  minted : after.services.minted = before.services.minted + kinds.length
  idText : after.services.idText = before.services.idText

variable {before middle after : Session} {kinds later ids rest : List String}

theorem HandsOut.trans (first : before.HandsOut kinds ids middle)
    (second : middle.HandsOut later rest after) :
    before.HandsOut (kinds ++ later) (ids ++ rest) after where
  ids := by
    rw [Services.idsAfter_append, ← first.ids, ← first.minted,
      ← Services.idsAfter_congr first.idText, ← second.ids]
  minted := by rw [second.minted, first.minted, List.length_append, Nat.add_assoc]
  idText := second.idText.trans first.idText

theorem handsOut_nothing (minted : after.services.minted = before.services.minted)
    (idText : after.services.idText = before.services.idText) : before.HandsOut [] [] after :=
  ⟨rfl, minted, idText⟩

/-- The time does not matter for the ids. -/
theorem HandsOut.of_atTime {moment : Timestamp}
    (handsOut : (before.atTime moment).HandsOut kinds ids after) :
    before.HandsOut kinds ids after where
  ids := by
    have sameTexts : (before.atTime moment).services.idText = before.services.idText := rfl
    exact handsOut.ids.trans (Services.idsAfter_congr sameTexts _ _)
  minted := handsOut.minted
  idText := handsOut.idText

end Session

theorem duplicateTemplate_handsOut (id : String) (session : Session) :
    ∃ kinds, session.HandsOut kinds ((duplicateTemplate id).told (fun copy => [copy.id]) session)
      ((duplicateTemplate id).perform session).2 := by
  rw [told, perform_duplicateTemplate]
  cases session.state.template? id with
  | none => exact ⟨[], Session.handsOut_nothing rfl rfl⟩
  | some source => exact ⟨["qtpl"], rfl, rfl, rfl⟩

theorem TemplateOperation.handsOut (operation : TemplateOperation) (session : Session) :
    ∃ kinds, session.HandsOut kinds ((Operation.template operation).newIds session)
      ((Operation.template operation).perform session) := by
  have idText := ((Operation.template operation).effect session).idText
  rw [Operation.perform, Operation.action] at idText ⊢
  cases operation with
  | create title description =>
    rw [Operation.newIds, action, perform_discard, told, perform_createTemplate]
    by_cases blank : (trim title).isEmpty = true
    · rw [if_pos blank]
      exact ⟨[], Session.handsOut_nothing rfl rfl⟩
    · rw [if_neg blank]
      exact ⟨["start", "section", "question", "end", "qtpl"], rfl, rfl, rfl⟩
  | duplicate id =>
    rw [action, perform_discard]
    exact duplicateTemplate_handsOut id session
  | cloneForEdit id =>
    rw [Operation.newIds, action, perform_discard, told, perform_cloneForEdit]
    cases session.state.template? id with
    | none => exact ⟨[], Session.handsOut_nothing rfl rfl⟩
    | some source =>
      rw [Option.any_some]
      dsimp only
      split
      · exact duplicateTemplate_handsOut id session
      · exact ⟨[], Session.handsOut_nothing rfl rfl⟩
  -- The other operations make nothing, and all of their outcomes leave the count as it is.
  | archive id =>
    refine ⟨[], Session.handsOut_nothing ?_ idText⟩
    rw [action, perform_discard, perform_archiveTemplate]
    split
    · rfl
    · split <;> rfl
  | remove id =>
    refine ⟨[], Session.handsOut_nothing ?_ idText⟩
    rw [action, perform_discard, perform_removeTemplate]
    split
    · rfl
    · split
      · rfl
      · split <;> rfl
  | updateGraph id graph =>
    refine ⟨[], Session.handsOut_nothing ?_ idText⟩
    rw [action, perform_discard, perform_updateGraph]
    split
    · rfl
    · split <;> rfl
  | activate id version =>
    refine ⟨[], Session.handsOut_nothing ?_ idText⟩
    rw [action, perform_activateVersion]
    split
    · rfl
    · split <;> rfl
  | publish nodeLimit id publisher notes =>
    refine ⟨[], Session.handsOut_nothing ?_ idText⟩
    rw [action, perform_discard, perform_publishVersion]
    split
    · rfl
    · split
      · rfl
      · split
        · split <;> rfl
        · rfl

theorem minted_setStage (id : String) (stage : Stage) (session : Session) :
    ((setStage id stage).perform session).2.services.minted = session.services.minted := by
  rw [perform_setStage]
  split
  · rfl
  · split
    · split <;> rfl
    · rfl

theorem AssignmentOperation.handsOut (operation : AssignmentOperation) (session : Session) :
    ∃ kinds, session.HandsOut kinds ((Operation.assignment operation).newIds session)
      ((Operation.assignment operation).perform session) := by
  have idText := ((Operation.assignment operation).effect session).idText
  rw [Operation.perform, Operation.action] at idText ⊢
  cases operation with
  | assign templateId title dueAt =>
    rw [Operation.newIds, action, perform_discard, told, perform_assignTemplate]
    cases session.state.template? templateId with
    | none => exact ⟨[], Session.handsOut_nothing rfl rfl⟩
    | some template => exact ⟨["assign"], rfl, rfl, rfl⟩
  | setStage id stage =>
    refine ⟨[], Session.handsOut_nothing ?_ idText⟩
    rw [action, perform_discard]
    exact minted_setStage id stage session
  | updateStatus id status =>
    refine ⟨[], Session.handsOut_nothing ?_ idText⟩
    rw [action, perform_discard, perform_updateStatus]
    split
    · rfl
    · rename_i assignment _
      have same := minted_setStage id (status.toStage.max assignment.stage) session
      dsimp only
      split <;> rename_i performed <;> rwa [performed] at same
  | refreshStage catalog id =>
    refine ⟨[], Session.handsOut_nothing ?_ idText⟩
    rw [action, perform_discard, perform_refreshStage]
    split
    · rfl
    · rename_i assignment _
      have same := minted_setStage id (assignment.progress (session.state.templateOf? assignment)
        session.state.responses catalog).stage session
      dsimp only
      split <;> rename_i performed <;> rwa [performed] at same
  | archive id =>
    refine ⟨[], Session.handsOut_nothing ?_ idText⟩
    rw [action, perform_archiveAssignment]
    split <;> rfl

/-- Every operation gives what it makes ids that it hands out one after the other, and hands out no
others. -/
theorem Operation.handsOut (operation : Operation) (session : Session) :
    ∃ kinds, session.HandsOut kinds (operation.newIds session) (operation.perform session) := by
  cases operation with
  | template operation => exact operation.handsOut session
  | assignment operation => exact operation.handsOut session
  | response operation =>
    have effect := (Operation.response operation).effect session
    refine ⟨[], Session.handsOut_nothing ?_ effect.idText⟩
    generalize (Operation.response operation).perform session = after at effect
    cases effect <;> rfl
  | rehydrateIntake catalog =>
    rw [newIds, perform, action, perform_discard, perform_rehydrateIntake]
    by_cases hydrated : session.state.hasHydratedIntake catalog = true
    · rw [if_pos hydrated]
      exact ⟨[], Session.handsOut_nothing rfl rfl⟩
    · rw [if_neg hydrated]
      exact ⟨["assign"], rfl, rfl, rfl⟩

/-- So does every run. -/
theorem Session.handsOut_run (session : Session) (steps : List (Timestamp × Operation)) :
    ∃ kinds, session.HandsOut kinds (session.newIds steps) (session.run steps) := by
  induction steps generalizing session with
  | nil => exact ⟨[], handsOut_nothing rfl rfl⟩
  | cons step steps inductionHypothesis =>
    obtain ⟨kinds, here⟩ := step.2.handsOut (session.atTime step.1)
    obtain ⟨later, afterwards⟩ :=
      inductionHypothesis (step.2.perform (session.atTime step.1))
    exact ⟨kinds ++ later, here.of_atTime.trans afterwards⟩

/-- A counter of 64 bits hands out no id twice in fewer than 2 ^ 64 calls, whatever the kinds are. A
session that numbers its ids by decimal numerals hands out the ids of the counter that stands where
it does, as long as the numbers fit. The steps of starter graphs, the templates and the assignments
that a run makes get these ids, each one of them, so that no two of them have the same id. -/
theorem ids_neverRepeat :
    (∀ (counter : IdCounter) (kinds : List String), kinds.length < 2 ^ 64 →
      (counter.nextIds kinds).Nodup) ∧
    ∀ session : Session, session.services.idText = toString →
      (∀ kinds : List String, session.services.minted + kinds.length < 2 ^ 64 →
        (kinds.mapM mint).perform session =
          (.ok (session.services.counter.nextIds kinds), session.minting kinds.length)) ∧
      ∀ steps : List (Timestamp × Operation), (session.run steps).services.minted < 2 ^ 64 →
        (session.newIds steps).Nodup ∧
        ∃ kinds, session.newIds steps = session.services.counter.nextIds kinds ∧
          (session.run steps).services.minted = session.services.minted + kinds.length := by
  refine ⟨fun _ _ few => IdCounter.nodup_nextIds (Nat.le_of_lt few), ?_⟩
  intro session numerals
  constructor
  · intro kinds few
    rw [perform_mapM_mint, Services.idsAfter_eq_nextIds numerals few]
    rfl
  · intro steps few
    obtain ⟨kinds, handsOut⟩ := session.handsOut_run steps
    rw [handsOut.minted] at few
    have counted : session.newIds steps = session.services.counter.nextIds kinds :=
      handsOut.ids.trans (Services.idsAfter_eq_nextIds numerals few)
    refine ⟨?_, kinds, counted, handsOut.minted⟩
    rw [counted]
    exact IdCounter.nodup_nextIds (by omega)

/-- Kinds that look like ids themselves, and a run that creates a template, copies it and issues the
copy. -/
theorem ids_neverRepeat_dashes :
    let kinds := ["node", "node-2", "node-", "node"]
    let steps : List (Timestamp × Operation) :=
      [(.epoch, .template (.create "Intake" none)), (.epoch, .template (.duplicate "qtpl-5")),
        (.epoch, .assignment (.assign "qtpl-6" none none))]
    kinds.length < 2 ^ 64 ∧
      IdCounter.nextIds {} kinds = ["node-1", "node-2-2", "node--3", "node-4"] ∧
      (IdCounter.nextIds {} kinds).Nodup ∧
      Session.empty.services.idText = toString ∧
      (kinds.mapM mint).perform .empty =
        (.ok ["node-1", "node-2-2", "node--3", "node-4"], Session.empty.minting 4) ∧
      (Session.empty.run steps).services.minted < 2 ^ 64 ∧
      Session.empty.newIds steps =
        ["start-1", "section-2", "question-3", "end-4", "qtpl-5", "qtpl-6", "assign-7"] ∧
      (Session.empty.newIds steps).Nodup := by
  intro kinds steps
  have few : kinds.length < 2 ^ 64 := by decide
  have ids : IdCounter.nextIds {} kinds = ["node-1", "node-2-2", "node--3", "node-4"] := by
    decide +kernel
  have inRange : (Session.empty.run steps).services.minted < 2 ^ 64 := by decide +kernel
  obtain ⟨minted, made⟩ := ids_neverRepeat.2 .empty rfl
  refine ⟨few, ids, ids_neverRepeat.1 {} kinds few, rfl, ?_, inRange, by decide +kernel,
    (made steps inRange).1⟩
  rw [minted kinds (by decide), ← ids]
  rfl

end Questionnaire
