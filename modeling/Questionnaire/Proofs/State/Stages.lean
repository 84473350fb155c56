import Questionnaire.Proofs.State.Routine

/-!
# The trail of stages

Whatever routine operations run, the stage of an assignment never falls back, and the reported moves
of the assignment lead, one after the other, from the stage it had to the stage it has. An
assignment that is issued on the way begins with the first stage. A stage that follows from progress
or from a status of the intake form is never refused, since it is taken no lower than the stage
recorded.
-/

namespace Questionnaire

/-- The move between stages that an event reports of an assignment. -/
def Event.move? (id : String) : Event → Option (Stage × Stage)
  | .stageChanged assignmentId previous next =>
    if assignmentId = id then some (previous, next) else none
  | _ => none

/-- The moves that events report of an assignment, in order. -/
def stageMoves (id : String) (events : List Event) : List (Stage × Stage) :=
  events.filterMap (Event.move? id)

theorem stageMoves_append (id : String) (earlier later : List Event) :
    stageMoves id (earlier ++ later) = stageMoves id earlier ++ stageMoves id later :=
  List.filterMap_append

namespace Stage

/-- Each move begins where the one before ended and leads to a higher rank, all of them together
from the first stage to the last. -/
def Climbs : Stage → List (Stage × Stage) → Stage → Prop
  | first, [], last => first = last
  | first, (previous, next) :: moves, last =>
    previous = first ∧ previous.rank < next.rank ∧ next.Climbs moves last

variable {first middle last : Stage} {earlier later : List (Stage × Stage)}

theorem Climbs.append (front : first.Climbs earlier middle) (back : middle.Climbs later last) :
    first.Climbs (earlier ++ later) last := by
  induction earlier generalizing first with
  | nil => exact front ▸ back
  | cons move moves inductionHypothesis =>
    obtain ⟨begins, higher, rest⟩ := front
    exact ⟨begins, higher, inductionHypothesis rest⟩

theorem Climbs.rank_le (climbs : first.Climbs earlier last) : first.rank ≤ last.rank := by
  induction earlier generalizing first with
  | nil => exact Nat.le_of_eq (congrArg rank climbs)
  | cons move moves inductionHypothesis =>
    obtain ⟨rfl, higher, rest⟩ := climbs
    exact Nat.le_trans (Nat.le_of_lt higher) (inductionHypothesis rest)

theorem rank_le_max (left right : Stage) : right.rank ≤ (left.max right).rank := by
  rw [max]
  split
  · exact Nat.le_refl _
  · omega

end Stage

/-- The stage that follows from the responses is no lower than the stage recorded. -/
theorem Assignment.rank_le_progress (assignment : Assignment) (template : Option Template)
    (responses : List Response) (catalog : Catalog) :
    assignment.stage.rank ≤ (assignment.progress template responses catalog).stage.rank := by
  rw [progress]
  split
  · exact Nat.le_refl _
  · exact Stage.rank_le_max _ _

namespace Action

/-- A move to no lower rank is not refused as a downgrade. -/
theorem setStage_ne_downgrade {session : Session} {id : String} {stage : Stage}
    {assignment : Assignment} (found : session.state.assignment? id = some assignment)
    (forward : assignment.stage.rank ≤ stage.rank) (downgrade : StageDowngrade) :
    ((setStage id stage).perform session).1 ≠ .error (.downgrade downgrade) := by
  rw [perform_setStage, found]
  dsimp only
  rw [if_pos forward]
  split <;> exact nofun

/-- Passing on the outcome of a move adds no refusal. -/
theorem ne_downgrade_of_move {α : Type} {move : Except StoreError Stage × Session}
    {downgrade : StageDowngrade} (value : α) (moved : move.1 ≠ .error (.downgrade downgrade)) :
    (match move with
      | (.ok _, after) => (Except.ok value, after)
      | (.error error, after) => (.error error, after)).1 ≠ .error (.downgrade downgrade) := by
  obtain ⟨outcome, after⟩ := move
  cases outcome with
  | ok stage => exact nofun
  | error error => exact fun same => moved (congrArg Except.error (Except.error.inj same))

theorem refreshStage_ne_downgrade (catalog : Catalog) (id : String) (session : Session)
    (downgrade : StageDowngrade) :
    ((refreshStage catalog id).perform session).1 ≠ .error (.downgrade downgrade) := by
  rw [perform_refreshStage]
  cases found : session.state.assignment? id with
  | none => exact nofun
  | some assignment =>
    have forward := assignment.rank_le_progress (session.state.templateOf? assignment)
      session.state.responses catalog
    exact ne_downgrade_of_move _ (setStage_ne_downgrade found forward downgrade)

theorem updateStatus_ne_downgrade (id : String) (status : FormStatus) (session : Session)
    (downgrade : StageDowngrade) :
    ((updateStatus id status).perform session).1 ≠ .error (.downgrade downgrade) := by
  rw [perform_updateStatus]
  cases found : session.state.assignment? id with
  | none => exact nofun
  | some assignment =>
    have forward := Stage.rank_le_max status.toStage assignment.stage
    exact ne_downgrade_of_move _ (setStage_ne_downgrade found forward downgrade)

end Action

namespace Session

/-- The stage of the assignment with the id; the first one while there is none. -/
def stageOf (session : Session) (id : String) : Stage :=
  ((session.state.assignment? id).map Assignment.stage).getD .assigned

/-- The events reported between two sessions account for every stage, and no assignment went. -/
structure Trail (before after : Session) (reported : List Event) : Prop where
  events : after.services.events = before.services.events ++ reported
  climbs : ∀ id, (before.stageOf id).Climbs (stageMoves id reported) (after.stageOf id)
  kept : ∀ id, (before.state.assignment? id).isSome = true →
    (after.state.assignment? id).isSome = true
  distinct : (before.state.assignments.map Assignment.id).Nodup →
    (after.state.assignments.map Assignment.id).Nodup

variable {before middle after : Session} {reported earlier later : List Event}

/-- While the assignments stay, nothing has to be accounted for. -/
theorem Trail.of_same (events : after.services.events = before.services.events ++ reported)
    (same : after.state.assignments = before.state.assignments)
    (silent : ∀ id, stageMoves id reported = []) : Trail before after reported where
  events
  climbs id := by
    rw [silent, stageOf, stageOf, State.assignment?, State.assignment?, same]
    rfl
  kept id found := by rwa [State.assignment?, same]
  distinct := by rw [same]; exact id

theorem Trail.trans (first : Trail before middle earlier) (second : Trail middle after later) :
    Trail before after (earlier ++ later) where
  events := by rw [second.events, first.events, List.append_assoc]
  climbs id := by
    rw [stageMoves_append]
    exact (first.climbs id).append (second.climbs id)
  kept id found := second.kept id (first.kept id found)
  distinct isDistinct := second.distinct (first.distinct isDistinct)

/-- A new assignment begins with the first stage. -/
theorem Trail.addAssignment {assignment : Assignment}
    (isNew : ∀ other ∈ before.state.assignments, other.id ≠ assignment.id)
    (stage : assignment.stage = .assigned)
    (same : middle.state.assignments = before.state.assignments)
    (events : middle.services.events = before.services.events) :
    Trail before (middle.addAssignment assignment)
      [.assignmentCreated assignment.id assignment.templateId assignment.templateVersion] where
  events := congrArg (· ++ _) events
  climbs id := by
    change (before.stageOf id).Climbs [] _
    simp only [stageOf, State.assignment?, Session.addAssignment, same]
    by_cases own : assignment.id = id
    · subst own
      have absent : before.state.assignments.find? (fun other => other.id == assignment.id) =
          none := List.find?_eq_none.2 fun other inside matched =>
        isNew other inside (eq_of_beq matched)
      have found : (assignment :: before.state.assignments).find?
          (fun other => other.id == assignment.id) = some assignment :=
        List.find?_cons_of_pos (beq_self_eq_true _)
      rw [absent, found, Option.map_some, Option.getD_some, stage]
      rfl
    · rw [find?_cons_of_ne Assignment.id _ own]
      rfl
  kept id found := by
    rw [State.isSome_assignment?_iff] at found ⊢
    exact List.mem_cons_of_mem _ (same ▸ found)
  distinct isDistinct := nodup_map_cons (fun other inside => isNew other (same ▸ inside))
    (same ▸ isDistinct)

/-- A revised assignment is found in the place of the one before. -/
theorem assignment?_withAssignment {assignment revised : Assignment} {own : String}
    (found : before.state.assignment? own = some assignment) (sameId : revised.id = own)
    (id : String) :
    (before.withAssignment revised).state.assignment? id =
      if id = own then some revised else before.state.assignment? id := by
  subst sameId
  simp only [State.assignment?, withAssignment]
  rw [find?_modifyFirst Assignment.id revised.id id fun _ _ => rfl]
  simp only [beq_iff_eq]
  split
  · rw [← State.assignment?, found, Option.map_some]
  · rfl

/-- A move to a higher rank is reported, and nothing else moves a stage. -/
theorem Trail.withAssignment {assignment revised : Assignment} {own : String}
    (found : before.state.assignment? own = some assignment) (sameId : revised.id = own)
    (moved : (revised.recordedStage = assignment.recordedStage ∧ reported = []) ∨
      (assignment.stage.rank < revised.stage.rank ∧
        reported = [.stageChanged own assignment.stage revised.stage])) :
    Trail before ((before.withAssignment revised).reportingAll reported) reported where
  events := rfl
  climbs id := by
    change (before.stageOf id).Climbs _ ((before.withAssignment revised).stageOf id)
    simp only [stageOf, assignment?_withAssignment found sameId]
    by_cases here : id = own
    · subst here
      rw [if_pos rfl, found]
      rcases moved with ⟨same, rfl⟩ | ⟨higher, rfl⟩
      · exact congrArg (Option.getD · .assigned) same.symm
      · simp only [stageMoves, List.filterMap_cons, Event.move?, if_true, List.filterMap_nil]
        exact ⟨rfl, higher, rfl⟩
    · rw [if_neg here]
      rcases moved with ⟨_, rfl⟩ | ⟨_, rfl⟩
      · rfl
      · simp only [stageMoves, List.filterMap_cons, Event.move?, if_neg (Ne.symm here),
          List.filterMap_nil]
        rfl
  kept id isSome := by
    change ((before.withAssignment revised).state.assignment? id).isSome = true
    rw [assignment?_withAssignment found sameId]
    split
    · rfl
    · exact isSome
  distinct isDistinct := by
    change ((before.withAssignment revised).state.assignments.map Assignment.id).Nodup
    rw [Session.withAssignment, map_modifyFirst Assignment.id]
    · exact isDistinct
    · exact fun other matched => (eq_of_beq matched).symm

/-- The events that a routine operation reports account for every stage. -/
theorem RoutineEffect.trail (effect : before.RoutineEffect after) (new : before.MintsNew after) :
    ∃ reported, Trail before after reported := by
  cases effect with
  | responsesWritten responses => exact ⟨[], .of_same (List.append_nil _).symm rfl fun _ => rfl⟩
  | performed operation routine after effect =>
    cases effect with
    | unchanged | templateArchived | templateDeleted | responsesWritten =>
      exact ⟨[], .of_same (List.append_nil _).symm rfl fun _ => rfl⟩
    | templateAdded => exact ⟨_, .of_same rfl rfl fun _ => rfl⟩
    | templateStepped _ id _ _ _ _ _ _ _ _ _ events publications =>
      refine ⟨events, .of_same rfl rfl fun other => List.filterMap_eq_nil_iff.2 ?_⟩
      intro event inside
      obtain ⟨version, rfl⟩ := publications event inside
      rfl
    | assignmentIssued _ _ _ _ assignment id _ _ stage =>
      have isNew : ∀ other ∈ before.state.assignments, other.id ≠ assignment.id := by
        intro other inside
        rw [id, Services.nextId_eq]
        exact new.assignments other inside _ (Nat.lt_succ_self _) (Nat.le_refl _)
      have first : assignment.stage = .assigned := by rw [Assignment.stage, stage]; rfl
      have minted : (before.minting 1).state.assignments = before.state.assignments := rfl
      exact ⟨_, .addAssignment isNew first minted rfl⟩
    | assignmentRevised _ id assignment revised found sameId _ _ events moved =>
      have matched := List.find?_some found
      exact ⟨events, .withAssignment found (sameId.trans (eq_of_beq matched)) moved⟩
    | intakeReplaced catalog => exact absurd rfl (routine catalog)

/-- The events that a run of routine operations reports account for every stage. -/
theorem trail_runRoutine {session : Session} {steps : List (Timestamp × RoutineOperation)}
    (new : session.RoutineOnNewIds steps) :
    ∃ reported, Trail session (session.runRoutine steps) reported := by
  induction steps generalizing session with
  | nil => exact ⟨[], .of_same (List.append_nil _).symm rfl fun _ => rfl⟩
  | cons step steps inductionHypothesis =>
    obtain ⟨moment, operation⟩ := step
    obtain ⟨earlier, first⟩ := (operation.effect (session.atTime moment)).trail new.head
    obtain ⟨later, second⟩ := inductionHypothesis new.tail
    have here : Trail session (operation.perform (session.atTime moment)) earlier :=
      ⟨first.events, first.climbs, first.kept, first.distinct⟩
    exact ⟨earlier ++ later, here.trans second⟩

/-- The stage of an assignment that is there is the one that is found under its id. -/
theorem stageOf_eq {session : Session} {assignment : Assignment}
    (distinct : (session.state.assignments.map Assignment.id).Nodup)
    (inside : assignment ∈ session.state.assignments) :
    session.stageOf assignment.id = assignment.stage := by
  rw [stageOf, State.assignment?, find?_of_distinct distinct inside]
  rfl

/-- Between any two moments of a run of routine operations on new ids, no assignment goes and no
stage falls back. The moves reported of an assignment lead from the stage that it had, or from the
first stage if it was issued in between, to the stage that it has. In no session is a stage refused
that follows from progress or from a status of the intake form. -/
theorem stages_runRoutine {session : Session}
    (distinct : (session.state.assignments.map Assignment.id).Nodup)
    {done rest : List (Timestamp × RoutineOperation)}
    (new : session.RoutineOnNewIds (done ++ rest)) :
    let earlier := session.runRoutine done
    let later := session.runRoutine (done ++ rest)
    (∃ reported, later.services.events = earlier.services.events ++ reported ∧
      (later.state.assignments.map Assignment.id).Nodup ∧
      (∀ assignment ∈ earlier.state.assignments, ∃ last ∈ later.state.assignments,
        last.id = assignment.id ∧ assignment.stage.rank ≤ last.stage.rank ∧
          assignment.stage.Climbs (stageMoves assignment.id reported) last.stage) ∧
      ∀ last ∈ later.state.assignments,
        last.id ∉ earlier.state.assignments.map Assignment.id →
          Stage.assigned.Climbs (stageMoves last.id reported) last.stage) ∧
    ∀ (any : Session) (id : String) (downgrade : StageDowngrade),
      (∀ catalog, ((Action.refreshStage catalog id).perform any).1 ≠
        .error (.downgrade downgrade)) ∧
      ∀ status, ((Action.updateStatus id status).perform any).1 ≠
        .error (.downgrade downgrade) := by
  intro earlier later
  refine ⟨?_, fun any id downgrade =>
    ⟨fun catalog => Action.refreshStage_ne_downgrade catalog id any downgrade,
      fun status => Action.updateStatus_ne_downgrade id status any downgrade⟩⟩
  obtain ⟨_, begun⟩ := trail_runRoutine new.before
  obtain ⟨reported, trail⟩ := trail_runRoutine new.after
  rw [← runRoutine_append] at trail
  have distinctEarlier := begun.distinct distinct
  have distinctLater := trail.distinct distinctEarlier
  refine ⟨reported, trail.events, distinctLater, ?_, ?_⟩
  · intro assignment inside
    have found : (earlier.state.assignment? assignment.id).isSome = true :=
      State.isSome_assignment?_iff.2 (List.mem_map_of_mem inside)
    obtain ⟨last, lastInside, sameId⟩ :=
      List.mem_map.1 (State.isSome_assignment?_iff.1 (trail.kept _ found))
    have climbs := trail.climbs assignment.id
    rw [stageOf_eq distinctEarlier inside, ← sameId, stageOf_eq distinctLater lastInside] at climbs
    exact ⟨last, lastInside, sameId, climbs.rank_le, sameId ▸ climbs⟩
  · intro last inside isNew
    have absent : earlier.stageOf last.id = .assigned := by
      have missing : earlier.state.assignment? last.id = none := by
        rw [← Option.not_isSome_iff_eq_none, State.isSome_assignment?_iff]
        exact isNew
      rw [stageOf, missing]
      rfl
    have climbs := trail.climbs last.id
    rwa [absent, stageOf_eq distinctLater inside] at climbs

/-- An assignment is answered and then cleared again. Its stage follows the answer, stays when the
answer goes and a lower stage is asked for, and ends closed; both moves are reported. -/
theorem stages_runRoutine_cleared :
    let done : List (Timestamp × RoutineOperation) :=
      [(.epoch, .template (.create "Intake" none)), (.epoch, .assignment (.assign "qtpl-5" none none))]
    let rest : List (Timestamp × RoutineOperation) :=
      [(.epoch, .response (.recordAnswer "assign-6" "question-3" (.bool true))),
        (.epoch, .assignment (.refreshStage [] "assign-6")),
        (.epoch, .response (.clear "assign-6")),
        (.epoch, .assignment (.refreshStage [] "assign-6")),
        (.epoch, .assignment (.setStage "assign-6" .inProgress)),
        (.epoch, .assignment (.setStage "assign-6" .closed)),
        (.epoch, .assignment (.updateStatus "assign-6" .inProgress))]
    (empty.state.assignments.map Assignment.id).Nodup ∧ empty.RoutineOnNewIds (done ++ rest) ∧
      ∃ reported, (empty.runRoutine (done ++ rest)).services.events =
          (empty.runRoutine done).services.events ++ reported ∧
        stageMoves "assign-6" reported = [(.assigned, .submitted), (.submitted, .closed)] ∧
        ∃ last ∈ (empty.runRoutine (done ++ rest)).state.assignments,
          last.id = "assign-6" ∧ last.stage = .closed := by
  intro done rest
  have distinct : (empty.state.assignments.map Assignment.id).Nodup := List.nodup_nil
  have new := IdsNew.empty.routineOnNewIds (done ++ rest)
  obtain ⟨⟨reported, events, _, kept, _⟩, _⟩ := stages_runRoutine distinct new
  have moves : stageMoves "assign-6" reported =
      [(.assigned, .submitted), (.submitted, .closed)] := by
    have all := congrArg (stageMoves "assign-6") events
    have earlier : stageMoves "assign-6" (empty.runRoutine done).services.events = [] := by
      decide +kernel
    rw [stageMoves_append, earlier, List.nil_append] at all
    rw [← all]
    decide +kernel
  have issued : .issue "assign-6" "qtpl-5" 1 "Intake" .epoch ∈
      (empty.runRoutine done).state.assignments := by decide +kernel
  obtain ⟨last, inside, sameId, _, climbs⟩ := kept _ issued
  rw [Assignment.issue, moves] at climbs
  obtain ⟨_, _, _, _, closed⟩ := climbs
  exact ⟨distinct, new, reported, events, moves, last, inside, sameId, closed.symm⟩

end Session

end Questionnaire
