import Questionnaire.Proofs.State.Integrity

/-!
# Runs of routine operations

The routine operations are all those on templates, assignments and responses, the unchecked writing
of a response included. Only the replacement of the intake is not among them. What holds along their
runs is proved from `Session.RoutineEffect`, which lists all that one of them can do to a session.
-/

namespace Questionnaire

/-- A routine operation. -/
inductive RoutineOperation where
  | template (operation : TemplateOperation)
  | assignment (operation : AssignmentOperation)
  | response (operation : ResponseOperation)
  | upsertResponse (written : Response)

namespace RoutineOperation

/-- The action that an operation stands for, without its result. -/
def action : RoutineOperation → Action Unit
  | template operation => operation.action
  | assignment operation => operation.action
  | response operation => operation.action
  | upsertResponse written => Action.upsertResponse written

/-- The session after an operation, refused or not. -/
def perform (operation : RoutineOperation) (session : Session) : Session :=
  (operation.action.perform session).2

end RoutineOperation

namespace Session

/-- The session after a list of routine operations, each at a time of its own. -/
def runRoutine (session : Session) (steps : List (Timestamp × RoutineOperation)) : Session :=
  steps.foldl (fun session step => step.2.perform (session.atTime step.1)) session

@[simp] theorem runRoutine_nil (session : Session) : session.runRoutine [] = session := rfl

@[simp] theorem runRoutine_cons (session : Session) (step : Timestamp × RoutineOperation)
    (steps : List (Timestamp × RoutineOperation)) :
    session.runRoutine (step :: steps) =
      (step.2.perform (session.atTime step.1)).runRoutine steps := rfl

theorem runRoutine_append (session : Session) (first second : List (Timestamp × RoutineOperation)) :
    session.runRoutine (first ++ second) = (session.runRoutine first).runRoutine second :=
  List.foldl_append

/-- All that a routine operation can do to a session. -/
inductive RoutineEffect (before : Session) : Session → Prop where
  /-- What any operation can do that does not replace the intake. -/
  | performed (operation : Operation) (routine : ∀ catalog, operation ≠ .rehydrateIntake catalog)
      (after : Session) (effect : Effect before operation after) : RoutineEffect before after
  /-- Responses are written without any check. -/
  | responsesWritten (responses : ResponseTable) :
      RoutineEffect before (before.withResponses responses)

end Session

/-- Every routine operation has one of the effects. -/
theorem RoutineOperation.effect (operation : RoutineOperation) (session : Session) :
    session.RoutineEffect (operation.perform session) := by
  cases operation with
  | template operation =>
    exact .performed (.template operation) (fun _ => nofun) _ (operation.effect session)
  | assignment operation =>
    exact .performed (.assignment operation) (fun _ => nofun) _ (operation.effect session)
  | response operation =>
    exact .performed (.response operation) (fun _ => nofun) _ (operation.effect session)
  | upsertResponse written => exact .responsesWritten _

namespace Session

/-- No step of a run of routine operations hands out an id that a template or an assignment has. -/
def RoutineOnNewIds (session : Session) (steps : List (Timestamp × RoutineOperation)) : Prop :=
  ∀ done moment operation rest, steps = done ++ (moment, operation) :: rest →
    ((session.runRoutine done).atTime moment).MintsNew
      (operation.perform ((session.runRoutine done).atTime moment))

variable {session : Session} {moment : Timestamp} {operation : RoutineOperation}
  {done rest steps : List (Timestamp × RoutineOperation)}

theorem RoutineOnNewIds.head (new : session.RoutineOnNewIds ((moment, operation) :: steps)) :
    (session.atTime moment).MintsNew (operation.perform (session.atTime moment)) :=
  new [] moment operation steps rfl

theorem RoutineOnNewIds.tail (new : session.RoutineOnNewIds ((moment, operation) :: steps)) :
    (operation.perform (session.atTime moment)).RoutineOnNewIds steps := by
  intro done next after rest split
  exact new ((moment, operation) :: done) next after rest (congrArg _ split)

theorem RoutineOnNewIds.before (new : session.RoutineOnNewIds (done ++ rest)) :
    session.RoutineOnNewIds done := by
  intro earlier moment operation later split
  exact new earlier moment operation (later ++ rest) (by rw [split, List.append_assoc]; rfl)

theorem RoutineOnNewIds.after (new : session.RoutineOnNewIds (done ++ rest)) :
    (session.runRoutine done).RoutineOnNewIds rest := by
  intro earlier moment operation later split
  rw [← runRoutine_append]
  exact new (done ++ earlier) moment operation later (by rw [split, List.append_assoc])

/-- No routine operation hands out an id twice. -/
theorem RoutineEffect.idsNew {before after : Session} (effect : before.RoutineEffect after)
    (new : before.IdsNew) : after.IdsNew := by
  cases effect with
  | performed _ _ _ effect => exact effect.idsNew new
  | responsesWritten => exact ⟨new.distinct, new.templates, new.assignments⟩

/-- A session whose ids are new runs on new ids. -/
theorem IdsNew.routineOnNewIds (new : session.IdsNew)
    (steps : List (Timestamp × RoutineOperation)) : session.RoutineOnNewIds steps := by
  induction steps generalizing session with
  | nil =>
    intro done moment operation rest split
    exact absurd split (List.append_ne_nil_of_right_ne_nil _ (List.cons_ne_nil _ _)).symm
  | cons step steps inductionHypothesis =>
    have here := new.atTime step.1
    rintro (_ | ⟨first, done⟩) moment operation rest split
    · obtain ⟨rfl, _⟩ := List.cons.inj split
      exact ⟨fun template inside number later _ => here.templates template inside number later,
        fun assignment inside number later _ => here.assignments assignment inside number later⟩
    · obtain ⟨rfl, later⟩ := List.cons.inj split
      exact inductionHypothesis ((step.2.effect _).idsNew here) done moment operation rest later

end Session

end Questionnaire
