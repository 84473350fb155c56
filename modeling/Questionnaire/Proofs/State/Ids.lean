import Questionnaire.Proofs.State.Operation
import Std.Data.String.ToNat

/-!
# New ids

Ids are handed out by number. When different numbers have different texts and no template or
assignment has an id that is still to be handed out, no operation hands out an id twice, and this
stays so along every run.
-/

namespace Questionnaire

/-- The id of a kind with a number. -/
def Services.idOf (services : Services) (kind : String) (number : Nat) : String :=
  kind ++ "-" ++ services.idText number

theorem Services.nextId_eq (services : Services) (kind : String) :
    services.nextId kind = services.idOf kind (services.minted + 1) := rfl

/-- Decimal numerals hold nothing but digits. -/
theorem isDigit_of_mem_toString {number : Nat} {char : Char}
    (member : char ∈ (toString number).toList) : char.isDigit = true := by
  rw [Nat.toString_eq_repr, Nat.toList_repr] at member
  exact Nat.isDigit_of_mem_toDigits (by decide) (by decide) member

namespace Session

/-- No template and no assignment has an id that is still to be handed out. -/
structure IdsNew (session : Session) : Prop where
  distinct : ∀ first second,
    session.services.idText first = session.services.idText second → first = second
  templates : ∀ template ∈ session.state.templates, ∀ number, session.services.minted < number →
    template.id ≠ session.services.idOf "qtpl" number
  assignments : ∀ assignment ∈ session.state.assignments, ∀ number,
    session.services.minted < number → assignment.id ≠ session.services.idOf "assign" number

/-- The session of an empty state, whose ids are numbered by decimal numerals. -/
def empty : Session :=
  { state := .empty, services := { now := .epoch } }

theorem IdsNew.empty : empty.IdsNew where
  distinct _ _ same := Nat.repr_injective same
  templates _ member := absurd member List.not_mem_nil
  assignments _ member := absurd member List.not_mem_nil

theorem IdsNew.idOf_injective {session : Session} (new : session.IdsNew) {kind : String}
    {first second : Nat}
    (same : session.services.idOf kind first = session.services.idOf kind second) :
    first = second :=
  new.distinct first second ((String.append_right_inj _).1 same)

/-- The intake does not have an id that is handed out. -/
theorem intakeTemplateId_ne_idOf (services : Services) (number : Nat) :
    intakeTemplateId ≠ services.idOf "qtpl" number := by
  intro same
  have letters := congrArg String.toList same
  simp [intakeTemplateId, Services.idOf] at letters

variable {before after : Session} {operation : Operation}

theorem Effect.idText (effect : Effect before operation after) :
    after.services.idText = before.services.idText := by
  cases effect <;> rfl

theorem Effect.minted_le (effect : Effect before operation after) :
    before.services.minted ≤ after.services.minted := by
  cases effect <;>
    first
    | exact Nat.le_refl _
    | exact Nat.le_add_right _ _

/-- The id of a template is one from before, the one of the intake, or one handed out just now. -/
theorem Effect.template_id (effect : Effect before operation after) {template : Template}
    (member : template ∈ after.state.templates) :
    (∃ earlier ∈ before.state.templates, earlier.id = template.id) ∨
      template.id = intakeTemplateId ∨
      ∃ number, before.services.minted < number ∧ number ≤ after.services.minted ∧
        template.id = before.services.idOf "qtpl" number := by
  have revised {old new : Template} {id : String} (found : before.state.template? id = some old)
      (sameId : new.id = old.id) (member : template ∈ (before.withTemplate new).state.templates) :
      ∃ earlier ∈ before.state.templates, earlier.id = template.id := by
    rcases mem_modifyFirst member with inside | ⟨_, _, _, same⟩
    · exact ⟨template, inside, rfl⟩
    · exact ⟨old, List.mem_of_find?_eq_some found, by rw [same, sameId]⟩
  cases effect with
  | unchanged | assignmentIssued | assignmentRevised | responsesWritten =>
    exact .inl ⟨template, member, rfl⟩
  | templateAdded _ added earlier id _ =>
    rcases List.mem_cons.1 member with same | inside
    · refine .inr (.inr ⟨before.services.minted + earlier + 1, by omega, Nat.le_refl _, ?_⟩)
      rw [same, id, Services.nextId_eq]
      rfl
    · exact .inl ⟨template, inside, rfl⟩
  | templateArchived _ _ old found => exact .inl (revised found (by rfl) member)
  | templateStepped _ _ old new found sameId =>
    exact .inl (revised found sameId member)
  | templateDeleted => exact .inl ⟨template, (List.mem_filter.1 member).1, rfl⟩
  | intakeReplaced =>
    rcases List.mem_cons.1 member with same | inside
    · exact .inr (.inl (by rw [same]; rfl))
    · exact .inl ⟨template, (List.mem_filter.1 inside).1, rfl⟩

/-- An assignment has the id and the pin of one from before, or an id handed out just now. -/
theorem Effect.assignment_id (effect : Effect before operation after) {assignment : Assignment}
    (member : assignment ∈ after.state.assignments) :
    (∃ earlier ∈ before.state.assignments, earlier.id = assignment.id ∧
      earlier.templateId = assignment.templateId ∧
      earlier.templateVersion = assignment.templateVersion) ∨
    (after.services.minted = before.services.minted + 1 ∧
      assignment.id = before.services.idOf "assign" (before.services.minted + 1)) := by
  cases effect with
  | unchanged | templateAdded | templateArchived | templateStepped | templateDeleted
  | responsesWritten => exact .inl ⟨assignment, member, rfl, rfl, rfl⟩
  | assignmentIssued _ _ _ _ issued id =>
    rcases List.mem_cons.1 member with same | inside
    · exact .inr ⟨rfl, by rw [same, id]; rfl⟩
    · exact .inl ⟨assignment, inside, rfl, rfl, rfl⟩
  | assignmentRevised _ _ old new found sameId issuedFrom pinned =>
    rcases mem_modifyFirst member with inside | ⟨_, _, _, same⟩
    · exact .inl ⟨assignment, inside, rfl, rfl, rfl⟩
    · rw [same]
      exact .inl ⟨old, List.mem_of_find?_eq_some found, sameId.symm, issuedFrom.symm, pinned.symm⟩
  | intakeReplaced _ issued _ id =>
    rcases List.mem_cons.1 member with same | inside
    · exact .inr ⟨rfl, by rw [same, id]; rfl⟩
    · exact .inl ⟨assignment, (List.mem_filter.1 inside).1, rfl, rfl, rfl⟩

theorem Effect.idOf_eq (effect : Effect before operation after) (kind : String) (number : Nat) :
    after.services.idOf kind number = before.services.idOf kind number := by
  rw [Services.idOf, effect.idText, Services.idOf]

/-- No operation hands out an id twice. -/
theorem Effect.idsNew (effect : Effect before operation after) (new : before.IdsNew) :
    after.IdsNew where
  distinct first second same := by
    rw [effect.idText] at same
    exact new.distinct first second same
  templates template member number later := by
    rw [effect.idOf_eq]
    have unused : before.services.minted < number := Nat.lt_of_le_of_lt effect.minted_le later
    rcases effect.template_id member with ⟨earlier, inside, same⟩ | intake | ⟨own, _, upTo, same⟩
    · rw [← same]
      exact new.templates earlier inside number unused
    · rw [intake]
      exact intakeTemplateId_ne_idOf _ _
    · intro equal
      have numbers : own = number := new.idOf_injective (same.symm.trans equal)
      omega
  assignments assignment member number later := by
    rw [effect.idOf_eq]
    have unused : before.services.minted < number := Nat.lt_of_le_of_lt effect.minted_le later
    rcases effect.assignment_id member with ⟨earlier, inside, same, _⟩ | ⟨upTo, same⟩
    · rw [← same]
      exact new.assignments earlier inside number unused
    · intro equal
      have numbers : before.services.minted + 1 = number :=
        new.idOf_injective (same.symm.trans equal)
      omega

theorem IdsNew.atTime {session : Session} (new : session.IdsNew) (moment : Timestamp) :
    (session.atTime moment).IdsNew :=
  ⟨new.distinct, new.templates, new.assignments⟩

/-- New ids stay new along every run. -/
theorem IdsNew.run {session : Session} (new : session.IdsNew)
    (steps : List (Timestamp × Operation)) : (session.run steps).IdsNew := by
  induction steps generalizing session with
  | nil => exact new
  | cons step steps inductionHypothesis =>
    exact inductionHypothesis ((step.2.effect _).idsNew (new.atTime step.1))

end Session

end Questionnaire
