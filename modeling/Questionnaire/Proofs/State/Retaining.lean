import Mathlib.Data.List.Forall2
import Questionnaire.Proofs.State.RetitlingAgain
import Questionnaire.Proofs.Store.Settling

/-!
# What settling retains

Settling a state cleans titles, and replaces the intake at most once. All other entries are retained
in their order, with their title changed at most if it is to be cleaned. The state that settling
gives is read back from its document if the state before is, since settling adds no entry but the
intake and its assignment.
-/

namespace Questionnaire

section Collections

variable {α : Type} {title : α → String} {isMarked : α → Bool} {retitle : α → String → α}
  {items : List α}

/-- The entry is another one with a new title, which only a marked entry gets. -/
def IsRetitled (isMarked : α → Bool) (retitle : α → String → α) (before after : α) : Prop :=
  (∃ new, after = retitle before new) ∧ (isMarked before = false → after = before)

theorem IsRetitled.refl (same : ∀ item, retitle item (title item) = item) (item : α) :
    IsRetitled isMarked retitle item item :=
  ⟨⟨title item, (same item).symm⟩, fun _ => rfl⟩

theorem IsRetitled.trans (last : ∀ item first second,
      retitle (retitle item first) second = retitle item second)
    {before between after : α} (first : IsRetitled isMarked retitle before between)
    (second : IsRetitled isMarked retitle between after) :
    IsRetitled isMarked retitle before after := by
  obtain ⟨⟨between, rfl⟩, firstKept⟩ := first
  obtain ⟨⟨new, rfl⟩, secondKept⟩ := second
  refine ⟨⟨new, last _ _ _⟩, fun unmarked => ?_⟩
  have same := firstKept unmarked
  rw [same] at secondKept ⊢
  exact secondKept unmarked

/-- Entries that are not marked keep their titles, if the others get any. -/
theorem forall₂_isRetitled (same : ∀ item, retitle item (title item) = item) {titles : List String}
    (lengths : titles.length = items.length)
    (kept : ∀ entry ∈ items.zip titles, isMarked entry.1 = false → entry.2 = title entry.1) :
    List.Forall₂ (IsRetitled isMarked retitle) items (items.zipWith retitle titles) := by
  induction items generalizing titles with
  | nil => exact .nil
  | cons item rest inductionHypothesis =>
    cases titles with
    | nil => contradiction
    | cons new titles =>
      obtain ⟨here, later⟩ := List.forall_mem_cons.1 kept
      refine .cons ⟨⟨new, rfl⟩, fun unmarked => ?_⟩ (inductionHypothesis (Nat.succ.inj lengths) later)
      have sameTitle : new = title item := here unmarked
      rw [sameTitle, same]

/-- A pass over the titles of a collection retitles its entries. -/
theorem forall₂_dedupeTitles (same : ∀ item, retitle item (title item) = item) :
    List.Forall₂ (IsRetitled isMarked retitle) items
      (items.zipWith retitle (dedupeTitles (markedTitles title isMarked items))) :=
  forall₂_isRetitled same (by simp) title_of_unmarked_item

end Collections

/-- The template is another one with a new title, which only one that is to be cleaned gets. -/
def Template.IsRetitled : Template → Template → Prop :=
  Questionnaire.IsRetitled Template.needsTitle fun template title => { template with title }

/-- The assignment is another one with a new title, which only one that is to be cleaned gets. -/
def Assignment.IsRetitled : Assignment → Assignment → Prop :=
  Questionnaire.IsRetitled (fun assignment => hasCopyMark assignment.title)
    fun assignment title => { assignment with title }

instance : Std.Refl Template.IsRetitled := ⟨.refl fun _ => rfl⟩

instance : IsTrans Template Template.IsRetitled where
  trans _ _ _ first second := Questionnaire.IsRetitled.trans (by intros; rfl) first second

instance : Std.Refl Assignment.IsRetitled := ⟨.refl fun _ => rfl⟩

instance : IsTrans Assignment Assignment.IsRetitled where
  trans _ _ _ first second := Questionnaire.IsRetitled.trans (by intros; rfl) first second

namespace State

/-- Everything of a state is found in another one, in its order and up to clean titles. -/
structure Retains (before after : State) : Prop where
  /-- The templates are retained. -/
  templates : List.SublistForall₂ Template.IsRetitled before.templates after.templates
  /-- The assignments are retained. -/
  assignments : List.SublistForall₂ Assignment.IsRetitled before.assignments after.assignments
  /-- The responses are retained as they are. -/
  responses : before.responses.Sublist after.responses
  /-- The document of the first schema is the same. -/
  archivedV1 : after.archivedV1 = before.archivedV1

theorem Retains.refl (state : State) : state.Retains state :=
  ⟨Std.Refl.refl _, Std.Refl.refl _, .refl _, rfl⟩

theorem Retains.trans {before between after : State} (first : before.Retains between)
    (second : between.Retains after) : before.Retains after where
  templates := IsTrans.trans _ _ _ first.templates second.templates
  assignments := IsTrans.trans _ _ _ first.assignments second.assignments
  responses := first.responses.trans second.responses
  archivedV1 := second.archivedV1.trans first.archivedV1

theorem retains_normalizeTitles (state : State) : state.Retains state.normalizeTitles.2 where
  templates := by
    rw [templates_normalizeTitles]
    exact List.sublistForall₂_iff.2 ⟨_, forall₂_dedupeTitles fun _ => rfl, .refl _⟩
  assignments := by
    rw [assignments_normalizeTitles]
    exact List.sublistForall₂_iff.2 ⟨_, forall₂_dedupeTitles fun _ => rfl, .refl _⟩
  responses := .refl _
  archivedV1 := rfl

/-! ## The intake -/

/-- The state without the intake, its assignments and their responses. -/
def withoutIntake (state : State) : State :=
  let dropped := state.intakeAssignmentIds
  { state with
    templates := state.templates.filter fun template => template.id != intakeTemplateId
    assignments := state.assignments.filter fun assignment => !dropped.contains assignment.id
    responses := state.responses.filter fun response => !dropped.contains response.assignmentId }

/-- The state with another intake, which is issued, in place of the old one. -/
def withIntake (state : State) (intake : Template) (issued : Assignment) : State :=
  { state.withoutIntake with
    templates := intake :: state.withoutIntake.templates
    assignments := issued :: state.withoutIntake.assignments }

/-- What settling retains of a state: everything, unless the intake has to be replaced. -/
def lasting (state : State) (catalog : Catalog) (keepsIntake : Bool) : State :=
  if keepsIntake && !state.hasHydratedIntake catalog then state.withoutIntake else state

theorem withoutIntake_retains (state : State) : state.withoutIntake.Retains state where
  templates := List.filter_sublist.sublistForall₂
  assignments := List.filter_sublist.sublistForall₂
  responses := List.filter_sublist
  archivedV1 := rfl

theorem lasting_retains (state : State) (catalog : Catalog) (keepsIntake : Bool) :
    (state.lasting catalog keepsIntake).Retains state := by
  rw [lasting]
  split
  · exact state.withoutIntake_retains
  · exact .refl state

end State

namespace Session

variable {session : Session} {catalog : Catalog} {keepsIntake : Bool}

/-- An intake that has to be replaced makes room for a fresh one, which is issued. -/
theorem rehydrated_of_needsIntake (needs : session.needsIntake catalog keepsIntake = true) :
    ∃ issued, (session.rehydrated catalog keepsIntake).state =
      session.state.withIntake (intakeTemplate catalog session.services.now) issued := by
  obtain ⟨rfl, absent⟩ := Bool.and_eq_true_iff.1 needs
  have dehydrated : session.state.hasHydratedIntake catalog = false := by simpa using absent
  rw [rehydrated, if_pos rfl, Action.perform_rehydrateIntake, dehydrated,
    if_neg Bool.false_ne_true]
  exact ⟨_, rfl⟩

theorem retains_rehydrated (session : Session) (catalog : Catalog) (keepsIntake : Bool) :
    (session.state.lasting catalog keepsIntake).Retains
      (session.rehydrated catalog keepsIntake).state := by
  cases needs : session.needsIntake catalog keepsIntake with
  | false =>
    rw [rehydrated_of_hydrated needs]
    exact session.state.lasting_retains catalog keepsIntake
  | true =>
    obtain ⟨issued, rehydrated⟩ := rehydrated_of_needsIntake needs
    have lasting : session.state.lasting catalog keepsIntake = session.state.withoutIntake :=
      if_pos needs
    rw [rehydrated, lasting]
    exact ⟨.cons_right (Std.Refl.refl _), .cons_right (Std.Refl.refl _), .refl _, rfl⟩

end Session

namespace State

variable {start state : State} {catalog : Catalog} {keepsIntake : Bool}

/-- The states that come of settling a state again and again, each time with any services. -/
inductive SettlesTo (catalog : Catalog) (keepsIntake : Bool) (start : State) : State → Prop where
  /-- The state itself. -/
  | same : SettlesTo catalog keepsIntake start start
  /-- The state is settled once more. -/
  | settle {state : State} (services : Services) (reached : SettlesTo catalog keepsIntake start state) :
    SettlesTo catalog keepsIntake start
      (Session.rehydrated { state, services } catalog keepsIntake).retitled.state

/-- The intake is replaced by the first settling at most, so that everything else is retained. -/
theorem SettlesTo.retains (settles : start.SettlesTo catalog keepsIntake state) :
    (start.lasting catalog keepsIntake).Retains state := by
  suffices retained : state = start ∨
      (keepsIntake = true → state.hasHydratedIntake catalog = true) ∧
        (start.lasting catalog keepsIntake).Retains state by
    rcases retained with rfl | ⟨_, retains⟩
    · exact state.lasting_retains catalog keepsIntake
    · exact retains
  induction settles with
  | same => exact .inl rfl
  | @settle state services _ inductionHypothesis =>
    right
    constructor
    · rintro rfl
      exact (hasHydratedIntake_normalizeTitles _ catalog).trans
        (Session.hasHydratedIntake_rehydrated { state, services } catalog)
    · refine .trans ?_ (retains_normalizeTitles _)
      rcases inductionHypothesis with rfl | ⟨hydrated, retains⟩
      · exact Session.retains_rehydrated { state, services } catalog keepsIntake
      · -- The intake carries the catalog since the first settling, so it stays.
        have needless :
            Session.needsIntake { state, services } catalog keepsIntake = false := by
          cases keepsIntake with
          | false => rfl
          | true => simp [Session.needsIntake, hydrated rfl]
        rwa [Session.rehydrated_of_hydrated needless]

/-! ## Reading back -/

/-- New titles do not change the numbers of templates. -/
theorem numbers_of_retitled {before after : List Template}
    (retitled : List.Forall₂ Template.IsRetitled before after) :
    after.flatMap Template.numbers = before.flatMap Template.numbers := by
  induction retitled with
  | nil => rfl
  | cons isRetitled _ inductionHypothesis =>
    obtain ⟨⟨title, rfl⟩, _⟩ := isRetitled
    rw [List.flatMap_cons, List.flatMap_cons, inductionHypothesis]
    rfl

theorem IsReadBack.normalizeTitles (whole : state.IsReadBack) :
    state.normalizeTitles.2.IsReadBack where
  templates := templates_normalizeTitles_ne_nil whole.templates
  kept := ⟨whole.kept.schema, whole.kept.responses, whole.kept.archived⟩
  numbers := by
    have same : state.normalizeTitles.2.numbers = state.numbers := by
      have templates : state.normalizeTitles.2.templates.flatMap Template.numbers =
          state.templates.flatMap Template.numbers := by
        rw [templates_normalizeTitles]
        exact numbers_of_retitled (forall₂_dedupeTitles fun _ => rfl)
      exact congrArg (· ++ state.responses.flatMap Response.numbers) templates
    rw [same]
    exact whole.numbers
  archived := whole.archived

theorem IsReadBack.withIntake (whole : state.IsReadBack)
    (intake : ∀ number ∈ catalog.intakeGraph.numbers, number.IsReadBack) (now : Timestamp)
    (issued : Assignment) :
    (state.withIntake (intakeTemplate catalog now) issued).IsReadBack where
  templates := List.cons_ne_nil _ _
  kept := by
    refine ⟨whole.kept.schema, fun response inside => ?_, whole.kept.archived⟩
    exact whole.kept.responses response (List.mem_filter.1 inside).1
  numbers := by
    obtain ⟨templates, responses⟩ := forall_mem_numbers_iff.1 whole.numbers
    refine forall_mem_numbers_iff.2 ⟨List.forall_mem_cons.2 ⟨?_, ?_⟩, ?_⟩
    · rw [show (intakeTemplate catalog now).numbers = catalog.intakeGraph.numbers ++ [] from rfl,
        List.append_nil]
      exact intake
    · exact fun template inside => templates template (List.mem_filter.1 inside).1
    · exact fun response inside => responses response (List.mem_filter.1 inside).1
  archived := whole.archived

/-- Settling a state that is read back gives such a state. -/
theorem SettlesTo.isReadBack (settles : start.SettlesTo catalog keepsIntake state)
    (whole : start.IsReadBack)
    (intake : keepsIntake = true → ∀ number ∈ catalog.intakeGraph.numbers, number.IsReadBack) :
    state.IsReadBack := by
  induction settles with
  | same => exact whole
  | @settle state services _ inductionHypothesis =>
    refine IsReadBack.normalizeTitles ?_
    cases needs : Session.needsIntake { state, services } catalog keepsIntake with
    | false =>
      rw [Session.rehydrated_of_hydrated needs]
      exact inductionHypothesis
    | true =>
      obtain ⟨issued, rehydrated⟩ := Session.rehydrated_of_needsIntake needs
      rw [rehydrated]
      exact inductionHypothesis.withIntake (intake (Bool.and_eq_true_iff.1 needs).1) _ issued

end State

end Questionnaire
