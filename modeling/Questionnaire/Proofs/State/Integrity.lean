import Questionnaire.Proofs.Migration.Ids
import Questionnaire.Proofs.State.Pinned

/-!
# Referential integrity

In an intact state ids are distinct and every reference resolves: the active number of a template,
the template and the version of an assignment, and the assignment of a response. The states that a
store starts with are intact, and every operation keeps a state so as long as no id is handed out
that is in use.
-/

namespace Questionnaire

/-- Ids are distinct and references resolve. -/
structure State.IsIntact (state : State) : Prop where
  /-- No two templates have one id. -/
  templateIds : (state.templates.map Template.id).Nodup
  /-- No two assignments have one id. -/
  assignmentIds : (state.assignments.map Assignment.id).Nodup
  /-- The active number of a template is the number of a version. -/
  active : ∀ template ∈ state.templates, template.active?.isSome = true
  /-- The template of an assignment is there and has the version that was issued. -/
  pinned : ∀ assignment ∈ state.assignments,
    ((state.templateOf? assignment).bind fun template =>
      template.version? assignment.templateVersion).isSome = true
  /-- The assignment of a response is there. -/
  owned : ∀ response ∈ state.responses, (state.assignment? response.assignmentId).isSome = true

/-! ## Steps of a history -/

theorem Template.isSome_version?_iff {template : Template} {number : UInt32} :
    (template.version? number).isSome = true ↔
      ∃ version ∈ template.versions, version.number = number := by
  simp [version?, List.find?_isSome]

/-- A step leaves a resolving active number or makes one active that resolves, even where the
numbers of 32 bits start again. -/
theorem HistoryStep.isSome_active?_apply {template : Template} (step : HistoryStep)
    (resolves : template.active?.isSome = true) :
    (step.apply template).active?.isSome = true := by
  rw [Template.active?, Template.isSome_version?_iff] at resolves ⊢
  cases step.effect template with
  | kept versions active _ =>
    rw [versions]
    rcases active with same | found
    · rwa [same]
    · exact Template.isSome_version?_iff.1 found
  | replaced graph now draft _ found _ versions active _ =>
    rw [active, ← Template.isSome_version?_iff, Template.version?_replaced _ versions,
      if_pos (beq_self_eq_true _), found]
    rfl
  | appended version _ versions active _ =>
    rw [versions, active]
    exact ⟨version, List.mem_append_right _ List.mem_cons_self, rfl⟩

/-- The intake is found after it was replaced. -/
theorem State.template?_replaceIntake {state : State} {intake : Template}
    (sameId : intake.id = intakeTemplateId) :
    (state.replaceIntake intake).template? intakeTemplateId = some intake :=
  List.find?_cons_of_pos (beq_iff_eq.2 sameId)

namespace State.IsIntact

variable {state : State} {session : Session}

/-- The template of an assignment is one of the state. -/
theorem exists_template (intact : state.IsIntact) {assignment : Assignment}
    (issued : assignment ∈ state.assignments) :
    ∃ template ∈ state.templates, template.id = assignment.templateId := by
  obtain ⟨version, found⟩ := Option.isSome_iff_exists.1 (intact.pinned assignment issued)
  obtain ⟨template, isFound, _⟩ := Option.bind_eq_some_iff.1 found
  exact ⟨template, List.mem_of_find?_eq_some isFound, Session.template?_id isFound⟩

/-! ## Templates -/

theorem addTemplate (intact : state.IsIntact) {template : Template}
    (isNew : ∀ other ∈ state.templates, other.id ≠ template.id)
    (active : template.active?.isSome = true) :
    IsIntact { state with templates := template :: state.templates } where
  templateIds := nodup_map_cons isNew intact.templateIds
  assignmentIds := intact.assignmentIds
  active := List.forall_mem_cons.2 ⟨active, intact.active⟩
  pinned assignment issued := by
    obtain ⟨owner, inside, same⟩ := intact.exists_template issued
    have apart : template.id ≠ assignment.templateId := by
      rw [← same]
      exact (isNew owner inside).symm
    rw [templateOf?, template?, find?_cons_of_ne Template.id _ apart]
    exact intact.pinned assignment issued
  owned := intact.owned

/-- A template may be replaced by one with its id in which all of its numbers resolve. -/
theorem withTemplate (intact : session.state.IsIntact) {id : String} {template revised : Template}
    (found : session.state.template? id = some template) (sameId : revised.id = template.id)
    (active : revised.active?.isSome = true)
    (kept : ∀ number, (template.version? number).isSome = true →
      (revised.version? number).isSome = true) :
    (session.withTemplate revised).state.IsIntact where
  templateIds := by
    rw [Session.withTemplate, map_modifyFirst Template.id]
    · exact intact.templateIds
    · intro other matched
      exact (eq_of_beq matched).symm
  assignmentIds := intact.assignmentIds
  active other inside := by
    rcases mem_modifyFirst inside with earlier | ⟨_, _, _, same⟩
    · exact intact.active other earlier
    · rwa [same]
  pinned assignment issued := by
    have resolved := intact.pinned assignment issued
    by_cases here : assignment.templateId = id
    · rw [templateOf?, here, found, Option.bind_some] at resolved
      obtain ⟨later, resolves⟩ := Option.isSome_iff_exists.1 (kept _ resolved)
      have again := Session.resolve?_withTemplate session found sameId resolves
      rw [← here] at again
      exact Option.isSome_iff_exists.2 ⟨later, again⟩
    · have apart : assignment.templateId ≠ revised.id := by
        rwa [sameId, Session.template?_id found]
      have same := Session.resolve?_withTemplate_of_ne session assignment.templateVersion apart
      exact (congrArg Option.isSome same).trans resolved
  owned := intact.owned

theorem deleteTemplate (intact : state.IsIntact) {id : String}
    (unissued : ∀ assignment ∈ state.assignments, assignment.templateId ≠ id) :
    IsIntact { state with
      templates := state.templates.filter fun template => template.id != id } where
  templateIds := intact.templateIds.sublist (List.filter_sublist.map Template.id)
  assignmentIds := intact.assignmentIds
  active template inside := intact.active template (List.mem_filter.1 inside).1
  pinned assignment issued := by
    rw [templateOf?, template?, find?_filter_of_ne Template.id _ (unissued assignment issued)]
    exact intact.pinned assignment issued
  owned := intact.owned

/-! ## Assignments and responses -/

theorem addAssignment (intact : state.IsIntact) {assignment : Assignment}
    (isNew : ∀ other ∈ state.assignments, other.id ≠ assignment.id)
    (pinned : ((state.templateOf? assignment).bind fun template =>
      template.version? assignment.templateVersion).isSome = true) :
    IsIntact { state with assignments := assignment :: state.assignments } where
  templateIds := intact.templateIds
  assignmentIds := nodup_map_cons isNew intact.assignmentIds
  active := intact.active
  pinned := List.forall_mem_cons.2 ⟨pinned, intact.pinned⟩
  owned response inside := by
    have own := isSome_assignment?_iff.1 (intact.owned response inside)
    exact isSome_assignment?_iff.2 (List.mem_cons_of_mem _ own)

/-- An assignment may be replaced by one with its id and its pin. -/
theorem withAssignment (intact : session.state.IsIntact) {id : String}
    {assignment revised : Assignment} (found : session.state.assignment? id = some assignment)
    (issuedFrom : revised.templateId = assignment.templateId)
    (pinned : revised.templateVersion = assignment.templateVersion) :
    (session.withAssignment revised).state.IsIntact := by
  have sameIds : (session.withAssignment revised).state.assignments.map Assignment.id =
      session.state.assignments.map Assignment.id := by
    refine map_modifyFirst Assignment.id fun other matched => ?_
    exact (eq_of_beq matched).symm
  constructor
  · exact intact.templateIds
  · rw [sameIds]
    exact intact.assignmentIds
  · exact intact.active
  · intro other inside
    rcases mem_modifyFirst inside with earlier | ⟨_, _, _, rfl⟩
    · exact intact.pinned other earlier
    · rw [templateOf?, issuedFrom, pinned]
      exact intact.pinned assignment (List.mem_of_find?_eq_some found)
  · intro response inside
    rw [isSome_assignment?_iff, sameIds, ← isSome_assignment?_iff]
    exact intact.owned response inside

theorem withResponses (intact : state.IsIntact) {responses : ResponseTable}
    (owned : ∀ response ∈ responses, response ∈ state.responses ∨
      (state.assignment? response.assignmentId).isSome = true) :
    IsIntact { state with responses } where
  templateIds := intact.templateIds
  assignmentIds := intact.assignmentIds
  active := intact.active
  pinned := intact.pinned
  owned response inside := (owned response inside).elim (intact.owned response) id

/-- The assignments that an intake takes with it are those that it was issued as, and the responses
that it takes with it are theirs. -/
theorem replaceIntake (intact : state.IsIntact) {intake : Template}
    (sameId : intake.id = intakeTemplateId) (active : intake.active?.isSome = true) :
    (state.replaceIntake intake).IsIntact where
  templateIds := by
    refine nodup_map_cons ?_ (intact.templateIds.sublist (List.filter_sublist.map Template.id))
    intro other inside same
    exact bne_iff_ne.1 (List.mem_filter.1 inside).2 (same.trans sameId)
  assignmentIds := intact.assignmentIds.sublist (List.filter_sublist.map Assignment.id)
  active := by
    refine List.forall_mem_cons.2 ⟨active, fun template inside => ?_⟩
    exact intact.active template (List.mem_filter.1 inside).1
  pinned assignment issued := by
    have earlier : assignment ∈ state.assignments := (List.mem_filter.1 issued).1
    -- What was issued as the intake is dropped by its id, so no assignment of it survives.
    have apart : assignment.templateId ≠ intakeTemplateId :=
      fun isIntake => id_ne_of_mem_replaceIntake issued earlier isIntake rfl
    have apartFromNew : intake.id ≠ assignment.templateId := by
      rw [sameId]
      exact apart.symm
    rw [templateOf?, template?, State.replaceIntake, find?_cons_of_ne Template.id _ apartFromNew,
      find?_filter_of_ne Template.id _ apart]
    exact intact.pinned assignment earlier
  owned response inside := by
    obtain ⟨earlier, survives⟩ := List.mem_filter.1 inside
    have own := isSome_assignment?_iff.1 (intact.owned response earlier)
    obtain ⟨assignment, issued, same⟩ := List.mem_map.1 own
    rw [← same] at survives ⊢
    exact isSome_assignment?_iff.2 (List.mem_map_of_mem (List.mem_filter.2 ⟨issued, survives⟩))

end State.IsIntact

namespace Session

/-- No template and no assignment from before has an id that was handed out since. -/
structure MintsNew (before after : Session) : Prop where
  templates : ∀ template ∈ before.state.templates, ∀ number,
    before.services.minted < number → number ≤ after.services.minted →
      template.id ≠ before.services.idOf "qtpl" number
  assignments : ∀ assignment ∈ before.state.assignments, ∀ number,
    before.services.minted < number → number ≤ after.services.minted →
      assignment.id ≠ before.services.idOf "assign" number

variable {before after : Session} {operation : Operation}

/-- An operation keeps a state intact unless it hands out an id that is in use. -/
theorem Effect.isIntact (effect : Effect before operation after) (new : before.MintsNew after)
    (intact : before.state.IsIntact) : after.state.IsIntact := by
  have unused {assignment : Assignment} (id : assignment.id = before.services.nextId "assign")
      (minted : after.services.minted = before.services.minted + 1) :
      ∀ other ∈ before.state.assignments, other.id ≠ assignment.id := by
    intro other inside
    rw [id, Services.nextId_eq]
    exact new.assignments other inside _ (Nat.lt_succ_self _) (Nat.le_of_eq minted.symm)
  cases effect with
  | unchanged => exact intact
  | templateAdded _ template earlier id history =>
    refine intact.addTemplate ?_ ?_
    · intro other inside
      rw [id, Services.nextId_eq]
      refine new.templates other inside (before.services.minted + earlier + 1) ?_ (Nat.le_refl _)
      omega
    · rcases history with ⟨graph, versions, active⟩ | ⟨source, inside, versions, active⟩
      · rw [Template.active?_of_singleton versions active]
        rfl
      · rw [Template.active?, Template.version?, versions, active]
        exact intact.active source inside
  | templateArchived _ _ template found =>
    have active := intact.active template (List.mem_of_find?_eq_some found)
    exact intact.withTemplate found rfl active fun _ => id
  | templateStepped _ _ template revised found sameId step versions active =>
    have resolves := intact.active template (List.mem_of_find?_eq_some found)
    -- Only the history of the revised template is that of the step; other fields may differ.
    have sameLookUp (number : UInt32) :
        revised.version? number = (step.apply template).version? number := by
      rw [Template.version?, versions, Template.version?]
    refine intact.withTemplate found sameId ?_ fun number found => ?_
    · rw [Template.active?, sameLookUp, active]
      exact step.isSome_active?_apply resolves
    · obtain ⟨version, isVersion⟩ := Option.isSome_iff_exists.1 found
      obtain ⟨later, isLater, _⟩ := Template.version?_apply step isVersion
      rw [sameLookUp, isLater]
      rfl
  | templateDeleted id unissued => exact intact.deleteTemplate unissued
  | assignmentIssued _ templateId template found assignment id issuedFrom pinned =>
    refine intact.addAssignment (unused id rfl) ?_
    rw [State.templateOf?, issuedFrom, found, pinned]
    exact intact.active template (List.mem_of_find?_eq_some found)
  | assignmentRevised _ _ assignment revised found _ issuedFrom pinned =>
    exact intact.withAssignment found issuedFrom pinned
  | responsesWritten _ responses owned => exact intact.withResponses owned
  | intakeReplaced catalog assignment _ id issuedFrom pinned =>
    have active : (intakeTemplate catalog before.services.now).active?.isSome = true := rfl
    refine (intact.replaceIntake rfl active).addAssignment ?_ ?_
    · intro other inside
      exact unused id rfl other (List.mem_filter.1 inside).1
    · rw [State.templateOf?, issuedFrom, pinned, State.template?_replaceIntake rfl]
      exact active

/-- No step of a run hands out an id that a template or an assignment has. -/
def RunsOnNewIds (session : Session) (steps : List (Timestamp × Operation)) : Prop :=
  ∀ done moment operation rest, steps = done ++ (moment, operation) :: rest →
    ((session.run done).atTime moment).MintsNew
      (operation.perform ((session.run done).atTime moment))

/-- A session whose ids are new runs on new ids. -/
theorem IdsNew.runsOnNewIds {session : Session} (new : session.IdsNew)
    (steps : List (Timestamp × Operation)) : session.RunsOnNewIds steps := by
  intro done moment operation rest _
  have here := (new.run done).atTime moment
  exact ⟨fun template inside number later _ => here.templates template inside number later,
    fun assignment inside number later _ => here.assignments assignment inside number later⟩

/-- A run on new ids keeps a state intact. -/
theorem isIntact_run {session : Session} (intact : session.state.IsIntact)
    {steps : List (Timestamp × Operation)} (new : session.RunsOnNewIds steps) :
    (session.run steps).state.IsIntact := by
  induction steps generalizing session with
  | nil => exact intact
  | cons step steps inductionHypothesis =>
    obtain ⟨moment, operation⟩ := step
    have effect := operation.effect (session.atTime moment)
    refine inductionHypothesis (effect.isIntact (new [] moment operation steps rfl) intact) ?_
    intro done later next rest split
    exact new ((moment, operation) :: done) later next rest (congrArg _ split)

end Session

/-! ## The states that a store starts with -/

namespace State

/-- A state that a store starts with. -/
inductive IsInitial : State → Prop where
  /-- Nothing. -/
  | empty : IsInitial .empty
  /-- What comes with the product. -/
  | seeded (catalog : Catalog) (now : Timestamp) : IsInitial (seedState catalog now)
  /-- What a document of the first schema gives, or no document, with or without what comes with
  the product. -/
  | migrated (catalog : Catalog) (document : Option Json) (seeded : Bool) (now : Timestamp) :
    IsInitial (migrate catalog document seeded now)

theorem isIntact_empty : IsIntact .empty where
  templateIds := List.nodup_nil
  assignmentIds := List.nodup_nil
  active _ inside := absurd inside List.not_mem_nil
  pinned _ inside := absurd inside List.not_mem_nil
  owned _ inside := absurd inside List.not_mem_nil

theorem isIntact_seedState (catalog : Catalog) (now : Timestamp) :
    (seedState catalog now).IsIntact where
  templateIds := by
    change [intakeTemplateId, followupTemplateId, clarificationTemplateId].Nodup
    decide
  assignmentIds := by
    change ["assign-intake-1", "assign-followup-1"].Nodup
    decide
  active template inside := by
    rcases List.mem_cons.1 inside with rfl | others
    · rfl
    · rcases List.mem_pair.1 others with rfl | rfl
      · rfl
      · rfl
  pinned assignment inside := by
    rcases List.mem_pair.1 inside with rfl | rfl
    · rfl
    · rfl
  owned _ inside := absurd inside List.not_mem_nil

/-- Templates with new ids may be put behind those of an intact state. -/
theorem IsIntact.appendTemplates {state : State} (intact : state.IsIntact)
    {templates : List Template} (distinct : (templates.map Template.id).Nodup)
    (areNew : ∀ template ∈ templates, template.id ∉ state.templates.map Template.id)
    (active : ∀ template ∈ templates, template.active?.isSome = true) (archivedV1 : Option Json) :
    IsIntact { state with templates := state.templates ++ templates, archivedV1 } where
  templateIds := by
    rw [List.map_append, List.nodup_append']
    refine ⟨intact.templateIds, distinct, ?_⟩
    intro id used added
    obtain ⟨template, inside, same⟩ := List.mem_map.1 added
    rw [← same] at used
    exact areNew template inside used
  assignmentIds := intact.assignmentIds
  active := List.forall_mem_append.2 ⟨intact.active, active⟩
  pinned assignment issued := by
    have resolved := intact.pinned assignment issued
    rw [templateOf?, template?] at resolved ⊢
    rw [List.find?_append]
    cases found : state.templates.find? fun template => template.id == assignment.templateId with
    | none =>
      rw [found] at resolved
      contradiction
    | some template => rwa [found] at resolved
  owned := intact.owned

/-- The states that a store starts with are intact. -/
theorem IsInitial.isIntact {state : State} (initial : state.IsInitial) : state.IsIntact := by
  cases initial with
  | empty => exact isIntact_empty
  | seeded catalog now => exact isIntact_seedState catalog now
  | migrated catalog document seeded now =>
    have base : (if seeded then seedState catalog now else .empty).IsIntact := by
      split
      · exact isIntact_seedState catalog now
      · exact isIntact_empty
    cases document with
    | none => exact base
    | some document =>
      obtain ⟨distinct, free⟩ := ids_convertTemplates now _ _
      exact base.appendTemplates distinct free (fun _ => isSome_active?_convertTemplates) _

end State

namespace Session

/-- A run from a state that a store starts with, in which no step hands out an id that is in use,
goes through intact states only. -/
theorem isIntact_of_isInitial {start : Session} (initial : start.state.IsInitial)
    {steps : List (Timestamp × Operation)} (new : start.RunsOnNewIds steps) :
    ∀ done, done <+: steps → (start.run done).state.IsIntact := by
  rintro done ⟨rest, rfl⟩
  refine isIntact_run initial.isIntact ?_
  intro earlier moment operation later split
  exact new earlier moment operation (later ++ rest) (by rw [split, List.append_assoc]; rfl)

/-- The session that a new store starts with, whose ids are numbered by decimal numerals. -/
def seeded (catalog : Catalog) (now : Timestamp) : Session :=
  { state := seedState catalog now, services := { now } }

/-- None of the ids that come with the product is ever handed out. -/
theorem IdsNew.seeded (catalog : Catalog) (now : Timestamp) : (seeded catalog now).IdsNew where
  distinct _ _ same := Nat.repr_injective same
  templates template inside number _ same := by
    have letters := congrArg String.toList same
    rcases List.mem_cons.1 inside with rfl | others
    · exact intakeTemplateId_ne_idOf _ number same
    · rcases List.mem_pair.1 others with rfl | rfl
      · simp [shippedTemplate, Template.ofVersion, followupTemplateId, Services.idOf] at letters
      · simp [shippedTemplate, Template.ofVersion, clarificationTemplateId,
          Services.idOf] at letters
  assignments assignment inside number _ same := by
    have digits (rest : String)
        (handedOut : "assign" ++ "-" ++ rest = "assign" ++ "-" ++ toString number) :
        ∀ char ∈ rest.toList, char.isDigit = true := by
      intro char isMember
      rw [(String.append_right_inj _).1 handedOut] at isMember
      exact isDigit_of_mem_toString isMember
    rcases List.mem_pair.1 inside with rfl | rfl
    · exact absurd (digits "intake-1" same 'i' (by decide)) (by decide)
    · exact absurd (digits "followup-1" same 'f' (by decide)) (by decide)

/-- A template is issued, answered and removed, which hides it, and the intake is replaced, which
drops its assignment with the answer to it. -/
theorem isIntact_of_isInitial_rehydrated :
    let catalog : Catalog := [{ id := "step", title := "Step" }]
    let steps :=
      [(.epoch, .template (.create "Debts" none)),
        (.epoch, .assignment (.assign "qtpl-5" none none)),
        (.epoch, .response (.recordAnswer "assign-6" "question-3" (.bool true))),
        (.epoch, .response (.recordAnswer "assign-intake-1" "question-3" (.bool true))),
        (.epoch, .template (.remove "qtpl-5")), (.epoch, .rehydrateIntake catalog)]
    let last := ((seeded [] .epoch).run steps).state
    (seeded [] .epoch).state.IsInitial ∧ (seeded [] .epoch).RunsOnNewIds steps ∧
      last.IsIntact ∧
      last.assignments.map Assignment.id = ["assign-7", "assign-6", "assign-followup-1"] ∧
      last.responses.map Response.assignmentId = ["assign-6"] := by
  intro catalog steps last
  have initial : (seeded [] .epoch).state.IsInitial := .seeded [] .epoch
  have new := (IdsNew.seeded [] .epoch).runsOnNewIds steps
  exact ⟨initial, new, isIntact_of_isInitial initial new steps List.prefix_rfl, by decide +kernel,
    by decide +kernel⟩

end Session

end Questionnaire
