import Questionnaire.Proofs.State.Ids

/-!
# Pinned graphs

An assignment is pinned to the version that was active when it was issued. What is found under this
number of this template stays through every run of operations, as long as there is an assignment to
need it: the template is not deleted, no other template takes its id, and entries of a history are
never removed. The graph of a pinned draft changes with the edits that are made while the draft is
active; the graph of a pinned published version never changes.
-/

namespace Questionnaire

namespace Session

/-- The graph that an assignment was issued with, as the session has it. -/
def pinnedGraph? (session : Session) (assignment : Assignment) : Option Graph :=
  assignment.pinnedGraph? (session.state.templateOf? assignment)

/-- The entry under a number in the history of a template. -/
def resolve? (session : Session) (templateId : String) (number : UInt32) : Option TemplateVersion :=
  (session.state.template? templateId).bind fun template => template.version? number

theorem pinnedGraph?_eq (session : Session) (assignment : Assignment) :
    session.pinnedGraph? assignment =
      (session.resolve? assignment.templateId assignment.templateVersion).map
        TemplateVersion.graph := rfl

/-- Every assignment with the id of the pinned one has its pin, and while there is such an
assignment, the pin resolves to the entry. -/
structure Pins (session : Session) (pinned : Assignment) (version : TemplateVersion) : Prop where
  used : ∀ number, session.services.minted < number →
    pinned.id ≠ session.services.idOf "assign" number
  bound : ∀ assignment ∈ session.state.assignments, assignment.id = pinned.id →
    assignment.templateId = pinned.templateId ∧
      assignment.templateVersion = pinned.templateVersion
  resolves : (∃ assignment ∈ session.state.assignments, assignment.id = pinned.id) →
    session.resolve? pinned.templateId pinned.templateVersion = some version

/-- An edit that replaces the graph of a pinned draft, which is active. -/
structure EditsPin (session : Session) (operation : Operation) (pinned : Assignment)
    (version : TemplateVersion) (given : Graph) : Prop where
  isEdit : operation = .template (.updateGraph pinned.templateId given)
  active : (session.state.template? pinned.templateId).map Template.activeVersion =
    some pinned.templateVersion
  draft : version.isPublished = false

/-- A template in place of another one is found under the id of that one only. -/
theorem template?_withTemplate (session : Session) (template : Template) (id : String) :
    (session.withTemplate template).state.template? id =
      if id == template.id then (session.state.template? id).map fun _ => template
      else session.state.template? id := by
  simp only [State.template?, withTemplate]
  rw [find?_modifyFirst Template.id template.id id (fun _ _ => rfl)]
  split
  · rename_i same
    rw [eq_of_beq same]
  · rfl

theorem template?_id {state : State} {id : String} {template : Template}
    (found : state.template? id = some template) : template.id = id := by
  have own := List.find?_some found
  exact eq_of_beq own

variable {before after : Session} {operation : Operation} {pinned : Assignment}
  {version : TemplateVersion}

/-- What is found under an id and a number is found again after a template with the id was replaced
by one whose history keeps the entry. -/
theorem resolve?_withTemplate {template revised : Template} {id : String} {number : UInt32}
    {later : TemplateVersion} (session : Session)
    (found : session.state.template? id = some template) (sameId : revised.id = template.id)
    (resolves : revised.version? number = some later) :
    (session.withTemplate revised).resolve? id number = some later := by
  have own : (id == revised.id) = true := beq_iff_eq.2 (by rw [sameId, template?_id found])
  rw [resolve?, template?_withTemplate, if_pos own, found, Option.map_some, Option.bind_some,
    resolves]

/-- What is found under another id stays. -/
theorem resolve?_withTemplate_of_ne {revised : Template} {id : String} (session : Session)
    (number : UInt32) (apart : id ≠ revised.id) :
    (session.withTemplate revised).resolve? id number = session.resolve? id number := by
  rw [resolve?, template?_withTemplate, if_neg (fun same => apart (eq_of_beq same))]
  rfl

/-- While an assignment needs it, the pin resolves to what the entry is bound to keep, and another
graph comes from an edit of the pinned draft. -/
theorem Effect.resolve? (effect : Effect before operation after) (new : before.IdsNew)
    (pins : before.Pins pinned version)
    (needed : ∃ assignment ∈ after.state.assignments, assignment.id = pinned.id) :
    ∃ later, after.resolve? pinned.templateId pinned.templateVersion = some later ∧
      later.Continues version ∧
      (later.graph = version.graph ∨ ∃ given, before.EditsPin operation pinned version given ∧
        later.graph = given.normalizeOrder) := by
  obtain ⟨needing, member, sameId⟩ := needed
  have earlier : ∃ assignment ∈ before.state.assignments, assignment.id = pinned.id := by
    rcases effect.assignment_id member with ⟨earlier, inside, same, _⟩ | ⟨_, issued⟩
    · exact ⟨earlier, inside, same.trans sameId⟩
    · exact absurd (sameId.symm.trans issued) (pins.used _ (Nat.lt_succ_self _))
  have found := pins.resolves earlier
  have kept (same : after.resolve? pinned.templateId pinned.templateVersion =
      before.resolve? pinned.templateId pinned.templateVersion) :
      ∃ later, after.resolve? pinned.templateId pinned.templateVersion = some later ∧
        later.Continues version ∧
        (later.graph = version.graph ∨ ∃ given, before.EditsPin operation pinned version given ∧
          later.graph = given.normalizeOrder) :=
    ⟨version, same.trans found, .refl version, .inl rfl⟩
  obtain ⟨template, templateFound, versionFound⟩ := Option.bind_eq_some_iff.1 found
  have owner : template ∈ before.state.templates := List.mem_of_find?_eq_some templateFound
  cases effect with
  | unchanged | assignmentIssued | assignmentRevised | responsesWritten => exact kept rfl
  | templateAdded _ added count id _ =>
    have apart : added.id ≠ pinned.templateId := by
      intro same
      refine new.templates template owner (before.services.minted + count + 1) (by omega) ?_
      rw [template?_id templateFound, ← same, id]
      rfl
    refine kept ?_
    simp only [Session.resolve?, State.template?, addTemplate]
    rw [find?_cons_of_ne Template.id _ apart]
    rfl
  | templateArchived _ id archived archivedFound =>
    by_cases here : pinned.templateId = id
    · subst here
      obtain rfl : template = archived := Option.some.inj (templateFound.symm.trans archivedFound)
      exact ⟨version, resolve?_withTemplate before templateFound rfl versionFound, .refl version,
        .inl rfl⟩
    · have apart : pinned.templateId ≠ archived.id := by rwa [template?_id archivedFound]
      exact kept (resolve?_withTemplate_of_ne before _ apart)
  | templateStepped _ id old revised oldFound sameId step versions active edit publication =>
    by_cases here : pinned.templateId = id
    · subst here
      obtain rfl : template = old := Option.some.inj (templateFound.symm.trans oldFound)
      obtain ⟨later, laterFound, continues, graph⟩ :=
        Template.version?_apply step versionFound
      have resolves : revised.version? pinned.templateVersion = some later := by
        rw [Template.version?, versions, ← Template.version?, laterFound]
      refine ⟨later, resolve?_withTemplate before templateFound sameId resolves, continues, ?_⟩
      refine graph.imp_right ?_
      rintro ⟨given, now, isEdit, pointed, draft, edited⟩
      obtain ⟨source, normalized, isUpdate⟩ := edit given now isEdit
      refine ⟨source, ⟨by rw [isUpdate], ?_, draft⟩, edited.trans normalized⟩
      rw [templateFound, Option.map_some, pointed]
    · have apart : pinned.templateId ≠ revised.id := by rwa [sameId, template?_id oldFound]
      exact kept (resolve?_withTemplate_of_ne before _ apart)
  | templateDeleted id unissued =>
    obtain ⟨assignment, inside, same⟩ := earlier
    have apart : pinned.templateId ≠ id := by
      rw [← (pins.bound assignment inside same).1]
      exact unissued assignment inside
    refine kept ?_
    simp only [Session.resolve?, State.template?]
    rw [find?_filter_of_ne Template.id _ apart]
  | intakeReplaced catalog issued unhydrated id =>
    have apart : pinned.templateId ≠ intakeTemplateId := by
      intro isIntake
      rcases List.mem_cons.1 member with same | inside
      · exact absurd (sameId.symm.trans ((congrArg Assignment.id same).trans id))
          (pins.used _ (Nat.lt_succ_self _))
      · obtain ⟨assignment, assignmentInside, same⟩ := earlier
        have ofIntake : assignment.templateId = intakeTemplateId :=
          (pins.bound assignment assignmentInside same).1.trans isIntake
        exact State.id_ne_of_mem_replaceIntake inside assignmentInside ofIntake
          (sameId.trans same.symm)
    refine kept ?_
    simp only [Session.resolve?, State.template?, State.replaceIntake, addAssignment, minting]
    rw [find?_cons_of_ne Template.id _ (fun same => apart same.symm),
      find?_filter_of_ne Template.id _ apart]

/-- One operation keeps a pin, up to an edit of the pinned draft. -/
theorem Effect.pins (effect : Effect before operation after) (new : before.IdsNew)
    (pins : before.Pins pinned version) :
    ∃ later, after.Pins pinned later ∧ later.Continues version ∧
      (later.graph = version.graph ∨ ∃ given, before.EditsPin operation pinned version given ∧
        later.graph = given.normalizeOrder) := by
  have used : ∀ number, after.services.minted < number →
      pinned.id ≠ after.services.idOf "assign" number := by
    intro number later
    rw [effect.idOf_eq]
    exact pins.used number (Nat.lt_of_le_of_lt effect.minted_le later)
  have bound : ∀ assignment ∈ after.state.assignments, assignment.id = pinned.id →
      assignment.templateId = pinned.templateId ∧
        assignment.templateVersion = pinned.templateVersion := by
    intro assignment member same
    rcases effect.assignment_id member with ⟨earlier, inside, sameId, template, number⟩ | ⟨_, issued⟩
    · rw [← template, ← number]
      exact pins.bound earlier inside (sameId.trans same)
    · exact absurd (same.symm.trans issued) (pins.used _ (Nat.lt_succ_self _))
  by_cases needed : ∃ assignment ∈ after.state.assignments, assignment.id = pinned.id
  · obtain ⟨later, found, continues, graph⟩ := effect.resolve? new pins needed
    exact ⟨later, ⟨used, bound, fun _ => found⟩, continues, graph⟩
  · exact ⟨version, ⟨used, bound, fun still => absurd still needed⟩, .refl version, .inl rfl⟩

/-- A run keeps a pin, up to an edit of the pinned draft along the way. -/
theorem Pins.run {session : Session} (new : session.IdsNew) (pins : session.Pins pinned version)
    (steps : List (Timestamp × Operation)) :
    ∃ later, (session.run steps).Pins pinned later ∧ later.Continues version ∧
      (later.graph = version.graph ∨ ∃ before moment operation given after,
        steps = before ++ (moment, operation) :: after ∧
          (session.run before).EditsPin operation pinned version given ∧
          later.graph = given.normalizeOrder) := by
  induction steps generalizing session version with
  | nil => exact ⟨version, pins, .refl version, .inl rfl⟩
  | cons step steps inductionHypothesis =>
    have here : (session.atTime step.1).Pins pinned version :=
      ⟨pins.used, pins.bound, pins.resolves⟩
    have effect := step.2.effect (session.atTime step.1)
    obtain ⟨next, nextPins, nextContinues, nextGraph⟩ := effect.pins (new.atTime step.1) here
    obtain ⟨last, lastPins, lastContinues, lastGraph⟩ :=
      inductionHypothesis (effect.idsNew (new.atTime step.1)) nextPins
    refine ⟨last, lastPins, lastContinues.trans nextContinues, ?_⟩
    rcases lastGraph with same | ⟨before, moment, operation, given, after, split, edit, edited⟩
    · rcases nextGraph with same' | ⟨given, edit, edited⟩
      · exact .inl (same.trans same')
      · refine .inr ⟨[], step.1, step.2, given, steps, rfl, ?_, same.trans edited⟩
        exact ⟨edit.isEdit, edit.active, edit.draft⟩
    · refine .inr ⟨step :: before, moment, operation, given, after, by rw [split]; rfl, ?_, edited⟩
      exact ⟨edit.isEdit, edit.active, nextContinues.isPublished.symm.trans edit.draft⟩

theorem Effect.assignments_template {operation : TemplateOperation}
    (effect : Effect before (.template operation) after) :
    after.state.assignments = before.state.assignments := by
  cases effect <;> rfl

/-- Operations on templates leave the assignments alone. -/
theorem assignments_run_template {session : Session} {steps : List (Timestamp × Operation)}
    (onTemplates : ∀ step ∈ steps, ∃ operation, step.2 = .template operation) :
    (session.run steps).state.assignments = session.state.assignments := by
  induction steps generalizing session with
  | nil => rfl
  | cons step steps inductionHypothesis =>
    obtain ⟨operation, isTemplate⟩ := onTemplates step List.mem_cons_self
    have kept : (step.2.perform (session.atTime step.1)).state.assignments =
        session.state.assignments := by
      rw [isTemplate]
      exact ((Operation.template operation).effect (session.atTime step.1)).assignments_template
    rw [run_cons, inductionHypothesis fun other member =>
      onTemplates other (List.mem_cons_of_mem _ member), kept]

/-- A new assignment is pinned to what its number resolves to. -/
theorem Pins.of_assignTemplate {session issued : Session} {templateId : String}
    {title dueAt : Option String} {assignment : Assignment} (new : session.IdsNew)
    (assigned : (Action.assignTemplate templateId title dueAt).perform session =
      (.ok assignment, issued))
    (found : issued.resolve? assignment.templateId assignment.templateVersion = some version) :
    assignment.templateId = templateId ∧ issued.IdsNew ∧
      assignment ∈ issued.state.assignments ∧ issued.Pins assignment version := by
  have effect := (Operation.assignment (.assign templateId title dueAt)).effect session
  rw [Operation.perform, Operation.action, AssignmentOperation.action, Action.perform_discard,
    assigned] at effect
  have issuedNew := effect.idsNew new
  rw [Action.perform_assignTemplate] at assigned
  cases template : session.state.template? templateId with
  | none => simp [template] at assigned
  | some template =>
    rw [template] at assigned
    injection assigned with same after
    injection same with same
    subst same after
    have unused : session.services.minted < session.services.minted + 1 := Nat.lt_succ_self _
    refine ⟨rfl, issuedNew, List.mem_cons_self, ?_, ?_, fun _ => found⟩
    · intro number later equal
      have numbers : session.services.minted + 1 = number := new.idOf_injective equal
      exact absurd numbers (Nat.ne_of_lt later)
    · intro other member sameId
      rcases List.mem_cons.1 member with same | inside
      · rw [same]
        exact ⟨rfl, rfl⟩
      · exact absurd sameId (new.assignments other inside _ unused)

/-- The graph that an assignment resolves is the one that it was issued with, whatever operations
follow, as long as the assignment is there, unless it was issued with a draft and the draft was
edited while it was active. Operations on templates leave the assignment there. -/
theorem run_pinnedGraph {start issued : Session} {templateId : String}
    {title dueAt : Option String} {assignment : Assignment} {graph : Graph} {moment : Timestamp}
    (new : start.IdsNew) (earlier : List (Timestamp × Operation))
    (assigned : (Action.assignTemplate templateId title dueAt).perform
      ((start.run earlier).atTime moment) = (.ok assignment, issued))
    (resolved : issued.pinnedGraph? assignment = some graph)
    (steps : List (Timestamp × Operation)) :
    (∀ later ∈ (issued.run steps).state.assignments, later.id = assignment.id →
      (issued.run steps).pinnedGraph? later = some graph ∨
      ∃ draft before moment given after,
        issued.resolve? templateId assignment.templateVersion = some draft ∧
        draft.isPublished = false ∧
        steps = before ++ (moment, .template (.updateGraph templateId given)) :: after ∧
        ((issued.run before).state.template? templateId).map Template.activeVersion =
          some assignment.templateVersion ∧
        (issued.run steps).pinnedGraph? later = some given.normalizeOrder) ∧
    ((∀ step ∈ steps, ∃ operation, step.2 = .template operation) →
      assignment ∈ (issued.run steps).state.assignments) := by
  rw [pinnedGraph?_eq] at resolved
  obtain ⟨version, found, versionGraph⟩ := Option.map_eq_some_iff.1 resolved
  obtain ⟨sameTemplate, issuedNew, member, pins⟩ :=
    Pins.of_assignTemplate ((new.run earlier).atTime moment) assigned found
  subst sameTemplate
  constructor
  · intro later laterMember sameId
    obtain ⟨last, lastPins, continues, lastGraph⟩ := pins.run issuedNew steps
    obtain ⟨template, number⟩ := lastPins.bound later laterMember sameId
    have laterGraph : (issued.run steps).pinnedGraph? later = some last.graph := by
      rw [pinnedGraph?_eq, template, number, lastPins.resolves ⟨later, laterMember, sameId⟩,
        Option.map_some]
    rw [laterGraph]
    rcases lastGraph with same | ⟨before, moment, operation, given, after, split, edit, edited⟩
    · exact .inl (by rw [same, versionGraph])
    · rw [edit.isEdit] at split
      exact .inr ⟨version, before, moment, given, after, found, edit.draft, split, edit.active,
        by rw [edited]⟩
  · intro onTemplates
    rw [assignments_run_template onTemplates]
    exact member

/-- A draft is issued and copied, and the assignment keeps its graph when the copy is edited. -/
theorem run_pinnedGraph_copied :
    ∃ assignment issued graph,
      (Action.assignTemplate "qtpl-5" none none).perform
        ((empty.run [(.epoch, .template (.create "Intake" none))]).atTime .epoch) =
          (.ok assignment, issued) ∧
      issued.pinnedGraph? assignment = some graph ∧
      (issued.run [(.epoch, .template (.duplicate "qtpl-5")),
        (.epoch, .template (.updateGraph "qtpl-7" .empty))]).pinnedGraph? assignment =
          some graph := by
  have outcome : ((Action.assignTemplate "qtpl-5" none none).perform
      ((empty.run [(.epoch, .template (.create "Intake" none))]).atTime .epoch)).1 =
        .ok (.issue "assign-6" "qtpl-5" 1 "Intake" .epoch) := by rfl
  have resolved : ((Action.assignTemplate "qtpl-5" none none).perform
      ((empty.run [(.epoch, .template (.create "Intake" none))]).atTime .epoch)).2.pinnedGraph?
        (.issue "assign-6" "qtpl-5" 1 "Intake" .epoch) =
          some (starterGraph "start-1" "section-2" "question-3" "end-4" "Intake") := by rfl
  have assigned := Prod.ext outcome rfl
  refine ⟨_, _, _, assigned, resolved, ?_⟩
  obtain ⟨pinned, stays⟩ := run_pinnedGraph .empty _ assigned resolved
    [(.epoch, .template (.duplicate "qtpl-5")), (.epoch, .template (.updateGraph "qtpl-7" .empty))]
  have onTemplates : ∀ step ∈ [(Timestamp.epoch, Operation.template (.duplicate "qtpl-5")),
      (.epoch, .template (.updateGraph "qtpl-7" .empty))],
      ∃ operation, step.2 = .template operation := by simp
  rcases pinned _ (stays onTemplates) rfl with
    same | ⟨_, before, moment, given, after, _, _, split, _⟩
  · exact same
  · have edit : (moment, Operation.template (.updateGraph "qtpl-5" given)) ∈
        before ++ (moment, .template (.updateGraph "qtpl-5" given)) :: after := by simp
    rw [← split] at edit
    simp at edit

/-- The graph of an assignment that was issued with a draft changes with the draft. -/
theorem pinnedGraph?_of_draft :
    ¬ ∀ (earlier steps : List (Timestamp × Operation)),
      ∀ assignment ∈ (empty.run earlier).state.assignments,
      (∀ step ∈ steps, ∃ operation, step.2 = .template operation) →
      ((empty.run earlier).run steps).pinnedGraph? assignment =
        (empty.run earlier).pinnedGraph? assignment := by
  intro constant
  have same := constant
    [(.epoch, .template (.create "Intake" none)),
      (.epoch, .assignment (.assign "qtpl-5" none none))]
    [(.epoch, .template (.updateGraph "qtpl-5" .empty))]
    (.issue "assign-6" "qtpl-5" 1 "Intake" .epoch) (by decide)
    (fun _ member => ⟨_, congrArg Prod.snd (List.mem_singleton.1 member)⟩)
  exact absurd same (by decide)

end Session

end Questionnaire
