import Mathlib.Algebra.Group.Nat.Defs
import Questionnaire.Proofs.State.Routine

/-!
# Publications along runs of routine operations

Nothing is published that has a defect: a published entry comes from a publication, which checks the
graph that it takes, or from a copy of a template, and no step changes it afterwards. What a
publication appends has the graph that was active before. Its number is past all others, so it is
found under it and is active. Numbers grow by one with an operation at most, so a run needs all the
numbers of 32 bits before there is no next one.
-/

namespace Questionnaire

/-! ## Entries of a history -/

/-- An entry after a step continues one from before or has the next number; if it is published, the
step is a publication of its graph. -/
theorem HistoryStep.mem_apply {template : Template} {version : TemplateVersion}
    (step : HistoryStep) (inside : version ∈ (step.apply template).versions) :
    (∃ earlier ∈ template.versions, version.Continues earlier) ∨
      template.nextNumber? = some version.number ∧ (version.isPublished = true →
        template.activeGraph? = some version.graph ∧
          ∃ publisher notes now, step = .publish publisher notes now) := by
  obtain ⟨index, found⟩ := List.mem_iff_getElem?.1 inside
  have within := (List.getElem?_eq_some_iff.1 found).1
  by_cases place : index < template.versions.length
  · obtain ⟨later, laterFound, continues, _⟩ :=
      step.getElem?_apply (List.getElem?_eq_getElem place)
    rw [found] at laterFound
    exact .inl ⟨_, List.getElem_mem place, Option.some.inj laterFound ▸ continues⟩
  · cases step.effect template with
    | kept versions => exact absurd (versions ▸ within) place
    | replaced _ _ _ _ _ _ versions =>
      rw [versions, length_modifyFirst] at within
      exact absurd within place
    | appended added numbered versions _ _ graph published =>
      have last : version = added := by
        rw [versions, List.length_append, List.length_singleton] at within
        rw [versions, List.getElem?_append_right (Nat.le_of_not_lt place),
          (by omega : index - template.versions.length = 0)] at found
        exact (Option.some.inj found).symm
      subst last
      refine .inr ⟨numbered, fun isPublished => ?_⟩
      obtain ⟨publisher, notes, now, rfl⟩ := published isPublished
      exact ⟨graph, publisher, notes, now, rfl⟩

/-- An entry that is valid if it is published, with a number up to a bound. -/
structure TemplateVersion.IsVetted (version : TemplateVersion) (bound : Nat) : Prop where
  /-- A published graph has no defect, whatever the limit on workflow nodes. -/
  valid : version.isPublished = true → ∀ limit, (version.graph.check limit).isValid = true
  numbered : version.number.toNat ≤ bound

/-- All entries of a history are vetted. -/
def Template.IsVetted (template : Template) (bound : Nat) : Prop :=
  ∀ version ∈ template.versions, version.IsVetted bound

/-- All templates of a state are vetted. -/
def State.IsVetted (state : State) (bound : Nat) : Prop :=
  ∀ template ∈ state.templates, template.IsVetted bound

theorem TemplateVersion.IsVetted.continued {version later : TemplateVersion} {bound : Nat}
    (vetted : version.IsVetted bound) (continues : later.Continues version) :
    later.IsVetted bound where
  valid published limit := by
    have before : version.isPublished = true := continues.isPublished.symm.trans published
    rw [continues.graph before]
    exact vetted.valid before limit
  numbered := by
    rw [continues.number]
    exact vetted.numbered

namespace Template

variable {template : Template} {bound : Nat}

theorem IsVetted.mono {larger : Nat} (vetted : template.IsVetted bound) (le : bound ≤ larger) :
    template.IsVetted larger :=
  fun version inside =>
    ⟨(vetted version inside).valid, Nat.le_trans (vetted version inside).numbered le⟩

/-- The next number is at most one past a bound of all numbers. -/
theorem IsVetted.nextNumber?_le {number : UInt32} (vetted : template.IsVetted bound)
    (next : template.nextNumber? = some number) : number.toNat ≤ bound + 1 := by
  have latest : template.latestNumber.toNat ≤ bound :=
    (template.latestNumber_le_iff bound).2 fun version inside => (vetted version inside).numbered
  rw [nextNumber?_eq_some_iff.1 next]
  exact Nat.succ_le_succ latest

/-- While the bound is below the last number of 32 bits, no step stops the program. -/
theorem IsVetted.isSome_outcome? (vetted : template.IsVetted bound) (short : bound < 2 ^ 32 - 1)
    (step : HistoryStep) : (step.outcome? template).isSome = true := by
  have room : template.HasRoom :=
    fun version inside => Nat.lt_of_le_of_lt (vetted version inside).numbered short
  obtain ⟨number, next⟩ := hasRoom_iff.1 room
  rw [Option.isSome_iff_ne_none]
  intro stopped
  have none := ((step.outcome?_eq_none_iff template).1 stopped).2
  rw [next] at none
  contradiction

/-- A step that publishes nothing but a graph without defects keeps a history vetted, up to one
number more. -/
theorem IsVetted.apply (vetted : template.IsVetted bound) (step : HistoryStep)
    (publication : ∀ publisher notes now, step = .publish publisher notes now →
      ∃ nodeLimit graph, template.activeGraph? = some graph ∧
        (graph.check nodeLimit).isValid = true) :
    (step.apply template).IsVetted (bound + 1) := by
  intro version inside
  rcases step.mem_apply inside with ⟨earlier, earlierInside, continues⟩ | ⟨number, published⟩
  · exact (vetted.mono (Nat.le_succ bound) earlier earlierInside).continued continues
  · refine ⟨fun isPublished limit => ?_, vetted.nextNumber?_le number⟩
    obtain ⟨active, publisher, notes, now, isPublication⟩ := published isPublished
    obtain ⟨nodeLimit, graph, found, valid⟩ := publication publisher notes now isPublication
    obtain rfl : graph = version.graph := Option.some.inj (found.symm.trans active)
    -- The defects do not depend on the limit.
    exact valid

end Template

/-! ## Runs -/

namespace Session

theorem isVetted_withTemplate {session : Session} {template : Template} {bound : Nat}
    (vetted : session.state.IsVetted bound) (revised : template.IsVetted bound) :
    (session.withTemplate template).state.IsVetted bound := by
  intro other inside
  rcases mem_modifyFirst inside with earlier | ⟨_, _, _, rfl⟩
  · exact vetted other earlier
  · exact revised

/-- A routine operation keeps a state vetted, up to one number more. -/
theorem RoutineEffect.isVetted {before after : Session} {bound : Nat}
    (effect : before.RoutineEffect after) (vetted : before.state.IsVetted bound) :
    after.state.IsVetted (bound + 1) := by
  have kept : before.state.IsVetted (bound + 1) :=
    fun template inside => (vetted template inside).mono (Nat.le_succ bound)
  cases effect with
  | responsesWritten => exact kept
  | performed operation routine _ effect =>
    cases effect with
    | unchanged | assignmentIssued | assignmentRevised | responsesWritten => exact kept
    | templateAdded _ template earlier id history =>
      refine List.forall_mem_cons.2 ⟨?_, kept⟩
      rcases history with ⟨graph, versions, _⟩ | ⟨source, inside, versions, _⟩
      · intro version first
        obtain rfl := List.mem_singleton.1 (versions ▸ first)
        exact ⟨fun draft => absurd draft Bool.false_ne_true, Nat.le_add_left 1 bound⟩
      · intro version copied
        exact kept source inside version (versions ▸ copied)
    | templateArchived _ _ template found =>
      exact isVetted_withTemplate kept (kept template (List.mem_of_find?_eq_some found))
    | templateStepped _ _ template revised found _ step versions _ _ publication =>
      refine isVetted_withTemplate kept fun version inside => ?_
      have stepped := (vetted template (List.mem_of_find?_eq_some found)).apply step publication
      exact stepped version (versions ▸ inside)
    | templateDeleted => exact fun template inside => kept template (List.mem_filter.1 inside).1
    | intakeReplaced catalog => exact absurd rfl (routine catalog)

/-- A run keeps a state vetted, up to one number more for each operation. -/
theorem isVetted_runRoutine {session : Session} {bound : Nat}
    (vetted : session.state.IsVetted bound) (steps : List (Timestamp × RoutineOperation)) :
    (session.runRoutine steps).state.IsVetted (bound + steps.length) := by
  induction steps generalizing session bound with
  | nil => exact vetted
  | cons step steps inductionHypothesis =>
    have here : (session.atTime step.1).state.IsVetted bound := vetted
    have rest := inductionHypothesis ((step.2.effect _).isVetted here)
    rwa [List.length_cons, Nat.add_comm steps.length, ← Nat.add_assoc]

end Session

/-! ## Publications -/

namespace Template

/-- A published entry with the active graph is appended, and its number made active. -/
structure Publication (earlier later : Template) (version : TemplateVersion) : Prop where
  published : version.isPublished = true
  graph : earlier.activeGraph? = some version.graph
  numbered : earlier.nextNumber? = some version.number
  versions : later.versions = earlier.versions ++ [version]
  active : later.activeVersion = version.number

/-- The active version is the new one. -/
theorem Publication.active?_eq {earlier later : Template} {version : TemplateVersion}
    (publication : Publication earlier later version) : later.active? = some version := by
  rw [active?, publication.active]
  exact version?_append_of_lt (fun _ inside => lt_of_nextNumber? publication.numbered inside) later
    publication.versions

end Template

namespace Session

/-- A template in place of the one with its id is found under it. -/
theorem template?_withTemplate_self {session : Session} {id : String} {template revised : Template}
    (found : session.state.template? id = some template) (sameId : revised.id = template.id) :
    (session.withTemplate revised).state.template? id = some revised := by
  have own : (id == revised.id) = true := beq_iff_eq.2 (by rw [sameId, template?_id found])
  rw [template?_withTemplate, if_pos own, found, Option.map_some]

/-- A publication that is not refused appends to the template with the id. -/
theorem publication_of_ok {session after : Session} {limit : Nat} {id : String}
    {publisher : Option Publisher} {notes : Option String} {number : UInt32}
    (published : (Action.publishVersion limit id publisher notes).perform session =
      (.ok number, after)) :
    ∃ earlier later version, session.state.template? id = some earlier ∧
      after.state.template? id = some later ∧ earlier.Publication later version ∧
      version.number = number := by
  have outcome := Action.perform_publishVersion limit id publisher notes session
  cases found : session.state.template? id with
  | none => simp [published, found] at outcome
  | some earlier =>
    cases active : earlier.activeGraph? with
    | none => simp [published, found, active] at outcome
    | some graph =>
      by_cases valid : (graph.check limit).isValid = true
      · cases next : earlier.nextNumber? with
        | none => simp [published, found, active, valid, next] at outcome
        | some fresh =>
          simp only [published, found, active, valid, if_true, next] at outcome
          obtain ⟨⟨rfl⟩, rfl⟩ := Prod.mk.inj outcome
          let version : TemplateVersion := .published number graph (publisher.getD .attorney)
            session.services.now (trimmed? notes)
          exact ⟨earlier, earlier.append version session.services.now, version, rfl,
            template?_withTemplate_self found rfl, ⟨rfl, active, next, rfl, rfl⟩, rfl⟩
      · simp [published, found, active, valid] at outcome

/-- Along every run of routine operations from the empty state, whatever the limits that graphs are
checked against, no published entry of a template has a defect. A publication that is not refused
appends an entry with the graph that was active before, and reports its number; the entry is active
afterwards, and so is this graph. The program stops for want of a number in no run with fewer
operations than there are numbers of 32 bits. -/
theorem published_runRoutine (services : Services) (steps : List (Timestamp × RoutineOperation)) :
    let session := (⟨.empty, services⟩ : Session).runRoutine steps
    (∀ template ∈ session.state.templates, ∀ version ∈ template.versions,
      version.isPublished = true → ∀ limit, (version.graph.check limit).isValid = true) ∧
    (∀ moment limit id publisher notes number after,
      (Action.publishVersion limit id publisher notes).perform (session.atTime moment) =
        (.ok number, after) →
      ∃ earlier later version, session.state.template? id = some earlier ∧
        after.state.template? id = some later ∧ earlier.Publication later version ∧
        version.number = number ∧ later.active? = some version ∧
        later.activeGraph? = earlier.activeGraph?) ∧
    (steps.length < 2 ^ 32 - 1 → ∀ template ∈ session.state.templates, ∀ step : HistoryStep,
      (step.outcome? template).isSome = true) := by
  intro session
  have start : (⟨.empty, services⟩ : Session).state.IsVetted 0 :=
    fun _ inside => absurd inside List.not_mem_nil
  have vetted : session.state.IsVetted (0 + steps.length) := isVetted_runRoutine start steps
  refine ⟨?_, ?_, ?_⟩
  · intro template inside version member
    exact (vetted template inside version member).valid
  · intro moment limit id publisher notes number after published
    obtain ⟨earlier, later, version, found, laterFound, publication, sameNumber⟩ :=
      publication_of_ok published
    refine ⟨earlier, later, version, found, laterFound, publication, sameNumber,
      publication.active?_eq, ?_⟩
    rw [Template.activeGraph?, publication.active?_eq, publication.graph, Option.map_some]
  · intro short template inside
    rw [Nat.zero_add] at vetted
    exact (vetted template inside).isSome_outcome? short

/-- The first draft of a template is published under the number two and edited, and the second draft
is published under the number four, whose graph is active then. -/
theorem published_runRoutine_created :
    let second : Graph := .chain [.ofKind .start "start", .ofKind .finish "end"]
    let steps : List (Timestamp × RoutineOperation) :=
      [(.epoch, .template (.create "Intake" none)),
        (.epoch, .template (.publish defaultNodeLimit "qtpl-5" none none)),
        (.epoch, .template (.updateGraph "qtpl-5" second))]
    let session := empty.runRoutine steps
    ∃ after earlier later version,
      (Action.publishVersion defaultNodeLimit "qtpl-5" none none).perform
        (session.atTime .epoch) = (.ok 4, after) ∧
      session.state.template? "qtpl-5" = some earlier ∧
      after.state.template? "qtpl-5" = some later ∧ earlier.Publication later version ∧
      later.active? = some version ∧ later.activeGraph? = earlier.activeGraph? ∧
      steps.length < 2 ^ 32 - 1 ∧ ∀ step : HistoryStep, (step.outcome? earlier).isSome = true := by
  intro second steps session
  have outcome : ((Action.publishVersion defaultNodeLimit "qtpl-5" none none).perform
      (session.atTime .epoch)).1 = .ok 4 := by decide +kernel
  have published := Prod.ext outcome rfl
  have short : steps.length < 2 ^ 32 - 1 := by decide
  obtain ⟨_, publications, goesOn⟩ := published_runRoutine empty.services steps
  obtain ⟨earlier, later, version, found, laterFound, publication, _, active, graph⟩ :=
    publications _ _ _ _ _ _ _ published
  exact ⟨_, earlier, later, version, published, found, laterFound, publication, active, graph,
    short, goesOn short earlier (List.mem_of_find?_eq_some found)⟩

end Session

end Questionnaire
