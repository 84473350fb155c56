import Questionnaire.Proofs.State.Retaining
import Questionnaire.Proofs.Store.Calls

/-!
# Reads that fail

A store takes a document that it cannot fetch for a missing one. What a run of calls that change
nothing does to the stored document therefore hangs on the calls that are refused the document: if
they write, the document is replaced by one that is rebuilt without it, and as long as none of them
writes, the document retains everything but the intake that settling replaces.
-/

namespace Questionnaire

namespace Store

variable {α : Type}

/-- The call does not change the state that it loads. -/
def Call.IsIdle (call : Call α) : Prop :=
  match call with
  | .load => True
  | .update action => ∀ session, (action.perform session).2.state = session.state

/-- No call of a run writes after the document was refused to it. -/
def NeverWritesBlindly (config : StoreConfig) (catalog : Catalog) (start : Services × Memory)
    (steps : List (Timestamp × Call α)) : Prop :=
  ∀ done moment call rest, steps = done ++ (moment, call) :: rest →
    let reached := runCalls config catalog start done
    reached.2.refusesRead reached.2.accesses = false ∨
      (call.perform config catalog ({ reached.1 with now := moment }, reached.2)).2.writes =
        reached.2.writes

variable {config : StoreConfig} {catalog : Catalog} {services : Services} {memory : Memory}
  {call : Call α}

theorem NeverWritesBlindly.tail {start : Services × Memory} {step : Timestamp × Call α}
    {steps : List (Timestamp × Call α)}
    (never : NeverWritesBlindly config catalog start (step :: steps)) :
    NeverWritesBlindly config catalog
      (step.2.perform config catalog ({ start.1 with now := step.1 }, start.2)) steps := by
  intro done moment call rest split
  exact never (step :: done) moment call rest (congrArg _ split)

/-- An idle call writes at most the text of the state that it loads. -/
theorem puts_of_isIdle (idle : call.IsIdle) {loaded : State} {loadedServices : Services}
    {loadedMemory : Memory}
    (isLoaded : perform (overMemory config catalog).load services memory =
      (.ok loaded, loadedServices, loadedMemory)) :
    Memory.Puts config.documentPlace loaded.render memory
      (call.perform config catalog (services, memory)).2 := by
  have puts := puts_of_load isLoaded
  cases call with
  | load =>
    rw [Call.perform, isLoaded]
    exact puts
  | update action =>
    have same := idle { state := loaded, services := loadedServices }
    rw [Call.perform, perform_update action isLoaded]
    cases changed : action.perform { state := loaded, services := loadedServices } with
    | mk outcome after =>
      cases outcome with
      | error error => exact puts
      | ok value =>
        obtain rfl : after.state = loaded := (congrArg (·.2.state) changed).symm.trans same
        exact puts.trans Memory.puts_writing

/-- An idle call to which the document is refused puts a rebuilt state in its place. -/
theorem puts_of_refused (services : Services) (idle : call.IsIdle)
    (refused : memory.refusesRead memory.accesses = true) :
    Memory.Puts config.documentPlace
      (migrate catalog (readFirstSchema (memory.reading.found config.firstSchemaPlace))
        config.seedOnEmpty services.now).render memory
      (call.perform config catalog (services, memory)).2 := by
  have missing : memory.found config.documentPlace = none := if_pos refused
  have isLoaded := perform_rebuild config catalog services memory.reading
  have isRebuilt : perform (overMemory config catalog).load services memory =
      perform (overMemory config catalog).rebuild services memory.reading := by
    rw [perform_load, missing]
    rfl
  exact puts_of_isIdle idle (isRebuilt.trans isLoaded)

/-- After an idle call that is not refused the document, or writes nothing, the document can be read
and comes of the former one by settling. -/
theorem readDocument_of_isIdle (services : Services) {base current : State}
    (whole : base.IsReadBack)
    (intake : config.seedOnEmpty = true →
      ∀ number ∈ catalog.intakeGraph.numbers, number.IsReadBack)
    (settles : base.SettlesTo catalog config.seedOnEmpty current)
    (readable : readDocument (memory.entries.get? config.documentPlace) = .ok current)
    (idle : call.IsIdle)
    (sighted : memory.refusesRead memory.accesses = false ∨
      (call.perform config catalog (services, memory)).2.writes = memory.writes) :
    ∃ later, base.SettlesTo catalog config.seedOnEmpty later ∧
      readDocument ((call.perform config catalog (services, memory)).2.entries.get?
        config.documentPlace) = .ok later := by
  obtain ⟨loaded, loadedServices, loadedMemory, isLoaded⟩ :=
    exists_perform_load config catalog services memory
  cases puts_of_isIdle idle isLoaded with
  | unwritten _ entries => exact ⟨current, settles, entries ▸ readable⟩
  | written writes stored =>
    -- The call wrote, so it was granted the document and the text is that of the settled state.
    rcases sighted with granted | unwritten
    · have found : memory.found config.documentPlace = memory.entries.get? config.documentPlace :=
        if_neg (by simp [granted])
      simp only [perform_load, found, readable, Prod.mk.injEq, Except.ok.injEq] at isLoaded
      obtain ⟨rfl, _⟩ := isLoaded
      have settlesAgain := settles.settle services
      exact ⟨_, settlesAgain, stored ▸ (settlesAgain.isReadBack whole intake).readDocument⟩
    · omega

/-- As long as no idle call of a run writes after the document was refused to it, the document can
be read and comes of the first one by settling. -/
theorem readDocument_runCalls {start : Services × Memory} {steps : List (Timestamp × Call α)}
    {base current : State} (whole : base.IsReadBack)
    (intake : config.seedOnEmpty = true →
      ∀ number ∈ catalog.intakeGraph.numbers, number.IsReadBack)
    (settles : base.SettlesTo catalog config.seedOnEmpty current)
    (readable : readDocument (start.2.entries.get? config.documentPlace) = .ok current)
    (idle : ∀ step ∈ steps, step.2.IsIdle)
    (never : NeverWritesBlindly config catalog start steps) :
    ∃ later, base.SettlesTo catalog config.seedOnEmpty later ∧
      readDocument ((runCalls config catalog start steps).2.entries.get? config.documentPlace) =
        .ok later := by
  induction steps generalizing start current with
  | nil => exact ⟨current, settles, readable⟩
  | cons step steps inductionHypothesis =>
    obtain ⟨here, later⟩ := List.forall_mem_cons.1 idle
    obtain ⟨next, settlesNext, readableNext⟩ :=
      readDocument_of_isIdle { start.1 with now := step.1 } whole intake settles
        readable here (never [] step.1 step.2 steps rfl)
    exact inductionHypothesis settlesNext readableNext later never.tail

/-- As long as no call of a run of idle calls writes after the document was refused to it, whatever
else is refused, the stored document can be read and retains every entry, up to clean titles and the
intake that settling replaces. A call to which the document is refused then either writes nothing or
leaves the document that is rebuilt from the seeds and the document of the first schema. -/
theorem runCalls_retains (config : StoreConfig) (catalog : Catalog) (start : Services × Memory)
    (steps : List (Timestamp × Call α)) {base : State} (whole : base.IsReadBack)
    (intake : config.seedOnEmpty = true →
      ∀ number ∈ catalog.intakeGraph.numbers, number.IsReadBack)
    (readable : readDocument (start.2.entries.get? config.documentPlace) = .ok base)
    (idle : ∀ step ∈ steps, step.2.IsIdle)
    (never : NeverWritesBlindly config catalog start steps) :
    let reached := runCalls config catalog start steps
    (∃ current, (base.lasting catalog config.seedOnEmpty).Retains current ∧
      readDocument (reached.2.entries.get? config.documentPlace) = .ok current) ∧
    ∀ moment (call : Call α), call.IsIdle → reached.2.refusesRead reached.2.accesses = true →
      let rebuilt := migrate catalog
        (readFirstSchema (reached.2.reading.found config.firstSchemaPlace)) config.seedOnEmpty
        moment
      Memory.Puts config.documentPlace rebuilt.render reached.2
        (call.perform config catalog ({ reached.1 with now := moment }, reached.2)).2 := by
  intro reached
  obtain ⟨current, settles, readableAfter⟩ :=
    readDocument_runCalls whole intake .same readable idle never
  refine ⟨⟨current, settles.retains, readableAfter⟩, ?_⟩
  clear_value reached
  intro moment call isIdle refused
  exact puts_of_refused { reached.1 with now := moment } isIdle refused

/-- A load that is refused everything leaves the document, and the next update cleans its title. -/
theorem runCalls_retains_copied :
    let base : State :=
      { templates := [.ofVersion "t" "Copy of A" .custom .attorney (.draft 1 .empty) .epoch] }
    let config : StoreConfig := { seedOnEmpty := false }
    let memory : Memory :=
      { entries := KeyMap.empty.insert config.documentPlace base.render
        refusesRead := fun access => decide (access < 2)
        refusesWrite := fun access => decide (access < 3) }
    let start : Services × Memory := ({ now := .epoch }, memory)
    let steps : List (Timestamp × Call Unit) := [(.epoch, .load), (.epoch, .update (pure ()))]
    memory.refusesRead memory.accesses = true ∧ NeverWritesBlindly config [] start steps ∧
      ∃ current, base.Retains current ∧
        readDocument ((runCalls config [] start steps).2.entries.get? config.documentPlace) =
          .ok current := by
  intro base config memory start steps
  have whole : base.IsReadBack := State.isReadBack_of_templates (List.cons_ne_nil _ _) rfl
  have stored : memory.entries.get? config.documentPlace = some base.render :=
    (KeyMap.get?_insert _ _ _ _).trans (if_pos rfl)
  have readable : readDocument (memory.entries.get? config.documentPlace) = .ok base :=
    stored ▸ whole.readDocument
  have idle : ∀ step ∈ steps, step.2.IsIdle :=
    List.forall_mem_cons.2 ⟨trivial, List.forall_mem_singleton.2 fun _ => rfl⟩
  have never : NeverWritesBlindly config [] start steps := by
    rintro (_ | ⟨first, _ | ⟨second, done⟩⟩) moment call rest split
    · obtain ⟨⟨rfl, rfl⟩, -⟩ := List.cons.inj split
      exact .inr rfl
    · obtain ⟨rfl, later⟩ := List.cons.inj split
      exact .inl rfl
    · exact absurd (congrArg List.length split) (by simp [steps])
  exact ⟨rfl, never, (runCalls_retains config [] start steps whole nofun readable idle never).1⟩

/-- A load to which the document is refused writes a document without templates in its place, and
what was stored is lost when the document can be fetched again. -/
theorem runCalls_refused :
    let base : State :=
      { templates := [.ofVersion "t" "A" .custom .attorney (.draft 1 .empty) .epoch] }
    let config : StoreConfig := { seedOnEmpty := false }
    let memory : Memory :=
      { entries := KeyMap.empty.insert config.documentPlace base.render
        refusesRead := fun access => decide (access < 2) }
    let steps : List (Timestamp × Call Unit) := [(.epoch, .load)]
    let reached := runCalls config [] ({ now := .epoch }, memory) steps
    readDocument (memory.entries.get? config.documentPlace) = .ok base ∧
      (∀ step ∈ steps, step.2.IsIdle) ∧ (∀ access, memory.refusesWrite access = false) ∧
      (∀ access, reached.2.accesses ≤ access → reached.2.refusesRead access = false) ∧
      readDocument (reached.2.entries.get? config.documentPlace) = .error .noTemplates := by
  intro base config memory steps reached
  have whole : base.IsReadBack := State.isReadBack_of_templates (List.cons_ne_nil _ _) rfl
  have stored : memory.entries.get? config.documentPlace = some base.render :=
    (KeyMap.get?_insert _ _ _ _).trans (if_pos rfl)
  have isReached : reached.2 =
      memory.reading.reading.writing config.documentPlace State.empty.render := rfl
  have printed : Json.parse? State.empty.render = some State.empty.toJson :=
    State.parse?_render (fun _ inside => absurd inside List.not_mem_nil) nofun
  have kept : State.empty.IsKept := ⟨rfl, fun _ inside => absurd inside List.not_mem_nil, nofun⟩
  have replaced : reached.2.entries.get? config.documentPlace = some State.empty.render := by
    rw [isReached, Memory.get?_writing]
    exact if_neg Bool.false_ne_true
  refine ⟨stored ▸ whole.readDocument, List.forall_mem_singleton.2 trivial, fun _ => rfl, ?_, ?_⟩
  · intro access later
    have reads : 3 ≤ access := later
    have unrefused : ¬ access < 2 := by omega
    exact decide_eq_false unrefused
  · rw [replaced, State.readDocument_render kept printed]
    rfl

end Store

end Questionnaire
