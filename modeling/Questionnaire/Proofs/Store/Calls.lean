import Questionnaire.Proofs.Store.Loading

/-!
# Calls of a store

A store is used by loads and updates, one after the other and each at a time of its own, over one
memory that may refuse any access. `Store.IsTransaction` says what an update keeps to at every point
of such a run: it is acknowledged if and only if its change was accepted and written, and a change
that was refused is never found by a later call.
-/

namespace Questionnaire

namespace Memory

variable (memory : Memory) (key text : String)

theorem write_eq :
    memory.write key text =
      (if memory.refusesWrite memory.accesses then .error "set refused" else .ok (),
        memory.writing key text) := by
  rw [writing, write]
  split <;> rfl

/-- After a write the key holds the text that was written, or what it held before. -/
theorem get?_writing :
    (memory.writing key text).entries.get? key =
      if memory.refusesWrite memory.accesses then memory.entries.get? key else some text := by
  rw [writing, write]
  split
  · rfl
  · exact (KeyMap.get?_insert _ _ _ _).trans (if_pos rfl)

variable {memory}

/-- A write that is refused leaves the texts as they were. -/
theorem writing_of_refused (refused : memory.refusesWrite memory.accesses = true) :
    (memory.writing key text).entries = memory.entries ∧
      (memory.writing key text).writes = memory.writes := by
  rw [writing, write, if_pos refused]
  exact ⟨rfl, rfl⟩

variable {key text}

/-- What comes of trying to put a text under a key, once or more often. -/
inductive Puts (key text : String) (before after : Memory) : Prop where
  /-- Nothing was written. -/
  | unwritten (writes : after.writes = before.writes) (entries : after.entries = before.entries)
  /-- The text was written. -/
  | written (writes : before.writes < after.writes) (stored : after.entries.get? key = some text)

theorem Puts.trans {before between after : Memory} (first : Puts key text before between)
    (second : Puts key text between after) : Puts key text before after := by
  cases second with
  | unwritten writes entries =>
    cases first with
    | unwritten firstWrites firstEntries =>
      exact .unwritten (writes.trans firstWrites) (entries.trans firstEntries)
    | written firstWrites stored =>
      exact .written (writes ▸ firstWrites) (entries ▸ stored)
  | written writes stored =>
    cases first with
    | unwritten firstWrites _ => exact .written (firstWrites ▸ writes) stored
    | written firstWrites _ => exact .written (firstWrites.trans writes) stored

theorem puts_reading : Puts key text memory memory.reading :=
  .unwritten rfl rfl

theorem puts_writing : Puts key text memory (memory.writing key text) := by
  cases refused : memory.refusesWrite memory.accesses with
  | true =>
    obtain ⟨entries, writes⟩ := writing_of_refused key text refused
    exact .unwritten writes entries
  | false =>
    have stored := memory.get?_writing key text
    rw [refused, if_neg Bool.false_ne_true] at stored
    refine .written ?_ stored
    rw [writing, write, refused, if_neg Bool.false_ne_true]
    exact Nat.lt_succ_self _

end Memory

namespace Store

variable {α : Type} (config : StoreConfig) (catalog : Catalog)

/-- A call of a store. -/
inductive Call (α : Type) where
  /-- The state is loaded. -/
  | load
  /-- The state is loaded, changed and written. -/
  | update (action : Action α)

/-- The services and the memory after a call, whatever comes of it. -/
def Call.perform (call : Call α) (start : Services × Memory) : Services × Memory :=
  match call with
  | .load => (Store.perform (overMemory config catalog).load start.1 start.2).2
  | .update action => (Store.perform ((overMemory config catalog).update action) start.1 start.2).2

/-- The services and the memory after a list of calls, each at a time of its own. -/
def runCalls (start : Services × Memory) (steps : List (Timestamp × Call α)) :
    Services × Memory :=
  steps.foldl
    (fun reached step => step.2.perform config catalog ({ reached.1 with now := step.1 }, reached.2))
    start

@[simp] theorem runCalls_cons (start : Services × Memory) (step : Timestamp × Call α)
    (steps : List (Timestamp × Call α)) :
    runCalls config catalog start (step :: steps) =
      runCalls config catalog
        (step.2.perform config catalog ({ start.1 with now := step.1 }, start.2)) steps := rfl

theorem runCalls_append (start : Services × Memory) (first second : List (Timestamp × Call α)) :
    runCalls config catalog start (first ++ second) =
      runCalls config catalog (runCalls config catalog start first) second :=
  List.foldl_append

/-- Loading is never refused. -/
theorem exists_perform_load (services : Services) (memory : Memory) :
    ∃ loaded loadedServices loadedMemory,
      perform (overMemory config catalog).load services memory =
        (.ok loaded, loadedServices, loadedMemory) := by
  rw [perform_load]
  cases readDocument (memory.found config.documentPlace) with
  | error reason => exact ⟨_, _, _, perform_rebuild _ _ _ _⟩
  | ok stored => exact ⟨_, _, _, rfl⟩

variable {config catalog} {services loadedServices : Services} {memory loadedMemory : Memory}
  {loaded : State}

/-- A load writes at most the text of the state that it gives. -/
theorem puts_of_load
    (isLoaded : perform (overMemory config catalog).load services memory =
      (.ok loaded, loadedServices, loadedMemory)) :
    Memory.Puts config.documentPlace loaded.render memory loadedMemory := by
  rw [perform_load] at isLoaded
  cases read : readDocument (memory.found config.documentPlace) with
  | error reason =>
    simp only [read, perform_rebuild, Prod.mk.injEq, Except.ok.injEq] at isLoaded
    obtain ⟨rfl, -, rfl⟩ := isLoaded
    exact Memory.puts_reading.trans (Memory.puts_reading.trans Memory.puts_writing)
  | ok stored =>
    simp only [read, Prod.mk.injEq, Except.ok.injEq] at isLoaded
    obtain ⟨rfl, -, rfl⟩ := isLoaded
    split
    · exact Memory.puts_reading.trans Memory.puts_writing
    · exact Memory.puts_reading

theorem perform_save (state : State) (services : Services) (memory : Memory) :
    perform ((overMemory config catalog).save state) services memory =
      (if memory.refusesWrite memory.accesses then .error (.persistence "set refused")
        else .ok (), services, memory.writing config.documentPlace state.render) := by
  have written : perform
      (liftM ((overMemory config catalog).backend.write config.documentPlace state.render))
      services memory = (.ok (memory.write config.documentPlace state.render).1, services,
        (memory.write config.documentPlace state.render).2) := rfl
  simp only [save, perform_bind, overMemory_config, written, Memory.write_eq]
  cases memory.refusesWrite memory.accesses with
  | false | true => rfl

/-- A reset writes the state that a store starts with, and gives it if the write succeeds. -/
theorem perform_reset (services : Services) (memory : Memory) :
    perform (overMemory config catalog).reset services memory =
      (if memory.refusesWrite memory.accesses then .error (.persistence "set refused")
        else .ok (seedState catalog services.now), services,
        memory.writing config.documentPlace (seedState catalog services.now).render) := by
  have now : perform (get : StoreAction (StateM Memory) Services) services memory =
      (.ok services, services, memory) := rfl
  simp only [reset, perform_bind, now, overMemory_catalog, perform_save]
  cases memory.refusesWrite memory.accesses with
  | false | true => rfl

/-- An update is a load, the change, and a write if the change was accepted. -/
theorem perform_update (action : Action α)
    (isLoaded : perform (overMemory config catalog).load services memory =
      (.ok loaded, loadedServices, loadedMemory)) :
    perform ((overMemory config catalog).update action) services memory =
      match action.perform { state := loaded, services := loadedServices } with
      | (.error error, after) => (.error error, after.services, loadedMemory)
      | (.ok value, after) =>
        (if loadedMemory.refusesWrite loadedMemory.accesses then
            .error (.persistence "set refused")
          else .ok value,
          after.services, loadedMemory.writing config.documentPlace after.state.render) := by
  simp only [update, perform_bind, isLoaded, perform_onState]
  cases action.perform { state := loaded, services := loadedServices } with
  | mk outcome after =>
    cases outcome with
    | error error => rfl
    | ok value =>
      simp only [perform_save]
      cases loadedMemory.refusesWrite loadedMemory.accesses with
      | false | true => rfl

/-- What an update keeps to, if the memory is `before` at the call and `after` afterwards, a load in
its place gives the state `loaded` and leaves the memory `loadedMemory`, `changed` comes of the change
of that state, and `outcome` of the update. -/
structure IsTransaction (place : String) (before loadedMemory after : Memory) (loaded : State)
    (changed : Except StoreError α × Session) (outcome : Except StoreError α) : Prop where
  /-- The update is acknowledged if and only if the change is accepted and the last write succeeds. -/
  ok_iff : ∀ value, outcome = .ok value ↔
    changed.1 = .ok value ∧ loadedMemory.refusesWrite loadedMemory.accesses = false
  /-- Then the changed state is stored. -/
  ok_stored : ∀ value, outcome = .ok value →
    after.entries.get? place = some changed.2.state.render
  /-- Otherwise what was stored before is stored, or the state that was loaded. -/
  error_stored : ∀ error, outcome = .error error →
    after.entries.get? place = before.entries.get? place ∨
      after.entries.get? place = some loaded.render
  /-- Nothing is stored then but what the load left. -/
  error_entries : ∀ error, outcome = .error error →
    after.entries = loadedMemory.entries ∧ after.writes = loadedMemory.writes
  /-- A refused change is the reason, and the memory is the one that the load leaves. -/
  error_memory : ∀ error, changed.1 = .error error → outcome = .error error ∧ after = loadedMemory

theorem isTransaction (action : Action α)
    (isLoaded : perform (overMemory config catalog).load services memory =
      (.ok loaded, loadedServices, loadedMemory)) :
    let changed := action.perform { state := loaded, services := loadedServices }
    let updated := perform ((overMemory config catalog).update action) services memory
    IsTransaction config.documentPlace memory loadedMemory updated.2.2 loaded changed updated.1 ∧
      updated.2.1 = changed.2.services := by
  intro changed updated
  have isUpdated : updated = _ := perform_update action isLoaded
  have stored : loadedMemory.entries.get? config.documentPlace =
        memory.entries.get? config.documentPlace ∨
      loadedMemory.entries.get? config.documentPlace = some loaded.render := by
    cases puts_of_load isLoaded with
    | unwritten _ entries => exact .inl (by rw [entries])
    | written _ stored => exact .inr stored
  rw [isUpdated]
  cases isChanged : action.perform { state := loaded, services := loadedServices } with
  | mk outcome after =>
  cases outcome with
  | error error =>
    have sameChanged : changed = (.error error, after) := isChanged
    rw [sameChanged]
    refine ⟨?_, rfl⟩
    constructor
    · exact fun value => ⟨nofun, nofun⟩
    · exact nofun
    · exact fun _ _ => stored
    · exact fun _ _ => ⟨rfl, rfl⟩
    · exact fun _ same => ⟨same, rfl⟩
  | ok value =>
    have sameChanged : changed = (.ok value, after) := isChanged
    rw [sameChanged]
    refine ⟨?_, rfl⟩
    have written := loadedMemory.get?_writing config.documentPlace after.state.render
    cases refused : loadedMemory.refusesWrite loadedMemory.accesses with
    | true =>
      rw [refused, if_pos rfl] at written
      constructor
      · intro value
        constructor
        · exact nofun
        · exact fun accepted => absurd (refused.symm.trans accepted.2) nofun
      · exact nofun
      · intro _ _
        rwa [written]
      · exact fun _ _ => Memory.writing_of_refused _ _ refused
      · exact nofun
    | false =>
      rw [refused, if_neg Bool.false_ne_true] at written
      constructor
      · exact fun value => ⟨fun same => ⟨same, refused⟩, fun accepted => accepted.1⟩
      · exact fun _ _ => written
      · exact nofun
      · exact nofun
      · exact nofun

/-- Every update of every run keeps to all or nothing, whichever accesses are refused. After a
refused change the run goes on from the memory that a load in place of the update leaves; only the
ids that the change asked for itself, and its own reports, are not taken back. -/
theorem runCalls_isTransaction (config : StoreConfig) (catalog : Catalog)
    (start : Services × Memory) (done rest : List (Timestamp × Call α)) (moment : Timestamp)
    (action : Action α) :
    let reached := runCalls config catalog start done
    let services := { reached.1 with now := moment }
    ∃ loaded loadedServices loadedMemory,
      perform (overMemory config catalog).load services reached.2 =
          (.ok loaded, loadedServices, loadedMemory) ∧
        runCalls config catalog start (done ++ (moment, .load) :: rest) =
          runCalls config catalog (loadedServices, loadedMemory) rest ∧
        let changed := action.perform { state := loaded, services := loadedServices }
        let updated := perform ((overMemory config catalog).update action) services reached.2
        IsTransaction config.documentPlace reached.2 loadedMemory updated.2.2 loaded changed
            updated.1 ∧
          updated.2.1 = changed.2.services ∧
          ∀ error, changed.1 = .error error →
            runCalls config catalog start (done ++ (moment, .update action) :: rest) =
              runCalls config catalog (changed.2.services, loadedMemory) rest := by
  intro reached services
  obtain ⟨loaded, loadedServices, loadedMemory, isLoaded⟩ :=
    exists_perform_load config catalog services reached.2
  obtain ⟨transaction, used⟩ := isTransaction action isLoaded
  refine ⟨loaded, loadedServices, loadedMemory, isLoaded, ?_, transaction, used, ?_⟩
  · have loads : (Call.load : Call α).perform config catalog (services, reached.2) =
        (loadedServices, loadedMemory) := congrArg Prod.snd isLoaded
    rw [runCalls_append, runCalls_cons, loads]
  · intro error refused
    have updates : (Call.update action).perform config catalog (services, reached.2) = (_, _) :=
      Prod.ext used (transaction.error_memory error refused).2
    rw [runCalls_append, runCalls_cons, updates]

end Store

end Questionnaire
