import Questionnaire.Proofs.Document.Inversion
import Questionnaire.Proofs.State.RetitlingAgain
import Questionnaire.Proofs.Store.Settling

/-!
# Loading again

`Store.perform` runs an operation of a store over texts in memory. A load over a memory that refuses
nothing gives a state, and the next load gives the same state and leaves the memory as it is, unless
the first one wrote a state that its own document does not keep.
-/

namespace Questionnaire

namespace Memory

/-- What a read of the key gives now; a refused read counts as finding nothing. -/
def found (memory : Memory) (key : String) : Option String :=
  if memory.refusesRead memory.accesses then none else memory.entries.get? key

/-- The memory after a read. -/
def reading (memory : Memory) : Memory :=
  { memory with accesses := memory.accesses + 1 }

/-- The memory after a write, which may have been refused. -/
def writing (memory : Memory) (key text : String) : Memory :=
  (memory.write key text).2

/-- The memory refuses no access. -/
structure AcceptsAll (memory : Memory) : Prop where
  /-- No read is refused. -/
  reads : ∀ access, memory.refusesRead access = false
  /-- No write is refused. -/
  writes : ∀ access, memory.refusesWrite access = false

variable {memory : Memory}

theorem AcceptsAll.reading (accepts : memory.AcceptsAll) : memory.reading.AcceptsAll :=
  ⟨accepts.reads, accepts.writes⟩

theorem AcceptsAll.found (accepts : memory.AcceptsAll) (key : String) :
    memory.found key = memory.entries.get? key := by
  simp [Memory.found, accepts.reads]

theorem AcceptsAll.writing (accepts : memory.AcceptsAll) (key text : String) :
    memory.writing key text =
      { memory with
        entries := memory.entries.insert key text
        accesses := memory.accesses + 1
        writes := memory.writes + 1 } := by
  simp [Memory.writing, Memory.write, accepts.writes]

/-- A memory that accepts all accepts all after a write. -/
theorem AcceptsAll.afterWriting (accepts : memory.AcceptsAll) (key text : String) :
    (memory.writing key text).AcceptsAll := by
  rw [accepts.writing]
  exact ⟨accepts.reads, accepts.writes⟩

end Memory

/-- A store over texts in memory. -/
def Store.overMemory (config : StoreConfig) (catalog : Catalog) : Store (StateM Memory) where
  backend := Memory.backend
  config
  catalog

namespace Store

@[simp] theorem overMemory_config (config : StoreConfig) (catalog : Catalog) :
    (overMemory config catalog).config = config := rfl

@[simp] theorem overMemory_catalog (config : StoreConfig) (catalog : Catalog) :
    (overMemory config catalog).catalog = catalog := rfl

variable {α β : Type}

/-- Runs an operation of a store over a memory, and gives the outcome, the services and the memory
afterwards. -/
def perform (action : StoreAction (StateM Memory) α) (services : Services) (memory : Memory) :
    Except StoreError α × Services × Memory :=
  let ((outcome, services), memory) := (action.run.run services).run memory
  (outcome, services, memory)

theorem perform_bind (action : StoreAction (StateM Memory) α)
    (next : α → StoreAction (StateM Memory) β) (services : Services) (memory : Memory) :
    perform (action >>= next) services memory =
      match perform action services memory with
      | (.ok value, services, memory) => perform (next value) services memory
      | (.error error, services, memory) => (.error error, services, memory) := by
  simp only [perform, ExceptT.run, StateT.run, bind, ExceptT.bind, ExceptT.mk, StateT.bind]
  rcases action services memory with ⟨⟨outcome, services⟩, memory⟩
  cases outcome <;> rfl

variable (config : StoreConfig) (catalog : Catalog) (services : Services) (memory : Memory)

theorem perform_textAt (key : String) :
    perform ((overMemory config catalog).textAt key) services memory =
      (.ok (memory.found key), services, memory.reading) := by
  have read : perform (liftM ((overMemory config catalog).backend.read key)) services memory =
      (.ok (memory.read key).1, services, (memory.read key).2) := rfl
  rw [textAt, perform_bind, read, Memory.read, Memory.found]
  cases memory.refusesRead memory.accesses <;> rfl

theorem perform_onState (state : State) (action : Action α) :
    perform (onState state action) services memory =
      match action.perform { state, services } with
      | (.ok value, session) => (.ok (value, session.state), session.services, memory)
      | (.error error, session) => (.error error, session.services, memory) := by
  have same : perform (onState state action) services memory =
      ((action.perform { state, services }).1.map fun value =>
          (value, (action.perform { state, services }).2.state),
        (action.perform { state, services }).2.services, memory) := rfl
  rw [same]
  rcases action.perform { state, services } with ⟨outcome, session⟩
  cases outcome <;> rfl

theorem perform_rebuild :
    perform (overMemory config catalog).rebuild services memory =
      let rebuilt := migrate catalog (readFirstSchema (memory.found config.firstSchemaPlace))
        config.seedOnEmpty services.now
      (.ok rebuilt,
        services.report (.stateMigrated rebuilt.archivedV1.isSome rebuilt.templates.length),
        memory.reading.writing config.documentPlace rebuilt.render) := by
  rw [rebuild, perform_bind, perform_textAt]
  rfl

theorem perform_load :
    perform (overMemory config catalog).load services memory =
      match readDocument (memory.found config.documentPlace) with
      | .error _ => perform (overMemory config catalog).rebuild services memory.reading
      | .ok state =>
        let session : Session := { state, services }
        let settled := (session.rehydrated catalog config.seedOnEmpty).retitled
        (.ok settled.state, settled.services,
          if session.needsSettling catalog config.seedOnEmpty then
            memory.reading.writing config.documentPlace settled.state.render
          else memory.reading) := by
  simp only [load, perform_bind, perform_textAt, overMemory_config, overMemory_catalog]
  cases readDocument (memory.found config.documentPlace) with
  | error _ => rfl
  | ok state =>
    simp only [perform_bind, perform_onState, Action.perform_settle]
    cases Session.needsSettling { state, services } catalog config.seedOnEmpty with
    | false | true => rfl

variable {config catalog services memory} {state : State}

/-- A load of a stored state that is settled gives this state and writes nothing. -/
theorem perform_load_settled (given : state.IsGiven catalog config.seedOnEmpty)
    (settled : state.IsSettled) (printed : Json.parse? state.render = some state.toJson)
    (stored : memory.found config.documentPlace = some state.render) :
    perform (overMemory config catalog).load services memory =
      (.ok state, services, memory.reading) := by
  have read := State.readDocument_render (given.isKept settled) printed
  rw [if_neg settled.templates] at read
  obtain ⟨needless, same⟩ :=
    Session.settled_of_isGiven { state, services } given settled.titles
  simp only [perform_load, stored, read, needless, same, Bool.false_eq_true, if_false]

/-- A text that was written is found. -/
theorem found_writing (accepts : memory.AcceptsAll) (key text : String) :
    (memory.writing key text).found key = some text := by
  simp [accepts.writing, Memory.found, accepts.reads]

/-- The state that takes the place of a stale document is given and written. -/
theorem rebuild_effect (accepts : memory.AcceptsAll) {services' : Services} {memory' : Memory}
    (rebuilt : perform (overMemory config catalog).rebuild services memory =
      (.ok state, services', memory')) :
    memory'.writes = memory.writes + 1 ∧
      memory'.found config.documentPlace = some state.render ∧
      state.IsGiven catalog config.seedOnEmpty := by
  simp only [perform_rebuild, Prod.mk.injEq, Except.ok.injEq] at rebuilt
  obtain ⟨rfl, _, rfl⟩ := rebuilt
  refine ⟨?_, found_writing accepts.reading _ _, State.isGiven_migrate catalog _ _ _⟩
  rw [accepts.reading.writing]
  rfl

/-- Loading gives a state, and either writes nothing and would give the same at any time, or writes
the document of the state. -/
theorem load_effect (accepts : memory.AcceptsAll) {services' : Services} {memory' : Memory}
    (loaded : perform (overMemory config catalog).load services memory =
      (.ok state, services', memory')) :
    state.IsGiven catalog config.seedOnEmpty ∧
      ((memory'.writes = memory.writes ∧ ∀ later,
          perform (overMemory config catalog).load later memory' =
            (.ok state, later, memory'.reading)) ∨
        (memory'.writes = memory.writes + 1 ∧
          memory'.found config.documentPlace = some state.render)) := by
  rw [perform_load] at loaded
  cases read : readDocument (memory.found config.documentPlace) with
  | error reason =>
    rw [read] at loaded
    obtain ⟨written, stored, given⟩ := rebuild_effect accepts.reading loaded
    exact ⟨given, .inr ⟨written, stored⟩⟩
  | ok stored =>
    simp only [read, Prod.mk.injEq, Except.ok.injEq] at loaded
    obtain ⟨rfl, _, rfl⟩ := loaded
    obtain ⟨schema, _, archived⟩ := readDocument_ok read
    refine ⟨Session.isGiven_settled schema fun document kept => (archived document kept).1, ?_⟩
    cases needs : Session.needsSettling { state := stored, services } catalog
      config.seedOnEmpty with
    | false =>
      left
      refine ⟨rfl, fun later => ?_⟩
      obtain ⟨hydrated, clean⟩ := Session.needsSettling_eq_false needs
      have hydratedLater :
          Session.needsIntake { state := stored, services := later } catalog
            config.seedOnEmpty = false := hydrated
      have readAgain : readDocument (memory.reading.found config.documentPlace) = .ok stored := by
        rw [accepts.reading.found, ← read, accepts.found]
        rfl
      simp [perform_load, readAgain, Session.needsSettling, hydratedLater, clean,
        Session.rehydrated_of_hydrated hydrated, Session.rehydrated_of_hydrated hydratedLater,
        Session.retitled]
    | true =>
      right
      refine ⟨?_, found_writing accepts.reading _ _⟩
      rw [if_pos rfl, accepts.reading.writing]
      rfl

/-- A load over a memory that accepts all leaves such a memory. -/
theorem accepts_of_load (accepts : memory.AcceptsAll) {loaded : State}
    {loadedServices : Services} {loadedMemory : Memory}
    (isLoaded : perform (overMemory config catalog).load services memory =
      (.ok loaded, loadedServices, loadedMemory)) : loadedMemory.AcceptsAll := by
  rw [perform_load] at isLoaded
  cases read : readDocument (memory.found config.documentPlace) with
  | error reason =>
    simp only [read, perform_rebuild, Prod.mk.injEq] at isLoaded
    obtain ⟨-, -, rfl⟩ := isLoaded
    exact accepts.reading.reading.afterWriting _ _
  | ok stored =>
    simp only [read, Prod.mk.injEq] at isLoaded
    obtain ⟨-, -, rfl⟩ := isLoaded
    split
    · exact accepts.reading.afterWriting _ _
    · exact accepts.reading

/-- A state that is loaded without a write is the one that is stored, and has clean titles. -/
theorem readDocument_of_unwritten (accepts : memory.AcceptsAll) {services' : Services}
    (isLoaded : perform (overMemory config catalog).load services memory =
      (.ok state, services', memory.reading)) :
    readDocument (memory.found config.documentPlace) = .ok state ∧ state.HasCleanTitles := by
  cases read : readDocument (memory.found config.documentPlace) with
  | error reason =>
    rw [perform_load, read] at isLoaded
    have written := (rebuild_effect accepts.reading isLoaded).1
    exact absurd written (Nat.succ_ne_self _).symm
  | ok stored =>
    simp only [perform_load, read, Prod.mk.injEq, Except.ok.injEq] at isLoaded
    obtain ⟨rfl, _, unwritten⟩ := isLoaded
    cases needs : Session.needsSettling { state := stored, services } catalog
      config.seedOnEmpty with
    | false =>
      obtain ⟨hydrated, clean⟩ := Session.needsSettling_eq_false needs
      have titles := (State.normalizeTitles_fst_eq_false_iff stored).1 clean
      simp only [Session.rehydrated_of_hydrated hydrated, Session.retitled, titles.normalizeTitles]
      exact ⟨trivial, titles⟩
    | true =>
      rw [needs, if_pos rfl, accepts.reading.writing] at unwritten
      exact absurd (congrArg Memory.writes unwritten) (Nat.succ_ne_self _)

/-- What is left of a readable document has a template, keeps no `null`, and has no title to be
cleaned other than the copy words with a number. -/
theorem load_readable {stored : State} {services' : Services} {memory' : Memory}
    (readable : readDocument (memory.found config.documentPlace) = .ok stored)
    (loaded : perform (overMemory config catalog).load services memory =
      (.ok state, services', memory')) :
    state.templates ≠ [] ∧ state.archivedV1 ≠ some .null ∧ state.OnlyNumberedCopyWords := by
  obtain ⟨_, templates, archived⟩ := readDocument_ok readable
  simp only [perform_load, readable, Prod.mk.injEq, Except.ok.injEq] at loaded
  obtain ⟨rfl, _⟩ := loaded
  have frame := Session.rehydrated_frame { state := stored, services } catalog config.seedOnEmpty
  refine ⟨State.templates_normalizeTitles_ne_nil (Session.templates_rehydrated_ne_nil templates),
    fun kept => ?_, State.onlyNumberedCopyWords_normalizeTitles _⟩
  exact (archived .null (frame.2.symm.trans kept)).2 rfl

/-- Whatever is stored, the next load gives what the last one gave, writes nothing and reports
nothing, if the last one wrote nothing. If it wrote a state whose text is parsed into the tree that
it was printed from, which `State.parse?_render` tells more about, the next load does so exactly if
this state is settled. A store that keeps the intake never gives a state without templates; and of a
readable document, at most titles that are the copy words with a number and upload times stay
unsettled. -/
theorem load_again (accepts : memory.AcceptsAll) {services' : Services} {memory' : Memory}
    (loaded : perform (overMemory config catalog).load services memory =
      (.ok state, services', memory')) :
    let lasts := ∀ later,
      perform (overMemory config catalog).load { services' with now := later } memory' =
        (.ok state, { services' with now := later }, memory'.reading)
    (memory'.writes = memory.writes → lasts) ∧
    (Json.parse? state.render = some state.toJson →
      (lasts ↔ memory'.writes = memory.writes ∨ state.IsSettled)) ∧
    (config.seedOnEmpty = true → state.templates ≠ []) ∧
    ∀ stored, readDocument (memory.found config.documentPlace) = .ok stored →
      state.templates ≠ [] ∧ state.archivedV1 ≠ some .null ∧ state.OnlyNumberedCopyWords := by
  intro lasts
  obtain ⟨given, effect⟩ := load_effect accepts loaded
  have unwritten (same : memory'.writes = memory.writes) : lasts := by
    intro later
    rcases effect with ⟨_, again⟩ | ⟨written, _⟩
    · exact again _
    · omega
  refine ⟨unwritten, fun printed => ⟨fun lasting => ?_, ?_⟩, fun seeds => ?_,
    fun _ readable => load_readable readable loaded⟩
  · rcases effect with ⟨same, _⟩ | ⟨_, stored⟩
    · exact .inl same
    · obtain ⟨read, titles⟩ :=
        readDocument_of_unwritten (accepts_of_load accepts loaded) (lasting services'.now)
      rw [stored] at read
      exact .inr ((State.isReadBack_of_readDocument read).isSettled titles)
  · rintro (same | settled)
    · exact unwritten same
    · intro later
      rcases effect with ⟨_, again⟩ | ⟨_, stored⟩
      · exact again _
      · exact perform_load_settled given settled printed stored
  · exact State.templates_ne_nil_of_hasHydratedIntake (given.hydrated seeds)

/-- A store that cleaned the title of a copy gives the clean copy ever after. -/
theorem load_again_copied :
    let copied : Template := .ofVersion "t" "Copy of A" .custom .attorney (.draft 1 .empty) .epoch
    let before : State := { templates := [copied] }
    let after : State := { templates := [{ copied with title := "A" }] }
    let config : StoreConfig := { seedOnEmpty := false }
    let memory : Memory :=
      { entries := KeyMap.empty.insert config.documentPlace before.render }
    let written := memory.reading.writing config.documentPlace after.render
    memory.AcceptsAll ∧
      perform (overMemory config []).load { now := .epoch } memory =
        (.ok after, { now := .epoch }, written) ∧
      (after.IsSettled ∧ Json.parse? after.render = some after.toJson) ∧
      ∀ later, perform (overMemory config []).load { now := later } written =
        (.ok after, { now := later }, written.reading) := by
  intro copied before after config memory written
  have accepts : memory.AcceptsAll := ⟨fun _ => rfl, fun _ => rfl⟩
  have printedBefore : Json.parse? before.render = some before.toJson :=
    State.parse?_render (fun _ inside => absurd inside List.not_mem_nil) nofun
  have printed : Json.parse? after.render = some after.toJson :=
    State.parse?_render (fun _ inside => absurd inside List.not_mem_nil) nofun
  have kept : before.IsKept := ⟨rfl, fun _ inside => absurd inside List.not_mem_nil, nofun⟩
  have read : readDocument (some before.render) = .ok before :=
    (State.readDocument_render kept printedBefore).trans (if_neg (List.cons_ne_nil _ _))
  have settled : after.IsSettled := by
    refine ⟨List.cons_ne_nil _ _, ⟨?_, fun _ inside => absurd inside List.not_mem_nil⟩,
      fun _ inside => absurd inside List.not_mem_nil, nofun⟩
    decide +kernel
  have found : memory.found config.documentPlace = some before.render := by
    rw [accepts.found]
    exact (KeyMap.get?_insert _ _ _ _).trans (if_pos rfl)
  have loaded : perform (overMemory config []).load { now := .epoch } memory =
      (.ok after, { now := .epoch }, written) := by
    have needs : Session.needsSettling { state := before, services := { now := .epoch } } []
        config.seedOnEmpty = true := by decide +kernel
    have cleaned : (retitleTemplates [copied]).2 = [{ copied with title := "A" }] := by
      decide +kernel
    have retitled : (Session.rehydrated { state := before, services := { now := .epoch } } []
        config.seedOnEmpty).retitled =
          { state := { templates := (retitleTemplates [copied]).2 }
            services := { now := .epoch } } := by
      rw [Session.rehydrated, if_neg Bool.false_ne_true, Session.retitled, State.normalizeTitles]
      rfl
    rw [cleaned] at retitled
    simp only [perform_load, found, read, needs, retitled, if_true]
    rfl
  exact ⟨accepts, loaded, ⟨settled, printed⟩,
    ((load_again accepts loaded).2.1 printed).2 (.inr settled)⟩

/-- A store that keeps no intake and has nothing to convert writes a state without templates. Its
document is stale, so the next load rebuilds, writes and reports it again. -/
theorem load_again_withoutTemplates :
    let config : StoreConfig := { seedOnEmpty := false }
    let first := perform (overMemory config []).load { now := .epoch } {}
    let second := perform (overMemory config []).load first.2.1 first.2.2
    first.1 = .ok State.empty ∧ second.1 = .ok State.empty ∧
      second.2.2.writes = first.2.2.writes + 1 ∧
      second.2.1.events = first.2.1.events ++ [.stateMigrated false 0] := by
  intro config first second
  have accepts : (Memory.reading (Memory.reading {})).AcceptsAll := ⟨fun _ => rfl, fun _ => rfl⟩
  have printed : Json.parse? State.empty.render = some State.empty.toJson :=
    State.parse?_render (fun _ inside => absurd inside List.not_mem_nil) nofun
  have kept : State.empty.IsKept := ⟨rfl, fun _ inside => absurd inside List.not_mem_nil, nofun⟩
  have stale : readDocument (some State.empty.render) = .error .noTemplates :=
    (State.readDocument_render kept printed).trans (if_pos rfl)
  have rebuilds {services : Services} {memory : Memory} {reason : StaleDocument}
      (isStale : readDocument (memory.found config.documentPlace) = .error reason)
      (nothing : memory.reading.found config.firstSchemaPlace = none) :
      perform (overMemory config []).load services memory =
        (.ok State.empty, services.report (.stateMigrated false 0),
          memory.reading.reading.writing config.documentPlace State.empty.render) := by
    simp only [perform_load, isStale, perform_rebuild, nothing]
    rfl
  have missing : readDocument (Memory.found {} config.documentPlace) = .error .missing := rfl
  have isFirst : first = _ := rebuilds missing rfl
  have staleAgain : readDocument (first.2.2.found config.documentPlace) = .error .noTemplates := by
    rw [isFirst, found_writing accepts]
    exact stale
  have nothing : first.2.2.reading.found config.firstSchemaPlace = none := by
    have apart : config.firstSchemaPlace ≠ config.documentPlace := by decide
    rw [isFirst, accepts.writing]
    exact (KeyMap.get?_insert _ _ _ _).trans (if_neg apart)
  have isSecond : second = _ := rebuilds staleAgain nothing
  rw [isSecond, isFirst]
  exact ⟨rfl, rfl, rfl, rfl⟩

end Store

end Questionnaire
