import Mathlib.Data.List.DropRight
import Questionnaire.Proofs.Graph.CycleSearch

/-!
# The search for a cycle is linear

The search is followed here without a bound on its steps, and with a record of what it does: which
ids it pushes on the path, which edges it examines, and how often it takes the end off the path. An
id that is pushed was never on the path before, so that its edges are opened once, and every round
either examines one edge that is still open or takes off one id. So there are no more rounds than
edges and distinct ids together.
-/

namespace Questionnaire

namespace CycleSearch

/-- What a search does. -/
inductive Move where
  /-- An id is pushed on the path. -/
  | pushes (id : String)
  /-- The next edge at the end of the path is examined. -/
  | examines (edge : Edge)
  /-- The end of the path has no edge left and is taken off. -/
  | pops
deriving DecidableEq, Repr

/-- The edges of a frame that are still to be followed, which are the last ones of its id. -/
def Frame.pending (graph : Graph) (frame : Frame) : List Edge :=
  (graph.outgoing frame.id).rtake frame.targets.length

/-- The pushes by which a path has grown. -/
def pushed (before after : Search) : List Move :=
  (after.path.take (after.path.length - before.path.length)).map fun frame => .pushes frame.id

/-- What one round does at the end of the path: it examines the next edge, or pops the end. -/
def round (graph : Graph) (search : Search) : Move :=
  match search.path.head?.bind fun frame => (frame.pending graph).head? with
  | some edge => .examines edge
  | none => .pops

/-- The search makes the moves and comes to the outcome. -/
inductive Searches (graph : Graph) : Search → List Move → Outcome → Prop
  /-- No root is left. -/
  | stops {search : Search} (idle : begin? graph search = none) :
      Searches graph search [] .acyclic
  /-- A round closes a cycle. -/
  | closes {search begun : Search} {id : String} (begins : begin? graph search = some begun)
      (closed : step graph begun = .closed id) :
      Searches graph search (pushed search begun ++ [round graph begun]) (.cycle id)
  /-- The search goes on after a round. -/
  | goesOn {search begun next : Search} {moves : List Move} {outcome : Outcome}
      (begins : begin? graph search = some begun) (steps : step graph begun = .next next)
      (rest : Searches graph next moves outcome) :
      Searches graph search
        (pushed search begun ++ round graph begun :: (pushed begun next ++ moves)) outcome

/-- The ids that are pushed, in order. -/
def pushedIds (moves : List Move) : List String :=
  moves.filterMap fun
    | .pushes id => some id
    | .examines _ | .pops => none

/-- The edges that are examined, in order. -/
def examinedEdges (moves : List Move) : List Edge :=
  moves.filterMap fun
    | .examines edge => some edge
    | .pushes _ | .pops => none

/-- The number of rounds, each of which examines an edge or pops the end of the path. -/
def roundCount (moves : List Move) : Nat :=
  moves.countP fun
    | .examines _ | .pops => true
    | .pushes _ => false

theorem pushedIds_append (first second : List Move) :
    pushedIds (first ++ second) = pushedIds first ++ pushedIds second :=
  List.filterMap_append

theorem examinedEdges_append (first second : List Move) :
    examinedEdges (first ++ second) = examinedEdges first ++ examinedEdges second :=
  List.filterMap_append

theorem roundCount_append (first second : List Move) :
    roundCount (first ++ second) = roundCount first + roundCount second :=
  List.countP_append

/-- A path that does not grow is pushed nothing on. -/
theorem pushed_of_le {before after : Search} (short : after.path.length ≤ before.path.length) :
    pushed before after = [] := by
  rw [pushed, Nat.sub_eq_zero_of_le short, List.take_zero, List.map_nil]

/-- A path that grows by one is pushed its new end on. -/
theorem pushed_of_cons {before after : Search} {frame : Frame} {path : List Frame}
    (onPath : after.path = frame :: path) (same : path.length = before.path.length) :
    pushed before after = [.pushes frame.id] := by
  rw [pushed, onPath, List.length_cons, same, Nat.add_sub_cancel_left, List.take_succ_cons,
    List.take_zero]
  rfl

theorem roundCount_pushed (before after : Search) : roundCount (pushed before after) = 0 := by
  rw [roundCount, pushed, List.countP_map, List.countP_eq_zero]
  exact fun _ _ => Bool.false_ne_true

theorem examinedEdges_pushed (before after : Search) :
    examinedEdges (pushed before after) = [] := by
  rw [examinedEdges, pushed, List.filterMap_map, List.filterMap_eq_nil_iff]
  exact fun _ _ => rfl

theorem roundCount_round (graph : Graph) (search : Search) :
    roundCount [round graph search] = 1 := by
  rw [round]
  split <;> rfl

variable {graph : Graph} {search begun next : Search} {id target : String} {targets : List String}
  {path : List Frame} {moves : List Move} {outcome : Outcome}

/-! ## Edges that are not examined yet -/

/-- The targets that a frame still has to follow are those of its pending edges. -/
def Frame.IsOpen (graph : Graph) (frame : Frame) : Prop :=
  (frame.pending graph).map Edge.target = frame.targets

/-- All frames of the path have their edges pending. -/
def Search.IsOpen (graph : Graph) (search : Search) : Prop :=
  ∀ frame ∈ search.path, frame.IsOpen graph

/-- The edges that were not examined yet: those of ids that were never entered, and the pending ones
of the path. -/
def Search.openEdges (graph : Graph) (search : Search) : List Edge :=
  (graph.edges.filter fun edge => !search.entered.contains edge.source) ++
    search.path.flatMap (Frame.pending graph)

theorem pending_enter (graph : Graph) (id : String) :
    (enter graph id).pending graph = graph.outgoing id := by
  rw [Frame.pending, enter, List.length_map, List.rtake, Nat.sub_self, List.drop_zero]

theorem isOpen_enter (graph : Graph) (id : String) : (enter graph id).IsOpen graph := by
  rw [Frame.IsOpen, pending_enter]
  rfl

/-- The first pending edge of a frame is the one whose target is followed next. -/
theorem Frame.IsOpen.pending_cons (isOpen : (Frame.mk id (target :: targets)).IsOpen graph) :
    ∃ edge, edge.source = id ∧ edge.target = target ∧
      (Frame.mk id (target :: targets)).pending graph =
        edge :: (Frame.mk id targets).pending graph ∧
      (Frame.mk id targets).IsOpen graph := by
  obtain ⟨edge, edges, same, isTarget, areTargets⟩ := List.map_eq_cons_iff.1 isOpen
  rw [Frame.pending, List.rtake, List.length_cons] at same
  dsimp only at same
  have enough : targets.length + 1 ≤ (graph.outgoing id).length := by
    have lengths := congrArg List.length same
    have sameLength := congrArg List.length areTargets
    rw [List.length_drop, List.length_cons] at lengths
    rw [List.length_map] at sameLength
    omega
  have rest : (Frame.mk id targets).pending graph = edges := by
    have place : (graph.outgoing id).length - targets.length =
        (graph.outgoing id).length - (targets.length + 1) + 1 := by omega
    rw [Frame.pending, List.rtake, place, ← List.tail_drop, same, List.tail_cons]
  have isSource : edge.source = id := by
    have inside : edge ∈ graph.outgoing id := List.mem_of_mem_drop (same ▸ List.mem_cons_self)
    exact beq_iff_eq.1 (List.mem_filter.1 inside).2
  refine ⟨edge, isSource, isTarget, rest ▸ same, ?_⟩
  rw [Frame.IsOpen, rest, areTargets]

theorem round_of_left (onPath : search.path = ⟨id, []⟩ :: path) : round graph search = .pops := by
  rw [round, onPath, List.head?_cons, Option.bind_some, Frame.pending, List.length_nil,
    List.rtake_zero, List.head?_nil]

/-- The edge that a round examines leads from the end of the path to the id that is followed. -/
theorem Search.IsOpen.round_examines (isOpen : search.IsOpen graph)
    (onPath : search.path = ⟨id, target :: targets⟩ :: path) :
    ∃ edge, round graph search = .examines edge ∧ edge.source = id ∧ edge.target = target ∧
      (Frame.mk id (target :: targets)).pending graph =
        edge :: (Frame.mk id targets).pending graph := by
  have frameOpen := isOpen _ (onPath ▸ List.mem_cons_self)
  obtain ⟨edge, isSource, isTarget, pending, _⟩ := frameOpen.pending_cons
  refine ⟨edge, ?_, isSource, isTarget, pending⟩
  rw [round, onPath, List.head?_cons, Option.bind_some, pending, List.head?_cons]

/-! ## What moves take -/

/-- The moves between two searches: what is pushed is entered, and what is examined is no longer
open. -/
structure Spends (graph : Graph) (before : Search) (moves : List Move) (after : Search) : Prop where
  entered : after.entered.Perm (pushedIds moves ++ before.entered)
  edges : (before.openEdges graph).Perm (examinedEdges moves ++ after.openEdges graph)

theorem Spends.refl (search : Search) : Spends graph search [] search :=
  ⟨.refl _, .refl _⟩

theorem Spends.trans {before between after : Search} {first second : List Move}
    (earlier : Spends graph before first between) (later : Spends graph between second after) :
    Spends graph before (first ++ second) after where
  entered := by
    rw [pushedIds_append, List.append_assoc]
    exact later.entered.trans
      ((earlier.entered.append_left _).trans (List.perm_append_comm_assoc _ _ _))
  edges := by
    rw [examinedEdges_append, List.append_assoc]
    exact earlier.edges.trans (later.edges.append_left _)

/-- A walk that begins pushes its root and opens the edges of it. -/
theorem Begun.spends (begins : Begun graph search (some begun)) :
    Spends graph search (pushed search begun) begun := by
  cases begins with
  | goesOn busy =>
    rw [pushed_of_le (Nat.le_refl _)]
    exact .refl search
  | @enters root roots idle left =>
    obtain ⟨unentered, _⟩ := dropWhile_done left
    rw [pushed_of_cons rfl (by rw [idle])]
    constructor
    · rw [Search.entered, Search.entered, idle]
      exact .refl _
    · simp only [Search.openEdges, Search.entered, idle, List.map_nil, List.flatMap_nil,
        List.append_nil, List.map_cons, List.flatMap_cons, pending_enter]
      exact (perm_enter graph unentered).symm

/-- A round that the search goes on after pops an id that was entered, or it examines an edge that
was open, and if the target of that was never entered it is pushed and its edges are opened. -/
theorem Stepped.spends (stepped : Stepped graph search (.next next))
    (isOpen : search.IsOpen graph) :
    Spends graph search (round graph search :: pushed search next) next := by
  cases stepped with
  | @leaves id path onPath =>
    have shorter : path.length ≤ search.path.length := by
      rw [onPath]
      exact Nat.le_succ _
    have nothing : (Frame.mk id []).pending graph = [] := List.rtake_zero _
    rw [round_of_left onPath, pushed_of_le shorter]
    constructor
    · rw [Search.entered, Search.entered, onPath]
      exact List.perm_middle
    · have same (edge : Edge) : edge.source ∈ path.map Frame.id ++ id :: search.done ↔
          edge.source ∈ (Frame.mk id [] :: path).map Frame.id ++ search.done :=
        List.perm_middle.mem_iff
      simp only [Search.openEdges, Search.entered, onPath, List.flatMap_cons, nothing,
        List.nil_append, List.contains_eq_mem, same]
      exact .refl _
  | @skips id target targets path onPath finished =>
    obtain ⟨edge, examined, _, _, pending⟩ := isOpen.round_examines onPath
    rw [examined, pushed_of_le (by rw [onPath]; exact Nat.le_refl _)]
    constructor
    · rw [Search.entered, Search.entered, onPath]
      exact .refl _
    · simp only [Search.openEdges, Search.entered, onPath, List.flatMap_cons, pending]
      exact List.perm_middle
  | @enters id target targets path onPath unentered =>
    obtain ⟨edge, examined, _, _, pending⟩ := isOpen.round_examines onPath
    rw [examined, pushed_of_cons rfl (by rw [onPath]; rfl)]
    rw [Search.entered, onPath] at unentered
    constructor
    · rw [Search.entered, Search.entered, onPath]
      exact .refl _
    · have opened := (perm_enter graph unentered).symm.append_right
        ((Frame.mk id targets :: path).flatMap (Frame.pending graph))
      rw [List.append_assoc] at opened
      simp only [Search.openEdges, Search.entered, onPath, List.flatMap_cons, pending,
        pending_enter]
      exact List.perm_middle.trans (opened.cons edge)

/-- The edge that closes a cycle was still open. -/
theorem Stepped.mem_openEdges (stepped : Stepped graph search (.closed id))
    (isOpen : search.IsOpen graph) :
    ∃ edge ∈ search.openEdges graph, round graph search = .examines edge ∧ edge.target = id := by
  cases stepped with
  | closes onPath back =>
    obtain ⟨edge, examined, _, isTarget, pending⟩ := isOpen.round_examines onPath
    refine ⟨edge, ?_, examined, isTarget⟩
    rw [Search.openEdges, onPath, List.flatMap_cons, pending]
    exact List.mem_append_right _ List.mem_cons_self

theorem Begun.isOpen (begins : Begun graph search (some begun)) (isOpen : search.IsOpen graph) :
    begun.IsOpen graph := by
  cases begins with
  | goesOn busy => exact isOpen
  | enters idle left => exact List.forall_mem_singleton.2 (isOpen_enter graph _)

theorem Stepped.isOpen (stepped : Stepped graph search (.next next))
    (isOpen : search.IsOpen graph) : next.IsOpen graph := by
  cases stepped with
  | leaves onPath => exact fun frame inside => isOpen frame (onPath ▸ List.mem_cons_of_mem _ inside)
  | skips onPath finished =>
    rw [Search.IsOpen, onPath] at isOpen
    obtain ⟨here, below⟩ := List.forall_mem_cons.1 isOpen
    obtain ⟨_, _, _, _, still⟩ := here.pending_cons
    exact List.forall_mem_cons.2 ⟨still, below⟩
  | enters onPath unentered =>
    rw [Search.IsOpen, onPath] at isOpen
    obtain ⟨here, below⟩ := List.forall_mem_cons.1 isOpen
    obtain ⟨_, _, _, _, still⟩ := here.pending_cons
    exact List.forall_mem_cons.2 ⟨isOpen_enter graph _, List.forall_mem_cons.2 ⟨still, below⟩⟩

/-! ## Whole searches -/

/-- A search that came to an end made its moves. -/
theorem exists_searches {fuel : Nat} (finished : run graph fuel search ≠ .unfinished) :
    ∃ moves, Searches graph search moves (run graph fuel search) := by
  induction fuel generalizing search with
  | zero =>
    rw [run] at finished ⊢
    cases begins : begin? graph search with
    | none => exact ⟨_, .stops begins⟩
    | some begun => exact absurd (by rw [begins]) finished
  | succ fuel inductionHypothesis =>
    rw [run] at finished ⊢
    cases begins : begin? graph search with
    | none => exact ⟨_, .stops begins⟩
    | some begun =>
      rw [begins] at finished
      cases steps : step graph begun with
      | closed id =>
        simp only [steps]
        exact ⟨_, .closes begins steps⟩
      | next next =>
        simp only [steps] at finished ⊢
        obtain ⟨moves, rest⟩ := inductionHypothesis finished
        exact ⟨_, .goesOn begins steps rest⟩

/-- A search that is sound begins every round with a sound one. -/
theorem Sound.begins (sound : Sound graph search)
    (begins : CycleSearch.begin? graph search = some begun) :
    Begun graph search (some begun) ∧ begun.path ≠ [] ∧ Sound graph begun ∧
      begun.work graph = search.work graph := by
  have cases := begun_begin? graph search
  have kept := sound.begin?
  rw [begins] at cases kept
  exact ⟨cases, kept⟩

/-- Over a whole search no id is pushed that was entered before, no edge is examined that was not
open, and every round lowers the work that is left. -/
theorem Searches.bounded (searches : Searches graph search moves outcome)
    (sound : Sound graph search) (isOpen : search.IsOpen graph) :
    (pushedIds moves ++ search.entered).Nodup ∧
      (examinedEdges moves).Subperm (search.openEdges graph) ∧
      roundCount moves ≤ search.work graph := by
  induction searches with
  | stops idle => exact ⟨sound.nodup, List.nil_subperm, Nat.zero_le _⟩
  | @closes search begun id begins closed =>
    obtain ⟨begunCases, busy, begunSound, sameWork⟩ := sound.begins begins
    have stepped := stepped_step graph busy
    rw [closed] at stepped
    obtain ⟨edge, inside, examined, _⟩ := stepped.mem_openEdges (begunCases.isOpen isOpen)
    obtain ⟨entered, edges⟩ := begunCases.spends
    rw [examinedEdges_pushed] at edges
    rw [examined, pushedIds_append, examinedEdges_append, examinedEdges_pushed, roundCount_append,
      roundCount_pushed]
    refine ⟨?_, ?_, ?_⟩
    · exact (List.append_nil (pushedIds (pushed search begun))).symm ▸
        entered.nodup_iff.1 begunSound.nodup
    · exact (List.singleton_subperm_iff.2 inside).trans edges.symm.subperm
    · have left := begunSound.work_pos busy
      exact sameWork ▸ left
  | @goesOn search begun next moves outcome begins steps rest inductionHypothesis =>
    obtain ⟨begunCases, busy, begunSound, sameWork⟩ := sound.begins begins
    have stepped := stepped_step graph busy
    have advanced := begunSound.step busy
    rw [steps] at stepped advanced
    obtain ⟨nextSound, lower⟩ := advanced
    have begunOpen := begunCases.isOpen isOpen
    obtain ⟨nodup, examined, few⟩ := inductionHypothesis nextSound (stepped.isOpen begunOpen)
    obtain ⟨entered, edges⟩ := begunCases.spends.trans (stepped.spends begunOpen)
    have whole : pushed search begun ++ round graph begun :: (pushed begun next ++ moves) =
        (pushed search begun ++ round graph begun :: pushed begun next) ++ moves := by
      rw [List.append_assoc, List.cons_append]
    have rounds :
        roundCount (pushed search begun ++ round graph begun :: pushed begun next) = 1 := by
      rw [roundCount_append, ← List.singleton_append, roundCount_append, roundCount_pushed,
        roundCount_round, roundCount_pushed]
    rw [whole, pushedIds_append, examinedEdges_append, roundCount_append, rounds]
    refine ⟨?_, ?_, by omega⟩
    · -- The pushes of the rest come after those of this round, which `next` has entered already.
      have rearranged := (entered.append_left (pushedIds moves)).trans
        (List.perm_append_comm_assoc _ _ _)
      rw [List.append_assoc]
      exact rearranged.nodup_iff.1 nodup
    · exact ((List.subperm_append_left _).2 examined).trans edges.symm.subperm

/-- The search makes its moves and no others. -/
theorem Searches.unique (searches : Searches graph search moves outcome) {otherMoves : List Move}
    {otherOutcome : Outcome} (other : Searches graph search otherMoves otherOutcome) :
    otherMoves = moves ∧ otherOutcome = outcome := by
  induction searches generalizing otherMoves otherOutcome with
  | stops idle =>
    cases other with
    | stops _ => exact ⟨rfl, rfl⟩
    | closes begins _ => exact absurd (idle.symm.trans begins) nofun
    | goesOn begins _ _ => exact absurd (idle.symm.trans begins) nofun
  | closes begins closed =>
    cases other with
    | stops idle => exact absurd (idle.symm.trans begins) nofun
    | closes begins' closed' =>
      obtain rfl := Option.some.inj (begins.symm.trans begins')
      obtain ⟨rfl⟩ := closed.symm.trans closed'
      exact ⟨rfl, rfl⟩
    | goesOn begins' steps _ =>
      obtain rfl := Option.some.inj (begins.symm.trans begins')
      exact absurd (closed.symm.trans steps) nofun
  | goesOn begins steps rest inductionHypothesis =>
    cases other with
    | stops idle => exact absurd (idle.symm.trans begins) nofun
    | closes begins' closed =>
      obtain rfl := Option.some.inj (begins.symm.trans begins')
      exact absurd (closed.symm.trans steps) nofun
    | goesOn begins' steps' rest' =>
      obtain rfl := Option.some.inj (begins.symm.trans begins')
      obtain ⟨rfl⟩ := steps.symm.trans steps'
      obtain ⟨rfl, rfl⟩ := inductionHypothesis rest'
      exact ⟨rfl, rfl⟩

/-- The id that the outcome found, if it found one. -/
def Outcome.closedAt? : Outcome → Option String
  | cycle id => some id
  | acyclic | unfinished => none

end CycleSearch

namespace Graph

open CycleSearch

/-- The search for a cycle is linear. Followed without a bound it comes to an end, in one way, with
what is found, and its rounds are no more than the edges and the distinct ids of nodes and ends of
edges together. No id is pushed on the path twice in all of it, and each edge is examined at most
once. -/
theorem findCycle?_linear (graph : Graph) :
    ∃ moves outcome, Searches graph (CycleSearch.initial graph) moves outcome ∧
      (∀ otherMoves otherOutcome,
        Searches graph (CycleSearch.initial graph) otherMoves otherOutcome →
          otherMoves = moves ∧ otherOutcome = outcome) ∧
      graph.findCycle? = outcome.closedAt? ∧
      roundCount moves ≤ graph.edges.length + graph.allIds.length ∧
      (pushedIds moves).Nodup ∧ (examinedEdges moves).Subperm graph.edges := by
  have found := (sound_initial graph).run (work_initial graph).le
  have finished : CycleSearch.run graph graph.cycleSearchBound (CycleSearch.initial graph) ≠
      .unfinished := by
    intro unfinished
    rw [unfinished] at found
    exact found
  obtain ⟨moves, searches⟩ := exists_searches finished
  have isOpen : (CycleSearch.initial graph).IsOpen graph :=
    fun _ inside => absurd inside List.not_mem_nil
  obtain ⟨nodup, examined, few⟩ := searches.bounded (sound_initial graph) isOpen
  refine ⟨moves, _, searches, fun _ _ => searches.unique, ?_, ?_, ?_, ?_⟩
  · rw [findCycle?]
    cases CycleSearch.run graph graph.cycleSearchBound (CycleSearch.initial graph) <;> rfl
  · rwa [work_initial] at few
  · simpa [Search.entered, CycleSearch.initial] using nodup
  · simpa [Search.openEdges, Search.entered, CycleSearch.initial] using examined

/-- All rounds are needed to examine an edge and pop its two ends. -/
example :
    let nodes : List Node := [.ofKind .start "s", .ofKind .finish "e"]
    let graph : Graph := { nodes, edges := [.always "s" "e"] }
    graph.cycleSearchBound = 3 ∧
      CycleSearch.run graph 2 (CycleSearch.initial graph) = .unfinished := by
  decide +kernel

end Graph

end Questionnaire
