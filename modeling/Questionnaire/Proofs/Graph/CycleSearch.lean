import Mathlib.Data.List.Nodup
import Mathlib.Data.List.Perm.Subperm
import Mathlib.Data.List.TakeWhile
import Questionnaire.Proofs.Graph.Acyclic

/-!
# The search for a cycle

The path of the search is a walk along edges, and what is done is in topological order: an id is
done after all that follow it. So an edge back to the path closes a real cycle, and nothing that is
done lies on one. Every step lowers the work that is left, which is at most the bound of the search,
so the search never runs out of steps.
-/

namespace Questionnaire

namespace CycleSearch

variable {graph : Graph}

/-- The path is a walk whose frames know what they still have to follow. The end of the path has
gone on to the child, if there is one. -/
def Walked (graph : Graph) (done : List String) : Option String → List Frame → Prop
  | _, [] => True
  | child, frame :: path =>
    (∀ target ∈ frame.targets, graph.Follows frame.id target) ∧
    (∀ target, graph.Follows frame.id target →
      target ∈ frame.targets ∨ target ∈ done ∨ child = some target) ∧
    (∀ target, child = some target → graph.Follows frame.id target) ∧
    Walked graph done (some frame.id) path

/-- Whatever follows an id comes after it in the list. -/
def Settled (graph : Graph) : List String → Prop
  | [] => True
  | id :: done => (∀ target, graph.Follows id target → target ∈ done) ∧ Settled graph done

/-- What every search for a cycle keeps. -/
structure Sound (graph : Graph) (search : Search) : Prop where
  walked : Walked graph search.done none search.path
  settled : Settled graph search.done
  /-- No id is entered twice. -/
  nodup : (search.path.map Frame.id ++ search.done).Nodup
  known : ∀ id ∈ search.path.map Frame.id ++ search.done, id ∈ graph.allIds
  /-- Every id of the path is reached from a node. -/
  reached : ∀ frame ∈ search.path, ∃ node ∈ graph.nodes, graph.Reaches node.id frame.id
  roots : ∀ root ∈ search.roots, ∃ node ∈ graph.nodes, node.id = root
  /-- No node is left out. -/
  nodes : ∀ node ∈ graph.nodes,
    node.id ∈ search.path.map Frame.id ∨ node.id ∈ search.done ∨ node.id ∈ search.roots

theorem mem_enter_targets {id target : String} :
    target ∈ (enter graph id).targets ↔ graph.Follows id target :=
  Graph.mem_outgoing_target

theorem Walked.mono {done more : List String} {child : Option String} {path : List Frame}
    (walked : Walked graph done child path) (grown : ∀ id ∈ done, id ∈ more) :
    Walked graph more child path := by
  induction path generalizing child with
  | nil => trivial
  | cons frame path inductionHypothesis =>
    obtain ⟨targets, followed, onward, rest⟩ := walked
    refine ⟨targets, ?_, onward, inductionHypothesis rest⟩
    intro target follows
    exact (followed target follows).imp_right (Or.imp_left (grown target))

/-- A child that is done is no longer the child of its path. -/
theorem Walked.finish {done : List String} {id : String} {path : List Frame}
    (walked : Walked graph done (some id) path) (finished : id ∈ done) :
    Walked graph done none path := by
  cases path with
  | nil => trivial
  | cons frame path =>
    obtain ⟨targets, followed, _, rest⟩ := walked
    refine ⟨targets, ?_, by rintro _ ⟨⟩, rest⟩
    intro target follows
    rcases followed target follows with pending | earlier | isChild
    · exact .inl pending
    · exact .inr (.inl earlier)
    · exact .inr (.inl (Option.some.inj isChild ▸ finished))

/-- A path goes on along the first edge that it still has to follow. -/
theorem Walked.descend {done : List String} {id target : String} {targets : List String}
    {path : List Frame} (walked : Walked graph done none (⟨id, target :: targets⟩ :: path)) :
    Walked graph done (some target) (⟨id, targets⟩ :: path) := by
  obtain ⟨pending, followed, _, rest⟩ := walked
  obtain ⟨first, others⟩ := List.forall_mem_cons.1 pending
  refine ⟨others, ?_, fun other isChild => Option.some.inj isChild ▸ first, rest⟩
  intro other follows
  rcases followed other follows with unfollowed | earlier | isChild
  · rcases List.mem_cons.1 unfollowed with same | later
    · exact .inr (.inr (same ▸ rfl))
    · exact .inl later
  · exact .inr (.inl earlier)
  · contradiction

/-- A path goes on to its child, which has all its edges to follow. -/
theorem Walked.enter {done : List String} {id : String} {path : List Frame}
    (walked : Walked graph done (some id) path) :
    Walked graph done none (CycleSearch.enter graph id :: path) :=
  ⟨fun _ => mem_enter_targets.1, fun _ follows => .inl (mem_enter_targets.2 follows),
    by rintro _ ⟨⟩, walked⟩

/-- Every id of a path reaches its end. -/
theorem Walked.reaches {done : List String} {child : Option String} {frame : Frame}
    {path : List Frame} (walked : Walked graph done child (frame :: path)) :
    ∀ other ∈ frame :: path, graph.Reaches other.id frame.id := by
  induction path generalizing child frame with
  | nil =>
    intro other member
    rw [List.mem_singleton.1 member]
    exact .refl
  | cons before path inductionHypothesis =>
    intro other member
    obtain ⟨_, _, _, rest⟩ := walked
    rcases List.mem_cons.1 member with same | inside
    · rw [same]
      exact .refl
    · exact (inductionHypothesis rest other inside).tail (rest.2.2.1 frame.id rfl)

theorem Settled.follows {done : List String} (settled : Settled graph done)
    {source target : String} (member : source ∈ done) (follows : graph.Follows source target) :
    target ∈ done := by
  induction done with
  | nil => contradiction
  | cons first done inductionHypothesis =>
    rcases List.mem_cons.1 member with same | later
    · rw [same] at follows
      exact List.mem_cons_of_mem first (settled.1 target follows)
    · exact List.mem_cons_of_mem first (inductionHypothesis settled.2 later)

/-- Whatever is reached from a settled id is settled. -/
theorem Settled.reaches {done : List String} (settled : Settled graph done)
    {source target : String} (member : source ∈ done) (walk : graph.Reaches source target) :
    target ∈ done := by
  induction walk with
  | refl => exact member
  | tail _ follows inductionHypothesis => exact settled.follows inductionHypothesis follows

/-- No settled id lies on a cycle. -/
theorem Settled.not_onCycle {done : List String} (settled : Settled graph done) {id : String}
    (member : id ∈ done) : ¬ graph.OnCycle id := by
  intro cycle
  induction done with
  | nil => contradiction
  | cons first done inductionHypothesis =>
    have later : id ∈ done := by
      rcases List.mem_cons.1 member with same | later
      · -- A cycle through the first id would lead back to it from an id that was done before it.
        obtain ⟨next, follows, walk⟩ := Relation.TransGen.head'_iff.1 cycle
        rw [same] at follows
        exact settled.2.reaches (settled.1 next follows) walk
      · exact later
    exact inductionHypothesis settled.2 later

/-- When all nodes are settled, none of them reaches a cycle. -/
theorem Settled.not_reaches_onCycle {done : List String} (settled : Settled graph done)
    (finished : ∀ node ∈ graph.nodes, node.id ∈ done) :
    ∀ node ∈ graph.nodes, ∀ id, graph.Reaches node.id id → ¬ graph.OnCycle id := by
  intro node member id walk
  exact settled.not_onCycle (settled.reaches (finished node member) walk)

/-! ## The work that is left -/

/-- The ids that were entered. -/
def Search.entered (search : Search) : List String :=
  search.path.map Frame.id ++ search.done

/-- The steps that may still be needed: one for each edge that is not followed yet, and one for each
id that is not done. -/
def Search.work (graph : Graph) (search : Search) : Nat :=
  (graph.edges.countP fun edge => !search.entered.contains edge.source) +
    (search.path.flatMap Frame.targets).length +
    (graph.allIds.length - search.done.length)

/-- Entering an id opens its edges and no others. -/
theorem perm_enter (graph : Graph) {id : String} {ids : List String} (unentered : id ∉ ids) :
    ((graph.edges.filter fun edge => !(id :: ids).contains edge.source) ++ graph.outgoing id).Perm
      (graph.edges.filter fun edge => !ids.contains edge.source) := by
  have split := List.filter_append_perm (fun edge : Edge => edge.source != id)
    (graph.edges.filter fun edge => !ids.contains edge.source)
  rw [List.filter_filter, List.filter_filter] at split
  refine List.Perm.trans (List.Perm.of_eq ?_) split
  refine congrArg₂ (· ++ ·) (List.filter_congr fun edge _ => ?_) (List.filter_congr fun edge _ => ?_)
  · rw [List.contains_cons, Bool.not_or]
    rfl
  · by_cases here : edge.source = id
    · simp [here, unentered]
    · have apart : (edge.source == id) = false := beq_false_of_ne here
      simp [bne, apart]

theorem countP_enter (graph : Graph) {id : String} {ids : List String} (unentered : id ∉ ids) :
    (graph.edges.countP fun edge => !(id :: ids).contains edge.source) +
      (enter graph id).targets.length =
    graph.edges.countP fun edge => !ids.contains edge.source := by
  have lengths := (perm_enter graph unentered).length_eq
  rwa [List.length_append, ← List.countP_eq_length_filter, ← List.countP_eq_length_filter,
    ← List.length_map (f := Edge.target)] at lengths

/-- The count depends on which ids were entered only. -/
theorem countP_congr {ids others : List String} (same : ∀ id, id ∈ ids ↔ id ∈ others) :
    (graph.edges.countP fun edge => !ids.contains edge.source) =
      graph.edges.countP fun edge => !others.contains edge.source := by
  simp only [List.contains_eq_mem, same]

/-- What is done was entered once, so it is no more than all ids. -/
theorem Sound.length_done_lt {search : Search} (sound : Sound graph search) {frame : Frame}
    {path : List Frame} (onPath : search.path = frame :: path) :
    search.done.length < graph.allIds.length := by
  have nodup := sound.nodup
  have known := sound.known
  rw [onPath, List.map_cons, List.cons_append] at nodup known
  have within : (path.map Frame.id ++ search.done).length + 1 ≤ graph.allIds.length :=
    (nodup.subperm known).length_le
  rw [List.length_append] at within
  omega

/-- While there is a path there is work left. -/
theorem Sound.work_pos {search : Search} (sound : Sound graph search) (busy : search.path ≠ []) :
    0 < search.work graph := by
  obtain ⟨frame, path, onPath⟩ := List.exists_cons_of_ne_nil busy
  have fewer := sound.length_done_lt onPath
  rw [Search.work]
  omega

/-! ## One step -/

variable {search : Search} {id target : String} {targets : List String} {path : List Frame}

/-- Leaving an id that has no edge left. -/
theorem Sound.leave (sound : Sound graph search) (onPath : search.path = ⟨id, []⟩ :: path) :
    Sound graph { search with path, done := id :: search.done } ∧
      Search.work graph { search with path, done := id :: search.done } <
        Search.work graph search := by
  have fewer := sound.length_done_lt onPath
  obtain ⟨walked, settled, nodup, known, reached, roots, nodes⟩ := sound
  rw [onPath] at walked nodup known reached nodes
  obtain ⟨_, followed, _, rest⟩ := walked
  have same (other : String) : other ∈ path.map Frame.id ++ id :: search.done ↔
      other ∈ (Frame.mk id [] :: path).map Frame.id ++ search.done := by
    simp only [List.mem_append, List.mem_cons, List.map_cons]
    tauto
  constructor
  · have left : Walked graph (id :: search.done) none path :=
      (rest.mono fun _ => List.mem_cons_of_mem id).finish List.mem_cons_self
    refine ⟨left, ⟨?_, settled⟩, ?_, ?_, ?_, roots, ?_⟩
    · intro target follows
      rcases followed target follows with pending | finished | isChild
      · contradiction
      · exact finished
      · contradiction
    · exact List.nodup_middle.2 nodup
    · exact fun other member => known other ((same other).1 member)
    · exact fun frame member => reached frame (List.mem_cons_of_mem _ member)
    · intro node member
      rcases nodes node member with onPath | finished | root
      · rcases List.mem_cons.1 onPath with here | below
        · exact .inr (.inl (here ▸ List.mem_cons_self))
        · exact .inl below
      · exact .inr (.inl (List.mem_cons_of_mem id finished))
      · exact .inr (.inr root)
  · simp only [Search.work, Search.entered, onPath, countP_congr same, List.map_cons,
      List.flatMap_cons, List.nil_append, List.length_cons]
    omega

/-- Following an edge to an id that is done. -/
theorem Sound.skip (sound : Sound graph search)
    (onPath : search.path = ⟨id, target :: targets⟩ :: path) (finished : target ∈ search.done) :
    Sound graph { search with path := ⟨id, targets⟩ :: path } ∧
      Search.work graph { search with path := ⟨id, targets⟩ :: path } <
        Search.work graph search := by
  obtain ⟨walked, settled, nodup, known, reached, roots, nodes⟩ := sound
  rw [onPath] at walked nodup known reached nodes
  constructor
  · obtain ⟨here, below⟩ := List.forall_mem_cons.1 reached
    exact ⟨walked.descend.finish finished, settled, nodup, known,
      List.forall_mem_cons.2 ⟨here, below⟩, roots, nodes⟩
  · simp only [Search.work, Search.entered, onPath, List.map_cons, List.flatMap_cons,
      List.length_append, List.length_cons]
    omega

/-- Following an edge to an id that is entered for the first time. -/
theorem Sound.enter (sound : Sound graph search)
    (onPath : search.path = ⟨id, target :: targets⟩ :: path)
    (unentered : target ∉ search.entered) :
    Sound graph
        { search with path := CycleSearch.enter graph target :: ⟨id, targets⟩ :: path } ∧
      Search.work graph
          { search with path := CycleSearch.enter graph target :: ⟨id, targets⟩ :: path } <
        Search.work graph search := by
  obtain ⟨walked, settled, nodup, known, reached, roots, nodes⟩ := sound
  rw [Search.entered, onPath] at unentered
  rw [onPath] at walked nodup known reached nodes
  have edge : graph.Follows id target := walked.1 target List.mem_cons_self
  constructor
  · obtain ⟨⟨node, isNode, walk⟩, below⟩ := List.forall_mem_cons.1 reached
    refine ⟨walked.descend.enter, settled, ?_, ?_, ?_, roots, ?_⟩
    · exact List.nodup_cons.2 ⟨unentered, nodup⟩
    · exact List.forall_mem_cons.2 ⟨edge.target_mem, known⟩
    · exact List.forall_mem_cons.2 ⟨⟨node, isNode, walk.tail edge⟩,
        List.forall_mem_cons.2 ⟨⟨node, isNode, walk⟩, below⟩⟩
    · exact fun other member => (nodes other member).imp_left (List.mem_cons_of_mem target)
  · have opened := countP_enter graph unentered
    simp only [Search.work, Search.entered, onPath, List.map_cons, List.flatMap_cons,
      List.length_append, List.length_cons, List.cons_append] at opened ⊢
    have entered : (CycleSearch.enter graph target).id = target := rfl
    rw [entered]
    omega

/-- An edge back to the path closes a cycle that is reached from a node. -/
theorem Sound.closed (sound : Sound graph search)
    (onPath : search.path = ⟨id, target :: targets⟩ :: path)
    (back : target ∈ search.path.map Frame.id) :
    graph.OnCycle target ∧ ∃ node ∈ graph.nodes, graph.Reaches node.id target := by
  obtain ⟨frame, member, rfl⟩ := List.mem_map.1 back
  have walked := sound.walked
  rw [onPath] at walked
  have walk : graph.Reaches frame.id id := walked.reaches frame (onPath ▸ member)
  have edge : graph.Follows id frame.id := walked.1 frame.id List.mem_cons_self
  exact ⟨Relation.TransGen.tail' walk edge, sound.reached frame member⟩

theorem any_id {frames : List Frame} :
    frames.any (fun frame => frame.id == target) = true ↔ target ∈ frames.map Frame.id := by
  simp only [List.any_eq_true, beq_iff_eq, List.mem_map]

/-- All that a step at the end of a path can come to. -/
inductive Stepped (graph : Graph) (search : Search) : Step → Prop
  /-- The end of the path has no edge left. -/
  | leaves {id : String} {path : List Frame} (onPath : search.path = ⟨id, []⟩ :: path) :
      Stepped graph search (.next { search with path, done := id :: search.done })
  /-- The next edge leads back to the path. -/
  | closes {id target : String} {targets : List String} {path : List Frame}
      (onPath : search.path = ⟨id, target :: targets⟩ :: path)
      (back : target ∈ search.path.map Frame.id) : Stepped graph search (.closed target)
  /-- The next edge leads to an id that is done. -/
  | skips {id target : String} {targets : List String} {path : List Frame}
      (onPath : search.path = ⟨id, target :: targets⟩ :: path) (finished : target ∈ search.done) :
      Stepped graph search (.next { search with path := ⟨id, targets⟩ :: path })
  /-- The next edge leads to an id that was never entered. -/
  | enters {id target : String} {targets : List String} {path : List Frame}
      (onPath : search.path = ⟨id, target :: targets⟩ :: path)
      (unentered : target ∉ search.entered) :
      Stepped graph search
        (.next { search with path := CycleSearch.enter graph target :: ⟨id, targets⟩ :: path })

theorem stepped_step (graph : Graph) {search : Search} (busy : search.path ≠ []) :
    Stepped graph search (CycleSearch.step graph search) := by
  cases onPath : search.path with
  | nil => exact absurd onPath busy
  | cons frame path =>
    obtain ⟨id, targets⟩ := frame
    cases targets with
    | nil =>
      simp only [CycleSearch.step, onPath]
      exact .leaves onPath
    | cons target targets =>
      have onPathIff : (Frame.mk id targets :: path).any (fun frame => frame.id == target) = true ↔
          target ∈ search.path.map Frame.id := by
        rw [onPath, any_id]
        rfl
      by_cases back : target ∈ search.path.map Frame.id
      · simp only [CycleSearch.step, onPath, onPathIff.2 back, if_true]
        exact .closes onPath back
      · have forth := Bool.eq_false_iff.2 (onPathIff.not.2 back)
        by_cases finished : target ∈ search.done
        · simp only [CycleSearch.step, onPath, forth, List.contains_eq_mem, finished, decide_true,
            if_true, Bool.false_eq_true, if_false]
          exact .skips onPath finished
        · simp only [CycleSearch.step, onPath, forth, List.contains_eq_mem, finished, decide_false,
            Bool.false_eq_true, if_false]
          exact .enters onPath fun entered => (List.mem_append.1 entered).elim back finished

/-- A step keeps the search sound and lowers the work that is left, or closes a cycle. -/
theorem Sound.step (sound : Sound graph search) (busy : search.path ≠ []) :
    match CycleSearch.step graph search with
    | .next next => Sound graph next ∧ next.work graph < search.work graph
    | .closed id => graph.OnCycle id ∧ ∃ node ∈ graph.nodes, graph.Reaches node.id id := by
  have stepped := stepped_step graph busy
  generalize CycleSearch.step graph search = result at stepped
  cases stepped with
  | leaves onPath => exact sound.leave onPath
  | closes onPath back => exact sound.closed onPath back
  | skips onPath finished => exact sound.skip onPath finished
  | enters onPath unentered => exact sound.enter onPath unentered

/-- The roots that are done are skipped, and the next one was not entered. -/
theorem dropWhile_done {done roots rest : List String} {root : String}
    (left : (roots.dropWhile fun root => done.contains root) = root :: rest) :
    root ∉ done ∧ root ∈ roots ∧ (∀ other ∈ rest, other ∈ roots) ∧
      ∀ other ∈ roots, other ∈ done ∨ other = root ∨ other ∈ rest := by
  have split := List.takeWhile_append_dropWhile (p := fun root => done.contains root) (l := roots)
  have next := List.head?_dropWhile_not (fun root => done.contains root) roots
  rw [left] at split next
  simp only [List.head?_cons, List.contains_eq_mem, decide_eq_false_iff_not] at next
  rw [← split]
  refine ⟨next, by simp, fun other member => by simp [member], ?_⟩
  intro other member
  rcases List.mem_append.1 member with skipped | later
  · exact .inl (List.contains_iff_mem.1 (List.mem_takeWhile_imp skipped))
  · exact .inr (List.mem_cons.1 later)

/-- A walk begins at a root that was not entered, which opens its edges. -/
theorem Sound.begin {root : String} {roots : List String} (sound : Sound graph search)
    (idle : search.path = [])
    (left : (search.roots.dropWhile fun root => search.done.contains root) = root :: roots) :
    Sound graph { path := [CycleSearch.enter graph root], done := search.done, roots } ∧
      Search.work graph { path := [CycleSearch.enter graph root], done := search.done, roots } =
        Search.work graph search := by
  obtain ⟨walked, settled, nodup, known, reached, isNode, nodes⟩ := sound
  obtain ⟨unentered, isRoot, fewer, covered⟩ := dropWhile_done left
  rw [idle] at nodup known nodes
  obtain ⟨node, member, same⟩ := isNode root isRoot
  constructor
  · have atRoot : Walked graph search.done (some root) [] := trivial
    refine ⟨atRoot.enter, settled, ?_, ?_, ?_, ?_, ?_⟩
    · exact List.nodup_cons.2 ⟨unentered, nodup⟩
    · exact List.forall_mem_cons.2 ⟨same ▸ Graph.node_id_mem_allIds member, known⟩
    · exact List.forall_mem_singleton.2 ⟨node, member, by rw [same]; exact .refl⟩
    · exact fun other inside => isNode other (fewer other inside)
    · intro node member
      rcases nodes node member with onPath | finished | inRoots
      · contradiction
      · exact .inr (.inl finished)
      · rcases covered node.id inRoots with finished | isRoot | later
        · exact .inr (.inl finished)
        · exact .inl (isRoot ▸ List.mem_cons_self)
        · exact .inr (.inr later)
  · have opened := countP_enter graph unentered
    have entered : (CycleSearch.enter graph root).id = root := rfl
    simp only [Search.work, Search.entered, idle, List.map_nil, List.map_cons, List.nil_append,
      List.cons_append, List.flatMap_cons, List.flatMap_nil, List.append_nil, List.length_nil,
      entered]
    omega

/-- All that a search can begin a step with. -/
inductive Begun (graph : Graph) (search : Search) : Option Search → Prop
  /-- There is a path to go on with. -/
  | goesOn (busy : search.path ≠ []) : Begun graph search (some search)
  /-- A walk begins at the next root that is not done. -/
  | enters {root : String} {roots : List String} (idle : search.path = [])
      (left : (search.roots.dropWhile fun root => search.done.contains root) = root :: roots) :
      Begun graph search
        (some { path := [CycleSearch.enter graph root], done := search.done, roots })
  /-- All roots are done. -/
  | stops (idle : search.path = [])
      (left : (search.roots.dropWhile fun root => search.done.contains root) = []) :
      Begun graph search none

theorem begun_begin? (graph : Graph) (search : Search) :
    Begun graph search (CycleSearch.begin? graph search) := by
  cases onPath : search.path with
  | cons frame path =>
    simp only [CycleSearch.begin?, onPath]
    exact .goesOn (onPath ▸ List.cons_ne_nil _ _)
  | nil =>
    cases left : search.roots.dropWhile fun root => search.done.contains root with
    | nil =>
      simp only [CycleSearch.begin?, onPath, left]
      exact .stops onPath left
    | cons root roots =>
      simp only [CycleSearch.begin?, onPath, left]
      exact .enters onPath left

/-- With a path to go on with the search goes on, or all nodes are done. -/
theorem Sound.begin? (sound : Sound graph search) :
    match CycleSearch.begin? graph search with
    | some next => next.path ≠ [] ∧ Sound graph next ∧ next.work graph = search.work graph
    | none => ∀ node ∈ graph.nodes, node.id ∈ search.done := by
  have begun := begun_begin? graph search
  generalize CycleSearch.begin? graph search = result at begun
  cases begun with
  | goesOn busy => exact ⟨busy, sound, rfl⟩
  | enters idle left => exact ⟨List.cons_ne_nil _ _, sound.begin idle left⟩
  | stops idle left =>
    intro node member
    rcases sound.nodes node member with inside | finished | root
    · rw [idle] at inside
      contradiction
    · exact finished
    · exact List.contains_iff_mem.1 (List.dropWhile_eq_nil_iff.1 left node.id root)

/-- A search with enough steps closes a cycle that is reached from a node, or there is none. -/
theorem Sound.run {fuel : Nat} (sound : Sound graph search) (enough : search.work graph ≤ fuel) :
    match CycleSearch.run graph fuel search with
    | .cycle id => graph.OnCycle id ∧ ∃ node ∈ graph.nodes, graph.Reaches node.id id
    | .acyclic => ∀ node ∈ graph.nodes, ∀ id, graph.Reaches node.id id → ¬ graph.OnCycle id
    | .unfinished => False := by
  induction fuel generalizing search with
  | zero =>
    have begun := sound.begin?
    rw [CycleSearch.run]
    cases found : CycleSearch.begin? graph search with
    | none =>
      rw [found] at begun
      exact sound.settled.not_reaches_onCycle begun
    | some next =>
      rw [found] at begun
      obtain ⟨busy, nextSound, sameWork⟩ := begun
      exact absurd (nextSound.work_pos busy) (by omega)
  | succ fuel inductionHypothesis =>
    have begun := sound.begin?
    rw [CycleSearch.run]
    cases found : CycleSearch.begin? graph search with
    | none =>
      rw [found] at begun
      exact sound.settled.not_reaches_onCycle begun
    | some next =>
      rw [found] at begun
      obtain ⟨busy, nextSound, sameWork⟩ := begun
      have stepped := nextSound.step busy
      dsimp only
      cases result : CycleSearch.step graph next with
      | closed id =>
        rw [result] at stepped
        exact stepped
      | next after =>
        rw [result] at stepped
        obtain ⟨afterSound, lower⟩ := stepped
        exact inductionHypothesis afterSound (by omega)

theorem sound_initial (graph : Graph) : Sound graph (initial graph) where
  walked := trivial
  settled := trivial
  nodup := List.nodup_nil
  known _ member := absurd member List.not_mem_nil
  reached _ member := absurd member List.not_mem_nil
  roots _ member := List.mem_map.1 member
  nodes _ member := .inr (.inr (List.mem_map.2 ⟨_, member, rfl⟩))

theorem work_initial (graph : Graph) : (initial graph).work graph = graph.cycleSearchBound := by
  simp [Search.work, Search.entered, initial, Graph.cycleSearchBound]

end CycleSearch

namespace Graph

/-- What is found is a cycle that is reached from a node, and if nothing is found there is none. -/
theorem findCycle?_spec (graph : Graph) :
    match graph.findCycle? with
    | some id => graph.OnCycle id ∧ ∃ node ∈ graph.nodes, graph.Reaches node.id id
    | none => ∀ node ∈ graph.nodes, ∀ id, graph.Reaches node.id id → ¬ graph.OnCycle id := by
  have found := (CycleSearch.sound_initial graph).run (CycleSearch.work_initial graph).le
  rw [findCycle?]
  cases outcome : CycleSearch.run graph graph.cycleSearchBound (CycleSearch.initial graph) with
  | cycle id => rwa [outcome] at found
  | acyclic => rwa [outcome] at found
  | unfinished => rw [outcome] at found; exact found.elim

/-- An id is found exactly when some node reaches a directed cycle, also in a graph that repeats ids
and edges or whose edges leave its nodes; and what is found lies on a cycle that a node reaches. -/
theorem findCycle?_exact (graph : Graph) :
    (graph.findCycle?.isSome = true ↔
      ∃ node ∈ graph.nodes, ∃ id, graph.Reaches node.id id ∧ graph.OnCycle id) ∧
    ∀ id, graph.findCycle? = some id →
      graph.OnCycle id ∧ ∃ node ∈ graph.nodes, graph.Reaches node.id id := by
  have found := graph.findCycle?_spec
  cases outcome : graph.findCycle? with
  | none =>
    rw [outcome] at found
    refine ⟨⟨nofun, ?_⟩, nofun⟩
    rintro ⟨node, member, id, walk, cycle⟩
    exact absurd cycle (found node member id walk)
  | some closedAt =>
    rw [outcome] at found
    obtain ⟨cycle, node, member, walk⟩ := found
    refine ⟨iff_of_true rfl ⟨node, member, closedAt, walk, cycle⟩, ?_⟩
    rintro id same
    obtain rfl := Option.some.inj same
    exact ⟨cycle, node, member, walk⟩

/-- A node that is declared twice has two edges to an id that no node has and that lies on a cycle
of such ids. A loop at an id that no node reaches is not found, neither next to that cycle nor
alone. -/
theorem findCycle?_exact_undeclared :
    let node : Node := .ofKind .task "a"
    let loop : Edge := .always "z" "z"
    let graph : Graph :=
      { nodes := [node, node]
        edges := [loop, .always "a" "x", .always "a" "x", .always "x" "y", .always "y" "x"] }
    let apart : Graph := { nodes := [node], edges := [loop] }
    graph.findCycle? = some "x" ∧
      (graph.OnCycle "x" ∧ ∃ node ∈ graph.nodes, graph.Reaches node.id "x") ∧
      apart.OnCycle "z" ∧
      ¬ ∃ node ∈ apart.nodes, ∃ id, apart.Reaches node.id id ∧ apart.OnCycle id := by
  intro node loop graph apart
  have found : graph.findCycle? = some "x" := by decide +kernel
  have nothing : apart.findCycle?.isSome = false := by decide +kernel
  refine ⟨found, graph.findCycle?_exact.2 "x" found, ?_, ?_⟩
  · exact .single ⟨loop, List.mem_cons_self, rfl, rfl⟩
  · rw [← apart.findCycle?_exact.1, nothing]
    exact Bool.false_ne_true

end Graph

end Questionnaire
