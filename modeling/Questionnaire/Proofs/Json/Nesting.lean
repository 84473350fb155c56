import Questionnaire.Proofs.Json.Inversion

/-!
# How deep a text nests

No tree that is read from a text nests more arrays and objects than the reader allows: what goes
deeper is cut off where it is closed. The value of the tree nests no deeper than the tree. So of
what was read, a value is printable again as soon as its numbers are read back.
-/

namespace Questionnaire

namespace Json

/-- The tree nests at most so many arrays and objects. -/
def Nests : Nat → Json → Prop
  | levels + 1, .list items => ∀ item ∈ items, Nests levels item
  | levels + 1, .object members => ∀ member ∈ members, Nests levels member.2
  | 0, .list _ | 0, .object _ => False
  | _, _ => True

theorem nests_unreadable (levels : Nat) : unreadable.Nests levels := by
  cases levels with
  | zero | succ => trivial

mutual

/-- The numbers in the tree. -/
def numbers : Json → List Number
  | .number value => [value]
  | .list items => itemNumbers items
  | .object members => memberNumbers members
  | .null | .bool _ | .text _ | .unreadable => []

/-- The numbers in the items of an array. -/
def itemNumbers : List Json → List Number
  | [] => []
  | item :: rest => item.numbers ++ itemNumbers rest

/-- The numbers in the members of an object. -/
def memberNumbers : List (String × Json) → List Number
  | [] => []
  | (_, member) :: rest => member.numbers ++ memberNumbers rest

end

theorem forall_mem_itemNumbers_iff {property : Number → Prop} {items : List Json} :
    (∀ number ∈ itemNumbers items, property number) ↔
      ∀ item ∈ items, ∀ number ∈ item.numbers, property number := by
  induction items with
  | nil => simp [itemNumbers]
  | cons item rest inductionHypothesis =>
    rw [itemNumbers, List.forall_mem_append, List.forall_mem_cons, inductionHypothesis]

theorem forall_mem_memberNumbers_iff {property : Number → Prop} {members : List (String × Json)} :
    (∀ number ∈ memberNumbers members, property number) ↔
      ∀ member ∈ members, ∀ number ∈ member.2.numbers, property number := by
  induction members with
  | nil => simp [memberNumbers]
  | cons member rest inductionHypothesis =>
    rw [memberNumbers, List.forall_mem_append, List.forall_mem_cons, inductionHypothesis]

/-! ## Reading a text -/

/-- The parts of the frame nest at most so many arrays and objects. -/
def Frame.Nests (levels : Nat) : Frame → Prop
  | .list items => ∀ item ∈ items, item.Nests levels
  | .object members _ _ => ∀ member ∈ members, member.2.Nests levels

/-- The parts of each frame nest at most as many arrays and objects as the frames outside leave. -/
def FramesNest : List Frame → Prop
  | [] => True
  | frame :: outer => frame.Nests (depthLimit - (outer.length + 1)) ∧ FramesNest outer

namespace ReadState

/-- Nothing that has been read nests deeper than the reader allows. -/
def Nests : ReadState → Prop
  | .inside frames _ => FramesNest frames
  | .complete value => value.Nests depthLimit

variable {frames outer : List Frame} {state next : ReadState} {token : Token}

theorem nests_deliver {value : Json} (nests : value.Nests (depthLimit - frames.length))
    (framesNest : FramesNest frames) : (deliver value frames).Nests := by
  cases frames with
  | nil => exact nests
  | cons frame outer =>
    obtain ⟨inner, rest⟩ := framesNest
    cases frame with
    | list items => exact ⟨List.forall_mem_cons.2 ⟨nests, inner⟩, rest⟩
    | object members key readable => exact ⟨List.forall_mem_cons.2 ⟨nests, inner⟩, rest⟩

/-- A frame that is closed leaves its level to what is around it. -/
theorem nests_close {frame : Frame} (inner : frame.Nests (depthLimit - (outer.length + 1))) :
    (frame.close (outer.length + 1)).Nests (depthLimit - outer.length) := by
  have levels (room : outer.length + 1 ≤ depthLimit) :
      depthLimit - outer.length = depthLimit - (outer.length + 1) + 1 := by omega
  cases frame with
  | list items =>
    rw [Frame.close]
    split
    · rename_i room
      rw [levels room, Json.Nests]
      exact fun item inside => inner item (List.mem_reverse.1 inside)
    · exact nests_unreadable _
  | object members key readable =>
    rw [Frame.close]
    split
    · rename_i room
      rw [levels (of_decide_eq_true (Bool.and_eq_true _ _ ▸ room).1), Json.Nests]
      exact fun member inside => inner member (List.mem_reverse.1 inside)
    · exact nests_unreadable _

theorem nests_leaf? {value : Json} (isLeaf : token.leaf? = some value) (levels : Nat) :
    value.Nests levels := by
  unfold Token.leaf? at isLeaf
  split at isLeaf
  all_goals first
    | contradiction
    | obtain rfl := Option.some.inj isLeaf
      cases levels <;> trivial

theorem nests_startValue? (nests : FramesNest frames)
    (started : startValue? frames token = some next) : next.Nests := by
  unfold startValue? at started
  split at started
  · obtain rfl := Option.some.inj started
    exact ⟨fun _ inside => absurd inside List.not_mem_nil, nests⟩
  · obtain rfl := Option.some.inj started
    exact ⟨fun _ inside => absurd inside List.not_mem_nil, nests⟩
  · obtain ⟨value, isLeaf, rfl⟩ := Option.map_eq_some_iff.1 started
    exact nests_deliver (nests_leaf? isLeaf _) nests

theorem nests_takeKey? (nests : FramesNest frames) (taken : takeKey? frames token = some next) :
    next.Nests := by
  unfold takeKey? at taken
  split at taken
  · obtain rfl := Option.some.inj taken
    exact nests
  · obtain rfl := Option.some.inj taken
    exact nests
  · contradiction

theorem nests_close? (nests : FramesNest frames) (closed : close? frames token = some next) :
    next.Nests := by
  unfold close? at closed
  split at closed
  · obtain rfl := Option.some.inj closed
    exact nests_deliver (nests_close nests.1) nests.2
  · obtain rfl := Option.some.inj closed
    exact nests_deliver (nests_close nests.1) nests.2
  · contradiction

/-- No token makes what has been read nest too deep. -/
theorem nests_step? (nests : state.Nests) (stepped : state.step? token = some next) :
    next.Nests := by
  unfold step? at stepped
  split at stepped
  · contradiction
  · exact nests_startValue? nests stepped
  · exact nests_close? nests stepped
  · exact nests_startValue? nests stepped
  · exact nests_takeKey? nests stepped
  · exact nests_close? nests stepped
  · exact nests_takeKey? nests stepped
  · obtain rfl := Option.some.inj stepped
    exact nests
  · contradiction
  · obtain rfl := Option.some.inj stepped
    exact nests
  · obtain rfl := Option.some.inj stepped
    exact nests
  · exact nests_close? nests stepped

theorem nests_run? {tokens : List Token} (nests : state.Nests)
    (ran : state.run? tokens = some next) : next.Nests := by
  induction tokens generalizing state with
  | nil => exact Option.some.inj ran ▸ nests
  | cons token rest inductionHypothesis =>
    obtain ⟨middle, stepped, later⟩ := Option.bind_eq_some_iff.1 ran
    exact inductionHypothesis (nests_step? nests stepped) later

end ReadState

/-- No tree that is read nests deeper than the reader allows. -/
theorem nests_parse? {text : String} {tree : Json} (parsed : parse? text = some tree) :
    tree.Nests depthLimit := by
  obtain ⟨tokens, _, isTree⟩ := Option.bind_eq_some_iff.1 parsed
  unfold ofTokens? at isTree
  split at isTree
  · rename_i value ran
    obtain rfl := Option.some.inj isTree
    have begun : (ReadState.inside [] .value).Nests := trivial
    exact ReadState.nests_run? begun ran
  · contradiction

/-! ## Values of trees -/

/-- The value of a tree nests no deeper than the tree. -/
theorem nests_canonical? {tree value : Json} {levels : Nat} (nests : tree.Nests levels)
    (isValue : canonical? tree = some value) : value.Nests levels := by
  induction tree using partsInduction generalizing value levels with
  | null | bool | number | text => exact Option.some.inj isValue ▸ nests
  | unreadable => contradiction
  | list items inductionHypothesis =>
    obtain ⟨values, areValues, rfl⟩ := Option.map_eq_some_iff.1 isValue
    cases levels with
    | zero => exact nests.elim
    | succ levels =>
      rw [Nests] at nests ⊢
      intro value inside
      obtain ⟨item, isItem, isValue⟩ :=
        exists_of_forall₂ (forall₂_of_canonicalItems? areValues).flip value inside
      exact inductionHypothesis item isItem (nests item isItem) isValue
  | object members inductionHypothesis =>
    obtain ⟨values, areValues, rfl⟩ := Option.map_eq_some_iff.1 isValue
    cases levels with
    | zero => exact nests.elim
    | succ levels =>
      rw [Nests] at nests ⊢
      intro value inside
      obtain ⟨member, isMember, _, isValue⟩ :=
        exists_of_forall₂ (forall₂_of_canonicalMembers? areValues).flip value
          (KeyMap.mem_of_mem_ofList inside)
      exact inductionHypothesis member isMember (nests member isMember) isValue

/-- A readable tree that nests no deeper than the reader allows is printable if and only if its
numbers are read back. -/
theorem isPrintable_iff {tree : Json} {levels : Nat} (readable : tree.Readable)
    (nests : tree.Nests levels) :
    IsPrintable levels tree ↔ ∀ number ∈ tree.numbers, number.IsReadBack := by
  induction tree using partsInduction generalizing levels with
  | null => simp [numbers, IsPrintable.null]
  | bool value => simp [numbers]
  | text value => simp [numbers]
  | number value =>
    rw [numbers, List.forall_mem_singleton, isPrintable_number_iff]
  | unreadable =>
    obtain ⟨_, isValue⟩ := readable
    contradiction
  | list items inductionHypothesis =>
    obtain ⟨_, isValue⟩ := readable
    obtain ⟨_, areValues, _⟩ := Option.map_eq_some_iff.1 isValue
    cases levels with
    | zero => exact nests.elim
    | succ levels =>
      rw [Nests] at nests
      have each (item : Json) (inside : item ∈ items) :=
        inductionHypothesis item inside (readable_of_canonicalItems? areValues item inside)
          (nests item inside)
      rw [numbers, forall_mem_itemNumbers_iff, isPrintable_list_iff]
      exact forall₂_congr each
  | object members inductionHypothesis =>
    obtain ⟨_, isValue⟩ := readable
    obtain ⟨_, areValues, _⟩ := Option.map_eq_some_iff.1 isValue
    cases levels with
    | zero => exact nests.elim
    | succ levels =>
      rw [Nests] at nests
      have each (member : String × Json) (inside : member ∈ members) :=
        inductionHypothesis member inside (readable_of_canonicalMembers? areValues member inside)
          (nests member inside)
      rw [numbers, forall_mem_memberNumbers_iff, isPrintable_object_iff]
      exact forall₂_congr each

end Json

end Questionnaire
