import Questionnaire.Proofs.Json.Records
import Questionnaire.Proofs.Json.Scanning

/-!
# Trees are read back from their texts

The text of a tree is always read as a tree: the same one but for the parts that the text does not
keep. A number is read again from its own text, and what is nested too deeply stands for no value.
So a tree is read back from its own text if and only if it nests at most as many arrays and objects
as the reader allows, each of its numbers is read back from its own text, and no part of it is
unreadable.
-/

namespace Questionnaire

namespace Json

/-- The tree is read back from its text inside as many arrays and objects as leave these levels. -/
inductive IsPrintable : Nat → Json → Prop where
  /-- The word `null`. -/
  | null (levels : Nat) : IsPrintable levels .null
  /-- A truth value. -/
  | bool (levels : Nat) (value : Bool) : IsPrintable levels (.bool value)
  /-- A number that is read back. -/
  | number (levels : Nat) {value : Number} (isReadBack : value.IsReadBack) :
    IsPrintable levels (.number value)
  /-- A string. -/
  | text (levels : Nat) (value : String) : IsPrintable levels (.text value)
  /-- An array takes a level. -/
  | list {levels : Nat} {items : List Json} (each : ∀ item ∈ items, IsPrintable levels item) :
    IsPrintable (levels + 1) (.list items)
  /-- An object takes a level. -/
  | object {levels : Nat} {members : List (String × Json)}
    (each : ∀ member ∈ members, IsPrintable levels member.2) :
    IsPrintable (levels + 1) (.object members)

/-- What holds of a tree whenever it holds of the parts of the tree holds of all trees. -/
@[elab_as_elim]
theorem partsInduction {motive : Json → Prop} (null : motive .null)
    (bool : ∀ value, motive (.bool value)) (number : ∀ value, motive (.number value))
    (text : ∀ value, motive (.text value))
    (list : ∀ items, (∀ item ∈ items, motive item) → motive (.list items))
    (object : ∀ members : List (String × Json), (∀ member ∈ members, motive member.2) →
      motive (.object members))
    (unreadable : motive .unreadable) (tree : Json) : motive tree := by
  refine @Json.rec motive (fun items => ∀ item ∈ items, motive item)
    (fun members => ∀ member ∈ members, motive member.2) (fun member => motive member.2)
    null bool number text list object unreadable ?_ ?_ ?_ ?_ ?_ tree
  · exact fun _ inside => absurd inside List.not_mem_nil
  · exact fun _ _ first rest => List.forall_mem_cons.2 ⟨first, rest⟩
  · exact fun _ inside => absurd inside List.not_mem_nil
  · exact fun _ _ first rest => List.forall_mem_cons.2 ⟨first, rest⟩
  · exact fun _ _ value => value

/-! ## Trees read again -/

/-- The tree that the text of a tree is read as, inside as many arrays and objects as leave these
levels. -/
def reread : Nat → Json → Json
  | _, .null | _, .unreadable => .null
  | _, .bool value => .bool value
  | _, .number value =>
    match value.reread? with
    | some value => .number value
    | none => .unreadable
  | _, .text value => .text value
  | 0, .list _ | 0, .object _ => .unreadable
  | levels + 1, .list items => .list (items.map (reread levels))
  | levels + 1, .object members =>
    .object (members.map fun member => (member.1, reread levels member.2))

theorem map_eq_self_iff {α : Type} {change : α → α} {items : List α} :
    items.map change = items ↔ ∀ item ∈ items, change item = item := by
  have same : items.map change = items.map id ↔ ∀ item ∈ items, change item = id item :=
    List.map_inj_left
  rwa [List.map_id] at same

theorem reread_number_eq_self_iff {value : Number} {levels : Nat} :
    (number value).reread levels = number value ↔ value.IsReadBack := by
  rw [reread, Number.IsReadBack, ← Number.reread?]
  cases value.reread? with
  | none => exact iff_of_false (by rintro ⟨⟩) (by rintro ⟨⟩)
  | some read => rw [Json.number.injEq, Option.some_inj]

theorem isPrintable_number_iff {value : Number} {levels : Nat} :
    IsPrintable levels (number value) ↔ value.IsReadBack :=
  ⟨by rintro ⟨⟩; assumption, .number levels⟩

theorem isPrintable_list_iff {items : List Json} {levels : Nat} :
    IsPrintable (levels + 1) (list items) ↔ ∀ item ∈ items, IsPrintable levels item :=
  ⟨by rintro ⟨⟩; assumption, .list⟩

theorem isPrintable_object_iff {members : List (String × Json)} {levels : Nat} :
    IsPrintable (levels + 1) (object members) ↔
      ∀ member ∈ members, IsPrintable levels member.2 :=
  ⟨by rintro ⟨⟩; assumption, .object⟩

/-- A tree is read again as it is if and only if it is printable. -/
theorem reread_eq_self_iff {tree : Json} {levels : Nat} :
    tree.reread levels = tree ↔ IsPrintable levels tree := by
  induction tree using partsInduction generalizing levels with
  | null => exact ⟨fun _ => .null levels, fun _ => by rw [reread]⟩
  | bool value => exact ⟨fun _ => .bool levels value, fun _ => by rw [reread]⟩
  | text value => exact ⟨fun _ => .text levels value, fun _ => by rw [reread]⟩
  | number value =>
    rw [reread_number_eq_self_iff, isPrintable_number_iff]
  | unreadable =>
    rw [reread]
    exact iff_of_false (by rintro ⟨⟩) (by rintro ⟨⟩)
  | list items inductionHypothesis =>
    cases levels with
    | zero =>
      rw [reread]
      exact iff_of_false (by rintro ⟨⟩) (by rintro ⟨⟩)
    | succ levels =>
      rw [reread, Json.list.injEq, map_eq_self_iff, isPrintable_list_iff]
      exact forall₂_congr fun item inside => inductionHypothesis item inside
  | object members inductionHypothesis =>
    cases levels with
    | zero =>
      rw [reread]
      exact iff_of_false (by rintro ⟨⟩) (by rintro ⟨⟩)
    | succ levels =>
      rw [reread, Json.object.injEq, map_eq_self_iff, isPrintable_object_iff]
      refine forall₂_congr fun member inside => ?_
      rw [← inductionHypothesis member inside]
      exact ⟨congrArg Prod.snd, fun same => Prod.ext rfl same⟩

/-! ## Scanning the text of a tree -/

theorem isMark_openList : Token.openList.IsMark := ⟨'[', rfl, rfl⟩

theorem isMark_closeList : Token.closeList.IsMark := ⟨']', rfl, rfl⟩

theorem isMark_openObject : Token.openObject.IsMark := ⟨'\x7b', rfl, rfl⟩

theorem isMark_closeObject : Token.closeObject.IsMark := ⟨'\x7d', rfl, rfl⟩

theorem isMark_comma : Token.comma.IsMark := ⟨',', rfl, rfl⟩

theorem isMark_colon : Token.colon.IsMark := ⟨':', rfl, rfl⟩

theorem startsWithMark_itemTokens (items : List Json) {close : Token} (isMark : close.IsMark) :
    StartsWithMark (itemTokens items ++ [close]) := by
  cases items with
  | nil =>
    rintro _ ⟨⟩
    exact isMark
  | cons item rest =>
    rintro _ ⟨⟩
    exact isMark_comma

theorem startsWithMark_memberTokens (members : List (String × Json)) {close : Token}
    (isMark : close.IsMark) : StartsWithMark (memberTokens members ++ [close]) := by
  cases members with
  | nil =>
    rintro _ ⟨⟩
    exact isMark
  | cons member rest =>
    rintro _ ⟨⟩
    exact isMark_comma

theorem scans_itemTokens {items : List Json} (each : ∀ item ∈ items, Scans item.tokens) :
    Scans (itemTokens items ++ [.closeList]) := by
  induction items with
  | nil => exact scans_nil.mark isMark_closeList
  | cons item rest inductionHypothesis =>
    have later := inductionHypothesis fun other inside => each other (List.mem_cons_of_mem _ inside)
    have here := (each item List.mem_cons_self).append later
      (startsWithMark_itemTokens rest isMark_closeList)
    simp only [itemTokens, List.cons_append, List.append_assoc]
    exact here.mark isMark_comma

theorem scans_memberTokens {members : List (String × Json)}
    (each : ∀ member ∈ members, Scans member.2.tokens) :
    Scans (memberTokens members ++ [.closeObject]) := by
  induction members with
  | nil => exact scans_nil.mark isMark_closeObject
  | cons member rest inductionHypothesis =>
    obtain ⟨key, value⟩ := member
    have later := inductionHypothesis fun other inside => each other (List.mem_cons_of_mem _ inside)
    have here := (each (key, value) List.mem_cons_self).append later
      (startsWithMark_memberTokens rest isMark_closeObject)
    simp only [memberTokens, List.cons_append, List.append_assoc]
    exact ((here.mark isMark_colon).text key).mark isMark_comma

/-- The text of a tree is cut into the tokens of the tree. -/
theorem scans_tokens (tree : Json) : Scans tree.tokens := by
  induction tree using partsInduction with
  | null | unreadable => exact .word (by decide) rfl
  | bool value =>
    cases value with
    | false | true => exact .word (by decide) rfl
  | number value => exact scans_number value
  | text value => exact scans_nil.text value
  | list items inductionHypothesis =>
    cases items with
    | nil => exact (scans_nil.mark isMark_closeList).mark isMark_openList
    | cons item rest =>
      have here := inductionHypothesis item List.mem_cons_self
      have later := scans_itemTokens fun other inside =>
        inductionHypothesis other (List.mem_cons_of_mem _ inside)
      simp only [tokens, List.cons_append, List.append_assoc]
      exact (here.append later (startsWithMark_itemTokens rest isMark_closeList)).mark
        isMark_openList
  | object members inductionHypothesis =>
    cases members with
    | nil => exact (scans_nil.mark isMark_closeObject).mark isMark_openObject
    | cons member rest =>
      obtain ⟨key, value⟩ := member
      have here := inductionHypothesis (key, value) List.mem_cons_self
      have later := scans_memberTokens fun other inside =>
        inductionHypothesis other (List.mem_cons_of_mem _ inside)
      simp only [tokens, List.cons_append, List.append_assoc]
      exact (((here.append later (startsWithMark_memberTokens rest isMark_closeObject)).mark
        isMark_colon).text key).mark isMark_openObject

/-! ## Reading the tokens of a tree -/

namespace ReadState

variable {frames outer : List Frame}

theorem run?_cons {state next : ReadState} {token : Token}
    (stepped : state.step? token = some next) (rest : List Token) :
    state.run? (token :: rest) = next.run? rest := by
  rw [run?, List.foldlM_cons, stepped]
  rfl

/-- Reading the tokens of the tree where a value is due delivers the tree, read again. -/
def Reads (tree : Json) (frames : List Frame) : Prop :=
  ∀ rest, (inside frames .value).run? (tree.tokens.map Token.reread ++ rest) =
    (deliver (tree.reread (depthLimit - frames.length)) frames).run? rest

theorem exists_head_tokens (tree : Json) : ∃ first rest,
    tree.tokens.map Token.reread = first :: rest ∧ first ≠ .closeList := by
  cases tree with
  | null | bool | number | text | unreadable => exact ⟨_, _, rfl, nofun⟩
  | list items =>
    cases items with
    | nil | cons => exact ⟨_, _, rfl, nofun⟩
  | object members =>
    cases members with
    | nil | cons => exact ⟨_, _, rfl, nofun⟩

/-- The first item of an array is read like any other value. -/
theorem run?_firstItem {tree : Json} (reads : Reads tree frames) (rest : List Token) :
    (inside frames .firstItem).run? (tree.tokens.map Token.reread ++ rest) =
      (deliver (tree.reread (depthLimit - frames.length)) frames).run? rest := by
  obtain ⟨first, others, shape, noClose⟩ := exists_head_tokens tree
  have same : (inside frames .firstItem).step? first = (inside frames .value).step? first := by
    cases first with
    | closeList => exact absurd rfl noClose
    | _ => rfl
  rw [← reads rest, shape, List.cons_append, run?, run?, List.foldlM_cons, List.foldlM_cons, same]

/-- The rest of an array is read up to its end. -/
theorem run?_itemTokens {rest : List Json}
    (each : ∀ item ∈ rest, ∀ items, Reads item (.list items :: outer)) (items : List Json)
    (later : List Token) :
    (inside (.list items :: outer) .separator).run?
        ((itemTokens rest).map Token.reread ++ .closeList :: later) =
      (deliver (Frame.close (outer.length + 1) (.list
        ((rest.map (reread (depthLimit - (outer.length + 1)))).reverse ++ items))) outer).run?
        later := by
  induction rest generalizing items with
  | nil =>
    have closed : (inside (.list items :: outer) .separator).step? .closeList =
        some (deliver (Frame.close (outer.length + 1) (.list items)) outer) := rfl
    exact run?_cons closed later
  | cons item rest inductionHypothesis =>
    have goesOn : (inside (.list items :: outer) .separator).step? .comma =
        some (inside (.list items :: outer) .value) := rfl
    simp only [itemTokens, List.cons_append, List.append_assoc, List.map_cons, List.map_append,
      Token.reread]
    rw [run?_cons goesOn, each item List.mem_cons_self, deliver,
      inductionHypothesis fun other inside => each other (List.mem_cons_of_mem _ inside),
      List.reverse_cons, List.append_assoc, List.singleton_append, List.length_cons]

/-- The rest of an object is read up to its end. -/
theorem run?_memberTokens {rest : List (String × Json)}
    (each : ∀ member ∈ rest, ∀ members key, Reads member.2 (.object members key true :: outer))
    (members : List (String × Json)) (last : String) (later : List Token) :
    ∃ key, (inside (.object members last true :: outer) .separator).run?
        ((memberTokens rest).map Token.reread ++ .closeObject :: later) =
      (deliver (Frame.close (outer.length + 1) (.object
        ((rest.map fun member => (member.1,
          member.2.reread (depthLimit - (outer.length + 1)))).reverse ++ members) key true))
        outer).run? later := by
  induction rest generalizing members last with
  | nil =>
    have closed : (inside (.object members last true :: outer) .separator).step? .closeObject =
        some (deliver (Frame.close (outer.length + 1) (.object members last true)) outer) := rfl
    exact ⟨last, run?_cons closed later⟩
  | cons member rest inductionHypothesis =>
    obtain ⟨key, value⟩ := member
    have goesOn : (inside (.object members last true :: outer) .separator).step? .comma =
        some (inside (.object members last true :: outer) .key) := rfl
    have named : (inside (.object members last true :: outer) .key).step? (.text (some key)) =
        some (inside (.object members key true :: outer) .colon) := rfl
    have due : (inside (.object members key true :: outer) .colon).step? .colon =
        some (inside (.object members key true :: outer) .value) := rfl
    obtain ⟨final, read⟩ := inductionHypothesis
      (fun other inside => each other (List.mem_cons_of_mem _ inside))
      ((key, value.reread (depthLimit - (outer.length + 1))) :: members) key
    refine ⟨final, ?_⟩
    simp only [memberTokens, List.cons_append, List.append_assoc, List.map_cons, List.map_append,
      Token.reread]
    rw [run?_cons goesOn, run?_cons named, run?_cons due, each (key, value) List.mem_cons_self,
      deliver, List.length_cons, read, List.reverse_cons, List.append_assoc,
      List.singleton_append]

theorem close_list (items : List Json) (outer : List Frame) :
    Frame.close (outer.length + 1)
        (.list (items.map (reread (depthLimit - (outer.length + 1)))).reverse) =
      (Json.list items).reread (depthLimit - outer.length) := by
  by_cases room : outer.length + 1 ≤ depthLimit
  · have levels : depthLimit - outer.length = depthLimit - (outer.length + 1) + 1 := by omega
    rw [Frame.close, if_pos room, List.reverse_reverse, levels]
    rfl
  · have noLevel : depthLimit - outer.length = 0 := by omega
    rw [Frame.close, if_neg room, noLevel]
    rfl

theorem close_object (members : List (String × Json)) (key : String) (outer : List Frame) :
    Frame.close (outer.length + 1)
        (.object (members.map fun member => (member.1,
          member.2.reread (depthLimit - (outer.length + 1)))).reverse key true) =
      (Json.object members).reread (depthLimit - outer.length) := by
  by_cases room : outer.length + 1 ≤ depthLimit
  · have levels : depthLimit - outer.length = depthLimit - (outer.length + 1) + 1 := by omega
    rw [Frame.close, if_pos (by simp [room]), List.reverse_reverse, levels]
    rfl
  · have noLevel : depthLimit - outer.length = 0 := by omega
    rw [Frame.close, if_neg (by simp [room]), noLevel]
    rfl

/-- The tokens of a tree are read wherever a value is due. -/
theorem reads_tokens (tree : Json) (frames : List Frame) : Reads tree frames := by
  induction tree using partsInduction generalizing frames with
  | null | bool | text | unreadable =>
    intro rest
    simp only [reread]
    exact run?_cons rfl rest
  | number value =>
    intro rest
    simp only [reread]
    cases read : value.reread? with
    | none | some =>
      simp only [tokens, List.map_cons, Token.reread, read]
      exact run?_cons rfl rest
  | list items inductionHypothesis =>
    have opened : (inside frames .value).step? .openList =
        some (inside (.list [] :: frames) .firstItem) := rfl
    intro rest
    rw [← close_list]
    cases items with
    | nil => exact (run?_cons opened _).trans (run?_cons rfl rest)
    | cons item items =>
      have first := inductionHypothesis item List.mem_cons_self (.list [] :: frames)
      simp only [tokens, List.cons_append, List.append_assoc, List.nil_append, List.map_cons,
        List.map_append, List.map_nil, Token.reread]
      rw [run?_cons opened, run?_firstItem first, deliver,
        run?_itemTokens fun other inside items =>
          inductionHypothesis other (List.mem_cons_of_mem _ inside) (.list items :: frames),
        List.reverse_cons, List.length_cons]
  | object members inductionHypothesis =>
    have opened : (inside frames .value).step? .openObject =
        some (inside (.object [] "" true :: frames) .firstKey) := rfl
    intro rest
    cases members with
    | nil =>
      rw [← close_object _ ""]
      exact (run?_cons opened _).trans (run?_cons rfl rest)
    | cons member members =>
      obtain ⟨key, value⟩ := member
      have named : (inside (.object [] "" true :: frames) .firstKey).step? (.text (some key)) =
          some (inside (.object [] key true :: frames) .colon) := rfl
      have due : (inside (.object [] key true :: frames) .colon).step? .colon =
          some (inside (.object [] key true :: frames) .value) := rfl
      have first := inductionHypothesis (key, value) List.mem_cons_self
        (.object [] key true :: frames)
      obtain ⟨last, others⟩ := run?_memberTokens
        (fun other inside members key =>
          inductionHypothesis other (List.mem_cons_of_mem _ inside)
            (.object members key true :: frames))
        [(key, value.reread (depthLimit - (frames.length + 1)))] key rest
      simp only [tokens, List.cons_append, List.append_assoc, List.nil_append, List.map_cons,
        List.map_append, List.map_nil, Token.reread]
      rw [run?_cons opened, run?_cons named, run?_cons due, first, deliver, List.length_cons,
        others, ← close_object _ last, List.map_cons, List.reverse_cons]

end ReadState

/-- The text of a tree is read as the tree, read again. -/
theorem parse?_render_eq_reread (tree : Json) :
    parse? tree.render = some (tree.reread depthLimit) := by
  have reads := ReadState.reads_tokens tree [] []
  rw [List.append_nil] at reads
  rw [parse?, render, String.toList_ofList, scan?_of_scans (scans_tokens tree), Option.bind_some,
    ofTokens?, reads]
  rfl

/-- A tree is read back from its own text if and only if it is printable. -/
theorem parse?_render_iff {tree : Json} :
    parse? tree.render = some tree ↔ IsPrintable depthLimit tree := by
  rw [parse?_render_eq_reread, Option.some_inj, reread_eq_self_iff]

/-- A printable tree is read back from its own text. -/
theorem parse?_render {tree : Json} (printable : IsPrintable depthLimit tree) :
    parse? tree.render = some tree :=
  parse?_render_iff.2 printable

/-! ## Printable parts -/

section Parts

variable {α : Type} {levels : Nat}

@[simp] theorem isPrintable_text (value : String) : IsPrintable levels (text value) :=
  .text levels value

@[simp] theorem isPrintable_bool (value : Bool) : IsPrintable levels (bool value) :=
  .bool levels value

@[simp] theorem isPrintable_ofUInt64 (value : UInt64) : IsPrintable levels (ofUInt64 value) :=
  .number levels (isReadBack_integer _ _ _)

@[simp] theorem isPrintable_ofUInt32 (value : UInt32) : IsPrintable levels (ofUInt32 value) :=
  isPrintable_ofUInt64 _

theorem isPrintable_ofBinary64 {value : Binary64} (isReadBack : value.IsReadBack) :
    IsPrintable levels (ofBinary64 value) :=
  .number levels isReadBack

@[simp] theorem isPrintable_list_map {write : α → Json} {items : List α}
    (each : ∀ item ∈ items, IsPrintable levels (write item)) :
    IsPrintable (levels + 1) (list (items.map write)) := by
  refine .list fun tree inside => ?_
  obtain ⟨item, itemInside, rfl⟩ := List.mem_map.1 inside
  exact each item itemInside

theorem isPrintable_ofKeyMap {write : α → Json} {map : KeyMap α}
    (each : ∀ value, IsPrintable levels (write value)) :
    IsPrintable (levels + 1) (ofKeyMap write map) := by
  refine .object fun member inside => ?_
  obtain ⟨entry, _, rfl⟩ := List.mem_map.1 inside
  exact each entry.2

/-- A record is printable if its members are. -/
theorem isPrintable_record {members : List (Option (String × Json))}
    (each : ∀ member ∈ members, IfWritten (fun entry => IsPrintable levels entry.2) member) :
    IsPrintable (levels + 1) (ofMembers members) := by
  refine .object fun entry inside => ?_
  obtain ⟨member, memberInside, same⟩ := List.mem_filterMap.1 inside
  exact each member memberInside entry same

end Parts

end Json

end Questionnaire
