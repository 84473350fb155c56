import Mathlib.Data.List.Forall2
import Questionnaire.Proofs.Json.Printing

/-!
# What was read back

If a record that went through its own text is read back as it was, so is each of its members: the
text has kept them. The tree that is read need not be the one that was written, as numbers are read
again from their own texts.
-/

namespace Questionnaire

namespace Json

variable {α : Type} {levels : Nat}

/-! ## Values -/

/-- A binary64 number that is read back is what its text is read as. -/
theorem ReadsBack.isReadBack {value : Binary64}
    (back : ReadsBack asBinary64? ((ofBinary64 value).reread levels) value) : value.IsReadBack := by
  obtain ⟨tree, isValue, isRead⟩ := back
  rw [ofBinary64, reread] at isValue
  cases read : (Number.binary value).reread? with
  | none =>
    rw [read] at isValue
    contradiction
  | some number =>
    obtain ⟨other, rfl⟩ := eq_binary_of_reread? read
    rw [read] at isValue
    obtain rfl := Option.some.inj isValue
    obtain rfl : other = value := Option.some.inj isRead
    exact read

theorem ReadsBack.of_option {read : Json → Option α} {written : Json} {value : α}
    (back : ReadsBack (asOption? read) written (some value)) : ReadsBack read written value := by
  obtain ⟨tree, isValue, isRead⟩ := back
  exact ⟨tree, isValue, (asOption?_eq_some_some_iff.1 isRead).2⟩

/-! ## Parts and their values -/

theorem forall₂_of_canonicalItems? {items values : List Json}
    (areValues : canonicalItems? items = some values) :
    List.Forall₂ (fun item value => canonical? item = some value) items values := by
  induction items generalizing values with
  | nil => exact Option.some.inj areValues ▸ .nil
  | cons item rest inductionHypothesis =>
    simp only [canonicalItems?, Option.bind_eq_bind, Option.bind_eq_some_iff] at areValues
    obtain ⟨value, isValue, others, areOthers, same⟩ := areValues
    exact Option.some.inj same ▸ .cons isValue (inductionHypothesis areOthers)

/-- The values of members have the keys of the members. -/
theorem forall₂_of_canonicalMembers? {members values : List (String × Json)}
    (areValues : canonicalMembers? members = some values) :
    List.Forall₂ (fun member value => member.1 = value.1 ∧ canonical? member.2 = some value.2)
      members values := by
  induction members generalizing values with
  | nil => exact Option.some.inj areValues ▸ .nil
  | cons member rest inductionHypothesis =>
    simp only [canonicalMembers?, Option.bind_eq_bind, Option.bind_eq_some_iff] at areValues
    obtain ⟨value, isValue, others, areOthers, same⟩ := areValues
    exact Option.some.inj same ▸ .cons ⟨rfl, isValue⟩ (inductionHypothesis areOthers)

theorem exists_of_forall₂ {α β : Type} {relates : α → β → Prop} {items : List α}
    {values : List β} (each : List.Forall₂ relates items values) :
    ∀ item ∈ items, ∃ value ∈ values, relates item value := by
  induction each with
  | nil => exact fun _ inside => absurd inside List.not_mem_nil
  | cons related _ inductionHypothesis =>
    refine List.forall_mem_cons.2 ⟨⟨_, List.mem_cons_self, related⟩, fun item inside => ?_⟩
    obtain ⟨value, isInside, isRelated⟩ := inductionHypothesis item inside
    exact ⟨value, List.mem_cons_of_mem _ isInside, isRelated⟩

theorem readable_of_canonicalItems? {items values : List Json}
    (areValues : canonicalItems? items = some values) : ∀ item ∈ items, item.Readable := by
  intro item inside
  obtain ⟨value, _, isValue⟩ := exists_of_forall₂ (forall₂_of_canonicalItems? areValues) item inside
  exact ⟨value, isValue⟩

theorem readable_of_canonicalMembers? {members values : List (String × Json)}
    (areValues : canonicalMembers? members = some values) :
    ∀ member ∈ members, member.2.Readable := by
  intro member inside
  obtain ⟨value, _, _, isValue⟩ :=
    exists_of_forall₂ (forall₂_of_canonicalMembers? areValues) member inside
  exact ⟨value.2, isValue⟩

/-! ## Lists -/

/-- The value of a list that was read again holds the values of its items. -/
theorem exists_values_of_list {write : α → Json} {items : List α} {tree : Json}
    (isValue : canonical? ((list (items.map write)).reread levels) = some tree) :
    ∃ lower values, tree = list values ∧
      List.Forall₂ (fun item value => canonical? ((write item).reread lower) = some value)
        items values := by
  cases levels with
  | zero => contradiction
  | succ lower =>
    rw [reread, List.map_map] at isValue
    obtain ⟨values, areValues, rfl⟩ := Option.map_eq_some_iff.1 isValue
    have each := List.forall₂_map_left_iff.1 (forall₂_of_canonicalItems? areValues)
    exact ⟨lower, values, rfl, each⟩

/-- Each item of a list that is read back is read back. -/
theorem readsBack_of_mapM {read : Json → Option α} {write : α → Json} {items : List α}
    {values : List Json}
    (areValues : List.Forall₂ (fun item value => canonical? (write item) = some value) items values)
    (areRead : values.mapM read = some items) :
    ∀ item ∈ items, ReadsBack read (write item) item := by
  induction areValues with
  | nil => exact fun _ inside => absurd inside List.not_mem_nil
  | @cons _ value _ _ isValue _ inductionHypothesis =>
    simp only [List.mapM_cons, Option.bind_eq_bind, Option.bind_eq_some_iff] at areRead
    obtain ⟨first, isFirst, later, areLater, same⟩ := areRead
    obtain ⟨rfl, rfl⟩ := List.cons.inj (Option.some.inj same)
    exact List.forall_mem_cons.2 ⟨⟨value, isValue, isFirst⟩, inductionHypothesis areLater⟩

theorem ReadsBack.of_list {read : Json → Option α} {write : α → Json} {items : List α}
    (back : ReadsBack (asList? read) ((list (items.map write)).reread levels) items) :
    ∃ lower, ∀ item ∈ items, ReadsBack read ((write item).reread lower) item := by
  obtain ⟨tree, isValue, isRead⟩ := back
  obtain ⟨lower, values, rfl, each⟩ := exists_values_of_list isValue
  exact ⟨lower, readsBack_of_mapM each isRead⟩

/-! ## Members of records -/

/-- A member whose value is read again. -/
def rereadMember (levels : Nat) (member : Option (String × Json)) : Option (String × Json) :=
  member.map fun entry => (entry.1, entry.2.reread levels)

namespace Fields.Holds

variable {fields : Fields} {name : String} {read : Json → Option α}

theorem of_required {written : Json} {value : α}
    (holds : fields.Holds name (rereadMember levels (member name written)))
    (isRead : fields.required name read = some value) :
    ReadsBack read (written.reread levels) value := by
  obtain ⟨tree, found, isRead⟩ := Option.bind_eq_some_iff.1 isRead
  exact ⟨tree, holds.symm.trans found, isRead⟩

theorem of_withDefault {written : Json} {default value : α}
    (holds : fields.Holds name (rereadMember levels (member name written)))
    (readable : (written.reread levels).Readable)
    (isRead : fields.withDefault name default read = some value) :
    ReadsBack read (written.reread levels) value := by
  obtain ⟨tree, isValue⟩ := readable
  have found : fields.found.lookup name = some tree := holds.trans isValue
  rw [Fields.withDefault, found] at isRead
  exact ⟨tree, isValue, isRead⟩

theorem of_ifSome {write : α → Json} {value : Option α} {readOption : Json → Option (Option α)}
    (holds : fields.Holds name (rereadMember levels (memberIfSome name write value)))
    (isRead : fields.withDefault name none readOption = some value) :
    ∀ inner, value = some inner →
      ReadsBack readOption ((write inner).reread levels) (some inner) := by
  rintro inner rfl
  rw [Fields.withDefault] at isRead
  split at isRead
  · exact absurd (Option.some.inj isRead).symm (Option.some_ne_none inner)
  · rename_i tree found
    exact ⟨tree, holds.symm.trans found, isRead⟩

theorem of_optional {write : α → Json} {value : Option α}
    (holds : fields.Holds name (rereadMember levels (memberIfSome name write value)))
    (isRead : fields.optional name read = some value) :
    ∀ inner, value = some inner → ReadsBack read ((write inner).reread levels) inner :=
  fun inner is => (holds.of_ifSome isRead inner is).of_option

end Fields.Holds

/-! ## Whole records -/

theorem reread_ofMembers (levels : Nat) (members : List (Option (String × Json))) :
    (ofMembers members).reread (levels + 1) = ofMembers (members.map (rereadMember levels)) := by
  rw [ofMembers, reread, ofMembers, List.map_filterMap, List.filterMap_map]
  rfl

theorem AreNamed.reread {members : List (Option (String × Json))} {names : List String}
    (named : AreNamed members names) (levels : Nat) :
    AreNamed (members.map (rereadMember levels)) names := by
  induction members generalizing names with
  | nil => exact named
  | cons first members inductionHypothesis =>
    cases names with
    | nil => exact named.elim
    | cons name names =>
      obtain ⟨here, later⟩ := named
      refine ⟨fun entry same => ?_, inductionHypothesis later⟩
      obtain ⟨written, isWritten, rfl⟩ := Option.map_eq_some_iff.1 same
      exact here written isWritten

/-- A record that is read back is assembled from its members, read again. -/
theorem ReadsBack.of_record {members : List (Option (String × Json))} {names : List String}
    {assemble : Fields → Option α} {value : α}
    (back : ReadsBack (fun tree => (tree.fields? names).bind assemble)
      ((ofMembers members).reread levels) value)
    (named : AreNamed members names) (distinct : names.Nodup) :
    ∃ lower fields, Fields.HoldAll fields (members.map (rereadMember lower)) names ∧
      (∀ member ∈ members.map (rereadMember lower),
        IfWritten (fun entry => entry.2.Readable) member) ∧
      assemble fields = some value := by
  obtain ⟨tree, isValue, isRead⟩ := back
  cases levels with
  | zero => contradiction
  | succ lower =>
    rw [reread_ofMembers] at isValue
    have readable : ∀ member ∈ members.map (rereadMember lower),
        IfWritten (fun entry => entry.2.Readable) member := by
      intro member inside entry same
      obtain ⟨values, areValues, _⟩ := Option.map_eq_some_iff.1 isValue
      have isWritten : entry ∈ (members.map (rereadMember lower)).filterMap id :=
        List.mem_filterMap.2 ⟨member, inside, same⟩
      exact readable_of_canonicalMembers? areValues entry isWritten
    obtain ⟨same, fields, isSame, areFields, holds⟩ :=
      fields?_record (named.reread lower) distinct readable
    obtain rfl : tree = same := Option.some.inj (isValue.symm.trans isSame)
    have assembled : (tree.fields? names).bind assemble = some value := isRead
    rw [areFields, Option.bind_some] at assembled
    exact ⟨lower, fields, holds, readable, assembled⟩

/-! ## Whole values -/

/-- Entries that have the keys of a map are already in order. -/
theorem entries_ofList {α : Type} {entries : List (String × α)} {map : KeyMap α}
    (sameKeys : entries.map Prod.fst = map.keys) : (KeyMap.ofList entries).entries = entries := by
  have keys : map.keys.Pairwise (· < ·) := List.pairwise_map.2 map.sorted
  have sorted : entries.Pairwise fun left right => left.1 < right.1 :=
    List.pairwise_map.1 (sameKeys ▸ keys)
  exact congrArg KeyMap.entries (KeyMap.ofList_entries { entries, sorted })

/-- A value that its own text stands for is printable. -/
theorem isPrintable_of_canonical? {tree : Json}
    (back : canonical? (tree.reread levels) = some tree) : IsPrintable levels tree := by
  induction tree using partsInduction generalizing levels with
  | null => exact .null levels
  | bool value => exact .bool levels value
  | text value => exact .text levels value
  | number value =>
    have same : (number value).reread levels = number value := by
      rw [reread] at back ⊢
      cases read : value.reread? with
      | none =>
        rw [read] at back
        contradiction
      | some number =>
        rw [read] at back
        exact Option.some.inj back
    exact .number levels (reread_number_eq_self_iff.1 same)
  | unreadable =>
    rw [reread] at back
    cases Option.some.inj back
  | list items inductionHypothesis =>
    cases levels with
    | zero => contradiction
    | succ levels =>
      rw [reread] at back
      obtain ⟨values, areValues, same⟩ := Option.map_eq_some_iff.1 back
      obtain rfl := Json.list.inj same
      have each := List.forall₂_map_left_iff.1 (forall₂_of_canonicalItems? areValues)
      exact .list fun item inside =>
        inductionHypothesis item inside (List.forall₂_same.1 each item inside)
  | object members inductionHypothesis =>
    cases levels with
    | zero => contradiction
    | succ levels =>
      rw [reread] at back
      obtain ⟨values, areValues, same⟩ := Option.map_eq_some_iff.1 back
      -- The values keep the keys, so the map of them is in the order of the members.
      have areEntries : (KeyMap.ofList values).entries = members := Json.object.inj same
      have each := List.forall₂_map_left_iff.1 (forall₂_of_canonicalMembers? areValues)
      have sameKeys : members.map Prod.fst = values.map Prod.fst := by
        rw [← List.forall₂_eq_eq_eq, List.forall₂_map_left_iff, List.forall₂_map_right_iff]
        exact each.imp fun _ _ both => both.1
      have ordered : values.map Prod.fst = (KeyMap.ofList values).keys := by
        rw [← sameKeys, ← areEntries]
        rfl
      obtain rfl : values = members := (entries_ofList ordered).symm.trans areEntries
      exact .object fun member inside =>
        inductionHypothesis member inside (List.forall₂_same.1 each member inside).2

end Json

end Questionnaire
