import Mathlib.Algebra.Group.Nat.Defs
import Questionnaire.Json.Fields
import Questionnaire.Proofs.Json.Canonical

/-!
# Records are read back

A reader gives a value back if it reads the value from what the written tree stands for. Records are
written member by member, and what a tree stands for has the members of a record in another order;
each field is still found under its name.
-/

namespace Questionnaire

namespace Json

variable {α : Type}

/-- The tree stands for a value. -/
def Readable (tree : Json) : Prop :=
  ∃ value, canonical? tree = some value

/-- The reader gives the value back from what the written tree stands for. -/
def ReadsBack (read : Json → Option α) (written : Json) (value : α) : Prop :=
  ∃ tree, canonical? written = some tree ∧ read tree = some value

theorem ReadsBack.readable {read : Json → Option α} {written : Json} {value : α}
    (back : ReadsBack read written value) : written.Readable := by
  obtain ⟨tree, isValue, _⟩ := back
  exact ⟨tree, isValue⟩

theorem text_ne_null (value : String) : text value ≠ .null :=
  Json.noConfusion

theorem ofUInt64_ne_null (value : UInt64) : ofUInt64 value ≠ .null :=
  Json.noConfusion

theorem ofUInt32_ne_null (value : UInt32) : ofUInt32 value ≠ .null :=
  Json.noConfusion

theorem ofBinary64_ne_null (value : Binary64) : ofBinary64 value ≠ .null :=
  Json.noConfusion

theorem ofMembers_ne_null (members : List (Option (String × Json))) : ofMembers members ≠ .null :=
  Json.noConfusion

theorem asOption?_of_ne_null {read : Json → Option α} {tree : Json} (notNull : tree ≠ .null) :
    asOption? read tree = (read tree).map some := by
  cases tree with
  | null => exact absurd rfl notNull
  | bool | number | text | list | object | unreadable => rfl

/-- An optional value is one that is read from a tree other than `null`. -/
theorem asOption?_eq_some_some_iff {read : Json → Option α} {tree : Json} {value : α} :
    asOption? read tree = some (some value) ↔ tree ≠ .null ∧ read tree = some value := by
  by_cases isNull : tree = .null
  · subst isNull
    exact ⟨fun same => absurd (Option.some.inj same) nofun, fun both => absurd rfl both.1⟩
  · rw [asOption?_of_ne_null isNull, Option.map_eq_some_iff]
    constructor
    · rintro ⟨found, isFound, same⟩
      exact ⟨isNull, Option.some.inj same ▸ isFound⟩
    · exact fun both => ⟨value, both.2, rfl⟩

/-- An optional value is read back, unless it is written as `null`. -/
theorem ReadsBack.option {read : Json → Option α} {written : Json} {value : α}
    (back : ReadsBack read written value) (notNull : written ≠ .null) :
    ReadsBack (asOption? read) written (some value) := by
  obtain ⟨tree, isValue, isRead⟩ := back
  have treeNotNull : tree ≠ .null := by
    rintro rfl
    exact notNull (eq_null_of_canonical? isValue)
  exact ⟨tree, isValue, asOption?_eq_some_some_iff.2 ⟨treeNotNull, isRead⟩⟩

theorem readsBack_text (value : String) : ReadsBack asText? (.text value) value :=
  ⟨_, rfl, rfl⟩

theorem readsBack_bool (value : Bool) : ReadsBack asBool? (.bool value) value :=
  ⟨_, rfl, rfl⟩

theorem readsBack_binary64 (value : Binary64) : ReadsBack asBinary64? (.ofBinary64 value) value :=
  ⟨_, rfl, rfl⟩

theorem asUInt64?_ofUInt64 (value : UInt64) : asUInt64? (.ofUInt64 value) = some value := by
  have range : (0 : Int) ≤ value.toNat ∧ (value.toNat : Int) < (2 ^ 64 : Nat) := by
    have := value.toNat_lt
    omega
  simp only [ofUInt64, asUInt64?, asNatBelow?, if_pos range, Option.map_some, Int.toNat_natCast]
  rw [Nat.toUInt64, UInt64.ofNat_toNat]

theorem readsBack_uint64 (value : UInt64) : ReadsBack asUInt64? (.ofUInt64 value) value :=
  ⟨_, rfl, asUInt64?_ofUInt64 value⟩

theorem readsBack_uint32 (value : UInt32) : ReadsBack asUInt32? (.ofUInt32 value) value := by
  have range : (0 : Int) ≤ value.toNat ∧ (value.toNat : Int) < (2 ^ 32 : Nat) := by
    have := value.toNat_lt
    omega
  refine ⟨_, rfl, ?_⟩
  simp only [asUInt32?, asNatBelow?, UInt32.toNat_toUInt64, if_pos range, Option.map_some,
    Int.toNat_natCast]
  rw [Nat.toUInt32, UInt32.ofNat_toNat]

/-- A value of an enumeration is read back by its name. -/
theorem readsBack_oneOf {all : List α} {name : α → String} {value : α}
    (named : (all.find? fun other => name other == name value) = some value) :
    ReadsBack (asOneOf? all name) (.text (name value)) value :=
  ⟨_, rfl, named⟩

/-- A list is read back if each of its items is. -/
theorem readsBack_list {read : Json → Option α} {write : α → Json} {items : List α}
    (each : ∀ item ∈ items, ReadsBack read (write item) item) :
    ReadsBack (asList? read) (.list (items.map write)) items := by
  have trees : ∃ trees, canonicalItems? (items.map write) = some trees ∧
      trees.mapM read = some items := by
    induction items with
    | nil => exact ⟨[], rfl, rfl⟩
    | cons item rest inductionHypothesis =>
      obtain ⟨tree, isValue, isRead⟩ := each item List.mem_cons_self
      obtain ⟨trees, areValues, areRead⟩ :=
        inductionHypothesis fun other member => each other (List.mem_cons_of_mem item member)
      refine ⟨tree :: trees, ?_, ?_⟩
      · simp only [List.map_cons, canonicalItems?, isValue, areValues, Option.bind_eq_bind,
          Option.bind_some]
        rfl
      · simp only [List.mapM_cons, isRead, areRead, Option.bind_eq_bind, Option.bind_some]
        rfl
  obtain ⟨trees, areValues, areRead⟩ := trees
  exact ⟨.list trees, by rw [canonical?, areValues, Option.map_some], areRead⟩

/-! ## Members of records -/

/-- The member has the property, if it is written. -/
def IfWritten (property : String × Json → Prop) (member : Option (String × Json)) : Prop :=
  ∀ entry, member = some entry → property entry

section Members

variable {property : String × Json → Prop} {name : String}

@[simp] theorem ifWritten_member {value : Json} :
    IfWritten property (member name value) ↔ property (name, value) :=
  ⟨fun written => written _ rfl, by rintro written _ ⟨⟩; exact written⟩

@[simp] theorem ifWritten_memberIfSome {write : α → Json} {value : Option α} :
    IfWritten property (memberIfSome name write value) ↔
      ∀ inner, value = some inner → property (name, write inner) := by
  cases value with
  | none => exact ⟨fun _ => nofun, fun _ => nofun⟩
  | some value =>
    constructor
    · rintro written _ ⟨⟩
      exact written _ rfl
    · rintro written _ ⟨⟩
      exact written value rfl

@[simp] theorem ifWritten_memberIfItems {write : α → Json} {items : List α} :
    IfWritten property (memberIfItems name write items) ↔
      (items ≠ [] → property (name, .list (items.map write))) := by
  cases items with
  | nil => exact ⟨fun _ nonempty => absurd rfl nonempty, fun _ => nofun⟩
  | cons item rest =>
    constructor
    · exact fun written _ => written _ rfl
    · rintro written _ ⟨⟩
      exact written (List.cons_ne_nil item rest)

@[simp] theorem ifWritten_memberIfTrue {value : Bool} :
    IfWritten property (memberIfTrue name value) ↔
      (value = true → property (name, .bool true)) := by
  cases value with
  | false => exact ⟨fun _ => nofun, fun _ => nofun⟩
  | true =>
    constructor
    · exact fun written _ => written _ rfl
    · rintro written _ ⟨⟩
      exact written rfl

end Members

/-- The members of a record have these names, in order. -/
def AreNamed : List (Option (String × Json)) → List String → Prop
  | [], [] => True
  | member :: members, name :: names =>
    IfWritten (fun entry => entry.1 = name) member ∧ AreNamed members names
  | _, _ => False

namespace Fields

/-- What is found under a name is what the member with this name stands for. -/
def Holds (fields : Fields) (name : String) (member : Option (String × Json)) : Prop :=
  fields.found.lookup name = member.bind fun entry => canonical? entry.2

/-- Every member is found under its name. -/
def HoldAll (fields : Fields) : List (Option (String × Json)) → List String → Prop
  | member :: members, name :: names => fields.Holds name member ∧ HoldAll fields members names
  | _, _ => True

variable {fields : Fields} {name : String} {read : Json → Option α}

theorem Holds.required {written : Json} {value : α}
    (holds : fields.Holds name (member name written)) (back : ReadsBack read written value) :
    fields.required name read = some value := by
  obtain ⟨tree, isValue, isRead⟩ := back
  have found : fields.found.lookup name = some tree := holds.trans isValue
  rw [Fields.required, found, Option.bind_some, isRead]

theorem Holds.withDefault {written : Json} {value : α} (default : α)
    (holds : fields.Holds name (member name written)) (back : ReadsBack read written value) :
    fields.withDefault name default read = some value := by
  obtain ⟨tree, isValue, isRead⟩ := back
  have found : fields.found.lookup name = some tree := holds.trans isValue
  rw [Fields.withDefault, found]
  exact isRead

/-- A member that is left out for no value is read back if its value is. -/
theorem Holds.ifSome {write : α → Json} {value : Option α} {readOption : Json → Option (Option α)}
    (holds : fields.Holds name (memberIfSome name write value))
    (back : ∀ inner, value = some inner → ReadsBack readOption (write inner) (some inner)) :
    fields.withDefault name none readOption = some value := by
  cases value with
  | none =>
    have absent : fields.found.lookup name = none := holds
    rw [Fields.withDefault, absent]
  | some inner =>
    obtain ⟨tree, isValue, isRead⟩ := back inner rfl
    have found : fields.found.lookup name = some tree := holds.trans isValue
    rw [Fields.withDefault, found]
    exact isRead

theorem Holds.optional {write : α → Json} {value : Option α}
    (holds : fields.Holds name (memberIfSome name write value))
    (back : ∀ inner, ReadsBack read (write inner) inner ∧ write inner ≠ .null) :
    fields.optional name read = some value :=
  holds.ifSome fun inner _ => (back inner).1.option (back inner).2

theorem Holds.items {write : α → Json} {items : List α}
    (holds : fields.Holds name (memberIfItems name write items))
    (back : ∀ item ∈ items, ReadsBack read (write item) item) :
    fields.withDefault name [] (asList? read) = some items := by
  cases items with
  | nil =>
    have absent : fields.found.lookup name = none := holds
    rw [Fields.withDefault, absent]
  | cons item rest => exact Holds.withDefault [] holds (readsBack_list back)

theorem Holds.flag {value : Bool} (holds : fields.Holds name (memberIfTrue name value)) :
    fields.withDefault name false asBool? = some value := by
  cases value with
  | false =>
    have absent : fields.found.lookup name = none := holds
    rw [Fields.withDefault, absent]
  | true => exact Holds.withDefault false holds (readsBack_bool true)

end Fields

/-! ## Whole records -/

theorem AreNamed.key {members : List (Option (String × Json))} {names : List String}
    (named : AreNamed members names) : ∀ entry ∈ members.filterMap id, entry.1 ∈ names := by
  induction members generalizing names with
  | nil => exact fun _ member => absurd member List.not_mem_nil
  | cons first members inductionHypothesis =>
    cases names with
    | nil => exact named.elim
    | cons name names =>
      obtain ⟨here, later⟩ := named
      intro entry inside
      obtain ⟨member, memberInside, same⟩ := List.mem_filterMap.1 inside
      rcases List.mem_cons.1 memberInside with isFirst | further
      · rw [here entry (isFirst ▸ same)]
        exact List.mem_cons_self
      · exact List.mem_cons_of_mem name
          (inductionHypothesis later entry (List.mem_filterMap.2 ⟨member, further, same⟩))

/-- The keys of a record are distinct if the names are. -/
theorem AreNamed.nodup {members : List (Option (String × Json))} {names : List String}
    (named : AreNamed members names) (distinct : names.Nodup) :
    ((members.filterMap id).map Prod.fst).Nodup := by
  induction members generalizing names with
  | nil => exact List.nodup_nil
  | cons first members inductionHypothesis =>
    cases names with
    | nil => exact named.elim
    | cons name names =>
      obtain ⟨here, later⟩ := named
      obtain ⟨absent, restDistinct⟩ := List.nodup_cons.1 distinct
      have rest := inductionHypothesis later restDistinct
      cases first with
      | none => exact rest
      | some entry =>
        refine List.nodup_cons.2 ⟨?_, rest⟩
        intro inside
        obtain ⟨other, otherInside, same⟩ := List.mem_map.1 inside
        have key : other.1 ∈ names := AreNamed.key later other otherInside
        rw [same, here entry rfl] at key
        exact absent key

/-- Each member is found under its own name. -/
theorem AreNamed.holdAll {members : List (Option (String × Json))} {names : List String}
    (named : AreNamed members names) (distinct : names.Nodup) {fields : Fields}
    (found : ∀ name ∈ names, fields.found.lookup name =
      ((members.filterMap id).lookup name).bind canonical?) : fields.HoldAll members names := by
  induction members generalizing names with
  | nil => cases names <;> trivial
  | cons first members inductionHypothesis =>
    cases names with
    | nil => exact named.elim
    | cons name names =>
      obtain ⟨here, later⟩ := named
      obtain ⟨absent, restDistinct⟩ := List.nodup_cons.1 distinct
      have unnamed : (members.filterMap id).lookup name = none := by
        rw [List.lookup_eq_none_iff]
        intro entry inside
        refine bne_iff_ne.2 ?_
        rintro rfl
        exact absent (AreNamed.key later entry inside)
      constructor
      · have own := found name List.mem_cons_self
        cases first with
        | none =>
          change fields.found.lookup name = ((members.filterMap id).lookup name).bind _ at own
          rw [unnamed] at own
          exact own
        | some entry =>
          have key : name = entry.1 := (here entry rfl).symm
          change fields.found.lookup name = (((entry.1, entry.2) :: members.filterMap id).lookup
            name).bind _ at own
          rw [KeyMap.lookup_cons, if_pos key] at own
          exact own
      · refine inductionHypothesis later restDistinct fun other inside => ?_
        rw [found other (List.mem_cons_of_mem name inside)]
        cases first with
        | none => rfl
        | some entry =>
          have key : other ≠ entry.1 := by
            rintro rfl
            exact absent (here entry rfl ▸ inside)
          change (((entry.1, entry.2) :: members.filterMap id).lookup other).bind _ = _
          rw [KeyMap.lookup_cons, if_neg key]

theorem canonicalMembers?_readable {members : List (String × Json)}
    (readable : ∀ member ∈ members, member.2.Readable) :
    ∃ values, canonicalMembers? members = some values ∧
      values.map Prod.fst = members.map Prod.fst ∧
      ∀ name, values.lookup name = (members.lookup name).bind canonical? := by
  induction members with
  | nil => exact ⟨[], rfl, rfl, fun _ => rfl⟩
  | cons first members inductionHypothesis =>
    obtain ⟨key, member⟩ := first
    obtain ⟨tree, isValue⟩ := readable (key, member) List.mem_cons_self
    obtain ⟨values, areValues, sameKeys, found⟩ :=
      inductionHypothesis fun other inside => readable other (List.mem_cons_of_mem _ inside)
    refine ⟨(key, tree) :: values, ?_, ?_, ?_⟩
    · simp only [canonicalMembers?, isValue, areValues, Option.bind_eq_bind, Option.bind_some]
      rfl
    · rw [List.map_cons, List.map_cons, sameKeys]
    · intro name
      rw [KeyMap.lookup_cons, KeyMap.lookup_cons, found]
      split
      · exact isValue.symm
      · rfl

/-- A filter that keeps a name keeps what is found under it. -/
theorem lookup_filter {keep : String → Bool} {name : String} (kept : keep name = true)
    (entries : List (String × α)) :
    (entries.filter fun entry => keep entry.1).lookup name = entries.lookup name := by
  induction entries with
  | nil => rfl
  | cons first rest inductionHypothesis =>
    obtain ⟨key, value⟩ := first
    by_cases here : name = key
    · subst here
      rw [List.filter_cons_of_pos (by exact kept), KeyMap.lookup_cons, KeyMap.lookup_cons,
        if_pos rfl, if_pos rfl]
    · rw [KeyMap.lookup_cons, if_neg here, ← inductionHypothesis, List.filter_cons]
      split
      · rw [KeyMap.lookup_cons, if_neg here]
      · rfl

theorem readable_entries {members : List (Option (String × Json))}
    (readable : ∀ member ∈ members, IfWritten (fun entry => entry.2.Readable) member) :
    ∀ entry ∈ members.filterMap id, entry.2.Readable := by
  intro entry inside
  obtain ⟨member, memberInside, same⟩ := List.mem_filterMap.1 inside
  exact readable member memberInside entry same

/-- What a record stands for has its members under their names. -/
theorem fields?_record {members : List (Option (String × Json))} {names : List String}
    (named : AreNamed members names) (distinct : names.Nodup)
    (readable : ∀ member ∈ members, IfWritten (fun entry => entry.2.Readable) member) :
    ∃ tree fields, canonical? (ofMembers members) = some tree ∧
      tree.fields? names = some fields ∧ fields.HoldAll members names := by
  obtain ⟨values, areValues, sameKeys, found⟩ :=
    canonicalMembers?_readable (readable_entries readable)
  have valuesDistinct : (values.map Prod.fst).Nodup := by
    rw [sameKeys]
    exact named.nodup distinct
  have keys : (((KeyMap.ofList values).entries.filter fun entry => names.contains entry.1).map
      Prod.fst).Nodup := (KeyMap.nodup_keys (KeyMap.ofList values)).sublist
    (List.filter_sublist.map Prod.fst)
  refine ⟨.object (KeyMap.ofList values).entries, _, ?_, by rw [fields?, if_pos keys], ?_⟩
  · rw [ofMembers, canonical?, areValues, Option.map_some]
  · refine named.holdAll distinct fun name inside => ?_
    have kept : names.contains name = true := List.contains_iff_mem.2 inside
    change ((KeyMap.ofList values).entries.filter
      fun entry => names.contains entry.1).lookup name = _
    rw [lookup_filter kept, ← found]
    exact KeyMap.get?_ofList valuesDistinct name

/-- A record is read back if its value is assembled from its members. -/
theorem readsBack_record {members : List (Option (String × Json))} {names : List String}
    {assemble : Fields → Option α} {value : α} (named : AreNamed members names)
    (distinct : names.Nodup)
    (readable : ∀ member ∈ members, IfWritten (fun entry => entry.2.Readable) member)
    (assembled : ∀ fields : Fields, fields.HoldAll members names → assemble fields = some value) :
    ReadsBack (fun tree => (tree.fields? names).bind assemble) (ofMembers members) value := by
  obtain ⟨tree, fields, isValue, areFields, holds⟩ := fields?_record named distinct readable
  have isRead : (tree.fields? names).bind assemble = some value := by
    rw [areFields, Option.bind_some, assembled fields holds]
  exact ⟨tree, isValue, isRead⟩

/-! ## Readable parts -/

@[simp] theorem readable_text (value : String) : (text value).Readable :=
  ⟨_, rfl⟩

@[simp] theorem readable_bool (value : Bool) : (bool value).Readable :=
  ⟨_, rfl⟩

@[simp] theorem readable_ofUInt64 (value : UInt64) : (ofUInt64 value).Readable :=
  ⟨_, rfl⟩

@[simp] theorem readable_ofUInt32 (value : UInt32) : (ofUInt32 value).Readable :=
  ⟨_, rfl⟩

@[simp] theorem readable_ofBinary64 (value : Binary64) : (ofBinary64 value).Readable :=
  ⟨_, rfl⟩

theorem readable_list {items : List Json} (each : ∀ item ∈ items, item.Readable) :
    (list items).Readable := by
  have values : ∃ values, canonicalItems? items = some values := by
    induction items with
    | nil => exact ⟨[], rfl⟩
    | cons item rest inductionHypothesis =>
      obtain ⟨value, isValue⟩ := each item List.mem_cons_self
      obtain ⟨values, areValues⟩ :=
        inductionHypothesis fun other inside => each other (List.mem_cons_of_mem item inside)
      refine ⟨value :: values, ?_⟩
      simp only [canonicalItems?, isValue, areValues, Option.bind_eq_bind, Option.bind_some]
      rfl
  obtain ⟨values, areValues⟩ := values
  exact ⟨.list values, by rw [canonical?, areValues, Option.map_some]⟩

@[simp] theorem readable_list_map {write : α → Json} {items : List α}
    (each : ∀ item ∈ items, (write item).Readable) : (list (items.map write)).Readable := by
  refine readable_list fun tree inside => ?_
  obtain ⟨item, itemInside, rfl⟩ := List.mem_map.1 inside
  exact each item itemInside

theorem readable_record {members : List (Option (String × Json))}
    (readable : ∀ member ∈ members, IfWritten (fun entry => entry.2.Readable) member) :
    (ofMembers members).Readable := by
  obtain ⟨values, areValues, _⟩ := canonicalMembers?_readable (readable_entries readable)
  exact ⟨_, by rw [ofMembers, canonical?, areValues, Option.map_some]⟩

end Json

end Questionnaire
