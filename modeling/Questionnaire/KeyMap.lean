/-!
# Finite maps keyed by text

`KeyMap α` is a finite map from text keys to values. Its entries are kept strictly increasing by
key, so a map has one form only: two maps with the same look-ups are equal, and listing the entries
needs no further choice of order.
-/

namespace Questionnaire

/-- A finite map from text keys, whose entries are strictly increasing by key. -/
structure KeyMap (α : Type) where
  /-- The keys with their values, in key order. -/
  entries : List (String × α)
  /-- Each key stands before every later one. -/
  sorted : entries.Pairwise fun left right => left.1 < right.1
deriving DecidableEq, Repr

namespace KeyMap

variable {α β : Type}

/-- The map without keys. -/
def empty : KeyMap α where
  entries := []
  sorted := .nil

instance : EmptyCollection (KeyMap α) := ⟨empty⟩

instance : Inhabited (KeyMap α) := ⟨empty⟩

/-- The value at a key, if the key is there. -/
def get? (entries : KeyMap α) (key : String) : Option α :=
  entries.entries.lookup key

/-- The keys, in order. -/
def keys (entries : KeyMap α) : List String :=
  entries.entries.map (·.1)

/-- The values, in the order of their keys. -/
def values (entries : KeyMap α) : List α :=
  entries.entries.map (·.2)

/-- Whether the map has no key. -/
def isEmpty (entries : KeyMap α) : Bool :=
  entries.entries.isEmpty

/-- Puts a value into a sorted list of entries, in place of an earlier value of the same key. -/
def insertEntry (key : String) (value : α) : List (String × α) → List (String × α)
  | [] => [(key, value)]
  | (otherKey, other) :: rest =>
    if key < otherKey then (key, value) :: (otherKey, other) :: rest
    else if key = otherKey then (key, value) :: rest
    else (otherKey, other) :: insertEntry key value rest

theorem mem_insertEntry {key : String} {value : α} {entry : String × α}
    {entries : List (String × α)} (member : entry ∈ insertEntry key value entries) :
    entry = (key, value) ∨ entry ∈ entries := by
  induction entries with
  | nil => simpa [insertEntry] using member
  | cons first rest ih =>
    obtain ⟨otherKey, other⟩ := first
    simp only [insertEntry] at member
    split at member
    · simpa using member
    · split at member
      · rcases List.mem_cons.1 member with here | there
        · exact .inl here
        · exact .inr (List.mem_cons_of_mem _ there)
      · rcases List.mem_cons.1 member with here | there
        · exact .inr (here ▸ List.mem_cons_self)
        · exact (ih there).imp id (List.mem_cons_of_mem _)

theorem pairwise_insertEntry {key : String} {value : α} {entries : List (String × α)}
    (sorted : entries.Pairwise fun left right => left.1 < right.1) :
    (insertEntry key value entries).Pairwise fun left right => left.1 < right.1 := by
  induction entries with
  | nil => simp [insertEntry]
  | cons first rest ih =>
    obtain ⟨otherKey, other⟩ := first
    obtain ⟨before, restSorted⟩ := List.pairwise_cons.1 sorted
    simp only [insertEntry]
    split
    case isTrue less =>
      refine List.pairwise_cons.2 ⟨fun entry member => ?_, sorted⟩
      rcases List.mem_cons.1 member with here | there
      · exact here ▸ less
      · exact String.lt_trans less (before entry there)
    case isFalse notLess =>
      split
      case isTrue same =>
        subst same
        exact List.pairwise_cons.2 ⟨before, restSorted⟩
      case isFalse differs =>
        have greater : otherKey < key := by
          apply Decidable.byContradiction
          intro notGreater
          exact differs (String.le_antisymm (String.not_lt.1 notGreater) (String.not_lt.1 notLess))
        refine List.pairwise_cons.2 ⟨fun entry member => ?_, ih restSorted⟩
        rcases mem_insertEntry member with here | there
        · exact here ▸ greater
        · exact before entry there

/-- Puts a value at a key, in place of an earlier one. -/
def insert (entries : KeyMap α) (key : String) (value : α) : KeyMap α where
  entries := insertEntry key value entries.entries
  sorted := pairwise_insertEntry entries.sorted

/-- The map of a list of entries, in which a later entry replaces an earlier one of the same key. -/
def ofList (entries : List (String × α)) : KeyMap α :=
  entries.foldl (fun built entry => built.insert entry.1 entry.2) empty

/-- The map without a key. -/
def erase (entries : KeyMap α) (key : String) : KeyMap α where
  entries := entries.entries.filter fun entry => entry.1 != key
  sorted := entries.sorted.sublist List.filter_sublist

/-- Keeps the entries whose value passes the test. -/
def filterValues (keep : α → Bool) (entries : KeyMap α) : KeyMap α where
  entries := entries.entries.filter fun entry => keep entry.2
  sorted := entries.sorted.sublist List.filter_sublist

/-- The map with every value changed. -/
def mapValues (change : α → β) (entries : KeyMap α) : KeyMap β where
  entries := entries.entries.map fun entry => (entry.1, change entry.2)
  sorted := List.pairwise_map.2 entries.sorted

@[simp] theorem get?_empty (key : String) : (empty : KeyMap α).get? key = none := rfl

theorem lookup_cons (key other : String) (value : α) (entries : List (String × α)) :
    ((key, value) :: entries).lookup other =
      if other = key then some value else entries.lookup other := by
  rw [List.lookup_cons]
  by_cases same : other = key
  · simp [same]
  · simp [same, beq_eq_false_iff_ne.2 same]

theorem lookup_insertEntry (key other : String) (value : α) (entries : List (String × α)) :
    (insertEntry key value entries).lookup other =
      if other = key then some value else entries.lookup other := by
  induction entries with
  | nil => rw [insertEntry, lookup_cons]
  | cons first rest ih =>
    obtain ⟨firstKey, firstValue⟩ := first
    simp only [insertEntry]
    split
    · rw [lookup_cons]
    · split
      case isTrue same =>
        subst same
        rw [lookup_cons, lookup_cons]
        split <;> rfl
      case isFalse differs =>
        rw [lookup_cons, lookup_cons, ih]
        by_cases here : other = firstKey
        · have apart : ¬firstKey = key := fun same => differs same.symm
          simp [here, apart]
        · simp [here]

/-- An insertion changes the look-up of its own key only. -/
@[simp] theorem get?_insert (entries : KeyMap α) (key other : String) (value : α) :
    (entries.insert key value).get? other =
      if other = key then some value else entries.get? other :=
  lookup_insertEntry key other value entries.entries

end KeyMap

end Questionnaire
