import Questionnaire.KeyMap

/-!
# Maps from lists of entries

A map is the map of its own entries. Of a list of entries whose keys are distinct, every entry is
found again.
-/

namespace Questionnaire

namespace KeyMap

variable {α : Type}

/-- An entry past all others is put at the end. -/
theorem insertEntry_of_past {key : String} {value : α} {entries : List (String × α)}
    (past : ∀ entry ∈ entries, entry.1 < key) :
    insertEntry key value entries = entries ++ [(key, value)] := by
  induction entries with
  | nil => rfl
  | cons first rest inductionHypothesis =>
    obtain ⟨otherKey, other⟩ := first
    have less : otherKey < key := past (otherKey, other) List.mem_cons_self
    have notLess : ¬ key < otherKey := String.lt_asymm less
    have differs : key ≠ otherKey := by
      rintro rfl
      exact String.lt_irrefl key less
    rw [insertEntry, if_neg notLess, if_neg differs,
      inductionHypothesis fun entry member => past entry (List.mem_cons_of_mem _ member)]
    rfl

theorem entries_foldl_insert {built : KeyMap α} {rest : List (String × α)}
    (sorted : (built.entries ++ rest).Pairwise fun left right => left.1 < right.1) :
    (rest.foldl (fun built entry => built.insert entry.1 entry.2) built).entries =
      built.entries ++ rest := by
  induction rest generalizing built with
  | nil => exact (List.append_nil _).symm
  | cons entry rest inductionHypothesis =>
    have past : ∀ other ∈ built.entries, other.1 < entry.1 := by
      intro other member
      exact (List.pairwise_append.1 sorted).2.2 other member entry List.mem_cons_self
    have inserted : (built.insert entry.1 entry.2).entries = built.entries ++ [entry] :=
      insertEntry_of_past past
    rw [List.append_cons, ← inserted] at sorted
    rw [List.foldl_cons, inductionHypothesis sorted, inserted, List.append_assoc,
      List.singleton_append]

/-- A map is made again from its entries. -/
@[simp] theorem ofList_entries (map : KeyMap α) : ofList map.entries = map := by
  have same : (ofList map.entries).entries = map.entries := entries_foldl_insert map.sorted
  cases map with
  | mk entries sorted =>
    cases made : ofList entries with
    | mk other otherSorted =>
      simp only [made] at same
      subst same
      rfl

theorem mem_entries_foldl_insert {built : KeyMap α} {rest : List (String × α)} {entry : String × α}
    (member : entry ∈
      (rest.foldl (fun built entry => built.insert entry.1 entry.2) built).entries) :
    entry ∈ built.entries ∨ entry ∈ rest := by
  induction rest generalizing built with
  | nil => exact .inl member
  | cons first rest inductionHypothesis =>
    rcases inductionHypothesis member with inserted | later
    · rcases mem_insertEntry inserted with same | earlier
      · exact .inr (same ▸ List.mem_cons_self)
      · exact .inl earlier
    · exact .inr (List.mem_cons_of_mem first later)

/-- A map of a list has no other entries. -/
theorem mem_of_mem_ofList {entries : List (String × α)} {entry : String × α}
    (member : entry ∈ (ofList entries).entries) : entry ∈ entries := by
  rcases mem_entries_foldl_insert member with none | inside
  · contradiction
  · exact inside

theorem get?_foldl_insert (built : KeyMap α) {rest : List (String × α)}
    (distinct : (rest.map Prod.fst).Nodup) (key : String) :
    (rest.foldl (fun built entry => built.insert entry.1 entry.2) built).get? key =
      (rest.lookup key).or (built.get? key) := by
  induction rest generalizing built with
  | nil => rfl
  | cons entry rest inductionHypothesis =>
    obtain ⟨first, value⟩ := entry
    obtain ⟨absent, restDistinct⟩ := List.nodup_cons.1 distinct
    rw [List.foldl_cons, inductionHypothesis _ restDistinct, get?_insert, lookup_cons]
    by_cases here : key = first
    · subst here
      have unfound : rest.lookup key = none := by
        rw [List.lookup_eq_none_iff]
        intro other member
        have apart : key ≠ other.1 := by
          rintro rfl
          exact absent (List.mem_map.2 ⟨other, member, rfl⟩)
        exact bne_iff_ne.2 apart
      simp [unfound]
    · simp [here]

/-- When the keys are distinct, the map of a list has the look-ups of the list. -/
theorem get?_ofList {entries : List (String × α)} (distinct : (entries.map Prod.fst).Nodup)
    (key : String) : (ofList entries).get? key = entries.lookup key := by
  rw [ofList, get?_foldl_insert empty distinct, get?_empty, Option.or_none]

/-- When the keys are distinct, every entry of a list is found under its key. -/
theorem lookup_eq_some_iff_mem {entries : List (String × α)}
    (distinct : (entries.map Prod.fst).Nodup) {key : String} {value : α} :
    entries.lookup key = some value ↔ (key, value) ∈ entries := by
  rw [List.lookup_eq_some_iff]
  constructor
  · rintro ⟨before, after, rfl, _⟩
    exact List.mem_append_right before List.mem_cons_self
  · intro inside
    obtain ⟨before, after, rfl⟩ := List.append_of_mem inside
    refine ⟨before, after, rfl, fun entry earlier => bne_iff_ne.2 fun same => ?_⟩
    rw [List.map_append, List.map_cons, List.nodup_append] at distinct
    exact distinct.2.2 entry.1 (List.mem_map_of_mem earlier) key List.mem_cons_self same.symm

/-- When the keys are distinct, the map of a list has the entries of the list and no others. -/
theorem get?_ofList_eq_some_iff {entries : List (String × α)}
    (distinct : (entries.map Prod.fst).Nodup) {key : String} {value : α} :
    (ofList entries).get? key = some value ↔ (key, value) ∈ entries := by
  rw [get?_ofList distinct, lookup_eq_some_iff_mem distinct]

theorem get?_foldl_insert_reverse (built : KeyMap α) (rest : List (String × α)) (key : String) :
    (rest.foldl (fun built entry => built.insert entry.1 entry.2) built).get? key =
      (rest.reverse.lookup key).or (built.get? key) := by
  induction rest generalizing built with
  | nil => rfl
  | cons entry rest inductionHypothesis =>
    obtain ⟨first, value⟩ := entry
    rw [List.foldl_cons, inductionHypothesis, get?_insert, List.reverse_cons, List.lookup_append,
      Option.or_assoc, lookup_cons]
    by_cases here : key = first
    · simp [here]
    · simp [here]

/-- The last entry of a key counts. -/
theorem get?_ofList_eq_lookup_reverse (entries : List (String × α)) (key : String) :
    (ofList entries).get? key = entries.reverse.lookup key := by
  rw [ofList, get?_foldl_insert_reverse, get?_empty, Option.or_none]

/-- Among records that are listed under their keys, the look-up gives the first with the key. -/
theorem lookup_map_key (key : α → String) (items : List α) (other : String) :
    (items.map fun item => (key item, item)).lookup other =
      items.find? fun item => key item == other := by
  induction items with
  | nil => rfl
  | cons first rest inductionHypothesis =>
    rw [List.map_cons, lookup_cons, inductionHypothesis, List.find?_cons]
    by_cases here : key first = other
    · simp [here]
    · rw [if_neg (Ne.symm here), beq_eq_false_iff_ne.2 here]

theorem get?_erase (map : KeyMap α) (key other : String) :
    (map.erase key).get? other = if other = key then none else map.get? other := by
  have erased : (map.erase key).get? other =
      (map.entries.filter fun entry => entry.1 != key).lookup other := rfl
  rw [erased, get?]
  induction map.entries with
  | nil => exact (ite_self none).symm
  | cons first rest inductionHypothesis =>
    obtain ⟨firstKey, value⟩ := first
    by_cases isKey : firstKey = key
    · subst isKey
      rw [List.filter_cons_of_neg (by simp), inductionHypothesis, lookup_cons]
      split
      · rfl
      · rfl
    · rw [List.filter_cons_of_pos (by simpa using isKey), lookup_cons, lookup_cons,
        inductionHypothesis]
      by_cases here : other = firstKey
      · rw [if_pos here, if_pos here, if_neg (here ▸ isKey)]
      · rw [if_neg here, if_neg here]

/-- The keys of a map are those with a value. -/
theorem mem_keys_iff {map : KeyMap α} {key : String} :
    key ∈ map.keys ↔ (map.get? key).isSome = true := by
  rw [keys, get?]
  induction map.entries with
  | nil => simp
  | cons first rest inductionHypothesis =>
    rw [List.map_cons, List.mem_cons, inductionHypothesis, lookup_cons]
    by_cases here : key = first.1
    · simp [here]
    · simp [here]

/-- The keys of a map are distinct. -/
theorem nodup_keys (map : KeyMap α) : map.keys.Nodup := by
  refine List.pairwise_map.2 (map.sorted.imp ?_)
  intro left right less same
  rw [same] at less
  exact String.lt_irrefl _ less

end KeyMap

end Questionnaire
