import Questionnaire.Json.Basic
import Questionnaire.Proofs.KeyMap

/-!
# Values of JSON trees

The value of a tree is a tree as well, and it is its own value: in a value every object has its
members in order, and none of them twice.
-/

namespace Questionnaire

namespace Json

/-- The tree is its own value. -/
def IsValue (tree : Json) : Prop :=
  canonical? tree = some tree

theorem canonicalItems?_eq_self {items : List Json} (values : ∀ item ∈ items, item.IsValue) :
    canonicalItems? items = some items := by
  induction items with
  | nil => rfl
  | cons item rest inductionHypothesis =>
    have here : canonical? item = some item := values item List.mem_cons_self
    have later :=
      inductionHypothesis fun other member => values other (List.mem_cons_of_mem _ member)
    simp only [canonicalItems?, here, later, Option.bind_eq_bind, Option.bind_some]
    rfl

theorem canonicalMembers?_eq_self {members : List (String × Json)}
    (values : ∀ member ∈ members, member.2.IsValue) :
    canonicalMembers? members = some members := by
  induction members with
  | nil => rfl
  | cons first rest inductionHypothesis =>
    obtain ⟨key, member⟩ := first
    have here : canonical? member = some member := values (key, member) List.mem_cons_self
    have later :=
      inductionHypothesis fun other inside => values other (List.mem_cons_of_mem _ inside)
    simp only [canonicalMembers?, here, later, Option.bind_eq_bind, Option.bind_some]
    rfl

theorem IsValue.list {items : List Json} (values : ∀ item ∈ items, item.IsValue) :
    (Json.list items).IsValue := by
  rw [IsValue, canonical?, canonicalItems?_eq_self values, Option.map_some]

theorem IsValue.object {α : Type} {map : KeyMap α} {write : α → Json}
    (values : ∀ entry ∈ map.entries, (write entry.2).IsValue) : (ofKeyMap write map).IsValue := by
  have written : (ofKeyMap write map) = .object (map.mapValues write).entries := rfl
  have members : ∀ member ∈ (map.mapValues write).entries, member.2.IsValue := by
    intro member inside
    obtain ⟨entry, entryInside, rfl⟩ := List.mem_map.1 inside
    exact values entry entryInside
  rw [written, IsValue, canonical?, canonicalMembers?_eq_self members, Option.map_some,
    KeyMap.ofList_entries]

/-- The value of a tree is its own value. -/
theorem isValue_of_canonical? : ∀ tree value : Json,
    canonical? tree = some value → value.IsValue := by
  refine canonical?.induct
    (fun tree => ∀ value, canonical? tree = some value → value.IsValue)
    (fun members => ∀ values, canonicalMembers? members = some values →
      ∀ entry ∈ values, entry.2.IsValue)
    (fun items => ∀ values, canonicalItems? items = some values → ∀ value ∈ values, value.IsValue)
    ?null ?bool ?number ?text ?list ?object ?unreadable ?noItem ?item ?noMember ?member
  case null =>
    intro value isValue
    rw [← Option.some.inj isValue]
    rfl
  case bool | number | text =>
    intro given value isValue
    rw [← Option.some.inj isValue]
    rfl
  case list =>
    intro items inductionHypothesis value isValue
    rw [canonical?, Option.map_eq_some_iff] at isValue
    obtain ⟨values, found, rfl⟩ := isValue
    exact .list (inductionHypothesis values found)
  case object =>
    intro members inductionHypothesis value isValue
    rw [canonical?, Option.map_eq_some_iff] at isValue
    obtain ⟨values, found, rfl⟩ := isValue
    have inner : ∀ entry ∈ (KeyMap.ofList values).entries, entry.2.IsValue :=
      fun entry inside => inductionHypothesis values found entry (KeyMap.mem_of_mem_ofList inside)
    rw [IsValue, canonical?, canonicalMembers?_eq_self inner, Option.map_some,
      KeyMap.ofList_entries]
  case unreadable =>
    intro value isValue
    contradiction
  case noItem | noMember =>
    intro values found
    rw [← Option.some.inj found]
    exact fun _ inside => absurd inside List.not_mem_nil
  case item =>
    intro item rest itemHypothesis restHypothesis values found
    simp only [canonicalItems?, Option.bind_eq_bind, Option.bind_eq_some_iff] at found
    obtain ⟨first, isFirst, others, areOthers, same⟩ := found
    rw [← Option.some.inj same]
    intro value inside
    rcases List.mem_cons.1 inside with here | later
    · rw [here]
      exact itemHypothesis first isFirst
    · exact restHypothesis others areOthers value later
  case member =>
    intro key member rest memberHypothesis restHypothesis values found
    simp only [canonicalMembers?, Option.bind_eq_bind, Option.bind_eq_some_iff] at found
    obtain ⟨first, isFirst, others, areOthers, same⟩ := found
    rw [← Option.some.inj same]
    intro entry inside
    rcases List.mem_cons.1 inside with here | later
    · rw [here]
      exact memberHypothesis first isFirst
    · exact restHypothesis others areOthers entry later

/-- Only `null` has the value `null`. -/
theorem eq_null_of_canonical? {tree : Json} (isNull : canonical? tree = some .null) :
    tree = .null := by
  cases tree with
  | null => rfl
  | bool | number | text | unreadable => simp [canonical?] at isNull
  | list items => simp [canonical?] at isNull
  | object members => simp [canonical?] at isNull

end Json

end Questionnaire
