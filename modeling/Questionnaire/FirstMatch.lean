/-!
# First matches in lists

Records are looked up by the first one that passes a test, and changed in place.
-/

namespace Questionnaire

variable {α : Type}

/-- The list with its first element that passes the test changed. -/
def modifyFirst (test : α → Bool) (change : α → α) : List α → List α
  | [] => []
  | first :: rest =>
    if test first then change first :: rest else first :: modifyFirst test change rest

@[simp] theorem length_modifyFirst (test : α → Bool) (change : α → α) (items : List α) :
    (modifyFirst test change items).length = items.length := by
  induction items with
  | nil => rfl
  | cons first rest ih =>
    simp only [modifyFirst]
    split <;> simp [ih]

/-- Each element is an old one or a changed match. -/
theorem mem_modifyFirst {test : α → Bool} {change : α → α} {items : List α} {item : α}
    (member : item ∈ modifyFirst test change items) :
    item ∈ items ∨ ∃ old ∈ items, test old = true ∧ item = change old := by
  induction items with
  | nil => simp [modifyFirst] at member
  | cons first rest ih =>
    rw [modifyFirst] at member
    split at member
    · rename_i matched
      rcases List.mem_cons.1 member with same | inside
      · exact .inr ⟨first, List.mem_cons_self, matched, same⟩
      · exact .inl (List.mem_cons_of_mem _ inside)
    · rcases List.mem_cons.1 member with same | inside
      · exact .inl (same ▸ List.mem_cons_self)
      · rcases ih inside with old | ⟨old, oldMember, matched, same⟩
        · exact .inl (List.mem_cons_of_mem _ old)
        · exact .inr ⟨old, List.mem_cons_of_mem _ oldMember, matched, same⟩

/-- Only the place of the first match changes. -/
theorem getElem?_modifyFirst (test : α → Bool) (change : α → α) (items : List α) (place : Nat) :
    (modifyFirst test change items)[place]? =
      if items.findIdx? test = some place then items[place]?.map change else items[place]? := by
  induction items generalizing place with
  | nil => simp [modifyFirst]
  | cons first rest ih =>
    simp only [modifyFirst, List.findIdx?_cons]
    by_cases matched : test first = true
    · cases place <;> simp [matched]
    · cases place with
      | zero => simp [matched]
      | succ place => simp [matched, ih]

/-- An element in front does not change the look-up of another key. -/
theorem find?_cons_of_ne {κ : Type} [BEq κ] [LawfulBEq κ] (key : α → κ) {first : α} {other : κ}
    (rest : List α) (apart : key first ≠ other) :
    (first :: rest).find? (fun item => key item == other) =
      rest.find? fun item => key item == other :=
  List.find?_cons_of_neg (fun same => apart (eq_of_beq same))

/-- The removal of one key does not change the look-up of another. -/
theorem find?_filter_of_ne {κ : Type} [BEq κ] [LawfulBEq κ] (key : α → κ) {own other : κ}
    (items : List α) (apart : other ≠ own) :
    (items.filter fun item => key item != own).find? (fun item => key item == other) =
      items.find? fun item => key item == other := by
  rw [List.find?_filter]
  congr
  funext item
  by_cases same : key item = other
  · simp [same, apart]
  · simp [same]

/-- A change that keeps the keys changes the look-up of its own key only. -/
theorem find?_modifyFirst {κ : Type} [BEq κ] [LawfulBEq κ] (key : α → κ) (own other : κ)
    {change : α → α} {items : List α} (kept : ∀ item, key item = own → key (change item) = own) :
    (modifyFirst (fun item => key item == own) change items).find? (fun item => key item == other) =
      if other == own then (items.find? fun item => key item == own).map change
      else items.find? fun item => key item == other := by
  induction items with
  | nil => simp [modifyFirst]
  | cons first rest ih =>
    by_cases here : key first = own
    · by_cases same : other = own
      · simp [modifyFirst, here, same, kept first here]
      · simp [modifyFirst, here, same, kept first here, Ne.symm same]
    · have apart : (key first == own) = false := beq_eq_false_iff_ne.2 here
      by_cases same : other = own
      · subst same
        simpa [modifyFirst, apart] using ih
      · simpa [modifyFirst, apart, same, List.find?_cons] using by rw [ih]; simp [same]

end Questionnaire
