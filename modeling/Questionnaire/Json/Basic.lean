import Questionnaire.KeyMap
import Questionnaire.Numeric.Binary64

/-!
# JSON trees

`Json` is the tree of a JSON text. Objects keep their members as written, repeated keys included,
because a record may not repeat a key that it knows while a map may. `Json.canonical?` is the value
a tree stands for: of members with one key the last one counts, and members are ordered by key.

Some texts are well formed and still stand for no value: a number beyond the range of binary64, a
string with half of a surrogate pair, or an array nested too deeply. Such a part is kept as
`Json.unreadable`. It does no harm where it is skipped, and cannot be read anywhere else.
-/

namespace Questionnaire

-- Powers are those of the core library, whatever other powers are known.
attribute [local instance (10000)] instPowNat

/-- A JSON number: an integer of at most 64 bits, or a binary64 number. -/
inductive Json.Number where
  /-- An integer that fits a signed or an unsigned word of 64 bits. -/
  | integer (value : Int) (low : -2 ^ (63 : Nat) ≤ value) (high : value < 2 ^ (64 : Nat))
  /-- A number written with a fraction or an exponent, or an integer wider than 64 bits. -/
  | binary (value : Binary64)
deriving DecidableEq, Repr

/-- The tree of a JSON text. -/
inductive Json where
  /-- The word `null`. -/
  | null
  /-- A truth value. -/
  | bool (value : Bool)
  /-- A number. -/
  | number (value : Json.Number)
  /-- A string. -/
  | text (value : String)
  /-- An array. -/
  | list (items : List Json)
  /-- An object, with its members as written. -/
  | object (members : List (String × Json))
  /-- A well-formed part that stands for no value. -/
  | unreadable
deriving Inhabited, Repr

namespace Json

mutual

/-- Whether two trees are equal, members in the same order included. -/
def decEq : (left right : Json) → Decidable (left = right)
  | .null, right =>
    match right with
    | .null => .isTrue rfl
    | .bool _ | .number _ | .text _ | .list _ | .object _ | .unreadable => .isFalse nofun
  | .bool value, right =>
    match right with
    | .bool other => decidable_of_iff (value = other) (by simp)
    | .null | .number _ | .text _ | .list _ | .object _ | .unreadable => .isFalse nofun
  | .number value, right =>
    match right with
    | .number other => decidable_of_iff (value = other) (by simp)
    | .null | .bool _ | .text _ | .list _ | .object _ | .unreadable => .isFalse nofun
  | .text value, right =>
    match right with
    | .text other => decidable_of_iff (value = other) (by simp)
    | .null | .bool _ | .number _ | .list _ | .object _ | .unreadable => .isFalse nofun
  | .list items, right =>
    match right with
    | .list others =>
      have := decEqItems items others
      decidable_of_iff (items = others) (by simp)
    | .null | .bool _ | .number _ | .text _ | .object _ | .unreadable => .isFalse nofun
  | .object members, right =>
    match right with
    | .object others =>
      have := decEqMembers members others
      decidable_of_iff (members = others) (by simp)
    | .null | .bool _ | .number _ | .text _ | .list _ | .unreadable => .isFalse nofun
  | .unreadable, right =>
    match right with
    | .unreadable => .isTrue rfl
    | .null | .bool _ | .number _ | .text _ | .list _ | .object _ => .isFalse nofun

/-- Whether the items of two arrays are equal. -/
def decEqItems : (left right : List Json) → Decidable (left = right)
  | [], [] => .isTrue rfl
  | [], _ :: _ => .isFalse nofun
  | _ :: _, [] => .isFalse nofun
  | item :: items, other :: others =>
    have := decEq item other
    have := decEqItems items others
    decidable_of_iff (item = other ∧ items = others) (by simp)

/-- Whether the members of two objects are equal. -/
def decEqMembers : (left right : List (String × Json)) → Decidable (left = right)
  | [], [] => .isTrue rfl
  | [], _ :: _ => .isFalse nofun
  | _ :: _, [] => .isFalse nofun
  | (key, member) :: members, (otherKey, other) :: others =>
    have := decEq member other
    have := decEqMembers members others
    decidable_of_iff ((key = otherKey ∧ member = other) ∧ members = others) (by simp)

end

instance : DecidableEq Json := decEq

/-- The integer of a natural number of 64 bits. -/
def ofUInt64 (value : UInt64) : Json :=
  .number (.integer value.toNat (by have := value.toNat_lt; omega)
    (by have := value.toNat_lt; omega))

/-- The integer of a natural number of 32 bits. -/
def ofUInt32 (value : UInt32) : Json :=
  ofUInt64 value.toUInt64

/-- The integer of a count; a count of 64 bits is written exactly. -/
def ofCount (value : Nat) : Json :=
  ofUInt64 value.toUInt64

/-- A binary64 number. -/
def ofBinary64 (value : Binary64) : Json :=
  .number (.binary value)

/-- An array of strings. -/
def ofTexts (values : List String) : Json :=
  .list (values.map .text)

/-- The value or `null`. -/
def ofOption {α : Type} (write : α → Json) : Option α → Json
  | none => .null
  | some value => write value

/-- An object whose members are the entries of a map. -/
def ofKeyMap {α : Type} (write : α → Json) (entries : KeyMap α) : Json :=
  .object (entries.entries.map fun entry => (entry.1, write entry.2))

mutual

/-- The value of a tree: the last of repeated keys counts, and members are ordered by key. -/
def canonical? : Json → Option Json
  | .null => some .null
  | .bool value => some (.bool value)
  | .number value => some (.number value)
  | .text value => some (.text value)
  | .list items => (canonicalItems? items).map .list
  | .object members =>
    (canonicalMembers? members).map fun members => .object (KeyMap.ofList members).entries
  | .unreadable => none

/-- The values of the items of an array. -/
def canonicalItems? : List Json → Option (List Json)
  | [] => some []
  | item :: rest => do
    let value ← canonical? item
    let values ← canonicalItems? rest
    return value :: values

/-- The values of the members of an object, in the order written. -/
def canonicalMembers? : List (String × Json) → Option (List (String × Json))
  | [] => some []
  | (key, member) :: rest => do
    let value ← canonical? member
    let values ← canonicalMembers? rest
    return (key, value) :: values

end

/-- Whether the tree is `null`. -/
def isNull : Json → Bool
  | .null => true
  | _ => false

end Json

end Questionnaire
