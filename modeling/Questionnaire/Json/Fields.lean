import Questionnaire.Json.Basic

/-!
# Reading values out of JSON trees

Each reader returns `none` for a tree that does not have the shape asked for. A record is written as
an object, whose keys it knows may not be repeated and whose other keys are skipped, or as an array
of its fields in order. Fields that may be left out at the end of an array are those that have a
default; in an object, an optional field may be left out as well.
-/

namespace Questionnaire.Json

-- Powers are those of the core library, whatever other powers are known.
attribute [local instance (10000)] instPowNat

/-- A string. -/
def asText? : Json → Option String
  | .text value => some value
  | _ => none

/-- A truth value. -/
def asBool? : Json → Option Bool
  | .bool value => some value
  | _ => none

/-- The binary64 number nearest to a number. -/
def Number.toBinary64 : Number → Binary64
  | .binary value => value
  | .integer value _ _ =>
    let magnitude := Binary64.ofNat value.natAbs
    if value < 0 then magnitude.neg else magnitude

/-- A number of either kind, as binary64. -/
def asBinary64? : Json → Option Binary64
  | .number value => some value.toBinary64
  | _ => none

/-- An integer from zero up to a bound, the bound excluded. -/
def asNatBelow? (bound : Nat) : Json → Option Nat
  | .number (.integer value _ _) =>
    if 0 ≤ value ∧ value < bound then some value.toNat else none
  | _ => none

/-- An integer of 32 bits. -/
def asUInt32? (tree : Json) : Option UInt32 :=
  (tree.asNatBelow? (2 ^ (32 : Nat))).map Nat.toUInt32

/-- An integer of 64 bits. -/
def asUInt64? (tree : Json) : Option UInt64 :=
  (tree.asNatBelow? (2 ^ (64 : Nat))).map Nat.toUInt64

/-- An array, each item read alike. -/
def asList? {α : Type} (read : Json → Option α) : Json → Option (List α)
  | .list items => items.mapM read
  | _ => none

/-- Either `null`, for no value, or a value. -/
def asOption? {α : Type} (read : Json → Option α) : Json → Option (Option α)
  | .null => some none
  | tree => (read tree).map some

/-- A map of an object's members, the last one with a key counting. -/
def asKeyMap? {α : Type} (read : Json → Option α) : Json → Option (KeyMap α)
  | .object members =>
    (members.mapM fun member => (read member.2).map fun value => (member.1, value)).map
      KeyMap.ofList
  | _ => none

/-- A name from a list of names, written as a string or as the only key of an object over `null`. -/
def asName? : Json → Option String
  | .text name => some name
  | .object [(name, .null)] => some name
  | _ => none

/-- One of the values of an enumeration, by its name. -/
def asOneOf? {α : Type} (all : List α) (name : α → String) (tree : Json) : Option α :=
  tree.asName?.bind fun written => all.find? fun value => name value == written

/-- The fields of a record that a tree holds. -/
structure Fields where
  /-- The fields that are there, by name. -/
  found : List (String × Json)
  /-- Whether the record is written as an array. -/
  positional : Bool

/-- The fields of a record with these names, in the order of the names for an array. -/
def fields? (names : List String) : Json → Option Fields
  | .object members =>
    let found := members.filter fun member => names.contains member.1
    if (found.map (·.1)).Nodup then some { found, positional := false } else none
  | .list items =>
    if items.length ≤ names.length then some { found := names.zip items, positional := true }
    else none
  | _ => none

/-- A field that has to be there. -/
def Fields.required {α : Type} (fields : Fields) (name : String) (read : Json → Option α) :
    Option α :=
  (fields.found.lookup name).bind read

/-- A field that has a default. -/
def Fields.withDefault {α : Type} (fields : Fields) (name : String) (default : α)
    (read : Json → Option α) : Option α :=
  match fields.found.lookup name with
  | none => some default
  | some tree => read tree

/-- An optional field; `null` is the same as leaving it out. -/
def Fields.optional {α : Type} (fields : Fields) (name : String) (read : Json → Option α) :
    Option (Option α) :=
  fields.withDefault name none (asOption? read)

/-- The members of an object, without those that are absent. -/
def ofMembers (members : List (Option (String × Json))) : Json :=
  .object (members.filterMap id)

/-- A member that is always written. -/
def member (name : String) (value : Json) : Option (String × Json) :=
  some (name, value)

/-- A member that is written only if there is a value. -/
def memberIfSome {α : Type} (name : String) (write : α → Json) (value : Option α) :
    Option (String × Json) :=
  value.map fun value => (name, write value)

/-- A member that is written only if the list has items. -/
def memberIfItems {α : Type} (name : String) (write : α → Json) (items : List α) :
    Option (String × Json) :=
  if items.isEmpty then none else some (name, .list (items.map write))

/-- A member that is written only if it is true. -/
def memberIfTrue (name : String) (value : Bool) : Option (String × Json) :=
  if value then some (name, .bool true) else none

end Questionnaire.Json
