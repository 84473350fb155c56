import Questionnaire.KeyMap

/-!
# Backends

A backend keeps whole texts by key. Any access may be refused, for a reason given as text. The
memory backend refuses accesses by their number, so that it can stand for every history of
failures.
-/

namespace Questionnaire

/-- A place where texts are kept by key. -/
structure Backend (m : Type → Type) where
  /-- The text under a key, or nothing if there is none. -/
  read : String → m (Except String (Option String))
  /-- Puts a text under a key, in place of an earlier one. -/
  write : String → String → m (Except String Unit)

/-- Texts in memory, with the accesses that will be refused. -/
structure Memory where
  /-- The texts by key. -/
  entries : KeyMap String := KeyMap.empty
  /-- The number of accesses so far. -/
  accesses : Nat := 0
  /-- The number of texts written so far. -/
  writes : Nat := 0
  /-- Whether an access is refused if it reads. -/
  refusesRead : Nat → Bool := fun _ => false
  /-- Whether an access is refused if it writes. -/
  refusesWrite : Nat → Bool := fun _ => false

namespace Memory

/-- The text under a key, and the memory afterwards. -/
def read (key : String) (memory : Memory) : Except String (Option String) × Memory :=
  let next := { memory with accesses := memory.accesses + 1 }
  if memory.refusesRead memory.accesses then (.error "get refused", next)
  else (.ok (memory.entries.get? key), next)

/-- The memory after a text was put under a key. -/
def write (key text : String) (memory : Memory) : Except String Unit × Memory :=
  let next := { memory with accesses := memory.accesses + 1 }
  if memory.refusesWrite memory.accesses then (.error "set refused", next)
  else
    (.ok (), { next with entries := memory.entries.insert key text, writes := memory.writes + 1 })

/-- The backend over a memory. -/
def backend : Backend (StateM Memory) where
  read key := fun memory => read key memory
  write key text := fun memory => write key text memory

end Memory

end Questionnaire
