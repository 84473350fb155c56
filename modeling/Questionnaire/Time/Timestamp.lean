import Questionnaire.Json.Basic
import Questionnaire.Time.Calendar

/-!
# Timestamps

A `Timestamp` is a moment in UTC: a minute counted from 1970, a second of that minute and a
fraction of nine digits. A second may be number 60, since a written leap second is kept as it is. A
timestamp is written with as many fraction digits as it needs out of none, three, six and nine.
-/

namespace Questionnaire

-- Powers are those of the core library, whatever other powers are known.
attribute [local instance (10000)] instPowNat

/-- A moment in UTC. -/
structure Timestamp where
  /-- The minutes from the start of 1970. -/
  minute : Int
  /-- The second of the minute; number 60 is a leap second. -/
  second : Nat
  /-- The fraction of the second. -/
  nanosecond : Nat
  /-- A minute has 60 seconds, and a leap second at most. -/
  second_le : second ≤ 60
  /-- The fraction is less than a second. -/
  nanosecond_lt : nanosecond < 10 ^ (9 : Nat)
  /-- The date lies in the years that dates are kept for. -/
  inRange : (Date.ofDays (minute / 1440)).isValid = true
deriving DecidableEq, Repr

namespace Timestamp

/-- The start of 1970. -/
def epoch : Timestamp where
  minute := 0
  second := 0
  nanosecond := 0
  second_le := by decide
  nanosecond_lt := by decide
  inRange := by decide

instance : Inhabited Timestamp := ⟨epoch⟩

/-- The date of the moment. -/
def date (moment : Timestamp) : Date :=
  Date.ofDays (moment.minute / 1440)

/-- The date a number of days after the moment. -/
def dateAfter (moment : Timestamp) (days : Nat) : Date :=
  Date.ofDays (moment.minute / 1440 + days)

/-- The first moment of a date that exists. -/
def ofDate (date : Date) (valid : date.isValid = true) : Timestamp where
  minute := 1440 * date.toDays
  second := 0
  nanosecond := 0
  second_le := by decide
  nanosecond_lt := by decide
  inRange := by
    rw [Int.mul_ediv_cancel_left _ (by decide), Date.ofDays_toDays valid]
    exact valid

/-- The moment of a date, a time of day and an offset from UTC in minutes. -/
def ofParts? (date : Date) (hour minute second nanosecond : Nat) (offset : Int) :
    Option Timestamp :=
  let minutes := 1440 * date.toDays + 60 * hour + minute - offset
  if form : second ≤ 60 ∧ nanosecond < 10 ^ (9 : Nat) ∧
      (Date.ofDays (minutes / 1440)).isValid = true then
    if date.isValid ∧ hour < 24 ∧ minute < 60 then
      some
        { minute := minutes
          second
          nanosecond
          second_le := form.1
          nanosecond_lt := form.2.1
          inRange := form.2.2 }
    else none
  else none

/-- The fraction of a second with a point in front, if it is not zero. -/
def renderFraction (nanosecond : Nat) : String :=
  if nanosecond = 0 then ""
  else if nanosecond % 10 ^ (6 : Nat) = 0 then "." ++ Date.padded 3 (nanosecond / 10 ^ (6 : Nat))
  else if nanosecond % 10 ^ (3 : Nat) = 0 then "." ++ Date.padded 6 (nanosecond / 10 ^ (3 : Nat))
  else "." ++ Date.padded 9 nanosecond

/-- The text of a moment, such as `2026-04-01T09:00:00Z`. -/
def render (moment : Timestamp) : String :=
  let minuteOfDay := (moment.minute % 1440).toNat
  moment.date.render ++ "T" ++ Date.padded 2 (minuteOfDay / 60) ++ ":" ++
    Date.padded 2 (minuteOfDay % 60) ++ ":" ++ Date.padded 2 moment.second ++
    renderFraction moment.nanosecond ++ "Z"

/-- A moment as a JSON string. -/
def toJson (moment : Timestamp) : Json :=
  .text moment.render

end Timestamp

end Questionnaire
