import Questionnaire.Command.Run
import Std.Time.DateTime.Timestamp

/-!
# The program

The program runs the command line on the files of the machine, with its clock, and with ids that are
made of the time and of random bits.
-/

namespace Questionnaire

-- Powers are those of the core library, whatever other powers are known.
attribute [local instance (10000)] instPowNat

/-- The failure that an error of the machine stands for. -/
def FileFailure.ofError : IO.Error → FileFailure
  | .noFileOrDirectory _ _ _ => notFound
  | .alreadyExists _ _ _ => alreadyThere
  | .inappropriateType _ 21 _ => isFolder
  | .inappropriateType _ _ _ => notFolder
  | .invalidArgument _ _ "name too long" => nameTooLong
  | error => other (toString error)

/-- What an access to the machine gives, or its failure. -/
def attempt {α : Type} (action : IO α) : IO (Except FileFailure α) := do
  try
    return .ok (← action)
  catch error =>
    return .error (.ofError error)

/-- Puts a text into the file of a key by way of its staging file. -/
def writeStaged (folder key text : String) : IO Unit := do
  let staging := pathIn folder (stagingName key)
  IO.FS.createDirAll folder
  IO.FS.writeFile staging text
  IO.FS.rename staging (pathIn folder (fileName key))

/-- The files of the machine. -/
def machineAccess : FileAccess IO where
  read path := attempt (IO.FS.readFile path)
  backend folder :=
    { read := fun key => do
        match ← attempt (IO.FS.readFile (pathIn folder (fileName key))) with
        | .ok text => return .ok (some text)
        | .error .notFound => return .ok none
        | .error failure => return .error failure.message
      write := fun key text => do
        return (← attempt (writeStaged folder key text)).mapError FileFailure.message }

/-- The moment of a number of nanoseconds from the start of 1970; a number that is out of range
counts as zero. -/
def Timestamp.ofNanoseconds (nanoseconds : Int) : Timestamp :=
  let minute := nanoseconds / (60 * 10 ^ (9 : Nat))
  if inRange : (Date.ofDays (minute / 1440)).isValid = true then
    { minute
      second := (nanoseconds / 10 ^ (9 : Nat) % 60).toNat
      nanosecond := (nanoseconds % 10 ^ (9 : Nat)).toNat
      second_le := by omega
      nanosecond_lt := by omega
      inRange }
  else .epoch

/-- The digits of the ids, in which no two look alike. -/
def idDigits : List Char :=
  "0123456789abcdefghjkmnpqrstvwxyz".toList

/-- A number in so many digits of the ids, the last digits first. -/
def idDigitsOf : Nat → Nat → List Char
  | 0, _ => []
  | count + 1, number => idDigits.getD (number % 32) '0' :: idDigitsOf count (number / 32)

/-- The text of the id with a number: 48 bits of milliseconds and 80 random bits, which count on. -/
def timedId (milliseconds random number : Nat) : String :=
  let value := milliseconds % 2 ^ (48 : Nat) * 2 ^ (80 : Nat) + (random + number) % 2 ^ (80 : Nat)
  String.ofList (idDigitsOf 26 value).reverse

/-- The services of the machine. -/
def machineServices : IO Services := do
  let nanoseconds := (← Std.Time.Timestamp.now).toNanosecondsSinceUnixEpoch.val
  let bytes ← IO.getRandomBytes 10
  let random := bytes.toList.foldl (fun value byte => 256 * value + byte.toNat) 0
  let milliseconds := (nanoseconds / 10 ^ (6 : Nat)).toNat
  return { now := .ofNanoseconds nanoseconds, idText := timedId milliseconds random }

end Questionnaire

/-- Runs the program on its command line. -/
def main (words : List String) : IO UInt32 := do
  let outcome ←
    Questionnaire.runCommand Questionnaire.machineAccess (← Questionnaire.machineServices) words
  IO.print outcome.output
  IO.eprint outcome.errors
  return outcome.exitCode.toUInt32
