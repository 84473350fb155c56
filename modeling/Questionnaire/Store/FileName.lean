/-!
# File names of keys

A store in a folder keeps one file for each key. The name of the file shows the key: letters and
digits of ASCII, the dash and the point stand for themselves, and every other byte is an underscore
with two hexadecimal digits. A text is first written to a staging file, which then takes the place
of the file.
-/

namespace Questionnaire

/-- The upper-case hexadecimal digit of a number below 16. -/
def hexDigit (value : Nat) : Char :=
  if value < 10 then Char.ofNat (0x30 + value) else Char.ofNat (0x41 + (value - 10))

/-- Whether a byte stands for itself in a file name. -/
def isNameByte (byte : UInt8) : Bool :=
  (Char.ofNat byte.toNat).isAlphanum || byte == 0x2D || byte == 0x2E

/-- The characters that stand for a byte in a file name. -/
def nameCharsOfByte (byte : UInt8) : List Char :=
  if isNameByte byte then [Char.ofNat byte.toNat]
  else ['_', hexDigit (byte.toNat / 16), hexDigit (byte.toNat % 16)]

/-- The characters that stand for a key in a file name. -/
def nameCharsOfKey (key : String) : List Char :=
  key.toByteArray.data.toList.flatMap nameCharsOfByte

/-- The name of the file of a key. -/
def fileName (key : String) : String :=
  String.ofList (nameCharsOfKey key) ++ ".json"

/-- The name of the staging file of a key, which has one ending more than the file. The file of the
empty key has a name and no ending. Without its ending, the file of the lone point has the name of
the folder above, which keeps that name and takes no text: the lone point cannot be written. -/
def stagingName (key : String) : String :=
  if key = "." then ".."
  else (if key.isEmpty then fileName key else String.ofList (nameCharsOfKey key)) ++ ".json.tmp"

end Questionnaire
