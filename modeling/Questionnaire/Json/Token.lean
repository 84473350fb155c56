import Questionnaire.Json.Number

/-!
# Tokens of JSON texts

A JSON text is a sequence of tokens with blanks between them. `Token.scan?` cuts a text into tokens
and fails where the text breaks the lexical grammar: an unknown word, a malformed number, a control
character or a bad escape in a string, or a string without an end. `Token.render` is the text of a
token.
-/

namespace Questionnaire.Json

/-- A token of a JSON text. -/
inductive Token where
  /-- The start of an array. -/
  | openList
  /-- The end of an array. -/
  | closeList
  /-- The start of an object. -/
  | openObject
  /-- The end of an object. -/
  | closeObject
  /-- A comma. -/
  | comma
  /-- A colon. -/
  | colon
  /-- The word `null`. -/
  | null
  /-- A truth value. -/
  | bool (value : Bool)
  /-- A number; `none` if it is beyond the range. -/
  | number (value : Option Number)
  /-- A string; `none` if it holds half of a surrogate pair. -/
  | text (value : Option String)

/-- One step of a string: a character, or a 16-bit unit written as an escape. -/
inductive StringPiece where
  /-- A character written as itself or as a short escape. -/
  | char (value : Char)
  /-- A unit written with four hexadecimal digits. -/
  | unit (value : Nat)

/-- The value of a hexadecimal digit of either case. -/
def hexValue? (digit : Char) : Option Nat :=
  if '0' ≤ digit ∧ digit ≤ '9' then some (digit.toNat - '0'.toNat)
  else if 'a' ≤ digit ∧ digit ≤ 'f' then some (digit.toNat - 'a'.toNat + 10)
  else if 'A' ≤ digit ∧ digit ≤ 'F' then some (digit.toNat - 'A'.toNat + 10)
  else none

/-- The 16-bit unit of four hexadecimal digits. -/
def hexUnit? (first second third fourth : Char) : Option Nat := do
  let first ← hexValue? first
  let second ← hexValue? second
  let third ← hexValue? third
  let fourth ← hexValue? fourth
  return ((first * 16 + second) * 16 + third) * 16 + fourth

/-- The character of a one-letter escape. -/
def shortEscape? : Char → Option Char
  | '"' => some '"'
  | '\\' => some '\\'
  | '/' => some '/'
  | 'b' => some '\x08'
  | 'f' => some '\x0c'
  | 'n' => some '\n'
  | 'r' => some '\r'
  | 't' => some '\t'
  | _ => none

/-- The pieces of a string body, or `none` for a bad escape or a control character. -/
def StringPiece.ofBody? : List Char → Option (List StringPiece)
  | [] => some []
  | '\\' :: 'u' :: first :: second :: third :: fourth :: rest => do
    let unit ← hexUnit? first second third fourth
    let pieces ← ofBody? rest
    return .unit unit :: pieces
  | '\\' :: letter :: rest => do
    let meant ← shortEscape? letter
    let pieces ← ofBody? rest
    return .char meant :: pieces
  | plain :: rest =>
    if plain = '\\' ∨ plain.toNat < 0x20 then none
    else (ofBody? rest).map fun pieces => .char plain :: pieces

/-- The characters of the pieces. A unit outside the surrogate range is a character, a high
surrogate forms one with the low surrogate right after it, and any other surrogate stands for
nothing. -/
def StringPiece.join? : List StringPiece → Option (List Char)
  | [] => some []
  | .char value :: rest => (join? rest).map (value :: ·)
  | .unit high :: .unit low :: rest =>
    if 0xD800 ≤ high ∧ high < 0xDC00 then
      if 0xDC00 ≤ low ∧ low < 0xE000 then
        (join? rest).map (Char.ofNat (0x10000 + (high - 0xD800) * 0x400 + (low - 0xDC00)) :: ·)
      else none
    else if 0xDC00 ≤ high ∧ high < 0xE000 then none
    else (join? (.unit low :: rest)).map (Char.ofNat high :: ·)
  | .unit value :: rest =>
    if 0xD800 ≤ value ∧ value < 0xE000 then none
    else (join? rest).map (Char.ofNat value :: ·)

/-- Whether the character separates tokens. -/
def isBlank (char : Char) : Bool :=
  char == ' ' || char == '\n' || char == '\r' || char == '\t'

/-- The mark that a character is, if it is one. -/
def mark? : Char → Option Token
  | '[' => some .openList
  | ']' => some .closeList
  | '\x7b' => some .openObject
  | '\x7d' => some .closeObject
  | ',' => some .comma
  | ':' => some .colon
  | _ => none

/-- The token of a run of characters that are neither blanks, marks nor quotes. -/
def Token.ofWord? (word : List Char) : Option Token :=
  if word = ['n', 'u', 'l', 'l'] then some .null
  else if word = ['t', 'r', 'u', 'e'] then some (.bool true)
  else if word = ['f', 'a', 'l', 's', 'e'] then some (.bool false)
  else (NumberParts.ofChars? word).map fun parts => .number parts.value?

/-- The token of a string body. -/
def Token.ofBody? (body : List Char) : Option Token :=
  (StringPiece.ofBody? body).map fun pieces => .text ((StringPiece.join? pieces).map String.ofList)

/-- Where a scan stands; what it is in the middle of is held last character first. -/
inductive ScanState where
  /-- Between tokens. -/
  | between
  /-- Inside a word or a number. -/
  | word (reversed : List Char)
  /-- Inside a string; `escape` is set just after a backslash. -/
  | string (reversed : List Char) (escape : Bool)

/-- The state after a character that starts a token or separates two, and the token it is. -/
def ScanState.start (char : Char) : ScanState × List Token :=
  if isBlank char then (.between, [])
  else if char = '"' then (.string [] false, [])
  else
    match mark? char with
    | some token => (.between, [token])
    | none => (.word [char], [])

/-- Whether the character ends a word. -/
def endsWord (char : Char) : Bool :=
  isBlank char || char == '"' || (mark? char).isSome

/-- The state after one more character, and the tokens that it completes. -/
def ScanState.step? (state : ScanState) (char : Char) : Option (ScanState × List Token) :=
  match state with
  | .between => some (start char)
  | .word reversed =>
    if endsWord char then do
      let token ← Token.ofWord? reversed.reverse
      let (next, tokens) := start char
      return (next, token :: tokens)
    else some (.word (char :: reversed), [])
  | .string reversed true => some (.string (char :: reversed) false, [])
  | .string reversed false =>
    if char = '"' then (Token.ofBody? reversed.reverse).map fun token => (.between, [token])
    else some (.string (char :: reversed) (char == '\\'), [])

/-- The tokens that the end of the text completes. -/
def ScanState.finish? : ScanState → Option (List Token)
  | .between => some []
  | .word reversed => (Token.ofWord? reversed.reverse).map fun token => [token]
  | .string _ _ => none

/-- The tokens from a state on. -/
def ScanState.scan? (state : ScanState) : List Char → Option (List Token)
  | [] => state.finish?
  | char :: rest => do
    let (next, tokens) ← state.step? char
    let later ← next.scan? rest
    return tokens ++ later

/-- The tokens of a text, or `none` if it breaks the lexical grammar. -/
def Token.scan? (chars : List Char) : Option (List Token) :=
  ScanState.between.scan? chars

/-- A lower-case hexadecimal digit. -/
def hexDigit (value : Nat) : Char :=
  if value < 10 then Char.ofNat ('0'.toNat + value) else Char.ofNat ('a'.toNat + (value - 10))

/-- A character inside a string: quotes, backslashes and control characters are escaped. -/
def escapeChar (char : Char) : List Char :=
  match char with
  | '"' => ['\\', '"']
  | '\\' => ['\\', '\\']
  | '\x08' => ['\\', 'b']
  | '\x0c' => ['\\', 'f']
  | '\n' => ['\\', 'n']
  | '\r' => ['\\', 'r']
  | '\t' => ['\\', 't']
  | char =>
    if char.toNat < 0x20 then
      ['\\', 'u', '0', '0', hexDigit (char.toNat / 16), hexDigit (char.toNat % 16)]
    else [char]

/-- A string between quotes. -/
def quote (value : String) : List Char :=
  '"' :: value.toList.flatMap escapeChar ++ ['"']

/-- The text of a token; one that stands for no value is written as `null`. -/
def Token.render : Token → List Char
  | .openList => ['[']
  | .closeList => [']']
  | .openObject => ['\x7b']
  | .closeObject => ['\x7d']
  | .comma => [',']
  | .colon => [':']
  | .bool true => "true".toList
  | .bool false => "false".toList
  | .number (some value) => value.render.toList
  | .text (some value) => quote value
  | .null | .number none | .text none => "null".toList

end Questionnaire.Json
