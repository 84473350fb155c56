import Questionnaire.Json.Token

/-!
# JSON texts

`Json.parse?` reads a text as one tree and fails unless the whole text is one value of the grammar.
The reader keeps a stack of the arrays and objects that are still open, so its work on a token does
not depend on how deep the token stands. Arrays and objects inside more than 127 others are well
formed but stand for no value.

`Json.render` writes a tree without blanks, and `Json.renderIndented` over several lines, two blanks
for each level.
-/

namespace Questionnaire.Json

/-- How many arrays and objects may be open at once in a value that can be read. -/
def depthLimit : Nat := 127

/-- An array or object that is still open, its parts last first. -/
inductive Frame where
  /-- An open array. -/
  | list (items : List Json)
  /-- An open object, the key whose value is due, and whether all its keys stand for text. -/
  | object (members : List (String × Json)) (key : String) (readable : Bool)

/-- What may come next inside the innermost frame. -/
inductive Due where
  /-- A value. -/
  | value
  /-- A value, or the end of an array that is still empty. -/
  | firstItem
  /-- A key. -/
  | key
  /-- A key, or the end of an object that is still empty. -/
  | firstKey
  /-- The colon after a key. -/
  | colon
  /-- A comma or the end of the innermost frame. -/
  | separator

/-- How far a text has been read. -/
inductive ReadState where
  /-- Inside the frames, innermost first. -/
  | inside (frames : List Frame) (due : Due)
  /-- After the whole value. -/
  | complete (value : Json)

/-- The state after a whole value inside the frames. -/
def ReadState.deliver (value : Json) : List Frame → ReadState
  | [] => .complete value
  | .list items :: outer => .inside (.list (value :: items) :: outer) .separator
  | .object members key readable :: outer =>
    .inside (.object ((key, value) :: members) key readable :: outer) .separator

/-- The tree of the innermost frame, given how many frames are open. -/
def Frame.close (depth : Nat) : Frame → Json
  | .list items => if depth ≤ depthLimit then .list items.reverse else .unreadable
  | .object members _ readable =>
    if depth ≤ depthLimit && readable then .object members.reverse else .unreadable

/-- The leaf that a token is, if it is one. -/
def Token.leaf? : Token → Option Json
  | .null => some .null
  | .bool value => some (.bool value)
  | .number (some value) => some (.number value)
  | .text (some value) => some (.text value)
  | .number none | .text none => some .unreadable
  | _ => none

/-- The state after a token that has to start a value. -/
def ReadState.startValue? (frames : List Frame) : Token → Option ReadState
  | .openList => some (.inside (.list [] :: frames) .firstItem)
  | .openObject => some (.inside (.object [] "" true :: frames) .firstKey)
  | token => token.leaf?.map fun value => deliver value frames

/-- The state after a token that has to be a key. -/
def ReadState.takeKey? : List Frame → Token → Option ReadState
  | .object members _ readable :: outer, .text (some key) =>
    some (.inside (.object members key readable :: outer) .colon)
  | .object members _ _ :: outer, .text none =>
    some (.inside (.object members "" false :: outer) .colon)
  | _, _ => none

/-- The state after a token that has to end the innermost frame. -/
def ReadState.close? : List Frame → Token → Option ReadState
  | .list items :: outer, .closeList =>
    some (deliver (Frame.close (outer.length + 1) (.list items)) outer)
  | .object members key readable :: outer, .closeObject =>
    some (deliver (Frame.close (outer.length + 1) (.object members key readable)) outer)
  | _, _ => none

/-- The state after one more token, or `none` where the grammar is broken. -/
def ReadState.step? : ReadState → Token → Option ReadState
  | .complete _, _ => none
  | .inside frames .value, token => startValue? frames token
  | .inside frames .firstItem, .closeList => close? frames .closeList
  | .inside frames .firstItem, token => startValue? frames token
  | .inside frames .key, token => takeKey? frames token
  | .inside frames .firstKey, .closeObject => close? frames .closeObject
  | .inside frames .firstKey, token => takeKey? frames token
  | .inside frames .colon, .colon => some (.inside frames .value)
  | .inside _ .colon, _ => none
  | .inside (.list items :: outer) .separator, .comma =>
    some (.inside (.list items :: outer) .value)
  | .inside (.object members key readable :: outer) .separator, .comma =>
    some (.inside (.object members key readable :: outer) .key)
  | .inside frames .separator, token => close? frames token

/-- The state after a list of tokens. -/
def ReadState.run? (state : ReadState) (tokens : List Token) : Option ReadState :=
  tokens.foldlM step? state

/-- The tree of a list of tokens, or `none` unless they are one value. -/
def ofTokens? (tokens : List Token) : Option Json :=
  match (ReadState.inside [] .value).run? tokens with
  | some (.complete value) => some value
  | _ => none

/-- The tree of a text, or `none` unless the whole text is one value. -/
def parse? (text : String) : Option Json :=
  (Token.scan? text.toList).bind ofTokens?

mutual

/-- The tokens of a tree; a part that stands for no value is written as `null`. -/
def tokens : Json → List Token
  | .null | .unreadable => [.null]
  | .bool value => [.bool value]
  | .number value => [.number value]
  | .text value => [.text value]
  | .list [] => [.openList, .closeList]
  | .list (item :: rest) => .openList :: item.tokens ++ itemTokens rest ++ [.closeList]
  | .object [] => [.openObject, .closeObject]
  | .object ((key, member) :: rest) =>
    .openObject :: .text key :: .colon :: member.tokens ++ memberTokens rest ++ [.closeObject]

/-- The tokens of the items after the first. -/
def itemTokens : List Json → List Token
  | [] => []
  | item :: rest => .comma :: item.tokens ++ itemTokens rest

/-- The tokens of the members after the first. -/
def memberTokens : List (String × Json) → List Token
  | [] => []
  | (key, member) :: rest => .comma :: .text key :: .colon :: member.tokens ++ memberTokens rest

end

/-- The text of a tree on one line, without blanks. -/
def render (tree : Json) : String :=
  String.ofList (tree.tokens.flatMap Token.render)

/-- A line break followed by the blanks of a level. -/
def lineBreak (level : Nat) : List Char :=
  '\n' :: List.replicate (2 * level) ' '

mutual

/-- The characters of a tree over several lines, when it stands at a level. -/
def indentedChars (level : Nat) : Json → List Char
  | .list (item :: rest) =>
    ['['] ++ lineBreak (level + 1) ++ indentedChars (level + 1) item ++
      indentedItems (level + 1) rest ++ lineBreak level ++ [']']
  | .object ((key, member) :: rest) =>
    ['\x7b'] ++ lineBreak (level + 1) ++ quote key ++ [':', ' '] ++
      indentedChars (level + 1) member ++ indentedMembers (level + 1) rest ++ lineBreak level ++
      ['\x7d']
  | .null => "null".toList
  | .unreadable => "null".toList
  | .bool value => (Token.bool value).render
  | .number value => value.render.toList
  | .text value => quote value
  | .list [] => ['[', ']']
  | .object [] => ['\x7b', '\x7d']

/-- The characters of the items after the first. -/
def indentedItems (level : Nat) : List Json → List Char
  | [] => []
  | item :: rest =>
    [','] ++ lineBreak level ++ indentedChars level item ++ indentedItems level rest

/-- The characters of the members after the first. -/
def indentedMembers (level : Nat) : List (String × Json) → List Char
  | [] => []
  | (key, member) :: rest =>
    [','] ++ lineBreak level ++ quote key ++ [':', ' '] ++ indentedChars level member ++
      indentedMembers level rest

end

/-- The text of a tree over several lines. -/
def renderIndented (tree : Json) : String :=
  String.ofList (indentedChars 0 tree)

end Questionnaire.Json
