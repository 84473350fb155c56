import Questionnaire.Json.Text
import Questionnaire.Proofs.Json.Decimals

/-!
# Tokens are scanned back

`Scans tokens` says that the texts of the tokens, one after the other, are cut into these tokens
again, whatever comes after them that does not go on with their last word. A string or a mark ends
by itself, so only words have to be kept apart. Only a number may be another one when it is read
again, or none.
-/

namespace Questionnaire

namespace Json

/-! ## Strings -/

theorem hexUnit?_hexDigits : ∀ value < 0x20,
    hexUnit? '0' '0' (hexDigit (value / 16)) (hexDigit (value % 16)) = some value := by
  decide

theorem ofBody?_shortEscape {letter meant : Char} (isShort : shortEscape? letter = some meant)
    (rest : List Char) : StringPiece.ofBody? ('\\' :: letter :: rest) =
      (StringPiece.ofBody? rest).map (.char meant :: ·) := by
  have notUnit : letter ≠ 'u' := by
    rintro rfl
    contradiction
  rw [StringPiece.ofBody?, isShort]
  · cases StringPiece.ofBody? rest with
    | none | some => rfl
  · intro _ _ _ _ _ same
    exact absurd same notUnit

theorem ofBody?_plain {char : Char} (plain : char ≠ '\\') (printed : ¬char.toNat < 0x20)
    (rest : List Char) : StringPiece.ofBody? (char :: rest) =
      (StringPiece.ofBody? rest).map (.char char :: ·) := by
  rw [StringPiece.ofBody?, if_neg (by simp [plain, printed])]
  · intro _ _ _ _ _ same
    exact absurd same plain
  · intro _ _ same
    exact absurd same plain

/-- A unit below the surrogates stands for its character, whatever comes next. -/
theorem join?_unit {char : Char} (control : char.toNat < 0x20) (rest : List StringPiece) :
    StringPiece.join? (.unit char.toNat :: rest) = (StringPiece.join? rest).map (char :: ·) := by
  have isChar : Char.ofNat char.toNat = char := Char.ofNat_toNat char
  have noHigh : ¬(0xD800 ≤ char.toNat ∧ char.toNat < 0xDC00) := by omega
  have noLow : ¬(0xDC00 ≤ char.toNat ∧ char.toNat < 0xE000) := by omega
  have noSurrogate : ¬(0xD800 ≤ char.toNat ∧ char.toNat < 0xE000) := by omega
  cases rest with
  | nil => simp only [StringPiece.join?, if_neg noSurrogate, isChar]
  | cons next later =>
    cases next with
    | char => simp only [StringPiece.join?, if_neg noSurrogate, isChar]
    | unit => rw [StringPiece.join?, if_neg noHigh, if_neg noLow, isChar]

/-- An escaped character is read as one piece, which stands for the character. -/
theorem exists_piece (char : Char) : ∃ piece : StringPiece,
    (∀ rest, StringPiece.ofBody? (escapeChar char ++ rest) =
      (StringPiece.ofBody? rest).map (piece :: ·)) ∧
    ∀ rest, StringPiece.join? (piece :: rest) = (StringPiece.join? rest).map (char :: ·) := by
  unfold escapeChar
  split
  · exact ⟨.char _, ofBody?_shortEscape rfl, fun _ => rfl⟩
  · exact ⟨.char _, ofBody?_shortEscape rfl, fun _ => rfl⟩
  · exact ⟨.char _, ofBody?_shortEscape rfl, fun _ => rfl⟩
  · exact ⟨.char _, ofBody?_shortEscape rfl, fun _ => rfl⟩
  · exact ⟨.char _, ofBody?_shortEscape rfl, fun _ => rfl⟩
  · exact ⟨.char _, ofBody?_shortEscape rfl, fun _ => rfl⟩
  · exact ⟨.char _, ofBody?_shortEscape rfl, fun _ => rfl⟩
  · rename_i other noBackslash _ _ _ _ _
    split
    · rename_i control
      refine ⟨.unit char.toNat, fun rest => ?_, join?_unit control⟩
      rw [List.cons_append, List.cons_append, List.cons_append, List.cons_append, List.cons_append,
        List.cons_append, List.nil_append, StringPiece.ofBody?,
        hexUnit?_hexDigits char.toNat control]
      cases StringPiece.ofBody? rest with
      | none | some => rfl
    · rename_i printed
      exact ⟨.char char, ofBody?_plain noBackslash printed, fun _ => rfl⟩

/-- The body of a string between quotes is read as the string. -/
theorem ofBody?_escaped (chars : List Char) : ∃ pieces,
    StringPiece.ofBody? (chars.flatMap escapeChar) = some pieces ∧
      StringPiece.join? pieces = some chars := by
  induction chars with
  | nil => exact ⟨[], rfl, rfl⟩
  | cons char rest inductionHypothesis =>
    obtain ⟨pieces, isBody, joined⟩ := inductionHypothesis
    obtain ⟨piece, isPiece, stands⟩ := exists_piece char
    refine ⟨piece :: pieces, ?_, ?_⟩
    · rw [List.flatMap_cons, isPiece, isBody, Option.map_some]
    · rw [stands, joined, Option.map_some]

theorem ofBody?_text (value : String) :
    Token.ofBody? (value.toList.flatMap escapeChar) = some (.text (some value)) := by
  obtain ⟨pieces, isBody, joined⟩ := ofBody?_escaped value.toList
  rw [Token.ofBody?, isBody, Option.map_some, joined, Option.map_some, String.ofList_toList]

/-! ## Scan states -/

/-- The text does not go on with a word. -/
def EndsWord (rest : List Char) : Prop :=
  ∀ char ∈ rest.head?, endsWord char = true

namespace ScanState

/-- What follows a character is scanned from the state after it. -/
theorem scan?_cons {state next : ScanState} {char : Char} {tokens : List Token}
    (stepped : state.step? char = some (next, tokens)) (rest : List Char) :
    state.scan? (char :: rest) = (next.scan? rest).map (tokens ++ ·) := by
  rw [scan?, stepped]
  cases later : next.scan? rest with
  | none | some => simp [later]

/-- A character that completes nothing only changes the state. -/
theorem scan?_silent {state next : ScanState} {char : Char}
    (stepped : state.step? char = some (next, [])) (rest : List Char) :
    state.scan? (char :: rest) = next.scan? rest :=
  (scan?_cons stepped rest).trans Option.map_id'

/-- A word goes on up to its end. -/
theorem scan?_word {chars rest : List Char} (plain : IsPlain chars) (ended : EndsWord rest)
    (reversed : List Char) : (word reversed).scan? (chars ++ rest) =
      (Token.ofWord? (reversed.reverse ++ chars)).bind fun token =>
        (between.scan? rest).map (token :: ·) := by
  induction chars generalizing reversed with
  | nil =>
    rw [List.append_nil, List.nil_append]
    cases rest with
    | nil =>
      rw [scan?, finish?]
      cases Token.ofWord? reversed.reverse with
      | none | some => rfl
    | cons char rest =>
      have ends : endsWord char = true := ended char rfl
      have started : between.step? char = some ((start char).1, (start char).2) := rfl
      rw [scan?_cons started, scan?, step?, if_pos ends]
      cases Token.ofWord? reversed.reverse with
      | none => rfl
      | some token =>
        cases later : (start char).1.scan? rest with
        | none | some => simp [later]
  | cons char chars inductionHypothesis =>
    have goesOn : endsWord char = false := plain char List.mem_cons_self
    have stepped : (word reversed).step? char = some (word (char :: reversed), []) := by
      rw [step?, goesOn, if_neg Bool.false_ne_true]
    rw [List.cons_append, scan?_silent stepped,
      inductionHypothesis fun other inside => plain other (List.mem_cons_of_mem _ inside),
      List.reverse_cons, List.append_assoc, List.singleton_append]

/-- A word that is followed by its end is one token. -/
theorem scan?_wholeWord {chars rest : List Char} (plain : IsPlain chars) (ended : EndsWord rest)
    {token : Token} (isWord : Token.ofWord? chars = some token) :
    between.scan? (chars ++ rest) = (between.scan? rest).map (token :: ·) := by
  cases chars with
  | nil => contradiction
  | cons char chars =>
    have goesOn : endsWord char = false := plain char List.mem_cons_self
    have stepped : between.step? char = some (word [char], []) := by
      simp only [endsWord, Bool.or_eq_false_iff, beq_eq_false_iff_ne] at goesOn
      obtain ⟨⟨noBlank, noQuote⟩, noMark⟩ := goesOn
      rw [step?, start, noBlank, if_neg Bool.false_ne_true, if_neg noQuote,
        Option.isNone_iff_eq_none.1 (Option.isSome_eq_false_iff.1 noMark)]
    rw [List.cons_append, scan?_silent stepped,
      scan?_word (fun other inside => plain other (List.mem_cons_of_mem _ inside)) ended]
    exact congrArg (Option.bind · _) isWord

/-- A mark is one token, whatever follows. -/
theorem scan?_mark {char : Char} {token : Token} (isMark : mark? char = some token)
    (rest : List Char) : between.scan? (char :: rest) = (between.scan? rest).map (token :: ·) := by
  have stepped : between.step? char = some (between, [token]) := by
    unfold mark? at isMark
    split at isMark
    all_goals first | contradiction | exact Option.some.inj isMark ▸ rfl
  exact scan?_cons stepped rest

/-- A character that is neither a quote nor a backslash goes on with a string. -/
theorem scan?_stringChar {char : Char} (noQuote : char ≠ '"') (noBackslash : char ≠ '\\')
    (reversed rest : List Char) :
    (string reversed false).scan? (char :: rest) =
      (string (char :: reversed) false).scan? rest := by
  refine scan?_silent ?_ rest
  rw [step?, if_neg noQuote, beq_eq_false_iff_ne.2 noBackslash]

/-- A backslash goes on with a string, and so does the character after it. -/
theorem scan?_escape (char : Char) (reversed rest : List Char) :
    (string reversed false).scan? ('\\' :: char :: rest) =
      (string (char :: '\\' :: reversed) false).scan? rest := by
  rw [scan?_silent rfl, scan?_silent rfl]

/-- An escaped character goes on with a string. -/
theorem scan?_escapeChar (char : Char) (reversed rest : List Char) :
    (string reversed false).scan? (escapeChar char ++ rest) =
      (string ((escapeChar char).reverse ++ reversed) false).scan? rest := by
  unfold escapeChar
  split
  · exact scan?_escape _ reversed rest
  · exact scan?_escape _ reversed rest
  · exact scan?_escape _ reversed rest
  · exact scan?_escape _ reversed rest
  · exact scan?_escape _ reversed rest
  · exact scan?_escape _ reversed rest
  · exact scan?_escape _ reversed rest
  · rename_i noQuote noBackslash _ _ _ _ _
    split
    · rename_i control
      have plain : ∀ value < 16, hexDigit value ≠ '"' ∧ hexDigit value ≠ '\\' := by decide
      obtain ⟨highQuote, highBackslash⟩ := plain (char.toNat / 16) (by omega)
      obtain ⟨lowQuote, lowBackslash⟩ := plain (char.toNat % 16) (by omega)
      simp only [List.cons_append, List.nil_append, List.reverse_cons, List.reverse_nil]
      rw [scan?_escape, scan?_stringChar (by decide) (by decide),
        scan?_stringChar (by decide) (by decide), scan?_stringChar highQuote highBackslash,
        scan?_stringChar lowQuote lowBackslash]
    · exact scan?_stringChar noQuote noBackslash reversed rest

theorem scan?_escaped (chars reversed rest : List Char) :
    (string reversed false).scan? (chars.flatMap escapeChar ++ rest) =
      (string ((chars.flatMap escapeChar).reverse ++ reversed) false).scan? rest := by
  induction chars generalizing reversed with
  | nil => rfl
  | cons char chars inductionHypothesis =>
    rw [List.flatMap_cons, List.append_assoc, scan?_escapeChar, inductionHypothesis,
      List.reverse_append, List.append_assoc]

/-- A string between quotes is one token, whatever follows. -/
theorem scan?_quote (value : String) (rest : List Char) :
    between.scan? (quote value ++ rest) =
      (between.scan? rest).map (.text (some value) :: ·) := by
  have opened : between.step? '"' = some (string [] false, []) := rfl
  have closed : (string (value.toList.flatMap escapeChar).reverse false).step? '"' =
      some (between, [.text (some value)]) := by
    rw [step?, if_pos rfl, List.reverse_reverse, ofBody?_text, Option.map_some]
  rw [quote, List.append_assoc, List.cons_append, scan?_silent opened, scan?_escaped,
    List.append_nil, List.singleton_append, scan?_cons closed]
  rfl

end ScanState

/-! ## Sequences of tokens -/

/-- The token that the text of a token is read as. -/
def Token.reread : Token → Token
  | .number (some value) => .number value.reread?
  | .number none | .text none => .null
  | token => token

/-- The texts of the tokens are cut into these tokens, read again, whatever follows that ends a
word. -/
def Scans (tokens : List Token) : Prop :=
  ∀ rest, EndsWord rest → ScanState.between.scan? (tokens.flatMap Token.render ++ rest) =
    (ScanState.between.scan? rest).map (tokens.map Token.reread ++ ·)

/-- The token is a single mark. -/
def Token.IsMark (token : Token) : Prop :=
  ∃ char, mark? char = some token ∧ token.render = [char]

/-- A mark stays what it is. -/
theorem Token.IsMark.reread {token : Token} (isMark : token.IsMark) : token.reread = token := by
  obtain ⟨char, isMark, _⟩ := isMark
  unfold mark? at isMark
  split at isMark
  all_goals first | contradiction | exact Option.some.inj isMark ▸ rfl

/-- The tokens start with a mark, if there are any. -/
def StartsWithMark (tokens : List Token) : Prop :=
  ∀ token ∈ tokens.head?, token.IsMark

theorem scans_nil : Scans [] :=
  fun _ _ => Option.map_id'.symm

theorem scan?_of_scans {tokens : List Token} (scans : Scans tokens) :
    Token.scan? (tokens.flatMap Token.render) = some (tokens.map Token.reread) := by
  have scanned := scans [] nofun
  rwa [List.append_nil, show ScanState.between.scan? [] = some [] from rfl, Option.map_some,
    List.append_nil] at scanned

theorem StartsWithMark.endsWord {tokens : List Token} (marked : StartsWithMark tokens)
    {rest : List Char} (ended : EndsWord rest) :
    EndsWord (tokens.flatMap Token.render ++ rest) := by
  cases tokens with
  | nil => exact ended
  | cons token tokens =>
    obtain ⟨char, isMark, render⟩ := marked token rfl
    intro other isHead
    rw [List.flatMap_cons, render, List.append_assoc] at isHead
    obtain rfl : char = other := Option.some.inj isHead
    rw [Json.endsWord, isMark]
    exact Bool.or_true _

/-- Tokens may follow others if they start with a mark. -/
theorem Scans.append {first later : List Token} (here : Scans first) (there : Scans later)
    (marked : StartsWithMark later) : Scans (first ++ later) := by
  intro rest ended
  rw [List.flatMap_append, List.append_assoc, here _ (marked.endsWord ended), there rest ended,
    Option.map_map]
  cases ScanState.between.scan? rest with
  | none => rfl
  | some tokens => simp

/-- Any tokens may follow a mark. -/
theorem Scans.mark {token : Token} (isMark : token.IsMark) {tokens : List Token}
    (later : Scans tokens) : Scans (token :: tokens) := by
  intro rest ended
  have same := isMark.reread
  obtain ⟨char, isMark, render⟩ := isMark
  rw [List.flatMap_cons, render, List.append_assoc, List.singleton_append,
    ScanState.scan?_mark isMark, later rest ended, Option.map_map, List.map_cons, same]
  rfl

/-- Any tokens may follow a string. -/
theorem Scans.text (value : String) {tokens : List Token} (later : Scans tokens) :
    Scans (.text (some value) :: tokens) := by
  intro rest ended
  rw [List.flatMap_cons, List.append_assoc, show Token.render (.text (some value)) = quote value
    from rfl, ScanState.scan?_quote, later rest ended, Option.map_map]
  rfl

theorem Scans.word {token : Token} (plain : IsPlain token.render)
    (isWord : Token.ofWord? token.render = some token.reread) : Scans [token] := by
  intro rest ended
  rw [List.flatMap_cons, List.flatMap_nil, List.append_nil,
    ScanState.scan?_wholeWord plain ended isWord]
  rfl

theorem scans_number (value : Number) : Scans [.number (some value)] := by
  obtain ⟨parts, areParts⟩ := exists_parts value
  refine .word (isPlain_of_ofChars? areParts) ?_
  have render : Token.render (.number (some value)) = value.render.toList := rfl
  have reread : value.reread? = parts.value? := by
    rw [Number.reread?, areParts, Option.bind_some]
  have isWord {word : List Char} (noNumber : NumberParts.ofChars? word = none) :
      value.render.toList ≠ word := by
    rintro rfl
    exact absurd (areParts.symm.trans noNumber) (Option.some_ne_none parts)
  rw [render, Token.ofWord?, if_neg (isWord rfl), if_neg (isWord rfl), if_neg (isWord rfl),
    areParts, Option.map_some, Token.reread, reread]

end Json

end Questionnaire
