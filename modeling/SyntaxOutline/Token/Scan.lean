import SyntaxOutline.Token

/-!
# Reading one token

`Token.scan` reads the longest token at the front of a text. When there is none it says why, how
much of the text it had read by then, and where in that stretch the fault lies. Text that was read
is never lost: what was read and what is left make up the text again (`scannedText_scan`).
-/

namespace SyntaxOutline

/-- Why no token can be read. -/
inductive LexicalFault where
  | unexpectedCharacter (c : Char)
  | unterminatedString
  | emptyCharacter
  | unclosedCharacter
  | unknownEscape (c : Char)
  | escapeAtEnd
  | unterminatedComment
deriving DecidableEq, Repr

namespace LexicalFault

/-- The wording of each fault. -/
def message : LexicalFault → String
  | unexpectedCharacter c => s!"Unexpected character: '{c}'"
  | unterminatedString => "Unterminated string literal"
  | emptyCharacter => "Empty or unterminated character literal"
  | unclosedCharacter => "Expected closing quote in character literal"
  | unknownEscape c => s!"Unknown escape sequence: \\{c}"
  | escapeAtEnd => "Unexpected end of file in escape sequence"
  | unterminatedComment => "Unterminated block comment"

end LexicalFault

namespace Token

/-- The letters, among them the underscore, that a word may start with. -/
def isWordStart (c : Char) : Bool := c.isAlpha || c == '_'

/-- The characters that a word may go on with. -/
def isWordChar (c : Char) : Bool := c.isAlphanum || c == '_'

/-- The characters that may follow a backslash. -/
def isEscape (c : Char) : Bool :=
  c == 'n' || c == 't' || c == 'r' || c == '0' || c == '\\' || c == '\'' || c == '"'

/-! ## Numbers -/

/-- Cuts off a leading sign. -/
def splitSign : List Char → List Char × List Char
  | c :: cs => if c == '+' || c == '-' then ([c], cs) else ([], c :: cs)
  | [] => ([], [])

/-- Cuts off a leading exponent; a mark without digits is none. -/
def splitExponent : List Char → List Char × List Char
  | c :: cs =>
    if c == 'e' || c == 'E' then
      let (sign, rest) := splitSign cs
      let digits := rest.takeWhile Char.isDigit
      -- The letter is left to be read as a word of its own.
      if digits.isEmpty then ([], c :: cs)
      else (c :: (sign ++ digits), rest.dropWhile Char.isDigit)
    else ([], c :: cs)
  | [] => ([], [])

/-- Cuts off a leading fraction with its exponent; a point without a digit behind it is none. -/
def splitFraction : List Char → List Char × List Char
  | '.' :: cs =>
    let digits := cs.takeWhile Char.isDigit
    if digits.isEmpty then ([], '.' :: cs)
    else
      let (exponent, rest) := splitExponent (cs.dropWhile Char.isDigit)
      ('.' :: (digits ++ exponent), rest)
  | cs => ([], cs)

/-- Reads a number: with a fraction it is real, without one an integer. -/
def scanNumber (cs : List Char) : Token × List Char :=
  let whole := cs.takeWhile Char.isDigit
  let (fraction, rest) := splitFraction (cs.dropWhile Char.isDigit)
  if fraction.isEmpty then (intLit (String.ofList whole), rest)
  else (realLit (String.ofList (whole ++ fraction)), rest)

/-! ## Words and marks -/

/-- Reads a keyword or an identifier. -/
def scanWord (cs : List Char) : Token × List Char :=
  (ofWord (String.ofList (cs.takeWhile isWordChar)), cs.dropWhile isWordChar)

/-- Reads a mark; of two that fit, the longer. -/
def scanMark : List Char → Option (Mark × List Char)
  | '=' :: '=' :: cs => some (.equals, cs)
  | '!' :: '=' :: cs => some (.notEquals, cs)
  | '<' :: '=' :: cs => some (.lessEq, cs)
  | '>' :: '=' :: cs => some (.greaterEq, cs)
  | '\x7b' :: cs => some (.lcurly, cs)
  | '\x7d' :: cs => some (.rcurly, cs)
  | '(' :: cs => some (.lparen, cs)
  | ')' :: cs => some (.rparen, cs)
  | '[' :: cs => some (.lbracket, cs)
  | ']' :: cs => some (.rbracket, cs)
  | ';' :: cs => some (.semicolon, cs)
  | ',' :: cs => some (.comma, cs)
  | '.' :: cs => some (.dot, cs)
  | '=' :: cs => some (.assign, cs)
  | '+' :: cs => some (.plus, cs)
  | '-' :: cs => some (.minus, cs)
  | '*' :: cs => some (.times, cs)
  | '/' :: cs => some (.divide, cs)
  | '%' :: cs => some (.percent, cs)
  | '&' :: cs => some (.ampersand, cs)
  | '|' :: cs => some (.bar, cs)
  | '!' :: cs => some (.not, cs)
  | '<' :: cs => some (.less, cs)
  | '>' :: cs => some (.greater, cs)
  | _ => none

/-! ## Quoted literals -/

/-- A text that was read in vain. -/
structure Fault where
  cause : LexicalFault
  /-- What was read before the place of the fault. -/
  before : List Char
  /-- What was read from there on. -/
  read : List Char
  /-- What was not read. -/
  rest : List Char
deriving Repr

/-- The whole text, put together again. -/
def Fault.text (f : Fault) : List Char := f.before ++ f.read ++ f.rest

/-- How the text behind an opening quote ends. -/
inductive StringEnd where
  | closed
  | unterminated
  | unknownEscape (c : Char)
  | escapeAtEnd
deriving DecidableEq, Repr

/-- Reads a string from behind its opening quote: what was read, how it ended, and what is left.
The character behind a backslash counts as read only if the escape is known. -/
def splitString : List Char → List Char × StringEnd × List Char
  | '\\' :: c :: cs =>
    if isEscape c then
      let (body, ending, rest) := splitString cs
      ('\\' :: c :: body, ending, rest)
    else (['\\'], .unknownEscape c, c :: cs)
  | ['\\'] => (['\\'], .escapeAtEnd, [])
  | c :: cs =>
    if c = '"' then (['"'], .closed, cs)
    -- The line feed is not read, so the next line is read as if nothing had been open.
    else if c = '\n' then ([], .unterminated, c :: cs)
    else
      let (body, ending, rest) := splitString cs
      (c :: body, ending, rest)
  | [] => ([], .unterminated, [])

/-- Reads a string from behind its opening quote. -/
def scanString (cs : List Char) : Except Fault (Token × List Char) :=
  match splitString cs with
  | (body, .closed, rest) => .ok (stringLit (String.ofList ('"' :: body)), rest)
  | (body, .unterminated, rest) => .error ⟨.unterminatedString, [], '"' :: body, rest⟩
  | (body, .unknownEscape c, rest) => .error ⟨.unknownEscape c, '"' :: body, [c], rest.tail⟩
  | (body, .escapeAtEnd, rest) => .error ⟨.escapeAtEnd, '"' :: body, [], rest⟩

/-- Reads the closing quote of a character whose quote and body have been read. -/
def scanCharacterEnd (body : List Char) : List Char → Except Fault (Token × List Char)
  | [] => .error ⟨.unclosedCharacter, [], '\'' :: body, []⟩
  | c :: cs =>
    if c = '\'' then .ok (charLit (String.ofList ('\'' :: (body ++ ['\'']))), cs)
    else .error ⟨.unclosedCharacter, [], '\'' :: (body ++ [c]), cs⟩

/-- Reads a character from behind its opening quote. -/
def scanCharacter : List Char → Except Fault (Token × List Char)
  | '\\' :: c :: cs =>
    if isEscape c then scanCharacterEnd ['\\', c] cs
    else .error ⟨.unknownEscape c, ['\'', '\\'], [c], cs⟩
  | ['\\'] => .error ⟨.escapeAtEnd, ['\'', '\\'], [], []⟩
  | c :: cs =>
    -- Unlike in a string, the line feed is read along.
    if c = '\'' || c = '\n' then .error ⟨.emptyCharacter, [], ['\'', c], cs⟩
    else scanCharacterEnd [c] cs
  | [] => .error ⟨.emptyCharacter, [], ['\''], []⟩

/-! ## Any token -/

/-- Reads the token at the front of a text that starts with `c`. -/
def scan (c : Char) (cs : List Char) : Except Fault (Token × List Char) :=
  if c = '"' then scanString cs
  else if c = '\'' then scanCharacter cs
  else if c.isDigit then .ok (scanNumber (c :: cs))
  else if isWordStart c then .ok (scanWord (c :: cs))
  else
    match scanMark (c :: cs) with
    | some (m, rest) => .ok (mark m, rest)
    -- One character is passed over, and a reading can go on behind it.
    | none => .error ⟨.unexpectedCharacter c, [], [c], cs⟩

/-! ## Nothing is lost -/

theorem spelling_ofWord (word : String) : (ofWord word).spelling = word := by
  unfold ofWord Keyword.ofSpelling?
  cases h : Keyword.all.find? (·.spelling == word) with
  | none => rfl
  | some k =>
    have hk : k.spelling = word := by simpa using List.find?_some h
    exact hk

theorem splitSign_append (cs : List Char) : (splitSign cs).1 ++ (splitSign cs).2 = cs := by
  unfold splitSign
  split
  · split <;> rfl
  · rfl

theorem splitExponent_append (cs : List Char) :
    (splitExponent cs).1 ++ (splitExponent cs).2 = cs := by
  unfold splitExponent
  split
  · next c cs =>
    split
    · dsimp only
      split
      · rfl
      · simp [splitSign_append]
    · rfl
  · rfl

theorem splitFraction_append (cs : List Char) :
    (splitFraction cs).1 ++ (splitFraction cs).2 = cs := by
  unfold splitFraction
  split
  · dsimp only
    split
    · rfl
    · simp [splitExponent_append]
  · rfl

theorem spelling_scanNumber (cs : List Char) :
    (scanNumber cs).1.spelling.toList ++ (scanNumber cs).2 = cs := by
  have h := splitFraction_append (cs.dropWhile Char.isDigit)
  unfold scanNumber
  generalize splitFraction (cs.dropWhile Char.isDigit) = parts at h ⊢
  obtain ⟨fraction, rest⟩ := parts
  dsimp only at h ⊢
  split
  · next he =>
    rw [List.isEmpty_iff.1 he, List.nil_append] at h
    simp [spelling, h]
  · simp [spelling, h]

theorem spelling_scanWord (cs : List Char) :
    (scanWord cs).1.spelling.toList ++ (scanWord cs).2 = cs := by
  simp [scanWord, spelling_ofWord]

theorem spelling_scanMark {cs rest : List Char} {m : Mark} (h : scanMark cs = some (m, rest)) :
    m.spelling.toList ++ rest = cs := by
  unfold scanMark at h
  split at h
  case h_25 => cases h
  all_goals
    obtain ⟨rfl, rfl⟩ := Prod.mk.inj (Option.some.inj h)
    simp [Mark.spelling]

/-- What a string leaves unread starts with the character of an escape that is not known. -/
theorem splitString_rest {cs rest : List Char} {body : List Char} {c : Char}
    (h : splitString cs = (body, .unknownEscape c, rest)) : rest = c :: rest.tail := by
  fun_induction splitString cs generalizing body with
  | case1 d cs hd body' ending rest' hs ih =>
    simp only [Prod.mk.injEq] at h
    obtain ⟨-, rfl, rfl⟩ := h
    exact ih hs
  | case2 d cs hd =>
    simp only [Prod.mk.injEq, StringEnd.unknownEscape.injEq] at h
    obtain ⟨-, rfl, rfl⟩ := h
    rfl
  | case3 => simp at h
  | case4 => simp at h
  | case5 => simp at h
  | case6 d cs _ _ _ _ body' ending rest' hs ih =>
    simp only [Prod.mk.injEq] at h
    obtain ⟨-, rfl, rfl⟩ := h
    exact ih hs
  | case7 => simp at h

theorem splitString_append (cs : List Char) :
    (splitString cs).1 ++ (splitString cs).2.2 = cs := by
  fun_induction splitString cs <;> simp_all

/-- The text that a scan took apart. -/
def scannedText : Except Fault (Token × List Char) → List Char
  | .ok (t, rest) => t.spelling.toList ++ rest
  | .error f => f.text

theorem scannedText_scanString (cs : List Char) : scannedText (scanString cs) = '"' :: cs := by
  have h := splitString_append cs
  unfold scanString
  split
  · next hs => rw [hs] at h; simp [scannedText, spelling, ← h]
  · next hs => rw [hs] at h; simp [scannedText, Fault.text, ← h]
  · next hs =>
    rw [hs] at h
    simp [scannedText, Fault.text, ← splitString_rest hs, ← h]
  · next hs => rw [hs] at h; simp [scannedText, Fault.text, ← h]

theorem scannedText_scanCharacterEnd (body cs : List Char) :
    scannedText (scanCharacterEnd body cs) = '\'' :: (body ++ cs) := by
  unfold scanCharacterEnd
  split
  · simp [scannedText, Fault.text]
  · split
    · next h => simp [scannedText, spelling, h]
    · simp [scannedText, Fault.text]

theorem scannedText_scanCharacter (cs : List Char) :
    scannedText (scanCharacter cs) = '\'' :: cs := by
  unfold scanCharacter
  split
  · split
    · simp [scannedText_scanCharacterEnd]
    · simp [scannedText, Fault.text]
  · simp [scannedText, Fault.text]
  · split
    · simp [scannedText, Fault.text]
    · simp [scannedText_scanCharacterEnd]
  · simp [scannedText, Fault.text]

/-- Whatever a scan says, the text it took apart is the text it was given. -/
theorem scannedText_scan (c : Char) (cs : List Char) : scannedText (scan c cs) = c :: cs := by
  unfold scan
  split
  · next h => rw [scannedText_scanString, h]
  split
  · next h => rw [scannedText_scanCharacter, h]
  split
  · exact spelling_scanNumber (c :: cs)
  split
  · exact spelling_scanWord (c :: cs)
  split
  · next m rest h => exact spelling_scanMark h
  · simp [scannedText, Fault.text]

/-! ## A token takes at least one character -/

theorem spelling_ne_nil_of_scan {c : Char} {cs rest : List Char} {t : Token}
    (h : scan c cs = .ok (t, rest)) : t.spelling.toList ≠ [] := by
  unfold scan at h
  split at h
  · unfold scanString at h
    split at h <;> cases h
    simp [spelling]
  split at h
  · unfold scanCharacter at h
    split at h
    · split at h
      · unfold scanCharacterEnd at h
        split at h
        · cases h
        · split at h <;> cases h
          simp [spelling]
      · cases h
    · cases h
    · split at h
      · cases h
      · unfold scanCharacterEnd at h
        split at h
        · cases h
        · split at h <;> cases h
          simp [spelling]
    · cases h
  split at h
  · next hd =>
    simp only [scanNumber, Except.ok.injEq] at h
    split at h <;> (cases h; simp [spelling, hd])
  split at h
  · next hw =>
    simp only [scanWord, Except.ok.injEq, Prod.mk.injEq] at h
    obtain ⟨rfl, -⟩ := h
    have hc : isWordChar c = true := by
      simp only [isWordStart, isWordChar, Char.isAlphanum, Bool.or_eq_true] at hw ⊢
      exact hw.elim (fun ha => .inl (.inl ha)) .inr
    simp [spelling_ofWord, hc]
  split at h
  · next m rest' _ =>
    cases h
    cases m <;> simp [spelling, Mark.spelling]
  · cases h

theorem length_rest_lt_of_scan {c : Char} {cs rest : List Char} {t : Token}
    (h : scan c cs = .ok (t, rest)) : rest.length < (c :: cs).length := by
  have ht := congrArg List.length (scannedText_scan c cs)
  rw [h] at ht
  simp only [scannedText, List.length_append] at ht
  have := List.length_pos_iff.2 (spelling_ne_nil_of_scan h)
  omega

end Token

end SyntaxOutline
