import SyntaxOutline.Token.Scan
import SyntaxOutline.Token.Trivia

/-!
# Reading all tokens of a text

A `Lexer` is a text that has not been read yet, with the position at which it starts. Reading it
gives the tokens with the positions of their first characters, up to the end of the text or to
the first fault. Either way the reading also gives the lexer that is left: empty at the end of the
text, and behind the characters already read after a fault, so that reading can go on there.

Positions play no part in what is read: they are found by walking over the text that was.
-/

namespace SyntaxOutline

/-- A token and the position of its first character. -/
structure PlacedToken where
  token : Token
  position : Position
deriving DecidableEq, Repr

/-- The tokens of a text and the position behind its last character. -/
structure TokenList where
  tokens : List PlacedToken
  finish : Position
deriving DecidableEq, Repr

/-- A fault and its position. -/
structure LexicalError where
  fault : LexicalFault
  position : Position
deriving DecidableEq, Repr

/-- The whole message, with the position. -/
def LexicalError.message (e : LexicalError) : String :=
  s!"Lexer error at line {e.position.line}, column {e.position.column}: {e.fault.message}"

/-- A text still to be read, and where it starts. -/
structure Lexer where
  rest : List Char
  position : Position
deriving DecidableEq, Repr

namespace Lexer

/-- The lexer of a whole source. -/
def ofSource (source : String) : Lexer := ⟨source.toList, .start⟩

/-- What one pass over a text gives. -/
structure Reading where
  /-- The tokens before the end or the fault. -/
  tokens : List PlacedToken
  /-- The fault that stopped the pass. -/
  error? : Option LexicalError
  /-- What is left. -/
  left : Lexer
deriving DecidableEq, Repr

/-- Reads on from `position` until the text ends or a fault stops it. -/
def readFrom (position : Position) (cs : List Char) : Reading :=
  match _ht : Trivia.split cs with
  | .unclosed trivia comment =>
    let opening := position.advance trivia
    ⟨[], some ⟨.unterminatedComment, opening⟩, ⟨[], opening.advance comment⟩⟩
  | .done trivia [] => ⟨[], none, ⟨[], position.advance trivia⟩⟩
  | .done trivia (c :: rest) =>
    let first := position.advance trivia
    match _hs : Token.scan c rest with
    | .error f =>
      -- A bad escape is reported where it stands, not where its literal starts.
      let place := first.advance f.before
      ⟨[], some ⟨f.cause, place⟩, ⟨f.rest, place.advance f.read⟩⟩
    | .ok (token, rest) =>
      let reading := readFrom (first.advance token.spelling.toList) rest
      { reading with tokens := ⟨token, first⟩ :: reading.tokens }
termination_by cs.length
decreasing_by
  have := Trivia.length_rest_le _ht
  have := Token.length_rest_lt_of_scan _hs
  omega

/-- Reads the text of a lexer. -/
def read (l : Lexer) : Reading := readFrom l.position l.rest

/-- All tokens of the text, or its first fault; and what is left. -/
def tokenize (l : Lexer) : Except LexicalError TokenList × Lexer :=
  let reading := l.read
  match reading.error? with
  | some e => (.error e, reading.left)
  | none => (.ok ⟨reading.tokens, reading.left.position⟩, reading.left)

/-- What `calls` readings give, each going on where the one before it stopped. -/
def tokenizeTimes : Nat → Lexer → List (Except LexicalError TokenList)
  | 0, _ => []
  | calls + 1, l =>
    let (result, left) := l.tokenize
    result :: tokenizeTimes calls left

end Lexer

/-- All tokens of a source, or its first fault. -/
def tokensOf (source : String) : Except LexicalError TokenList :=
  (Lexer.ofSource source).tokenize.1

end SyntaxOutline
