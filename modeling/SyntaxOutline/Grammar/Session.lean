import SyntaxOutline.Grammar.Statement

/-!
# Parsing a source

`parse` reads a source into a program. A `Session` is a parser at work on one list of tokens: it
can be run again after a failure, and then goes on at the token that was refused, with the levels
of nesting that the failure left open still counted. Only here does a refused token get its
position back: it is the one that stands as far from the end of the list as the refused one.
-/

namespace SyntaxOutline

/-- The levels of nesting that may be open at once. -/
def maxNesting : Nat := 128

/-- A parser at work on the tokens of a source. -/
structure Session where
  source : TokenList
  /-- The tokens that have not been taken. -/
  rest : List Token
  /-- The levels of nesting that may still be opened. -/
  room : Nat
deriving DecidableEq, Repr

namespace Session

/-- A session at the first token. -/
def ofTokens (source : TokenList) : Session :=
  ⟨source, source.tokens.map (·.token), maxNesting⟩

/-- A session at the first token of a source text. -/
def ofSource (source : String) : Except SourceError Session :=
  match tokensOf source with
  | .ok tokens => .ok (ofTokens tokens)
  | .error e => .error (.ofLexical e)

/-- The levels of nesting that count as open. -/
def depth (s : Session) : Nat := maxNesting - s.room

/-- The number of tokens that have been taken. -/
def taken (s : Session) : Nat := s.source.tokens.length - s.rest.length

/-- The position of the token at an index; behind the last token, the end of the source. -/
def positionAt (s : Session) (index : Nat) : Position :=
  match s.source.tokens[index]? with
  | some t => t.position
  | none => s.source.finish

/-- Parses declarations up to the end of the tokens, and gives the session that is left. -/
def run (s : Session) : Except SourceError Program × Session :=
  match Parser.program s.room s.rest with
  | .ok (program, rest) => (.ok program, { s with rest := rest })
  | .error f =>
    let left := { s with rest := f.rest, room := s.room - f.stillOpen }
    (.error ⟨.grammatical f.fault f.rest.head?, left.positionAt left.taken⟩, left)

/-- What `calls` runs give, each going on where the one before it stopped. -/
def runTimes : Nat → Session → List (Except SourceError Program)
  | 0, _ => []
  | calls + 1, s =>
    let (result, left) := s.run
    result :: runTimes calls left

end Session

/-- The program that a source spells, or why and where it is refused. -/
def parse (source : String) : Except SourceError Program :=
  match Session.ofSource source with
  | .ok s => s.run.1
  | .error e => .error e

end SyntaxOutline
