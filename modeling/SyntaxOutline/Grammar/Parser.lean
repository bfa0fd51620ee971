import SyntaxOutline.Grammar.Fault
import SyntaxOutline.Program

/-!
# Parsers of token lists

A parser takes what it needs from the front of a list of tokens. It gives a value and the tokens
that are left, or a failure that says what is wrong and at which token. A failure also counts the
levels of nesting that an unfinished chain had opened and that stay open: `keepOpen` counts one.

Positions play no part: a parser sees the tokens alone.
-/

namespace SyntaxOutline

/-- Why and where parsing stopped. -/
structure Failure where
  fault : SyntaxFault
  /-- The tokens from the offending one on. -/
  rest : List Token
  /-- The levels of nesting that stay open. -/
  stillOpen : Nat
deriving DecidableEq, Repr

/-- What takes a value from the front of a list of tokens. -/
abbrev Parser (α : Type) := StateT (List Token) (Except Failure) α

namespace Parser

variable {α β : Type}

/-- Refuses the next token. -/
def fail (fault : SyntaxFault) : Parser α := fun ts => .error ⟨fault, ts, 0⟩

/-- Takes the mark `m` if it is next, and says whether it was. -/
def accept (m : Mark) : Parser Bool := fun ts =>
  match ts with
  | .mark n :: rest => if n = m then .ok (true, rest) else .ok (false, ts)
  | _ => .ok (false, ts)

/-- Takes the keyword `k` if it is next, and says whether it was. -/
def acceptKeyword (k : Keyword) : Parser Bool := fun ts =>
  match ts with
  | .keyword l :: rest => if l = k then .ok (true, rest) else .ok (false, ts)
  | _ => .ok (false, ts)

/-- Takes the mark `m`, which has to be next. -/
def expect (m : Mark) (context : Context) : Parser Unit := fun ts =>
  match ts with
  | .mark n :: rest =>
    if n = m then .ok ((), rest) else fail (.missingMark m context) ts
  | _ => fail (.missingMark m context) ts

/-- Takes an identifier, which has to be next. -/
def identifier : Parser String := fun ts =>
  match ts with
  | .ident name :: rest => .ok (name, rest)
  | _ => fail .missingIdentifier ts

/-- Whether the mark `m` is next. -/
def isNext (m : Mark) : List Token → Bool
  | .mark n :: _ => n = m
  | _ => false

/-- Counts one level of nesting that stays open when `p` fails. -/
def keepOpen (p : Parser α) : Parser α := fun ts =>
  match p ts with
  | .ok r => .ok r
  | .error f => .error { f with stillOpen := f.stillOpen + 1 }

/-- Takes a value with `p` unless the mark `m` is next. -/
def unlessNext (m : Mark) (p : Parser α) : Parser (Option α) := fun ts =>
  if isNext m ts then .ok (none, ts) else (some <$> p) ts

/-- Takes values with `p` for as long as `more` holds of the tokens that are left. A round that
takes no token is the last one. -/
def repeatWhile (more : List Token → Bool) (p : Parser α) : Parser (List α) := fun ts =>
  if more ts then
    match p ts with
    | .error f => .error f
    | .ok (a, rest) =>
      if rest.length < ts.length then
        match repeatWhile more p rest with
        | .error f => .error f
        | .ok (as, rest) => .ok (a :: as, rest)
      else .ok ([a], rest)
  else .ok ([], ts)
termination_by ts => ts.length

/-- Takes one or more values with commas between them. -/
def separated (p : Parser α) : Parser (List α) := do
  let first ← p
  let others ← repeatWhile (isNext .comma) do
    let _ ← accept .comma
    p
  return first :: others

/-- Takes values with commas between them, or none if the mark `m` is next. -/
def separatedUntil (m : Mark) (p : Parser α) : Parser (List α) := do
  return (← unlessNext m (separated p)).getD []

end Parser

end SyntaxOutline
