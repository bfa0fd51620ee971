import SyntaxOutline.Text.Alphanumeric
import SyntaxOutline.Viewer.Theme

/-!
# Colouring a line of source

A line of source is cut into pieces of one kind each: a comment, which takes the rest of the line;
quoted literals; words; and single characters. The pieces put together are the line again. Each
line is coloured on its own, so a comment that spans lines is not known as one.
-/

namespace SyntaxOutline

namespace Highlight

/-- The kinds of pieces. -/
inductive Kind where
  | comment
  | quoted
  | typeName
  | keyword
  | constant
  | number
  | call
  | name
  | bracket
  | other
deriving DecidableEq, Repr

/-- How each kind is shown. -/
def Kind.style : Kind → Style
  | comment => .ink Theme.comment
  | quoted => .ink Theme.string
  | typeName => .ink Theme.typeName
  | keyword => (Style.ink Theme.keyword).strong
  | constant => .ink Theme.number
  | number => .ink Theme.number
  | call => .ink Theme.call
  | name => .ink Theme.text
  | bracket => .ink Theme.primary
  | other => .ink Theme.text

/-- A piece of a line. -/
structure Piece where
  kind : Kind
  text : List Char
deriving DecidableEq, Repr

/-- A piece as a stretch of text in its style. -/
def Piece.span (p : Piece) : Span := ⟨p.text, p.kind.style⟩

/-- Whether a word starts with a digit. -/
def isNumeric : List Char → Bool
  | c :: _ => c.isDigit
  | [] => false

/-- The kind of a word; `called` tells whether an opening parenthesis follows it. -/
def wordKind (word : List Char) (called : Bool) : Kind :=
  if ["int", "bool", "double", "void", "char"].contains (String.ofList word) then .typeName
  else if ["struct", "return", "if", "else", "while", "for", "sizeof"].contains
      (String.ofList word) then .keyword
  else if ["true", "false", "null"].contains (String.ofList word) then .constant
  else if isNumeric word then .number
  else if called then .call
  else .name

/-- Whether a character belongs to words. -/
def isWordChar (c : Char) : Bool := Text.isAlphanumeric c || c == '_'

/-- Whether a character goes on with a word that starts with `first`; in a number, a point does. -/
def continuesWord (first c : Char) : Bool := isWordChar c || (c == '.' && first.isDigit)

/-- Whether a character is a bracket. -/
def isBracket (c : Char) : Bool :=
  c == '\x7b' || c == '\x7d' || c == '(' || c == ')' || c == '[' || c == ']'

/-- The piece of a character that belongs to no word. -/
def singlePiece (c : Char) : Piece := ⟨if isBracket c then .bracket else .other, [c]⟩

/-- Cuts a text behind the first `quote`; a backslash takes the character behind it along. -/
def splitQuoted (quote : Char) : List Char → List Char × List Char
  | [] => ([], [])
  | c :: cs =>
    if c = quote then ([c], cs)
    else if c = '\\' then
      match cs with
      | [] => ([c], [])
      | d :: cs =>
        let (body, rest) := splitQuoted quote cs
        (c :: d :: body, rest)
    else
      let (body, rest) := splitQuoted quote cs
      (c :: body, rest)

theorem splitQuoted_append (quote : Char) (cs : List Char) :
    (splitQuoted quote cs).1 ++ (splitQuoted quote cs).2 = cs := by
  fun_induction splitQuoted quote cs <;> simp_all

/-- The pieces of a line. -/
def line (cs : List Char) : List Piece :=
  match cs with
  | [] => []
  | c :: cs =>
    if c = '/' && cs.head? = some '/' then [⟨.comment, c :: cs⟩]
    -- A quote that is not closed runs to the end of the line.
    else if c = '"' || c = '\'' then
      ⟨.quoted, c :: (splitQuoted c cs).1⟩ :: line (splitQuoted c cs).2
    else if isWordChar c then
      let word := c :: cs.takeWhile (continuesWord c)
      let rest := cs.dropWhile (continuesWord c)
      ⟨wordKind word (rest.head? = some '('), word⟩ :: line rest
    else singlePiece c :: line cs
termination_by cs.length
decreasing_by
  · have := congrArg List.length (splitQuoted_append c cs)
    simp only [List.length_append, List.length_cons] at this ⊢
    omega
  · have := (List.dropWhile_sublist (continuesWord c) (l := cs)).length_le
    simp only [List.length_cons]
    omega
  · simp

end Highlight

end SyntaxOutline
