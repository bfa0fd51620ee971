import SyntaxOutline.Text.Blank
import SyntaxOutline.Viewer.Theme

/-!
# Colouring a line of an outline

A line of an outline is taken apart into its indentation, the label and the value in parentheses.
The value starts behind the first ` (` and reaches to a `)` that ends the line.
-/

namespace SyntaxOutline

/-- The parts of a line of an outline. -/
structure TreeLine where
  indent : List Char
  name : List Char
  value? : Option (List Char)
deriving DecidableEq, Repr

namespace TreeLine

/-- Cuts a text at its first ` (`: what stands before and behind it. -/
def splitOpening : List Char → Option (List Char × List Char)
  | [] => none
  | c :: cs =>
    if c = ' ' && cs.head? = some '(' then some ([], cs.tail)
    else (splitOpening cs).map fun (before, rest) => (c :: before, rest)

/-- Takes a line apart. -/
def split (line : List Char) : TreeLine :=
  let indent := line.takeWhile Text.isWhiteSpace
  let body := line.dropWhile Text.isWhiteSpace
  match splitOpening body with
  | some (name, rest) =>
    if rest.getLast? = some ')' then ⟨indent, name, some rest.dropLast⟩ else ⟨indent, body, none⟩
  | none => ⟨indent, body, none⟩

/-- How a label is shown: types, tokens in capitals, and headers. -/
def nameStyle (name : List Char) : Style :=
  if name = "Type".toList then .ink Theme.typeName
  else if name.all (fun c => c.isUpper || c == ' ') then .ink Theme.token
  else (Style.ink Theme.header).strong

/-- The stretches that a value is shown as. -/
def valueSpans : Option (List Char) → List Span
  | none => []
  | some value =>
    [⟨" (".toList, .plain⟩, ⟨value, .ink Theme.tokenValue⟩, ⟨")".toList, .plain⟩]

/-- The stretches that a line is shown as. -/
def spans (l : TreeLine) : List Span :=
  ⟨l.indent, .ink Theme.indentGuide⟩ :: ⟨l.name, nameStyle l.name⟩ :: valueSpans l.value?

end TreeLine

end SyntaxOutline
