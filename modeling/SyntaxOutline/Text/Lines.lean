/-!
# The lines of a text

A line ends with a line feed, and a carriage return right before the line feed belongs to the end
of the line. A text that ends with a line feed has no empty line behind it.
-/

namespace SyntaxOutline

namespace Text

/-- A line without the carriage return that may end it. -/
def dropReturn (line : List Char) : List Char :=
  if line.getLast? = some '\r' then line.dropLast else line

/-- Cuts a text at its first line feed: the line before it, and what follows if there is one. -/
def splitFeed : List Char → List Char × Option (List Char)
  | [] => ([], none)
  | c :: cs =>
    if c = '\n' then ([], some cs)
    else
      let (line, rest) := splitFeed cs
      (c :: line, rest)

theorem length_splitFeed {cs line rest : List Char} (h : splitFeed cs = (line, some rest)) :
    rest.length < cs.length := by
  induction cs generalizing line with
  | nil => simp [splitFeed] at h
  | cons c cs ih =>
    simp only [splitFeed] at h
    split at h
    · simp only [Prod.mk.injEq, Option.some.injEq] at h
      obtain ⟨-, rfl⟩ := h
      simp
    · simp only [Prod.mk.injEq] at h
      have := @ih (splitFeed cs).1 (Prod.ext rfl h.2)
      simp only [List.length_cons]
      omega

/-- The lines of a list of characters. -/
def charLines (cs : List Char) : List (List Char) :=
  match cs with
  | [] => []
  | c :: cs =>
    match _h : splitFeed (c :: cs) with
    | (line, some rest) => dropReturn line :: charLines rest
    | (line, none) => [line]
termination_by cs.length
decreasing_by exact length_splitFeed _h

/-- The lines of a text. -/
def lines (text : String) : List String := (charLines text.toList).map String.ofList

end Text

end SyntaxOutline
