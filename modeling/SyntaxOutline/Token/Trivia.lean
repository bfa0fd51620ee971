import SyntaxOutline.Position

/-!
# Blanks and comments

What may stand between two tokens: spaces, tabs, carriage returns and line feeds, comments from
`//` through the next line feed, and comments from `/*` through the next `*/`. Comments do not
nest. `Trivia.split` cuts a text behind its longest stretch of such material; the only thing that
can go wrong is a comment that is opened and never closed.
-/

namespace SyntaxOutline

namespace Trivia

/-- The characters that separate tokens without meaning anything. -/
def isBlank (c : Char) : Bool := c == ' ' || c == '\t' || c == '\r' || c == '\n'

/-- Cuts a text behind its first line feed. -/
def splitLine : List Char → List Char × List Char
  | [] => ([], [])
  | c :: cs =>
    if c = '\n' then ([c], cs)
    else
      let (line, rest) := splitLine cs
      (c :: line, rest)

/-- Cuts a text behind its first `*/`, if it has one. -/
def splitComment : List Char → Option (List Char × List Char)
  | '*' :: '/' :: cs => some (['*', '/'], cs)
  | c :: cs => (splitComment cs).map fun (comment, rest) => (c :: comment, rest)
  | [] => none

theorem splitLine_append (cs : List Char) : (splitLine cs).1 ++ (splitLine cs).2 = cs := by
  induction cs with
  | nil => rfl
  | cons c cs ih =>
    simp only [splitLine]
    split
    · rfl
    · simp [ih]

theorem splitComment_append {cs comment rest : List Char}
    (h : splitComment cs = some (comment, rest)) : comment ++ rest = cs := by
  fun_induction splitComment cs generalizing comment rest with
  | case1 cs =>
    obtain ⟨rfl, rfl⟩ := Prod.mk.inj (Option.some.inj h)
    rfl
  | case2 c cs _ ih =>
    obtain ⟨⟨body, tail⟩, hs, hp⟩ := Option.map_eq_some_iff.1 h
    obtain ⟨rfl, rfl⟩ := Prod.mk.inj hp
    simp [ih hs]
  | case3 => simp at h

/-- A text cut behind its leading blanks and comments. -/
inductive Split where
  /-- The blanks and comments, and what follows them. -/
  | done (trivia rest : List Char)
  /-- The blanks and comments before a comment that is never closed, and that comment. -/
  | unclosed (trivia comment : List Char)
deriving Repr

/-- Puts more blanks and comments in front. -/
def Split.after (lead : List Char) : Split → Split
  | done trivia rest => done (lead ++ trivia) rest
  | unclosed trivia comment => unclosed (lead ++ trivia) comment

/-- Cuts a text behind its longest stretch of blanks and comments. -/
def split : List Char → Split
  | '/' :: '/' :: cs => (split (splitLine cs).2).after ('/' :: '/' :: (splitLine cs).1)
  | '/' :: '*' :: cs =>
    match _h : splitComment cs with
    | some (comment, rest) => (split rest).after ('/' :: '*' :: comment)
    | none => .unclosed [] ('/' :: '*' :: cs)
  | c :: cs => if isBlank c then (split cs).after [c] else .done [] (c :: cs)
  | [] => .done [] []
termination_by cs => cs.length
decreasing_by
  · have := congrArg List.length (splitLine_append cs)
    simp only [List.length_append, List.length_cons] at this ⊢
    omega
  · have := congrArg List.length (splitComment_append _h)
    simp only [List.length_append, List.length_cons] at this ⊢
    omega
  · simp

/-- The whole text, put together again. -/
def Split.text : Split → List Char
  | done trivia rest => trivia ++ rest
  | unclosed trivia comment => trivia ++ comment

@[simp] theorem Split.text_after (lead : List Char) (s : Split) :
    (s.after lead).text = lead ++ s.text := by
  cases s <;> simp [after, text]

/-- Nothing is lost. -/
theorem text_split (cs : List Char) : (split cs).text = cs := by
  fun_induction split cs with
  | case1 cs ih => simp [ih, splitLine_append]
  | case2 cs comment rest h ih => simp [ih, splitComment_append h]
  | case3 cs h => rfl
  | case4 c cs h1 h2 hb ih => simp [ih]
  | case5 c cs h1 h2 hb => rfl
  | case6 => rfl

theorem length_rest_le {cs trivia rest : List Char} (h : split cs = .done trivia rest) :
    rest.length ≤ cs.length := by
  have := congrArg List.length (text_split cs)
  rw [h] at this
  simp only [Split.text, List.length_append] at this
  omega

end Trivia

end SyntaxOutline
