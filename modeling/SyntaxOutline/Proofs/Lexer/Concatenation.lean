import SyntaxOutline.Proofs.Lexer.Gaps
import SyntaxOutline.Proofs.Lexer.Spelling

/-!
# Reading one text below another

A text that can be read to its end is read the same when a line feed and any other text follow it
(`readFrom_append`): no token has a line feed in it, so none grows over the seam, and a line feed
ends the comment that may be last. What follows is read as it would be alone, only further down
(`readFrom_moved`). Together: the tokens of the two texts, and the fault of the second
(`tokensOf_append`).
-/

namespace SyntaxOutline

/-! ## A text that starts elsewhere -/

/-- The token with its position moved. -/
def PlacedToken.moved (move : Position → Position) (t : PlacedToken) : PlacedToken :=
  { t with position := move t.position }

/-- The error with its position moved. -/
def LexicalError.moved (move : Position → Position) (e : LexicalError) : LexicalError :=
  { e with position := move e.position }

/-- The reading of a text with all positions moved. -/
def Lexer.Reading.moved (move : Position → Position) (r : Lexer.Reading) : Lexer.Reading where
  tokens := r.tokens.map (·.moved move)
  error? := r.error?.map (·.moved move)
  left := { r.left with position := move r.left.position }

/-- Whether moving a position makes no difference for the way from there over a text, for all
positions that such a way can lead to. -/
structure Position.Shift (move : Position → Position) (reached : Position → Prop) : Prop where
  reached_next : ∀ {p : Position} (c : Char), reached p → reached (p.next c)
  move_next : ∀ {p : Position} (c : Char), reached p → move (p.next c) = (move p).next c

section

variable {move : Position → Position} {reached : Position → Prop} {p : Position}

/-- A way over a text only leads to positions that can be reached. -/
theorem Position.Shift.reached_advance (h : Position.Shift move reached) (hp : reached p)
    (text : List Char) : reached (p.advance text) := by
  induction text generalizing p with
  | nil => exact hp
  | cons c text ih => exact ih (h.reached_next c hp)

/-- Moving before a way over a text or behind it is the same. -/
theorem Position.Shift.move_advance (h : Position.Shift move reached) (hp : reached p)
    (text : List Char) : (move p).advance text = move (p.advance text) := by
  induction text generalizing p with
  | nil => rfl
  | cons c text ih =>
    rw [advance_cons, advance_cons, ← h.move_next c hp, ih (h.reached_next c hp)]

/-- What is read does not depend on where the text starts. -/
theorem Lexer.readFrom_moved (h : Position.Shift move reached) (hp : reached p) (cs : List Char) :
    readFrom (move p) cs = (readFrom p cs).moved move := by
  -- The two readings cut the same text, and only the positions differ.
  induction cs using reading_induction generalizing p with
  | unclosed cs trivia comment ht =>
    have htrivia := h.reached_advance hp trivia
    rw [readFrom_unclosed ht, readFrom_unclosed ht, h.move_advance hp, h.move_advance htrivia]
    rfl
  | finished cs trivia ht =>
    rw [readFrom_end ht, readFrom_end ht, h.move_advance hp]
    rfl
  | fault cs trivia c rest f ht hs =>
    have htrivia := h.reached_advance hp trivia
    have hbefore := h.reached_advance htrivia f.before
    rw [readFrom_fault ht hs, readFrom_fault ht hs, h.move_advance hp, h.move_advance htrivia,
      h.move_advance hbefore]
    rfl
  | token cs trivia c rest t rest' ht hs ih =>
    have htrivia := h.reached_advance hp trivia
    have hspelling := h.reached_advance htrivia t.spelling.toList
    rw [readFrom_token ht hs, readFrom_token ht hs, h.move_advance hp, h.move_advance htrivia,
      ih hspelling]
    rfl

end

/-! ## Further down -/

namespace Position

/-- The position some lines further down. -/
def below (lines : Nat) (p : Position) : Position := ⟨p.line + lines, p.column⟩

/-- Going some lines down is a shift of all positions. -/
theorem shift_below (lines : Nat) : Shift (below lines) fun _ => True where
  reached_next _ _ := trivial
  move_next {p} c _ := by
    unfold next
    by_cases hc : c = '\n'
    · rw [if_pos hc, if_pos hc]
      show Position.mk (p.line + 1 + lines) 1 = ⟨p.line + lines + 1, 1⟩
      rw [Nat.add_right_comm]
    · rw [if_neg hc, if_neg hc]
      rfl

/-- The line of a position counts the line feeds before it. -/
theorem line_advance (p : Position) (text : List Char) :
    (p.advance text).line = p.line + text.count '\n' := by
  induction text generalizing p with
  | nil => rfl
  | cons c text ih =>
    rw [advance_cons, ih, List.count_cons, next]
    by_cases hc : c = '\n'
    · rw [if_pos hc, if_pos (beq_iff_eq.mpr hc)]
      show p.line + 1 + text.count '\n' = _
      omega
    · rw [if_neg hc, if_neg (by simpa using hc)]
      rfl

/-- Behind a line feed a text starts as the first one did, only further down. -/
theorem advance_line (text : List Char) :
    start.advance (text ++ ['\n']) = start.below (1 + text.count '\n') := by
  rw [advance_append]
  show (⟨(start.advance text).line + 1, 1⟩ : Position) = ⟨1 + (1 + text.count '\n'), 1⟩
  rw [line_advance]
  show (⟨1 + text.count '\n' + 1, 1⟩ : Position) = _
  congr 1
  omega

end Position

/-! ## The seam -/

namespace Trivia

/-- In front of a text, blanks and comments do not depend on what the text is. -/
theorem Before.of_ne_nil {trivia rest : List Char} (h : Before trivia rest) (hne : rest ≠ [])
    (rest' : List Char) : Before trivia rest' := by
  induction h with
  | nil => exact .nil rest'
  | blank hc _ ih => exact .blank hc (ih hne)
  | line hbody _ ih => exact .line hbody (ih hne)
  | lastLine => exact absurd rfl hne
  | block hbody _ ih => exact .block hbody (ih hne)

/-- A line feed ends what blanks and comments there are at the end of a text. -/
theorem Before.line_end {trivia rest : List Char} (h : Before trivia rest) (hrest : rest = [])
    (rest' : List Char) : Before (trivia ++ ['\n']) rest' := by
  induction h with
  | nil => exact .blank rfl (.nil rest')
  | blank hc _ ih => exact .blank hc (ih hrest)
  | line hbody _ ih => simpa using Before.line hbody (ih hrest)
  | lastLine hbody => simpa using Before.line hbody (.nil rest')
  | block hbody _ ih => simpa using Before.block hbody (ih hrest)

/-- No comment starts only because a line is added behind the text. -/
theorem starts_append_line {c : Char} {cs : List Char} (h : starts (c :: cs) = false)
    (b : List Char) : starts (c :: (cs ++ '\n' :: b)) = false := by
  unfold starts at h
  split at h
  · cases h
  · cases h
  · next c' cs' hline hblock heq =>
    obtain ⟨rfl, rfl⟩ := List.cons.inj heq
    -- The line feed comes second at the earliest, and then no comment starts.
    rw [starts]
    · exact h
    · intro tail hc htail
      cases cs with
      | nil => simp at htail
      | cons d cs => exact hline cs hc (by rw [(List.cons.inj htail).1])
    · intro tail hc htail
      cases cs with
      | nil => simp at htail
      | cons d cs => exact hblock cs hc (by rw [(List.cons.inj htail).1])
  · next heq => cases heq

end Trivia

namespace Token

/-- No spelling becomes longer because a line is added behind the text. -/
theorem longest_append_line {t : Token} {a : List Char} (h : t.Longest a) (b : List Char) :
    t.Longest (a ++ '\n' :: b) := by
  intro u hu huse
  apply h u hu
  -- A spelling that goes over the seam has the line feed in it.
  rcases List.prefix_or_prefix_of_prefix huse (List.prefix_append a ('\n' :: b)) with hle | ⟨v, hv⟩
  · exact hle
  · cases v with
    | nil => exact ⟨[], by simpa using hv.symm⟩
    | cons c v =>
      rw [← hv, List.prefix_append_right_inj, List.cons_prefix_cons] at huse
      have hmem : '\n' ∈ u.spelling.toList := by
        rw [← hv, ← huse.1]
        simp
      exact absurd hmem (newline_not_mem_spelling hu)

/-- A token is read the same with a line added behind the text. -/
theorem scan_append_line {c : Char} {cs rest : List Char} {t : Token}
    (h : scan c cs = .ok (t, rest)) (b : List Char) :
    scan c (cs ++ '\n' :: b) = .ok (t, rest ++ '\n' :: b) := by
  obtain ⟨hcs, ht, hlongest⟩ := scan_eq_ok_iff.mp h
  refine scan_eq_ok_iff.mpr ⟨?_, ht, longest_append_line hlongest b⟩
  rw [← List.append_assoc, ← hcs, List.cons_append]

end Token

namespace Lexer

/-- Reading goes through whatever blanks and comments there are. -/
theorem readFrom_skip {trivia rest : List Char} (h : Trivia.Before trivia rest) (p : Position) :
    readFrom p (trivia ++ rest) = readFrom (p.advance trivia) rest := by
  have hsplit := Trivia.split_append h
  induction rest using reading_induction with
  | unclosed rest trivia' comment ht =>
    rw [ht, Trivia.Split.after] at hsplit
    rw [readFrom_unclosed hsplit, readFrom_unclosed ht, Position.advance_append]
  | finished rest trivia' ht =>
    rw [ht, Trivia.Split.after] at hsplit
    rw [readFrom_end hsplit, readFrom_end ht, Position.advance_append]
  | fault rest trivia' c cs f ht hs =>
    rw [ht, Trivia.Split.after] at hsplit
    rw [readFrom_fault hsplit hs, readFrom_fault ht hs, Position.advance_append]
  | token rest trivia' c cs t rest' ht hs =>
    rw [ht, Trivia.Split.after] at hsplit
    rw [readFrom_token hsplit hs, readFrom_token ht hs, Position.advance_append]

/-- Tokens in front of a reading. -/
def Reading.behind (tokens : List PlacedToken) (r : Reading) : Reading :=
  { r with tokens := tokens ++ r.tokens }

/-- A text that can be read is read the same with a line feed and another text behind it. -/
theorem readFrom_append {p : Position} {a : List Char} (h : (readFrom p a).error? = none)
    (b : List Char) :
    readFrom p (a ++ '\n' :: b) =
      (readFrom (p.advance (a ++ ['\n'])) b).behind (readFrom p a).tokens := by
  induction a using reading_induction generalizing p with
  | unclosed a trivia comment ht =>
    rw [readFrom_unclosed ht] at h
    cases h
  | finished a trivia ht =>
    obtain ⟨rfl, hbefore, -⟩ := Trivia.split_eq_done_iff.mp ht
    -- A comment that ended with the text ends with the line feed instead.
    have hskip := hbefore.line_end rfl b
    rw [readFrom_end ht, List.append_nil, List.append_cons, readFrom_skip hskip]
    rfl
  | fault a trivia c rest f ht hs =>
    rw [readFrom_fault ht hs] at h
    cases h
  | token a trivia c rest t rest' ht hs ih =>
    obtain ⟨rfl, hbefore, hstarts⟩ := Trivia.split_eq_done_iff.mp ht
    obtain ⟨htext, -⟩ := Token.scan_eq_ok_iff.mp hs
    -- The token is found at the same place, since the line feed goes on with nothing.
    have hsplit : Trivia.split (trivia ++ c :: rest ++ '\n' :: b) =
        .done trivia (c :: (rest ++ '\n' :: b)) :=
      Trivia.split_eq_done_iff.mpr ⟨by simp, hbefore.of_ne_nil (List.cons_ne_nil c rest) _,
        Trivia.starts_append_line hstarts b⟩
    rw [readFrom_token ht hs] at h ⊢
    rw [readFrom_token hsplit (Token.scan_append_line hs b), ih h, htext]
    simp only [Position.advance_append]
    rfl

end Lexer

/-- The tokens of a text below another one. -/
def TokenList.above (upper : TokenList) (lines : Nat) (lower : TokenList) : TokenList :=
  ⟨upper.tokens ++ lower.tokens.map (·.moved (.below lines)), lower.finish.below lines⟩

/-- Below a source that can be read, another is read as if it were alone. -/
theorem tokensOf_append {a : String} {upper : TokenList} (h : tokensOf a = .ok upper) (b : String) :
    tokensOf (a ++ "\n" ++ b) =
      match tokensOf b with
      | .ok lower => .ok (upper.above (1 + a.toList.count '\n') lower)
      | .error e => .error (e.moved (.below (1 + a.toList.count '\n'))) := by
  have htext : (a ++ "\n" ++ b).toList = a.toList ++ '\n' :: b.toList := by simp
  rw [tokensOf_eq] at h
  split at h
  · cases h
  · next hnone =>
    cases h
    have hread := Lexer.readFrom_append hnone b.toList
    rw [Position.advance_line, Lexer.readFrom_moved (Position.shift_below _) trivial] at hread
    rw [tokensOf_eq, tokensOf_eq b, htext, hread]
    cases hb : (Lexer.readFrom .start b.toList).error? with
    | some e => simp [Lexer.Reading.behind, Lexer.Reading.moved, hb]
    | none => simp [Lexer.Reading.behind, Lexer.Reading.moved, hb, TokenList.above]

end SyntaxOutline
