import SyntaxOutline.Proofs.Lexer.Gaps
import SyntaxOutline.Proofs.Lexer.Spelling

/-!
# Nothing is lost and the longest token wins

`Cuts` says, without reference to how it is done, what it means to cut a text into tokens: the
blanks and comments before each token are all there are, and no longer prefix of what follows them
spells a token. Main result: reading a source succeeds with some tokens exactly when the source
can be cut into them with nothing but blanks and comments left, and it fails exactly when a cut
gets stuck (`tokensOf_longest_match`).
-/

namespace SyntaxOutline

/-- The tokens that a text can be cut into from its front, and what is left of it. -/
inductive Cuts : List Char → List Token → List Char → Prop where
  | nil (text : List Char) : Cuts text [] text
  | cons {trivia rest left : List Char} {t : Token} {tokens : List Token}
      (htrivia : Trivia.Before trivia (t.spelling.toList ++ rest))
      (hmaximal : Trivia.starts (t.spelling.toList ++ rest) = false)
      (ht : t.WellSpelled) (hlongest : t.Longest (t.spelling.toList ++ rest))
      (h : Cuts rest tokens left) :
      Cuts (trivia ++ (t.spelling.toList ++ rest)) (t :: tokens) left

/-- Whether no token can be cut from a text that is not all blanks and comments: it opens a comment
that is never closed, or no prefix of it spells a token. -/
def Stuck (text : List Char) : Prop :=
  Trivia.Unclosed text ∨
    (text ≠ [] ∧ Trivia.starts text = false ∧
      ∀ t : Token, t.WellSpelled → ¬ t.spelling.toList <+: text)

namespace Lexer

/-- What is read is a cut: at the end only blanks and comments are left, and after a fault the cut
is stuck behind them. -/
theorem cuts_readFrom (p : Position) (cs : List Char) :
    ∃ left, Cuts cs ((readFrom p cs).tokens.map (·.token)) left ∧
      ((readFrom p cs).error? = none → Trivia.Before left []) ∧
      ((readFrom p cs).error? ≠ none →
        ∃ trivia rest, left = trivia ++ rest ∧ Trivia.Before trivia rest ∧ Stuck rest) := by
  induction cs using reading_induction generalizing p with
  | unclosed cs trivia comment ht =>
    obtain ⟨rfl, hbefore, hunclosed⟩ := Trivia.split_eq_unclosed_iff.mp ht
    rw [readFrom_unclosed ht]
    exact ⟨_, .nil _, by simp, fun _ => ⟨trivia, comment, rfl, hbefore, .inl hunclosed⟩⟩
  | finished cs trivia ht =>
    obtain ⟨rfl, hbefore, -⟩ := Trivia.split_eq_done_iff.mp ht
    rw [readFrom_end ht]
    exact ⟨_, .nil _, fun _ => by simpa using hbefore, by simp⟩
  | fault cs trivia c rest f ht hs =>
    obtain ⟨rfl, hbefore, hstarts⟩ := Trivia.split_eq_done_iff.mp ht
    have hnone := Token.scan_eq_error_iff.mp ⟨f, hs⟩
    rw [readFrom_fault ht hs]
    exact ⟨_, .nil _, by simp, fun _ => ⟨trivia, c :: rest, rfl, hbefore,
      .inr ⟨List.cons_ne_nil c rest, hstarts, hnone⟩⟩⟩
  -- A token is the longest there is, so the cut goes on behind it.
  | token cs trivia c rest t rest' ht hs ih =>
    obtain ⟨rfl, hbefore, hstarts⟩ := Trivia.split_eq_done_iff.mp ht
    obtain ⟨hcs, hspelled, hlongest⟩ := Token.scan_eq_ok_iff.mp hs
    rw [readFrom_token ht hs]
    obtain ⟨left, hcuts, hend, hstuck⟩ := ih ((p.advance trivia).advance t.spelling.toList)
    rw [hcs] at hbefore hstarts hlongest ⊢
    exact ⟨left, .cons hbefore hstarts hspelled hlongest hcuts, hend, hstuck⟩

/-- What can be cut is read. -/
theorem readFrom_of_cuts {cs left : List Char} {tokens : List Token} (h : Cuts cs tokens left)
    (p : Position) :
    ∃ q, (readFrom p cs).tokens.map (·.token) =
        tokens ++ (readFrom q left).tokens.map (·.token) ∧
      (readFrom p cs).error? = (readFrom q left).error? := by
  induction h generalizing p with
  | nil text => exact ⟨p, rfl, rfl⟩
  | @cons trivia rest left t tokens htrivia hmaximal ht hlongest _ ih =>
    have hsplit := Trivia.split_eq_done_iff.mpr ⟨rfl, htrivia, hmaximal⟩
    obtain ⟨c, cs, hcs⟩ := List.exists_cons_of_ne_nil
      (List.append_ne_nil_of_left_ne_nil (Token.spelling_ne_nil ht) rest)
    have hs : Token.scan c cs = .ok (t, rest) := by
      rw [Token.scan_eq_ok_iff, ← hcs]
      exact ⟨rfl, ht, hlongest⟩
    obtain ⟨q, htokens, herror⟩ := ih ((p.advance trivia).advance t.spelling.toList)
    rw [hcs] at hsplit ⊢
    rw [readFrom_token hsplit hs]
    exact ⟨q, by simp [htokens], herror⟩

/-- Blanks and comments alone give no token and no fault. -/
theorem readFrom_of_before {left : List Char} (h : Trivia.Before left []) (p : Position) :
    readFrom p left = ⟨[], none, ⟨[], p.advance left⟩⟩ :=
  readFrom_end (Trivia.split_eq_done_iff.mpr ⟨(List.append_nil left).symm, h, rfl⟩) p

/-- A text that nothing can be cut from is read with a fault. -/
theorem readFrom_of_stuck {trivia rest : List Char} (h : Trivia.Before trivia rest)
    (hstuck : Stuck rest) (p : Position) : (readFrom p (trivia ++ rest)).error? ≠ none := by
  rcases hstuck with hunclosed | ⟨hne, hstarts, hnone⟩
  · rw [readFrom_unclosed (Trivia.split_eq_unclosed_iff.mpr ⟨rfl, h, hunclosed⟩)]
    exact Option.some_ne_none _
  · obtain ⟨c, cs, rfl⟩ := List.exists_cons_of_ne_nil hne
    obtain ⟨f, hf⟩ := Token.scan_eq_error_iff.mpr hnone
    rw [readFrom_fault (Trivia.split_eq_done_iff.mpr ⟨rfl, h, hstarts⟩) hf]
    exact Option.some_ne_none _

end Lexer

/-- A source is read as the tokens that it can be cut into, the longest first, with all blanks and
comments between them left out; and it cannot be read when such a cut gets stuck. -/
theorem tokensOf_longest_match (source : String) :
    (∀ tokens, (∃ list, tokensOf source = .ok list ∧ list.tokens.map (·.token) = tokens) ↔
      ∃ left, Cuts source.toList tokens left ∧ Trivia.Before left []) ∧
    ((∃ e, tokensOf source = .error e) ↔
      ∃ tokens trivia left, Cuts source.toList tokens (trivia ++ left) ∧
        Trivia.Before trivia left ∧ Stuck left) := by
  obtain ⟨left, hcuts, hend, hstuck⟩ := Lexer.cuts_readFrom .start source.toList
  refine ⟨fun tokens => ⟨?_, ?_⟩, ?_, ?_⟩
  · rintro ⟨list, hlist, rfl⟩
    rw [tokensOf_eq] at hlist
    split at hlist
    · cases hlist
    · next hnone =>
      cases hlist
      exact ⟨left, hcuts, hend hnone⟩
  · -- A cut determines what is read, so it is the reading.
    rintro ⟨left, hcuts, hleft⟩
    obtain ⟨q, htokens, herror⟩ := Lexer.readFrom_of_cuts hcuts .start
    rw [Lexer.readFrom_of_before hleft] at htokens herror
    rw [tokensOf_eq, herror]
    exact ⟨_, rfl, by simpa using htokens⟩
  · rintro ⟨e, he⟩
    rw [tokensOf_eq] at he
    split at he
    · next hsome =>
      obtain ⟨trivia, rest, rfl, hbefore, hrest⟩ := hstuck (by simp [hsome])
      exact ⟨_, trivia, rest, hcuts, hbefore, hrest⟩
    · cases he
  · rintro ⟨tokens, trivia, left, hcuts, hbefore, hleft⟩
    obtain ⟨q, -, herror⟩ := Lexer.readFrom_of_cuts hcuts .start
    obtain ⟨e, he⟩ := Option.ne_none_iff_exists'.mp (Lexer.readFrom_of_stuck hbefore hleft q)
    rw [tokensOf_eq, herror, he]
    exact ⟨e, rfl⟩

end SyntaxOutline
