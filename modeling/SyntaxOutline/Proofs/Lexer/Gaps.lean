import SyntaxOutline.Lexer

/-!
# What may stand between tokens

`Trivia.Before` says which stretches of blanks and comments may stand in front of a text, without
reference to how they are found. Cutting a text (`Trivia.split`) goes through any such stretch
(`split_append`) and stops where none starts, so each of its two outcomes is pinned down by the
stretch and by what is left (`split_eq_done_iff`, `split_eq_unclosed_iff`).

`Lexer.readFrom` is opened once here, with one equation for each thing that can come next; the
induction that goes with them is `Lexer.reading_induction`.
-/

namespace SyntaxOutline

namespace Trivia

/-- The blanks and comments that may stand in front of `rest`. A comment that no line feed ends
can only be the last thing in a text. -/
inductive Before : List Char → List Char → Prop where
  | nil (rest : List Char) : Before [] rest
  | blank {c : Char} {trivia rest : List Char} (hc : isBlank c = true)
      (h : Before trivia rest) : Before (c :: trivia) rest
  | line {body trivia rest : List Char} (hbody : '\n' ∉ body)
      (h : Before trivia rest) : Before ('/' :: '/' :: (body ++ '\n' :: trivia)) rest
  | lastLine {body : List Char} (hbody : '\n' ∉ body) : Before ('/' :: '/' :: body) []
  | block {body trivia rest : List Char} (hbody : ¬ ['*', '/'] <:+: body)
      (h : Before trivia rest) : Before ('/' :: '*' :: (body ++ '*' :: '/' :: trivia)) rest

/-- Whether a text starts with a blank or a comment. -/
def starts : List Char → Bool
  | '/' :: '/' :: _ => true
  | '/' :: '*' :: _ => true
  | c :: _ => isBlank c
  | [] => false

/-- Whether a text is a comment that is opened and never closed. -/
def Unclosed (text : List Char) : Prop := ∃ body, text = '/' :: '*' :: body ∧ ¬ ['*', '/'] <:+: body

/-! ## The ends of comments -/

/-- A comment ends with the first line feed. -/
theorem splitLine_line {body : List Char} (h : '\n' ∉ body) (rest : List Char) :
    splitLine (body ++ '\n' :: rest) = (body ++ ['\n'], rest) := by
  induction body with
  | nil => rfl
  | cons c body ih =>
    obtain ⟨hc, hbody⟩ := List.ne_and_not_mem_of_not_mem_cons h
    simp only [List.cons_append, splitLine, if_neg hc.symm, ih hbody]

/-- Without a line feed it is all that is left. -/
theorem splitLine_lastLine {body : List Char} (h : '\n' ∉ body) : splitLine body = (body, []) := by
  induction body with
  | nil => rfl
  | cons c body ih =>
    obtain ⟨hc, hbody⟩ := List.ne_and_not_mem_of_not_mem_cons h
    simp only [splitLine, if_neg hc.symm, ih hbody]

/-- Every text has one line feed to stop at, or none. -/
theorem exists_line (cs : List Char) :
    '\n' ∉ cs ∨ ∃ body rest, cs = body ++ '\n' :: rest ∧ '\n' ∉ body := by
  by_cases h : '\n' ∈ cs
  · obtain ⟨body, rest, hcs, hbody⟩ := List.eq_append_cons_of_mem h
    exact .inr ⟨body, rest, hcs, hbody⟩
  · exact .inl h

/-- What holds no end of a comment holds none further on. -/
theorem not_infix_tail {c : Char} {cs : List Char} (h : ¬ ['*', '/'] <:+: c :: cs) :
    ¬ ['*', '/'] <:+: cs :=
  fun hlater => h (List.infix_cons_iff.mpr (.inr hlater))

/-- A comment ends with the first end that stands in it. -/
theorem splitComment_block {body : List Char} (h : ¬ ['*', '/'] <:+: body) (rest : List Char) :
    splitComment (body ++ '*' :: '/' :: rest) = some (body ++ ['*', '/'], rest) := by
  induction body with
  | nil => rfl
  | cons c body ih =>
    -- A star that ends the body is followed by another star, so it closes nothing.
    have hopen : ∀ cs, c = '*' → body ++ '*' :: '/' :: rest = '/' :: cs → False := by
      rintro cs rfl hcs
      cases body with
      | nil => simp at hcs
      | cons d body =>
        obtain rfl : d = '/' := (List.cons.inj hcs).1
        exact h ⟨[], body, rfl⟩
    rw [List.cons_append, splitComment, ih (not_infix_tail h)]
    · rfl
    · exact hopen

/-- Conversely, what is cut off ends there and not before. -/
theorem splitComment_some {cs comment rest : List Char}
    (h : splitComment cs = some (comment, rest)) :
    ∃ body, comment = body ++ ['*', '/'] ∧ ¬ ['*', '/'] <:+: body := by
  fun_induction splitComment cs generalizing comment rest with
  | case1 cs =>
    obtain ⟨rfl, rfl⟩ := Prod.mk.inj (Option.some.inj h)
    exact ⟨[], rfl, by simp⟩
  | case2 c cs hopen ih =>
    obtain ⟨⟨comment', rest'⟩, hs, hp⟩ := Option.map_eq_some_iff.1 h
    obtain ⟨rfl, rfl⟩ := Prod.mk.inj hp
    obtain ⟨body, rfl, hbody⟩ := ih hs
    refine ⟨c :: body, rfl, ?_⟩
    rw [List.infix_cons_iff]
    rintro (hhere | hlater)
    · obtain ⟨hc, tail, rfl⟩ := List.cons_prefix_cons.mp hhere
      exact hopen _ hc.symm (splitComment_append hs).symm
    · exact hbody hlater
  | case3 => simp at h

/-- Where nothing is cut off there is no end. -/
theorem splitComment_none {cs : List Char} (h : splitComment cs = none) :
    ¬ ['*', '/'] <:+: cs := by
  fun_induction splitComment cs with
  | case1 cs => simp at h
  | case2 c cs hopen ih =>
    rw [List.infix_cons_iff]
    rintro (hhere | hlater)
    · obtain ⟨rfl, tail, rfl⟩ := List.cons_prefix_cons.mp hhere
      exact hopen _ rfl rfl
    · exact ih (Option.map_eq_none_iff.mp h) hlater
  | case3 => simp

/-- Where there is no end nothing is cut off. -/
theorem splitComment_unclosed {cs : List Char} (h : ¬ ['*', '/'] <:+: cs) :
    splitComment cs = none := by
  cases hs : splitComment cs with
  | none => rfl
  | some parts =>
    obtain ⟨comment, rest⟩ := parts
    obtain ⟨body, rfl, -⟩ := splitComment_some hs
    exact absurd ⟨body, rest, splitComment_append hs⟩ h

/-! ## Cutting behind blanks and comments -/

theorem Split.after_nil (s : Split) : s.after [] = s := by cases s <;> rfl

/-- What was skipped in two steps was skipped in one. -/
theorem Split.after_after (lead lead' : List Char) (s : Split) :
    (s.after lead').after lead = s.after (lead ++ lead') := by
  cases s <;> simp [after]

/-- A blank is skipped. -/
theorem split_blank {c : Char} (hc : isBlank c = true) (cs : List Char) :
    split (c :: cs) = (split cs).after [c] := by
  have hslash : c ≠ '/' := by rintro rfl; cases hc
  rw [split, if_pos hc]
  · exact fun _ h => absurd h hslash
  · exact fun _ h => absurd h hslash

/-- A comment to the end of its line is skipped. -/
theorem split_line (cs : List Char) :
    split ('/' :: '/' :: cs) = (split (splitLine cs).2).after ('/' :: '/' :: (splitLine cs).1) := by
  rw [split]

/-- A comment that is closed is skipped. -/
theorem split_block {cs comment rest : List Char} (h : splitComment cs = some (comment, rest)) :
    split ('/' :: '*' :: cs) = (split rest).after ('/' :: '*' :: comment) := by
  rw [split]
  split
  · next h' =>
    rw [h] at h'
    cases h'
    rfl
  · next h' =>
    rw [h] at h'
    cases h'

/-- A comment that is not closed is all that is left. -/
theorem split_of_unclosed {comment : List Char} (h : Unclosed comment) :
    split comment = .unclosed [] comment := by
  obtain ⟨body, rfl, hbody⟩ := h
  rw [split]
  split
  · next h' =>
    rw [splitComment_unclosed hbody] at h'
    cases h'
  · rfl

/-- Where no blank and no comment starts, nothing is skipped. -/
theorem split_of_starts {rest : List Char} (h : starts rest = false) :
    split rest = .done [] rest := by
  unfold starts at h
  split at h
  · cases h
  · cases h
  · next c cs hline hblock =>
    rw [split, if_neg (by simp [h])]
    · exact fun cs' hc hcs => hline cs' hc hcs
    · exact fun cs' hc hcs => hblock cs' hc hcs
  · rw [split]

/-- Cutting goes through whatever blanks and comments there are. -/
theorem split_append {trivia rest : List Char} (h : Before trivia rest) :
    split (trivia ++ rest) = (split rest).after trivia := by
  induction h with
  | nil rest => rw [List.nil_append, Split.after_nil]
  | @blank c trivia rest hc _ ih =>
    rw [List.cons_append, split_blank hc, ih, Split.after_after, List.singleton_append]
  | @line body trivia rest hbody _ ih =>
    have htext : '/' :: '/' :: (body ++ '\n' :: trivia) ++ rest =
        '/' :: '/' :: (body ++ '\n' :: (trivia ++ rest)) := by simp
    rw [htext, split_line, splitLine_line hbody, ih, Split.after_after]
    simp
  | @lastLine body hbody =>
    rw [List.append_nil, split_line, splitLine_lastLine hbody]
  | @block body trivia rest hbody _ ih =>
    have htext : '/' :: '*' :: (body ++ '*' :: '/' :: trivia) ++ rest =
        '/' :: '*' :: (body ++ '*' :: '/' :: (trivia ++ rest)) := by simp
    rw [htext, split_block (splitComment_block hbody _), ih, Split.after_after]
    simp

/-- What a cut has to leave: no further blank or comment, or a comment that is never closed. -/
def Split.Maximal : Split → Prop
  | done trivia rest => Before trivia rest ∧ starts rest = false
  | unclosed trivia comment => Before trivia comment ∧ Unclosed comment

/-- More blanks and comments in front keep a stretch as long as it can be. -/
theorem Split.Maximal.after {s : Split} (h : s.Maximal) {lead : List Char}
    (hlead : ∀ trivia rest, Before trivia rest → Before (lead ++ trivia) rest) :
    (s.after lead).Maximal := by
  cases s with
  | done trivia rest => exact ⟨hlead _ _ h.1, h.2⟩
  | unclosed trivia comment => exact ⟨hlead _ _ h.1, h.2⟩

/-- What is skipped are blanks and comments, as many as there are. -/
theorem maximal_split (cs : List Char) : (split cs).Maximal := by
  fun_induction split cs with
  | case1 cs ih =>
    -- A comment at the very end has no line feed, and nothing comes behind it.
    rcases exists_line cs with hcs | ⟨body, rest, rfl, hbody⟩
    · rw [splitLine_lastLine hcs, split_of_starts rfl, Split.after, List.append_nil]
      exact ⟨.lastLine hcs, rfl⟩
    · rw [splitLine_line hbody] at ih ⊢
      refine ih.after fun trivia rest h => ?_
      simpa using Before.line hbody h
  | case2 cs comment rest hs ih =>
    obtain ⟨body, rfl, hbody⟩ := splitComment_some hs
    refine ih.after fun trivia rest h => ?_
    simpa using Before.block hbody h
  | case3 cs hs => exact ⟨.nil _, cs, rfl, splitComment_none hs⟩
  | case4 c cs _ _ hc ih => exact ih.after fun trivia rest h => .blank hc h
  -- Neither a blank nor the start of a comment.
  | case5 c cs hline hblock hc =>
    refine ⟨.nil _, ?_⟩
    rw [starts]
    · simpa using hc
    · exact hline
    · exact hblock
  | case6 => exact ⟨.nil _, rfl⟩

/-- Cutting off blanks and comments, said without the function that does it. -/
theorem split_eq_done_iff {cs trivia rest : List Char} :
    split cs = .done trivia rest ↔
      cs = trivia ++ rest ∧ Before trivia rest ∧ starts rest = false := by
  constructor
  · intro h
    have htext := text_split cs
    have hmaximal := maximal_split cs
    rw [h] at htext hmaximal
    exact ⟨htext.symm, hmaximal⟩
  · rintro ⟨rfl, hbefore, hstarts⟩
    rw [split_append hbefore, split_of_starts hstarts, Split.after, List.append_nil]

theorem split_eq_unclosed_iff {cs trivia comment : List Char} :
    split cs = .unclosed trivia comment ↔
      cs = trivia ++ comment ∧ Before trivia comment ∧ Unclosed comment := by
  constructor
  · intro h
    have htext := text_split cs
    have hmaximal := maximal_split cs
    rw [h] at htext hmaximal
    exact ⟨htext.symm, hmaximal⟩
  · rintro ⟨rfl, hbefore, hunclosed⟩
    rw [split_append hbefore, split_of_unclosed hunclosed, Split.after, List.append_nil]

end Trivia

/-! ## One token after another -/

namespace Lexer

/-- Reading a comment that is not closed: the fault is where it starts. -/
theorem readFrom_unclosed {cs trivia comment : List Char}
    (ht : Trivia.split cs = .unclosed trivia comment) (p : Position) :
    readFrom p cs = ⟨[], some ⟨.unterminatedComment, p.advance trivia⟩,
      ⟨[], (p.advance trivia).advance comment⟩⟩ := by
  rw [readFrom]
  split
  all_goals
    rename_i ht'
    rw [ht] at ht'
    cases ht'
  rfl

/-- Reading what holds no token. -/
theorem readFrom_end {cs trivia : List Char} (ht : Trivia.split cs = .done trivia [])
    (p : Position) : readFrom p cs = ⟨[], none, ⟨[], p.advance trivia⟩⟩ := by
  rw [readFrom]
  split
  all_goals
    rename_i ht'
    rw [ht] at ht'
    cases ht'
  rfl

/-- Reading a text whose first token has a fault: the fault is behind what may stand before it. -/
theorem readFrom_fault {c : Char} {cs trivia rest : List Char} {f : Token.Fault}
    (ht : Trivia.split cs = .done trivia (c :: rest)) (hs : Token.scan c rest = .error f)
    (p : Position) :
    readFrom p cs = ⟨[], some ⟨f.cause, (p.advance trivia).advance f.before⟩,
      ⟨f.rest, ((p.advance trivia).advance f.before).advance f.read⟩⟩ := by
  rw [readFrom]
  split
  all_goals
    rename_i ht'
    rw [ht] at ht'
    cases ht'
  dsimp only
  split
  all_goals
    rename_i hs'
    rw [hs] at hs'
    cases hs'
  rfl

/-- Reading a token, and then what follows it. -/
theorem readFrom_token {c : Char} {cs trivia rest rest' : List Char} {t : Token}
    (ht : Trivia.split cs = .done trivia (c :: rest)) (hs : Token.scan c rest = .ok (t, rest'))
    (p : Position) :
    readFrom p cs =
      { readFrom ((p.advance trivia).advance t.spelling.toList) rest' with
        tokens := ⟨t, p.advance trivia⟩ ::
          (readFrom ((p.advance trivia).advance t.spelling.toList) rest').tokens } := by
  rw [readFrom]
  split
  all_goals
    rename_i ht'
    rw [ht] at ht'
    cases ht'
  dsimp only
  split
  all_goals
    rename_i hs'
    rw [hs] at hs'
    cases hs'
  rfl

/-- Induction along a reading: next comes the end of the text, a fault, or a token with the rest of
the text behind it. -/
theorem reading_induction {motive : List Char → Prop}
    (unclosed : ∀ cs trivia comment, Trivia.split cs = .unclosed trivia comment → motive cs)
    (finished : ∀ cs trivia, Trivia.split cs = .done trivia [] → motive cs)
    (fault : ∀ cs trivia c rest f, Trivia.split cs = .done trivia (c :: rest) →
      Token.scan c rest = .error f → motive cs)
    (token : ∀ cs trivia c rest t rest', Trivia.split cs = .done trivia (c :: rest) →
      Token.scan c rest = .ok (t, rest') → motive rest' → motive cs)
    (cs : List Char) : motive cs := by
  cases ht : Trivia.split cs with
  | unclosed trivia comment => exact unclosed cs trivia comment ht
  | done trivia rest =>
    cases rest with
    | nil => exact finished cs trivia ht
    | cons c rest =>
      cases hs : Token.scan c rest with
      | error f => exact fault cs trivia c rest f ht hs
      | ok r =>
        obtain ⟨t, rest'⟩ := r
        -- A token takes at least one character, so the text behind it is shorter.
        have hsplit := Trivia.length_rest_le ht
        have hscan := Token.length_rest_lt_of_scan hs
        exact token cs trivia c rest t rest' ht hs
          (reading_induction unclosed finished fault token rest')
termination_by cs.length
decreasing_by omega

end Lexer

/-- The tokens of a source, by the reading from its start. -/
theorem tokensOf_eq (source : String) :
    tokensOf source =
      match (Lexer.readFrom .start source.toList).error? with
      | some e => .error e
      | none => .ok ⟨(Lexer.readFrom .start source.toList).tokens,
          (Lexer.readFrom .start source.toList).left.position⟩ := by
  rw [tokensOf, Lexer.tokenize, Lexer.ofSource, Lexer.read]
  dsimp only
  cases (Lexer.readFrom .start source.toList).error? <;> rfl

/-- A source with tokens is read without a fault. -/
theorem readFrom_of_tokensOf {source : String} {list : TokenList}
    (h : tokensOf source = .ok list) :
    (Lexer.readFrom .start source.toList).error? = none ∧
      list.tokens = (Lexer.readFrom .start source.toList).tokens := by
  rw [tokensOf_eq] at h
  split at h
  · cases h
  · next hnone =>
    cases h
    exact ⟨hnone, rfl⟩

end SyntaxOutline
