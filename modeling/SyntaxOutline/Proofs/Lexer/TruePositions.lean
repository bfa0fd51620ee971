import Mathlib
import SyntaxOutline.Proofs.Lexer.Concatenation
import SyntaxOutline.Proofs.Lexer.LaidOut
import SyntaxOutline.Proofs.Text.Lines
import SyntaxOutline.Viewer.Pane

/-!
# Positions are what they say

The lexer finds a position by walking over the text before it. `Position.behind` finds it from the
lines that this text has, and `StandsAt` says of any way to cut a text into lines what stands at a
position of it. Main result: every token stands where its position says, in the source cut at its
line feeds and in the numbered lines of the viewer; positions grow from token to token up to the
end; and the position of a fault is one of the source, not before the end of a token that was read
(`tokensOf_positions`).

The proof has two parts. A reading that starts at some position keeps the order (`Ordered`) and
places what it reads behind what it has read (`readFrom_places`); both go along the reading. What a
position has to do with lines goes along the lines.
-/

namespace SyntaxOutline

namespace Position

/-- Positions are ordered by line, and by column within a line. -/
instance : PartialOrder Position :=
  PartialOrder.lift (fun p => toLex (p.line, p.column)) fun p q h => by
    obtain ⟨hline, hcolumn⟩ := Prod.mk.inj (toLex.injective h)
    exact congrArg₂ Position.mk hline hcolumn

theorem lt_iff {p q : Position} :
    p < q ↔ p.line < q.line ∨ p.line = q.line ∧ p.column < q.column :=
  Prod.Lex.toLex_lt_toLex

/-- The position behind a text, found from its lines: the last line, behind its characters. -/
def behind (text : List Char) : Position :=
  ⟨(text.splitOn '\n').length, ((text.splitOn '\n').getLastD []).length + 1⟩

/-- Going over a character leads further. -/
theorem lt_next (p : Position) (c : Char) : p < p.next c := by
  rw [lt_iff, next]
  split
  · exact .inl (Nat.lt_succ_self _)
  · exact .inr ⟨rfl, Nat.lt_succ_self _⟩

/-- Going over a text never leads back. -/
theorem le_advance (p : Position) (text : List Char) : p ≤ p.advance text := by
  induction text generalizing p with
  | nil => exact le_refl p
  | cons c text ih => exact le_trans (le_of_lt (lt_next p c)) (ih _)

/-- Going over a text leads further if it is not empty. -/
theorem lt_advance (p : Position) {text : List Char} (h : text ≠ []) : p < p.advance text := by
  obtain ⟨c, text, rfl⟩ := List.exists_cons_of_ne_nil h
  exact lt_of_lt_of_le (lt_next p c) (le_advance _ text)

/-- Within a line only the column changes. -/
theorem advance_of_notMem (p : Position) {text : List Char} (h : '\n' ∉ text) :
    p.advance text = ⟨p.line, p.column + text.length⟩ := by
  induction text generalizing p with
  | nil => rfl
  | cons c text ih =>
    rw [List.mem_cons, not_or] at h
    rw [advance_cons, ih _ h.2, next, if_neg (Ne.symm h.1)]
    exact congrArg (Position.mk p.line) (Nat.add_right_comm ..)

/-- Behind a whole line a text starts over, one line further down. -/
theorem start_advance_line {line : List Char} (h : '\n' ∉ line) (rest : List Char) :
    start.advance (line ++ '\n' :: rest) = (start.advance rest).below 1 := by
  rw [advance_append, advance_of_notMem start h, ← (shift_below 1).move_advance trivial]
  rfl

/-- Walking over a text leads behind its last line. -/
theorem start_advance (text : List Char) : start.advance text = behind text := by
  induction text using line_induction with
  | last line h =>
    rw [advance_of_notMem start h, behind, List.splitOn_eq_singleton h]
    exact congrArg (Position.mk 1) (Nat.add_comm 1 line.length)
  | more line rest h ih =>
    rw [start_advance_line h, ih, behind, behind, List.splitOn_append_cons_self_of_not_mem h]
    obtain ⟨first, others, hlines⟩ := List.exists_cons_of_ne_nil (List.splitOn_ne_nil '\n' rest)
    rw [hlines]
    rfl

end Position

/-! ## What stands at a position -/

/-- In a line `text` stands at a column, counted from 1. -/
def InLine (line : List Char) (column : Nat) (text : List Char) : Prop :=
  ∃ before after, line = before ++ text ++ after ∧ column = before.length + 1

/-- In some lines `text` stands at a position: on the line with that number, counted from 1, at that
column. -/
def StandsAt (lines : List (List Char)) (p : Position) (text : List Char) : Prop :=
  ∃ above line below, lines = above ++ line :: below ∧ p.line = above.length + 1 ∧
    InLine line p.column text

/-- With a line above it a text stands one line further down. -/
theorem StandsAt.cons {lines : List (List Char)} {p : Position} {text : List Char}
    (h : StandsAt lines p text) (line : List Char) : StandsAt (line :: lines) (p.below 1) text := by
  obtain ⟨above, found, below, rfl, hp, htext⟩ := h
  exact ⟨line :: above, found, below, rfl, congrArg (· + 1) hp, htext⟩

/-- What does not go over the end of a line stands at the position where the walk over the text
before it ends, however the lines are cut, if each ends at a line feed and cutting takes nothing
from it. -/
theorem standsAt_of_cut (cut : List Char → List (List Char)) (strip : List Char → List Char)
    (hmore : ∀ line rest, '\n' ∉ line → cut (line ++ '\n' :: rest) = strip line :: cut rest)
    (hlast : ∀ line, '\n' ∉ line → line ≠ [] → cut line = [line])
    {text : List Char} (htext : '\n' ∉ text) (hne : text ≠ [])
    (hstrip : ∀ before after, ∃ after', strip (before ++ text ++ after) = before ++ text ++ after')
    (before after : List Char) :
    StandsAt (cut (before ++ text ++ after)) (Position.start.advance before) text := by
  induction before using line_induction with
  | last before hbefore =>
    rw [Position.advance_of_notMem _ hbefore]
    have hcolumn : 1 + before.length = before.length + 1 := Nat.add_comm ..
    -- The line that `text` stands on is the last one, or ends at the first line feed behind `text`.
    rcases Trivia.exists_line after with hafter | ⟨line, rest, rfl, hline⟩
    · refine ⟨[], _, [], ?_, rfl, before, after, rfl, hcolumn⟩
      exact hlast _ (by simp [hbefore, htext, hafter]) (by simp [hne])
    · obtain ⟨after', hafter'⟩ := hstrip before line
      refine ⟨[], _, cut rest, ?_, rfl, before, after', hafter', hcolumn⟩
      rw [← List.append_assoc]
      exact hmore _ _ (by simp [hbefore, htext, hline])
  | more line rest hline ih =>
    rw [Position.start_advance_line hline, List.append_assoc, List.append_assoc, List.cons_append,
      hmore line _ hline, ← List.append_assoc]
    exact ih.cons _

/-- In a source cut at its line feeds, a text without one stands where going over what is before it
leads. -/
theorem standsAt_splitOn {text : List Char} (htext : '\n' ∉ text) (hne : text ≠ [])
    (before after : List Char) :
    StandsAt ((before ++ text ++ after).splitOn '\n') (Position.start.advance before) text :=
  standsAt_of_cut (List.splitOn '\n') id
    (fun _ rest hline => List.splitOn_append_cons_self_of_not_mem hline rest)
    (fun _ hline _ => List.splitOn_eq_singleton hline)
    htext hne (fun _ after => ⟨after, rfl⟩) before after

/-- A carriage return is only dropped at the end of a line. -/
theorem dropReturn_append (a : List Char) {b : List Char} (h : b ≠ []) :
    Text.dropReturn (a ++ b) = a ++ Text.dropReturn b := by
  unfold Text.dropReturn
  rw [List.getLast?_append_of_ne_nil a h, List.dropLast_append_of_ne_nil h]
  split <;> rfl

theorem standsAt_charLines {text : List Char} (htext : '\n' ∉ text) (hne : text ≠ [])
    (hend : text.getLast? ≠ some '\r') (before after : List Char) :
    StandsAt (Text.charLines (before ++ text ++ after)) (Position.start.advance before) text := by
  refine standsAt_of_cut Text.charLines Text.dropReturn
    (fun _ rest hline => charLines_line hline rest)
    (fun _ hline hne => charLines_last hline hne) htext hne (fun before after => ?_) before after
  by_cases hafter : after = []
  · refine ⟨[], ?_⟩
    rw [hafter, List.append_nil, dropReturn_append before hne, Text.dropReturn, if_neg hend]
  · exact ⟨Text.dropReturn after, dropReturn_append _ hafter⟩

/-- What stands in the lines of a source stands on the line with that number in the viewer. -/
theorem StandsAt.exists_numbered {source : String} {p : Position} {text : List Char}
    (h : StandsAt (Text.charLines source.toList) p text) :
    ∃ line, (p.line, line) ∈ Pane.numbered source ∧ InLine line.toList p.column text := by
  obtain ⟨above, line, below, hlines, hp, htext⟩ := h
  refine ⟨String.ofList line, ?_, by rwa [String.toList_ofList]⟩
  rw [Pane.numbered, Text.lines, hlines, List.map_append, List.map_cons, List.zipIdx_append,
    List.zipIdx_cons, List.map_append, List.map_cons, List.length_map, Nat.add_comm 1, ← hp]
  exact List.mem_append_right _ List.mem_cons_self

/-- A token does not end with a carriage return, so it does not lose one at the end of its line. -/
theorem Token.getLast?_spelling_ne {t : Token} (ht : t.WellSpelled) :
    t.spelling.toList.getLast? ≠ some '\r' := by
  intro hlast
  cases hq : t.isQuoted with
  | false =>
    have hplain := isPlain_of_not_isQuoted ht hq '\r' (List.mem_of_getLast? hlast)
    cases hplain
  | true =>
    cases t with
    | stringLit text =>
      obtain ⟨body, htext, -⟩ := Spelling.mem_string.mp ht
      rw [spelling, htext, ← List.cons_append, List.getLast?_concat] at hlast
      cases hlast
    | charLit text =>
      obtain ⟨body, htext, -⟩ := Spelling.mem_character.mp ht
      rw [spelling, htext, ← List.cons_append, List.getLast?_concat] at hlast
      cases hlast
    | _ => cases hq

/-! ## Along a reading -/

/-- The position behind the last character of a token. -/
def PlacedToken.finish (t : PlacedToken) : Position :=
  ⟨t.position.line, t.position.column + t.token.spelling.length⟩

/-- A token ends as many columns behind its start as its spelling has characters. -/
theorem PlacedToken.advance_spelling {t : PlacedToken} (h : t.token.WellSpelled) :
    t.position.advance t.token.spelling.toList = t.finish := by
  rw [Position.advance_of_notMem _ (Token.newline_not_mem_spelling h), String.length_toList]
  rfl

/-- Tokens that come one behind the other, from the first position on up to the second. -/
def Ordered : Position → List PlacedToken → Position → Prop
  | p, [], stop => p ≤ stop
  | p, t :: ts, stop => p ≤ t.position ∧ t.position < t.finish ∧ Ordered t.finish ts stop

/-- Tokens in order end no earlier than they start. -/
theorem Ordered.le {p stop : Position} {ts : List PlacedToken} (h : Ordered p ts stop) :
    p ≤ stop := by
  induction ts generalizing p with
  | nil => exact h
  | cons t ts ih => exact le_trans h.1 (le_trans (le_of_lt h.2.1) (ih h.2.2))

/-- None of them ends behind the end. -/
theorem Ordered.finish_le {p stop : Position} {ts : List PlacedToken} (h : Ordered p ts stop) :
    ∀ t ∈ ts, t.finish ≤ stop := by
  induction ts generalizing p with
  | nil => nofun
  | cons t ts ih => exact List.forall_mem_cons.mpr ⟨h.2.2.le, ih h.2.2⟩

/-- None of them starts before the start. -/
theorem Ordered.le_position {p stop : Position} {ts : List PlacedToken} (h : Ordered p ts stop) :
    ∀ t ∈ ts, p ≤ t.position := by
  induction ts generalizing p with
  | nil => nofun
  | cons t ts ih =>
    refine List.forall_mem_cons.mpr ⟨h.1, fun u hu => ?_⟩
    exact le_trans h.1 (le_trans (le_of_lt h.2.1) (ih h.2.2 u hu))

/-- Tokens in order, and the end behind them, have increasing positions. -/
theorem Ordered.pairwise {p stop : Position} {ts : List PlacedToken} (h : Ordered p ts stop) :
    (ts.map (·.position) ++ [stop]).Pairwise (· < ·) := by
  induction ts generalizing p with
  | nil => exact List.pairwise_singleton ..
  | cons t ts ih =>
    rw [List.map_cons, List.cons_append, List.pairwise_cons, List.forall_mem_append,
      List.forall_mem_map, List.forall_mem_singleton]
    refine ⟨⟨fun u hu => ?_, ?_⟩, ih h.2.2⟩
    · exact lt_of_lt_of_le h.2.1 (h.2.2.le_position u hu)
    · exact lt_of_lt_of_le h.2.1 h.2.2.le

namespace Lexer

/-- Where a reading stops: at its fault, or at the end of the text. -/
def Reading.stop (r : Reading) : Position :=
  match r.error? with
  | some e => e.position
  | none => r.left.position

/-- A token and the text behind it, put together behind the blanks and comments before them. -/
theorem eq_of_split_scan {c : Char} {cs trivia rest rest' : List Char} {t : Token}
    (ht : Trivia.split cs = .done trivia (c :: rest)) (hs : Token.scan c rest = .ok (t, rest')) :
    cs = trivia ++ t.spelling.toList ++ rest' := by
  rw [(Trivia.split_eq_done_iff.mp ht).1, (Token.scan_eq_ok_iff.mp hs).1, List.append_assoc]

/-- Every token stands in the text behind what its position has been moved over. -/
theorem readFrom_places (p : Position) (cs : List Char) :
    ∀ t ∈ (readFrom p cs).tokens, t.token.WellSpelled ∧ ∃ before after,
      cs = before ++ t.token.spelling.toList ++ after ∧ t.position = p.advance before := by
  induction cs using reading_induction generalizing p with
  | unclosed cs trivia comment ht => rw [readFrom_unclosed ht]; nofun
  | finished cs trivia ht => rw [readFrom_end ht]; nofun
  | fault cs trivia c rest f ht hs => rw [readFrom_fault ht hs]; nofun
  | token cs trivia c rest t rest' ht hs ih =>
    have hcs := eq_of_split_scan ht hs
    rw [readFrom_token ht hs]
    refine List.forall_mem_cons.mpr ⟨⟨Token.wellSpelled_of_scan hs, trivia, rest', hcs, rfl⟩, ?_⟩
    intro u hu
    obtain ⟨hspelled, before, after, hrest, hposition⟩ := ih _ u hu
    refine ⟨hspelled, trivia ++ t.spelling.toList ++ before, after, ?_, ?_⟩
    · rw [hcs, hrest]
      simp only [List.append_assoc]
    · rw [hposition, Position.advance_append, Position.advance_append]

/-- A reading stops behind some part of the text, and without a fault behind all of it. -/
theorem exists_stop (p : Position) (cs : List Char) :
    ∃ before after, cs = before ++ after ∧ (readFrom p cs).stop = p.advance before ∧
      ((readFrom p cs).error? = none → after = []) := by
  induction cs using reading_induction generalizing p with
  | unclosed cs trivia comment ht =>
    rw [readFrom_unclosed ht]
    exact ⟨trivia, comment, (Trivia.split_eq_unclosed_iff.mp ht).1, rfl, nofun⟩
  | finished cs trivia ht =>
    rw [readFrom_end ht]
    exact ⟨trivia, [], (Trivia.split_eq_done_iff.mp ht).1, rfl, fun _ => rfl⟩
  -- A fault may be found behind the start of its token, so part of the token lies before it.
  | fault cs trivia c rest f ht hs =>
    have htext := Token.scannedText_scan c rest
    rw [hs] at htext
    rw [readFrom_fault ht hs]
    refine ⟨trivia ++ f.before, f.read ++ f.rest, ?_, (Position.advance_append ..).symm, nofun⟩
    rw [(Trivia.split_eq_done_iff.mp ht).1, ← htext, Token.scannedText, Token.Fault.text]
    simp only [List.append_assoc]
  | token cs trivia c rest t rest' ht hs ih =>
    obtain ⟨before, after, hrest, hstop, hend⟩ :=
      ih ((p.advance trivia).advance t.spelling.toList)
    rw [readFrom_token ht hs]
    refine ⟨trivia ++ t.spelling.toList ++ before, after, ?_, ?_, hend⟩
    · rw [eq_of_split_scan ht hs, hrest]
      simp only [List.append_assoc]
    · rw [Position.advance_append, Position.advance_append]
      exact hstop

/-- What is read is in order, up to where reading stops. -/
theorem ordered_readFrom (p : Position) (cs : List Char) :
    Ordered p (readFrom p cs).tokens (readFrom p cs).stop := by
  induction cs using reading_induction generalizing p with
  | unclosed cs trivia comment ht =>
    rw [readFrom_unclosed ht]
    exact Position.le_advance p trivia
  | finished cs trivia ht =>
    rw [readFrom_end ht]
    exact Position.le_advance p trivia
  | fault cs trivia c rest f ht hs =>
    rw [readFrom_fault ht hs]
    exact le_trans (Position.le_advance p trivia) (Position.le_advance _ f.before)
  | token cs trivia c rest t rest' ht hs ih =>
    have hspelled := Token.wellSpelled_of_scan hs
    -- A token is not empty, so the next one can only start later.
    have hfinish := @PlacedToken.advance_spelling ⟨t, p.advance trivia⟩ hspelled
    rw [readFrom_token ht hs]
    refine ⟨Position.le_advance p trivia, ?_, ?_⟩
    · rw [← hfinish]
      exact Position.lt_advance _ (Token.spelling_ne_nil hspelled)
    · rw [← hfinish]
      exact ih _

end Lexer

/-! ## Tokens of a source -/

/-- The tokens of a source stand where their positions say, in its lines and in the viewer's, and
come in this order; the end is behind the last character. A fault has a position in the source or at
its end, not before the end of any token that was read. -/
theorem tokensOf_positions (source : String) :
    (∀ list, tokensOf source = .ok list →
      (∀ t ∈ list.tokens, t.token.spelling ≠ "" ∧
        StandsAt (source.toList.splitOn '\n') t.position t.token.spelling.toList ∧
        ∃ line, (t.position.line, line) ∈ Pane.numbered source ∧
          InLine line.toList t.position.column t.token.spelling.toList) ∧
      list.finish = Position.behind source.toList ∧
      (list.tokens.map (·.position) ++ [list.finish]).Pairwise (· < ·)) ∧
    ∀ e, tokensOf source = .error e →
      (∃ before after, source.toList = before ++ after ∧ e.position = Position.behind before) ∧
      ∀ t ∈ (Lexer.ofSource source).read.tokens, t.finish ≤ e.position := by
  obtain ⟨before, after, hsource, hstop, hend⟩ := Lexer.exists_stop .start source.toList
  have hordered := Lexer.ordered_readFrom .start source.toList
  rw [Lexer.Reading.stop] at hstop hordered
  rw [tokensOf_eq]
  -- A reading has a fault or has all tokens, and what is said of the other is empty.
  cases herror : (Lexer.readFrom .start source.toList).error? with
  | none =>
    rw [herror] at hstop hordered
    refine ⟨fun list hlist => ?_, nofun⟩
    cases hlist
    refine ⟨fun t ht => ?_, ?_, hordered.pairwise⟩
    · obtain ⟨hspelled, before, after, htext, hposition⟩ := Lexer.readFrom_places _ _ t ht
      have hline := Token.newline_not_mem_spelling hspelled
      have hne := Token.spelling_ne_nil hspelled
      refine ⟨fun h => hne (by rw [h]; rfl), ?_, StandsAt.exists_numbered ?_⟩
      · rw [htext, hposition]
        exact standsAt_splitOn hline hne before after
      · rw [htext, hposition]
        exact standsAt_charLines hline hne (Token.getLast?_spelling_ne hspelled) before after
    · have hbefore : before = source.toList := by rw [hsource, hend herror, List.append_nil]
      rw [← Position.start_advance]
      exact hbefore ▸ hstop
  | some e =>
    rw [herror] at hstop hordered
    refine ⟨nofun, fun e' he => ?_⟩
    cases he
    refine ⟨⟨before, after, hsource, ?_⟩, hordered.finish_le⟩
    rw [← Position.start_advance]
    exact hstop

/-- A comment over two lines, carriage returns, a tab and letters beyond ASCII. -/
def unevenSource : String := "/* é\n*/ x\r\n\t\"ü\" y\r\n"

/-- The tokens of `unevenSource`. -/
def unevenTokens : TokenList :=
  ⟨[⟨.ident "x", ⟨2, 4⟩⟩, ⟨.stringLit "\"ü\"", ⟨3, 2⟩⟩, ⟨.ident "y", ⟨3, 6⟩⟩], ⟨4, 1⟩⟩

/-- A source with a fault inside its second token. -/
def faultySource : String := "x\n /* ü */ \"ab\\q\""

theorem tokensOf_positions_uneven :
    tokensOf unevenSource = .ok unevenTokens ∧
    StandsAt (unevenSource.toList.splitOn '\n') ⟨3, 2⟩ "\"ü\"".toList ∧
    (∃ line, (3, line) ∈ Pane.numbered unevenSource ∧ InLine line.toList 2 "\"ü\"".toList) ∧
    Position.behind unevenSource.toList = ⟨4, 1⟩ ∧
    tokensOf faultySource = .error ⟨.unknownEscape 'q', ⟨2, 14⟩⟩ ∧
    (∃ before after, faultySource.toList = before ++ after ∧ ⟨2, 14⟩ = Position.behind before) ∧
    (⟨1, 2⟩ : Position) ≤ ⟨2, 14⟩ := by
  have htokens : tokensOf unevenSource = .ok unevenTokens := by
    with_unfolding_all rfl
  have hbroken : tokensOf faultySource = .error ⟨.unknownEscape 'q', ⟨2, 14⟩⟩ := by
    with_unfolding_all rfl
  have hread : (Lexer.ofSource faultySource).read.tokens = [⟨.ident "x", ⟨1, 1⟩⟩] := by
    with_unfolding_all rfl
  obtain ⟨hstand, hfinish, -⟩ := (tokensOf_positions unevenSource).1 _ htokens
  obtain ⟨-, hlines, hviewer⟩ := hstand ⟨.stringLit "\"ü\"", ⟨3, 2⟩⟩
    (List.mem_cons_of_mem _ List.mem_cons_self)
  obtain ⟨hplace, hbehind⟩ := (tokensOf_positions faultySource).2 _ hbroken
  refine ⟨htokens, hlines, hviewer, hfinish.symm, hbroken, hplace, ?_⟩
  exact hbehind ⟨.ident "x", ⟨1, 1⟩⟩ (by rw [hread]; exact List.mem_cons_self)

end SyntaxOutline
