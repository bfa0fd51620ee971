import SyntaxOutline.Proofs.Lexer.TruePositions

/-!
# Reading on after a fault

A lexer that has met a fault can be asked for tokens again, and goes on behind the characters that
it has read by then. Each fault has used up at least one of them, whatever its kind, so the lexer
gets to the end of its source, and then has nothing more to give. On the way it reads what is left
as a new lexer would, only from another position on: `Position.movedTo` says where a place of a text
lies when the text starts elsewhere. Main result: `tokenize_goes_on`.
-/

namespace SyntaxOutline

/-! ## A text that starts elsewhere -/

namespace Position

/-- Where a place of a text lies when the text starts at `origin`: further down, and on the first
line also further to the right. -/
def movedTo (p origin : Position) : Position :=
  if p.line = 1 then ⟨origin.line, origin.column + (p.column - 1)⟩
  else ⟨origin.line + (p.line - 1), p.column⟩

/-- Whether a line and a column are counted from 1. -/
def FromOne (p : Position) : Prop := 1 ≤ p.line ∧ 1 ≤ p.column

theorem fromOne_start : start.FromOne := ⟨Nat.le_refl 1, Nat.le_refl 1⟩

/-- Counting goes on from 1. -/
theorem FromOne.next {p : Position} (h : p.FromOne) (c : Char) : (p.next c).FromOne := by
  unfold FromOne Position.next at *
  split
  · exact ⟨Nat.le_add_left 1 _, Nat.le_refl 1⟩
  · exact ⟨h.1, Nat.le_add_left 1 _⟩

theorem movedTo_start (origin : Position) : start.movedTo origin = origin := rfl

/-- Going over a character leads to the same place, moved before or behind it. -/
theorem movedTo_next {p : Position} (h : p.FromOne) (origin : Position) (c : Char) :
    (p.next c).movedTo origin = (p.movedTo origin).next c := by
  obtain ⟨hline, hcolumn⟩ := h
  by_cases hc : c = '\n'
  · -- Behind a line feed the column no longer depends on the origin.
    simp only [next, if_pos hc, movedTo]
    rw [if_neg (by omega)]
    split
    · congr 1
      show origin.line + (p.line + 1 - 1) = origin.line + 1
      omega
    · congr 1
      show origin.line + (p.line + 1 - 1) = origin.line + (p.line - 1) + 1
      omega
  · simp only [next, if_neg hc, movedTo]
    split
    · congr 1
      show origin.column + (p.column + 1 - 1) = origin.column + (p.column - 1) + 1
      omega
    · rfl

/-- Moving to another start is a shift of the positions that are counted from 1. -/
theorem shift_movedTo (origin : Position) : Shift (·.movedTo origin) FromOne where
  reached_next c h := h.next c
  move_next c h := movedTo_next h origin c

end Position

/-- The tokens of a text that starts at `origin`. -/
def TokenList.movedTo (list : TokenList) (origin : Position) : TokenList :=
  ⟨list.tokens.map (·.moved (·.movedTo origin)), list.finish.movedTo origin⟩

/-- What a text gives that starts at `origin`. -/
def resultMovedTo (origin : Position) :
    Except LexicalError TokenList → Except LexicalError TokenList
  | .ok list => .ok (list.movedTo origin)
  | .error e => .error (e.moved (·.movedTo origin))

namespace Lexer

/-- A lexer reads what is left to it as a new lexer would, from its own position on. -/
theorem tokenize_eq (l : Lexer) :
    l.tokenize.1 = resultMovedTo l.position (tokensOf (String.ofList l.rest)) := by
  have hread := readFrom_moved (Position.shift_movedTo l.position) Position.fromOne_start l.rest
  rw [Position.movedTo_start] at hread
  rw [tokensOf_eq, String.toList_ofList, tokenize, read, hread]
  cases herror : (readFrom .start l.rest).error? with
  | none => simp only [Reading.moved, herror, Option.map_none, resultMovedTo, TokenList.movedTo]
  | some e => simp only [Reading.moved, herror, Option.map_some, resultMovedTo]

end Lexer

/-! ## What one call leaves -/

namespace Token

/-- A fault in a character literal has used up a character. -/
theorem Fault.read_ne_nil_of_scanCharacter {cs : List Char} {f : Fault}
    (h : scanCharacter cs = .error f) : f.before ++ f.read ≠ [] := by
  -- Behind the one character of a literal the fault is what stands in the place of its quote.
  have hend : ∀ {body cs}, scanCharacterEnd body cs = .error f → f.before ++ f.read ≠ [] := by
    intro body cs h
    unfold scanCharacterEnd at h
    split at h
    · cases h
      simp
    · split at h <;> cases h
      simp
  unfold scanCharacter at h
  split at h
  · split at h
    · exact hend h
    · cases h
      simp
  · cases h
    simp
  · split at h
    · cases h
      simp
    · exact hend h
  · cases h
    simp

/-- A scan that fails has read something. -/
theorem Fault.read_ne_nil {c : Char} {cs : List Char} {f : Fault} (h : scan c cs = .error f) :
    f.before ++ f.read ≠ [] := by
  unfold scan at h
  split at h
  · unfold scanString at h
    split at h <;> cases h <;> simp
  split at h
  · exact Fault.read_ne_nil_of_scanCharacter h
  split at h
  · cases h
  split at h
  · cases h
  split at h
  · cases h
  · cases h
    simp

end Token

namespace Lexer

/-- What a call reads: a first part of the text, behind which it stops. Without a fault that is all
of the text, and with a fault it is not nothing. -/
theorem exists_consumed (p : Position) (cs : List Char) :
    ∃ consumed, cs = consumed ++ (readFrom p cs).left.rest ∧
      (readFrom p cs).left.position = p.advance consumed ∧
      ((readFrom p cs).error? = none → (readFrom p cs).left.rest = []) ∧
      ((readFrom p cs).error? ≠ none → consumed ≠ []) := by
  induction cs using reading_induction generalizing p with
  | unclosed cs trivia comment ht =>
    obtain ⟨hcs, -, body, hcomment, -⟩ := Trivia.split_eq_unclosed_iff.mp ht
    rw [readFrom_unclosed ht]
    refine ⟨trivia ++ comment, ?_, (Position.advance_append ..).symm, fun _ => rfl, fun _ => ?_⟩
    · rw [hcs, List.append_nil]
    · rw [hcomment]
      exact List.append_ne_nil_of_right_ne_nil _ (List.cons_ne_nil _ _)
  | finished cs trivia ht =>
    rw [readFrom_end ht]
    exact ⟨trivia, (Trivia.split_eq_done_iff.mp ht).1, rfl, fun _ => rfl, fun h => absurd rfl h⟩
  | fault cs trivia c rest f ht hs =>
    have htext := Token.scannedText_scan c rest
    rw [hs] at htext
    rw [readFrom_fault ht hs]
    refine ⟨trivia ++ (f.before ++ f.read), ?_, ?_, nofun, fun _ => ?_⟩
    · rw [(Trivia.split_eq_done_iff.mp ht).1, ← htext, Token.scannedText, Token.Fault.text]
      simp only [List.append_assoc]
    · rw [Position.advance_append, Position.advance_append]
    · exact List.append_ne_nil_of_right_ne_nil _ (Token.Fault.read_ne_nil hs)
  -- Behind a token the reading goes on, and what it consumes comes behind the token.
  | token cs trivia c rest t rest' ht hs ih =>
    obtain ⟨consumed, hrest, hposition, hend, -⟩ :=
      ih ((p.advance trivia).advance t.spelling.toList)
    rw [readFrom_token ht hs]
    refine ⟨trivia ++ t.spelling.toList ++ consumed, ?_, ?_, hend, fun _ => ?_⟩
    · rw [List.append_assoc, ← hrest, ← eq_of_split_scan ht hs]
    · rw [Position.advance_append, Position.advance_append]
      exact hposition
    · have hne := Token.spelling_ne_nil (Token.wellSpelled_of_scan hs)
      simp [hne]

/-- A call leaves the lexer where its reading ended. -/
theorem tokenize_snd (l : Lexer) : l.tokenize.2 = l.read.left := by
  unfold tokenize
  dsimp only
  cases l.read.error? <;> rfl

/-- A call that fails had a reading with a fault. -/
theorem error?_of_tokenize_error {l : Lexer} {e : LexicalError} (h : l.tokenize.1 = .error e) :
    l.read.error? ≠ none := by
  intro hnone
  rw [tokenize] at h
  simp only [hnone] at h
  cases h

/-- A call that succeeds had a reading without one. -/
theorem error?_of_tokenize_ok {l : Lexer} {list : TokenList} (h : l.tokenize.1 = .ok list) :
    l.read.error? = none := by
  cases herror : l.read.error? with
  | none => rfl
  | some e =>
    rw [tokenize] at h
    simp only [herror] at h
    cases h

/-- A call that fails goes on behind at least one more character. -/
theorem exists_more_of_error {l : Lexer} {e : LexicalError} (h : l.tokenize.1 = .error e) :
    ∃ more, more ≠ [] ∧ l.rest = more ++ l.tokenize.2.rest := by
  obtain ⟨more, hrest, -, -, hne⟩ := exists_consumed l.position l.rest
  rw [tokenize_snd]
  exact ⟨more, hne (error?_of_tokenize_error h), hrest⟩

/-- A call that fails leaves less than there was, which bounds how often that can happen. -/
theorem length_rest_lt_of_error {l : Lexer} {e : LexicalError} (h : l.tokenize.1 = .error e) :
    l.tokenize.2.rest.length < l.rest.length := by
  obtain ⟨more, hne, hrest⟩ := exists_more_of_error h
  have hpos := List.length_pos_iff.mpr hne
  rw [hrest, List.length_append]
  omega

/-- A call that succeeds leaves nothing. -/
theorem rest_eq_nil_of_ok {l : Lexer} {list : TokenList} (h : l.tokenize.1 = .ok list) :
    l.tokenize.2.rest = [] := by
  obtain ⟨-, -, -, hend, -⟩ := exists_consumed l.position l.rest
  rw [tokenize_snd]
  exact hend (error?_of_tokenize_ok h)

/-- Where nothing is left, a call gives no tokens and changes nothing. -/
theorem tokenize_of_rest_nil {l : Lexer} (h : l.rest = []) :
    l.tokenize = (.ok ⟨[], l.position⟩, l) := by
  have hread : l.read = ⟨[], none, l⟩ := by
    obtain ⟨rest, position⟩ := l
    cases h
    exact readFrom_end (Trivia.split_of_starts rfl) position
  rw [tokenize, hread]

/-! ## Calls one after the other -/

/-- The lexer that is left after a number of calls. -/
def after : Nat → Lexer → Lexer
  | 0, l => l
  | calls + 1, l => after calls l.tokenize.2

/-- Calls can be counted in two parts. -/
theorem after_add (m n : Nat) (l : Lexer) : l.after (m + n) = (l.after m).after n := by
  induction m generalizing l with
  | zero => rw [Nat.zero_add, after]
  | succ m ih =>
    rw [Nat.succ_add, after, after]
    exact ih _

/-- The results of some calls, each with the lexer that the calls before it have left. -/
theorem tokenizeTimes_eq (calls : Nat) (l : Lexer) :
    l.tokenizeTimes calls = (List.range calls).map fun n => (l.after n).tokenize.1 := by
  induction calls generalizing l with
  | zero => rfl
  | succ calls ih =>
    rw [tokenizeTimes, List.range_succ_eq_map, List.map_cons, List.map_map]
    exact congrArg (List.cons l.tokenize.1) (ih l.tokenize.2)

/-- A lexer stands behind a first part of `source`. -/
def Into (source : List Char) (l : Lexer) : Prop :=
  ∃ consumed, source = consumed ++ l.rest ∧ l.position = .behind consumed

/-- A call goes further into the source. -/
theorem into_tokenize {source : List Char} {l : Lexer} (h : l.Into source) :
    l.tokenize.2.Into source := by
  obtain ⟨consumed, hsource, hposition⟩ := h
  obtain ⟨more, hrest, hmore, -⟩ := exists_consumed l.position l.rest
  rw [tokenize_snd]
  refine ⟨consumed ++ more, ?_, ?_⟩
  · rw [List.append_assoc, hsource]
    exact congrArg (consumed ++ ·) hrest
  · rw [← Position.start_advance, Position.advance_append, Position.start_advance, ← hposition]
    exact hmore

/-- So does any number of calls. -/
theorem into_after {source : List Char} {l : Lexer} (h : l.Into source) (n : Nat) :
    (l.after n).Into source := by
  induction n generalizing l with
  | zero => exact h
  | succ n ih => exact ih (into_tokenize h)

theorem into_ofSource (source : String) : (ofSource source).Into source.toList :=
  ⟨[], rfl, rfl⟩

/-- At the end of its source a lexer stays there. -/
theorem after_of_rest_nil {l : Lexer} (h : l.rest = []) (n : Nat) : l.after n = l := by
  induction n with
  | zero => rfl
  | succ n ih => rw [after, tokenize_of_rest_nil h, ih]

/-- At most as many calls fail as there are characters left. -/
theorem countP_tokenizeTimes_le (calls : Nat) (l : Lexer) :
    (l.tokenizeTimes calls).countP (!·.isOk) ≤ l.rest.length := by
  induction calls generalizing l with
  | zero => exact Nat.zero_le _
  | succ calls ih =>
    have hmore := ih l.tokenize.2
    have hlist : l.tokenizeTimes (calls + 1) =
        l.tokenize.1 :: l.tokenize.2.tokenizeTimes calls := rfl
    rw [hlist, List.countP_cons]
    cases hresult : l.tokenize.1 with
    | error e =>
      have hlt := length_rest_lt_of_error hresult
      show _ + 1 ≤ _
      omega
    | ok list =>
      rw [rest_eq_nil_of_ok hresult] at hmore
      show _ + 0 ≤ _
      exact Nat.le_trans hmore (Nat.zero_le _)

/-- After as many calls as there are characters left, one has succeeded at the latest. -/
theorem exists_ok (l : Lexer) : ∃ n ≤ l.rest.length, ∃ list, (l.after n).tokenize.1 = .ok list := by
  induction hlength : l.rest.length using Nat.strong_induction_on generalizing l with
  | _ length ih =>
    cases hresult : l.tokenize.1 with
    | ok list => exact ⟨0, Nat.zero_le _, list, hresult⟩
    | error e =>
      have hlt := length_rest_lt_of_error hresult
      obtain ⟨n, hn, list, hlist⟩ := ih _ (hlength ▸ hlt) l.tokenize.2 rfl
      exact ⟨n + 1, by omega, list, hlist⟩

/-- Behind a call that succeeds there is nothing but the end of the source. -/
theorem tokenize_after_ok {source : List Char} {l : Lexer} (h : l.Into source) {m n : Nat}
    {list : TokenList} (hok : (l.after m).tokenize.1 = .ok list) (hlt : m < n) :
    (l.after n).tokenize.1 = .ok ⟨[], .behind source⟩ := by
  obtain ⟨k, rfl⟩ := Nat.exists_eq_add_of_lt hlt
  have hnil := rest_eq_nil_of_ok hok
  obtain ⟨consumed, hsource, hposition⟩ := into_tokenize (into_after h m)
  rw [hnil, List.append_nil] at hsource
  have hlast : l.after (m + k + 1) = (l.after m).tokenize.2 := by
    rw [Nat.add_assoc, after_add, after, after_of_rest_nil hnil]
  rw [hlast, tokenize_of_rest_nil hnil, hposition, hsource]

end Lexer

/-- A lexer that is called again and again. Each call reads what is left as a new lexer would, from
the position on that has been reached; a call that fails has used up at least one more character, so
no more calls fail than the source has characters, and one succeeds; behind that one, all calls give
the end of the source. -/
theorem tokenize_goes_on (source : String) :
    (∀ calls, (Lexer.ofSource source).tokenizeTimes calls =
      (List.range calls).map fun n => ((Lexer.ofSource source).after n).tokenize.1) ∧
    (∀ n, ∃ consumed, source.toList = consumed ++ ((Lexer.ofSource source).after n).rest ∧
      ((Lexer.ofSource source).after n).position = .behind consumed ∧
      ((Lexer.ofSource source).after n).tokenize.1 = resultMovedTo (.behind consumed)
        (tokensOf (String.ofList ((Lexer.ofSource source).after n).rest))) ∧
    (∀ n e, ((Lexer.ofSource source).after n).tokenize.1 = .error e →
      ∃ more, more ≠ [] ∧ ((Lexer.ofSource source).after n).rest =
        more ++ ((Lexer.ofSource source).after (n + 1)).rest) ∧
    (∀ calls, ((Lexer.ofSource source).tokenizeTimes calls).countP (!·.isOk) ≤ source.length) ∧
    (∃ n ≤ source.length, ∃ list, ((Lexer.ofSource source).after n).tokenize.1 = .ok list) ∧
    ∀ m n list, m < n → ((Lexer.ofSource source).after m).tokenize.1 = .ok list →
      ((Lexer.ofSource source).after n).tokenize.1 = .ok ⟨[], .behind source.toList⟩ := by
  have hinto : (Lexer.ofSource source).Into source.toList := Lexer.into_ofSource source
  have hlength : (Lexer.ofSource source).rest.length = source.length := String.length_toList
  refine ⟨fun calls => Lexer.tokenizeTimes_eq calls _, fun n => ?_, fun n e he => ?_,
    fun calls => ?_, ?_, fun m n list hlt hok => Lexer.tokenize_after_ok hinto hok hlt⟩
  · -- Where a call starts is all that it knows of the calls before it.
    obtain ⟨consumed, hsource, hposition⟩ := Lexer.into_after hinto n
    exact ⟨consumed, hsource, hposition, hposition ▸ Lexer.tokenize_eq _⟩
  · rw [Lexer.after_add, Lexer.after, Lexer.after]
    exact Lexer.exists_more_of_error he
  · rw [← hlength]
    exact Lexer.countP_tokenizeTimes_le calls _
  · rw [← hlength]
    exact Lexer.exists_ok _

/-- A string and a character that are not closed, and a character that starts no token. -/
def thriceFaulty : String := "\"a\n'b @ x"

theorem tokenize_goes_on_thriceFaulty :
    (Lexer.ofSource thriceFaulty).tokenizeTimes 5 =
      [.error ⟨.unterminatedString, ⟨1, 1⟩⟩, .error ⟨.unclosedCharacter, ⟨2, 1⟩⟩,
        .error ⟨.unexpectedCharacter '@', ⟨2, 4⟩⟩, .ok ⟨[⟨.ident "x", ⟨2, 6⟩⟩], ⟨2, 7⟩⟩,
        .ok ⟨[], ⟨2, 7⟩⟩] ∧
    (∃ more, more ≠ [] ∧ ((Lexer.ofSource thriceFaulty).after 1).rest =
      more ++ ((Lexer.ofSource thriceFaulty).after 2).rest) ∧
    ((Lexer.ofSource thriceFaulty).after 9).tokenize.1 = .ok ⟨[], ⟨2, 7⟩⟩ := by
  have htimes : (Lexer.ofSource thriceFaulty).tokenizeTimes 5 =
      [.error ⟨.unterminatedString, ⟨1, 1⟩⟩, .error ⟨.unclosedCharacter, ⟨2, 1⟩⟩,
        .error ⟨.unexpectedCharacter '@', ⟨2, 4⟩⟩, .ok ⟨[⟨.ident "x", ⟨2, 6⟩⟩], ⟨2, 7⟩⟩,
        .ok ⟨[], ⟨2, 7⟩⟩] := by
    with_unfolding_all rfl
  obtain ⟨hcalls, -, hmore, -, -, hlast⟩ := tokenize_goes_on thriceFaulty
  have hresults := htimes
  rw [hcalls] at hresults
  simp only [List.range, List.range.loop, List.map_cons, List.map_nil, List.cons.injEq] at hresults
  obtain ⟨-, hsecond, -, hfourth, -⟩ := hresults
  exact ⟨htimes, hmore 1 _ hsecond, hlast 3 9 _ (by decide) hfourth⟩

end SyntaxOutline
