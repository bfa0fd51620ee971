import SyntaxOutline.Proofs.Grammar.Concatenation
import SyntaxOutline.Proofs.Grammar.RoutineMirrors

/-!
# A cursor never goes wrong

No routine that starts with its cursor in range goes wrong, whatever the tokens are and however it
ends: it comes to an end, the cursor stays in range and does not go back. A routine that succeeds
leaves as many levels open as it found, and one that fails leaves no fewer (`Routine.perform_eq`,
`Routine.Promise`).

A session can be run again after a failure, and then starts from what the failure has left. Its
tokens and its room are a cursor in range before the first run, one run keeps them so
(`Session.run_mirrored`), and so do any number of runs.
-/

namespace SyntaxOutline

/-! ## One routine -/

section Promise

variable {α : Type} (list : TokenList)

/-- The outcome that a parser's result stands for, when it was started at the cursor `c`. -/
def Cursor.outcome (c : Cursor) :
    Except Failure (α × List Token) → Except SourceError α × Cursor
  | .ok (a, rest) => (.ok a, ⟨list.tokens.length - rest.length, c.depth⟩)
  | .error f =>
    (.error ⟨.grammatical f.fault f.rest.head?,
        list.positionAt (list.tokens.length - f.rest.length)⟩,
      ⟨list.tokens.length - f.rest.length, c.depth + f.stillOpen⟩)

/-- The routines whose loops end because they take a token. -/
def Routine.TakesToken : Routine α → Prop
  | .statement => True
  | .declaration => True
  | _ => False

/-- What holds of a routine that was started at `c` and has ended at `left`. -/
structure Routine.Promise (r : Routine α) (c : Cursor) (outcome : Except SourceError α)
    (left : Cursor) : Prop where
  inRange : left.InRange list
  index_le : c.index ≤ left.index
  depth_of_ok (a : α) (h : outcome = .ok a) : left.depth = c.depth
  depth_of_error (e : SourceError) (h : outcome = .error e) : c.depth ≤ left.depth
  index_lt (a : α) (h : outcome = .ok a) (htakes : r.TakesToken) : c.index < left.index
  parsed : (outcome, left) =
    c.outcome list (r.parser (maxNesting - c.depth) (list.tokensFrom c.index))

variable {list}

/-- The machine and the parser agree on every routine from every cursor in range. -/
theorem Routine.agree (r : Routine α) {c : Cursor} (h : c.InRange list) :
    Agree list c.index c.depth c.depth
      (r.parser (maxNesting - c.depth) (list.tokensFrom c.index)) (r.perform list c) := by
  have hroom : maxNesting - c.depth + c.depth = maxNesting := Nat.sub_add_cancel h.2
  exact r.mirrored list (maxNesting - c.depth) c.depth hroom c.index h

/-- A statement or a declaration that was parsed leaves fewer tokens. -/
theorem Routine.TakesToken.length_lt {r : Routine α} (h : r.TakesToken) {room : Nat}
    {ts rest : List Token} {a : α} (hr : r.parser room ts = .ok (a, rest)) :
    rest.length < ts.length := by
  cases r with
  | statement => exact length_lt_of_statement hr
  | declaration => exact Parser.length_lt_of_declaration hr
  | _ => exact h.elim

/-- Every routine has an outcome from every cursor in range, and keeps its promise there. -/
theorem Routine.promise (r : Routine α) {c : Cursor} (h : c.InRange list) :
    ∃ outcome left, r.perform list c = some (outcome, left) ∧ r.Promise list c outcome left := by
  have hagree := r.agree h
  generalize hr : r.parser (maxNesting - c.depth) (list.tokensFrom c.index) = result at hagree
  generalize r.perform list c = run at hagree
  -- The outcome is told by the tokens that are left, the promise by the index they start at.
  have hindex : ∀ j, j ≤ list.tokens.length →
      list.tokens.length - (list.tokensFrom j).length = j := by
    intro j hj
    rw [TokenList.length_tokensFrom]
    omega
  cases hagree with
  | ok a j hij hj =>
    refine ⟨.ok a, ⟨j, c.depth⟩, rfl, ?_⟩
    constructor
    case inRange => exact ⟨hj, h.2⟩
    case index_le => exact hij
    case depth_of_ok => exact fun _ _ => rfl
    case depth_of_error =>
      intro e he
      cases he
    case index_lt =>
      intro _ _ htakes
      have hlt := htakes.length_lt hr
      rw [TokenList.length_tokensFrom, TokenList.length_tokensFrom] at hlt
      show c.index < j
      omega
    case parsed => rw [hr, Cursor.outcome, hindex j hj]
  | error fault k j hij hj hopen =>
    refine ⟨.error _, ⟨j, c.depth + k⟩, rfl, ?_⟩
    constructor
    case inRange => exact ⟨hj, hopen⟩
    case index_le => exact hij
    case depth_of_ok =>
      intro a ha
      cases ha
    case depth_of_error => exact fun _ _ => Nat.le_add_right c.depth k
    case index_lt =>
      intro a ha
      cases ha
    case parsed => rw [hr, Cursor.outcome, hindex j hj]

/-- What a routine does is what the parser gives on the tokens that are left. -/
theorem Routine.perform_eq (r : Routine α) {c : Cursor} (h : c.InRange list) :
    r.perform list c =
      some (c.outcome list (r.parser (maxNesting - c.depth) (list.tokensFrom c.index))) := by
  obtain ⟨outcome, left, hperform, hpromise⟩ := r.promise h
  rw [hperform, hpromise.parsed]

end Promise

/-! ## One run of a session -/

namespace Session

/-- Where a session is. -/
def cursor (s : Session) : Cursor := ⟨s.taken, s.depth⟩

/-- The tokens that are left are those from the cursor on, and the cursor is in range. -/
structure Placed (s : Session) : Prop where
  rest_eq : s.rest = s.source.tokensFrom s.taken
  inRange : s.cursor.InRange s.source
  room_le : s.room ≤ maxNesting

/-- A session on a source is one on its tokens. -/
theorem exists_ofTokens {source : String} {s : Session} (h : ofSource source = .ok s) :
    ∃ list, tokensOf source = .ok list ∧ s = ofTokens list := by
  unfold ofSource at h
  split at h
  · next list hlist =>
    cases h
    exact ⟨list, hlist, rfl⟩
  · cases h

/-- A session starts with no token taken. -/
theorem taken_ofTokens (list : TokenList) : (ofTokens list).taken = 0 := by
  simp [taken, ofTokens]

/-- A session starts at the first token with no level open. -/
theorem cursor_ofTokens (list : TokenList) : (ofTokens list).cursor = ⟨0, 0⟩ := by
  rw [cursor, taken_ofTokens]
  rfl

/-- How many tokens were taken follows from those that are left. -/
theorem taken_of_rest {s : Session} {j : Nat} (hj : j ≤ s.source.tokens.length)
    (hrest : s.rest = s.source.tokensFrom j) : s.taken = j := by
  rw [taken, hrest, TokenList.length_tokensFrom]
  omega

/-- A session with some of its tokens left is in a place where a machine can go on. -/
theorem Placed.of_rest {s : Session} {j : Nat} (hj : j ≤ s.source.tokens.length)
    (hrest : s.rest = s.source.tokensFrom j) (hroom : s.room ≤ maxNesting) : s.Placed := by
  have htaken := taken_of_rest hj hrest
  refine ⟨?_, ⟨?_, Nat.sub_le ..⟩, hroom⟩
  · rw [htaken]
    exact hrest
  · show s.taken ≤ _
    omega

theorem placed_ofTokens (list : TokenList) : (ofTokens list).Placed :=
  .of_rest (Nat.zero_le _) rfl (Nat.le_refl maxNesting)

/-- The session `t` comes no earlier than `s` in the work on one source. -/
structure Before (s t : Session) : Prop where
  source_eq : t.source = s.source
  taken_le : s.taken ≤ t.taken
  /-- What is at its end stays there. -/
  rest_nil : s.rest = [] → t.rest = []

theorem Before.refl (s : Session) : s.Before s := ⟨rfl, Nat.le_refl _, id⟩

/-- What comes before is before all that comes later. -/
theorem Before.trans {s t u : Session} (h₁ : s.Before t) (h₂ : t.Before u) : s.Before u :=
  ⟨h₂.source_eq.trans h₁.source_eq, h₁.taken_le.trans h₂.taken_le,
    fun h => h₂.rest_nil (h₁.rest_nil h)⟩

/-- At the end of the source there is the program without declarations. -/
theorem run_of_rest_nil {s : Session} (h : s.rest = []) : s.run = (.ok ⟨[]⟩, s) := by
  have hparsed : Parser.program s.room [] = .ok (⟨[]⟩, []) := by
    unfold Parser.program
    rw [Parser.bind_of_ok (Parser.repeatWhile_of_stop rfl)]
    rfl
  unfold run
  rw [h, hparsed, ← h]

/-- A run that succeeds takes all tokens. -/
theorem rest_nil_of_run_ok {s : Session} {p : Program} (h : s.run.1 = .ok p) :
    s.run.2.rest = [] := by
  obtain ⟨rest, hparsed⟩ := run_ok h
  unfold run
  rw [hparsed]
  exact (Parser.program_ok hparsed).2.1

/-- A run does what the routine does from the session's cursor, and the session it leaves is placed
again: what a failure has left is as good a start as any. -/
theorem run_mirrored {s : Session} (h : s.Placed) :
    Routine.program.perform s.source s.cursor = some (s.run.1, s.run.2.cursor) ∧
      s.run.2.Placed ∧ s.Before s.run.2 := by
  have hroom : maxNesting - s.cursor.depth = s.room := Nat.sub_sub_self h.room_le
  have hagree := Routine.program.agree h.inRange
  rw [hroom, show s.cursor.index = s.taken from rfl, ← h.rest_eq] at hagree
  have hend : s.rest = [] → s.run.2.rest = [] := by
    intro hrest
    rw [run_of_rest_nil hrest]
    exact hrest
  generalize hr : Routine.program.parser s.room s.rest = result at hagree
  generalize Routine.program.perform s.source s.cursor = run at hagree
  change Parser.program s.room s.rest = result at hr
  -- A failure may leave levels open, which the next run then starts with.
  cases hagree with
  | ok p j hij hj =>
    have hrun : s.run = (.ok p, { s with rest := s.source.tokensFrom j }) := by
      unfold Session.run
      rw [hr]
    have htaken : Session.taken { s with rest := s.source.tokensFrom j } = j := taken_of_rest hj rfl
    rw [hrun] at hend ⊢
    refine ⟨?_, .of_rest hj rfl h.room_le, rfl, ?_, hend⟩
    · show some (_, Cursor.mk j s.depth) = some (_, Cursor.mk (Session.taken _) s.depth)
      rw [htaken]
    · show s.taken ≤ Session.taken _
      rw [htaken]
      exact hij
  | error fault k j hij hj hopen =>
    have hk : maxNesting - s.room + k ≤ maxNesting := hopen
    have hroom := h.room_le
    have htaken : Session.taken { s with rest := s.source.tokensFrom j, room := s.room - k } = j :=
      taken_of_rest hj rfl
    have hrun : s.run = (.error ⟨.grammatical fault (s.source.tokensFrom j).head?,
        s.source.positionAt j⟩, { s with rest := s.source.tokensFrom j, room := s.room - k }) := by
      unfold Session.run
      rw [hr]
      show (Except.error (SourceError.mk _ (Session.positionAt _ (Session.taken _))), _) = _
      rw [htaken]
      rfl
    -- What was left open is at once a greater depth and a smaller room.
    have hdepth : maxNesting - (s.room - k) = maxNesting - s.room + k := by omega
    rw [hrun] at hend ⊢
    refine ⟨?_, .of_rest hj rfl (by show s.room - k ≤ _; omega), rfl, ?_, hend⟩
    · show some (_, Cursor.mk j (maxNesting - s.room + k)) =
        some (_, Cursor.mk (Session.taken _) (maxNesting - (s.room - k)))
      rw [htaken, hdepth]
    · show s.taken ≤ Session.taken _
      rw [htaken]
      exact hij

/-! ## Any number of runs -/

/-- The session that is left after a number of runs. -/
def after : Nat → Session → Session
  | 0, s => s
  | calls + 1, s => after calls s.run.2

/-- Runs can be counted in two parts. -/
theorem after_add (m n : Nat) (s : Session) : s.after (m + n) = (s.after m).after n := by
  induction m generalizing s with
  | zero => rw [Nat.zero_add, after]
  | succ m ih =>
    rw [Nat.succ_add, after, after]
    exact ih s.run.2

/-- After any number of runs a session is in a place where a machine can go on, and not before where
it was. -/
theorem after_mirrored {s : Session} (h : s.Placed) (calls : Nat) :
    (s.after calls).Placed ∧ s.Before (s.after calls) := by
  induction calls generalizing s with
  | zero => exact ⟨h, .refl s⟩
  | succ calls ih =>
    obtain ⟨-, hplaced, hbefore⟩ := run_mirrored h
    obtain ⟨hlast, hrest⟩ := ih hplaced
    exact ⟨hlast, hbefore.trans hrest⟩

/-- Behind a run that succeeds, all runs give the program without declarations. -/
theorem run_after_ok {s : Session} (h : s.Placed) {p : Program} {m n : Nat}
    (hok : (s.after m).run.1 = .ok p) (hlt : m < n) : (s.after n).run.1 = .ok ⟨[]⟩ := by
  obtain ⟨k, rfl⟩ := Nat.exists_eq_add_of_lt hlt
  obtain ⟨-, hplaced, -⟩ := run_mirrored (after_mirrored h m).1
  obtain ⟨-, hbefore⟩ := after_mirrored hplaced k
  rw [Nat.add_assoc, after_add, after, run_of_rest_nil (hbefore.rest_nil (rest_nil_of_run_ok hok))]

end Session

/-- The outcomes of a number of calls of the routine that reads a program, each from the cursor that
the call before it has left, and the last cursor. -/
def Cursor.calls (list : TokenList) :
    Nat → Cursor → Option (List (Except SourceError Program) × Cursor)
  | 0, c => some ([], c)
  | calls + 1, c => do
    let (outcome, left) ← Routine.program.perform list c
    let (outcomes, last) ← Cursor.calls list calls left
    return (outcome :: outcomes, last)

/-- The machine gives the results of a session's runs, call by call, and ends where the session
does. -/
theorem Session.calls_eq {s : Session} (h : s.Placed) (calls : Nat) :
    Cursor.calls s.source calls s.cursor = some (s.runTimes calls, (s.after calls).cursor) := by
  induction calls generalizing s with
  | zero => rfl
  | succ calls ih =>
    obtain ⟨hrun, hplaced, hbefore⟩ := Session.run_mirrored h
    have hrest := ih hplaced
    rw [hbefore.source_eq] at hrest
    rw [Cursor.calls, hrun]
    show (Cursor.calls s.source calls s.run.2.cursor >>= _) = _
    rw [hrest]
    rfl

/-- However often a session is run, and whether its runs succeed or fail: the cursor never goes
wrong and gives the results of the runs; it stays in range and never goes back; behind a run that
succeeds, every run gives the program without declarations. The same holds of every routine by
itself, from every cursor in range. -/
theorem session_never_goes_wrong {source : String} {s : Session}
    (hs : Session.ofSource source = .ok s) (calls : Nat) :
    Cursor.calls s.source calls ⟨0, 0⟩ = some (s.runTimes calls, (s.after calls).cursor) ∧
      (s.after calls).cursor.InRange s.source ∧
      (∀ earlier, earlier ≤ calls → (s.after earlier).taken ≤ (s.after calls).taken) ∧
      (∀ earlier p, earlier < calls → (s.after earlier).run.1 = .ok p →
        (s.after calls).run.1 = .ok ⟨[]⟩) ∧
      ∀ {α : Type} (r : Routine α) (c : Cursor), c.InRange s.source →
        ∃ outcome left, r.perform s.source c = some (outcome, left) ∧
          r.Promise s.source c outcome left := by
  obtain ⟨list, -, rfl⟩ := Session.exists_ofTokens hs
  have hplaced := Session.placed_ofTokens list
  obtain ⟨hlast, hbefore⟩ := Session.after_mirrored hplaced calls
  refine ⟨?_, ?_, ?_, ?_, fun r c hc => r.promise hc⟩
  · rw [← Session.cursor_ofTokens list]
    exact Session.calls_eq hplaced calls
  · rw [← hbefore.source_eq]
    exact hlast.inRange
  · -- The later runs start from where the earlier ones have stopped.
    intro earlier hle
    obtain ⟨later, rfl⟩ := Nat.exists_eq_add_of_le hle
    rw [Session.after_add]
    exact (Session.after_mirrored (Session.after_mirrored hplaced earlier).1 later).2.taken_le
  · intro earlier p hlt hok
    exact Session.run_after_ok hplaced hok hlt

/-- A sum and a product that break off, and a variable. -/
def brokenOffSource : String := "void f()\x7bx=1+2*\nint y;"

/-- The tokens of `brokenOffSource`. -/
def brokenOff : TokenList :=
  ⟨[⟨.keyword .void, ⟨1, 1⟩⟩, ⟨.ident "f", ⟨1, 6⟩⟩, ⟨.mark .lparen, ⟨1, 7⟩⟩,
    ⟨.mark .rparen, ⟨1, 8⟩⟩, ⟨.mark .lcurly, ⟨1, 9⟩⟩, ⟨.ident "x", ⟨1, 10⟩⟩,
    ⟨.mark .assign, ⟨1, 11⟩⟩, ⟨.intLit "1", ⟨1, 12⟩⟩, ⟨.mark .plus, ⟨1, 13⟩⟩,
    ⟨.intLit "2", ⟨1, 14⟩⟩, ⟨.mark .times, ⟨1, 15⟩⟩, ⟨.keyword .int, ⟨2, 1⟩⟩,
    ⟨.ident "y", ⟨2, 5⟩⟩, ⟨.mark .semicolon, ⟨2, 6⟩⟩], ⟨2, 7⟩⟩

/-- The first call fails and leaves the sum and the product open. The second goes on at the variable
and succeeds, the third is at the end; both leave the two levels as they are. -/
theorem session_goes_on_behind_brokenOff :
    Session.ofSource brokenOffSource = .ok (.ofTokens brokenOff) ∧
      Cursor.calls brokenOff 3 ⟨0, 0⟩ =
        some ([.error ⟨.grammatical .missingExpression (some (.keyword .int)), ⟨2, 1⟩⟩,
          .ok ⟨[.var ⟨.int, "y", none⟩]⟩, .ok ⟨[]⟩], ⟨14, 2⟩) ∧
      (Cursor.mk 14 2).InRange brokenOff := by
  have hs : Session.ofSource brokenOffSource = .ok (.ofTokens brokenOff) := by
    with_unfolding_all rfl
  have hruns : (Session.ofTokens brokenOff).runTimes 3 =
      [.error ⟨.grammatical .missingExpression (some (.keyword .int)), ⟨2, 1⟩⟩,
        .ok ⟨[.var ⟨.int, "y", none⟩]⟩, .ok ⟨[]⟩] := by
    with_unfolding_all rfl
  have hlast : ((Session.ofTokens brokenOff).after 3).cursor = ⟨14, 2⟩ := by
    with_unfolding_all rfl
  obtain ⟨hcalls, hrange, -⟩ := session_never_goes_wrong hs 3
  rw [hruns, hlast] at hcalls
  rw [hlast] at hrange
  exact ⟨hs, hcalls, hrange⟩

end SyntaxOutline
