import SyntaxOutline.Proofs.Grammar.SessionSafety

/-!
# Layout does not matter

Two sources with the same tokens may have them at different places, with other blanks and comments
between them. Whatever a routine does in one source it does in the other: its cursor takes the same
way, and its outcome is the same value, or an error that differs in the position only. That position
is the one of the refused token, each time in its own source.

A routine looks at positions, since a slot holds them, but what it does is what its parser does
(`Routine.perform_eq`), and the parser gets tokens without positions. So two sessions on such
sources stay in step (`Session.InStep.run`), also behind failures.
-/

namespace SyntaxOutline

/-- Two lists of the same tokens, wherever these stand. -/
def TokenList.SameTokens (as bs : TokenList) : Prop :=
  as.tokens.map (·.token) = bs.tokens.map (·.token)

instance (as bs : TokenList) : Decidable (as.SameTokens bs) :=
  inferInstanceAs (Decidable (as.tokens.map (·.token) = bs.tokens.map (·.token)))

/-- Outcomes in two sources that differ in layout: the same value, or the same fault of the token at
`index`, with its position in each source. -/
inductive Alike {α : Type} (as bs : TokenList) (index : Nat) :
    Except SourceError α → Except SourceError α → Prop
  | ok (a : α) : Alike as bs index (.ok a) (.ok a)
  | error (fault : SyntaxFault) (found : Option Token)
    (hleft : as.tokens[index]?.map (·.token) = found)
    (hright : bs.tokens[index]?.map (·.token) = found) :
    Alike as bs index (.error ⟨.grammatical fault found, as.positionAt index⟩)
      (.error ⟨.grammatical fault found, bs.positionAt index⟩)

section Alike

variable {as bs : TokenList}

/-- Lists with the same tokens are equally long. -/
theorem TokenList.SameTokens.length_eq (h : as.SameTokens bs) :
    as.tokens.length = bs.tokens.length := by
  have hlength := congrArg List.length h
  rw [List.length_map, List.length_map] at hlength
  exact hlength

/-- At each index they have the same tokens left. -/
theorem TokenList.SameTokens.tokensFrom_eq (h : as.SameTokens bs) (i : Nat) :
    as.tokensFrom i = bs.tokensFrom i := by
  unfold TokenList.tokensFrom
  rw [h]

/-- The first token that is left at an index is the one there. -/
theorem TokenList.head?_tokensFrom (list : TokenList) (i : Nat) :
    (list.tokensFrom i).head? = list.tokens[i]?.map (·.token) := by
  rw [TokenList.tokensFrom, List.head?_drop, List.getElem?_map]

/-- A cursor in range of the one is in range of the other. -/
theorem Cursor.InRange.of_sameTokens {c : Cursor} (hc : c.InRange as) (h : as.SameTokens bs) :
    c.InRange bs := by
  refine ⟨?_, hc.2⟩
  rw [← h.length_eq]
  exact hc.1

/-- A routine takes the same way through two sources with the same tokens. -/
theorem Routine.perform_alike {α : Type} (r : Routine α) (h : as.SameTokens bs) {c : Cursor}
    (hc : c.InRange as) :
    ∃ left x y, r.perform as c = some (x, left) ∧ r.perform bs c = some (y, left) ∧
      Alike as bs left.index x y := by
  have hagree := r.agree hc
  have hright := r.perform_eq (hc.of_sameTokens h)
  rw [← h.tokensFrom_eq] at hright
  rw [hright]
  generalize r.parser (maxNesting - c.depth) (as.tokensFrom c.index) = result at hagree
  generalize r.perform as c = run at hagree
  -- The lists have the same length, so an index means the same token in both.
  have hindex : ∀ j, j ≤ as.tokens.length → bs.tokens.length - (as.tokensFrom j).length = j := by
    intro j hj
    rw [TokenList.length_tokensFrom, ← h.length_eq]
    omega
  cases hagree with
  | ok a j hij hj =>
    refine ⟨⟨j, c.depth⟩, .ok a, .ok a, rfl, ?_, .ok a⟩
    rw [Cursor.outcome, hindex j hj]
  | error fault k j hij hj hopen =>
    refine ⟨⟨j, c.depth + k⟩, _, _, rfl, ?_, .error fault (as.tokensFrom j).head? ?_ ?_⟩
    · rw [Cursor.outcome, hindex j hj]
    · exact (as.head?_tokensFrom j).symm
    · rw [h.tokensFrom_eq]
      exact (bs.head?_tokensFrom j).symm

end Alike

/-! ## Sessions in step -/

/-- Two sessions that have taken as much of the same tokens, with as many levels open. -/
structure Session.InStep (s t : Session) : Prop where
  sameTokens : s.source.SameTokens t.source
  left : s.Placed
  right : t.Placed
  cursor_eq : s.cursor = t.cursor

namespace Session.InStep

variable {s t : Session}

/-- Sessions on the same tokens start in step. -/
theorem ofTokens {as bs : TokenList} (h : as.SameTokens bs) :
    (Session.ofTokens as).InStep (Session.ofTokens bs) := by
  refine ⟨h, placed_ofTokens as, placed_ofTokens bs, ?_⟩
  rw [cursor_ofTokens, cursor_ofTokens]

/-- One run keeps sessions in step. -/
theorem run (h : s.InStep t) :
    s.run.2.InStep t.run.2 ∧ Alike s.source t.source s.run.2.taken s.run.1 t.run.1 := by
  obtain ⟨hleft, hleftPlaced, hleftBefore⟩ := run_mirrored h.left
  obtain ⟨hright, hrightPlaced, hrightBefore⟩ := run_mirrored h.right
  obtain ⟨left, x, y, hx, hy, halike⟩ :=
    Routine.program.perform_alike h.sameTokens h.left.inRange
  rw [hleft] at hx
  rw [h.cursor_eq, hright] at hy
  cases hx
  have hcursor : t.run.2.cursor = s.run.2.cursor := (Prod.mk.inj (Option.some.inj hy)).2
  have hy : t.run.1 = y := (Prod.mk.inj (Option.some.inj hy)).1
  rw [hy]
  refine ⟨⟨?_, hleftPlaced, hrightPlaced, hcursor.symm⟩, halike⟩
  rw [hleftBefore.source_eq, hrightBefore.source_eq]
  exact h.sameTokens

/-- So does any number of runs. -/
theorem after (h : s.InStep t) (calls : Nat) : (s.after calls).InStep (t.after calls) := by
  induction calls generalizing s t with
  | zero => exact h
  | succ calls ih => exact ih h.run.1

end Session.InStep

/-- Two sources with the same tokens are parsed alike: into the same program, or they are refused
with the same message at the same token, each at that token's own position. This holds of every run
of the sessions on them, the one behind a failure included, and of every routine by itself. -/
theorem parse_alike_of_sameTokens {a b : String} {as bs : TokenList} (ha : tokensOf a = .ok as)
    (hb : tokensOf b = .ok bs) (h : as.SameTokens bs) :
    Alike as bs (Session.ofTokens as).run.2.taken (parse a) (parse b) ∧
      (∀ calls,
        ((Session.ofTokens as).after calls).cursor = ((Session.ofTokens bs).after calls).cursor ∧
        Alike as bs ((Session.ofTokens as).after (calls + 1)).taken
          ((Session.ofTokens as).after calls).run.1 ((Session.ofTokens bs).after calls).run.1) ∧
      ∀ {α : Type} (r : Routine α) (c : Cursor), c.InRange as →
        ∃ left x y, r.perform as c = some (x, left) ∧ r.perform bs c = some (y, left) ∧
          Alike as bs left.index x y := by
  have hstart := Session.InStep.ofTokens h
  refine ⟨?_, ?_, fun r c hc => r.perform_alike h hc⟩
  · unfold parse Session.ofSource
    rw [ha, hb]
    exact hstart.run.2
  · intro calls
    -- The sessions are in step after each call, whatever its result was.
    have hafter := hstart.after calls
    refine ⟨hafter.cursor_eq, ?_⟩
    have hsource := (Session.after_mirrored (Session.placed_ofTokens as) calls).2.source_eq
    have hsource' := (Session.after_mirrored (Session.placed_ofTokens bs) calls).2.source_eq
    have halike := hafter.run.2
    rw [hsource, hsource'] at halike
    rw [Session.after_add]
    exact halike

/-- A function whose sum has no second operand. -/
def unfinishedSum : List Token :=
  [.keyword .int, .ident "f", .mark .lparen, .mark .rparen, .mark .lcurly, .ident "x",
    .mark .assign, .intLit "1", .mark .plus, .mark .semicolon, .mark .rcurly]

/-- The sum on one line. -/
def crowdedSource : String := "int f()\x7bx=1+;\x7d"

/-- The tokens of `crowdedSource`. -/
def crowded : TokenList :=
  ⟨unfinishedSum.zipWith PlacedToken.mk
    [⟨1, 1⟩, ⟨1, 5⟩, ⟨1, 6⟩, ⟨1, 7⟩, ⟨1, 8⟩, ⟨1, 9⟩, ⟨1, 10⟩, ⟨1, 11⟩, ⟨1, 12⟩, ⟨1, 13⟩, ⟨1, 14⟩],
    ⟨1, 15⟩⟩

/-- The sum on five lines, with comments. -/
def spreadSource : String :=
  "int /* result */ f()\n\x7b\n  x = 1\n    + // missing\n    ;\x7d"

/-- The tokens of `spreadSource`. -/
def spread : TokenList :=
  ⟨unfinishedSum.zipWith PlacedToken.mk
    [⟨1, 1⟩, ⟨1, 18⟩, ⟨1, 19⟩, ⟨1, 20⟩, ⟨2, 1⟩, ⟨3, 3⟩, ⟨3, 5⟩, ⟨3, 7⟩, ⟨4, 5⟩, ⟨5, 5⟩, ⟨5, 6⟩],
    ⟨5, 7⟩⟩

/-- Both are refused at the semicolon, which stands on the first line of one and on the last of the
other. -/
theorem parse_alike_crowded_spread :
    tokensOf crowdedSource = .ok crowded ∧ tokensOf spreadSource = .ok spread ∧
      crowded.SameTokens spread ∧
      parse crowdedSource =
        .error ⟨.grammatical .missingExpression (some (.mark .semicolon)), ⟨1, 13⟩⟩ ∧
      Alike crowded spread 9 (parse crowdedSource) (parse spreadSource) ∧
      parse spreadSource =
        .error ⟨.grammatical .missingExpression (some (.mark .semicolon)), ⟨5, 5⟩⟩ := by
  have hcrowded : tokensOf crowdedSource = .ok crowded := by with_unfolding_all rfl
  have hspread : tokensOf spreadSource = .ok spread := by with_unfolding_all rfl
  have hparsed : parse crowdedSource =
      .error ⟨.grammatical .missingExpression (some (.mark .semicolon)), ⟨1, 13⟩⟩ := by
    with_unfolding_all rfl
  have htaken : (Session.ofTokens crowded).run.2.taken = 9 := by with_unfolding_all rfl
  have halike := (parse_alike_of_sameTokens hcrowded hspread rfl).1
  rw [htaken] at halike
  refine ⟨hcrowded, hspread, rfl, hparsed, halike, ?_⟩
  rw [hparsed] at halike
  generalize parse spreadSource = other at halike
  cases halike
  rfl

end SyntaxOutline
