import SyntaxOutline.Proofs.Grammar.ProgramFollows
import SyntaxOutline.Proofs.Grammar.ProgramVerdict
import SyntaxOutline.Proofs.Lexer.Concatenation

/-!
# Parsing one source below another

A declaration is parsed without regard to what follows it, so the declarations of a source that can
be parsed come first, whatever stands below it (`program_append`). The parser has taken all their
tokens and holds no level of nesting open, so it goes on below as it would have started there.
With `tokensOf_append` this gives `parse` of two sources, one below the other, from `parse` of each.
-/

namespace SyntaxOutline

namespace Parser

/-- Declarations that need no more levels than there are come first, whatever follows them. -/
theorem repeatWhile_decls {room : Nat} {ds : List Decl} (h : ∀ d ∈ ds, d.Fits room)
    (ts : List Token) :
    repeatWhile (!·.isEmpty) (declaration room) (ds.flatMap Decl.tokens ++ ts) =
      ds.foldr withFirst (repeatWhile (!·.isEmpty) (declaration room) ts) := by
  induction ds with
  | nil => rfl
  | cons d ds ih =>
    obtain ⟨hd, hds⟩ := List.forall_mem_cons.mp h
    have hverdict := declReadBack hd.canonical room (ds.flatMap Decl.tokens ++ ts)
    rw [within_of_le hd.demand] at hverdict
    have hdecl := verdict_eq_ok hverdict
    have hlt := length_lt_of_declaration hdecl
    have hmore : (!(d.tokens ++ (ds.flatMap Decl.tokens ++ ts)).isEmpty) = true := by
      simp [d.tokens_ne_nil]
    rw [List.flatMap_cons, List.append_assoc, repeatWhile_of_round hmore hdecl hlt, ih hds,
      List.foldr_cons]

/-- Declarations in front of a list that was read come before it. -/
theorem foldr_withFirst_ok {α : Type} (as bs : List α) (rest : List Token) :
    as.foldr withFirst (.ok (bs, rest)) = .ok (as ++ bs, rest) := by
  induction as with
  | nil => rfl
  | cons a as ih => rw [List.foldr_cons, ih, withFirst, List.cons_append]

/-- Declarations in front of a failure do not change the failure. -/
theorem foldr_withFirst_error {α : Type} (as : List α) (f : Failure) :
    as.foldr withFirst (.error f) = .error f := by
  induction as with
  | nil => rfl
  | cons a as ih => rw [List.foldr_cons, ih, withFirst]

/-- Behind a program that was parsed, the parser goes on as it would have started. -/
theorem program_append {room : Nat} {as rest : List Token} {upper : Program}
    (h : program room as = .ok (upper, rest)) (bs : List Token) :
    program room (as ++ bs) =
      match program room bs with
      | .ok (lower, rest) => .ok (⟨upper.decls ++ lower.decls⟩, rest)
      | .error f => .error f := by
  obtain ⟨rfl, -, hfits⟩ := program_ok h
  have hdecls : ∀ d ∈ upper.decls, d.Fits room := by
    intro d hd
    exact ⟨List.all_eq_true.mp hfits.canonical d hd, largest_le.mp hfits.demand d hd⟩
  -- The declarations of the upper part are read again, whatever follows them.
  have hrepeat := repeatWhile_decls hdecls bs
  cases hbs : repeatWhile (!·.isEmpty) (declaration room) bs with
  | ok r =>
    obtain ⟨ds, rest'⟩ := r
    rw [hbs, foldr_withFirst_ok] at hrepeat
    have hlower : program room bs = .ok (⟨ds⟩, rest') := bind_of_ok hbs
    rw [hlower]
    exact bind_of_ok hrepeat
  | error f =>
    rw [hbs, foldr_withFirst_error] at hrepeat
    have hlower : program room bs = .error f := bind_of_error hbs
    rw [hlower]
    exact bind_of_error hrepeat

end Parser

/-! ## Positions -/

/-- Below another source, a session that has as much left is at the same token. -/
theorem Session.positionAt_above (s s' : Session) {upper : TokenList} {lines : Nat}
    (hsource : s'.source = upper.above lines s.source) (hrest : s'.rest = s.rest)
    (hle : s.rest.length ≤ s.source.tokens.length) :
    s'.positionAt s'.taken = (s.positionAt s.taken).below lines := by
  have htaken : s'.taken = upper.tokens.length + s.taken := by
    unfold taken
    rw [hsource, hrest, TokenList.above, List.length_append, List.length_map]
    omega
  have htoken : s'.source.tokens[s'.taken]? =
      s.source.tokens[s.taken]?.map (·.moved (.below lines)) := by
    rw [htaken, hsource, TokenList.above, List.getElem?_append_right (Nat.le_add_right _ _),
      Nat.add_sub_cancel_left, List.getElem?_map]
  unfold positionAt
  rw [htoken, hsource]
  cases s.source.tokens[s.taken]? <;> rfl

/-- The error some lines further down. -/
def SourceError.below (lines : Nat) (e : SourceError) : SourceError :=
  { e with position := e.position.below lines }

/-- Without their positions, the tokens of the two texts stand one behind the other. -/
theorem TokenList.map_token_above (upper : TokenList) (lines : Nat) (lower : TokenList) :
    (upper.above lines lower).tokens.map (·.token) =
      upper.tokens.map (·.token) ++ lower.tokens.map (·.token) := by
  rw [above, List.map_append, List.map_map]
  rfl

namespace Session

/-- A run that succeeds has read its tokens as a program. -/
theorem run_ok {s : Session} {p : Program} (h : s.run.1 = .ok p) :
    ∃ rest, Parser.program s.room s.rest = .ok (p, rest) := by
  unfold run at h
  split at h
  · next q rest hq =>
    cases h
    exact ⟨rest, hq⟩
  · cases h

/-- Below a list of tokens that can be parsed, another is parsed as if it were alone. -/
theorem run_above {upper : TokenList} {top : Program} (htop : (ofTokens upper).run.1 = .ok top)
    (lines : Nat) (lower : TokenList) :
    (ofTokens (upper.above lines lower)).run.1 =
      match (ofTokens lower).run.1 with
      | .ok p => .ok ⟨top.decls ++ p.decls⟩
      | .error e => .error (e.below lines) := by
  obtain ⟨rest, htokens⟩ := run_ok htop
  have hupper : Parser.program maxNesting (upper.tokens.map (·.token)) = .ok (top, rest) := htokens
  have hboth := Parser.program_append hupper (lower.tokens.map (·.token))
  rw [← TokenList.map_token_above upper lines lower] at hboth
  cases hlower : Parser.program maxNesting (lower.tokens.map (·.token)) with
  | ok r =>
    rw [hlower] at hboth
    simp only [run, ofTokens, hlower, hboth]
  | error f =>
    rw [hlower] at hboth
    simp only [run, ofTokens, hlower, hboth]
    -- The failure is behind the seam: what it leaves was not taken from the lower tokens.
    have hle : f.rest.length ≤ lower.tokens.length := by
      have := (Parser.program_follows maxNesting).length_left_le (lower.tokens.map (·.token))
      rwa [hlower, List.length_map] at this
    have hposition := positionAt_above ⟨lower, f.rest, maxNesting - f.stillOpen⟩
      ⟨upper.above lines lower, f.rest, maxNesting - f.stillOpen⟩ rfl rfl hle
    rw [hposition]
    rfl

end Session

/-- Below a source that can be parsed, another is parsed as if it were alone: its declarations come
behind those of the first, or it is refused for the same reason at the same place of its own text,
which starts one line below the last line of the first. -/
theorem parse_append_line {a : String} {top : Program} (h : parse a = .ok top) (b : String) :
    parse (a ++ "\n" ++ b) =
      match parse b with
      | .ok p => .ok ⟨top.decls ++ p.decls⟩
      | .error e =>
        .error ⟨e.fault, ⟨e.position.line + (1 + a.toList.count '\n'), e.position.column⟩⟩ := by
  unfold parse Session.ofSource at h ⊢
  cases ha : tokensOf a with
  | error e =>
    rw [ha] at h
    cases h
  | ok upper =>
    rw [ha] at h
    rw [tokensOf_append ha b]
    cases tokensOf b with
    | error e => rfl
    | ok lower => exact Session.run_above h (1 + a.toList.count '\n') lower

/-- A comment ends with the line that is added behind it. What stands below is parsed, refused by
the grammar or refused by the lexer as it is alone, two lines further down. -/
theorem parse_append_line_comment :
    parse "int x;\n//" = .ok ⟨[.var ⟨.int, "x", none⟩]⟩ ∧
      parse ("int x;\n//" ++ "\n" ++ "int y;") =
        .ok ⟨[.var ⟨.int, "x", none⟩, .var ⟨.int, "y", none⟩]⟩ ∧
      parse ("int x;\n//" ++ "\n" ++ "int 1;") =
        .error ⟨.grammatical .missingIdentifier (some (.intLit "1")), ⟨3, 5⟩⟩ ∧
      parse ("int x;\n//" ++ "\n" ++ "int y;/*") =
        .error ⟨.lexical .unterminatedComment, ⟨3, 7⟩⟩ := by
  have htop : parse "int x;\n//" = .ok ⟨[.var ⟨.int, "x", none⟩]⟩ := by with_unfolding_all rfl
  have hparsed : parse "int y;" = .ok ⟨[.var ⟨.int, "y", none⟩]⟩ := by with_unfolding_all rfl
  have hrefused : parse "int 1;" =
      .error ⟨.grammatical .missingIdentifier (some (.intLit "1")), ⟨1, 5⟩⟩ := by
    with_unfolding_all rfl
  have hunread : parse "int y;/*" = .error ⟨.lexical .unterminatedComment, ⟨1, 7⟩⟩ := by
    with_unfolding_all rfl
  refine ⟨htop, ?_, ?_, ?_⟩
  · rw [parse_append_line htop, hparsed]
    rfl
  · rw [parse_append_line htop, hrefused]
    rfl
  · rw [parse_append_line htop, hunread]
    rfl

end SyntaxOutline
