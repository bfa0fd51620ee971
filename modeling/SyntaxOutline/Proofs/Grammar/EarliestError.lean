import SyntaxOutline.Proofs.Grammar.Derived
import SyntaxOutline.Proofs.Grammar.ProgramFollows
import SyntaxOutline.Proofs.Grammar.ProgramVerdict

/-!
# Where a source is refused

A fault of the grammar is reported at the first token that no program has there. The tokens before
it can be completed to a program, so an earlier report would be wrong about them; with the refused
token they no longer can, so a later one would have read on in vain.

The first half is what the parser follows (`program_follows`). For the second, assume some program
goes on with the refused token: the parser does there what it did in front of that token, so it
fails on a program, and that happens only when its nesting is too deep (`fault_of_mem_words`).
-/

namespace SyntaxOutline

open Grammar

/-- No program starts with `used` and has `next?` behind it, `none` standing for the end. -/
def NoProgram (used : List Token) : Option Token → Prop
  | none => used ∉ Nonterminal.program.words
  | some t => ∀ more, used ++ t :: more ∉ Nonterminal.program.words

namespace Parser

/-- A program of the grammar is refused for its nesting only. -/
theorem fault_of_mem_words {room : Nat} {w : List Token} {f : Failure}
    (hw : w ∈ Nonterminal.program.words) (h : program room w = .error f) :
    f.fault = .nestingTooDeep := by
  obtain ⟨p, hc, rfl⟩ := exists_program hw
  have hverdict := verdict_program hc room
  by_cases hd : p.demand ≤ room
  · rw [within_of_le hd] at hverdict
    have hok := verdict_eq_ok hverdict
    rw [h] at hok
    cases hok
  · rw [within_of_lt (Nat.not_le.mp hd)] at hverdict
    obtain ⟨f', hf', hfault⟩ := verdict_eq_error hverdict
    rw [h] at hf'
    cases hf'
    exact hfault

/-- Where the parser fails, no word of the grammar goes on as its source does: such a word is the
word of a program, and the parser reads programs. -/
theorem noProgram_of_program_error {room : Nat} {used : List Token} {f : Failure}
    (h : program room (used ++ f.rest) = .error f) (hf : f.fault ≠ .nestingTooDeep) :
    NoProgram used f.rest.head? := by
  cases hrest : f.rest with
  | nil =>
    intro hw
    rw [hrest, List.append_nil] at h
    exact hf (fault_of_mem_words hw h)
  | cons t rest =>
    intro more hw
    rw [hrest] at h
    -- The same failure, with other tokens behind the refused one.
    have hleft : left (program room (used ++ t :: rest)) = [] ++ t :: rest := by
      rw [h]
      exact hrest
    have hsame : program room (used ++ t :: more) = .error { f with rest := t :: more } := by
      rw [(program_follows room).early used [] rest more t hleft, h]
      rfl
    exact hf (fault_of_mem_words hw hsame :)

/-- A failure is as late as it can be: what was taken can be completed, and with the token that was
refused it no longer can. -/
theorem program_error_earliest {room : Nat} {ts : List Token} {f : Failure}
    (h : program room ts = .error f) (hf : f.fault ≠ .nestingTooDeep) :
    ∃ used, ts = used ++ f.rest ∧ Completes Nonterminal.program.words used ∧
      NoProgram used f.rest.head? := by
  obtain ⟨used, hts, hkeeps⟩ := (program_follows room).keeps ts
  rw [h] at hts hkeeps
  have hts' : ts = used ++ f.rest := hts
  rw [hts'] at h
  exact ⟨used, hts', hkeeps hf, noProgram_of_program_error h hf⟩

end Parser

namespace Session

/-- The tokens that have been taken. -/
def used (s : Session) : List Token := (s.source.tokens.take s.taken).map (·.token)

/-- The token that is next, `none` at the end of the source. -/
def next? (s : Session) : Option PlacedToken := s.source.tokens[s.taken]?

/-- Tokens are taken from the front. -/
theorem used_next_of_append {s : Session} {ts : List Token}
    (h : s.source.tokens.map (·.token) = ts ++ s.rest) :
    s.used = ts ∧ s.next?.map (·.token) = s.rest.head? := by
  have hlength := congrArg List.length h
  rw [List.length_map, List.length_append] at hlength
  have htaken : s.taken = ts.length := by
    rw [taken]
    omega
  rw [used, next?, htaken]
  constructor
  · rw [List.map_take, h, List.take_left]
  · rw [← List.getElem?_map, h, List.getElem?_append_right (Nat.le_refl _), Nat.sub_self,
      List.head?_eq_getElem?]

/-- The position of a failure is that of the next token, or that of the end. -/
theorem positionAt_taken (s : Session) :
    s.positionAt s.taken = (s.next?.map (·.position)).getD s.source.finish := by
  unfold positionAt next?
  split
  · next t h =>
    rw [h]
    rfl
  · next h =>
    rw [h]
    rfl

/-- A session starts with all tokens of its source. -/
theorem ofSource_ok {source : String} {s : Session} (h : ofSource source = .ok s) :
    tokensOf source = .ok s.source ∧ s.rest = s.source.tokens.map (·.token) := by
  unfold ofSource at h
  split at h
  · next list hlist =>
    cases h
    exact ⟨hlist, rfl⟩
  · cases h

/-- A run that fails reports the fault of the parser, with the token and the position that are
next. -/
theorem run_error {s left : Session} {e : SourceError} (h : s.run = (.error e, left)) :
    ∃ f, Parser.program s.room s.rest = .error f ∧ left.source = s.source ∧ left.rest = f.rest ∧
      e = ⟨.grammatical f.fault f.rest.head?, left.positionAt left.taken⟩ := by
  unfold run at h
  split at h
  · cases h
  · next f hf =>
    cases h
    exact ⟨f, hf, rfl, rfl, rfl⟩

end Session

/-- A fault of the grammar is reported at the token that is next when the parser stops, and the
message ends with that token. The tokens before it can be completed to a program; together with it
they cannot, and at the end of the source they are not a program. -/
theorem run_error_at_earliest_token {source : String} {s left : Session} {e : SourceError}
    (hs : Session.ofSource source = .ok s) (hrun : s.run = (.error e, left))
    (hnesting : ∀ found, e.fault ≠ .grammatical .nestingTooDeep found) :
    tokensOf source = .ok left.source ∧
      e.position = (left.next?.map (·.position)).getD left.source.finish ∧
      (∃ fault : SyntaxFault, e.detail = fault.message ++ ", found " ++
        (left.next?.map (·.token.describe)).getD Token.endDescription) ∧
      Completes Nonterminal.program.words left.used ∧
      NoProgram left.used (left.next?.map (·.token)) := by
  obtain ⟨f, hf, hsource, hrest, rfl⟩ := Session.run_error hrun
  obtain ⟨hlist, hall⟩ := Session.ofSource_ok hs
  have hfault : f.fault ≠ .nestingTooDeep := by
    intro heq
    exact hnesting f.rest.head? (by rw [heq])
  obtain ⟨ts, hts, hcompletes, hnone⟩ := Parser.program_error_earliest hf hfault
  have htokens : left.source.tokens.map (·.token) = ts ++ left.rest := by
    rw [hsource, hrest, ← hts, hall]
  -- What was used and what is next are the two ends of the tokens at the place of the fault.
  obtain ⟨hused, hnext⟩ := Session.used_next_of_append htokens
  rw [hrest] at hnext
  refine ⟨hsource ▸ hlist, left.positionAt_taken, ⟨f.fault, ?_⟩, ?_, ?_⟩
  · show f.fault.detail f.rest.head? = _
    rw [SyntaxFault.detail, ← hnext, Option.map_map]
    rfl
  · rw [hused]
    exact hcompletes
  · rw [hused, hnext]
    exact hnone

/-- A function that declares a variable behind a statement. -/
def lateVariableSource : String := "void f()\x7breturn;\nint y;\x7d"

/-- The tokens of `lateVariableSource` in front of the variable. -/
def lateVariableStart : List PlacedToken :=
  [⟨.keyword .void, ⟨1, 1⟩⟩, ⟨.ident "f", ⟨1, 6⟩⟩, ⟨.mark .lparen, ⟨1, 7⟩⟩,
    ⟨.mark .rparen, ⟨1, 8⟩⟩, ⟨.mark .lcurly, ⟨1, 9⟩⟩, ⟨.keyword .return_, ⟨1, 10⟩⟩,
    ⟨.mark .semicolon, ⟨1, 16⟩⟩]

/-- The tokens of `lateVariableSource`. -/
def lateVariable : TokenList :=
  ⟨lateVariableStart ++ [⟨.keyword .int, ⟨2, 1⟩⟩, ⟨.ident "y", ⟨2, 5⟩⟩,
    ⟨.mark .semicolon, ⟨2, 6⟩⟩, ⟨.mark .rcurly, ⟨2, 7⟩⟩], ⟨2, 8⟩⟩

/-- The variable is refused at its type, and nothing that starts with a type could stand there. -/
theorem run_error_at_late_variable :
    Session.ofSource lateVariableSource = .ok (.ofTokens lateVariable) ∧
      (∃ left, (Session.ofTokens lateVariable).run =
        (.error ⟨.grammatical .lateDeclaration (some (.keyword .int)), ⟨2, 1⟩⟩, left)) ∧
      Completes Nonterminal.program.words (lateVariableStart.map (·.token)) ∧
      NoProgram (lateVariableStart.map (·.token)) (some (.keyword .int)) := by
  have hs : Session.ofSource lateVariableSource = .ok (.ofTokens lateVariable) := by
    with_unfolding_all rfl
  have hrun : (Session.ofTokens lateVariable).run =
      (.error ⟨.grammatical .lateDeclaration (some (.keyword .int)), ⟨2, 1⟩⟩,
        ⟨lateVariable, (lateVariable.tokens.drop 7).map (·.token), maxNesting⟩) := by
    with_unfolding_all rfl
  obtain ⟨-, -, -, hcompletes, hnone⟩ := run_error_at_earliest_token hs hrun (by simp)
  exact ⟨hs, ⟨_, hrun⟩, hcompletes, hnone⟩

end SyntaxOutline
