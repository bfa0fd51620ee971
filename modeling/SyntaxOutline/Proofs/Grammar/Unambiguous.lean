import SyntaxOutline.Program.Equality
import SyntaxOutline.Proofs.Grammar.ProgramVerdict
import SyntaxOutline.Proofs.Program.Subexpressions

/-!
# Precedence leaves one tree

A sequence of tokens is that of at most one program whose operators keep to their precedence: the
parser reads each such program back from its tokens when there is room for its levels, so with room
for two of them it would give both. The program that `parse` gives is that one.
-/

namespace SyntaxOutline

/-- Programs with the same tokens whose operators keep to their precedence are the same, whatever
levels they need. -/
theorem Program.eq_of_tokens {p q : Program} (hp : p.KeepsPrecedence) (hq : q.KeepsPrecedence)
    (h : p.tokens = q.tokens) : p = q := by
  have hp' := Parser.verdict_program ((Program.isCanonical_iff_subexprs p).mpr hp)
    (max p.demand q.demand)
  have hq' := Parser.verdict_program ((Program.isCanonical_iff_subexprs q).mpr hq)
    (max p.demand q.demand)
  rw [Parser.within_of_le (Nat.le_max_left ..), h] at hp'
  rw [Parser.within_of_le (Nat.le_max_right ..), hp'] at hq'
  cases hq'
  rfl

/-- In the program that a source spells all operators keep to their precedence, and no other program
with the tokens of the source is such. No two programs at all that are such have the same tokens. -/
theorem parse_only_keepsPrecedence :
    (∀ (source : String) (p : Program), parse source = .ok p →
      p.KeepsPrecedence ∧ tokenKinds? source = some p.tokens ∧
        ∀ q : Program, q.KeepsPrecedence → tokenKinds? source = some q.tokens → q = p) ∧
    ∀ p q : Program, p.KeepsPrecedence → q.KeepsPrecedence → p.tokens = q.tokens → p = q := by
  refine ⟨fun source p h => ?_, fun p q => Program.eq_of_tokens⟩
  obtain ⟨htokens, hfits⟩ := parse_ok h
  have hp := (Program.isCanonical_iff_subexprs p).mp hfits.canonical
  refine ⟨hp, htokens, fun q hq hq' => Program.eq_of_tokens hq hp ?_⟩
  rw [htokens] at hq'
  exact (Option.some.inj hq').symm

/-- A function that assigns a value to a variable. -/
def assigning (value : Expr) : Program :=
  ⟨[.function .void "f" [] ⟨[], [.assign ⟨.var "x", value⟩]⟩]⟩

/-- The source of a value in which two marks stand both between operands and in front of them. -/
def mixedSource : String := "void f()\x7bx=a&-b-c-d*e<g&&h;\x7d"

/-- The program that `mixedSource` spells. -/
def mixed : Program :=
  assigning (.binary .bitAnd
    (.binary .bitAnd (.place (.var "a"))
      (.binary .less
        (.binary .minus
          (.binary .minus (.unary .negate (.place (.var "b"))) (.place (.var "c")))
          (.binary .times (.place (.var "d")) (.place (.var "e"))))
        (.place (.var "g"))))
    (.unary .addressOf (.place (.var "h"))))

/-- The same tokens, with the differences grouped from the right below the sign. -/
def mixedRegrouped : Program :=
  assigning (.binary .bitAnd
    (.binary .bitAnd (.place (.var "a"))
      (.binary .less
        (.unary .negate (.binary .minus (.place (.var "b"))
          (.binary .minus (.place (.var "c"))
            (.binary .times (.place (.var "d")) (.place (.var "e"))))))
        (.place (.var "g"))))
    (.unary .addressOf (.place (.var "h"))))

/-- What groups the tokens of `mixedSource` otherwise does not keep to precedence. -/
theorem parse_only_keepsPrecedence_mixed :
    parse mixedSource = .ok mixed ∧ mixed.KeepsPrecedence ∧
      mixedRegrouped.tokens = mixed.tokens ∧ ¬ mixedRegrouped.KeepsPrecedence := by
  have h : parse mixedSource = .ok mixed :=
    parse_of_demand_le (by decide +kernel) (by decide +kernel) (by decide +kernel)
  obtain ⟨hkeeps, -⟩ := parse_only_keepsPrecedence.1 mixedSource mixed h
  refine ⟨h, hkeeps, rfl, fun hregrouped => ?_⟩
  have hsame := parse_only_keepsPrecedence.2 mixedRegrouped mixed hregrouped hkeeps rfl
  exact absurd hsame (by decide +kernel)

end SyntaxOutline
