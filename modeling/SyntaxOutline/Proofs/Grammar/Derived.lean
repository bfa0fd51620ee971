import SyntaxOutline.Proofs.Grammar.Rules
import SyntaxOutline.Proofs.Grammar.ProgramReads

/-!
# What the grammar derives

Every list of tokens that the grammar derives for a program is the list of tokens of a program that
keeps to precedence (`exists_program`). The languages of the trees of each kind are closed under the
rules, so they hold all that is derived.

The rule for operands that are joined by a level is a repetition, while a tree joins two operands at
a time, the left one first; the two meet in the law `b * a ≤ b → b * a∗ ≤ b` for repetitions.
-/

namespace SyntaxOutline

namespace Grammar

open scoped Computability

/-- The lists of tokens of all trees that are good. -/
def Spelled {α : Type} (tokens : α → List Token) (good : α → Prop) : Language Token :=
  {w | ∃ a, good a ∧ w = tokens a}

/-- The lists of tokens of the trees that belong to a nonterminal. -/
def trees : Nonterminal → Language Token
  | .program => Spelled Program.tokens (·.isCanonical = true)
  | .decl | .structDecl | .funcDecl | .funcDef => Spelled Decl.tokens (·.isCanonical = true)
  | .varDecl => Spelled VarDecl.tokens fun _ => True
  | .formals => Spelled (separatedBy (.mark .comma) Formal.tokens) fun _ => True
  | .type => Spelled TypeName.tokens fun _ => True
  | .block => Spelled Block.tokens (·.isCanonical = true)
  | .stmt => Spelled Stmt.tokens (·.isCanonical = true)
  | .assign => Spelled Assignment.tokens (·.isCanonical = true)
  | .expr => Spelled Expr.tokens (·.isCanonical = true)
  | .joined level =>
    Spelled Expr.tokens fun e => e.isCanonical = true ∧ e.looseness ≤ level.rank + 1
  | .unary | .term => Spelled Expr.tokens fun e => e.isCanonical = true ∧ e.looseness ≤ 0
  | .loc => Spelled Place.tokens (·.isCanonical = true)
  | .call => Spelled (fun c : Call => (Expr.call c.name c.arguments).tokens)
      (Expr.areCanonical ·.arguments = true)

/-! ## Taking words apart -/

/-- A word that starts with what a tree is written as. -/
theorem mem_spelled_mul {α : Type} {tokens : α → List Token} {good : α → Prop}
    {l : Language Token} {w : List Token} :
    w ∈ Spelled tokens good * l ↔ ∃ a, good a ∧ ∃ v ∈ l, w = tokens a ++ v := by
  rw [Language.mem_mul]
  constructor
  · rintro ⟨_, ⟨a, ha, rfl⟩, v, hv, rfl⟩
    exact ⟨a, ha, v, hv, rfl⟩
  · rintro ⟨a, ha, v, hv, rfl⟩
    exact ⟨_, ⟨a, ha, rfl⟩, v, hv, rfl⟩

theorem mem_terminal {a : Terminal} {w : List Token} :
    w ∈ a.words ↔ ∃ t, a.StandsFor t ∧ w = [t] := Iff.rfl

/-- A word that starts with a token of a terminal. -/
theorem mem_terminal_mul {a : Terminal} {l : Language Token} {w : List Token} :
    w ∈ a.words * l ↔ ∃ t, a.StandsFor t ∧ ∃ v ∈ l, w = t :: v := by
  rw [Language.mem_mul]
  constructor
  · rintro ⟨_, ⟨t, ht, rfl⟩, v, hv, rfl⟩
    exact ⟨t, ht, v, hv, rfl⟩
  · rintro ⟨t, ht, v, hv, rfl⟩
    exact ⟨[t], ⟨t, ht, rfl⟩, v, hv, rfl⟩

/-- A terminal for a keyword stands for this keyword only. -/
theorem standsFor_keyword {k : Keyword} {t : Token} :
    (Terminal.keyword k).StandsFor t ↔ t = .keyword k :=
  ⟨fun h => by cases h; rfl, fun h => h ▸ .keyword k⟩

/-- A terminal for a mark stands for this mark only. -/
theorem standsFor_mark {m : Mark} {t : Token} :
    (Terminal.mark m).StandsFor t ↔ t = .mark m :=
  ⟨fun h => by cases h; rfl, fun h => h ▸ .mark m⟩

/-- The terminal for names stands for every name. -/
theorem standsFor_identifier {t : Token} :
    Terminal.identifier.StandsFor t ↔ ∃ name, t = .ident name :=
  ⟨fun h => by cases h; exact ⟨_, rfl⟩, fun ⟨name, h⟩ => h ▸ .identifier name⟩

section Mem

variable {k : Keyword} {m : Mark} {l : Language Token} {w : List Token}

theorem mem_mark : w ∈ (Terminal.mark m).words ↔ w = [.mark m] := by
  simp only [mem_terminal, standsFor_mark, exists_eq_left]

/-- A word that starts with a mark. -/
theorem mem_mark_mul : w ∈ (Terminal.mark m).words * l ↔ ∃ v ∈ l, w = .mark m :: v := by
  simp only [mem_terminal_mul, standsFor_mark, exists_eq_left]

theorem mem_keyword : w ∈ (Terminal.keyword k).words ↔ w = [.keyword k] := by
  simp only [mem_terminal, standsFor_keyword, exists_eq_left]

/-- A word that starts with a keyword. -/
theorem mem_keyword_mul : w ∈ (Terminal.keyword k).words * l ↔ ∃ v ∈ l, w = .keyword k :: v := by
  simp only [mem_terminal_mul, standsFor_keyword, exists_eq_left]

/-- The words of the terminal for names. -/
theorem mem_identifier : w ∈ Terminal.identifier.words ↔ ∃ name, w = [.ident name] := by
  rw [mem_terminal]
  constructor
  · rintro ⟨t, ht, rfl⟩
    obtain ⟨name, rfl⟩ := standsFor_identifier.mp ht
    exact ⟨name, rfl⟩
  · rintro ⟨name, rfl⟩
    exact ⟨_, .identifier name, rfl⟩

/-- A word that starts with a name. -/
theorem mem_identifier_mul :
    w ∈ Terminal.identifier.words * l ↔ ∃ name, ∃ v ∈ l, w = .ident name :: v := by
  rw [mem_terminal_mul]
  constructor
  · rintro ⟨t, ht, v, hv, rfl⟩
    obtain ⟨name, rfl⟩ := standsFor_identifier.mp ht
    exact ⟨name, v, hv, rfl⟩
  · rintro ⟨name, v, hv, rfl⟩
    exact ⟨_, .identifier name, v, hv, rfl⟩

end Mem

/-- A repetition of trees is a list of trees. -/
theorem mem_spelled_kstar {α : Type} {tokens : α → List Token} {good : α → Prop}
    {w : List Token} (h : w ∈ (Spelled tokens good)∗) :
    ∃ as : List α, (∀ a ∈ as, good a) ∧ w = as.flatMap tokens := by
  obtain ⟨ws, rfl, hws⟩ := Language.mem_kstar.mp h
  clear h
  induction ws with
  | nil => exact ⟨[], nofun, rfl⟩
  | cons w ws ih =>
    obtain ⟨⟨a, ha, rfl⟩, hrest⟩ := List.forall_mem_cons.mp hws
    obtain ⟨as, has, hflat⟩ := ih hrest
    refine ⟨a :: as, List.forall_mem_cons.mpr ⟨ha, has⟩, ?_⟩
    rw [List.flatten_cons, hflat, List.flatMap_cons]

/-- None, one or more trees with commas between them. -/
theorem mem_spelled_list {α : Type} {tokens : α → List Token} {good : α → Prop} {w : List Token}
    (h : w ∈ Spelled tokens good * ((Terminal.mark .comma).words * Spelled tokens good)∗ + 1) :
    ∃ as : List α, (∀ a ∈ as, good a) ∧ w = separatedBy (.mark .comma) tokens as := by
  have hcomma : (Terminal.mark .comma).words * Spelled tokens good ≤
      Spelled (fun a => .mark .comma :: tokens a) good := by
    refine le_of_mem fun w hw => ?_
    obtain ⟨_, ⟨a, ha, rfl⟩, rfl⟩ := mem_mark_mul.mp hw
    exact ⟨a, ha, rfl⟩
  rcases (Language.mem_add ..).mp h with h | h
  · obtain ⟨a, ha, v, hv, rfl⟩ := mem_spelled_mul.mp h
    obtain ⟨as, has, rfl⟩ := mem_spelled_kstar (kstar_mono hcomma hv)
    exact ⟨a :: as, List.forall_mem_cons.mpr ⟨ha, has⟩, rfl⟩
  · exact ⟨[], nofun, (Language.mem_one w).mp h⟩

/-- A tree that may be missing. -/
theorem mem_spelled_optional {α : Type} {tokens : α → List Token} {good : α → Bool}
    {w : List Token} (h : w ∈ Spelled tokens (good · = true) + 1) :
    ∃ a? : Option α, a?.all good = true ∧ w = (a?.map tokens).getD [] := by
  rcases (Language.mem_add ..).mp h with ⟨a, ha, rfl⟩ | h
  · exact ⟨some a, ha, rfl⟩
  · exact ⟨none, rfl, (Language.mem_one w).mp h⟩

/-! ## Expressions -/

/-- The operands of a level are joined more tightly than the level joins. -/
theorem trees_operandOf_le (level : Level) :
    trees (operandOf level) ≤
      Spelled Expr.tokens fun e => e.isCanonical = true ∧ e.looseness ≤ level.rank := by
  refine le_of_mem fun w hw => ?_
  unfold operandOf at hw
  split at hw
  · next tighter h =>
    obtain ⟨e, ⟨hc, hl⟩, rfl⟩ := hw
    have hlt := Level.rank_lt_of_tighter? h
    exact ⟨e, ⟨hc, by omega⟩, rfl⟩
  · obtain ⟨e, ⟨hc, hl⟩, rfl⟩ := hw
    exact ⟨e, ⟨hc, by omega⟩, rfl⟩

/-- The rule of a chain: what it joins is a tree with the operators grouped from the left, so each
further operator takes the chain so far as its first operand. -/
theorem joined_closed (level : Level) :
    (rule (.joined level)).denote trees ≤ trees (.joined level) := by
  have hoperand := trees_operandOf_le level
  have hfirst : trees (operandOf level) ≤ trees (.joined level) := by
    refine le_of_mem fun w hw => ?_
    obtain ⟨e, ⟨hc, hl⟩, rfl⟩ := hoperand hw
    exact ⟨e, ⟨hc, by omega⟩, rfl⟩
  -- One more operator with its operand behind a tree makes a tree of the same level.
  have hmore : trees (.joined level) *
      ((Terminal.operator level).words * trees (operandOf level)) ≤ trees (.joined level) := by
    refine le_of_mem fun w hw => ?_
    obtain ⟨left, ⟨hlc, hll⟩, v, hv, rfl⟩ := mem_spelled_mul.mp hw
    obtain ⟨t, ht, _, hright, rfl⟩ := mem_terminal_mul.mp hv
    obtain ⟨right, ⟨hrc, hrl⟩, rfl⟩ := hoperand hright
    cases ht with
    | operator op =>
      refine ⟨.binary op left right, ⟨?_, Nat.le_refl _⟩, by rw [Expr.tokens]⟩
      simp [Expr.isCanonical, hlc, hll, hrc, hrl]
  exact le_trans (mul_le_mul_left hfirst _) (mul_kstar_le_self hmore)

/-- The rule of an operator in front of an operand. -/
theorem unary_closed : (rule .unary).denote trees ≤ trees .unary := by
  refine add_le (le_of_mem fun w hw => ?_) le_rfl
  obtain ⟨t, ht, _, ⟨e, ⟨hc, hl⟩, rfl⟩, rfl⟩ := mem_terminal_mul.mp hw
  cases ht with
  | unaryOperator op =>
    refine ⟨.unary op e, ⟨?_, Nat.le_refl _⟩, by rw [Expr.tokens]⟩
    simp [Expr.isCanonical, hc, Nat.le_zero.mp hl]

/-- The rule of a call: the arguments are the elements of a list with commas. -/
theorem call_closed : (rule .call).denote trees ≤ trees .call := by
  refine le_of_mem fun w hw => ?_
  simp only [rule, denote_mul, denote_identifier, denote_mark, denote_list, denote_nonterminal,
    mul_assoc, mem_identifier_mul, mem_mark_mul] at hw
  obtain ⟨name, _, ⟨v, hv, rfl⟩, rfl⟩ := hw
  obtain ⟨arguments, harguments, _, hclose, rfl⟩ := Language.mem_mul.mp hv
  obtain ⟨es, hes, rfl⟩ := mem_spelled_list harguments
  refine ⟨⟨name, es⟩, (Expr.areCanonical_iff es).mpr hes, ?_⟩
  show _ = (Expr.call name es).tokens
  rw [Expr.tokens, Expr.tokensList_eq, mem_mark.mp hclose]

/-- The rule of a place: each index and each field takes the place so far as its base. -/
theorem loc_closed : (rule .loc).denote trees ≤ trees .loc := by
  have hname : Terminal.identifier.words ≤ trees .loc := by
    refine le_of_mem fun w hw => ?_
    obtain ⟨name, rfl⟩ := mem_identifier.mp hw
    exact ⟨.var name, rfl, by rw [Place.tokens]⟩
  have hindex : trees .loc * ((Terminal.mark .lbracket).words * trees .expr *
      (Terminal.mark .rbracket).words) ≤ trees .loc := by
    refine le_of_mem fun w hw => ?_
    obtain ⟨base, hbase, v, hv, rfl⟩ := mem_spelled_mul.mp hw
    rw [mul_assoc] at hv
    obtain ⟨v', hv', rfl⟩ := mem_mark_mul.mp hv
    obtain ⟨index, hindex, _, hclose, rfl⟩ := mem_spelled_mul.mp hv'
    refine ⟨.element base index, ?_, by rw [Place.tokens, mem_mark.mp hclose]⟩
    show (Place.element base index).isCanonical = true
    rw [Place.isCanonical, hbase, hindex]
    rfl
  have hfield : trees .loc * ((Terminal.mark .dot).words * Terminal.identifier.words) ≤
      trees .loc := by
    refine le_of_mem fun w hw => ?_
    obtain ⟨base, hbase, v, hv, rfl⟩ := mem_spelled_mul.mp hw
    obtain ⟨v', hv', rfl⟩ := mem_mark_mul.mp hv
    obtain ⟨name, rfl⟩ := mem_identifier.mp hv'
    refine ⟨.field base name, ?_, by rw [Place.tokens]⟩
    show (Place.field base name).isCanonical = true
    rw [Place.isCanonical]
    exact hbase
  -- The places are closed under one more suffix, so under any number of them.
  refine le_trans (mul_le_mul_left hname _) (mul_kstar_le_self ?_)
  rw [denote_add, mul_add]
  exact add_le hindex hfield

/-- The rule of an operand, one alternative after the other. -/
theorem term_closed : (rule .term).denote trees ≤ trees .term := by
  refine le_of_mem fun w hw => ?_
  simp only [rule, denote_mul, denote_add, denote_terminal, denote_keyword, denote_mark,
    denote_identifier, denote_nonterminal, mul_assoc, Language.mem_add, mem_keyword,
    mem_keyword_mul, mem_mark_mul, mem_identifier_mul, mem_mark] at hw
  -- In the order of the alternatives of the rule.
  obtain ((((((((((hint | hreal) | hstring) | hchar) | rfl) | rfl) | rfl) | hsizeof) |
    hbounded) | hcall) | hloc) := hw
  · obtain ⟨_, ht, rfl⟩ := mem_terminal.mp hint
    cases ht with
    | intLiteral text => exact ⟨.int ⟨text⟩, ⟨rfl, Nat.le_refl _⟩, rfl⟩
  · obtain ⟨_, ht, rfl⟩ := mem_terminal.mp hreal
    cases ht with
    | realLiteral text => exact ⟨.real ⟨text⟩, ⟨rfl, Nat.le_refl _⟩, rfl⟩
  · obtain ⟨_, ht, rfl⟩ := mem_terminal.mp hstring
    cases ht with
    | stringLiteral text => exact ⟨.string text, ⟨rfl, Nat.le_refl _⟩, rfl⟩
  · obtain ⟨_, ht, rfl⟩ := mem_terminal.mp hchar
    cases ht with
    | charLiteral text => exact ⟨.char text, ⟨rfl, Nat.le_refl _⟩, rfl⟩
  · exact ⟨.true_, ⟨rfl, Nat.le_refl _⟩, rfl⟩
  · exact ⟨.false_, ⟨rfl, Nat.le_refl _⟩, rfl⟩
  · exact ⟨.null, ⟨rfl, Nat.le_refl _⟩, rfl⟩
  · obtain ⟨_, ⟨_, ⟨name, _, rfl, rfl⟩, rfl⟩, rfl⟩ := hsizeof
    exact ⟨.sizeof name, ⟨rfl, Nat.le_refl _⟩, rfl⟩
  · obtain ⟨v, hv, rfl⟩ := hbounded
    obtain ⟨inner, hinner, _, hclose, rfl⟩ := mem_spelled_mul.mp hv
    refine ⟨.bounded inner, ⟨?_, Nat.le_refl _⟩, by rw [Expr.tokens, mem_mark.mp hclose]⟩
    rw [Expr.isCanonical]
    exact hinner
  · obtain ⟨c, hc, rfl⟩ := hcall
    refine ⟨.call c.name c.arguments, ⟨?_, Nat.le_refl _⟩, rfl⟩
    rw [Expr.isCanonical]
    exact hc
  · obtain ⟨p, hp, rfl⟩ := hloc
    refine ⟨.place p, ⟨?_, Nat.le_refl _⟩, by rw [Expr.tokens]⟩
    rw [Expr.isCanonical]
    exact hp

/-- An expression is a chain of the loosest precedence. -/
theorem expr_closed : (rule .expr).denote trees ≤ trees .expr := by
  refine le_of_mem fun w hw => ?_
  obtain ⟨e, ⟨hc, -⟩, rfl⟩ := hw
  exact ⟨e, hc, rfl⟩

/-! ## Statements -/

/-- The rule of a type. -/
theorem type_closed : (rule .type).denote trees ≤ trees .type := by
  refine le_of_mem fun w hw => ?_
  simp only [rule, denote_add, denote_mul, denote_keyword, denote_identifier, Language.mem_add,
    mem_keyword, mem_keyword_mul, mem_identifier] at hw
  obtain (((((rfl | rfl) | rfl) | rfl) | rfl) | ⟨_, ⟨name, rfl⟩, rfl⟩) := hw
  · exact ⟨.int, trivial, rfl⟩
  · exact ⟨.bool, trivial, rfl⟩
  · exact ⟨.double, trivial, rfl⟩
  · exact ⟨.void, trivial, rfl⟩
  · exact ⟨.char, trivial, rfl⟩
  · exact ⟨.struct name, trivial, rfl⟩

/-- The rule of a variable, with or without the size of an array. -/
theorem varDecl_closed : (rule .varDecl).denote trees ≤ trees .varDecl := by
  refine le_of_mem fun w hw => ?_
  simp only [rule, denote_mul, denote_nonterminal, denote_identifier, denote_optional, denote_mark,
    denote_terminal, mul_assoc] at hw
  obtain ⟨type, -, v, hv, rfl⟩ := mem_spelled_mul.mp hw
  obtain ⟨name, v', hv', rfl⟩ := mem_identifier_mul.mp hv
  obtain ⟨size, hsize, _, hend, rfl⟩ := Language.mem_mul.mp hv'
  rw [mem_mark.mp hend]
  rcases (Language.mem_add ..).mp hsize with hsize | hsize
  · obtain ⟨_, htext, rfl⟩ := mem_mark_mul.mp hsize
    obtain ⟨_, ht, _, hclose, rfl⟩ := mem_terminal_mul.mp htext
    rw [mem_mark.mp hclose]
    cases ht with
    | intLiteral text => exact ⟨⟨type, name, some ⟨text⟩⟩, trivial, rfl⟩
  · rw [(Language.mem_one size).mp hsize]
    exact ⟨⟨type, name, none⟩, trivial, rfl⟩

/-- The rule of an assignment. -/
theorem assign_closed : (rule .assign).denote trees ≤ trees .assign := by
  refine le_of_mem fun w hw => ?_
  simp only [rule, denote_mul, denote_mark, denote_nonterminal, mul_assoc] at hw
  obtain ⟨p, hp, v, hv, rfl⟩ := mem_spelled_mul.mp hw
  obtain ⟨_, ⟨value, hvalue, rfl⟩, rfl⟩ := mem_mark_mul.mp hv
  refine ⟨⟨p, value⟩, ?_, rfl⟩
  simp only [Assignment.isCanonical, hp, hvalue, Bool.and_self]

/-- The rule of a block: variables, then statements. -/
theorem block_closed : (rule .block).denote trees ≤ trees .block := by
  refine le_of_mem fun w hw => ?_
  simp only [rule, denote_mul, denote_mark, denote_kstar, denote_nonterminal, mul_assoc,
    mem_mark_mul] at hw
  obtain ⟨v, hv, rfl⟩ := hw
  obtain ⟨_, hdecls, v', hv', rfl⟩ := Language.mem_mul.mp hv
  obtain ⟨_, hstmts, _, hclose, rfl⟩ := Language.mem_mul.mp hv'
  obtain ⟨decls, -, rfl⟩ := mem_spelled_kstar hdecls
  obtain ⟨stmts, hcanonical, rfl⟩ := mem_spelled_kstar hstmts
  refine ⟨⟨decls, stmts⟩, ?_, ?_⟩
  · show (Block.mk decls stmts).isCanonical = true
    rw [Block.isCanonical]
    exact (Stmt.areCanonical_iff stmts).mpr hcanonical
  · rw [Block.tokens, Stmt.tokensAll_eq, mem_mark.mp hclose]

/-- A condition in its parentheses, and what follows it. -/
theorem mem_condition_mul {k : Keyword} {l : Language Token} {w : List Token}
    (h : w ∈ (Terminal.keyword k).words * ((Terminal.mark .lparen).words *
      (trees .expr * ((Terminal.mark .rparen).words * l)))) :
    ∃ c : Expr, c.isCanonical = true ∧ ∃ v ∈ l, w = Stmt.conditionTokens k c ++ v := by
  obtain ⟨_, hopen, rfl⟩ := mem_keyword_mul.mp h
  obtain ⟨_, hexpr, rfl⟩ := mem_mark_mul.mp hopen
  obtain ⟨c, hc, _, hclose, rfl⟩ := mem_spelled_mul.mp hexpr
  obtain ⟨v, hv, rfl⟩ := mem_mark_mul.mp hclose
  exact ⟨c, hc, v, hv, by simp [Stmt.conditionTokens]⟩

/-- The rule of a statement, one alternative after the other. -/
theorem stmt_closed : (rule .stmt).denote trees ≤ trees .stmt := by
  refine le_of_mem fun w hw => ?_
  simp only [rule, denote_add, denote_mul, denote_keyword, denote_mark, denote_optional,
    denote_nonterminal, mul_assoc, Language.mem_add] at hw
  -- In the order of the alternatives of the rule.
  obtain (((((hassign | hcall) | hif) | hfor) | hwhile) | hreturn) := hw
  · obtain ⟨a, ha, _, hend, rfl⟩ := mem_spelled_mul.mp hassign
    refine ⟨.assign a, ?_, by rw [Stmt.tokens, mem_mark.mp hend]⟩
    show (Stmt.assign a).isCanonical = true
    rw [Stmt.isCanonical]
    exact ha
  · obtain ⟨c, hc, _, hend, rfl⟩ := mem_spelled_mul.mp hcall
    refine ⟨.call c, ?_, by rw [Stmt.tokens, mem_mark.mp hend]⟩
    show (Stmt.call c).isCanonical = true
    rw [Stmt.isCanonical]
    exact hc
  · obtain ⟨c, hc, _, hthen, rfl⟩ := mem_condition_mul hif
    obtain ⟨body, hbody, v, helse, rfl⟩ := mem_spelled_mul.mp hthen
    rcases (Language.mem_add ..).mp helse with helse | hnone
    · obtain ⟨_, ⟨other, hother, rfl⟩, rfl⟩ := mem_keyword_mul.mp helse
      refine ⟨.ifElse c body other, ?_, by rw [Stmt.tokens]⟩
      show (Stmt.ifElse c body other).isCanonical = true
      rw [Stmt.isCanonical, hc, hbody, hother]
      rfl
    · rw [(Language.mem_one v).mp hnone, List.append_nil]
      refine ⟨.ifThen c body, ?_, by rw [Stmt.tokens]⟩
      show (Stmt.ifThen c body).isCanonical = true
      rw [Stmt.isCanonical, hc, hbody]
      rfl
  · obtain ⟨_, hopen, rfl⟩ := mem_keyword_mul.mp hfor
    obtain ⟨_, hhead, rfl⟩ := mem_mark_mul.mp hopen
    obtain ⟨_, hstart, _, hfirst, rfl⟩ := Language.mem_mul.mp hhead
    obtain ⟨start?, hstart?, rfl⟩ := mem_spelled_optional hstart
    obtain ⟨_, hcond, rfl⟩ := mem_mark_mul.mp hfirst
    obtain ⟨c, hc, _, hsecond, rfl⟩ := mem_spelled_mul.mp hcond
    obtain ⟨_, hlast, rfl⟩ := mem_mark_mul.mp hsecond
    obtain ⟨_, hstep, _, hclose, rfl⟩ := Language.mem_mul.mp hlast
    obtain ⟨step?, hstep?, rfl⟩ := mem_spelled_optional hstep
    obtain ⟨_, ⟨body, hbody, rfl⟩, rfl⟩ := mem_mark_mul.mp hclose
    refine ⟨.forLoop start? c step? body, ?_, by rw [Stmt.tokens]; rfl⟩
    show (Stmt.forLoop start? c step? body).isCanonical = true
    rw [Stmt.isCanonical, hstart?, hc, hstep?, hbody]
    rfl
  · obtain ⟨c, hc, _, ⟨body, hbody, rfl⟩, rfl⟩ := mem_condition_mul hwhile
    refine ⟨.whileLoop c body, ?_, by rw [Stmt.tokens]⟩
    show (Stmt.whileLoop c body).isCanonical = true
    rw [Stmt.isCanonical, hc, hbody]
    rfl
  · obtain ⟨_, hrest, rfl⟩ := mem_keyword_mul.mp hreturn
    obtain ⟨_, hvalue, _, hend, rfl⟩ := Language.mem_mul.mp hrest
    obtain ⟨value?, hvalue?, rfl⟩ := mem_spelled_optional hvalue
    refine ⟨.return_ value?, ?_, by rw [Stmt.tokens, mem_mark.mp hend]; rfl⟩
    show (Stmt.return_ value?).isCanonical = true
    rw [Stmt.isCanonical]
    exact hvalue?

/-! ## Declarations -/

/-- The rule of a struct. -/
theorem structDecl_closed : (rule .structDecl).denote trees ≤ trees .structDecl := by
  refine le_of_mem fun w hw => ?_
  simp only [rule, denote_mul, denote_keyword, denote_identifier, denote_mark, denote_kstar,
    denote_nonterminal, mul_assoc] at hw
  obtain ⟨_, hname, rfl⟩ := mem_keyword_mul.mp hw
  obtain ⟨name, _, hopen, rfl⟩ := mem_identifier_mul.mp hname
  obtain ⟨_, hbody, rfl⟩ := mem_mark_mul.mp hopen
  obtain ⟨_, hfields, _, hclose, rfl⟩ := Language.mem_mul.mp hbody
  obtain ⟨fields, -, rfl⟩ := mem_spelled_kstar hfields
  obtain ⟨_, hend, rfl⟩ := mem_mark_mul.mp hclose
  exact ⟨.struct name fields, rfl, by rw [Decl.tokens, mem_mark.mp hend]⟩

/-- The rule of parameters, of which there may be none. -/
theorem formals_closed : (rule .formals).denote trees ≤ trees .formals := by
  refine le_of_mem fun w hw => ?_
  simp only [rule, denote_list, denote_mul, denote_identifier, denote_nonterminal] at hw
  have hformal : trees .type * Terminal.identifier.words =
      Spelled Formal.tokens fun _ => True := by
    ext w
    constructor
    · intro h
      obtain ⟨type, -, _, hname, rfl⟩ := mem_spelled_mul.mp h
      obtain ⟨name, rfl⟩ := mem_identifier.mp hname
      exact ⟨⟨type, name⟩, trivial, rfl⟩
    · intro ⟨f, _, hw⟩
      rw [hw]
      exact Language.append_mem_mul ⟨f.type, trivial, rfl⟩ (mem_identifier.mpr ⟨f.name, rfl⟩)
  rw [hformal] at hw
  obtain ⟨formals, -, rfl⟩ := mem_spelled_list hw
  exact ⟨formals, trivial, rfl⟩

/-- A function up to its parameters, and what follows it. -/
theorem mem_signature_mul {l : Language Token} {w : List Token}
    (h : w ∈ trees .type * (Terminal.identifier.words * ((Terminal.mark .lparen).words *
      (trees .formals * ((Terminal.mark .rparen).words * l))))) :
    ∃ type name formals, ∃ v ∈ l, w = Decl.signatureTokens type name formals ++ v := by
  obtain ⟨type, -, _, hname, rfl⟩ := mem_spelled_mul.mp h
  obtain ⟨name, _, hopen, rfl⟩ := mem_identifier_mul.mp hname
  obtain ⟨_, hformals, rfl⟩ := mem_mark_mul.mp hopen
  obtain ⟨formals, -, _, hclose, rfl⟩ := mem_spelled_mul.mp hformals
  obtain ⟨v, hv, rfl⟩ := mem_mark_mul.mp hclose
  exact ⟨type, name, formals, v, hv, by simp [Decl.signatureTokens]⟩

/-- The rule of a function without a body. -/
theorem funcDecl_closed : (rule .funcDecl).denote trees ≤ trees .funcDecl := by
  refine le_of_mem fun w hw => ?_
  simp only [rule, denote_mul, denote_identifier, denote_mark, denote_nonterminal, mul_assoc] at hw
  obtain ⟨type, name, formals, _, hend, rfl⟩ := mem_signature_mul hw
  exact ⟨.prototype type name formals, rfl, by rw [Decl.tokens, mem_mark.mp hend]⟩

/-- The rule of a function with a body. -/
theorem funcDef_closed : (rule .funcDef).denote trees ≤ trees .funcDef := by
  refine le_of_mem fun w hw => ?_
  simp only [rule, denote_mul, denote_identifier, denote_mark, denote_nonterminal, mul_assoc] at hw
  obtain ⟨type, name, formals, _, ⟨body, hbody, rfl⟩, rfl⟩ := mem_signature_mul hw
  exact ⟨.function type name formals body, hbody, by rw [Decl.tokens]⟩

/-- The rule of a declaration only collects those before. -/
theorem decl_closed : (rule .decl).denote trees ≤ trees .decl := by
  refine add_le (add_le (add_le le_rfl (le_of_mem fun w hw => ?_)) le_rfl) le_rfl
  obtain ⟨v, -, rfl⟩ := hw
  exact ⟨.var v, rfl, rfl⟩

/-- The rule of a program: declarations, one after the other. -/
theorem program_closed : (rule .program).denote trees ≤ trees .program := by
  refine le_of_mem fun w hw => ?_
  obtain ⟨decls, hdecls, rfl⟩ := mem_spelled_kstar hw
  exact ⟨⟨decls⟩, List.all_eq_true.mpr hdecls, rfl⟩

/-- The rules do not lead out of the tokens of trees. -/
theorem trees_closed (s : Nonterminal) : (rule s).denote trees ≤ trees s := by
  cases s with
  | program => exact program_closed
  | decl => exact decl_closed
  | structDecl => exact structDecl_closed
  | varDecl => exact varDecl_closed
  | funcDecl => exact funcDecl_closed
  | funcDef => exact funcDef_closed
  | formals => exact formals_closed
  | type => exact type_closed
  | block => exact block_closed
  | stmt => exact stmt_closed
  | assign => exact assign_closed
  | expr => exact expr_closed
  | joined level => exact joined_closed level
  | unary => exact unary_closed
  | term => exact term_closed
  | loc => exact loc_closed
  | call => exact call_closed

/-- What the grammar derives as a program has a tree that keeps to precedence. -/
theorem exists_program {w : List Token} (h : w ∈ Nonterminal.program.words) :
    ∃ p : Program, p.isCanonical = true ∧ w = p.tokens :=
  Nonterminal.words_le trees_closed .program h

end Grammar

end SyntaxOutline
