import SyntaxOutline.Program
import SyntaxOutline.Proofs.Lexer.Spelling

/-!
# The grammar of programs

The grammar as it is written down: a rule for each nonterminal, built from terminals by sequence,
choice and repetition. `Derives` says which lists of tokens a phrase stands for, by the rules alone.

The lists of tokens that a nonterminal stands for are a language (`Nonterminal.words`). It solves
the rules as equations over languages (`words_eq`) and it is the least solution (`words_le`): to
show something of all that one stands for, it is enough to find a family of languages that the
rules do not lead out of. Every language here has a word that can be written (`Productive`).
-/

namespace SyntaxOutline

namespace Grammar

open scoped Computability

/-- What a rule can ask of a single token. -/
inductive Terminal where
  | keyword (k : Keyword)
  | mark (m : Mark)
  | identifier
  | intLiteral
  | realLiteral
  | stringLiteral
  | charLiteral
  /-- Any operator of a level. -/
  | operator (level : Level)
  /-- Any operator that stands in front of its operand. -/
  | unaryOperator

/-- Which tokens a terminal stands for. -/
inductive Terminal.StandsFor : Terminal → Token → Prop where
  | keyword (k : Keyword) : StandsFor (.keyword k) (.keyword k)
  | mark (m : Mark) : StandsFor (.mark m) (.mark m)
  | identifier (name : String) : StandsFor .identifier (.ident name)
  | intLiteral (text : String) : StandsFor .intLiteral (.intLit text)
  | realLiteral (text : String) : StandsFor .realLiteral (.realLit text)
  | stringLiteral (text : String) : StandsFor .stringLiteral (.stringLit text)
  | charLiteral (text : String) : StandsFor .charLiteral (.charLit text)
  | operator (op : BinaryOp) : StandsFor (.operator op.level) (.mark op.mark)
  | unaryOperator (op : UnaryOp) : StandsFor .unaryOperator (.mark op.mark)

/-- The names that have a rule. -/
inductive Nonterminal where
  | program | decl | structDecl | varDecl | funcDecl | funcDef | formals | type
  | block | stmt | assign
  | expr
  /-- Operands joined by the operators of a level. -/
  | joined (level : Level)
  | unary | term | loc | call

/-- The right side of a rule. -/
inductive Phrase where
  | terminal (a : Terminal)
  | nonterminal (s : Nonterminal)
  | empty
  | seq (φ ψ : Phrase)
  | either (φ ψ : Phrase)
  | many (φ : Phrase)

namespace Phrase

instance : One Phrase := ⟨empty⟩
instance : Mul Phrase := ⟨seq⟩
instance : Add Phrase := ⟨either⟩
instance : KStar Phrase := ⟨many⟩
instance : Coe Nonterminal Phrase := ⟨nonterminal⟩

/-- What may be missing. -/
def optional (φ : Phrase) : Phrase := φ + 1

/-- None, one or more with commas between them. -/
def list (φ : Phrase) : Phrase := (φ * (terminal (.mark .comma) * φ)∗).optional

end Phrase

section Rules

open Nonterminal Phrase

/-- A keyword in a rule. -/
def keyword (k : Keyword) : Phrase := .terminal (.keyword k)

/-- A mark in a rule. -/
def mark (m : Mark) : Phrase := .terminal (.mark m)

/-- An identifier in a rule. -/
def identifier : Phrase := .terminal .identifier

/-- What the operators of a level join. -/
def operandOf (level : Level) : Nonterminal :=
  match level.tighter? with
  | some tighter => joined tighter
  | none => unary

/-- The rules of the grammar. -/
def rule : Nonterminal → Phrase
  | program => (decl : Phrase)∗
  | decl => structDecl + varDecl + funcDecl + funcDef
  | structDecl =>
    keyword .struct * identifier * mark .lcurly * (varDecl : Phrase)∗ * mark .rcurly *
      mark .semicolon
  | varDecl =>
    type * identifier * (mark .lbracket * terminal .intLiteral * mark .rbracket).optional *
      mark .semicolon
  | funcDecl => type * identifier * mark .lparen * formals * mark .rparen * mark .semicolon
  | funcDef => type * identifier * mark .lparen * formals * mark .rparen * block
  | formals => list (type * identifier)
  | type =>
    keyword .int + keyword .bool + keyword .double + keyword .void + keyword .char +
      keyword .struct * identifier
  | block => mark .lcurly * (varDecl : Phrase)∗ * (stmt : Phrase)∗ * mark .rcurly
  | stmt =>
    assign * mark .semicolon + call * mark .semicolon +
      keyword .if_ * mark .lparen * expr * mark .rparen * block *
        (keyword .else_ * block).optional +
      keyword .for_ * mark .lparen * optional assign * mark .semicolon * expr *
        mark .semicolon * optional assign * mark .rparen * block +
      keyword .while_ * mark .lparen * expr * mark .rparen * block +
      keyword .return_ * optional expr * mark .semicolon
  | assign => loc * mark .assign * expr
  | expr => joined .bitOr
  | joined level => operandOf level * (terminal (.operator level) * operandOf level)∗
  | unary => terminal .unaryOperator * unary + term
  | term =>
    terminal .intLiteral + terminal .realLiteral + terminal .stringLiteral +
      terminal .charLiteral +
      keyword .true_ + keyword .false_ + keyword .null +
      keyword .sizeof * mark .lparen * identifier * mark .rparen +
      mark .lparen * expr * mark .rparen + call + loc
  | loc => identifier * (mark .lbracket * expr * mark .rbracket + mark .dot * identifier)∗
  | call => identifier * mark .lparen * list expr * mark .rparen

end Rules

/-- The lists of tokens that a phrase stands for. -/
inductive Derives : Phrase → List Token → Prop where
  | terminal {a : Terminal} {t : Token} (h : a.StandsFor t) : Derives (.terminal a) [t]
  | nonterminal {s : Nonterminal} {w : List Token} (h : Derives (rule s) w) :
    Derives (.nonterminal s) w
  | empty : Derives .empty []
  | seq {φ ψ : Phrase} {v w : List Token} (hv : Derives φ v) (hw : Derives ψ w) :
    Derives (.seq φ ψ) (v ++ w)
  | left {φ ψ : Phrase} {w : List Token} (h : Derives φ w) : Derives (.either φ ψ) w
  | right {φ ψ : Phrase} {w : List Token} (h : Derives ψ w) : Derives (.either φ ψ) w
  | none {φ : Phrase} : Derives (.many φ) []
  | more {φ : Phrase} {v w : List Token} (hv : Derives φ v) (hw : Derives (.many φ) w) :
    Derives (.many φ) (v ++ w)

/-! ## Languages -/

/-- The tokens that a terminal stands for, each as a list of its own. -/
def Terminal.words (a : Terminal) : Language Token := {w | ∃ t, a.StandsFor t ∧ w = [t]}

/-- The lists of tokens that a nonterminal stands for. -/
def Nonterminal.words (s : Nonterminal) : Language Token := {w | Derives (.nonterminal s) w}

/-- The language of a phrase, given those of the nonterminals. -/
def Phrase.denote (env : Nonterminal → Language Token) : Phrase → Language Token
  | .terminal a => a.words
  | .nonterminal s => env s
  | .empty => 1
  | .seq φ ψ => φ.denote env * ψ.denote env
  | .either φ ψ => φ.denote env + ψ.denote env
  | .many φ => (φ.denote env)∗

section Denote

variable (env : Nonterminal → Language Token)

@[simp] theorem denote_terminal (a : Terminal) : (Phrase.terminal a).denote env = a.words := rfl
@[simp] theorem denote_nonterminal (s : Nonterminal) :
    (Phrase.nonterminal s).denote env = env s := rfl

@[simp] theorem denote_mul (φ ψ : Phrase) : (φ * ψ).denote env = φ.denote env * ψ.denote env := rfl
@[simp] theorem denote_add (φ ψ : Phrase) : (φ + ψ).denote env = φ.denote env + ψ.denote env := rfl
@[simp] theorem denote_kstar (φ : Phrase) : (φ∗).denote env = (φ.denote env)∗ := rfl
@[simp] theorem denote_optional (φ : Phrase) : φ.optional.denote env = φ.denote env + 1 := rfl

@[simp] theorem denote_list (φ : Phrase) :
    φ.list.denote env =
      φ.denote env * ((Terminal.mark .comma).words * φ.denote env)∗ + 1 := rfl

@[simp] theorem denote_keyword (k : Keyword) :
    (keyword k).denote env = (Terminal.keyword k).words := rfl
@[simp] theorem denote_mark (m : Mark) : (mark m).denote env = (Terminal.mark m).words := rfl
@[simp] theorem denote_identifier : identifier.denote env = Terminal.identifier.words := rfl

end Denote

theorem le_of_mem {l m : Language Token} (h : ∀ w ∈ l, w ∈ m) : l ≤ m := h

/-- A language is in a union if it is in the first part. -/
theorem le_add_of_left {l m n : Language Token} (h : l ≤ m) : l ≤ m + n :=
  fun _ hw => (Language.mem_add ..).mpr (.inl (h hw))

/-- A language is in a union if it is in the second part. -/
theorem le_add_of_right {l m n : Language Token} (h : l ≤ n) : l ≤ m + n :=
  fun _ hw => (Language.mem_add ..).mpr (.inr (h hw))

/-- What the rules do not lead out of holds all that is derived. -/
theorem mem_denote_of_derives {env : Nonterminal → Language Token}
    (henv : ∀ s, (rule s).denote env ≤ env s) {φ : Phrase} {w : List Token} (h : Derives φ w) :
    w ∈ φ.denote env := by
  induction h with
  | @terminal a t h => exact ⟨t, h, rfl⟩
  | @nonterminal s w _ ih => exact henv s ih
  | empty => exact Language.nil_mem_one
  | seq _ _ hv hw => exact Language.append_mem_mul hv hw
  | left _ ih => exact (Language.mem_add ..).mpr (.inl ih)
  | right _ ih => exact (Language.mem_add ..).mpr (.inr ih)
  | none => exact Language.nil_mem_kstar _
  | more _ _ hv hw => exact append_mem_kstar hv hw

/-- The words of the grammar are in every family of languages that is closed under the rules. -/
theorem Nonterminal.words_le {env : Nonterminal → Language Token}
    (henv : ∀ s, (rule s).denote env ≤ env s) (s : Nonterminal) : s.words ≤ env s :=
  fun _ h => mem_denote_of_derives henv h

/-- What a phrase stands for, with the words of the grammar for its nonterminals, is derived from
it. -/
theorem derives_of_mem_denote {φ : Phrase} {w : List Token} (h : w ∈ φ.denote Nonterminal.words) :
    Derives φ w := by
  induction φ generalizing w with
  | terminal a =>
    obtain ⟨t, ht, rfl⟩ := h
    exact .terminal ht
  | nonterminal s => exact h
  | empty =>
    rw [(Language.mem_one w).mp h]
    exact .empty
  | seq φ ψ hφ hψ =>
    obtain ⟨v, hv, w, hw, rfl⟩ := Language.mem_mul.mp h
    exact .seq (hφ hv) (hψ hw)
  | either φ ψ hφ hψ =>
    rcases (Language.mem_add ..).mp h with h | h
    · exact .left (hφ h)
    · exact .right (hψ h)
  | many φ hφ =>
    -- A repetition is a list of words, and each of them is derived.
    obtain ⟨ws, rfl, hws⟩ := Language.mem_kstar.mp h
    clear h
    induction ws with
    | nil => exact .none
    | cons v ws ih =>
      obtain ⟨hv, hws⟩ := List.forall_mem_cons.mp hws
      exact .more (hφ hv) (ih hws)

/-- The languages of the nonterminals solve the rules. -/
theorem Nonterminal.words_eq (s : Nonterminal) : s.words = (rule s).denote Nonterminal.words := by
  apply le_antisymm
  · intro w h
    -- A derivation from a nonterminal starts with its rule.
    cases h with
    | nonterminal h =>
      exact mem_denote_of_derives (fun s w hw => .nonterminal (derives_of_mem_denote hw)) h
  · exact fun w h => .nonterminal (derives_of_mem_denote h)

/-! ## Every nonterminal stands for something -/

/-- A language with a word that can be written. -/
class Productive (l : Language Token) : Prop where
  exists_word : ∃ w ∈ l, ∀ t ∈ w, t.WellSpelled

instance : Productive 1 := ⟨[], Language.nil_mem_one, by simp⟩

instance {l m : Language Token} [hl : Productive l] [hm : Productive m] : Productive (l * m) := by
  obtain ⟨v, hv, hvs⟩ := hl.exists_word
  obtain ⟨w, hw, hws⟩ := hm.exists_word
  refine ⟨v ++ w, Language.append_mem_mul hv hw, fun t ht => ?_⟩
  exact (List.mem_append.mp ht).elim (hvs t) (hws t)

instance {l m : Language Token} [hl : Productive l] : Productive (l + m) := by
  obtain ⟨w, hw, hws⟩ := hl.exists_word
  exact ⟨w, (Language.mem_add ..).mpr (.inl hw), hws⟩

instance {l m : Language Token} [hm : Productive m] : Productive (l + m) := by
  obtain ⟨w, hw, hws⟩ := hm.exists_word
  exact ⟨w, (Language.mem_add ..).mpr (.inr hw), hws⟩

instance {l : Language Token} : Productive l∗ := ⟨[], Language.nil_mem_kstar l, by simp⟩

/-- Each terminal stands for a token that can be written. -/
theorem Terminal.exists_standsFor (a : Terminal) : ∃ t, a.StandsFor t ∧ t.WellSpelled := by
  have hzero : ['0'] ∈ Spelling.digits :=
    Spelling.mem_digits.mpr ⟨List.cons_ne_nil _ _, List.forall_mem_singleton.mpr rfl⟩
  cases a with
  | keyword k => exact ⟨_, .keyword k, trivial⟩
  | mark m => exact ⟨_, .mark m, trivial⟩
  | identifier =>
    refine ⟨_, .identifier "x", Spelling.mem_word.mpr ⟨'x', [], rfl, rfl, nofun⟩, ?_⟩
    intro k
    cases k <;> decide
  | intLiteral => exact ⟨_, .intLiteral "0", hzero⟩
  | realLiteral =>
    exact ⟨_, .realLiteral "0.0", Spelling.mem_real.mpr
      ⟨['0'], ['0'], [], rfl, hzero, hzero, .inl rfl⟩⟩
  | stringLiteral =>
    exact ⟨_, .stringLiteral "\"\"", Spelling.mem_string.mpr ⟨[], rfl, Language.nil_mem_kstar _⟩⟩
  | charLiteral =>
    have hitem : ['x'] ∈ Spelling.item '\'' := Spelling.mem_item.mpr (.inl ⟨'x', rfl, by decide⟩)
    exact ⟨_, .charLiteral "'x'", Spelling.mem_character.mpr ⟨['x'], rfl, hitem⟩⟩
  | operator level =>
    have hop : ∃ op : BinaryOp, op.level = level := by
      cases level
      exacts [⟨.bitOr, rfl⟩, ⟨.bitAnd, rfl⟩, ⟨.equals, rfl⟩, ⟨.less, rfl⟩, ⟨.plus, rfl⟩,
        ⟨.times, rfl⟩]
    obtain ⟨op, rfl⟩ := hop
    exact ⟨_, .operator op, trivial⟩
  | unaryOperator => exact ⟨_, .unaryOperator .negate, trivial⟩

instance (a : Terminal) : Productive a.words := by
  obtain ⟨t, ht, hspelled⟩ := a.exists_standsFor
  exact ⟨[t], ⟨t, ht, rfl⟩, by simpa using hspelled⟩

/-- A nonterminal has a word if its rule does. -/
theorem productive_of_rule {s : Nonterminal} (h : Productive ((rule s).denote Nonterminal.words)) :
    Productive s.words := by
  rw [s.words_eq]
  exact h

/-- The chains of each precedence have a word, from the tightest on. -/
theorem productive_joined (hunary : Productive Nonterminal.unary.words) (level : Level) :
    Productive (Nonterminal.joined level).words := by
  apply productive_of_rule
  have hoperand : Productive (operandOf level).words := by
    unfold operandOf
    split
    · next tighter h =>
      have := Level.rank_lt_of_tighter? h
      exact productive_joined hunary tighter
    · exact hunary
  simp only [rule, denote_mul, denote_kstar, denote_nonterminal]
  infer_instance
termination_by level.rank

open Nonterminal in
/-- Every nonterminal stands for something that can be written. -/
instance (s : Nonterminal) : Productive s.words := by
  -- These come before those that need them: a term can be a literal, a block can be empty.
  have hterm : Productive term.words := productive_of_rule <| by
    simp only [rule, denote_add, denote_terminal]
    infer_instance
  have hunary : Productive unary.words := productive_of_rule <| by
    simp only [rule, denote_add, denote_nonterminal]
    infer_instance
  have hjoined := productive_joined hunary
  have hexpr : Productive expr.words := productive_of_rule (hjoined .bitOr)
  have htype : Productive type.words := productive_of_rule <| by
    simp only [rule, denote_add, denote_keyword]
    infer_instance
  have hloc : Productive loc.words := productive_of_rule <| by
    simp only [rule, denote_mul, denote_kstar, denote_identifier]
    infer_instance
  have hformals : Productive formals.words := productive_of_rule <| by
    simp only [rule, denote_list]
    infer_instance
  have hblock : Productive block.words := productive_of_rule <| by
    simp only [rule, denote_mul, denote_kstar, denote_mark]
    infer_instance
  have hvarDecl : Productive varDecl.words := productive_of_rule <| by
    simp only [rule, denote_mul, denote_nonterminal, denote_identifier, denote_optional,
      denote_mark]
    infer_instance
  apply productive_of_rule
  cases s with
  | joined level =>
    have := hjoined level
    rwa [words_eq] at this
  | _ =>
    simp only [rule, denote_mul, denote_add, denote_kstar, denote_nonterminal, denote_keyword,
      denote_mark, denote_identifier, denote_terminal, denote_optional, denote_list]
    infer_instance

end Grammar

end SyntaxOutline
