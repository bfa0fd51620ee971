import Mathlib
import SyntaxOutline.Grammar.Parser
import SyntaxOutline.Proofs.Program.Tokens

/-!
# What a parser has taken

`p.Reads tokens good` says of a parser that whatever it gives, it has taken exactly the tokens of
what it gives, and that what it gives is `good`. The property says nothing about failures. It
passes through the repetition of a parser, so a list is read when its elements are.

The `_ok` lemmas say what the success of each primitive parser tells about the tokens.
-/

namespace SyntaxOutline

namespace Parser

variable {α β : Type}

/-! ## Sequences of parsers -/

/-- A sequence that succeeds has succeeded in both parts. -/
theorem bind_ok {p : Parser α} {f : α → Parser β} {ts rest : List Token} {b : β}
    (h : (p >>= f) ts = .ok (b, rest)) :
    ∃ a mid, p ts = .ok (a, mid) ∧ f a mid = .ok (b, rest) := by
  simp only [bind, StateT.bind, Except.bind] at h
  split at h
  · cases h
  · next r hp => exact ⟨r.1, r.2, hp, h⟩

/-- A function applied to a result takes no token. -/
theorem map_ok {p : Parser α} {f : α → β} {ts rest : List Token} {b : β}
    (h : (f <$> p) ts = .ok (b, rest)) : ∃ a, p ts = .ok (a, rest) ∧ f a = b := by
  simp only [Functor.map, StateT.map, bind, Except.bind, pure, Except.pure] at h
  split at h
  · cases h
  · next r hp =>
    simp only [Except.ok.injEq, Prod.mk.injEq] at h
    obtain ⟨hb, rfl⟩ := h
    exact ⟨r.1, hp, hb⟩

/-- Giving a value takes no token. -/
theorem pure_ok {a b : α} {ts rest : List Token}
    (h : (pure a : Parser α) ts = .ok (b, rest)) : a = b ∧ ts = rest := by
  simpa [pure, StateT.pure, Except.pure] using h

/-! ## Primitive parsers -/

theorem fail_ne_ok {fault : SyntaxFault} {ts : List Token} {r : α × List Token} :
    (fail fault : Parser α) ts ≠ .ok r := nofun

/-- Asking for a mark takes it or takes nothing. -/
theorem accept_ok {m : Mark} {ts rest : List Token} {b : Bool}
    (h : accept m ts = .ok (b, rest)) :
    (b = true ∧ ts = .mark m :: rest) ∨ (b = false ∧ ts = rest) := by
  unfold accept at h
  split at h
  · next n rest' =>
    split at h
    · next hn =>
      simp only [Except.ok.injEq, Prod.mk.injEq] at h
      obtain ⟨rfl, rfl⟩ := h
      exact .inl ⟨rfl, by rw [hn]⟩
    · simp only [Except.ok.injEq, Prod.mk.injEq] at h
      exact .inr ⟨h.1.symm, h.2⟩
  · simp only [Except.ok.injEq, Prod.mk.injEq] at h
    exact .inr ⟨h.1.symm, h.2⟩

/-- Asking for a keyword takes it or takes nothing. -/
theorem acceptKeyword_ok {k : Keyword} {ts rest : List Token} {b : Bool}
    (h : acceptKeyword k ts = .ok (b, rest)) :
    (b = true ∧ ts = .keyword k :: rest) ∨ (b = false ∧ ts = rest) := by
  unfold acceptKeyword at h
  split at h
  · next l rest' =>
    split at h
    · next hl =>
      simp only [Except.ok.injEq, Prod.mk.injEq] at h
      obtain ⟨rfl, rfl⟩ := h
      exact .inl ⟨rfl, by rw [hl]⟩
    · simp only [Except.ok.injEq, Prod.mk.injEq] at h
      exact .inr ⟨h.1.symm, h.2⟩
  · simp only [Except.ok.injEq, Prod.mk.injEq] at h
    exact .inr ⟨h.1.symm, h.2⟩

/-- A mark that has to be there was there. -/
theorem expect_ok {m : Mark} {context : Context} {ts rest : List Token} {u : Unit}
    (h : expect m context ts = .ok (u, rest)) : ts = .mark m :: rest := by
  unfold expect at h
  split at h
  · next n rest' =>
    split at h
    · next hn =>
      simp only [Except.ok.injEq, Prod.mk.injEq] at h
      rw [hn, h.2]
    · exact absurd h fail_ne_ok
  · exact absurd h fail_ne_ok

/-- A name that has to be there was there. -/
theorem identifier_ok {ts rest : List Token} {name : String}
    (h : identifier ts = .ok (name, rest)) : ts = .ident name :: rest := by
  unfold identifier at h
  split at h
  · simp only [Except.ok.injEq, Prod.mk.injEq] at h
    rw [h.1, h.2]
  · exact absurd h fail_ne_ok

/-- Leaving a level open changes no result that is a success. -/
theorem keepOpen_ok {p : Parser α} {ts rest : List Token} {a : α}
    (h : keepOpen p ts = .ok (a, rest)) : p ts = .ok (a, rest) := by
  unfold keepOpen at h
  split at h
  · next r hp => rw [hp, h]
  · cases h

/-- A part that may be missing was missing or was read. -/
theorem unlessNext_ok {m : Mark} {p : Parser α} {ts rest : List Token} {a? : Option α}
    (h : unlessNext m p ts = .ok (a?, rest)) :
    (a? = none ∧ ts = rest) ∨ ∃ a, a? = some a ∧ p ts = .ok (a, rest) := by
  unfold unlessNext at h
  split at h
  · simp only [Except.ok.injEq, Prod.mk.injEq] at h
    exact .inl ⟨h.1.symm, h.2⟩
  · obtain ⟨a, hp, ha⟩ := map_ok h
    exact .inr ⟨a, ha.symm, hp⟩

/-! ## Repetition -/

/-- Whatever the parser gives is `good`, and it has taken the tokens of it. -/
def Reads (p : Parser α) (tokens : α → List Token) (good : α → Prop) : Prop :=
  ∀ ⦃ts rest : List Token⦄ ⦃a : α⦄, p ts = .ok (a, rest) → ts = tokens a ++ rest ∧ good a

variable {p : Parser α} {tokens : α → List Token} {good : α → Prop}

/-- A list is read when its elements are, at the tokens where a round starts. -/
theorem repeatWhile_reads {more : List Token → Bool}
    (hp : ∀ ⦃ts rest : List Token⦄ ⦃a : α⦄, more ts = true → p ts = .ok (a, rest) →
      ts = tokens a ++ rest ∧ good a) :
    (repeatWhile more p).Reads (·.flatMap tokens) fun as => ∀ a ∈ as, good a := by
  intro ts
  fun_induction repeatWhile more p ts with
  | case1 => intro rest as h; cases h
  | case2 => intro rest as h; cases h
  | case3 ts hmore a mid hround _ as' rest' _ ih =>
    intro rest as h
    cases h
    obtain ⟨rfl, hgood⟩ := hp hmore hround
    obtain ⟨rfl, hall⟩ := ih ‹_›
    exact ⟨by simp, by simpa using ⟨hgood, hall⟩⟩
  | case4 ts hmore a mid hround _ =>
    -- A round that takes nothing is the last one.
    intro rest as h
    cases h
    obtain ⟨rfl, hgood⟩ := hp hmore hround
    exact ⟨by simp, by simpa using hgood⟩
  | case5 =>
    intro rest as h
    cases h
    exact ⟨rfl, by simp⟩

/-- A repetition whose rounds all take something goes on until no round can start. -/
theorem repeatWhile_rest {more : List Token → Bool}
    (hp : ∀ ⦃ts rest : List Token⦄ ⦃a : α⦄, p ts = .ok (a, rest) → rest.length < ts.length)
    {ts rest : List Token} {as : List α} (h : repeatWhile more p ts = .ok (as, rest)) :
    more rest = false := by
  fun_induction repeatWhile more p ts generalizing as rest with
  | case1 => cases h
  | case2 => cases h
  | case3 ts hmore a mid hround _ as' rest' hrest ih =>
    cases h
    exact ih hrest
  | case4 ts hmore a mid hround hlen => exact absurd (hp hround) hlen
  | case5 ts hmore =>
    cases h
    simpa using hmore

/-- A mark that was seen is taken. -/
theorem accept_of_isNext {m : Mark} {ts rest : List Token} {b : Bool} (hn : isNext m ts = true)
    (h : accept m ts = .ok (b, rest)) : ts = .mark m :: rest := by
  unfold isNext at hn
  split at hn
  · next n rest' =>
    have hm : n = m := by simpa using hn
    simp only [accept, hm, if_true, Except.ok.injEq, Prod.mk.injEq] at h
    rw [hm, h.2]
  · cases hn

/-- Elements with commas between them are read as a list of what each is read as. -/
theorem separated_reads (hp : p.Reads tokens good) :
    (separated p).Reads (separatedBy (.mark .comma) tokens) fun as => ∀ a ∈ as, good a := by
  intro ts rest as h
  obtain ⟨a, mid, ha, h⟩ := bind_ok h
  obtain ⟨others, mid', hothers, h⟩ := bind_ok h
  obtain ⟨rfl, rfl⟩ := pure_ok h
  obtain ⟨rfl, hgood⟩ := hp ha
  -- A round starts at a comma, so it takes the comma and then one more element.
  have hround : ∀ ⦃ts rest : List Token⦄ ⦃a : α⦄, isNext .comma ts = true →
      (do let _ ← accept .comma; p) ts = .ok (a, rest) →
      ts = (.mark .comma :: tokens a) ++ rest ∧ good a := by
    intro ts rest a hn h
    obtain ⟨_, mid, hc, h⟩ := bind_ok h
    obtain ⟨rfl, hg⟩ := hp h
    exact ⟨accept_of_isNext hn hc, hg⟩
  obtain ⟨rfl, hall⟩ := repeatWhile_reads hround hothers
  exact ⟨by simp [separatedBy], by simpa using ⟨hgood, hall⟩⟩

/-- The same where there may be no element. -/
theorem separatedUntil_reads (m : Mark) (hp : p.Reads tokens good) :
    (separatedUntil m p).Reads (separatedBy (.mark .comma) tokens) fun as => ∀ a ∈ as, good a := by
  intro ts rest as h
  obtain ⟨as?, mid, has, h⟩ := bind_ok h
  obtain ⟨rfl, rfl⟩ := pure_ok h
  rcases unlessNext_ok has with ⟨rfl, rfl⟩ | ⟨as, rfl, hread⟩
  · exact ⟨rfl, by simp⟩
  · exact separated_reads hp hread

end Parser

end SyntaxOutline
