import SyntaxOutline.Grammar.Parser
import SyntaxOutline.Proofs.Grammar.Rules

/-!
# Parsers that follow a language

`p.Follows l` says three things of a parser, whatever the tokens are.

* What it gives it has taken a word of `l` for.
* Where it fails for any other reason than the nesting, what it has taken can be completed to a word
  of `l`.
* Whatever it does in front of a token, without taking that token, does not depend on what comes
  behind the token.

The first two make every failure a late one, the third makes it an early one: the token that was
refused is refused whatever comes next. There is one lemma for each way to build a parser. A parser
that looks at the next token to choose what to do is covered by `Follows.of_turns`.
-/

namespace SyntaxOutline

open Grammar

open scoped Computability

/-- Whether tokens are the start of a word; the rest of it can be written. -/
def Completes (l : Language Token) (used : List Token) : Prop :=
  ∃ more, (∀ t ∈ more, t.WellSpelled) ∧ used ++ more ∈ l

/-- A language with a word that can be written completes nothing. -/
theorem Completes.of_productive {l : Language Token} [h : Productive l] : Completes l [] := by
  obtain ⟨w, hw, hspelled⟩ := h.exists_word
  exact ⟨w, hspelled, hw⟩

/-- What can be completed in the first language can be completed in both, one behind the other. -/
theorem Completes.mul_right {l m : Language Token} {used : List Token} (h : Completes l used)
    [hm : Productive m] : Completes (l * m) used := by
  obtain ⟨more, hmore, hword⟩ := h
  obtain ⟨w, hw, hspelled⟩ := hm.exists_word
  refine ⟨more ++ w, fun t ht => (List.mem_append.mp ht).elim (hmore t) (hspelled t), ?_⟩
  rw [← List.append_assoc]
  exact Language.append_mem_mul hword hw

/-- A whole word of the first language can be put in front. -/
theorem Completes.mul_left {l m : Language Token} {v used : List Token} (hv : v ∈ l)
    (h : Completes m used) : Completes (l * m) (v ++ used) := by
  obtain ⟨more, hmore, hword⟩ := h
  refine ⟨more, hmore, ?_⟩
  rw [List.append_assoc]
  exact Language.append_mem_mul hv hword

/-- What can be completed in a language can be completed in a larger one. -/
theorem Completes.mono {l m : Language Token} {used : List Token} (h : Completes l used)
    (hle : l ≤ m) : Completes m used := by
  obtain ⟨more, hmore, hword⟩ := h
  exact ⟨more, hmore, hle hword⟩

namespace Parser

variable {α β : Type}

/-- A parser that succeeds is followed by the next one. -/
theorem bind_of_ok {p : Parser α} {f : α → Parser β} {ts mid : List Token} {a : α}
    (h : p ts = .ok (a, mid)) :
    (p >>= f) ts = f a mid := by
  simp [Bind.bind, StateT.bind, Except.bind, h]

/-- A parser that fails ends the sequence. -/
theorem bind_of_error {p : Parser α} {f : α → Parser β} {ts : List Token} {e : Failure}
    (h : p ts = .error e) :
    (p >>= f) ts = .error e := by
  simp [Bind.bind, StateT.bind, Except.bind, h]

/-- The tokens that an outcome leaves. -/
def left : Except Failure (α × List Token) → List Token
  | .ok (_, rest) => rest
  | .error f => f.rest

/-- The same outcome in front of other tokens. -/
def before (rest : List Token) : Except Failure (α × List Token) → Except Failure (α × List Token)
  | .ok (a, _) => .ok (a, rest)
  | .error f => .error { f with rest := rest }

/-- What has been taken is a word, or after a failure the start of one. -/
def Keeps (l : Language Token) (used : List Token) : Except Failure (α × List Token) → Prop
  | .ok _ => used ∈ l
  | .error f => f.fault ≠ .nestingTooDeep → Completes l used

/-- What is taken keeps to the language, and what is not taken is not looked behind. -/
structure Follows (p : Parser α) (l : Language Token) : Prop where
  keeps (ts : List Token) : ∃ used, ts = used ++ left (p ts) ∧ Keeps l used (p ts)
  early (used kept rest rest' : List Token) (t : Token)
    (h : left (p (used ++ t :: rest)) = kept ++ t :: rest) :
    p (used ++ t :: rest') = before (kept ++ t :: rest') (p (used ++ t :: rest))

/-- A result that keeps to a language keeps to a larger one. -/
theorem Keeps.mono {l m : Language Token} {used : List Token}
    {r : Except Failure (α × List Token)} (h : Keeps l used r) (hle : l ≤ m) : Keeps m used r := by
  cases r with
  | ok r => exact hle h
  | error f => exact fun hf => (h hf).mono hle

namespace Follows

variable {p : Parser α} {l m : Language Token}

/-- A parser that follows a language follows a larger one. -/
theorem mono (h : p.Follows l) (hle : l ≤ m) : p.Follows m := by
  refine ⟨fun ts => ?_, h.early⟩
  obtain ⟨used, hts, hk⟩ := h.keeps ts
  exact ⟨used, hts, hk.mono hle⟩

/-- What is left has the length of the tokens that were not taken. -/
theorem length_left_le (h : p.Follows l) (ts : List Token) : (left (p ts)).length ≤ ts.length := by
  obtain ⟨used, hts, -⟩ := h.keeps ts
  have := congrArg List.length hts
  rw [List.length_append] at this
  omega

/-! ## Sequences -/

/-- Taking nothing follows the language of the empty word. -/
theorem pure (a : α) : Follows (Pure.pure a : Parser α) 1 := by
  refine ⟨fun ts => ⟨[], rfl, Language.nil_mem_one⟩, ?_⟩
  intro used kept rest rest' t h
  have hkept : used = kept := List.append_cancel_right h
  rw [hkept]
  rfl

/-- Failing follows any language with a word: nothing was taken, which can be completed. -/
theorem fail (fault : SyntaxFault) [Productive l] : Follows (fail fault : Parser α) l := by
  refine ⟨fun ts => ⟨[], rfl, fun _ => .of_productive⟩, ?_⟩
  intro used kept rest rest' t h
  have hkept : used = kept := List.append_cancel_right h
  rw [hkept]
  rfl

/-- Sequences follow the words of the one language behind those of the other. The second has to have
a word, as the first part alone has to be completed. -/
theorem bind {f : α → Parser β} [Productive m] (hp : p.Follows l) (hf : ∀ a, (f a).Follows m) :
    Follows (p >>= f) (l * m) := by
  constructor
  · intro ts
    obtain ⟨used, hts, hk⟩ := hp.keeps ts
    cases h : p ts with
    | error e =>
      rw [h] at hts hk
      rw [bind_of_error h]
      exact ⟨used, hts, fun he => (hk he).mul_right⟩
    | ok r =>
      obtain ⟨a, mid⟩ := r
      rw [h] at hts hk
      rw [bind_of_ok h]
      obtain ⟨used', hmid, hk'⟩ := (hf a).keeps mid
      refine ⟨used ++ used', ?_, ?_⟩
      · rw [List.append_assoc, ← hmid]
        exact hts
      · cases hr : f a mid with
        | ok r =>
          rw [hr] at hk'
          exact Language.append_mem_mul hk hk'
        | error e =>
          rw [hr] at hk'
          exact fun he => Completes.mul_left hk (hk' he)
  · intro used kept rest rest' t hleft
    cases h : p (used ++ t :: rest) with
    | error e =>
      rw [bind_of_error h] at hleft ⊢
      have hearly := hp.early used kept rest rest' t (by rw [h]; exact hleft)
      rw [h] at hearly
      exact bind_of_error hearly
    | ok r =>
      obtain ⟨a, mid⟩ := r
      rw [bind_of_ok h] at hleft ⊢
      -- What the first part leaves starts with what the second part takes of it.
      obtain ⟨used', hmid, -⟩ := (hf a).keeps mid
      rw [hleft, ← List.append_assoc] at hmid
      have hearly := hp.early used (used' ++ kept) rest rest' t (by rw [h]; exact hmid)
      rw [h] at hearly
      rw [bind_of_ok hearly]
      rw [hmid] at hleft ⊢
      exact (hf a).early (used' ++ kept) kept rest rest' t hleft

/-- Giving something else changes nothing about the tokens. -/
theorem returns (h : p.Follows l) (f : α → β) : Follows (p >>= fun a => Pure.pure (f a)) l := by
  have hbind := h.bind (f := fun a => (Pure.pure (f a) : Parser β)) fun a => .pure (f a)
  rwa [mul_one] at hbind

/-- A function applied to the result takes no token. -/
theorem map (f : α → β) (h : p.Follows l) : Follows (f <$> p) l := by
  rw [map_eq_pure_bind]
  exact h.returns f

/-- Leaving a level open takes no token. -/
theorem keepOpen (h : p.Follows l) : Follows (keepOpen p) l := by
  -- Only the count of open levels in a failure changes, which none of the conditions look at.
  have hleft : ∀ ts, left (Parser.keepOpen p ts) = left (p ts) := by
    intro ts
    unfold Parser.keepOpen
    cases p ts <;> rfl
  constructor
  · intro ts
    obtain ⟨used, hts, hk⟩ := h.keeps ts
    refine ⟨used, by rw [hleft]; exact hts, ?_⟩
    unfold Parser.keepOpen
    cases hr : p ts with
    | ok r =>
      rw [hr] at hk
      exact hk
    | error f =>
      rw [hr] at hk
      exact hk
  · intro used kept rest rest' t hl
    rw [hleft] at hl
    have hearly := h.early used kept rest rest' t hl
    unfold Parser.keepOpen
    cases hr : p (used ++ t :: rest) with
    | ok r =>
      rw [hr] at hearly
      simp only [hearly, before]
    | error f =>
      rw [hr] at hearly
      simp only [hearly, before]

end Follows

/-! ## Looking at the next token -/

/-- What a parser does when `u` is next: it takes it, or it leaves all to another parser. -/
inductive Turn (p : Parser α) (l : Language Token) (u : Token) : Prop where
  | takes {q : Parser α} {m : Language Token} (hq : q.Follows m) (hm : ∀ w ∈ m, u :: w ∈ l)
    (h : ∀ ts, p (u :: ts) = q ts)
  | hands {q : Parser α} (hq : q.Follows l) (h : ∀ ts, p (u :: ts) = q (u :: ts))

/-- It is enough to look at each token that may be next, and at the end. -/
theorem Follows.of_turns {p q : Parser α} {l : Language Token} (hq : q.Follows l)
    (hend : p [] = q []) (hturn : ∀ u, Turn p l u) : p.Follows l := by
  constructor
  · intro ts
    cases ts with
    | nil =>
      rw [hend]
      exact hq.keeps []
    | cons u ts =>
      cases hturn u with
      | @takes q m hq hm h =>
        obtain ⟨used, hts, hk⟩ := hq.keeps ts
        rw [h]
        refine ⟨u :: used, by rw [List.cons_append, ← hts], ?_⟩
        cases hr : q ts with
        | ok r =>
          rw [hr] at hk
          exact hm _ hk
        | error f =>
          rw [hr] at hk
          intro hf
          obtain ⟨more, hmore, hword⟩ := hk hf
          exact ⟨more, hmore, hm _ hword⟩
      | @hands q hq h =>
        rw [h]
        exact hq.keeps (u :: ts)
  · intro used kept rest rest' t hleft
    cases used with
    | nil =>
      cases hturn t with
      | @takes q m hq hm h =>
        -- The token has been taken, so it cannot be left.
        rw [List.nil_append, h] at hleft
        have hlen := hq.length_left_le rest
        rw [hleft] at hlen
        simp only [List.length_append, List.length_cons] at hlen
        omega
      | @hands q hq h =>
        rw [List.nil_append, h] at hleft ⊢
        rw [List.nil_append, h]
        exact hq.early [] kept rest rest' t hleft
    | cons u used =>
      cases hturn u with
      | @takes q m hq hm h =>
        rw [List.cons_append, h] at hleft ⊢
        rw [List.cons_append, h]
        exact hq.early used kept rest rest' t hleft
      | @hands q hq h =>
        rw [List.cons_append, h] at hleft ⊢
        rw [List.cons_append, h]
        exact hq.early (u :: used) kept rest rest' t hleft

/-- Taking the token of a terminal, then going on with `q`. -/
theorem Turn.token {p q : Parser α} {l m : Language Token} {a : Terminal} {u : Token}
    (hu : a.StandsFor u) (hq : q.Follows m) (hle : a.words * m ≤ l)
    (h : ∀ ts, p (u :: ts) = q ts) : Turn p l u := by
  refine .takes hq (fun w hw => hle ?_) h
  exact Language.append_mem_mul (a := [u]) ⟨u, hu, rfl⟩ hw

/-- A parser that takes one token of a terminal and is done. -/
theorem Turn.single {p : Parser α} {l : Language Token} {a : Terminal} {u : Token} (b : α)
    (hu : a.StandsFor u) (hle : a.words ≤ l) (h : ∀ ts, p (u :: ts) = .ok (b, ts)) : Turn p l u :=
  .token hu (.pure b) (by rwa [mul_one]) h

/-- A mark that is asked for is taken. -/
theorem accept_cons_self (m : Mark) (ts : List Token) :
    accept m (.mark m :: ts) = .ok (true, ts) := by
  rw [accept, if_pos rfl]

/-- Any other token is left where it is. -/
theorem accept_cons_of_ne {m : Mark} {u : Token} (h : u ≠ .mark m) (ts : List Token) :
    accept m (u :: ts) = .ok (false, u :: ts) := by
  unfold accept
  split
  · next n rest heq =>
    obtain ⟨rfl, rfl⟩ := List.cons.inj heq
    rw [if_neg fun hn => h (by rw [hn])]
  · rfl

/-- The test for the next mark looks at one token. -/
theorem isNext_cons (m : Mark) (u : Token) (ts : List Token) :
    isNext m (u :: ts) = isNext m [u] := by
  cases u <;> rfl

namespace Follows

variable {p : Parser α} {l m : Language Token}

/-- Asking for a mark that has to be there. -/
theorem expect (n : Mark) (context : Context) :
    Follows (expect n context) (Terminal.mark n).words := by
  refine .of_turns (.fail (.missingMark n context)) rfl fun u => ?_
  by_cases hu : u = .mark n
  · subst hu
    refine .single () (.mark n) le_rfl fun ts => ?_
    rw [Parser.expect, if_pos rfl]
  · refine .hands (.fail (.missingMark n context)) fun ts => ?_
    unfold Parser.expect
    split
    · next n' rest heq =>
      obtain ⟨rfl, rfl⟩ := List.cons.inj heq
      rw [if_neg fun hn => hu (by rw [hn])]
    · rfl

/-- Asking for a name that has to be there. -/
theorem identifier : Follows identifier Terminal.identifier.words := by
  refine .of_turns (.fail .missingIdentifier) rfl fun u => ?_
  cases u with
  | ident name => exact .single name (.identifier name) le_rfl fun ts => rfl
  | _ => exact .hands (.fail .missingIdentifier) fun ts => rfl

/-- Going on in one way behind a mark and in another way without it. -/
theorem accept_bind {n : Mark} {f : Bool → Parser α} (htrue : (f true).Follows l)
    (hfalse : (f false).Follows m) :
    Follows (accept n >>= f) ((Terminal.mark n).words * l + m) := by
  have hfalse := hfalse.mono (le_add_of_right (m := (Terminal.mark n).words * l) le_rfl)
  refine .of_turns hfalse rfl fun u => ?_
  by_cases hu : u = .mark n
  · subst hu
    exact .token (.mark n) htrue (le_add_of_left le_rfl) fun ts =>
      bind_of_ok (accept_cons_self n ts)
  · exact .hands hfalse fun ts => bind_of_ok (accept_cons_of_ne hu ts)

/-- Going on one way behind a keyword, and another way without it. -/
theorem acceptKeyword_bind {k : Keyword} {f : Bool → Parser α} (htrue : (f true).Follows l)
    (hfalse : (f false).Follows m) :
    Follows (acceptKeyword k >>= f) ((Terminal.keyword k).words * l + m) := by
  have hfalse := hfalse.mono (le_add_of_right (m := (Terminal.keyword k).words * l) le_rfl)
  refine .of_turns hfalse rfl fun u => ?_
  by_cases hu : u = .keyword k
  · subst hu
    refine .token (.keyword k) htrue (le_add_of_left le_rfl) fun ts => bind_of_ok ?_
    rw [acceptKeyword, if_pos rfl]
  · refine .hands hfalse fun ts => bind_of_ok ?_
    unfold acceptKeyword
    split
    · next k' rest heq =>
      obtain ⟨rfl, rfl⟩ := List.cons.inj heq
      rw [if_neg fun hn => hu (by rw [hn])]
    · rfl

/-- A part that may be missing adds the empty word. -/
theorem unlessNext (n : Mark) (h : p.Follows l) : Follows (unlessNext n p) (l + 1) := by
  have hsome : Follows (some <$> p) (l + 1) := (h.map some).mono (le_add_of_left le_rfl)
  have hnone : Follows (Pure.pure none : Parser (Option α)) (l + 1) :=
    (Follows.pure none).mono (le_add_of_right le_rfl)
  refine .of_turns hsome rfl fun u => ?_
  cases hu : isNext n [u] with
  | true =>
    refine .hands hnone fun ts => ?_
    rw [Parser.unlessNext, isNext_cons, hu]
    rfl
  | false =>
    refine .hands hsome fun ts => ?_
    rw [Parser.unlessNext, isNext_cons, hu]
    rfl

end Follows

/-! ## Repetition -/

section Repetition

variable {p : Parser α} {l : Language Token} {more : List Token → Bool} {ts mid : List Token}

/-- Puts one more value in front of those that are given. -/
def withFirst (a : α) : Except Failure (List α × List Token) → Except Failure (List α × List Token)
  | .ok (as, rest) => .ok (a :: as, rest)
  | .error f => .error f

@[simp] theorem left_withFirst (a : α) (r : Except Failure (List α × List Token)) :
    left (withFirst a r) = left r := by
  cases r <;> rfl

@[simp] theorem before_withFirst (a : α) (rest : List Token)
    (r : Except Failure (List α × List Token)) :
    before rest (withFirst a r) = withFirst a (before rest r) := by
  cases r <;> rfl

/-- One more element in front does not change what was taken. -/
theorem Keeps.withFirst {used : List Token} {r : Except Failure (List α × List Token)}
    (h : Keeps l used r) (a : α) : Keeps l used (withFirst a r) := by
  cases r <;> exact h

/-- A repetition ends where the test fails. -/
theorem repeatWhile_of_stop (hmore : more ts = false) : repeatWhile more p ts = .ok ([], ts) := by
  rw [repeatWhile, if_neg (by simp [hmore])]

/-- A repetition fails where a round fails. -/
theorem repeatWhile_of_error {f : Failure} (hmore : more ts = true) (hp : p ts = .error f) :
    repeatWhile more p ts = .error f := by
  rw [repeatWhile, if_pos hmore, hp]

/-- A round that takes a token is followed by the rest of the repetition. -/
theorem repeatWhile_of_round {a : α} (hmore : more ts = true) (hp : p ts = .ok (a, mid))
    (hlt : mid.length < ts.length) :
    repeatWhile more p ts = withFirst a (repeatWhile more p mid) := by
  rw [repeatWhile, if_pos hmore, hp]
  dsimp only
  rw [if_pos hlt]
  cases repeatWhile more p mid <;> rfl

/-- A round that takes no token is the last one. -/
theorem repeatWhile_of_idle {a : α} (hmore : more ts = true) (hp : p ts = .ok (a, mid))
    (hle : ts.length ≤ mid.length) : repeatWhile more p ts = .ok ([a], mid) := by
  rw [repeatWhile, if_pos hmore, hp]
  dsimp only
  rw [if_neg (by omega)]

/-- What a repetition takes are words of the language, one behind the other, and the start of one
more if it fails. -/
theorem Follows.repeatWhile_keeps (more : List Token → Bool) (hp : p.Follows l)
    (ts : List Token) :
    ∃ used, ts = used ++ left (repeatWhile more p ts) ∧ Keeps l∗ used (repeatWhile more p ts) := by
  -- On the number of tokens, since a round that takes none ends the repetition.
  induction hn : ts.length using Nat.strongRecOn generalizing ts with
  | _ n ih =>
  cases hmore : more ts with
  | false =>
    rw [repeatWhile_of_stop hmore]
    exact ⟨[], rfl, Language.nil_mem_kstar l⟩
  | true =>
    obtain ⟨used, hts, hk⟩ := hp.keeps ts
    cases hround : p ts with
    | error f =>
      rw [hround] at hts hk
      rw [repeatWhile_of_error hmore hround]
      exact ⟨used, hts, Keeps.mono hk le_kstar⟩
    | ok r =>
      obtain ⟨a, mid⟩ := r
      rw [hround] at hts hk
      by_cases hlt : mid.length < ts.length
      · rw [repeatWhile_of_round hmore hround hlt, left_withFirst]
        obtain ⟨used', hmid, hk'⟩ := ih mid.length (by omega) mid rfl
        refine ⟨used ++ used', by rw [List.append_assoc, ← hmid]; exact hts, Keeps.withFirst ?_ a⟩
        cases hrest : repeatWhile more p mid with
        | ok r =>
          rw [hrest] at hk'
          exact append_mem_kstar hk hk'
        | error f =>
          rw [hrest] at hk'
          exact fun hf => (Completes.mul_left hk (hk' hf)).mono mul_kstar_le_kstar
      · rw [repeatWhile_of_idle hmore hround (by omega)]
        exact ⟨used, hts, (le_kstar : l ≤ l∗) hk⟩

/-- A repetition whose test looks at one token does not look behind the token that it stops at. -/
theorem Follows.repeatWhile_early (hp : p.Follows l) (hhead : ∀ u ts, more (u :: ts) = more [u])
    (used kept rest rest' : List Token) (t : Token)
    (h : left (repeatWhile more p (used ++ t :: rest)) = kept ++ t :: rest) :
    repeatWhile more p (used ++ t :: rest') =
      before (kept ++ t :: rest') (repeatWhile more p (used ++ t :: rest)) := by
  -- The induction is on the tokens before `t`; each round takes some of them.
  induction hn : used.length using Nat.strongRecOn generalizing used with
  | _ n ih =>
  have hsame : more (used ++ t :: rest') = more (used ++ t :: rest) := by
    cases used with
    | nil => rw [List.nil_append, List.nil_append, hhead t rest', hhead t rest]
    | cons u used =>
      rw [List.cons_append, List.cons_append, hhead u (used ++ t :: rest'),
        hhead u (used ++ t :: rest)]
  cases hmore : more (used ++ t :: rest) with
  | false =>
    rw [repeatWhile_of_stop hmore] at h ⊢
    rw [repeatWhile_of_stop (hsame.trans hmore)]
    have hkept : used = kept := List.append_cancel_right h
    rw [hkept]
    rfl
  | true =>
    have hmore' := hsame.trans hmore
    cases hround : p (used ++ t :: rest) with
    | error f =>
      rw [repeatWhile_of_error hmore hround] at h ⊢
      have hearly := hp.early used kept rest rest' t (by rw [hround]; exact h)
      rw [hround] at hearly
      exact repeatWhile_of_error hmore' hearly
    | ok r =>
      obtain ⟨a, mid⟩ := r
      by_cases hlt : mid.length < (used ++ t :: rest).length
      · rw [repeatWhile_of_round hmore hround hlt, left_withFirst] at h
        rw [repeatWhile_of_round hmore hround hlt, before_withFirst]
        -- What this round leaves starts with what the later rounds take.
        obtain ⟨used', hmid, -⟩ := hp.repeatWhile_keeps more mid
        rw [h, ← List.append_assoc] at hmid
        have hearly := hp.early used (used' ++ kept) rest rest' t (by rw [hround]; exact hmid)
        rw [hround] at hearly
        rw [hmid] at h hlt ⊢
        simp only [List.length_append, List.length_cons] at hlt
        have hlt' : (used' ++ kept ++ t :: rest').length < (used ++ t :: rest').length := by
          simp only [List.length_append, List.length_cons]
          omega
        rw [repeatWhile_of_round hmore' hearly hlt',
          ih (used' ++ kept).length (by rw [List.length_append]; omega) _ h rfl]
      · rw [repeatWhile_of_idle hmore hround (by omega)] at h ⊢
        have hearly := hp.early used kept rest rest' t (by rw [hround]; exact h)
        rw [hround] at hearly
        have hmid : mid = kept ++ t :: rest := h
        rw [hmid] at hlt
        simp only [List.length_append, List.length_cons] at hlt
        exact repeatWhile_of_idle hmore' hearly
          (by simp only [List.length_append, List.length_cons]; omega)

/-- A repetition that looks at the next token to see whether to go on. -/
theorem Follows.repeatWhile (hp : p.Follows l) (hhead : ∀ u ts, more (u :: ts) = more [u]) :
    Follows (repeatWhile more p) l∗ :=
  ⟨hp.repeatWhile_keeps more, hp.repeatWhile_early hhead⟩

/-- Only what a round does where it starts matters. -/
theorem repeatWhile_congr {q : Parser α} (h : ∀ ts, more ts = true → p ts = q ts)
    (ts : List Token) : repeatWhile more p ts = repeatWhile more q ts := by
  induction hn : ts.length using Nat.strongRecOn generalizing ts with
  | _ n ih =>
  cases hmore : more ts with
  | false => rw [repeatWhile_of_stop hmore, repeatWhile_of_stop hmore]
  | true =>
    cases hround : p ts with
    | error f =>
      rw [repeatWhile_of_error hmore hround, repeatWhile_of_error hmore (h ts hmore ▸ hround)]
    | ok r =>
      obtain ⟨a, mid⟩ := r
      have hround' : q ts = .ok (a, mid) := h ts hmore ▸ hround
      by_cases hlt : mid.length < ts.length
      · rw [repeatWhile_of_round hmore hround hlt, repeatWhile_of_round hmore hround' hlt,
          ih mid.length (by omega) mid rfl]
      · rw [repeatWhile_of_idle hmore hround (by omega),
          repeatWhile_of_idle hmore hround' (by omega)]

end Repetition

namespace Follows

variable {p : Parser α} {l : Language Token}

/-- Elements with commas between them. -/
theorem separated [Productive l] (hp : p.Follows l) :
    Follows (separated p) (l * ((Terminal.mark .comma).words * l)∗) := by
  -- A round starts at a comma, so asking for the comma always takes it.
  have hround : ∀ ts, isNext .comma ts = true →
      (accept .comma >>= fun _ => p) ts =
        (Parser.expect .comma .afterArguments >>= fun _ => p) ts := by
    intro ts hts
    unfold isNext at hts
    split at hts
    · next n rest =>
      obtain rfl : n = .comma := by simpa using hts
      rfl
    · cases hts
  have hrounds : Follows (Parser.repeatWhile (isNext .comma) (accept .comma >>= fun _ => p))
      ((Terminal.mark .comma).words * l)∗ := by
    rw [funext (repeatWhile_congr hround)]
    exact ((expect .comma .afterArguments).bind fun _ => hp).repeatWhile (isNext_cons .comma)
  exact hp.bind fun a => hrounds.returns (a :: ·)

/-- Elements with commas between them, or none at all. -/
theorem separatedUntil (n : Mark) [Productive l] (hp : p.Follows l) :
    Follows (separatedUntil n p) (l * ((Terminal.mark .comma).words * l)∗ + 1) :=
  (hp.separated.unlessNext n).returns (·.getD [])

end Follows

end Parser

end SyntaxOutline
