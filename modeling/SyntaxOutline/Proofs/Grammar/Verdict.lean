import SyntaxOutline.Proofs.Grammar.Reads
import SyntaxOutline.Proofs.Program.Demand

/-!
# Verdicts

The verdict of a parser is what it gives, or the fault that it stops with; where it stopped and
what it left open are forgotten. The verdict of a sequence of parsers is the sequence of their
verdicts, so verdicts can be computed.

On the tokens of a node a parser can go wrong in one way only: there is not enough room. So its
verdict there is `within need room (.ok (a, rest))`: it gives the node `a` if the levels that `a`
needs fit in the room, and else the fault that the nesting is too deep.
-/

namespace SyntaxOutline

namespace Parser

variable {α β : Type}

/-- What a parser gives, or the fault that it stops with. -/
def verdict (p : Parser α) (ts : List Token) : Except SyntaxFault (α × List Token) :=
  (p ts).mapError Failure.fault

/-- The outcome `r`, if the levels that are needed fit in the room. -/
def within (need room : Nat) (r : Except SyntaxFault α) : Except SyntaxFault α :=
  if need ≤ room then r else .error .nestingTooDeep

section Within

variable {need more room : Nat}

/-- With enough room the result stands. -/
theorem within_of_le (h : need ≤ room) (r : Except SyntaxFault α) : within need room r = r :=
  if_pos h

/-- Without enough room there is only the fault. -/
theorem within_of_lt (h : room < need) (r : Except SyntaxFault α) :
    within need room r = .error .nestingTooDeep := if_neg (Nat.not_le.mpr h)

@[simp] theorem within_zero (r : Except SyntaxFault α) : within 0 room r = r :=
  within_of_le (Nat.zero_le room) r

@[simp] theorem within_succ_zero (r : Except SyntaxFault α) :
    within (need + 1) 0 r = .error .nestingTooDeep := within_of_lt (Nat.succ_pos need) r

@[simp] theorem within_error :
    within need room (.error .nestingTooDeep : Except SyntaxFault α) = .error .nestingTooDeep :=
  ite_self _

/-- Room that is needed anyway can be left out on both sides. -/
theorem within_add (c : Nat) (r : Except SyntaxFault α) :
    within (c + need) (c + room) r = within need room r := by
  simp only [within, Nat.add_le_add_iff_left]

/-- Two needs in the same room are the larger of them. -/
@[simp] theorem within_within (r : Except SyntaxFault α) :
    within need room (within more room r) = within (max need more) room r := by
  by_cases hn : need ≤ room
  · rw [within_of_le hn]
    by_cases hm : more ≤ room
    · rw [within_of_le hm, within_of_le (Nat.max_le.mpr ⟨hn, hm⟩)]
    · rw [within_of_lt (by omega), within_of_lt (by omega)]
  · rw [within_of_lt (by omega), within_of_lt (by omega)]

/-- One more link of a chain. With `k` levels open already, the next link opens one more, and
brings with it what needs `more` levels beyond that. -/
theorem within_link {k : Nat} {next done : Except SyntaxFault α}
    (hfull : room ≤ k → next = .error .nestingTooDeep)
    (hopen : ∀ left, room = k + 1 + left → next = within more left done) :
    within need room next = within (max need (k + 1 + more)) room done := by
  by_cases h : room ≤ k
  · rw [hfull h, within_error, within_of_lt (by omega)]
  · obtain ⟨left, rfl⟩ : ∃ left, room = k + 1 + left := ⟨room - (k + 1), by omega⟩
    rw [hopen left rfl, ← within_add (k + 1) done, within_within]

/-- A need in front of a sequence is one of its first part. -/
@[simp] theorem within_bind (r : Except SyntaxFault α) (f : α → Except SyntaxFault β) :
    (within need room r).bind f = within need room (r.bind f) := by
  unfold within
  split <;> rfl

@[simp] theorem within_map (r : Except SyntaxFault α) (f : α → β) :
    (within need room r).map f = within need room (r.map f) := by
  unfold within
  split <;> rfl

@[simp] theorem ok_bind (a : α) (f : α → Except SyntaxFault β) : (Except.ok a).bind f = f a := rfl

@[simp] theorem ok_map (a : α) (f : α → β) :
    (Except.ok a : Except SyntaxFault α).map f = .ok (f a) := rfl

end Within

/-! ## Sequences of parsers -/

/-- A verdict of success is the parser's own result. -/
theorem verdict_eq_ok {p : Parser α} {ts : List Token} {r : α × List Token}
    (h : p.verdict ts = .ok r) : p ts = .ok r := by
  unfold verdict at h
  cases hp : p ts with
  | ok r' =>
    rw [hp] at h
    cases h
    rfl
  | error f =>
    rw [hp] at h
    cases h

/-- A verdict of failure is the fault of the parser's failure. -/
theorem verdict_eq_error {p : Parser α} {ts : List Token} {fault : SyntaxFault}
    (h : p.verdict ts = .error fault) : ∃ f, p ts = .error f ∧ f.fault = fault := by
  unfold verdict at h
  cases hp : p ts with
  | ok r =>
    rw [hp] at h
    cases h
  | error f =>
    rw [hp] at h
    cases h
    exact ⟨f, rfl, rfl⟩

@[simp] theorem verdict_pure (a : α) (ts : List Token) :
    (pure a : Parser α).verdict ts = .ok (a, ts) := rfl

@[simp] theorem verdict_fail (fault : SyntaxFault) (ts : List Token) :
    (fail fault : Parser α).verdict ts = .error fault := rfl

/-- A verdict does not show what is left open. -/
@[simp] theorem verdict_keepOpen (p : Parser α) (ts : List Token) :
    (keepOpen p).verdict ts = p.verdict ts := by
  unfold verdict keepOpen
  cases p ts <;> rfl

/-- The verdict of a sequence is that of its parts in turn. -/
@[simp] theorem verdict_bind (p : Parser α) (f : α → Parser β) (ts : List Token) :
    (p >>= f).verdict ts = (p.verdict ts).bind fun r => (f r.1).verdict r.2 := by
  unfold verdict
  simp only [bind, StateT.bind]
  cases p ts <;> rfl

/-- A first part that succeeds can be left out. -/
theorem verdict_bind_ok {p : Parser α} {ts mid : List Token} {a : α}
    (h : p.verdict ts = .ok (a, mid)) (f : α → Parser β) :
    (p >>= f).verdict ts = (f a).verdict mid := by
  rw [verdict_bind, h]
  rfl

/-- A first part that only needs room leaves its need in front. -/
theorem verdict_bind_within {p : Parser α} {ts mid : List Token} {a : α} {need room : Nat}
    (h : p.verdict ts = within need room (.ok (a, mid))) (f : α → Parser β) :
    (p >>= f).verdict ts = within need room ((f a).verdict mid) := by
  rw [verdict_bind, h, within_bind]
  rfl

@[simp] theorem verdict_map (p : Parser α) (f : α → β) (ts : List Token) :
    (f <$> p).verdict ts = (p.verdict ts).map fun r => (f r.1, r.2) := by
  unfold verdict
  simp only [Functor.map, StateT.map]
  cases p ts <;> rfl

/-! ## Primitive parsers -/

@[simp] theorem verdict_expect (m : Mark) (context : Context) (ts : List Token) :
    (expect m context).verdict (.mark m :: ts) = .ok ((), ts) := by
  simp [verdict, expect, Except.mapError]

@[simp] theorem verdict_identifier (name : String) (ts : List Token) :
    identifier.verdict (.ident name :: ts) = .ok (name, ts) := rfl

@[simp] theorem verdict_accept (m : Mark) (ts : List Token) :
    (accept m).verdict (.mark m :: ts) = .ok (true, ts) := by
  simp [verdict, accept, Except.mapError]

/-- A mark that is not next is not taken. -/
theorem verdict_accept_of_not {m : Mark} {ts : List Token} (h : isNext m ts = false) :
    (accept m).verdict ts = .ok (false, ts) := by
  unfold verdict accept
  split
  · next n rest =>
    have hn : n ≠ m := by simpa [isNext] using h
    rw [if_neg hn]
    rfl
  · rfl

@[simp] theorem verdict_acceptKeyword (k : Keyword) (ts : List Token) :
    (acceptKeyword k).verdict (.keyword k :: ts) = .ok (true, ts) := by
  simp [verdict, acceptKeyword, Except.mapError]

/-- A keyword that is not next is not taken. -/
theorem verdict_acceptKeyword_of_not {k : Keyword} {ts : List Token}
    (h : ts.head? ≠ some (.keyword k)) : (acceptKeyword k).verdict ts = .ok (false, ts) := by
  unfold verdict acceptKeyword
  split
  · next l rest =>
    have hl : l ≠ k := by simpa using h
    rw [if_neg hl]
    rfl
  · rfl

/-- A part that may be missing is missing if the mark behind it is next. -/
theorem verdict_unlessNext (m : Mark) (p : Parser α) (ts : List Token) :
    (unlessNext m p).verdict ts =
      if isNext m ts then .ok (none, ts) else (p.verdict ts).map fun r => (some r.1, r.2) := by
  rw [← verdict_map]
  unfold verdict unlessNext
  split <;> rfl

/-! ## Repetition -/

section Repetition

variable {more : List Token → Bool} {p : Parser α} {ts mid : List Token}

/-- A repetition ends where the test fails. -/
theorem verdict_repeatWhile_stop (h : more ts = false) :
    (repeatWhile more p).verdict ts = .ok ([], ts) := by
  unfold verdict repeatWhile
  simp [h, Except.mapError]

/-- One round that takes something, and the rounds behind it. -/
theorem verdict_repeatWhile_round {a : α} {need room : Nat} (hmore : more ts = true)
    (hlen : mid.length < ts.length) (hp : p.verdict ts = within need room (.ok (a, mid))) :
    (repeatWhile more p).verdict ts =
      within need room (((repeatWhile more p).verdict mid).map fun r => (a :: r.1, r.2)) := by
  conv => lhs; unfold verdict repeatWhile
  rw [if_pos hmore]
  by_cases hn : need ≤ room
  · rw [within_of_le hn] at hp ⊢
    rw [verdict_eq_ok hp]
    simp only [hlen, if_true, verdict]
    cases repeatWhile more p mid <;> rfl
  · rw [within_of_lt (by omega)] at hp ⊢
    obtain ⟨f, hf, hfault⟩ := verdict_eq_error hp
    rw [hf, ← hfault]
    rfl

/-- Elements one after the other, each of them read when what follows it may follow it. -/
theorem verdict_repeatWhile {tokens : α → List Token} {need : α → Nat} {room : Nat}
    (follows : List Token → Prop) {rest : List Token} (hstop : more rest = false)
    (hrest : follows rest) :
    ∀ as : List α,
      (∀ a ∈ as, ∀ mid, more (tokens a ++ mid) = true ∧ follows (tokens a ++ mid)) →
      (∀ a ∈ as, tokens a ≠ []) →
      (∀ a ∈ as, ∀ mid, follows mid →
        p.verdict (tokens a ++ mid) = within (need a) room (.ok (a, mid))) →
      (repeatWhile more p).verdict (as.flatMap tokens ++ rest) =
        within (largest need as) room (.ok (as, rest)) := by
  intro as hmore hne hp
  induction as with
  | nil => rw [largest, within_zero]; exact verdict_repeatWhile_stop hstop
  | cons a as ih =>
    rw [List.forall_mem_cons] at hmore hne hp
    obtain ⟨hmore, hmores⟩ := hmore
    -- What follows `a` is the next element, or what follows the whole list.
    have hnext : follows (as.flatMap tokens ++ rest) := by
      cases as with
      | nil => exact hrest
      | cons b bs =>
        rw [List.flatMap_cons, List.append_assoc]
        exact (hmores b (List.mem_cons_self ..) _).2
    have hpos : 0 < (tokens a).length := List.length_pos_iff.mpr hne.1
    have hlen : (as.flatMap tokens ++ rest).length
        < (tokens a ++ (as.flatMap tokens ++ rest)).length := by
      simp only [List.length_append]
      omega
    rw [List.flatMap_cons, List.append_assoc,
      verdict_repeatWhile_round (hmore _).1 hlen (hp.1 _ hnext), ih hmores hne.2 hp.2, within_map,
      within_within, ok_map, largest]

end Repetition

/-- Elements with commas between them, up to the mark `m`. -/
theorem verdict_separatedUntil {m : Mark} {p : Parser α} {tokens : α → List Token}
    {need : α → Nat} {room : Nat} (hm : m ≠ .comma) (as : List α) (rest : List Token)
    (hstart : ∀ a ∈ as, ∀ mid, isNext m (tokens a ++ mid) = false)
    (hp : ∀ a ∈ as, ∀ n mid, n = .comma ∨ n = m →
      p.verdict (tokens a ++ .mark n :: mid) = within (need a) room (.ok (a, .mark n :: mid))) :
    (separatedUntil m p).verdict (separatedBy (.mark .comma) tokens as ++ .mark m :: rest) =
      within (largest need as) room (.ok (as, .mark m :: rest)) := by
  rw [separatedUntil, verdict_bind, verdict_unlessNext]
  cases as with
  | nil => simp [separatedBy, isNext, largest]
  | cons a as =>
    rw [List.forall_mem_cons] at hstart hp
    -- The other elements, each behind its comma.
    have hmore : (repeatWhile (isNext .comma) (do let _ ← accept .comma; p)).verdict
        (as.flatMap (fun b => .mark .comma :: tokens b) ++ .mark m :: rest) =
        within (largest need as) room (.ok (as, .mark m :: rest)) := by
      refine verdict_repeatWhile (fun ts => ∃ n mid, ts = .mark n :: mid ∧ (n = .comma ∨ n = m))
        (by simpa [isNext] using hm) ⟨m, rest, rfl, .inr rfl⟩ as ?_ ?_ ?_
      · intro b _ mid
        exact ⟨by simp [isNext], .comma, _, rfl, .inl rfl⟩
      · intro b _
        simp
      · rintro b hb mid ⟨n, mid, rfl, hn⟩
        rw [List.cons_append, verdict_bind_ok (verdict_accept ..)]
        exact hp.2 b hb n mid hn
    -- The first element is followed by a comma or by the mark.
    have hfirst : p.verdict
        (tokens a ++ (as.flatMap (fun b => .mark .comma :: tokens b) ++ .mark m :: rest)) =
        within (need a) room
          (.ok (a, as.flatMap (fun b => .mark .comma :: tokens b) ++ .mark m :: rest)) := by
      cases as with
      | nil => exact hp.1 m rest (.inr rfl)
      | cons b bs =>
        rw [List.flatMap_cons, List.append_assoc, List.cons_append]
        exact hp.1 .comma _ (.inl rfl)
    rw [separatedBy, List.append_assoc, hstart.1, if_neg Bool.false_ne_true, separated,
      verdict_bind_within hfirst, verdict_bind, hmore]
    simp [largest]

end Parser

end SyntaxOutline
