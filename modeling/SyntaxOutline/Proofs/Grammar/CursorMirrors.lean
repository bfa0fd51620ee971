import SyntaxOutline.Proofs.Grammar.Cursor
import SyntaxOutline.Proofs.Grammar.Follows

/-!
# Machines that mirror parsers

`Mirrors list m p depth exit` says that the machine `m`, started anywhere in the source with
`depth` levels open, does what the parser `p` does with the tokens from there on. It has an
outcome; a value is the parser's value, with the cursor moved past the tokens that the parser has
taken and `exit` levels open; an error is the parser's failure, at the position of the refused
token, with as many more levels open as the failure says.

There is one lemma for each way to build a machine, so that the lemma for a routine has the shape of
the routine.
-/

namespace SyntaxOutline

namespace TokenList

variable (list : TokenList)

/-- The tokens from an index on. -/
def tokensFrom (i : Nat) : List Token := (list.tokens.map (·.token)).drop i

/-- The position of the token at an index; behind the last token, the end of the source. -/
def positionAt (i : Nat) : Position :=
  match list.tokens[i]? with
  | some t => t.position
  | none => list.finish

/-- As many tokens are left as the list has behind the index. -/
theorem length_tokensFrom (i : Nat) : (list.tokensFrom i).length = list.tokens.length - i := by
  rw [tokensFrom, List.length_drop, List.length_map]

variable {list} in
/-- Where a token is left, the index is inside the list and what follows is left behind it. -/
theorem tokensFrom_cons {i : Nat} {t : Token} {rest : List Token}
    (h : list.tokensFrom i = t :: rest) :
    i < list.tokens.length ∧ rest = list.tokensFrom (i + 1) := by
  have hlength := list.length_tokensFrom i
  rw [h, List.length_cons] at hlength
  refine ⟨by omega, ?_⟩
  rw [tokensFrom, ← List.tail_drop, ← tokensFrom, h, List.tail_cons]

variable {list} in
/-- The slot at an index holds the first token that is left there and its position; the slot behind
the last token holds none. -/
theorem slots_of_le {i : Nat} (h : i ≤ list.tokens.length) :
    list.slots[i]? = some ((list.tokensFrom i).head?, list.positionAt i) := by
  have hlength : (list.tokens.map fun t => (some t.token, t.position)).length
      = list.tokens.length := List.length_map ..
  rw [slots, tokensFrom, List.head?_drop, positionAt]
  by_cases hi : i < list.tokens.length
  · rw [List.getElem?_append_left (by omega)]
    simp [hi]
  · have hend : i = list.tokens.length := by omega
    rw [List.getElem?_append_right (by omega)]
    simp [hend]

/-- The slots ahead hold the tokens that are left, in order. -/
theorem slots_ahead (i n : Nat) :
    list.slots[i + n]?.bind (·.1) = (list.tokensFrom i)[n]? := by
  have hlength : (list.tokens.map fun t => (some t.token, t.position)).length
      = list.tokens.length := List.length_map ..
  rw [slots, tokensFrom, List.getElem?_drop]
  by_cases hi : i + n < list.tokens.length
  · rw [List.getElem?_append_left (by omega)]
    simp [hi]
  · rw [List.getElem?_append_right (by omega), hlength]
    cases i + n - list.tokens.length <;> simp [Nat.le_of_not_lt hi]

end TokenList

namespace Machine

variable {α β : Type} {list : TokenList}

/-! ## One step of a machine -/

/-- A machine that succeeds is followed by the next one. -/
theorem bind_of_ok {m : Machine α} {k : α → Machine β} {c c' : Cursor} {a : α}
    (h : m c = some (.ok a, c')) : (m >>= k) c = k a c' := by
  simp [Bind.bind, ExceptT.bind, ExceptT.mk, StateT.bind, ExceptT.bindCont, h]

/-- A machine that fails ends the sequence. -/
theorem bind_of_error {m : Machine α} {k : α → Machine β} {c c' : Cursor} {e : SourceError}
    (h : m c = some (.error e, c')) : (m >>= k) c = some (.error e, c') := by
  simp [Bind.bind, ExceptT.bind, ExceptT.mk, StateT.bind, ExceptT.bindCont, h, Pure.pure,
    StateT.pure]

theorem get_bind (k : Cursor → Machine α) (c : Cursor) : (get >>= k) c = k c c := rfl

/-- A cursor may be moved forward to any place in range; this is where a machine would go wrong. -/
theorem moveTo_of_inRange {c next : Cursor} (hle : c.index ≤ next.index) (h : next.InRange list) :
    moveTo list next c = some (.ok (), next) := if_pos ⟨hle, h⟩

variable {i depth : Nat}

/-- Looking at the next slot from a cursor in range. -/
theorem peek_of_le (h : i ≤ list.tokens.length) :
    peek list ⟨i, depth⟩ =
      some (.ok ((list.tokensFrom i).head?, list.positionAt i), ⟨i, depth⟩) := by
  rw [peek, TokenList.slots_of_le h]
  rfl

/-- Looking further ahead never goes wrong: behind the end there is nothing to see. -/
theorem peekAhead_eq (n : Nat) :
    peekAhead list n ⟨i, depth⟩ = some (.ok (list.tokensFrom i)[n]?, ⟨i, depth⟩) := by
  rw [peekAhead, TokenList.slots_ahead]

/-- A refusal names the next token and its position, and moves nothing. -/
theorem refuse_of_le (fault : SyntaxFault) (h : i ≤ list.tokens.length) :
    (refuse list fault : Machine α) ⟨i, depth⟩ =
      some (.error ⟨.grammatical fault (list.tokensFrom i).head?, list.positionAt i⟩,
        ⟨i, depth⟩) := by
  rw [refuse, bind_of_ok (peek_of_le h)]
  rfl

/-- Passing a token takes the cursor one further, and that is in range. -/
theorem advance_of_cons {t : Token} {rest : List Token} (h : list.tokensFrom i = t :: rest)
    (hdepth : depth ≤ maxNesting) :
    ∃ passed, advance list ⟨i, depth⟩ = some (.ok passed, ⟨i + 1, depth⟩) := by
  obtain ⟨hlt, -⟩ := TokenList.tokensFrom_cons h
  have hmove : moveTo list ⟨i + 1, depth⟩ ⟨i, depth⟩ = some (.ok (), ⟨i + 1, depth⟩) :=
    moveTo_of_inRange (Nat.le_succ i) ⟨hlt, hdepth⟩
  have hprevious : previous list ⟨i + 1, depth⟩ =
      some (.ok ((list.tokensFrom i).head?, list.positionAt i), ⟨i + 1, depth⟩) := by
    rw [previous, Nat.add_sub_cancel, TokenList.slots_of_le (Nat.le_of_lt hlt)]
    rfl
  refine ⟨((list.tokensFrom i).head?, list.positionAt i), ?_⟩
  rw [advance, bind_of_ok (peek_of_le (Nat.le_of_lt hlt)), ← hprevious, h]
  exact bind_of_ok hmove

end Machine

/-! ## Outcomes that agree -/

section Mirrors

variable {α β : Type} (list : TokenList)

/-- What a parser makes of the tokens from the index `i` on and what a machine makes of the cursor
there, with `depth` levels open. -/
inductive Agree (i depth exit : Nat) :
    Except Failure (α × List Token) → Option (Except SourceError α × Cursor) → Prop where
  | ok (a : α) (j : Nat) (hij : i ≤ j) (hj : j ≤ list.tokens.length) :
    Agree i depth exit (.ok (a, list.tokensFrom j)) (some (.ok a, ⟨j, exit⟩))
  | error (fault : SyntaxFault) (stillOpen j : Nat) (hij : i ≤ j) (hj : j ≤ list.tokens.length)
    (hopen : depth + stillOpen ≤ maxNesting) :
    Agree i depth exit (.error ⟨fault, list.tokensFrom j, stillOpen⟩)
      (some (.error ⟨.grammatical fault (list.tokensFrom j).head?, list.positionAt j⟩,
        ⟨j, depth + stillOpen⟩))

/-- The machine does with a cursor in range what the parser does with the tokens from there on. -/
def Mirrors (m : Machine α) (p : Parser α) (depth exit : Nat) : Prop :=
  ∀ i, (Cursor.mk i depth).InRange list →
    Agree list i depth exit (p (list.tokensFrom i)) (m ⟨i, depth⟩)

variable {list}

/-- Outcomes that agree from some index on agree from an earlier one on. -/
theorem Agree.mono {i i' depth exit : Nat} {r : Except Failure (α × List Token)}
    {x : Option (Except SourceError α × Cursor)} (h : Agree list i' depth exit r x) (hle : i ≤ i') :
    Agree list i depth exit r x := by
  cases h with
  | ok a j hij hj => exact .ok a j (by omega) hj
  | error fault k j hij hj hopen => exact .error fault k j (by omega) hj hopen

/-- Seen from outside, a level that stays open is one of those that a failure leaves. -/
theorem Agree.keepOpen {i depth exit : Nat} {p : Parser α} {ts : List Token}
    {x : Option (Except SourceError α × Cursor)} (h : Agree list i (depth + 1) exit (p ts) x) :
    Agree list i depth exit (Parser.keepOpen p ts) x := by
  unfold Parser.keepOpen
  generalize p ts = r at h
  cases h with
  | ok a j hij hj => exact .ok a j hij hj
  | error fault k j hij hj hopen =>
    have hdepth : depth + 1 + k = depth + (k + 1) := by omega
    rw [hdepth] at hopen ⊢
    exact .error fault (k + 1) j hij hj hopen

namespace Mirrors

open Machine

variable {m : Machine α} {p : Parser α} {depth exit : Nat}

/-- A machine that only gives a value mirrors the parser that does. -/
theorem pure (a : α) : Mirrors list (Pure.pure a) (Pure.pure a) depth depth :=
  fun i hi => .ok a i (Nat.le_refl i) hi.1

/-- Sequences mirror each other if their parts do. The cursor never goes back, so the second part
starts no earlier than the first. -/
theorem bind {k : α → Machine β} {q : α → Parser β} (hm : Mirrors list m p depth depth)
    (hk : ∀ a, Mirrors list (k a) (q a) depth exit) :
    Mirrors list (m >>= k) (p >>= q) depth exit := by
  intro i hi
  have h := hm i hi
  generalize hr : p (list.tokensFrom i) = r at h
  generalize hx : m ⟨i, depth⟩ = x at h
  cases h with
  | ok a j hij hj =>
    rw [Parser.bind_of_ok hr, Machine.bind_of_ok hx]
    exact (hk a j ⟨hj, hi.2⟩).mono hij
  | error fault n j hij hj hopen =>
    rw [Parser.bind_of_error hr, Machine.bind_of_error hx]
    exact .error fault n j hij hj hopen

/-- The form in which a value is often made of a result. -/
theorem returns (hm : Mirrors list m p depth depth) (f : α → β) :
    Mirrors list (do return f (← m)) (do return f (← p)) depth depth :=
  hm.bind fun a => .pure (f a)

/-- A function applied to the result changes nothing else. -/
theorem map (f : α → β) (hm : Mirrors list m p depth depth) :
    Mirrors list (f <$> m) (f <$> p) depth depth := by
  rw [map_eq_pure_bind, map_eq_pure_bind]
  exact hm.returns f

/-- A refusal mirrors a failure with the same fault. -/
theorem refuse (fault : SyntaxFault) :
    Mirrors list (refuse list fault : Machine α) (Parser.fail fault) depth exit := by
  intro i hi
  rw [refuse_of_le fault hi.1]
  exact .error fault 0 i (Nat.le_refl i) hi.1 hi.2

/-! ## Looking at the next token -/

/-- It is enough to look at each token that may be next, and at the end. -/
theorem of_next {k : Option Token × Position → Machine α}
    (hend : ∀ i, (Cursor.mk i depth).InRange list → list.tokensFrom i = [] →
      Agree list i depth exit (p []) (k (none, list.positionAt i) ⟨i, depth⟩))
    (hnext : ∀ i t rest, (Cursor.mk i depth).InRange list → list.tokensFrom i = t :: rest →
      Agree list i depth exit (p (t :: rest)) (k (some t, list.positionAt i) ⟨i, depth⟩)) :
    Mirrors list (peek list >>= k) p depth exit := by
  intro i hi
  rw [bind_of_ok (peek_of_le hi.1)]
  cases hts : list.tokensFrom i with
  | nil => exact hend i hi hts
  | cons t rest => exact hnext i t rest hi hts

/-- A machine that goes on behind the next token, and a parser that has taken it. -/
theorem taken {k : Option Token × Position → Machine α} {i : Nat} {t : Token} {rest : List Token}
    (hk : ∀ passed, Mirrors list (k passed) p depth exit) (hi : (Cursor.mk i depth).InRange list)
    (hts : list.tokensFrom i = t :: rest) :
    Agree list i depth exit (p rest) ((advance list >>= k) ⟨i, depth⟩) := by
  obtain ⟨hlt, rfl⟩ := TokenList.tokensFrom_cons hts
  obtain ⟨passed, hadvance⟩ := advance_of_cons hts hi.2
  rw [bind_of_ok hadvance]
  exact (hk passed (i + 1) ⟨hlt, hi.2⟩).mono (Nat.le_succ i)

/-- Behind the next token, a parenthesis tells a call from something else. A parser has taken the
token before it looks; a machine looks ahead, and takes both or none. -/
theorem callOr {call other : Machine α} {p q : Parser α} {i : Nat} {t : Token} {rest : List Token}
    (hcall : Mirrors list call p depth exit) (hi : (Cursor.mk i depth).InRange list)
    (hts : list.tokensFrom i = t :: rest)
    (hother : Agree list i depth exit (q rest) (other ⟨i, depth⟩)) :
    Agree list i depth exit ((Parser.accept .lparen >>= fun isCall => if isCall then p else q) rest)
      ((peekAhead list 1 >>= fun next? =>
        if next? = some (.mark .lparen) then
          advance list >>= fun _ => advance list >>= fun _ => call
        else other) ⟨i, depth⟩) := by
  rw [bind_of_ok (peekAhead_eq 1), hts]
  cases rest with
  | nil => exact hother
  | cons u rest =>
    by_cases hu : u = .mark .lparen
    · obtain ⟨hlt, hrest⟩ := TokenList.tokensFrom_cons hts
      obtain ⟨_, hadvance⟩ := advance_of_cons hts hi.2
      rw [hu, Parser.bind_of_ok (Parser.accept_cons_self .lparen rest)]
      show Agree _ _ _ _ _ ((advance list >>= fun _ => advance list >>= fun _ => call) ⟨i, depth⟩)
      rw [bind_of_ok hadvance]
      exact (taken (fun _ => hcall) ⟨hlt, hi.2⟩ hrest.symm).mono (Nat.le_succ i)
    · rw [Parser.bind_of_ok (Parser.accept_cons_of_ne hu rest)]
      simpa [hu] using hother

/-- A machine that stays where it is, and a parser that has not taken anything. -/
theorem stays {i : Nat} {ts : List Token} (h : Mirrors list m p depth exit)
    (hi : (Cursor.mk i depth).InRange list) (hts : list.tokensFrom i = ts) :
    Agree list i depth exit (p ts) (m ⟨i, depth⟩) := by
  rw [← hts]
  exact h i hi

/-- Taking a token if it is next, for a parser that does so. -/
theorem accept_of {t : Token} {p : Parser Bool} (hend : p [] = .ok (false, []))
    (hself : ∀ ts, p (t :: ts) = .ok (true, ts))
    (hother : ∀ u ts, u ≠ t → p (u :: ts) = .ok (false, u :: ts)) :
    Mirrors list (accept list t) p depth depth := by
  refine of_next (fun i hi hts => ?_) fun i u rest hi hts => ?_
  · rw [hend]
    exact (pure false).stays hi hts
  · by_cases hu : u = t
    · subst hu
      rw [hself, if_pos rfl]
      exact taken (p := Pure.pure true) (fun _ => pure true) hi hts
    · rw [hother u rest hu, if_neg fun h => hu (Option.some.inj h)]
      exact (pure false).stays hi hts

/-- Taking a mark if it is next. -/
theorem accept (n : Mark) :
    Mirrors list (accept list (.mark n)) (Parser.accept n) depth depth :=
  accept_of rfl (Parser.accept_cons_self n) fun _ ts hu => Parser.accept_cons_of_ne hu ts

/-- Taking a keyword if it is next. -/
theorem acceptKeyword (k : Keyword) :
    Mirrors list (Machine.accept list (.keyword k)) (Parser.acceptKeyword k) depth depth := by
  refine accept_of rfl (fun ts => ?_) fun u ts hu => ?_
  · rw [Parser.acceptKeyword, if_pos rfl]
  · unfold Parser.acceptKeyword
    split
    · next l rest heq =>
      obtain ⟨rfl, rfl⟩ := List.cons.inj heq
      rw [if_neg fun hl => hu (by rw [hl])]
    · rfl

/-- Taking a mark that has to be next. -/
theorem expect (n : Mark) (context : Context) :
    Mirrors list (Machine.expect list n context) (Parser.expect n context) depth depth := by
  have hparser : Parser.expect n context =
      (Parser.accept n >>= fun taken =>
        if taken then Pure.pure () else Parser.fail (.missingMark n context)) := by
    funext ts
    cases ts with
    | nil => rfl
    | cons u ts =>
      by_cases hu : u = .mark n
      · rw [hu, Parser.bind_of_ok (Parser.accept_cons_self n ts), Parser.expect, if_pos rfl]
        rfl
      · rw [Parser.bind_of_ok (Parser.accept_cons_of_ne hu ts)]
        unfold Parser.expect
        split
        · next n' rest heq =>
          obtain ⟨rfl, rfl⟩ := List.cons.inj heq
          rw [if_neg fun hn => hu (by rw [hn])]
          rfl
        · rfl
  rw [hparser]
  refine (accept n).bind fun taken => ?_
  cases taken with
  | true => exact pure ()
  | false => exact refuse _

/-- Taking a name that has to be next. -/
theorem identifier : Mirrors list (identifier list) Parser.identifier depth depth := by
  refine of_next (fun i hi hts => (refuse .missingIdentifier).stays hi hts)
    fun i t rest hi hts => ?_
  cases t with
  | ident name => exact taken (p := Pure.pure name) (fun _ => pure name) hi hts
  | _ => exact (refuse .missingIdentifier).stays hi hts

/-- Taking the size of an array, which has to be a number. -/
theorem arraySize : Mirrors list (arraySize list) Parser.arraySize depth depth := by
  refine of_next (fun i hi hts => (refuse .missingArraySize).stays hi hts) fun i t rest hi hts => ?_
  cases t with
  | intLit text =>
    exact taken (p := Pure.pure (IntLiteral.mk text)) (fun _ => pure (IntLiteral.mk text)) hi hts
  | _ => exact (refuse .missingArraySize).stays hi hts

/-- Taking an operator of a precedence if it is next. -/
theorem operator? (level : Level) :
    Mirrors list (operator? list level) (Parser.operator? level) depth depth := by
  refine of_next (fun i hi hts => (pure none).stays hi hts) fun i t rest hi hts => ?_
  cases t with
  | mark n =>
    unfold Parser.operator?
    dsimp only
    cases BinaryOp.ofMark? n with
    | none => exact (pure none).stays hi hts
    | some op =>
      by_cases hlevel : op.level = level
      · simp only [if_pos hlevel]
        exact taken (p := Pure.pure (some op)) (fun _ => pure (some op)) hi hts
      · simp only [if_neg hlevel]
        exact (pure none).stays hi hts
  | _ => exact (pure none).stays hi hts

/-- Taking an operator in front of an operand if it is next. -/
theorem unaryOperator? :
    Mirrors list (unaryOperator? list) Parser.unaryOperator? depth depth := by
  refine of_next (fun i hi hts => (pure none).stays hi hts) fun i t rest hi hts => ?_
  cases t with
  | mark n =>
    unfold Parser.unaryOperator?
    dsimp only
    cases UnaryOp.ofMark? n with
    | none => exact (pure none).stays hi hts
    | some op => exact taken (p := Pure.pure (some op)) (fun _ => pure (some op)) hi hts
  | _ => exact (pure none).stays hi hts

/-! ## Tests of the next token -/

/-- A test of the next token moves nothing. -/
theorem nextIs_of_inRange (test : Option Token → Bool) {i : Nat}
    (hi : (Cursor.mk i depth).InRange list) :
    nextIs list test ⟨i, depth⟩ = some (.ok (test (list.tokensFrom i).head?), ⟨i, depth⟩) := by
  rw [nextIs, bind_of_ok (peek_of_le hi.1)]
  rfl

/-- Going on in one way where the test holds of the next token, and in another where it does not. -/
theorem nextIs {test : Option Token → Bool} {yes no : Machine α} {p q r : Parser α}
    (hyes : Mirrors list yes p depth exit) (hno : Mirrors list no q depth exit)
    (hr : ∀ ts, r ts = if test ts.head? then p ts else q ts) :
    Mirrors list (Machine.nextIs list test >>= fun b => if b then yes else no) r depth exit := by
  intro i hi
  rw [bind_of_ok (nextIs_of_inRange test hi), hr]
  cases test (list.tokensFrom i).head? with
  | true => exact hyes i hi
  | false => exact hno i hi

/-- The parser's test looks at the next token only. -/
theorem isNext_head (n : Mark) (ts : List Token) :
    Parser.isNext n ts = decide (ts.head? = some (.mark n)) := by
  cases ts with
  | nil => rfl
  | cons t ts => cases t <;> simp [Parser.isNext]

/-- A part that may be missing: the test for the mark behind it comes first. -/
theorem unlessNext (n : Mark) (hm : Mirrors list m p depth depth) :
    Mirrors list (Machine.isNext list n >>= fun b => if b then Pure.pure none else some <$> m)
      (Parser.unlessNext n p) depth depth := by
  refine nextIs (pure none) (hm.map some) fun ts => ?_
  rw [Parser.unlessNext, isNext_head]
  rfl

/-! ## Loops -/

/-- A loop without a look at what its rounds take, and a repetition that ends at a round that takes
nothing. They do the same if every round takes something. -/
theorem loop (test : Option Token → Bool) {more : List Token → Bool} {loop : Machine (List α)}
    (hloop : loop = Machine.nextIs list test >>= fun b =>
      if b then m >>= fun a => loop >>= fun as => Pure.pure (a :: as) else Pure.pure [])
    (hmore : ∀ ts, more ts = test ts.head?) (hround : Mirrors list m p depth depth)
    (htakes : ∀ ⦃ts rest a⦄, more ts = true → p ts = .ok (a, rest) → rest.length < ts.length) :
    Mirrors list loop (Parser.repeatWhile more p) depth depth := by
  intro i hi
  -- The induction is on the tokens that are left.
  induction hn : list.tokens.length - i using Nat.strongRecOn generalizing i with
  | _ n ih =>
  rw [hloop, bind_of_ok (nextIs_of_inRange test hi), ← hmore]
  cases hts : more (list.tokensFrom i) with
  | false =>
    rw [Parser.repeatWhile_of_stop hts]
    exact pure [] i hi
  | true =>
    show Agree _ _ _ _ _ ((m >>= fun a => loop >>= fun as => Pure.pure (a :: as)) ⟨i, depth⟩)
    have h := hround i hi
    generalize hr : p (list.tokensFrom i) = r at h
    generalize hx : m ⟨i, depth⟩ = x at h
    cases h with
    | error fault k j hij hj hopen =>
      rw [Parser.repeatWhile_of_error hts hr, bind_of_error hx]
      exact .error fault k j hij hj hopen
    | ok a j hij hj =>
      have hlt := htakes hts hr
      rw [Parser.repeatWhile_of_round hts hr hlt, bind_of_ok hx]
      rw [TokenList.length_tokensFrom, TokenList.length_tokensFrom] at hlt
      have hrest := ih (list.tokens.length - j) (by omega) j ⟨hj, hi.2⟩ rfl
      generalize Parser.repeatWhile more p (list.tokensFrom j) = r at hrest
      generalize hx : loop ⟨j, depth⟩ = x at hrest
      cases hrest with
      | ok as j' hjj' hj' =>
        rw [bind_of_ok hx]
        exact .ok (a :: as) j' (by omega) hj'
      | error fault k j' hjj' hj' hopen =>
        rw [bind_of_error hx]
        exact .error fault k j' (by omega) hj' hopen

/-- A list with commas up to a closing mark, whose loop the machine has as a routine of its own. -/
theorem separatedUntil (n : Mark) {more : Machine (List α)} (hm : Mirrors list m p depth depth)
    (hmore : Mirrors list more
      (Parser.repeatWhile (Parser.isNext .comma) (Parser.accept .comma >>= fun _ => p))
      depth depth) :
    Mirrors list (Machine.isNext list n >>= fun b =>
      if b then Pure.pure [] else m >>= fun a => more >>= fun as => Pure.pure (a :: as))
      (Parser.separatedUntil n p) depth depth := by
  refine nextIs (pure []) (hm.bind fun a => hmore.returns (a :: ·)) fun ts => ?_
  -- The machine asks for the closing mark by itself, where the parser goes through an option.
  have hsome : ∀ q : Parser (List α),
      (some <$> q >>= fun as? => Pure.pure (as?.getD [])) = q := by
    intro q
    simp only [map_eq_pure_bind, bind_assoc, pure_bind, Option.getD_some, bind_pure]
  rw [← isNext_head]
  cases hn : Parser.isNext n ts with
  | true =>
    have hunless : Parser.unlessNext n (Parser.separated p) ts = .ok (none, ts) := by
      rw [Parser.unlessNext, hn]
      rfl
    exact Parser.bind_of_ok hunless
  | false =>
    have hunless : Parser.unlessNext n (Parser.separated p) ts =
        (some <$> Parser.separated p) ts := by
      rw [Parser.unlessNext, hn]
      rfl
    show (Parser.unlessNext n (Parser.separated p) >>= fun as? => Pure.pure (as?.getD [])) ts =
      Parser.separated p ts
    conv => rhs; rw [← hsome (Parser.separated p)]
    simp only [Bind.bind, StateT.bind, hunless]

/-! ## Levels of nesting -/

/-- With all levels open, opening one more is refused before anything else happens. -/
theorem full (h : depth = maxNesting) :
    Mirrors list (openLevel list >>= fun _ => m) (Parser.fail .nestingTooDeep) depth exit := by
  intro i hi
  have hopen : openLevel list ⟨i, depth⟩ =
      (Machine.refuse list .nestingTooDeep : Machine Unit) ⟨i, depth⟩ := by
    rw [openLevel, get_bind, if_pos (Nat.le_of_eq h.symm)]
  rw [refuse_of_le _ hi.1] at hopen
  rw [bind_of_error hopen]
  exact .error .nestingTooDeep 0 i (Nat.le_refl i) hi.1 hi.2

/-- With a level to spare, opening it only adds one to the depth. -/
theorem openLevel_of_lt {i : Nat} (hi : i ≤ list.tokens.length) (h : depth < maxNesting) :
    openLevel list ⟨i, depth⟩ = some (.ok (), ⟨i, depth + 1⟩) := by
  rw [openLevel, get_bind, if_neg (Nat.not_le.mpr h)]
  exact moveTo_of_inRange (Nat.le_refl i) ⟨hi, h⟩

/-- A level that stays open if what follows fails. -/
theorem opened (hm : Mirrors list m p (depth + 1) exit) (h : depth < maxNesting) :
    Mirrors list (openLevel list >>= fun _ => m) (Parser.keepOpen p) depth exit := by
  intro i hi
  rw [bind_of_ok (openLevel_of_lt hi.1 h)]
  exact (hm i ⟨hi.1, h⟩).keepOpen

/-- A level that is opened before the next token is taken. -/
theorem opened_taken {k : Option Token × Position → Machine α} {i : Nat} {t : Token}
    {rest : List Token} (hk : ∀ passed, Mirrors list (k passed) p (depth + 1) exit)
    (h : depth < maxNesting) (hi : i ≤ list.tokens.length) (hts : list.tokensFrom i = t :: rest) :
    Agree list i depth exit (Parser.keepOpen p rest)
      ((openLevel list >>= fun _ => advance list >>= k) ⟨i, depth⟩) := by
  rw [bind_of_ok (openLevel_of_lt hi h)]
  exact (taken hk ⟨hi, h⟩ hts).keepOpen

/-- A level that is closed whatever the outcome is. -/
theorem nested {r : Routine α} (hr : Mirrors list (r.perform list) p (depth + 1) (depth + 1))
    (h : depth < maxNesting) : Mirrors list ((Routine.nested r).perform list) p depth depth := by
  intro i hi
  rw [Routine.perform, bind_of_ok (openLevel_of_lt hi.1 h)]
  -- The level is closed after a failure too, so only what the routine itself left open stays open.
  have hclose : ∀ {outcome : Except SourceError α} {j k : Nat},
      r.perform list ⟨i, depth + 1⟩ = some (outcome, ⟨j, k + 1⟩) → j ≤ list.tokens.length →
      k ≤ maxNesting →
      (do
        let outcome ← (r.perform list).run
        let _ ← (closeLevel list).run
        return outcome : StateT Cursor Option (Except SourceError α)) ⟨i, depth + 1⟩ =
        some (outcome, ⟨j, k⟩) := by
    intro outcome j k hrun hj hk
    have hmove : closeLevel list ⟨j, k + 1⟩ = some (.ok (), ⟨j, k⟩) :=
      moveTo_of_inRange (Nat.le_refl j) ⟨hj, hk⟩
    simp [Bind.bind, StateT.bind, ExceptT.run, hrun, hmove, Pure.pure, StateT.pure]
  have hinner := hr i ⟨hi.1, h⟩
  generalize p (list.tokensFrom i) = o at hinner
  generalize hx : r.perform list ⟨i, depth + 1⟩ = x at hinner
  cases hinner with
  | ok a j hij hj =>
    rw [hclose hx hj hi.2]
    exact .ok a j hij hj
  | error fault k j hij hj hopen =>
    have hdepth : depth + 1 + k = depth + k + 1 := by omega
    rw [hdepth] at hx hopen
    rw [hclose hx hj (by omega)]
    exact .error fault k j hij hj (by omega)

/-- Closing levels down to where a chain began; this may not go below what is open outside. -/
theorem closed (a : α) (h : exit ≤ maxNesting) :
    Mirrors list (closeTo list exit >>= fun _ => Pure.pure a) (Pure.pure a) depth exit := by
  intro i hi
  have hclose : closeTo list exit ⟨i, depth⟩ = some (.ok (), ⟨i, exit⟩) := by
    rw [closeTo, get_bind]
    exact moveTo_of_inRange (Nat.le_refl i) ⟨hi.1, h⟩
  rw [bind_of_ok hclose]
  exact .ok a i (Nat.le_refl i) hi.1

end Mirrors

end Mirrors

end SyntaxOutline
