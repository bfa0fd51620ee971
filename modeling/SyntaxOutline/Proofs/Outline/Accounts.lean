import SyntaxOutline.Proofs.Outline.FullSink

/-!
# The accounts of a printer

A printer can be asked for more after a refusal, which may have come in the middle of an
indentation or of a value. What its sink holds, which lines it says went through and how many it has
counted agree all the same, after every request: they are those of one text, the lines asked for so
far, refused ones included.

The reason is that a sink that has refused something is full and that no line is empty, so that
writing on after a refusal is writing everything at once (`Sink.write_write`). One request keeps the
accounts (`InAccount.step`), and so does a run of them (`inAccount_stages`).
-/

namespace SyntaxOutline

namespace Sink

/-- Writing on, whether or not all of the first stretch was taken, is writing both at once. -/
theorem write_write (s : Sink) (a : ByteArray) {b : ByteArray} (hb : b.size ≠ 0) :
    (s.write a).2.write b = s.write (a ++ b) := by
  rw [write_append]
  cases ha : s.write a with
  | mk fault? after =>
    cases fault? with
    | none => rfl
    | some fault =>
      -- The sink is full by now; only an empty stretch could still be said to be taken.
      have hfault : fault = after.whenFull.fault := by
        rw [fault_of_refused ha, ← whenFull_write s a, ha]
      rw [hfault]
      exact write_of_full hb (room_of_refused ha _)

/-- `now` is what a sink comes to when `whole` is written to it, but for the times that it was asked
to pass its bytes on. -/
def Becomes (s : Sink) (whole : ByteArray) (now : Sink) : Prop :=
  now = { (s.write whole).2 with flushed := now.flushed }

/-- Before anything is written. -/
theorem becomes_empty (s : Sink) : s.Becomes .empty s := by
  rw [Becomes, write_empty]

variable {s now : Sink} {whole : ByteArray}

/-- What the sink holds is what one write of everything would have left there. -/
theorem Becomes.held_eq (h : s.Becomes whole now) : now.held = (s.write whole).2.held := by
  rw [h]

/-- Writing on, also after a refusal, is writing all of it at once. -/
theorem Becomes.write (h : s.Becomes whole now) {bytes : ByteArray} (hne : bytes.size ≠ 0) :
    (now.write bytes).1 = (s.write (whole ++ bytes)).1 ∧
      s.Becomes (whole ++ bytes) (now.write bytes).2 := by
  -- The record of what was passed on has no part in writing.
  have hlog : ∀ (t : Sink) (log : List Nat), ({ t with flushed := log } : Sink).write bytes
      = ((t.write bytes).1, { (t.write bytes).2 with flushed := log }) := by
    intro t log
    rw [write_eq, write_eq]
    rfl
  have hnow : now.write bytes = ((s.write (whole ++ bytes)).1,
      { (s.write (whole ++ bytes)).2 with flushed := now.flushed }) := by
    rw [← write_write s whole hne, ← hlog, ← h]
  rw [hnow]
  exact ⟨rfl, rfl⟩

/-- To be asked to pass on what it holds leaves a sink as it is, but for the record of that. How it
answers goes by how often it has been asked. -/
theorem Becomes.flush (h : s.Becomes whole now) :
    now.flush.1 = s.flushFault? now.flushed.length ∧ s.Becomes whole now.flush.2 := by
  have hfault : now.flushFault? = s.flushFault? := by
    rw [h, write_eq]
    rfl
  refine ⟨by rw [Sink.flush, hfault], ?_⟩
  rw [Becomes, Sink.flush]
  dsimp only
  rw [h]

/-- Writing is not to be asked to pass anything on. -/
theorem flushed_write (s : Sink) (bytes : ByteArray) : (s.write bytes).2.flushed = s.flushed := by
  rw [write_eq]
  rfl

end Sink

/-- No line is empty: there is the line feed. -/
theorem Line.size_text_ne_zero (unit : String) (l : Line) : (l.text unit).toUTF8.size ≠ 0 := by
  have hfeed : (l.text unit).toUTF8
      = (String.join (List.replicate l.depth unit) ++ l.body).toUTF8 ++ "\n".toUTF8 :=
    String.toByteArray_append
  have hone : "\n".toUTF8.size = 1 := rfl
  rw [hfeed, ByteArray.size_append, hone]
  exact Nat.succ_ne_zero _

/-- The numbers that stand for no token, and only those, have the name that says so. -/
theorem Token.codeName_eq_unknown_iff (code : Nat) :
    Token.codeName code = "UNKNOWN TOKEN" ↔ Token.codeNames.length ≤ code := by
  have hnames : "UNKNOWN TOKEN" ∉ Token.codeNames := by decide
  rw [Token.codeName]
  constructor
  · intro h
    by_contra hlt
    rw [List.getElem?_eq_getElem (Nat.lt_of_not_le hlt), Option.getD_some] at h
    exact hnames (h ▸ List.getElem_mem _)
  · intro h
    rw [List.getElem?_eq_none h]
    rfl

namespace Printer

/-- What can be asked of a printer: a line of one of four kinds, or to pass on what it has
written. -/
inductive Request where
  | named (depth : Nat) (name : String)
  | token (depth code : Nat)
  | tokenValue (depth code : Nat) (value : String)
  | labelled (depth : Nat) (label value : String)
  | flush
deriving DecidableEq, Repr

namespace Request

/-- The step that a request comes to. -/
def step : Request → Step
  | named depth name => .print (.named depth name)
  | token depth code => .print (.token depth code)
  | tokenValue depth code value => .print (.tokenValue depth code value)
  | labelled depth label value => .print (.labelled depth label value)
  | flush => .flush

/-- The line that is asked for, its depth apart from what stands behind the indentation. -/
def line? : Request → Option (Nat × String)
  | named depth name => some (depth, name)
  | token depth code => some (depth, Token.codeName code)
  | tokenValue depth code value => some (depth, Token.codeName code ++ " (" ++ value ++ ")")
  | labelled depth label value => some (depth, label ++ " (" ++ value ++ ")")
  | flush => none

/-- The whole line that is asked for. -/
def text? (unit : String) (r : Request) : Option String :=
  r.line?.map fun (depth, shown) => String.join (List.replicate depth unit) ++ shown ++ "\n"

/-- A token with a number that stands for nothing is shown as unknown, also with a value. -/
theorem text?_of_unknown (unit : String) {code : Nat} (h : Token.codeNames.length ≤ code)
    (depth : Nat) (value : String) :
    (token depth code).text? unit
        = some (String.join (List.replicate depth unit) ++ "UNKNOWN TOKEN" ++ "\n") ∧
      (tokenValue depth code value).text? unit
        = some (String.join (List.replicate depth unit)
          ++ ("UNKNOWN TOKEN" ++ " (" ++ value ++ ")") ++ "\n") := by
  rw [← (Token.codeName_eq_unknown_iff code).mpr h]
  exact ⟨rfl, rfl⟩

/-- A request is to pass on what was written, or its step is to print the line that it asks for. -/
theorem flush_or_print (r : Request) (unit : String) :
    r = flush ∨ r ≠ flush ∧ ∃ l, r.step = .print l ∧ r.text? unit = some (l.text unit) := by
  cases r with
  | named depth name => exact .inr ⟨nofun, _, rfl, rfl⟩
  | token depth code => exact .inr ⟨nofun, _, rfl, rfl⟩
  | tokenValue depth code value => exact .inr ⟨nofun, _, rfl, rfl⟩
  | labelled depth label value => exact .inr ⟨nofun, _, rfl, rfl⟩
  | flush => exact .inl rfl

end Request

/-- The bytes of all lines that are asked for, in order. -/
def asked (unit : String) (rs : List Request) : ByteArray :=
  (String.join (rs.filterMap (Request.text? unit))).toUTF8

/-- What a printer gives for each of some requests, and the printer after it. It goes on after a
refusal. -/
def answers (p : Printer Sink) (rs : List Request) : List (Option SinkFault × Printer Sink) :=
  p.steps (rs.map Request.step)

/-- The printer before each of some requests and, at the end, after all of them. -/
def stages (p : Printer Sink) (rs : List Request) : List (Printer Sink) := p :: (p.answers rs).map Prod.snd

/-- The number of requests for a line that were met without a fault. -/
def met (rs : List Request) (answers : List (Option SinkFault × Printer Sink)) : Nat :=
  (rs.zip answers).countP fun (r, fault?, _) => r ≠ .flush && fault?.isNone

/-- What is asked for in two parts is asked for one after the other. -/
theorem asked_append (unit : String) (rs rs' : List Request) :
    asked unit (rs ++ rs') = asked unit rs ++ asked unit rs' := by
  rw [asked, List.filterMap_append, String.join_append]
  exact String.toByteArray_append

/-- Each request has an answer. -/
theorem length_answers (p : Printer Sink) (rs : List Request) : (p.answers rs).length = rs.length := by
  induction rs generalizing p with
  | nil => rfl
  | cons r rs ih => exact congrArg Nat.succ (ih _)

/-- Each answer is that of the printer as it is before the request. -/
theorem answers_getElem? (p : Printer Sink) {rs : List Request} {k : Nat} {r : Request}
    (h : rs[k]? = some r) :
    ∃ q, (p.stages rs)[k]? = some q ∧ (p.answers rs)[k]? = some (q.step r.step) := by
  induction rs generalizing p k with
  | nil => cases h
  | cons r' rs ih =>
    cases k with
    | zero =>
      cases h
      exact ⟨p, rfl, rfl⟩
    | succ k => exact ih (p.step r'.step).2 h

/-- One more request asks for its own text behind what was asked before. -/
theorem asked_take_succ (unit : String) {rs : List Request} {k : Nat} {r : Request}
    (hr : rs[k]? = some r) :
    asked unit (rs.take (k + 1)) = asked unit (rs.take k) ++ asked unit [r] := by
  rw [List.take_add_one, hr]
  exact asked_append unit _ _

/-- One more request is met if its own answer is no fault. -/
theorem met_take_succ (p : Printer Sink) {rs : List Request} {k : Nat} {r : Request}
    {answer : Option SinkFault × Printer Sink} (hr : rs[k]? = some r)
    (ha : (p.answers rs)[k]? = some answer) :
    met (rs.take (k + 1)) ((p.answers rs).take (k + 1))
      = met (rs.take k) ((p.answers rs).take k) + met [r] [answer] := by
  have hlength : (rs.take k).length = ((p.answers rs).take k).length := by
    rw [List.length_take, List.length_take, length_answers]
  rw [List.take_add_one, List.take_add_one, hr, ha, met, List.zip_append hlength,
    List.countP_append]
  rfl

/-- The accounts of a printer that has become `p` since it was `start`: the bytes it was asked to
write in the meantime, how many lines went through, and how often it was asked to pass them on. -/
structure InAccount (start : Printer Sink) (whole : ByteArray) (count passes : Nat)
    (p : Printer Sink) : Prop where
  unit : p.unit = start.unit
  sink : start.sink.Becomes whole p.sink
  lines : p.lines = start.lines + count
  flushes : p.sink.flushed.length = start.sink.flushed.length + passes

variable {start p : Printer Sink} {whole : ByteArray} {count passes : Nat}

/-- A line is added to the bytes, and to the count if it went through. -/
theorem InAccount.print (h : InAccount start whole count passes p) (l : Line) :
    (p.print l).1 = (start.sink.write (whole ++ (l.text start.unit).toUTF8)).1 ∧
      InAccount start (whole ++ (l.text start.unit).toUTF8)
        (count + if (p.print l).1.isNone then 1 else 0) passes (p.print l).2 := by
  obtain ⟨hfault, hsink⟩ := h.sink.write (l.size_text_ne_zero start.unit)
  rw [print_eq, h.unit]
  refine ⟨hfault, rfl, hsink, ?_, ?_⟩
  · dsimp only
    rw [h.lines]
    split <;> rfl
  · dsimp only
    rw [Sink.flushed_write, h.flushes]

/-- To pass on what was written is added to nothing but the number of times. -/
theorem InAccount.flush (h : InAccount start whole count passes p) :
    p.flush.1 = start.sink.flushFault? (start.sink.flushed.length + passes) ∧
      InAccount start whole count (passes + 1) p.flush.2 := by
  obtain ⟨hfault, hsink⟩ := h.sink.flush
  refine ⟨?_, h.unit, hsink, h.lines, ?_⟩
  · rw [← h.flushes]
    exact hfault
  · show (p.sink.flushed ++ [_]).length = _
    rw [List.length_append, h.flushes]
    rfl

/-- One request keeps the accounts, whatever comes of it. -/
theorem InAccount.step (h : InAccount start whole count passes p) (r : Request) :
    (p.step r.step).1 = (if r = .flush then start.sink.flushFault? (start.sink.flushed.length + passes)
        else (start.sink.write (whole ++ asked start.unit [r])).1) ∧
      InAccount start (whole ++ asked start.unit [r]) (count + met [r] [p.step r.step])
        (passes + [r].count .flush) (p.step r.step).2 := by
  rcases r.flush_or_print start.unit with rfl | ⟨hr, l, hstep, htext⟩
  · have hasked : whole ++ asked start.unit [.flush] = whole := ByteArray.append_empty
    rw [if_pos rfl, hasked]
    exact h.flush
  · have hasked : asked start.unit [r] = (l.text start.unit).toUTF8 := by
      rw [asked, List.filterMap_cons_some htext, List.filterMap_nil]
      simp [String.join_cons]
    have hmet : met [r] [p.print l] = if (p.print l).1.isNone then 1 else 0 := by
      simp [met, hr, List.countP_cons]
    have hcount : [r].count .flush = 0 := List.count_singleton.trans (by simp [hr])
    rw [if_neg hr, hstep, hasked, Printer.step, hmet, hcount]
    exact h.print l

/-- A run of requests keeps the accounts, at every stage of it. -/
theorem inAccount_stages (start : Printer Sink) (rs : List Request) {k : Nat}
    (hk : (start.stages rs)[k]? = some p) :
    InAccount start (asked start.unit (rs.take k))
      (met (rs.take k) ((start.answers rs).take k)) ((rs.take k).count .flush) p := by
  induction k generalizing p with
  | zero =>
    cases hk
    exact ⟨rfl, start.sink.becomes_empty, rfl, rfl⟩
  | succ k ih =>
    -- The printer at this stage is the one that the last answer left.
    rw [stages, List.getElem?_cons_succ, List.getElem?_map, Option.map_eq_some_iff] at hk
    obtain ⟨answer, ha, rfl⟩ := hk
    have hlt : k < rs.length := by
      rw [← length_answers start rs]
      exact (List.getElem?_eq_some_iff.mp ha).1
    have hr : rs[k]? = some rs[k] := List.getElem?_eq_getElem hlt
    obtain ⟨q, hq, haq⟩ := answers_getElem? start hr
    rw [ha, Option.some.injEq] at haq
    have hcount : (rs.take (k + 1)).count .flush
        = (rs.take k).count .flush + [rs[k]].count .flush := by
      rw [List.take_add_one, hr]
      exact List.count_append
    rw [asked_take_succ _ hr, met_take_succ start hr ha, haq, hcount]
    exact ((ih hq).step _).2

/-- A printer keeps its accounts over any run of requests, also after failures. The printer is new
and its sink takes at most `limit` bytes. After each request the sink holds the first bytes of all
lines asked for so far, those of failed requests included; a request for a line succeeds exactly if
the lines up to it are not too many bytes; the lines counted are those that succeeded. To pass on
what was written leaves the printer as it was, but for the record of that, and fails exactly if the
sink refuses it that time, for the reason that the sink gives. -/
theorem answers_in_account (unit : String) (limit : Nat) (whenFull : WhenFull)
    (flushFault? : Nat → Option SinkFault) (rs : List Request) :
    let start := Printer.new unit (Sink.limited limit whenFull flushFault?)
    let answers := start.answers rs
    answers.length = rs.length ∧
    ∀ (k : Nat) (r : Request) (fault? : Option SinkFault) (p : Printer Sink),
      rs[k]? = some r → answers[k]? = some (fault?, p) →
      let whole := asked unit (rs.take (k + 1))
      p.sink.held = whole.extract 0 (min limit whole.size) ∧
      (r ≠ .flush → (fault? = none ↔ whole.size ≤ limit)) ∧
      p.lines = met (rs.take (k + 1)) (answers.take (k + 1)) ∧
      (r = .flush → fault? = flushFault? ((rs.take k).count .flush) ∧
        ∃ q, (start.stages rs)[k]? = some q ∧
          p = { q with sink := { q.sink with
            flushed := q.sink.flushed ++ [q.sink.held.size] } }) := by
  intro start answers
  refine ⟨length_answers start rs, ?_⟩
  intro k r fault? p hr ha whole
  obtain ⟨q, hq, haq⟩ := answers_getElem? start hr
  have hstep : q.step r.step = (fault?, p) := Option.some.inj (haq.symm.trans ha)
  -- The invariant holds where the request is made, and one step carries it behind the answer.
  have hkept := (inAccount_stages start rs hq).step r
  rw [hstep, ← asked_take_succ _ hr, ← met_take_succ start hr ha] at hkept
  obtain ⟨hfault, haccount⟩ := hkept
  have hwrite : start.sink.write whole = _ := Sink.write_limited limit whenFull flushFault? whole
  refine ⟨?_, ?_, ?_, ?_⟩
  · have hheld : p.sink.held = (start.sink.write whole).2.held := haccount.sink.held_eq
    rw [hheld, hwrite, Nat.min_comm]
  · intro hline
    rw [if_neg hline] at hfault
    have hgiven : fault? = if whole.size ≤ limit then none else some whenFull.fault :=
      hfault.trans (congrArg Prod.fst hwrite)
    simp [hgiven]
  · exact haccount.lines.trans (Nat.zero_add _)
  · rintro rfl
    have hgiven : fault? = flushFault? (0 + (rs.take k).count .flush) := hfault
    rw [Nat.zero_add] at hgiven
    exact ⟨hgiven, q, hq, (congrArg Prod.snd hstep).symm⟩

/-- A run in which the indentation of the second line is already too much for ten bytes. The last
line is a line feed alone. -/
def overfull : List Request :=
  [.named 0 "A", .flush, .tokenValue 3 17 "x", .flush, .named 0 ""]

/-- After the second line not even a line feed gets in or is counted, and to be asked to pass on
what it holds changes nothing. The sink of this run refuses that the second time only. -/
theorem answers_in_account_overfull :
    ∃ (passed refused fault? : Option SinkFault) (before q p : Printer Sink),
      let refusing : Nat → Option SinkFault := fun n => if n = 1 then some .flushRefused else none
      let answers := (Printer.new "   " (Sink.limited 10 .takesNothing refusing)).answers overfull
      answers[1]? = some (passed, before) ∧ answers[3]? = some (refused, q) ∧
      answers[4]? = some (fault?, p) ∧
      passed = none ∧ refused = some .flushRefused ∧ q.sink.held = "A\n        ".toUTF8 ∧
      fault? ≠ none ∧ p.sink.held = "A\n        ".toUTF8 ∧ p.lines = 1 := by
  obtain ⟨hlength, haccount⟩ := answers_in_account "   " 10 .takesNothing
    (fun n => if n = 1 then some .flushRefused else none) overfull
  have hget : ∀ k, k < 5 → ∃ fault? p,
      ((Printer.new "   " (Sink.limited 10 .takesNothing
        fun n => if n = 1 then some .flushRefused else none)).answers overfull)[k]?
        = some (fault?, p) :=
    fun k hk => ⟨_, _, List.getElem?_eq_getElem (Nat.lt_of_lt_of_eq hk hlength.symm)⟩
  obtain ⟨passed, before, hbefore⟩ := hget 1 (by decide)
  obtain ⟨refused, q, hq⟩ := hget 3 (by decide)
  obtain ⟨fault?, p, hp⟩ := hget 4 (by decide)
  obtain ⟨-, -, -, hpassed⟩ := haccount 1 .flush passed before rfl hbefore
  obtain ⟨hqheld, -, -, hflush⟩ := haccount 3 .flush refused q rfl hq
  obtain ⟨hpheld, hline, hlines, -⟩ := haccount 4 (.named 0 "") fault? p rfl hp
  refine ⟨passed, refused, fault?, before, q, p, hbefore, hq, hp, (hpassed rfl).1, (hflush rfl).1,
    ?_, ?_, ?_, ?_⟩
  · rw [hqheld]
    decide +kernel
  · rw [Ne, hline (by decide)]
    decide +kernel
  · rw [hpheld]
    decide +kernel
  · rw [hlines]
    decide +kernel

end Printer

end SyntaxOutline
