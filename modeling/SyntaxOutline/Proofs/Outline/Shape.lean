import SyntaxOutline.Proofs.Outline.LineText

/-!
# The entries of an outline give back its node

Every part of a node shows where it starts: a header or a token comes first that tells its form. A
list shows where it ends by what cannot start an element. So the entries at the front of a list are
those of at most one node, and what follows them is determined too. The depths of the items are not
needed for that.
-/

namespace SyntaxOutline

namespace Item

@[simp] theorem entry_header (d : Nat) (h : Header) : (header d h).entry = .header h := rfl

@[simp] theorem entry_keyword (d : Nat) (k : Keyword) : (keyword d k).entry = .token (.keyword k) :=
  rfl

@[simp] theorem entry_mark (d : Nat) (m : Mark) : (mark d m).entry = .token (.mark m) := rfl

@[simp] theorem entry_ident (d : Nat) (name : String) : (ident d name).entry = .token (.ident name) :=
  rfl

@[simp] theorem entry_int (d : Nat) (l : IntLiteral) : (int d l).entry = .token (.intLit l.text) :=
  rfl

@[simp] theorem entry_real (d : Nat) (l : RealLiteral) :
    (real d l).entry = .token (.realLit l.text) := rfl

@[simp] theorem entry_type (d : Nat) (t : TypeName) : (type d t).entry = .type t := rfl

end Item

/-- At the front of any list, `f a` tells `a` and where `f a` ends. -/
def Determined {α : Type} (f : α → List Entry) (a : α) : Prop :=
  ∀ b r s, f a ++ r = f b ++ s → a = b ∧ r = s

/-- Nodes with the same entries are the same. -/
theorem Determined.eq {α : Type} {f : α → List Entry} {a b : α} (h : Determined f a)
    (heq : f a = f b) : a = b :=
  (h b [] [] (by rw [heq])).1

/-- The list does not start with an entry of the given sort. -/
def StopsBefore (start : Entry → Bool) (r : List Entry) : Prop := ∀ x ∈ r.head?, start x = false

/-- Where all ends nothing goes on. -/
theorem StopsBefore.nil {start : Entry → Bool} : StopsBefore start [] := nofun

/-- A list of elements, each of which tells itself, is told apart from what follows it. -/
theorem determined_flatMap {α : Type} {f : α → List Entry} {start : Entry → Bool}
    (hstart : ∀ a, ∃ x t, f a = x :: t ∧ start x = true) :
    ∀ (as bs : List α) (r s : List Entry), (∀ a ∈ as, Determined f a) → StopsBefore start r →
      StopsBefore start s → as.flatMap f ++ r = bs.flatMap f ++ s → as = bs ∧ r = s
  | [], [], _, _, _, _, _, h => ⟨rfl, h⟩
  -- What follows the shorter list would have to start like an element.
  | [], b :: bs, r, s, _, hr, _, h => by
    obtain ⟨x, t, hx, hstartx⟩ := hstart b
    rw [List.flatMap_nil, List.nil_append, List.flatMap_cons, hx] at h
    have hstop := hr x (by rw [h]; exact rfl)
    rw [hstartx] at hstop
    cases hstop
  | a :: as, [], r, s, _, _, hs, h => by
    obtain ⟨x, t, hx, hstartx⟩ := hstart a
    rw [List.flatMap_nil, List.nil_append, List.flatMap_cons, hx] at h
    have hstop := hs x (by rw [← h]; exact rfl)
    rw [hstartx] at hstop
    cases hstop
  | a :: as, b :: bs, r, s, hf, hr, hs, h => by
    rw [List.forall_mem_cons] at hf
    rw [List.flatMap_cons, List.flatMap_cons, List.append_assoc, List.append_assoc] at h
    obtain ⟨rfl, h₁⟩ := hf.1 b _ _ h
    obtain ⟨rfl, rfl⟩ := determined_flatMap hstart as bs r s hf.2 hr hs h₁
    exact ⟨rfl, rfl⟩

/-! ## Expressions -/

/-- Whether an entry is a mark. No node starts with one, apart from a block. -/
def Entry.isMark : Entry → Bool
  | .token (.mark _) => true
  | _ => false

/-- Whether an entry is the comma between two elements of a list. -/
def Entry.isComma : Entry → Bool
  | .token (.mark .comma) => true
  | _ => false

/-- What follows a list with commas: nothing, or a mark that is no comma. -/
structure ListEnd (r : List Entry) : Prop where
  mark : ∀ x ∈ r.head?, x.isMark = true
  noComma : StopsBefore Entry.isComma r

/-- A list may end where all ends. -/
theorem ListEnd.nil : ListEnd [] := ⟨nofun, nofun⟩

/-- A list ends before every mark other than a comma. -/
theorem ListEnd.of_mark {m : Mark} (hm : m ≠ .comma) (r : List Entry) :
    ListEnd (.token (.mark m) :: r) := by
  refine ⟨?_, ?_⟩
  · rintro x ⟨⟩
    rfl
  · rintro x ⟨⟩
    cases m <;> first | rfl | exact absurd rfl hm

/-- Whether an entry starts a place. -/
def Entry.startsPlace : Entry → Bool
  | .token (.ident _) | .header .arrayExpr | .header .accessLoc => true
  | _ => false

/-- The outline of a place starts with an entry that only places start with. -/
theorem Place.shown_start (p : Place) (d : Nat) :
    ∃ x t, shown (p.outline d) = x :: t ∧ x.startsPlace = true := by
  cases p <;> exact ⟨_, _, rfl, rfl⟩

/-- What an expression starts with. -/
theorem Expr.shown_start (e : Expr) (d : Nat) :
    ∃ x t, shown (e.outline d) = x :: t ∧ x.isMark = false ∧
      ((∃ p, e = .place p) ∨ x.startsPlace = false) := by
  cases e with
  | place p =>
    cases p <;> exact ⟨_, _, rfl, rfl, .inl ⟨_, rfl⟩⟩
  | _ => exact ⟨_, _, rfl, rfl, .inr rfl⟩

/-- What is no place does not look like one. -/
theorem Expr.shown_ne_place {e : Expr} (he : ∀ p, e ≠ .place p) (p : Place) {d : Nat}
    {r s : List Entry} : shown (e.outline d) ++ r ≠ shown ((Expr.place p).outline d) ++ s := by
  intro h
  obtain ⟨x, t, hx, -, hplace⟩ := Expr.shown_start e d
  obtain ⟨y, u, hy, hstart⟩ := Place.shown_start p d
  rw [Expr.outline, hx, hy, List.cons_append, List.cons_append, List.cons.injEq] at h
  rcases hplace with ⟨q, rfl⟩ | hplace
  · exact he q rfl
  · rw [h.1, hstart] at hplace
    cases hplace

/-- A whole number is determined by its text. -/
theorem IntLiteral.text_inj {l l' : IntLiteral} : l.text = l'.text ↔ l = l' := by
  cases l
  cases l'
  simp

/-- So is a number with a fraction. -/
theorem RealLiteral.text_inj {l l' : RealLiteral} : l.text = l'.text ↔ l = l' := by
  cases l
  cases l'
  simp

/-- Elements with commas between them, none of which starts with a mark, are told apart from what
follows them. -/
theorem determined_separated {α : Type} {f : α → List Entry}
    (hstart : ∀ a, ∃ x t, f a = x :: t ∧ x.isMark = false) {as : List α}
    (has : ∀ a ∈ as, Determined f a) (bs : List α) {r s : List Entry} (hr : ListEnd r)
    (hs : ListEnd s) (h : separatedBy (.token (.mark .comma)) f as ++ r =
      separatedBy (.token (.mark .comma)) f bs ++ s) : as = bs ∧ r = s := by
  -- A list without elements ends in a mark at once, and no element starts with one.
  have hempty : ∀ {a : α} {as : List α} {r s : List Entry}, ListEnd r →
      r ≠ separatedBy (.token (.mark .comma)) f (a :: as) ++ s := by
    intro a as r s hr heq
    obtain ⟨x, t, hx, hmark⟩ := hstart a
    have hend := hr.mark x (by rw [heq, separatedBy, hx]; exact rfl)
    rw [hmark] at hend
    cases hend
  cases as with
  | nil =>
    cases bs with
    | nil => exact ⟨rfl, h⟩
    | cons b bs => exact absurd h (hempty hr)
  | cons a as =>
    cases bs with
    | nil => exact absurd h.symm (hempty hs)
    | cons b bs =>
      rw [List.forall_mem_cons] at has
      rw [separatedBy, separatedBy, List.append_assoc, List.append_assoc] at h
      obtain ⟨rfl, h₁⟩ := has.1 b _ _ h
      -- Behind the first element, a comma starts each of the others.
      have hcommas : ∀ c ∈ as, Determined (fun c => .token (.mark .comma) :: f c) c := by
        intro c hc c' r s heq
        exact has.2 c hc c' r s (List.cons.inj heq).2
      obtain ⟨rfl, rfl⟩ := determined_flatMap (fun c => ⟨_, _, rfl, rfl⟩) as bs r s hcommas
        hr.noComma hs.noComma h₁
      exact ⟨rfl, rfl⟩

/-- The entries of arguments are those of each, with commas between them. -/
theorem Expr.shown_outlineList (d : Nat) (es : List Expr) :
    shown (Expr.outlineList d es) =
      separatedBy (.token (.mark .comma)) (fun e : Expr => shown (e.outline d)) es := by
  have hmore : shown (Expr.outlineMore d es) =
      es.flatMap fun e => .token (.mark .comma) :: shown (e.outline d) := by
    induction es with
    | nil => rfl
    | cons e es ih => simp [Expr.outlineMore, ih]
  cases es with
  | nil => rfl
  | cons e es =>
    simp only [Expr.outlineMore, shown_cons, shown_append, List.flatMap_cons, List.cons_append,
      List.cons.injEq] at hmore
    rw [Expr.outlineList, shown_append, separatedBy, List.append_cancel_left hmore.2]

/-- The arguments of a call are told apart from what follows them. -/
theorem Expr.determined_list {d : Nat} {es : List Expr}
    (hes : ∀ e ∈ es, Determined (fun e : Expr => shown (e.outline d)) e) (es' : List Expr)
    {r s : List Entry} (hr : ListEnd r) (hs : ListEnd s)
    (h : shown (Expr.outlineList d es) ++ r = shown (Expr.outlineList d es') ++ s) :
    es = es' ∧ r = s := by
  rw [Expr.shown_outlineList, Expr.shown_outlineList] at h
  refine determined_separated ?_ hes es' hr hs h
  intro e
  obtain ⟨x, t, hx, hmark, -⟩ := Expr.shown_start e d
  exact ⟨x, t, hx, hmark⟩

mutual
/-- An expression is determined by its entries, whatever follows them. The first entry says which
kind of expression it is, so each case is left with that kind. -/
theorem Expr.determined : ∀ (e : Expr) (d : Nat), Determined (fun e : Expr => shown (e.outline d)) e
  | .int _, _ | .real _, _ | .string _, _ | .char _, _ | .true_, _ | .false_, _ | .null, _
  | .sizeof _, _ => by
    intro e' r s h
    cases e' with
    | place p => exact absurd h (Expr.shown_ne_place (by nofun) p)
    | _ => simp_all [Expr.outline, IntLiteral.text_inj, RealLiteral.text_inj]
  | .bounded inner, d => by
    intro e' r s h
    cases e' with
    | bounded inner' =>
      simp only [Expr.outline, shown_cons, shown_append, List.cons_append, List.append_assoc,
        List.cons.injEq, true_and] at h
      obtain ⟨rfl, h₁⟩ := Expr.determined inner (d + 1) inner' _ _ h
      exact ⟨rfl, (List.cons.inj h₁).2⟩
    | place p => exact absurd h (Expr.shown_ne_place (by nofun) p)
    | _ => simp [Expr.outline] at h
  | .call name es, d => by
    intro e' r s h
    cases e' with
    | call name' es' =>
      simp only [Expr.outline, shown_cons, shown_append, List.cons_append, List.append_assoc,
        List.cons.injEq, true_and, Item.entry_ident, Entry.token.injEq, Token.ident.injEq] at h
      obtain ⟨rfl, h₁⟩ := h
      obtain ⟨rfl, h₂⟩ := Expr.determined_list (Expr.determined_all es (d + 2)) es'
        (.of_mark (by nofun) _) (.of_mark (by nofun) _) h₁
      exact ⟨rfl, (List.cons.inj h₂).2⟩
    | place p => exact absurd h (Expr.shown_ne_place (by nofun) p)
    | _ => simp [Expr.outline] at h
  | .place p, d => by
    intro e' r s h
    -- A place has no header of its own, so it is told from what is no place by how it starts.
    by_cases hplace : ∃ p', e' = .place p'
    · obtain ⟨p', rfl⟩ := hplace
      obtain ⟨rfl, rfl⟩ := Place.determined p d p' r s h
      exact ⟨rfl, rfl⟩
    · exact absurd h.symm (Expr.shown_ne_place (fun p' hp' => hplace ⟨p', hp'⟩) p)
  | .unary op operand, d => by
    intro e' r s h
    cases e' with
    | unary op' operand' =>
      simp only [Expr.outline, shown_cons, List.cons_append, List.cons.injEq, Item.entry_header,
        Entry.header.injEq, Header.unary.injEq] at h
      obtain ⟨rfl, -, h₁⟩ := h
      obtain ⟨rfl, rfl⟩ := Expr.determined operand (d + 1) operand' _ _ h₁
      exact ⟨rfl, rfl⟩
    | place p => exact absurd h (Expr.shown_ne_place (by nofun) p)
    | _ => simp [Expr.outline] at h
  | .binary op left right, d => by
    intro e' r s h
    cases e' with
    | binary op' left' right' =>
      simp only [Expr.outline, shown_cons, shown_append, List.cons_append, List.append_assoc,
        List.cons.injEq, Item.entry_header, Entry.header.injEq, Header.binary.injEq] at h
      obtain ⟨rfl, h₁⟩ := h
      obtain ⟨rfl, h₂⟩ := Expr.determined left (d + 1) left' _ _ h₁
      obtain ⟨rfl, rfl⟩ := Expr.determined right (d + 1) right' _ _ (List.cons.inj h₂).2
      exact ⟨rfl, rfl⟩
    | place p => exact absurd h (Expr.shown_ne_place (by nofun) p)
    | _ => simp [Expr.outline] at h

theorem Expr.determined_all : ∀ (es : List Expr) (d : Nat),
    ∀ e ∈ es, Determined (fun e : Expr => shown (e.outline d)) e
  | [], _ => nofun
  | e :: es, d => List.forall_mem_cons.mpr ⟨Expr.determined e d, Expr.determined_all es d⟩

theorem Place.determined : ∀ (p : Place) (d : Nat),
    Determined (fun p : Place => shown (p.outline d)) p
  | .var _, _ => by
    intro p' r s h
    cases p' <;> simp_all [Place.outline]
  | .element base index, d => by
    intro p' r s h
    cases p' with
    | element base' index' =>
      simp only [Place.outline, shown_cons, shown_append, List.cons_append, List.append_assoc,
        List.cons.injEq, true_and] at h
      obtain ⟨rfl, h₁⟩ := Place.determined base (d + 1) base' _ _ h
      obtain ⟨rfl, h₂⟩ := Expr.determined index (d + 1) index' _ _ (List.cons.inj h₁).2
      exact ⟨rfl, (List.cons.inj h₂).2⟩
    | _ => simp [Place.outline] at h
  | .field base name, d => by
    intro p' r s h
    cases p' with
    | field base' name' =>
      simp only [Place.outline, shown_cons, shown_append, List.cons_append, List.append_assoc,
        List.cons.injEq, true_and] at h
      obtain ⟨rfl, h₁⟩ := Place.determined base (d + 1) base' _ _ h
      simp_all
    | _ => simp [Place.outline] at h
end

/-- A part that may be missing is a list with at most one element. -/
theorem determined_option {α : Type} {f : α → List Entry}
    (hstart : ∀ a, ∃ x t, f a = x :: t ∧ x.isMark = false) {a? : Option α}
    (ha : ∀ a ∈ a?, Determined f a) (b? : Option α) {r s : List Entry} (hr : ListEnd r)
    (hs : ListEnd s) (h : (a?.map f).getD [] ++ r = (b?.map f).getD [] ++ s) : a? = b? ∧ r = s := by
  have hlist : ∀ c? : Option α,
      (c?.map f).getD [] = separatedBy (.token (.mark .comma)) f c?.toList := by
    intro c?
    cases c? with
    | none => rfl
    | some c => exact (List.append_nil _).symm
  rw [hlist, hlist] at h
  obtain ⟨hab, hrs⟩ := determined_separated hstart (fun a hmem => ha a (Option.mem_toList.mp hmem))
    b?.toList hr hs h
  refine ⟨?_, hrs⟩
  cases a? <;> cases b? <;> simp_all

/-! ## Variables and assignments -/

theorem VarDecl.determined (d : Nat) (v : VarDecl) :
    Determined (fun v : VarDecl => shown (v.outline d)) v := by
  intro w r s h
  obtain ⟨type, name, size?⟩ := v
  obtain ⟨type', name', size?'⟩ := w
  cases size? <;> cases size?' <;> simp_all [VarDecl.outline, Outline.arraySize,
    IntLiteral.text_inj]

/-- Whether an entry starts the declaration of a variable. -/
def Entry.isVarDecl : Entry → Bool
  | .header .varDecl => true
  | _ => false

/-- Some variables are determined if what follows does not look like another one. -/
theorem Outline.determined_varDecls (d : Nat) (vs ws : List VarDecl) {r s : List Entry}
    (hr : StopsBefore Entry.isVarDecl r) (hs : StopsBefore Entry.isVarDecl s)
    (h : shown (Outline.varDecls d vs) ++ r = shown (Outline.varDecls d ws) ++ s) :
    vs = ws ∧ r = s := by
  have hlist : ∀ vs : List VarDecl, shown (vs.flatMap (·.outline (d + 1)))
      = vs.flatMap fun v => shown (v.outline (d + 1)) := fun vs => List.map_flatMap ..
  rw [Outline.varDecls, Outline.varDecls, shown_cons, shown_cons, List.cons_append,
    List.cons_append, List.cons.injEq, hlist, hlist] at h
  exact determined_flatMap (fun v => ⟨_, _, rfl, rfl⟩) vs ws r s
    (fun v _ => VarDecl.determined (d + 1) v) hr hs h.2

theorem Assignment.determined_clause (d : Nat) (a : Assignment) :
    Determined (fun a : Assignment => shown (a.outlineClause d)) a := by
  intro b r s h
  obtain ⟨place, value⟩ := a
  obtain ⟨place', value'⟩ := b
  simp only [Assignment.outlineClause, shown_cons, shown_append, List.cons_append,
    List.append_assoc, List.cons.injEq, true_and] at h
  obtain ⟨rfl, h₁⟩ := Place.determined place (d + 1) place' _ _ h
  obtain ⟨rfl, h₂⟩ := Expr.determined value (d + 1) value' _ _ (List.cons.inj h₁).2
  exact ⟨rfl, h₂⟩

theorem Assignment.determined (d : Nat) (a : Assignment) :
    Determined (fun a : Assignment => shown (a.outline d)) a := by
  intro b r s h
  simp only [Assignment.outline, shown_append, List.append_assoc] at h
  obtain ⟨rfl, h₁⟩ := Assignment.determined_clause d a b _ _ h
  exact ⟨rfl, (List.cons.inj h₁).2⟩

/-- The start of a loop: an assignment with its semicolon, or the semicolon alone. -/
theorem Outline.determined_forStart (d : Nat) (a? : Option Assignment) :
    Determined (fun a? => shown (Outline.forStart d a?)) a? := by
  intro b? r s h
  cases a? with
  | none =>
    cases b? with
    | none => exact ⟨rfl, (List.cons.inj h).2⟩
    | some b => cases (List.cons.inj h).1
  | some a =>
    cases b? with
    | none => cases (List.cons.inj h).1
    | some b =>
      obtain ⟨rfl, rfl⟩ := Assignment.determined d a b r s h
      exact ⟨rfl, rfl⟩

/-- The step of a loop, in front of the closing parenthesis. -/
theorem Outline.determined_forStep (d : Nat) (a? b? : Option Assignment) {r s : List Entry}
    (hr : ListEnd r) (hs : ListEnd s)
    (h : shown (Outline.forStep d a?) ++ r = shown (Outline.forStep d b?) ++ s) :
    a? = b? ∧ r = s := by
  have hpart : ∀ c? : Option Assignment, shown (Outline.forStep d c?)
      = (c?.map fun a => shown (a.outlineClause d)).getD [] := by
    intro c?
    cases c? <;> rfl
  rw [hpart, hpart] at h
  exact determined_option (fun a => ⟨_, _, rfl, rfl⟩)
    (fun a _ => Assignment.determined_clause d a) b? hr hs h

/-- A value that may be missing, in front of the semicolon. -/
theorem Outline.determined_value? (d : Nat) (e? f? : Option Expr) {r s : List Entry}
    (hr : ListEnd r) (hs : ListEnd s)
    (h : shown (Outline.value? d e?) ++ r = shown (Outline.value? d f?) ++ s) :
    e? = f? ∧ r = s := by
  have hpart : ∀ g? : Option Expr, shown (Outline.value? d g?)
      = (g?.map fun e => shown (e.outline d)).getD [] := by
    intro g?
    cases g? <;> rfl
  rw [hpart, hpart] at h
  refine determined_option ?_ (fun e _ => Expr.determined e d) f? hr hs h
  intro e
  obtain ⟨x, t, hx, hmark, -⟩ := Expr.shown_start e d
  exact ⟨x, t, hx, hmark⟩

theorem Outline.determined_condition (d : Nat) (k : Keyword) (c : Expr) :
    Determined (fun c => shown (Outline.condition d k c)) c := by
  intro c' r s h
  simp only [Outline.condition, shown_cons, shown_append, List.cons_append, List.append_assoc,
    List.cons.injEq, true_and] at h
  obtain ⟨rfl, h₁⟩ := Expr.determined c d c' _ _ h
  exact ⟨rfl, (List.cons.inj h₁).2⟩

theorem Call.determined (d : Nat) (c : Call) : Determined (fun c : Call => shown (c.outline d)) c := by
  intro c' r s h
  obtain ⟨name, arguments⟩ := c
  obtain ⟨name', arguments'⟩ := c'
  obtain ⟨hcall, rfl⟩ := Expr.determined (.call name arguments) d (.call name' arguments') r s h
  cases hcall
  exact ⟨rfl, rfl⟩

/-! ## Statements and blocks -/

/-- A statement starts with a header. -/
theorem Stmt.shown_start (s : Stmt) (d : Nat) :
    ∃ x t, shown (s.outline d) = x :: t ∧ (!x.isMark) = true := by
  cases s <;> exact ⟨_, _, rfl, rfl⟩

/-- Statements that tell themselves, in front of a mark or at the end. -/
theorem Stmt.determined_list {d : Nat} {ss : List Stmt}
    (hss : ∀ s ∈ ss, Determined (fun s : Stmt => shown (s.outline d)) s) (ts : List Stmt)
    {r s : List Entry} (hr : ∀ x ∈ r.head?, x.isMark = true) (hs : ∀ x ∈ s.head?, x.isMark = true)
    (h : shown (Stmt.outlineAll d ss) ++ r = shown (Stmt.outlineAll d ts) ++ s) :
    ss = ts ∧ r = s := by
  have hlist : ∀ ss : List Stmt, shown (Stmt.outlineAll d ss)
      = ss.flatMap fun s => shown (s.outline d) := by
    intro ss
    induction ss with
    | nil => rfl
    | cons s ss ih => rw [Stmt.outlineAll, shown_append, ih, List.flatMap_cons]
  have hstop : ∀ {r : List Entry}, (∀ x ∈ r.head?, x.isMark = true) →
      StopsBefore (fun x => !x.isMark) r := by
    intro r hr x hx
    show (!x.isMark) = false
    rw [hr x hx]
    rfl
  rw [hlist, hlist] at h
  exact determined_flatMap (fun s => Stmt.shown_start s d) ss ts r s hss (hstop hr) (hstop hs) h

/-- A block tells itself if its statements do. -/
theorem Block.determined_of_stmts {d : Nat} {decls : List VarDecl} {stmts : List Stmt}
    (h : ∀ s ∈ stmts, Determined (fun s : Stmt => shown (s.outline (d + 1))) s) :
    Determined (fun b : Block => shown (b.outline d)) ⟨decls, stmts⟩ := by
  intro b r s heq
  obtain ⟨decls', stmts'⟩ := b
  simp only [Block.outline, shown_cons, shown_append, List.cons_append, List.append_assoc,
    List.cons.injEq, true_and] at heq
  -- The header of the statements ends the declarations, and the closing brace the statements.
  have hheader : ∀ r : List Entry, StopsBefore Entry.isVarDecl (.header .stmtList :: r) := by
    rintro r x ⟨⟩
    rfl
  have hbrace : ∀ r : List Entry, ∀ x ∈ (Entry.token (.mark .rcurly) :: r).head?,
      x.isMark = true := by
    rintro r x ⟨⟩
    rfl
  obtain ⟨rfl, h₁⟩ := Outline.determined_varDecls d decls decls' (hheader _) (hheader _) heq
  obtain ⟨rfl, h₂⟩ := Stmt.determined_list h stmts' (hbrace _) (hbrace _) (List.cons.inj h₁).2
  exact ⟨rfl, (List.cons.inj h₂).2⟩

mutual
theorem Stmt.determined : ∀ (s : Stmt) (d : Nat), Determined (fun s : Stmt => shown (s.outline d)) s
  | .assign a, d => by
    intro s' r s h
    cases s' with
    | assign a' =>
      obtain ⟨rfl, rfl⟩ := Assignment.determined d a a' r s h
      exact ⟨rfl, rfl⟩
    | _ => simp [Stmt.outline, Assignment.outline, Assignment.outlineClause] at h
  | .call c, d => by
    intro s' r s h
    cases s' with
    | call c' =>
      simp only [Stmt.outline, shown_cons, shown_append, List.cons_append, List.append_assoc,
        List.cons.injEq, true_and] at h
      obtain ⟨rfl, h₁⟩ := Call.determined (d + 1) c c' _ _ h
      exact ⟨rfl, (List.cons.inj h₁).2⟩
    | _ => simp [Stmt.outline, Assignment.outline, Assignment.outlineClause] at h
  | .ifThen c body, d => by
    intro s' r s h
    cases s' with
    | ifThen c' body' =>
      simp only [Stmt.outline, shown_cons, shown_append, List.cons_append, List.append_assoc,
        List.cons.injEq, true_and] at h
      obtain ⟨rfl, h₁⟩ := Outline.determined_condition (d + 1) .if_ c c' _ _ h
      obtain ⟨rfl, rfl⟩ := Block.determined body (d + 1) body' _ _ h₁
      exact ⟨rfl, rfl⟩
    | _ => simp [Stmt.outline, Assignment.outline, Assignment.outlineClause] at h
  | .ifElse c body other, d => by
    intro s' r s h
    cases s' with
    | ifElse c' body' other' =>
      simp only [Stmt.outline, shown_cons, shown_append, List.cons_append, List.append_assoc,
        List.cons.injEq, true_and] at h
      obtain ⟨rfl, h₁⟩ := Outline.determined_condition (d + 1) .if_ c c' _ _ h
      obtain ⟨rfl, h₂⟩ := Block.determined body (d + 1) body' _ _ h₁
      obtain ⟨rfl, rfl⟩ := Block.determined other (d + 1) other' _ _ (List.cons.inj h₂).2
      exact ⟨rfl, rfl⟩
    | _ => simp [Stmt.outline, Assignment.outline, Assignment.outlineClause] at h
  | .forLoop start? c step? body, d => by
    intro s' r s h
    cases s' with
    | forLoop start?' c' step?' body' =>
      simp only [Stmt.outline, shown_cons, shown_append, List.cons_append, List.append_assoc,
        List.cons.injEq, true_and] at h
      obtain ⟨rfl, h₁⟩ := Outline.determined_forStart (d + 1) start? start?' _ _ h
      obtain ⟨rfl, h₂⟩ := Expr.determined c (d + 1) c' _ _ h₁
      -- No semicolon ends the step, but the parenthesis behind it starts no assignment.
      obtain ⟨rfl, h₃⟩ := Outline.determined_forStep (d + 1) step? step?'
        (.of_mark (by nofun) _) (.of_mark (by nofun) _) (List.cons.inj h₂).2
      obtain ⟨rfl, rfl⟩ := Block.determined body (d + 1) body' _ _ (List.cons.inj h₃).2
      exact ⟨rfl, rfl⟩
    | _ => simp [Stmt.outline, Assignment.outline, Assignment.outlineClause] at h
  | .whileLoop c body, d => by
    intro s' r s h
    cases s' with
    | whileLoop c' body' =>
      simp only [Stmt.outline, shown_cons, shown_append, List.cons_append, List.append_assoc,
        List.cons.injEq, true_and] at h
      obtain ⟨rfl, h₁⟩ := Outline.determined_condition (d + 1) .while_ c c' _ _ h
      obtain ⟨rfl, rfl⟩ := Block.determined body (d + 1) body' _ _ h₁
      exact ⟨rfl, rfl⟩
    | _ => simp [Stmt.outline, Assignment.outline, Assignment.outlineClause] at h
  | .return_ e?, d => by
    intro s' r s h
    cases s' with
    | return_ e?' =>
      simp only [Stmt.outline, shown_cons, shown_append, List.cons_append, List.append_assoc,
        List.cons.injEq, true_and] at h
      obtain ⟨rfl, h₁⟩ := Outline.determined_value? (d + 1) e? e?' (.of_mark (by nofun) _)
        (.of_mark (by nofun) _) h
      exact ⟨rfl, (List.cons.inj h₁).2⟩
    | _ => simp [Stmt.outline, Assignment.outline, Assignment.outlineClause] at h

theorem Stmt.determined_all : ∀ (ss : List Stmt) (d : Nat),
    ∀ s ∈ ss, Determined (fun s : Stmt => shown (s.outline d)) s
  | [], _ => nofun
  | s :: ss, d => List.forall_mem_cons.mpr ⟨Stmt.determined s d, Stmt.determined_all ss d⟩

theorem Block.determined : ∀ (b : Block) (d : Nat),
    Determined (fun b : Block => shown (b.outline d)) b
  | ⟨_, stmts⟩, d => Block.determined_of_stmts (Stmt.determined_all stmts (d + 1))
end

/-! ## Declarations -/

theorem Formal.determined (d : Nat) (f : Formal) :
    Determined (fun f : Formal => shown (f.outline d)) f := by
  intro g r s h
  obtain ⟨type, name⟩ := f
  obtain ⟨type', name'⟩ := g
  simp_all [Formal.outline]

/-- Parameters are determined if no comma follows. -/
theorem Outline.determined_formals (d : Nat) (fs gs : List Formal) {r s : List Entry}
    (hr : ListEnd r) (hs : ListEnd s)
    (h : shown (Outline.formals d fs) ++ r = shown (Outline.formals d gs) ++ s) :
    fs = gs ∧ r = s := by
  have hlist : ∀ fs : List Formal, shown (Outline.formals d fs)
      = .header .formalsList ::
        separatedBy (.token (.mark .comma)) (fun f : Formal => shown (f.outline (d + 1))) fs := by
    intro fs
    cases fs with
    | nil => rfl
    | cons f fs =>
      rw [Outline.formals, shown_append, shown_cons, Outline.formalsMore, separatedBy]
      simp [shown, List.map_flatMap]
  rw [hlist, hlist, List.cons_append, List.cons_append, List.cons.injEq] at h
  exact determined_separated (fun f => ⟨_, _, rfl, rfl⟩) (fun f _ => Formal.determined (d + 1) f) gs
    hr hs h.2

/-- The items of a function up to its parameters. -/
theorem Outline.determined_signature {d : Nat} {t t' : TypeName} {name name' : String}
    {fs fs' : List Formal} {r s : List Entry}
    (h : shown (Outline.signature d t name fs) ++ r
      = shown (Outline.signature d t' name' fs') ++ s) :
    t = t' ∧ name = name' ∧ fs = fs' ∧ r = s := by
  simp only [Outline.signature, shown_cons, shown_append, List.cons_append, List.append_assoc,
    List.cons.injEq, true_and, Item.entry_type, Item.entry_ident, Entry.type.injEq,
    Entry.token.injEq, Token.ident.injEq] at h
  obtain ⟨rfl, rfl, h₁⟩ := h
  obtain ⟨rfl, h₂⟩ := Outline.determined_formals d fs fs' (.of_mark (by nofun) _)
    (.of_mark (by nofun) _) h₁
  exact ⟨rfl, rfl, rfl, (List.cons.inj h₂).2⟩

theorem Decl.determined (d : Nat) (c : Decl) : Determined (fun c : Decl => shown (c.outline d)) c := by
  intro c' r s h
  -- The header at the start is another one for each kind of declaration.
  cases c with
  | var v =>
    cases c' with
    | var v' =>
      obtain ⟨rfl, rfl⟩ := VarDecl.determined d v v' r s h
      exact ⟨rfl, rfl⟩
    | _ => simp [Decl.outline, VarDecl.outline] at h
  | prototype t name fs =>
    cases c' with
    | prototype t' name' fs' =>
      simp only [Decl.outline, shown_cons, shown_append, List.cons_append, List.append_assoc,
        List.cons.injEq, true_and] at h
      obtain ⟨rfl, rfl, rfl, h₁⟩ := Outline.determined_signature h
      exact ⟨rfl, (List.cons.inj h₁).2⟩
    | _ => simp [Decl.outline, VarDecl.outline] at h
  | function t name fs body =>
    cases c' with
    | function t' name' fs' body' =>
      simp only [Decl.outline, shown_cons, shown_append, List.cons_append, List.append_assoc,
        List.cons.injEq, true_and] at h
      obtain ⟨rfl, rfl, rfl, h₁⟩ := Outline.determined_signature h
      obtain ⟨rfl, rfl⟩ := Block.determined body (d + 2) body' _ _ (List.cons.inj h₁).2
      exact ⟨rfl, rfl⟩
    | _ => simp [Decl.outline, VarDecl.outline] at h
  | struct name fields =>
    cases c' with
    | struct name' fields' =>
      simp only [Decl.outline, shown_cons, shown_append, List.cons_append, List.append_assoc,
        List.cons.injEq, true_and, Item.entry_ident, Entry.token.injEq, Token.ident.injEq] at h
      obtain ⟨rfl, h₁⟩ := h
      -- The brace that closes the fields is no further field.
      have hbrace : ∀ r : List Entry,
          StopsBefore Entry.isVarDecl (.token (.mark .rcurly) :: r) := by
        rintro r x ⟨⟩
        rfl
      obtain ⟨rfl, h₂⟩ := Outline.determined_varDecls (d + 1) fields fields' (hbrace _) (hbrace _) h₁
      exact ⟨rfl, (List.cons.inj (List.cons.inj h₂).2).2⟩
    | _ => simp [Decl.outline, VarDecl.outline] at h

/-- The declarations of a program are determined by the entries of its outline. -/
theorem Outline.eq_of_decls {d : Nat} {ds es : List Decl}
    (h : shown (Outline.decls d ds) = shown (Outline.decls d es)) : ds = es := by
  have hlist : ∀ ds : List Decl, shown (ds.flatMap (·.outline (d + 1)))
      = ds.flatMap fun c => shown (c.outline (d + 1)) := fun ds => List.map_flatMap ..
  rw [Outline.decls, Outline.decls, shown_cons, shown_cons, List.cons.injEq, hlist, hlist,
    ← List.append_nil (ds.flatMap _), ← List.append_nil (es.flatMap _)] at h
  have hstart : ∀ c : Decl, ∃ x t, shown (c.outline (d + 1)) = x :: t ∧ (fun _ => true) x = true := by
    intro c
    cases c <;> exact ⟨_, _, rfl, rfl⟩
  exact (determined_flatMap hstart ds es [] [] (fun c _ => Decl.determined (d + 1) c) .nil .nil
    h.2).1

end SyntaxOutline
