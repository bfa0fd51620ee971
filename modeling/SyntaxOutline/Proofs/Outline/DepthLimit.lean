import SyntaxOutline.Proofs.Grammar.NestingLimit
import SyntaxOutline.Proofs.Outline.Frames

/-!
# How deep the outline of a source gets

A line of an outline is one level deeper for each node around it. All of them but calls and lists of
statements count for the nesting of the program, and of these two no more can stand one inside the
other than the program needs levels: the argument of a call and the statements of a block have one
level less. So the depth of an outline is at most the nesting of the program and twice its demand,
but for a few levels (`Program.depth_outline`), and for a source that is accepted both are bounded.
-/

namespace SyntaxOutline

/-! ## Lists of items -/

section

variable {n : Nat}

@[simp] theorem depthAtMost_nil : DepthAtMost n [] := nofun

@[simp] theorem depthAtMost_cons {i : Item} {is : List Item} :
    DepthAtMost n (i :: is) ↔ i.depth ≤ n ∧ DepthAtMost n is := List.forall_mem_cons

@[simp] theorem depthAtMost_append {is js : List Item} :
    DepthAtMost n (is ++ js) ↔ DepthAtMost n is ∧ DepthAtMost n js := List.forall_mem_append

/-- Items made from each element of a list are bounded if those of each element are. -/
theorem depthAtMost_flatMap {α : Type} {as : List α} {f : α → List Item}
    (h : ∀ a ∈ as, DepthAtMost n (f a)) : DepthAtMost n (as.flatMap f) := by
  intro i hi
  obtain ⟨a, ha, hmem⟩ := List.mem_flatMap.mp hi
  exact h a ha i hmem

/-- A bound may be larger. -/
theorem DepthAtMost.mono {m : Nat} {is : List Item} (h : DepthAtMost n is) (hle : n ≤ m) :
    DepthAtMost m is :=
  fun i hi => Nat.le_trans (h i hi) hle

variable (d : Nat)

@[simp] theorem Item.depth_header (h : Header) : (Item.header d h).depth = d := rfl

@[simp] theorem Item.depth_keyword (k : Keyword) : (Item.keyword d k).depth = d := rfl

@[simp] theorem Item.depth_mark (m : Mark) : (Item.mark d m).depth = d := rfl

@[simp] theorem Item.depth_ident (name : String) : (Item.ident d name).depth = d := rfl

@[simp] theorem Item.depth_int (l : IntLiteral) : (Item.int d l).depth = d := rfl

@[simp] theorem Item.depth_real (l : RealLiteral) : (Item.real d l).depth = d := rfl

@[simp] theorem Item.depth_type (t : TypeName) : (Item.type d t).depth = d := rfl

end

/-! ## Expressions -/

mutual
/-- The outline of an expression is as deep as its nesting and twice its demand. The demand comes in
with calls: their arguments stand two steps below them and take a level. -/
theorem Expr.depth_outline (d : Nat) : ∀ e : Expr,
    DepthAtMost (d + e.nesting + 2 * e.demand + 1) (e.outline d)
  | .int _ | .real _ | .string _ | .char _ | .true_ | .false_ | .null => by
    simp only [Expr.outline, depthAtMost_cons, Item.depth_int, Item.depth_real, Item.depth_keyword]
    exact ⟨by omega, depthAtMost_nil⟩
  | .sizeof name => by
    simp only [Expr.outline, depthAtMost_cons, Item.depth_header, Item.depth_keyword, Item.depth_mark,
      Item.depth_ident]
    exact ⟨by omega, by omega, by omega, by omega, by omega, depthAtMost_nil⟩
  | .bounded inner => by
    have hinner := Expr.depth_outline (d + 1) inner
    simp only [Expr.outline, Expr.nesting, Expr.demand, List.cons_append, depthAtMost_cons,
      depthAtMost_append, Item.depth_header, Item.depth_mark]
    exact ⟨by omega, by omega, hinner.mono (by omega), by omega, depthAtMost_nil⟩
  | .call name arguments => by
    have harguments := Expr.depth_outlineList (d + 1) arguments
    simp only [Expr.outline, Expr.nesting, Expr.demand, List.cons_append, depthAtMost_cons,
      depthAtMost_append, Item.depth_header, Item.depth_mark, Item.depth_ident]
    exact ⟨by omega, by omega, by omega, by omega, harguments.mono (by omega), by omega,
      depthAtMost_nil⟩
  | .place p => Place.depth_outline d p
  | .unary op operand => by
    have hoperand := Expr.depth_outline (d + 1) operand
    simp only [Expr.outline, Expr.nesting, Expr.demand, depthAtMost_cons, Item.depth_header,
      Item.depth_mark]
    exact ⟨by omega, by omega, hoperand.mono (by omega)⟩
  | .binary op left right => by
    have hleft := Expr.depth_outline (d + 1) left
    have hright := Expr.depth_outline (d + 1) right
    simp only [Expr.outline, Expr.nesting, Expr.demand, List.cons_append, depthAtMost_cons,
      depthAtMost_append, Item.depth_header, Item.depth_mark]
    exact ⟨by omega, hleft.mono (by omega), by omega, hright.mono (by omega)⟩

theorem Expr.depth_outlineList (d : Nat) : ∀ es : List Expr,
    DepthAtMost (d + Expr.nestingAll es + 2 * Expr.demandArguments es) (Expr.outlineList (d + 1) es)
  | [] => depthAtMost_nil
  | e :: es => by
    have he := Expr.depth_outline (d + 1) e
    have hes := Expr.depth_outlineMore d es
    simp only [Expr.outlineList, Expr.nestingAll, Expr.demandArguments, depthAtMost_append]
    exact ⟨he.mono (by omega), hes.mono (by omega)⟩

theorem Expr.depth_outlineMore (d : Nat) : ∀ es : List Expr,
    DepthAtMost (d + Expr.nestingAll es + 2 * Expr.demandArguments es) (Expr.outlineMore (d + 1) es)
  | [] => depthAtMost_nil
  | e :: es => by
    have he := Expr.depth_outline (d + 1) e
    have hes := Expr.depth_outlineMore d es
    simp only [Expr.outlineMore, Expr.nestingAll, Expr.demandArguments, List.cons_append,
      depthAtMost_cons, depthAtMost_append, Item.depth_mark]
    exact ⟨by omega, he.mono (by omega), hes.mono (by omega)⟩

theorem Place.depth_outline (d : Nat) : ∀ p : Place,
    DepthAtMost (d + p.nesting + 2 * p.demand + 1) (p.outline d)
  | .var name => by
    simp only [Place.outline, depthAtMost_cons, Item.depth_ident]
    exact ⟨by omega, depthAtMost_nil⟩
  | .element base index => by
    have hbase := Place.depth_outline (d + 1) base
    have hindex := Expr.depth_outline (d + 1) index
    simp only [Place.outline, Place.nesting, Place.demand, List.cons_append, depthAtMost_cons,
      depthAtMost_append, Item.depth_header, Item.depth_mark]
    exact ⟨by omega, ⟨hbase.mono (by omega), by omega, hindex.mono (by omega)⟩, by omega,
      depthAtMost_nil⟩
  | .field base name => by
    have hbase := Place.depth_outline (d + 1) base
    simp only [Place.outline, Place.nesting, Place.demand, List.cons_append, depthAtMost_cons,
      depthAtMost_append, Item.depth_header, Item.depth_mark, Item.depth_ident]
    exact ⟨by omega, hbase.mono (by omega), by omega, by omega, depthAtMost_nil⟩
end

/-! ## Statements -/

theorem Assignment.depth_outlineClause (d : Nat) (a : Assignment) :
    DepthAtMost (d + a.depthBy Expr.nesting Place.nesting + 2 * a.demand + 2) (a.outlineClause d) := by
  have hplace := Place.depth_outline (d + 1) a.place
  have hvalue := Expr.depth_outline (d + 1) a.value
  simp only [Assignment.outlineClause, Assignment.depthBy, Assignment.demand, Expr.fullDemand,
    List.cons_append, depthAtMost_cons, depthAtMost_append, Item.depth_header, Item.depth_mark]
  exact ⟨by omega, hplace.mono (by omega), by omega, hvalue.mono (by omega)⟩

theorem Assignment.depth_outline (d : Nat) (a : Assignment) :
    DepthAtMost (d + a.depthBy Expr.nesting Place.nesting + 2 * a.demand + 2) (a.outline d) := by
  rw [Assignment.outline, depthAtMost_append, depthAtMost_cons, Item.depth_mark]
  exact ⟨a.depth_outlineClause d, by omega, depthAtMost_nil⟩

/-- A start that is missing is shown as a semicolon. -/
theorem Outline.depth_forStart (d : Nat) (a? : Option Assignment) :
    DepthAtMost (d + largest? (Assignment.depthBy Expr.nesting Place.nesting) a? +
        2 * largest? Assignment.demand a? + 2)
      (Outline.forStart d a?) := by
  cases a? with
  | none => exact depthAtMost_cons.mpr ⟨by rw [Item.depth_mark]; omega, depthAtMost_nil⟩
  | some a => exact a.depth_outline d

theorem Outline.depth_forStep (d : Nat) (a? : Option Assignment) :
    DepthAtMost (d + largest? (Assignment.depthBy Expr.nesting Place.nesting) a? +
        2 * largest? Assignment.demand a? + 2)
      (Outline.forStep d a?) := by
  cases a? with
  | none => exact depthAtMost_nil
  | some a => exact a.depth_outlineClause d

theorem Outline.depth_condition (d : Nat) (k : Keyword) (c : Expr) :
    DepthAtMost (d + c.nesting + 2 * c.fullDemand) (Outline.condition d k c) := by
  have hc := Expr.depth_outline d c
  simp only [Outline.condition, Expr.fullDemand, List.cons_append, depthAtMost_cons,
    depthAtMost_append, Item.depth_keyword, Item.depth_mark]
  exact ⟨by omega, by omega, hc.mono (by omega), by omega, depthAtMost_nil⟩

theorem Outline.depth_value? (d : Nat) (e? : Option Expr) :
    DepthAtMost (d + largest? Expr.nesting e? + 2 * largest? Expr.fullDemand e?)
      (Outline.value? d e?) := by
  cases e? with
  | none => exact depthAtMost_nil
  | some e =>
    refine (Expr.depth_outline d e).mono ?_
    show d + e.nesting + 2 * e.demand + 1 ≤ d + e.nesting + 2 * (e.demand + 1)
    omega

/-- A variable holds nothing that could be nested. -/
theorem VarDecl.depth_outline (d : Nat) (v : VarDecl) : DepthAtMost (d + 1) (v.outline d) := by
  cases hsize : v.size? <;> simp [VarDecl.outline, Outline.arraySize, hsize]

/-- Variables stand one step below their list. -/
theorem Outline.depth_varDecls (d : Nat) (vs : List VarDecl) :
    DepthAtMost (d + 2) (Outline.varDecls d vs) := by
  rw [Outline.varDecls, depthAtMost_cons, Item.depth_header]
  exact ⟨by omega, depthAtMost_flatMap fun v _ => v.depth_outline (d + 1)⟩

mutual
/-- Statements, with those in their blocks two steps below them and a level of their own. -/
theorem Stmt.depth_outline (d : Nat) : ∀ s : Stmt,
    DepthAtMost (d + s.depthBy Expr.nesting Place.nesting + 2 * s.demand + 3) (s.outline d)
  | .assign a => (a.depth_outline d).mono (by simp only [Stmt.depthBy, Stmt.demand]; omega)
  | .call c => by
    have hcall := Expr.depth_outline (d + 1) (.call c.name c.arguments)
    simp only [Expr.nesting, Expr.nestingAll_eq, Expr.demand] at hcall
    simp only [Stmt.outline, Stmt.depthBy, Stmt.demand, List.cons_append, depthAtMost_cons,
      depthAtMost_append, Item.depth_header, Item.depth_mark]
    exact ⟨by omega, hcall.mono (by omega), by omega, depthAtMost_nil⟩
  | .ifThen c body => by
    have hc := Outline.depth_condition (d + 1) .if_ c
    have hbody := Block.depth_outline (d + 1) body
    simp only [Stmt.outline, Stmt.depthBy, Stmt.demand, List.cons_append, depthAtMost_cons,
      depthAtMost_append, Item.depth_header]
    exact ⟨by omega, hc.mono (by omega), hbody.mono (by omega)⟩
  | .ifElse c body other => by
    have hc := Outline.depth_condition (d + 1) .if_ c
    have hbody := Block.depth_outline (d + 1) body
    have hother := Block.depth_outline (d + 1) other
    simp only [Stmt.outline, Stmt.depthBy, Stmt.demand, List.cons_append, depthAtMost_cons,
      depthAtMost_append, Item.depth_header, Item.depth_keyword]
    exact ⟨by omega, ⟨hc.mono (by omega), hbody.mono (by omega)⟩, by omega, hother.mono (by omega)⟩
  | .forLoop start? c step? body => by
    have hstart := Outline.depth_forStart (d + 1) start?
    have hc := Expr.depth_outline (d + 1) c
    have hstep := Outline.depth_forStep (d + 1) step?
    have hbody := Block.depth_outline (d + 1) body
    simp only [Stmt.outline, Stmt.depthBy, Stmt.demand, Expr.fullDemand, List.cons_append,
      depthAtMost_cons, depthAtMost_append, Item.depth_header, Item.depth_keyword, Item.depth_mark]
    exact ⟨by omega, by omega, by omega,
      ⟨⟨hstart.mono (by omega), hc.mono (by omega)⟩, by omega, hstep.mono (by omega)⟩,
      by omega, hbody.mono (by omega)⟩
  | .whileLoop c body => by
    have hc := Outline.depth_condition (d + 1) .while_ c
    have hbody := Block.depth_outline (d + 1) body
    simp only [Stmt.outline, Stmt.depthBy, Stmt.demand, List.cons_append, depthAtMost_cons,
      depthAtMost_append, Item.depth_header]
    exact ⟨by omega, hc.mono (by omega), hbody.mono (by omega)⟩
  | .return_ e? => by
    have he := Outline.depth_value? (d + 1) e?
    simp only [Stmt.outline, Stmt.depthBy, Stmt.demand, List.cons_append, depthAtMost_cons,
      depthAtMost_append, Item.depth_header, Item.depth_keyword, Item.depth_mark]
    exact ⟨by omega, by omega, he.mono (by omega), by omega, depthAtMost_nil⟩

theorem Stmt.depth_outlineAll (d : Nat) : ∀ ss : List Stmt,
    DepthAtMost (d + Stmt.depthAllBy Expr.nesting Place.nesting ss + 2 * Stmt.demandAll ss + 3)
      (Stmt.outlineAll d ss)
  | [] => depthAtMost_nil
  | s :: ss => by
    have hs := Stmt.depth_outline d s
    have hss := Stmt.depth_outlineAll d ss
    simp only [Stmt.outlineAll, Stmt.depthAllBy, Stmt.demandAll, depthAtMost_append]
    exact ⟨hs.mono (by omega), hss.mono (by omega)⟩

theorem Block.depth_outline (d : Nat) : ∀ b : Block,
    DepthAtMost (d + b.depthBy Expr.nesting Place.nesting + 2 * b.demand + 4) (b.outline d)
  | ⟨decls, stmts⟩ => by
    have hdecls := Outline.depth_varDecls d decls
    have hstmts := Stmt.depth_outlineAll (d + 1) stmts
    simp only [Block.outline, Block.depthBy, Block.demand, List.cons_append, depthAtMost_cons,
      depthAtMost_append, Item.depth_header, Item.depth_mark]
    exact ⟨by omega, ⟨hdecls.mono (by omega), by omega, hstmts.mono (by omega)⟩, by omega,
      depthAtMost_nil⟩
end

/-! ## Programs -/

/-- Parameters stand one step below their list. -/
theorem Outline.depth_formals (d : Nat) (fs : List Formal) :
    DepthAtMost (d + 2) (Outline.formals d fs) := by
  have hformal : ∀ f : Formal, DepthAtMost (d + 2) (f.outline (d + 1)) := by
    intro f
    simp [Formal.outline]
  cases fs with
  | nil => simp [Outline.formals]
  | cons f fs =>
    have hmore : DepthAtMost (d + 2) (Outline.formalsMore (d + 1) fs) :=
      depthAtMost_flatMap fun f _ => depthAtMost_cons.mpr ⟨by rw [Item.depth_mark]; omega, hformal f⟩
    simp [Outline.formals, hformal f, hmore]

/-- What a function shows before its body holds nothing that could be nested. -/
theorem Outline.depth_signature (d : Nat) (t : TypeName) (name : String) (fs : List Formal) :
    DepthAtMost (d + 2) (Outline.signature d t name fs) := by
  simp [Outline.signature, Outline.depth_formals d fs]

theorem Decl.depth_outline (d : Nat) (c : Decl) :
    DepthAtMost (d + c.depthBy Expr.nesting Place.nesting + 2 * c.demand + 6) (c.outline d) := by
  cases c with
  | var v => exact (v.depth_outline d).mono (by omega)
  | prototype t name fs =>
    have hsignature := Outline.depth_signature (d + 1) t name fs
    simp only [Decl.outline, List.cons_append, depthAtMost_cons, depthAtMost_append,
      Item.depth_header, Item.depth_mark]
    exact ⟨by omega, hsignature.mono (by omega), by omega, depthAtMost_nil⟩
  | function t name fs body =>
    have hsignature := Outline.depth_signature (d + 1) t name fs
    have hbody := Block.depth_outline (d + 2) body
    simp only [Decl.outline, Decl.depthBy, Decl.demand, List.cons_append, depthAtMost_cons,
      depthAtMost_append, Item.depth_header]
    exact ⟨by omega, hsignature.mono (by omega), by omega, hbody.mono (by omega)⟩
  | struct name fields =>
    have hfields := Outline.depth_varDecls (d + 1) fields
    simp only [Decl.outline, List.cons_append, depthAtMost_cons, depthAtMost_append,
      Item.depth_header, Item.depth_keyword, Item.depth_ident, Item.depth_mark]
    exact ⟨by omega, by omega, by omega, by omega, hfields.mono (by omega), by omega, by omega,
      depthAtMost_nil⟩

/-- An outline is at most as deep as the program is nested, but for two levels for each level that
the program needs and for those around its functions. -/
theorem Program.depth_outline (p : Program) :
    DepthAtMost (p.nesting + 2 * p.demand + 8) (p.outline 0) := by
  simp only [Program.outline, Outline.decls, depthAtMost_cons, Item.depth_header]
  refine ⟨by omega, by omega, depthAtMost_flatMap fun c hc => ?_⟩
  have hnesting : c.depthBy Expr.nesting Place.nesting ≤ p.nesting := largest_le.mp (Nat.le_refl _) c hc
  have hdemand : c.demand ≤ p.demand := largest_le.mp (Nat.le_refl _) c hc
  exact (c.depth_outline 2).mono (by omega)

/-- However long a source is, no line of its outline is deeper than four times the square of
`maxNesting`, and the outline can be listed with a stack of a fixed size. -/
theorem depth_outline_of_parse {source : String} {p : Program} (h : parse source = .ok p) :
    (∀ i ∈ p.outline 0, i.depth ≤ 4 * maxNesting * maxNesting) ∧
    NodeKind.outlineWithin (3 * (4 * maxNesting * maxNesting) + 1) 0 .program p =
      some (p.outline 0) := by
  have hnesting := nesting_le_of_parse h
  have hdemand := (parse_ok h).2.demand
  have hdepth : DepthAtMost (4 * maxNesting * maxNesting) (p.outline 0) := by
    refine p.depth_outline.mono ?_
    simp only [maxNesting, maxTreeNesting] at hnesting hdemand ⊢
    omega
  exact ⟨hdepth, NodeKind.outlineWithin_eq hdepth (Nat.lt_succ_self _)⟩

/-- The negations that fill the room put the outline deeper than `maxNesting`. -/
theorem depth_outline_of_parse_negationsTimes :
    parse negationsTimesSource = .ok negationsTimes ∧
    (∃ i ∈ negationsTimes.outline 0, i.depth = maxNesting + 7) ∧
    (∀ i ∈ negationsTimes.outline 0, i.depth ≤ 4 * maxNesting * maxNesting) ∧
    NodeKind.outlineWithin (3 * (4 * maxNesting * maxNesting) + 1) 0 .program negationsTimes =
      some (negationsTimes.outline 0) := by
  refine ⟨parse_negationsTimesSource, ?_, depth_outline_of_parse parse_negationsTimesSource⟩
  decide +kernel

end SyntaxOutline
