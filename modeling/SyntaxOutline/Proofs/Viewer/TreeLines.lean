import SyntaxOutline.Proofs.Lexer.TruePositions
import SyntaxOutline.Proofs.Outline.Buffering
import SyntaxOutline.Proofs.Outline.LineText
import SyntaxOutline.Viewer.App

/-!
# The viewer takes the lines of an outline apart

The viewer gets an outline as a text. It cuts the text into lines and each line into its
indentation, its label and its value, and what it finds is what the printer has put there. A value
may hold anything but a line feed: further parentheses, carriage returns, white space of all kinds.
But no label has a space in it, so the first ` (` of a line is where the value starts; and the
printer ends the line with a parenthesis or with a label, so no carriage return is lost at the end.
-/

namespace SyntaxOutline

namespace TreeLine

/-- The line that was taken apart. -/
def text (l : TreeLine) : List Char :=
  l.indent ++ l.name ++
    match l.value? with
    | none => []
    | some value => ' ' :: '(' :: (value ++ [')'])

/-- What stands before the parenthesis and behind it makes up the text. -/
theorem eq_of_splitOpening {cs name rest : List Char} (h : splitOpening cs = some (name, rest)) :
    cs = name ++ ' ' :: '(' :: rest := by
  induction cs generalizing name with
  | nil => cases h
  | cons c cs ih =>
    rw [splitOpening] at h
    split at h
    · next hc =>
      simp only [Bool.and_eq_true, decide_eq_true_eq] at hc
      obtain ⟨rfl, rfl⟩ := Prod.mk.inj (Option.some.inj h)
      obtain ⟨hspace, hopen⟩ := hc
      cases cs with
      | nil => cases hopen
      | cons d cs =>
        cases hopen
        rw [hspace]
        rfl
    · obtain ⟨⟨name', rest'⟩, hs, hpair⟩ := Option.map_eq_some_iff.mp h
      obtain ⟨rfl, rfl⟩ := Prod.mk.inj hpair
      rw [ih hs]
      rfl

/-- The first ` (` comes behind a name without spaces. -/
theorem splitOpening_of_notMem {name : List Char} (h : ' ' ∉ name) (rest : List Char) :
    splitOpening (name ++ ' ' :: '(' :: rest) = some (name, rest) := by
  induction name with
  | nil => rfl
  | cons c name ih =>
    rw [List.mem_cons, not_or] at h
    rw [List.cons_append, splitOpening, if_neg, ih h.2]
    · rfl
    · simp [Ne.symm h.1]

/-- A name without a space is not split. -/
theorem splitOpening_eq_none {name : List Char} (h : ' ' ∉ name) : splitOpening name = none := by
  cases hs : splitOpening name with
  | none => rfl
  | some parts =>
    obtain ⟨before, rest⟩ := parts
    rw [eq_of_splitOpening hs] at h
    simp at h

/-- Nothing is lost. -/
theorem text_split (line : List Char) : (split line).text = line := by
  have hline := List.takeWhile_append_dropWhile (p := Text.isWhiteSpace) (l := line)
  unfold split
  dsimp only
  split
  · next name rest hs =>
    split
    · next hlast =>
      rw [eq_of_splitOpening hs, ← List.dropLast_append_getLast? ')' hlast] at hline
      rw [text, List.append_assoc]
      exact hline
    · rw [text, List.append_nil]
      exact hline
  · rw [text, List.append_nil]
    exact hline

/-- The indentation is white space, and the label does not start with any. -/
theorem isWhiteSpace_split (line : List Char) :
    (∀ c ∈ (split line).indent, Text.isWhiteSpace c = true) ∧
      ∀ c ∈ (split line).name.head?, Text.isWhiteSpace c = false := by
  have hindent : (split line).indent = line.takeWhile Text.isWhiteSpace := by
    unfold split
    dsimp only
    split
    · split <;> rfl
    · rfl
  constructor
  · intro c hc
    rw [hindent] at hc
    exact List.mem_takeWhile_imp hc
  · intro c hc
    -- The label starts where the indentation ends.
    have hstart : (line.dropWhile Text.isWhiteSpace).head? = some c := by
      have hline := List.takeWhile_append_dropWhile (p := Text.isWhiteSpace) (l := line)
      have htext := (text_split line).trans hline.symm
      rw [text, hindent, List.append_assoc, List.append_cancel_left_eq] at htext
      rw [← htext, List.head?_append, hc]
      rfl
    have hnot := List.head?_dropWhile_not Text.isWhiteSpace line
    rw [hstart] at hnot
    exact hnot

/-- A label without white space behind spaces, and what follows the label, are told apart. -/
theorem split_line {label : List Char} (hne : label ≠ [])
    (hlabel : ∀ c ∈ label, Text.isWhiteSpace c = false) (n : Nat) (value? : Option (List Char)) :
    split (text ⟨List.replicate n ' ', label, value?⟩) = ⟨List.replicate n ' ', label, value?⟩ := by
  have hspace : ' ' ∉ label := by
    intro hmem
    cases hlabel ' ' hmem
  have hindent : ∀ c ∈ List.replicate n ' ', Text.isWhiteSpace c = true := by
    intro c hc
    rw [List.eq_of_mem_replicate hc]
    rfl
  -- The indentation ends at the first character of the label.
  have hstop : ∀ rest, (label ++ rest).takeWhile Text.isWhiteSpace = [] ∧
      (label ++ rest).dropWhile Text.isWhiteSpace = label ++ rest := by
    intro rest
    cases label with
    | nil => exact absurd rfl hne
    | cons c cs =>
      have hc := hlabel c List.mem_cons_self
      rw [List.cons_append, List.takeWhile_cons, List.dropWhile_cons, hc]
      exact ⟨rfl, rfl⟩
  unfold split text
  dsimp only
  rw [List.append_assoc, List.takeWhile_append_of_pos hindent, List.dropWhile_append_of_pos hindent,
    (hstop _).1, (hstop _).2, List.append_nil]
  cases value? with
  | none =>
    rw [List.append_nil, splitOpening_eq_none hspace]
  | some value =>
    dsimp only
    rw [splitOpening_of_notMem hspace]
    dsimp only
    rw [if_pos List.getLast?_concat, List.dropLast_concat]

end TreeLine

/-! ## The lines of an outline -/

/-- Labels hold no white space, so they are not taken for indentation. -/
theorem Entry.isWhiteSpace_label (e : Entry) :
    ∀ c ∈ e.label.toList, Text.isWhiteSpace c = false := by
  have hall : ∀ label ∈ Entry.labels, (label.toList.all fun c => !Text.isWhiteSpace c) = true := by
    decide
  intro c hc
  have h := List.all_eq_true.mp (hall _ e.label_mem_labels) c hc
  simpa using h

theorem Entry.label_ne_nil (e : Entry) : e.label.toList ≠ [] := by
  intro h
  obtain ⟨hne, -⟩ := Bool.and_eq_true_iff.mp e.isLabel_label
  rw [h] at hne
  cases hne

/-- The parts that the line of an item is made of. -/
def Item.parts (unit : String) (i : Item) : TreeLine :=
  ⟨(String.join (List.replicate i.depth unit)).toList, i.entry.label.toList,
    i.entry.value?.map String.toList⟩

/-- The parts of a line make up the line. -/
theorem Item.text_parts (n : Nat) (i : Item) : (i.parts (spaces n)).text = i.chars n := by
  have hline : i.line.value? = i.entry.value? := rfl
  rw [parts, TreeLine.text, toList_indentation, chars, Line.toList_body, List.append_assoc,
    Line.tail, hline]
  cases i.entry.value? <;> rfl

/-- The line of an item is split into its indentation, its label and its value. -/
theorem Item.split_chars (n : Nat) (i : Item) :
    TreeLine.split (i.chars n) = i.parts (spaces n) := by
  rw [← text_parts, parts, toList_indentation]
  exact TreeLine.split_line i.entry.label_ne_nil i.entry.isWhiteSpace_label _ _

/-- A line of an outline ends with a label or a parenthesis. -/
theorem Item.dropReturn_chars (n : Nat) (i : Item) : Text.dropReturn (i.chars n) = i.chars n := by
  refine if_neg fun hlast => ?_
  rw [← text_parts, TreeLine.text] at hlast
  cases hv : (i.parts (spaces n)).value? with
  | none =>
    have hname : (i.parts (spaces n)).name ≠ [] := i.entry.label_ne_nil
    rw [hv, List.append_nil, List.getLast?_append_of_ne_nil _ hname] at hlast
    cases i.entry.isWhiteSpace_label '\r' (List.mem_of_getLast? hlast)
  | some value =>
    have hclose : ∀ before : List Char,
        (before ++ ' ' :: '(' :: (value ++ [')'])).getLast? = some ')' := by
      intro before
      rw [← List.cons_append, ← List.cons_append, ← List.append_assoc, List.getLast?_concat]
    rw [hv, hclose] at hlast
    cases hlast

/-- Lines that were joined with line feeds are the lines of the text. -/
theorem charLines_flatMap {lines : List (List Char)}
    (h : ∀ line ∈ lines, '\n' ∉ line ∧ Text.dropReturn line = line) :
    Text.charLines (lines.flatMap (· ++ ['\n'])) = lines := by
  induction lines with
  | nil => rw [List.flatMap_nil, Text.charLines]
  | cons line lines ih =>
    rw [List.forall_mem_cons] at h
    rw [List.flatMap_cons, List.append_assoc, List.singleton_append, charLines_line h.1.1, h.1.2,
      ih h.2]

/-- A text of items without line feeds has a line for each item. -/
theorem lines_outlineText {items : List Item} (h : OneLine (outlineTokens items)) (n : Nat) :
    Text.lines (outlineText (spaces n) items) = items.map fun i => String.ofList (i.chars n) := by
  rw [Text.lines, toList_outlineText, charLines_flatMap, List.map_map]
  · rfl
  · intro line hline
    obtain ⟨i, hi, rfl⟩ := List.mem_map.mp hline
    have hone : OneLine i.entry.tokens := fun t ht => h t (List.mem_flatMap.mpr ⟨i, hi, ht⟩)
    exact ⟨Item.feed_notMem_chars hone, i.dropReturn_chars n⟩

/-! ## Programs that were parsed -/

/-- A token that has a text is spelled as the text. -/
theorem Token.text_eq_spelling {t : Token} {text : String} (h : t.text? = some text) :
    text = t.spelling := by
  cases t <;> cases h <;> rfl

/-- No token of a source holds a line feed. -/
theorem oneLine_of_parse {source : String} {p : Program} (h : parse source = .ok p) :
    OneLine p.tokens := by
  obtain ⟨list, hlist, htokens⟩ := tokenKinds?_eq_some (parse_ok h).1
  intro t ht text htext
  rw [← htokens] at ht
  obtain ⟨placed, hplaced, rfl⟩ := List.mem_map.mp ht
  rw [(readFrom_of_tokensOf hlist).2] at hplaced
  rw [Token.text_eq_spelling htext]
  exact Token.newline_not_mem_spelling (Lexer.readFrom_places _ _ placed hplaced).1

/-- The lines of what is printed for a source that parses are those of its items. -/
theorem lines_outlineText_of_parse {source : String} {p : Program} (h : parse source = .ok p)
    (n : Nat) :
    Text.lines (p.outlineText (spaces n)) = (p.outline 0).map fun i => String.ofList (i.chars n) := by
  refine lines_outlineText ?_ n
  rw [Program.outlineTokens_outline]
  exact oneLine_of_parse h

/-- Each of them is taken apart into what it was put together from. -/
theorem split_lines (n : Nat) (items : List Item) :
    (items.map fun i => String.ofList (i.chars n)).map (fun line => TreeLine.split line.toList)
      = items.map (Item.parts (spaces n)) := by
  rw [List.map_map]
  refine List.map_congr_left fun i _ => ?_
  rw [Function.comp_apply, String.toList_ofList, Item.split_chars]

/-- Taking the lines of an outline apart undoes printing them. A line is its indentation, its name
and its value in parentheses, put together again; its indentation is white space, and its name does
not start with any. And of a source that parses, whatever the number of spaces in the unit of
indentation, the viewer has as many lines as were printed, and each of them is taken apart into the
indentation, the label and the value of its item. -/
theorem split_undoes_print :
    (∀ line : String, (TreeLine.split line.toList).text = line.toList ∧
      (∀ c ∈ (TreeLine.split line.toList).indent, Text.isWhiteSpace c = true) ∧
      ∀ c ∈ (TreeLine.split line.toList).name.head?, Text.isWhiteSpace c = false) ∧
    ∀ source p, parse source = .ok p → ∀ (n : Nat) (fileName : String),
      let tree := (Viewer.new fileName source (p.outlineText (spaces n))).tree
      (∃ sink, p.print (spaces n) Sink.unlimited = (.ok tree.length, sink) ∧
        sink.held = (p.outlineText (spaces n)).toUTF8) ∧
      tree.map (fun line => TreeLine.split line.toList) =
        (p.outline 0).map (Item.parts (spaces n)) := by
  refine ⟨fun line => ⟨TreeLine.text_split _, TreeLine.isWhiteSpace_split _⟩, ?_⟩
  intro source p h n fileName
  have htree : (Viewer.new fileName source (p.outlineText (spaces n))).tree
      = (p.outline 0).map fun i => String.ofList (i.chars n) := lines_outlineText_of_parse h n
  dsimp only
  rw [htree, List.length_map]
  exact ⟨⟨_, p.print_unlimited (spaces n), rfl⟩, split_lines n (p.outline 0)⟩

/-- A function that assigns a text with parentheses, a carriage return and white space in it. -/
def quotingSource : String := "void f()\x7bs=\"a (b) )\r\u2003\";c=' ';\x7d"

def quoting : Program :=
  ⟨[.function .void "f" [] ⟨[], [.assign ⟨.var "s", .string "\"a (b) )\r\u2003\""⟩,
    .assign ⟨.var "c", .char "' '"⟩]⟩]⟩

/-- A line that is not of an outline, and an outline with values that hold parentheses, white space
and a carriage return. -/
theorem split_undoes_print_quoting :
    (TreeLine.split "\u2003a (b) (c)".toList).text = "\u2003a (b) (c)".toList ∧
    parse quotingSource = .ok quoting ∧
    let tree := (Viewer.new "f.c" quotingSource (quoting.outlineText (spaces 3))).tree
    (∃ sink, quoting.print (spaces 3) Sink.unlimited = (.ok tree.length, sink) ∧
      sink.held = (quoting.outlineText (spaces 3)).toUTF8) ∧
    tree.map (fun line => TreeLine.split line.toList) =
      (quoting.outline 0).map (Item.parts (spaces 3)) ∧
    ∃ line ∈ tree, TreeLine.split line.toList =
      ⟨List.replicate 18 ' ', "STRINGLITERAL".toList, some "\"a (b) )\r\u2003\"".toList⟩ := by
  obtain ⟨hlines, hparsed⟩ := split_undoes_print
  have h : parse quotingSource = .ok quoting := by with_unfolding_all rfl
  obtain ⟨hprint, hsplit⟩ := hparsed quotingSource quoting h 3 "f.c"
  refine ⟨(hlines "\u2003a (b) (c)").1, h, hprint, hsplit, ?_⟩
  have hmem : (⟨List.replicate 18 ' ', "STRINGLITERAL".toList,
      some "\"a (b) )\r\u2003\"".toList⟩ : TreeLine) ∈
        (quoting.outline 0).map (Item.parts (spaces 3)) := by
    decide +kernel
  rw [← hsplit] at hmem
  exact List.mem_map.mp hmem

end SyntaxOutline
