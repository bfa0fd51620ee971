import SyntaxOutline.Outline.Printer
import SyntaxOutline.Proofs.Outline.TokenStream
import SyntaxOutline.Proofs.Text.Lines

/-!
# The text of an outline gives back its entries

The text of an outline is cut into lines at the line feeds, as long as no name and no literal holds
one. A line without the spaces in front of it is a label, which holds no space, and behind the first
space a value in parentheses. And no two entries have the same label and the same value. So two
outlines that are printed alike show the same entries, in the same order
(`shown_eq_of_printed_eq`), whatever the depths and the width of the indentation.
-/

namespace SyntaxOutline

/-- What the items of an outline show, without their depths. -/
def shown (items : List Item) : List Entry := items.map Item.entry

@[simp] theorem shown_nil : shown [] = [] := rfl

@[simp] theorem shown_cons (i : Item) (is : List Item) : shown (i :: is) = i.entry :: shown is := rfl

@[simp] theorem shown_append (is js : List Item) : shown (is ++ js) = shown is ++ shown js :=
  List.map_append

/-- No name and no literal among the tokens holds a line feed. -/
def OneLine (ts : List Token) : Prop := ∀ t ∈ ts, ∀ text, t.text? = some text → '\n' ∉ text.toList

/-! ## Entries and their lines -/

/-- The token with a given number and text. -/
def Token.ofKey? : Nat × Option String → Option Token
  | (code, none) =>
    ((Keyword.all.find? (·.code == code)).map .keyword).or
      ((Mark.all.find? (·.code == code)).map .mark)
  | (17, some text) => some (.ident text)
  | (18, some text) => some (.intLit text)
  | (19, some text) => some (.realLit text)
  | (20, some text) => some (.stringLit text)
  | (21, some text) => some (.charLit text)
  | _ => none

/-- A token can be found by its number and its text. -/
theorem Token.ofKey?_key (t : Token) : Token.ofKey? t.key = some t := by
  cases t with
  | keyword k => cases k <;> rfl
  | mark m => cases m <;> rfl
  | _ => rfl

/-- Tokens with one number and one text are the same. -/
theorem Token.key_inj {t u : Token} (h : t.key = u.key) : t = u := by
  have ht := Token.ofKey?_key t
  rw [h, Token.ofKey?_key] at ht
  exact (Option.some.inj ht).symm

/-- A header can be found by its name. -/
theorem Header.find?_name (h : Header) : Header.all.find? (·.name == h.name) = some h := by
  have hall : ∀ h ∈ Header.all, Header.all.find? (·.name == h.name) = some h := by
    decide
  exact hall h (Header.mem_all h)

/-- No two headers have one name. -/
theorem Header.name_inj {h h' : Header} (heq : h.name = h'.name) : h = h' := by
  have hfind := Header.find?_name h
  rw [heq, Header.find?_name] at hfind
  exact (Option.some.inj hfind).symm

/-- No two types are written with the same tokens. -/
theorem TypeName.tokens_inj {t u : TypeName} (h : t.tokens = u.tokens) : t = u := by
  cases t <;> cases u <;> simp_all [TypeName.tokens]

/-- No two entries have the same label and the same value. -/
theorem Entry.eq_of_line {e f : Entry} (hlabel : e.label = f.label) (hvalue : e.value? = f.value?) :
    e = f := by
  have hline : (Item.mk 0 e).line = (Item.mk 0 f).line := by
    simp only [Item.line, hlabel, hvalue]
  -- The line tells the tokens, and they tell the entry unless they are none.
  have hkeys : e.tokens.map Token.key = f.tokens.map Token.key := by
    have he := Item.reading_line ⟨0, e⟩
    rw [hline, Item.reading_line] at he
    exact he.symm
  have htokens : e.tokens = f.tokens :=
    List.map_inj_right (fun _ _ => Token.key_inj) |>.mp hkeys
  cases e with
  | header h =>
    cases f with
    | header h' => rw [Header.name_inj hlabel]
    | token t => cases htokens
    | type t => cases t <;> cases htokens
  | token t =>
    cases f with
    | header h => cases htokens
    | token t' =>
      cases htokens
      rfl
    | type t' => exact absurd hlabel (Line.token_label t).1
  | type t =>
    cases f with
    | header h => cases t <;> cases htokens
    | token t' => exact absurd hlabel.symm (Line.token_label t').1
    | type t' => rw [TypeName.tokens_inj htokens]

/-! ## The characters of a line -/

/-- Whether a text can be a label: it is not empty and holds no space and no line feed. -/
def isLabel (text : String) : Bool :=
  !text.toList.isEmpty && text.toList.all fun c => c != ' ' && c != '\n'

/-- The labels that lines of an outline can have. -/
def Entry.labels : List String := Header.all.map Header.name ++ (Token.codeNames ++ ["Type"])

/-- The label of a line is one of finitely many. -/
theorem Entry.label_mem_labels (e : Entry) : e.label ∈ Entry.labels := by
  rw [Entry.labels, List.mem_append, List.mem_append]
  cases e with
  | header h => exact .inl (List.mem_map_of_mem (Header.mem_all h))
  | token t =>
    obtain ⟨hlt, hname, -⟩ := List.findIdx?_eq_some_iff_getElem.mp (Line.token_label t).2
    rw [Entry.label, ← eq_of_beq hname]
    exact .inr (.inl (List.getElem_mem hlt))
  | type t => exact .inr (.inr (List.mem_singleton.mpr rfl))

/-- Labels hold no space and no line feed, so a label ends where its line has one. -/
theorem Entry.isLabel_label (e : Entry) : isLabel e.label = true := by
  have hall : ∀ label ∈ Entry.labels, isLabel label = true := by decide
  exact hall _ e.label_mem_labels

/-- The characters behind the label of a line. -/
def Line.tail (l : Line) : List Char :=
  match l.value? with
  | none => []
  | some value => ' ' :: '(' :: (value.toList ++ [')'])

/-- A line is its label and what follows it. -/
theorem Line.toList_body (l : Line) : l.body.toList = l.label.toList ++ l.tail := by
  unfold Line.body Line.tail
  cases l.value? with
  | none => exact (List.append_nil _).symm
  | some value => simp [toString]

/-- Reads the characters of a line: the label behind the spaces, and the value behind the label. -/
def readLine (cs : List Char) : List Char × Option (List Char) :=
  let body := cs.dropWhile (· == ' ')
  (body.takeWhile (· != ' '),
    match body.dropWhile (· != ' ') with
    | [] => none
    | _ :: rest => some (rest.drop 1).dropLast)

/-- A line gives back its label and its value, however far it is indented. -/
theorem readLine_body {l : Line} (h : isLabel l.label = true) (n : Nat) :
    readLine (List.replicate n ' ' ++ l.body.toList)
      = (l.label.toList, l.value?.map String.toList) := by
  obtain ⟨hne, hchars⟩ := Bool.and_eq_true_iff.mp h
  have hspace : ∀ c ∈ l.label.toList, (c != ' ') = true := fun c hc =>
    (Bool.and_eq_true_iff.mp (List.all_eq_true.mp hchars c hc)).1
  -- The indentation goes, and the label stops what goes.
  have hbody : (List.replicate n ' ' ++ l.body.toList).dropWhile (· == ' ') = l.body.toList := by
    rw [List.dropWhile_append_of_pos (by simp), Line.toList_body]
    cases hlabel : l.label.toList with
    | nil =>
      rw [hlabel] at hne
      cases hne
    | cons c cs =>
      have hc : (c == ' ') = false := by
        have := hspace c (by rw [hlabel]; exact List.mem_cons_self ..)
        simpa using this
      rw [List.cons_append, List.dropWhile_cons, hc]
      rfl
  -- The first space behind the label stands in front of the value.
  have htake : l.tail.takeWhile (· != ' ') = [] ∧ l.tail.dropWhile (· != ' ') = l.tail := by
    unfold Line.tail
    split <;> exact ⟨rfl, rfl⟩
  simp only [readLine, hbody]
  rw [Line.toList_body, List.takeWhile_append_of_pos hspace, List.dropWhile_append_of_pos hspace,
    htake.1, htake.2, List.append_nil, Line.tail]
  cases l.value? with
  | none => rfl
  | some value => simp

/-! ## The lines of a text -/

/-- A text is cut into its lines in one way only. -/
theorem eq_of_lines_eq : ∀ {xs ys : List (List Char)}, (∀ x ∈ xs, '\n' ∉ x) →
    (∀ y ∈ ys, '\n' ∉ y) → xs.flatMap (· ++ ['\n']) = ys.flatMap (· ++ ['\n']) → xs = ys
  | [], [], _, _, _ => rfl
  | [], y :: ys, _, _, h => by simp at h
  | x :: xs, [], _, _, h => by simp at h
  | x :: xs, y :: ys, hx, hy, h => by
    rw [List.forall_mem_cons] at hx hy
    simp only [List.flatMap_cons, List.append_assoc, List.singleton_append] at h
    have hsplit := splitFeed_line hx.1 (xs.flatMap (· ++ ['\n']))
    rw [h, splitFeed_line hy.1, Prod.mk.injEq, Option.some.injEq] at hsplit
    obtain ⟨hline, hrest⟩ := hsplit
    rw [hline, eq_of_lines_eq hx.2 hy.2 hrest.symm]

/-- A unit of indentation of `n` spaces. -/
def spaces (n : Nat) : String := String.ofList (List.replicate n ' ')

/-- The characters of an item's line, without the line feed. -/
def Item.chars (n : Nat) (i : Item) : List Char :=
  List.replicate (i.depth * n) ' ' ++ i.line.body.toList

/-- The indentation of a line as characters. -/
theorem toList_indentation (n depth : Nat) :
    (String.join (List.replicate depth (spaces n))).toList = List.replicate (depth * n) ' ' := by
  rw [String.toList_join, List.flatMap_replicate, spaces, String.toList_ofList,
    List.flatten_replicate_replicate]

/-- The text of an outline as characters: each line with a line feed behind it. -/
theorem toList_outlineText (n : Nat) (items : List Item) :
    (outlineText (spaces n) items).toList = (items.map (Item.chars n)).flatMap (· ++ ['\n']) := by
  rw [outlineText, String.toList_join, List.flatMap_map, List.flatMap_map]
  congr 1
  funext i
  rw [Line.text, String.toList_append, String.toList_append, toList_indentation, Item.chars]
  rfl

/-- The line of an item gives back the label and the value of its entry. -/
theorem Item.readLine_chars (n : Nat) (i : Item) :
    readLine (i.chars n) = (i.entry.label.toList, i.entry.value?.map String.toList) := by
  have hlabel : isLabel i.line.label = true := Entry.isLabel_label i.entry
  rw [Item.chars, readLine_body hlabel]
  rfl

/-- An item without line feeds in its texts is shown on one line. -/
theorem Item.feed_notMem_chars {n : Nat} {i : Item} (h : OneLine i.entry.tokens) :
    '\n' ∉ i.chars n := by
  obtain ⟨-, hlabel⟩ := Bool.and_eq_true_iff.mp (Entry.isLabel_label i.entry)
  have hlabel' : '\n' ∉ i.entry.label.toList := by
    intro hmem
    have := List.all_eq_true.mp hlabel _ hmem
    simp at this
  have hvalue : ∀ value, i.entry.value? = some value → '\n' ∉ value.toList := by
    intro value hv
    cases he : i.entry with
    | header hd => rw [he] at hv; cases hv
    | token t =>
      rw [he] at h hv
      exact h t (List.mem_singleton.mpr rfl) value hv
    | type t =>
      rw [he] at h hv
      cases hv
      -- Only the name of a struct is not fixed.
      cases t with
      | struct name =>
        have hname : '\n' ∉ name.toList :=
          h (.ident name) (List.mem_cons_of_mem _ (List.mem_singleton.mpr rfl)) name rfl
        have hchars : (TypeName.struct name).name.toList = Line.structLead ++ name.toList :=
          String.toList_append
        rw [hchars, List.mem_append, not_or]
        exact ⟨by decide, hname⟩
      | _ => decide
  have hline : i.line.value? = i.entry.value? := rfl
  rw [Item.chars, Line.toList_body, List.mem_append, List.mem_append, not_or, not_or]
  refine ⟨by simp, hlabel', ?_⟩
  unfold Line.tail
  rw [hline]
  cases hv : i.entry.value? with
  | none => simp
  | some value => simpa using hvalue value hv

/-- Outlines with the same text show the same entries, if no text in them goes over a line. -/
theorem shown_eq_of_outlineText_eq {n : Nat} {is js : List Item} (hi : OneLine (outlineTokens is))
    (hj : OneLine (outlineTokens js))
    (h : outlineText (spaces n) is = outlineText (spaces n) js) : shown is = shown js := by
  have hfeed : ∀ {items : List Item}, OneLine (outlineTokens items) →
      ∀ cs ∈ items.map (Item.chars n), '\n' ∉ cs := by
    intro items hitems cs hcs
    obtain ⟨i, himem, rfl⟩ := List.mem_map.mp hcs
    exact Item.feed_notMem_chars fun t ht => hitems t (List.mem_flatMap.mpr ⟨i, himem, ht⟩)
  have hlines : is.map (Item.chars n) = js.map (Item.chars n) := by
    refine eq_of_lines_eq (hfeed hi) (hfeed hj) ?_
    rw [← toList_outlineText, ← toList_outlineText, h]
  -- Item by item, the same line gives the same label and the same value.
  clear hi hj h
  induction is generalizing js with
  | nil =>
    cases js with
    | nil => rfl
    | cons j js => cases hlines
  | cons i is ih =>
    cases js with
    | nil => cases hlines
    | cons j js =>
      rw [List.map_cons, List.map_cons, List.cons.injEq] at hlines
      have hread := Item.readLine_chars n i
      rw [hlines.1, Item.readLine_chars, Prod.mk.injEq] at hread
      have hlabel : i.entry.label = j.entry.label := String.toList_inj.mp hread.1.symm
      have hvalue : i.entry.value? = j.entry.value? :=
        Option.map_inj_right (fun _ _ => String.toList_inj.mp) |>.mp hread.2.symm
      rw [shown_cons, shown_cons, Entry.eq_of_line hlabel hvalue, ih hlines.2]

/-! ## What is printed -/

/-- The bytes that an outline is printed as. -/
def printed (unit : String) (items : List Item) : ByteArray :=
  ((Printer.new unit Sink.unlimited).printItems items).2.sink.held

/-- A sink without a limit takes everything. -/
theorem Sink.write_unlimited {s : Sink} (h : s.limit? = none) (bytes : ByteArray) :
    s.write bytes = (none, { s with held := s.held ++ bytes }) := by
  have hroom : s.room bytes.size = bytes.size := by rw [room, h]
  rw [write_eq, hroom, if_pos rfl, take, ByteArray.extract_zero_size]

/-- A printer whose sink has no limit adds the text of each line. -/
theorem Printer.held_printAll (ls : List Line) (p : Printer Sink) (h : p.sink.limit? = none) :
    (p.printAll ls).2.sink.held
      = p.sink.held ++ (String.join (ls.map (Line.text p.unit))).toUTF8 := by
  have hwrite := congrArg Prod.snd (Printer.printAll_eq_write ls p)
  dsimp only at hwrite
  rw [hwrite, Sink.write_unlimited h]

/-- What is printed is the text of the outline. -/
theorem printed_eq (unit : String) (items : List Item) :
    printed unit items = (outlineText unit items).toUTF8 := by
  have h := Printer.held_printAll (items.map Item.line) (.new unit .unlimited) rfl
  rw [List.map_map] at h
  rw [printed, Printer.printItems, h]
  exact ByteArray.empty_append

/-- Outlines that are printed alike show the same. -/
theorem shown_eq_of_printed_eq {n : Nat} {is js : List Item} (hi : OneLine (outlineTokens is))
    (hj : OneLine (outlineTokens js)) (h : printed (spaces n) is = printed (spaces n) js) :
    shown is = shown js := by
  rw [printed_eq, printed_eq] at h
  exact shown_eq_of_outlineText_eq hi hj (String.toByteArray_inj.mp h)

end SyntaxOutline
