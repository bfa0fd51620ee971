import SyntaxOutline.Proofs.Grammar.ProgramReads

/-!
# The tokens that the lines of an outline show

A line whose label is the name of a token stands for that token; a line that shows a type stands for
the keyword of the type, and for the keyword and the name of a struct; a header stands for nothing.

`Line.reading` reads a line by its label and its value alone. Read so from top to bottom, the lines
of items give back the tokens of the items (`flatMap_reading`).
-/

namespace SyntaxOutline

/-- The number of a token, and its text if it is an identifier or a literal. -/
def Token.key (t : Token) : Nat × Option String := (t.code, t.text?)

/-- All headers. -/
def Header.all : List Header :=
  [.program, .declList, .varDeclList, .formalsList, .stmtList, .actualsList, .varDecl, .formalDecl,
    .funcDecl, .funcDef, .funcBody, .structDecl, .assignStmt, .callStmt, .ifStmt, .ifElseStmt,
    .forStmt, .whileStmt, .returnStmt, .sizeofExpr, .boundedExpr, .callExpr, .arrayExpr, .accessLoc,
    .unary .negate, .unary .addressOf, .unary .not, .binary .plus, .binary .minus, .binary .times,
    .binary .divide, .binary .modulo, .binary .bitAnd, .binary .bitOr, .binary .equals,
    .binary .notEquals, .binary .less, .binary .greater, .binary .lessEq, .binary .greaterEq]

/-- The list of headers is complete. -/
theorem Header.mem_all (h : Header) : h ∈ Header.all := by
  cases h with
  | unary op => cases op <;> decide
  | binary op => cases op <;> decide
  | _ => decide

namespace Line

/-- What stands in front of the name of a struct. -/
def structLead : List Char := "STRUCT ".toList

/-- The tokens of the type that is shown as `value`. -/
def readType (value : String) : List (Nat × Option String) :=
  if structLead.isPrefixOf value.toList then
    [(Token.keyword .struct).key,
      (Token.ident (String.ofList (value.toList.drop structLead.length))).key]
  else (Token.codeNames.idxOf? value).toList.map fun code => (code, none)

/-- The tokens that a line stands for. -/
def reading (l : Line) : List (Nat × Option String) :=
  if l.label = "Type" then (l.value?.map readType).getD []
  else (Token.codeNames.idxOf? l.label).toList.map fun code => (code, l.value?)

/-- The name of a type gives back the tokens the type is written with. -/
theorem readType_name (t : TypeName) : readType t.name = t.tokens.map Token.key := by
  cases t with
  | struct n =>
    have hname : (TypeName.struct n).name.toList = structLead ++ n.toList :=
      String.toList_append
    have hlead : structLead.isPrefixOf (TypeName.struct n).name.toList = true := by
      rw [List.isPrefixOf_iff_prefix, hname]
      exact List.prefix_append ..
    rw [readType, if_pos hlead, hname, List.drop_left, String.ofList_toList]
    rfl
  | _ => decide

/-- No header has the name of a token or of a type. -/
theorem reading_header (d : Nat) (h : Header) : (Item.header d h).line.reading = [] := by
  have hall : ∀ h ∈ Header.all, h.name ≠ "Type" ∧ Token.codeNames.idxOf? h.name = none := by
    decide
  obtain ⟨htype, htoken⟩ := hall h (Header.mem_all h)
  show (if h.name = "Type" then _ else _) = []
  rw [if_neg htype]
  show ((Token.codeNames.idxOf? h.name).toList.map fun code => (code, none)) = []
  rw [htoken]
  rfl

/-- No token has the name that stands for types, and its name tells its number. -/
theorem token_label (t : Token) :
    t.name ≠ "Type" ∧ Token.codeNames.idxOf? t.name = some t.code := by
  -- The numbers of all tokens are below the length of the table, and its names differ.
  have hall : ∀ code ∈ List.range Token.codeNames.length,
      Token.codeName code ≠ "Type" ∧
        Token.codeNames.idxOf? (Token.codeName code) = some code := by
    decide
  have hlt : t.code < Token.codeNames.length := by
    cases t with
    | keyword k => cases k <;> decide
    | mark m => cases m <;> decide
    | _ => exact of_decide_eq_true rfl
  exact hall t.code (List.mem_range.mpr hlt)

/-- The line of a token gives back the token. -/
theorem reading_token (d : Nat) (t : Token) :
    (Item.mk d (.token t)).line.reading = [t.key] := by
  obtain ⟨htype, hcode⟩ := token_label t
  show (if t.name = "Type" then _ else _) = [t.key]
  rw [if_neg htype]
  show ((Token.codeNames.idxOf? t.name).toList.map fun code => (code, t.text?)) = [t.key]
  rw [hcode]
  rfl

end Line

/-- The line of an item gives back the tokens of its entry. -/
theorem Item.reading_line (i : Item) : i.line.reading = i.entry.tokens.map Token.key := by
  obtain ⟨d, entry⟩ := i
  cases entry with
  | header h => exact Line.reading_header d h
  | token t => exact Line.reading_token d t
  | type t => exact Line.readType_name t

/-- The lines of an outline give back its tokens. -/
theorem flatMap_reading (items : List Item) :
    (items.map Item.line).flatMap Line.reading = (outlineTokens items).map Token.key := by
  induction items with
  | nil => rfl
  | cons i items ih =>
    rw [List.map_cons, List.flatMap_cons, ih, Item.reading_line, outlineTokens_cons,
      List.map_append]

end SyntaxOutline
