import SyntaxOutline.Proofs.Lexer.LaidOut
import SyntaxOutline.Viewer.Highlight

/-!
# Highlighting agrees with reading

A line of source is coloured without being read: the highlighter only looks for quotes and for two
slashes. On a line that can be read and opens no comment with `/*`, it finds what the lexer finds.
The pieces in the colour of strings are the quoted tokens, and the piece in the colour of comments
is the comment that the lexer skips (`highlighting_agrees_with_reading`).

The characters of a line are silent, or a quote, or a slash. Silent ones add nothing to the pieces
that count (`marked_append`), whatever words the highlighter makes of them. Between tokens there are
only blanks, up to a comment that ends the line, and only quoted tokens and the slash have
characters that are not silent.
-/

namespace SyntaxOutline

open scoped Computability

/-! ## What the lexer skips -/

/-- The blanks and comments that are skipped when a text is read: in front of each token, and behind
the last one. -/
def Lexer.skipped (cs : List Char) : List (List Char) :=
  match _ht : Trivia.split cs with
  | .unclosed trivia _ => [trivia]
  | .done trivia [] => [trivia]
  | .done trivia (c :: rest) =>
    match _hs : Token.scan c rest with
    | .error _ => [trivia]
    | .ok (_, rest) => trivia :: skipped rest
termination_by cs.length
decreasing_by
  have := Trivia.length_rest_le _ht
  have := Token.length_rest_lt_of_scan _hs
  omega

/-- At the end of a text all that is left was skipped. -/
theorem Lexer.skipped_end {cs trivia : List Char} (ht : Trivia.split cs = .done trivia []) :
    skipped cs = [trivia] := by
  rw [skipped]
  split
  all_goals
    rename_i ht'
    rw [ht] at ht'
    cases ht'
  rfl

/-- In front of a token stands what was skipped, and then it goes on behind the token. -/
theorem Lexer.skipped_token {c : Char} {cs trivia rest rest' : List Char} {t : Token}
    (ht : Trivia.split cs = .done trivia (c :: rest)) (hs : Token.scan c rest = .ok (t, rest')) :
    skipped cs = trivia :: skipped rest' := by
  rw [skipped]
  split
  all_goals
    rename_i ht'
    rw [ht] at ht'
    cases ht'
  split
  all_goals
    rename_i hs'
    rw [hs] at hs'
    cases hs'
  rfl

/-- Texts that take turns, those of the first list first. -/
def alternating : List (List Char) → List (List Char) → List Char
  | [], others => others.flatten
  | text :: texts, [] => text ++ texts.flatten
  | text :: texts, other :: others => text ++ (other ++ alternating texts others)

/-- A text that can be read is made of its tokens and what is skipped between them. -/
theorem Lexer.alternating_skipped {p : Position} {cs : List Char}
    (h : (readFrom p cs).error? = none) :
    alternating (skipped cs) ((readFrom p cs).tokens.map (·.token.spelling.toList)) = cs := by
  induction cs using reading_induction generalizing p with
  | unclosed cs trivia comment ht =>
    rw [readFrom_unclosed ht] at h
    cases h
  | finished cs trivia ht =>
    obtain ⟨rfl, -, -⟩ := Trivia.split_eq_done_iff.mp ht
    rw [readFrom_end ht, skipped_end ht]
    rfl
  | fault cs trivia c rest f ht hs =>
    rw [readFrom_fault ht hs] at h
    cases h
  -- What was skipped, the token, and then the rest of the text.
  | token cs trivia c rest t rest' ht hs ih =>
    obtain ⟨rfl, -, -⟩ := Trivia.split_eq_done_iff.mp ht
    obtain ⟨hcs, -, -⟩ := Token.scan_eq_ok_iff.mp hs
    rw [readFrom_token ht hs] at h ⊢
    rw [skipped_token ht hs, List.map_cons, alternating, ih h, hcs]

namespace Trivia

/-- The comments from `//` on in a stretch of blanks and comments. -/
def lineComments (cs : List Char) : List (List Char) :=
  match cs with
  | '/' :: '/' :: cs => ('/' :: '/' :: (splitLine cs).1) :: lineComments (splitLine cs).2
  | '/' :: '*' :: cs =>
    match _h : splitComment cs with
    | some (_, rest) => lineComments rest
    | none => []
  | _ :: cs => lineComments cs
  | [] => []
termination_by cs.length
decreasing_by
  · have := congrArg List.length (splitLine_append cs)
    simp only [List.length_append, List.length_cons] at this ⊢
    omega
  · have := congrArg List.length (splitComment_append _h)
    simp only [List.length_append, List.length_cons] at this ⊢
    omega
  · simp

/-- A blank holds no comment. -/
theorem lineComments_blank {c : Char} (h : isBlank c = true) (cs : List Char) :
    lineComments (c :: cs) = lineComments cs := by
  have hc : c ≠ '/' := by
    intro hc
    rw [hc] at h
    cases h
  rw [lineComments]
  · exact fun _ hslash => absurd hslash hc
  · exact fun _ hslash => absurd hslash hc

/-- A comment that ends with the text is one. -/
theorem lineComments_lastLine {body : List Char} (h : '\n' ∉ body) :
    lineComments ('/' :: '/' :: body) = ['/' :: '/' :: body] := by
  rw [lineComments, splitLine_lastLine h, lineComments]

/-- On a line that opens no comment with a star, there are blanks between tokens, and behind the
last one perhaps a comment. -/
theorem Before.blanks_or_comment {trivia rest : List Char} (h : Before trivia rest)
    (hfeed : '\n' ∉ trivia) (hopen : ¬ ['/', '*'] <:+: trivia) :
    (∀ c ∈ trivia, isBlank c = true) ∨
      rest = [] ∧ ∃ blanks body, (∀ c ∈ blanks, isBlank c = true) ∧ '\n' ∉ body ∧
        trivia = blanks ++ '/' :: '/' :: body := by
  induction h with
  | nil rest => exact .inl (List.forall_mem_nil _)
  | @blank c trivia rest hc _ ih =>
    have hfeed' : '\n' ∉ trivia := fun hmem => hfeed (List.mem_cons_of_mem _ hmem)
    have hopen' : ¬ ['/', '*'] <:+: trivia := fun hin => hopen (List.infix_cons hin)
    rcases ih hfeed' hopen' with hblank | ⟨hrest, blanks, body, hblanks, hbody, rfl⟩
    · exact .inl (List.forall_mem_cons.mpr ⟨hc, hblank⟩)
    · exact .inr ⟨hrest, c :: blanks, body, List.forall_mem_cons.mpr ⟨hc, hblanks⟩, hbody, rfl⟩
  | line hbody _ _ =>
    refine absurd ?_ hfeed
    simp
  | @lastLine body hbody => exact .inr ⟨rfl, [], body, List.forall_mem_nil _, hbody, rfl⟩
  | block hbody _ _ => exact absurd ⟨[], _, rfl⟩ hopen

/-- Blanks in front of a text hold no comment. -/
theorem lineComments_blanks {blanks : List Char} (h : ∀ c ∈ blanks, isBlank c = true)
    (cs : List Char) : lineComments (blanks ++ cs) = lineComments cs := by
  induction blanks with
  | nil => rfl
  | cons c blanks ih =>
    rw [List.forall_mem_cons] at h
    rw [List.cons_append, lineComments_blank h.1, ih h.2]

/-- Blanks alone hold no comment. -/
theorem lineComments_eq_nil {blanks : List Char} (h : ∀ c ∈ blanks, isBlank c = true) :
    lineComments blanks = [] := by
  have hnone := lineComments_blanks h []
  rw [List.append_nil, lineComments] at hnone
  exact hnone

end Trivia

namespace Highlight

/-! ## The pieces that count -/

/-- Putting the pieces of a line together gives the line. -/
theorem flatMap_text_line (cs : List Char) : (line cs).flatMap Piece.text = cs := by
  fun_induction line cs with
  | case1 => rfl
  | case2 c cs _ => simp
  | case3 c cs _ _ ih => rw [List.flatMap_cons, ih, List.cons_append, splitQuoted_append]
  | case4 c cs _ _ _ word rest ih =>
    rw [List.flatMap_cons, ih]
    exact congrArg (c :: ·) List.takeWhile_append_dropWhile
  | case5 c cs _ _ _ ih =>
    rw [List.flatMap_cons, ih]
    rfl

/-- Whether a piece is a literal or a comment. -/
def Piece.isMarked (p : Piece) : Bool := p.kind == .quoted || p.kind == .comment

/-- The literals and comments of a line. -/
def marked (cs : List Char) : List Piece := (line cs).filter Piece.isMarked

/-- Whether a character is neither a quote nor a slash. -/
def isSilent (c : Char) : Bool := c != '"' && c != '\'' && c != '/'

/-- Characters of a class without quotes and slashes are silent. -/
theorem isSilent_of {q : Char → Bool} (hq : ['"', '\'', '/'].any q = false) {c : Char}
    (h : q c = true) : isSilent c = true := by
  have hne : ∀ d ∈ ['"', '\'', '/'], c ≠ d := by
    intro d hd hcd
    rw [hcd] at h
    exact List.any_eq_false.mp hq d hd h
  simpa [isSilent, and_assoc] using hne

/-- Words are neither quoted nor comments. -/
theorem wordKind_not_marked (word : List Char) (called : Bool) :
    Piece.isMarked ⟨wordKind word called, word⟩ = false := by
  unfold wordKind
  split
  · rfl
  split
  · rfl
  split
  · rfl
  split
  · rfl
  split <;> rfl

/-- Nor are single characters. -/
theorem singlePiece_not_marked (c : Char) : (singlePiece c).isMarked = false := by
  unfold singlePiece
  split <;> rfl

/-- Characters that add nothing on their own add nothing when they are dropped together. -/
theorem marked_dropWhile {p : Char → Bool} {cs : List Char}
    (h : ∀ d ds, d :: ds <:+ cs → p d = true → marked (d :: ds) = marked ds) :
    marked (cs.dropWhile p) = marked cs := by
  induction cs with
  | nil => rfl
  | cons d ds ih =>
    cases hd : p d with
    | false => rw [List.dropWhile_cons, hd]; rfl
    | true =>
      rw [List.dropWhile_cons, hd, h d ds List.suffix_rfl hd]
      exact ih fun e es hsuffix => h e es (hsuffix.trans (List.suffix_cons d ds))

/-- A silent character adds nothing, whatever follows it. -/
theorem marked_cons {c : Char} (h : isSilent c = true) (cs : List Char) :
    marked (c :: cs) = marked cs := by
  simp only [isSilent, Bool.and_eq_true, bne_iff_ne] at h
  rw [marked, line, if_neg (by simp [h.2]), if_neg (by simp [h.1])]
  split
  · rw [List.filter_cons_of_neg (by rw [wordKind_not_marked]; exact Bool.false_ne_true)]
    -- The rest of the word is made of silent characters too.
    refine marked_dropWhile fun d ds hsuffix hd => ?_
    have hlt : ds.length < cs.length := hsuffix.length_le
    exact marked_cons (isSilent_of rfl hd) ds
  · rw [List.filter_cons_of_neg (by rw [singlePiece_not_marked]; exact Bool.false_ne_true)]
    rfl
termination_by cs.length

/-- Silent characters in front change nothing in what is marked. -/
theorem marked_append {w : List Char} (h : ∀ c ∈ w, isSilent c = true) (cs : List Char) :
    marked (w ++ cs) = marked cs := by
  induction w with
  | nil => rfl
  | cons c w ih =>
    rw [List.forall_mem_cons] at h
    rw [List.cons_append, marked_cons h.1, ih h.2]

/-- A slash in front of another makes the rest of the line a comment, and any other adds nothing. -/
theorem marked_slash (cs : List Char) :
    marked ('/' :: cs) =
      if cs.head? = some '/' then [⟨.comment, '/' :: cs⟩] else marked cs := by
  rw [marked, line]
  by_cases h : cs.head? = some '/'
  · rw [if_pos (by simp [h]), if_pos h]
    rfl
  · rw [if_neg (by simp [h]), if_neg h, if_neg (by decide), if_neg (by decide),
      List.filter_cons_of_neg (by decide)]
    rfl

/-- The quote ends what is quoted. -/
theorem splitQuoted_quote (quote : Char) (cs : List Char) :
    splitQuoted quote (quote :: cs) = ([quote], cs) := by
  unfold splitQuoted
  exact if_pos rfl

/-- Other characters belong to it. -/
theorem splitQuoted_other {quote c : Char} (hc : c ≠ quote) (hslash : c ≠ '\\')
    (cs : List Char) :
    splitQuoted quote (c :: cs) =
      (c :: (splitQuoted quote cs).1, (splitQuoted quote cs).2) := by
  rw [splitQuoted.eq_def]
  dsimp only
  rw [if_neg hc, if_neg hslash]

/-- So does whatever stands behind a backslash, also the quote. -/
theorem splitQuoted_escape {quote : Char} (hquote : quote ≠ '\\') (c : Char) (cs : List Char) :
    splitQuoted quote ('\\' :: c :: cs) =
      ('\\' :: c :: (splitQuoted quote cs).1, (splitQuoted quote cs).2) := by
  rw [splitQuoted, if_neg hquote.symm, if_pos rfl]

/-- A literal is found up to its closing quote. -/
theorem splitQuoted_items {quote : Char} (hquote : quote ≠ '\\') {body : List Char}
    (h : body ∈ (Spelling.item quote)∗) (rest : List Char) :
    splitQuoted quote (body ++ quote :: rest) = (body ++ [quote], rest) := by
  obtain ⟨items, rfl, hitems⟩ := Language.mem_kstar.mp h
  clear h
  induction items with
  | nil => exact splitQuoted_quote quote rest
  | cons item items ih =>
    rw [List.forall_mem_cons] at hitems
    have ih := ih hitems.2
    rw [List.flatten_cons, List.append_assoc]
    rcases Spelling.mem_item.mp hitems.1 with ⟨c, rfl, hc, hslash, -⟩ | ⟨c, rfl, -⟩
    · rw [List.singleton_append, splitQuoted_other hc hslash, ih]
      rfl
    · rw [List.cons_append, List.singleton_append, splitQuoted_escape hquote, ih]
      rfl

/-- What is quoted is one piece. -/
theorem marked_quoted {quote : Char} (hquote : quote = '"' ∨ quote = '\'') {body : List Char}
    (h : body ∈ (Spelling.item quote)∗) (rest : List Char) :
    marked (quote :: (body ++ [quote]) ++ rest) =
      ⟨.quoted, quote :: (body ++ [quote])⟩ :: marked rest := by
  have hslash : quote ≠ '/' ∧ quote ≠ '\\' := by
    rcases hquote with rfl | rfl <;> decide
  rw [marked, List.cons_append, List.append_assoc, List.singleton_append, line,
    if_neg (by simp [hslash.1]), if_pos (by simpa using hquote),
    splitQuoted_items hslash.2 h]
  rfl

/-! ## Along the tokens -/

/-- What is marked in a token: itself if it is quoted. -/
def tokenPiece? (t : Token) : Option Piece :=
  if t.isQuoted then some ⟨.quoted, t.spelling.toList⟩ else none

/-- Blanks in front change nothing in what is marked. -/
theorem marked_blanks {blanks : List Char} (h : ∀ c ∈ blanks, Trivia.isBlank c = true)
    (cs : List Char) : marked (blanks ++ cs) = marked cs :=
  marked_append (fun c hc => isSilent_of (by decide) (h c hc)) cs

/-- Only quoted tokens and the slash have characters that are not silent. -/
theorem isSilent_of_not_isQuoted {t : Token} (ht : t.WellSpelled) (hq : t.isQuoted = false)
    (hslash : t ≠ .mark .divide) : ∀ c ∈ t.spelling.toList, isSilent c = true := by
  by_cases hmark : ∃ m, t = .mark m
  · obtain ⟨m, rfl⟩ := hmark
    cases m
    case divide => exact absurd rfl hslash
    all_goals exact List.all_eq_true.mp (by decide)
  · intro c hc
    exact isSilent_of (by decide)
      (Token.isNameChar_of_not_isQuoted ht hq (fun m hm => hmark ⟨m, hm⟩) c hc)

/-- A token in front of a text adds itself if it is quoted. A slash adds nothing as no comment
starts with it. -/
theorem marked_token {t : Token} (ht : t.WellSpelled) {rest : List Char}
    (hstarts : Trivia.starts (t.spelling.toList ++ rest) = false) :
    marked (t.spelling.toList ++ rest) = (tokenPiece? t).toList ++ marked rest := by
  cases hq : t.isQuoted with
  | true =>
    rw [tokenPiece?, hq]
    cases t with
    | stringLit text =>
      obtain ⟨body, htext, hbody⟩ := Spelling.mem_string.mp ht
      show marked (text.toList ++ rest) = ⟨.quoted, text.toList⟩ :: marked rest
      rw [htext]
      exact marked_quoted (.inl rfl) hbody rest
    | charLit text =>
      obtain ⟨body, htext, hbody⟩ := Spelling.mem_character.mp ht
      show marked (text.toList ++ rest) = ⟨.quoted, text.toList⟩ :: marked rest
      rw [htext]
      exact marked_quoted (.inr rfl) (le_kstar (a := Spelling.item _) hbody) rest
    | _ => cases hq
  | false =>
    rw [tokenPiece?, hq]
    show marked (t.spelling.toList ++ rest) = marked rest
    -- A slash is the one token without quotes that could start a comment here.
    by_cases hslash : t = .mark .divide
    · subst hslash
      show marked ('/' :: rest) = marked rest
      rw [marked_slash, if_neg]
      intro hhead
      obtain ⟨rest, rfl⟩ := List.head?_eq_some_iff.mp hhead
      cases hstarts
    · exact marked_append (isSilent_of_not_isQuoted ht hq hslash) rest

/-- The quoted tokens among some tokens, and comments behind them, as pieces. -/
def found (ts : List Token) (comments : List (List Char)) : List Piece :=
  ts.filterMap tokenPiece? ++ comments.map (⟨.comment, ·⟩)

/-- What is found along tokens is what the first one is, and then what is found along the others. -/
theorem found_cons (t : Token) (ts : List Token) (comments : List (List Char)) :
    found (t :: ts) comments = (tokenPiece? t).toList ++ found ts comments := by
  rw [found, List.filterMap_cons]
  cases tokenPiece? t <;> rfl

/-- What the highlighter marks on a line without `/*` is what the lexer finds there. -/
theorem marked_eq {p : Position} {cs : List Char} (h : (Lexer.readFrom p cs).error? = none)
    (hfeed : '\n' ∉ cs) (hopen : ¬ ['/', '*'] <:+: cs) :
    marked cs = found ((Lexer.readFrom p cs).tokens.map (·.token))
      ((Lexer.skipped cs).flatMap Trivia.lineComments) := by
  induction cs using Lexer.reading_induction generalizing p with
  | unclosed cs trivia comment ht =>
    rw [Lexer.readFrom_unclosed ht] at h
    cases h
  | finished cs trivia ht =>
    obtain ⟨rfl, hbefore, -⟩ := Trivia.split_eq_done_iff.mp ht
    rw [Lexer.readFrom_end ht, Lexer.skipped_end ht]
    rw [List.append_nil] at hfeed hopen ⊢
    rw [List.flatMap_singleton]
    rcases hbefore.blanks_or_comment hfeed hopen with
      hblank | ⟨-, blanks, body, hblanks, hbody, rfl⟩
    · have hsilent := marked_blanks hblank []
      rw [List.append_nil] at hsilent
      rw [hsilent, Trivia.lineComments_eq_nil hblank, marked, line]
      rfl
    · rw [marked_blanks hblanks, marked_slash, if_pos List.head?_cons,
        Trivia.lineComments_blanks hblanks, Trivia.lineComments_lastLine hbody]
      rfl
  | fault cs trivia c rest f ht hs =>
    rw [Lexer.readFrom_fault ht hs] at h
    cases h
  | token cs trivia c rest t rest' ht hs ih =>
    obtain ⟨rfl, hbefore, hstarts⟩ := Trivia.split_eq_done_iff.mp ht
    obtain ⟨hcs, hspelled, -⟩ := Token.scan_eq_ok_iff.mp hs
    rw [Lexer.readFrom_token ht hs] at h ⊢
    rw [Lexer.skipped_token ht hs]
    -- A token follows, so what is skipped in front of it is blank.
    have hblank : ∀ c ∈ trivia, Trivia.isBlank c = true := by
      have hfeed' : '\n' ∉ trivia := fun hmem => hfeed (List.mem_append_left _ hmem)
      have hopen' : ¬ ['/', '*'] <:+: trivia :=
        fun hin => hopen (hin.trans (List.prefix_append ..).isInfix)
      rcases hbefore.blanks_or_comment hfeed' hopen' with hblank | ⟨hnone, -⟩
      · exact hblank
      · cases hnone
    rw [hcs] at hstarts hfeed hopen ⊢
    have hsuffix : rest' <:+ trivia ++ (t.spelling.toList ++ rest') :=
      (List.suffix_append ..).trans (List.suffix_append ..)
    have ih := ih h (fun hmem => hfeed (hsuffix.subset hmem))
      (fun hin => hopen (hin.trans hsuffix.isInfix))
    rw [marked_blanks hblank, marked_token hspelled hstarts, ih, List.flatMap_cons,
      Trivia.lineComments_eq_nil hblank, List.nil_append, List.map_cons, found_cons]

/-! ## Colours -/

/-- The texts of the stretches in a colour. -/
def inked (colour : Colour) (spans : List Span) : List (List Char) :=
  (spans.filter fun s => s.style.ink? == some colour).map Span.text

/-- The stretches that a line of source is shown as. -/
def spans (cs : List Char) : List Span := (line cs).map Piece.span

/-- A colour that only marked pieces of one kind have shows those pieces. -/
theorem inked_spans (colour : Colour) (kind : Kind)
    (hcolour : ∀ k : Kind, (k.style.ink? == some colour) = (k == kind))
    (hmarked : ∀ text, Piece.isMarked ⟨kind, text⟩ = true) (cs : List Char) :
    inked colour (spans cs) =
      ((marked cs).filter fun p => p.kind == kind).map Piece.text := by
  have hspan : ∀ p : Piece, (p.span.style.ink? == some colour) = (p.kind == kind) :=
    fun p => hcolour p.kind
  have hkind : ∀ p : Piece, (p.kind == kind && p.isMarked) = (p.kind == kind) := by
    intro p
    cases hp : p.kind == kind with
    | false => rfl
    | true =>
      obtain ⟨k, text⟩ := p
      obtain rfl : k = kind := eq_of_beq hp
      exact hmarked text
  rw [inked, spans, List.filter_map, List.map_map, marked, List.filter_filter]
  simp only [hkind, Function.comp_def, hspan]
  rfl

/-- The quoted pieces are the spellings of the literals with quotes. -/
theorem text_quoted_found (ts : List Token) (comments : List (List Char)) :
    ((found ts comments).filter fun p => p.kind == .quoted).map Piece.text =
      (ts.filter Token.isQuoted).map (·.spelling.toList) := by
  induction ts with
  | nil =>
    have hnone : ((found [] comments).filter fun p => p.kind == .quoted) = [] := by
      rw [List.filter_eq_nil_iff]
      intro p hp
      obtain ⟨text, -, rfl⟩ := List.mem_map.mp hp
      exact Bool.false_ne_true
    rw [hnone]
    rfl
  | cons t ts ih =>
    rw [found_cons, List.filter_append, List.map_append, ih, List.filter_cons, tokenPiece?]
    cases t.isQuoted <;> rfl

/-- The comments are those the lexer has skipped. -/
theorem text_comment_found (ts : List Token) (comments : List (List Char)) :
    ((found ts comments).filter fun p => p.kind == .comment).map Piece.text = comments := by
  induction ts with
  | nil =>
    have hall : ((found [] comments).filter fun p => p.kind == .comment) = found [] comments := by
      rw [List.filter_eq_self]
      intro p hp
      obtain ⟨text, -, rfl⟩ := List.mem_map.mp hp
      rfl
    rw [hall, found, List.filterMap_nil, List.nil_append, List.map_map]
    exact List.map_id comments
  | cons t ts ih =>
    rw [found_cons, List.filter_append, List.map_append, ih, tokenPiece?]
    cases t.isQuoted <;> rfl

end Highlight

/-- Highlighting loses nothing and agrees with the lexer. The stretches of a line put together are
the line. If the line has no line feed and no `/*` in it and can be read, then what is in the colour
of strings is, in order, what the quoted tokens are written as, and what is in the colour of
comments is what the lexer skips as comments. -/
theorem highlighting_agrees_with_reading (line : String) :
    (Highlight.spans line.toList).flatMap Span.text = line.toList ∧
    ∀ list, tokensOf line = .ok list → '\n' ∉ line.toList → ¬ ['/', '*'] <:+: line.toList →
      Highlight.inked Theme.string (Highlight.spans line.toList) =
        (list.tokens.filter (·.token.isQuoted)).map (·.token.spelling.toList) ∧
      Highlight.inked Theme.comment (Highlight.spans line.toList) =
        (Lexer.skipped line.toList).flatMap Trivia.lineComments ∧
      alternating (Lexer.skipped line.toList) (list.tokens.map (·.token.spelling.toList)) =
        line.toList := by
  constructor
  · rw [Highlight.spans, List.flatMap_map]
    exact Highlight.flatMap_text_line line.toList
  · intro list hlist hfeed hopen
    obtain ⟨herror, htokens⟩ := readFrom_of_tokensOf hlist
    rw [htokens]
    refine ⟨?_, ?_, Lexer.alternating_skipped herror⟩
    · -- Each of the two colours belongs to one kind of piece.
      rw [Highlight.inked_spans Theme.string .quoted (by intro k; cases k <;> rfl) fun _ => rfl,
        Highlight.marked_eq herror hfeed hopen, Highlight.text_quoted_found, List.filter_map,
        List.map_map]
      rfl
    · rw [Highlight.inked_spans Theme.comment .comment (by intro k; cases k <;> rfl) fun _ => rfl,
        Highlight.marked_eq herror hfeed hopen, Highlight.text_comment_found]

/-- A line with quotes inside both kinds of literals, slashes inside a literal, and a comment. -/
def quotedLine : String := "s = \"'//\\\"\" / '\"'; // \"not"

def quotedLineTokens : TokenList where
  tokens :=
    [⟨.ident "s", ⟨1, 1⟩⟩, ⟨.mark .assign, ⟨1, 3⟩⟩, ⟨.stringLit "\"'//\\\"\"", ⟨1, 5⟩⟩,
      ⟨.mark .divide, ⟨1, 13⟩⟩, ⟨.charLit "'\"'", ⟨1, 15⟩⟩, ⟨.mark .semicolon, ⟨1, 18⟩⟩]
  finish := ⟨1, 27⟩

/-- A line where quotes, escapes, a slash and a comment stand close together. -/
theorem highlighting_agrees_with_reading_quotedLine :
    (Highlight.spans quotedLine.toList).flatMap Span.text = quotedLine.toList ∧
    tokensOf quotedLine = .ok quotedLineTokens ∧
    '\n' ∉ quotedLine.toList ∧ ¬ ['/', '*'] <:+: quotedLine.toList ∧
    Highlight.inked Theme.string (Highlight.spans quotedLine.toList) =
      ["\"'//\\\"\"".toList, "'\"'".toList] ∧
    Highlight.inked Theme.comment (Highlight.spans quotedLine.toList) = ["// \"not".toList] := by
  obtain ⟨htext, hread⟩ := highlighting_agrees_with_reading quotedLine
  have hlist : tokensOf quotedLine = .ok quotedLineTokens := by with_unfolding_all rfl
  have hfeed : '\n' ∉ quotedLine.toList := by decide
  have hopen : ¬ ['/', '*'] <:+: quotedLine.toList := by decide
  obtain ⟨hstrings, hcomments, -⟩ := hread quotedLineTokens hlist hfeed hopen
  have hskipped : (Lexer.skipped quotedLine.toList).flatMap Trivia.lineComments =
      ["// \"not".toList] := by
    with_unfolding_all rfl
  exact ⟨htext, hlist, hfeed, hopen, hstrings, hcomments.trans hskipped⟩

end SyntaxOutline
