import SyntaxOutline.Proofs.Lexer.LongestMatch

/-!
# What is written out is read back

Tokens can be written one after the other with any blanks and closed comments between them, as long
as a blank comes first. Then each token ends where its spelling does: a token without quotes has no
blank in it and a quoted one ends with its quote, so none goes on over the blank, and a slash in
front of a blank opens no comment. Main result: reading gives back the tokens that were written
(`tokensOf_laidOut`).
-/

namespace SyntaxOutline

open scoped Computability

namespace Trivia

/-- The comments that a line feed ends. -/
def lineComment : Language Char := {w | ∃ body, '\n' ∉ body ∧ w = '/' :: '/' :: (body ++ ['\n'])}

/-- The comments that are opened and closed. -/
def blockComment : Language Char :=
  {w | ∃ body, ¬ ['*', '/'] <:+: body ∧ w = '/' :: '*' :: (body ++ ['*', '/'])}

/-- Any mix of blanks and comments. -/
def stretch : Language Char := (Spelling.one isBlank + lineComment + blockComment)∗

/-- Whether a text starts with a blank. -/
def startsBlank (text : List Char) : Prop := ∃ c rest, text = c :: rest ∧ isBlank c = true

/-- Any mix of blanks and comments that starts with a blank. -/
def gap : Language Char := {w | w ∈ stretch ∧ startsBlank w}

/-- A mix of blanks and closed comments may stand in front of anything. -/
theorem before_of_mem_stretch {w : List Char} (h : w ∈ stretch) (rest : List Char) :
    Before w rest := by
  obtain ⟨pieces, rfl, hpieces⟩ := Language.mem_kstar.mp h
  clear h
  induction pieces with
  | nil => exact .nil rest
  | cons piece pieces ih =>
    obtain ⟨hpiece, hpieces⟩ := List.forall_mem_cons.mp hpieces
    have ih := ih hpieces
    rw [List.flatten_cons]
    rcases (Language.mem_add ..).mp hpiece with hpiece | ⟨body, hbody, rfl⟩
    · rcases (Language.mem_add ..).mp hpiece with ⟨c, hc, rfl⟩ | ⟨body, hbody, rfl⟩
      · exact .blank hc ih
      · simpa using Before.line hbody ih
    · simpa using Before.block hbody ih

/-- What may follow a token: nothing, or a blank. -/
def Apart (rest : List Char) : Prop := rest = [] ∨ startsBlank rest

/-- What starts with a blank keeps a token apart from what follows. -/
theorem apart_append {a : List Char} (ha : startsBlank a) (b : List Char) : Apart (a ++ b) := by
  obtain ⟨c, a, rfl, hc⟩ := ha
  exact .inr ⟨c, a ++ b, rfl, hc⟩

/-- Blanks and comments in front of others are blanks and comments. -/
theorem Before.append {a b rest : List Char} (ha : Before a (b ++ rest)) (hb : Before b rest) :
    Before (a ++ b) rest := by
  generalize hbehind : b ++ rest = behind at ha
  induction ha with
  | nil => exact hb
  | blank hc _ ih => exact .blank hc (ih hbehind)
  | line hbody _ ih => simpa using Before.line hbody (ih hbehind)
  | lastLine hbody =>
    -- Nothing stands behind a comment that no line feed ends.
    obtain ⟨rfl, rfl⟩ := List.append_eq_nil_iff.mp hbehind
    rw [List.append_nil]
    exact .lastLine hbody
  | block hbody _ ih => simpa using Before.block hbody (ih hbehind)

end Trivia

namespace Token

/-- The text that a token is written as. -/
def written (t : Token) : Language Char := {t.spelling.toList}

/-- The texts that tokens are written as, one after the other, with a gap between any two. -/
def laidOut : List Token → Language Char
  | [] => 1
  | t :: ts => written t * (ts.map fun u => Trivia.gap * written u).prod

/-- One token is laid out as its spelling. -/
theorem spelling_mem_laidOut (t : Token) : t.spelling.toList ∈ laidOut [t] := by
  rw [laidOut, List.map_nil, List.prod_nil, mul_one]
  exact Set.mem_singleton _

/-- One more token in front, with a gap behind it. -/
theorem append_mem_laidOut (t : Token) {u : Token} {ts : List Token} {g text : List Char}
    (hg : g ∈ Trivia.gap) (h : text ∈ laidOut (u :: ts)) :
    t.spelling.toList ++ (g ++ text) ∈ laidOut (t :: u :: ts) := by
  rw [laidOut, List.map_cons, List.prod_cons, mul_assoc]
  exact Language.append_mem_mul (Set.mem_singleton _) (Language.append_mem_mul hg h)

/-! ## Where a token ends -/

/-- Whether a token is a literal between quotes. -/
def isQuoted : Token → Bool
  | stringLit _ | charLit _ => true
  | _ => false

/-- Whether a character is neither a blank nor a quote. -/
def isPlain (c : Char) : Bool := !(Trivia.isBlank c || c == '"' || c == '\'')

/-- Characters of words are plain. -/
theorem isPlain_of_isWordChar {c : Char} (h : isWordChar c = true) : isPlain c = true := by
  unfold isPlain Trivia.isBlank
  simp only [Bool.not_eq_true', Bool.or_eq_false_iff, beq_eq_false_iff_ne]
  refine ⟨⟨⟨⟨⟨?_, ?_⟩, ?_⟩, ?_⟩, ?_⟩, ?_⟩
  all_goals
    rintro rfl
    exact absurd h (by decide)

theorem isPlain_of_isDigit {c : Char} (h : c.isDigit = true) : isPlain c = true :=
  isPlain_of_isWordChar (by simp [isWordChar, Char.isAlphanum, h])

/-- Whether a character can stand in a word or in a number. -/
def isNameChar (c : Char) : Bool := isWordChar c || c == '.' || c == '+' || c == '-'

theorem isNameChar_of_isWordChar {c : Char} (h : isWordChar c = true) : isNameChar c = true := by
  simp [isNameChar, h]

/-- A token without quotes is a mark, or it is made of word characters, points and signs. -/
theorem isNameChar_of_not_isQuoted {u : Token} (hu : u.WellSpelled) (hq : u.isQuoted = false)
    (hmark : ∀ m, u ≠ .mark m) : ∀ c ∈ u.spelling.toList, isNameChar c = true := by
  -- Words, digits and exponents are the pieces that names and numbers are put together from.
  have hword : ∀ {w}, w ∈ Spelling.word → ∀ c ∈ w, isNameChar c = true := by
    intro w hw
    obtain ⟨c, v, rfl, hc, hv⟩ := Spelling.mem_word.mp hw
    exact List.forall_mem_cons.mpr ⟨isNameChar_of_isWordChar (isWordChar_of_isWordStart hc),
      fun d hd => isNameChar_of_isWordChar (hv d hd)⟩
  have hdigits : ∀ {w}, w ∈ Spelling.digits → ∀ c ∈ w, isNameChar c = true := by
    intro w hw c hc
    have hdigit := (Spelling.mem_digits.mp hw).2 c hc
    exact isNameChar_of_isWordChar (by simp [isWordChar, Char.isAlphanum, hdigit])
  have hexponent : ∀ {w}, w ∈ Spelling.exponent → ∀ c ∈ w, isNameChar c = true := by
    intro w hw
    obtain ⟨c, sign, ds, rfl, hc, hsign, hds⟩ := Spelling.mem_exponent.mp hw
    refine List.forall_mem_cons.mpr ⟨?_, List.forall_mem_append.mpr ⟨?_, hdigits hds⟩⟩
    · rw [Bool.or_eq_true, beq_iff_eq, beq_iff_eq] at hc
      rcases hc with rfl | rfl <;> rfl
    · rcases hsign with rfl | ⟨s, rfl, hs⟩
      · exact List.forall_mem_nil _
      · rw [Bool.or_eq_true, beq_iff_eq, beq_iff_eq] at hs
        rcases hs with rfl | rfl <;> exact List.forall_mem_singleton.mpr rfl
  cases u with
  | keyword k => exact hword (keyword_mem_word k)
  | mark m => exact absurd rfl (hmark m)
  | ident name => exact hword hu.1
  | intLit text => exact hdigits hu
  | realLit text =>
    obtain ⟨whole, fraction, tail, hw, hwhole, hfraction, htail⟩ := Spelling.mem_real.mp hu
    show ∀ c ∈ text.toList, isNameChar c = true
    rw [hw]
    refine List.forall_mem_append.mpr ⟨hdigits hwhole, List.forall_mem_cons.mpr ⟨rfl,
      List.forall_mem_append.mpr ⟨hdigits hfraction, ?_⟩⟩⟩
    rcases htail with rfl | htail
    · exact List.forall_mem_nil _
    · exact hexponent htail
  | stringLit text => cases hq
  | charLit text => cases hq

/-- Characters of names and numbers are plain. -/
theorem isPlain_of_isNameChar {c : Char} (h : isNameChar c = true) : isPlain c = true := by
  simp only [isNameChar, Bool.or_eq_true, beq_iff_eq] at h
  rcases h with ((hword | rfl) | rfl) | rfl
  · exact isPlain_of_isWordChar hword
  all_goals rfl

/-- A token without quotes has no blank and no quote in it. -/
theorem isPlain_of_not_isQuoted {u : Token} (hu : u.WellSpelled) (hq : u.isQuoted = false) :
    ∀ c ∈ u.spelling.toList, isPlain c = true := by
  by_cases hmark : ∃ m, u = .mark m
  · obtain ⟨m, rfl⟩ := hmark
    cases m <;> exact List.all_eq_true.mp (by decide)
  · intro c hc
    exact isPlain_of_isNameChar
      (isNameChar_of_not_isQuoted hu hq (fun m hm => hmark ⟨m, hm⟩) c hc)

/-- A literal between quotes starts with one. -/
theorem not_isPlain_of_isQuoted {u : Token} (hu : u.WellSpelled) (hq : u.isQuoted = true)
    {c : Char} {w : List Char} (hw : u.spelling.toList = c :: w) : isPlain c = false := by
  cases u with
  | stringLit text =>
    obtain ⟨items, htext, -⟩ := Spelling.mem_string.mp hu
    cases hw.symm.trans htext
    rfl
  | charLit text =>
    obtain ⟨body, htext, -⟩ := Spelling.mem_character.mp hu
    cases hw.symm.trans htext
    rfl
  | _ => cases hq

/-- Blanks are not plain, so a plain spelling ends before one. -/
theorem not_isPlain_of_isBlank {c : Char} (h : Trivia.isBlank c = true) : isPlain c = false := by
  simp [isPlain, h]

/-- A token without quotes ends before a blank: none that goes on has a blank in it. -/
theorem longest_of_not_isQuoted {t : Token} (ht : t.WellSpelled) (hq : t.isQuoted = false)
    {rest : List Char} (hrest : Trivia.Apart rest) : t.Longest (t.spelling.toList ++ rest) := by
  rintro u hu ⟨rest', htext⟩
  -- A token that goes on further would go on into the blank that follows.
  rcases List.append_eq_append_iff.mp htext with ⟨more, hmore, -⟩ | ⟨more, hmore, hrest'⟩
  · rw [hmore, List.length_append]
    omega
  · obtain ⟨c, w, hw⟩ := List.exists_cons_of_ne_nil (spelling_ne_nil ht)
    have hc : isPlain c = true := isPlain_of_not_isQuoted ht hq c (by simp [hw])
    have huq : u.isQuoted = false := by
      cases h : u.isQuoted with
      | false => rfl
      | true =>
        rw [not_isPlain_of_isQuoted hu h (by rw [hmore, hw, List.cons_append])] at hc
        cases hc
    cases more with
    | nil => rw [hmore, List.append_nil]
    | cons d more =>
      rw [List.cons_append] at hrest'
      obtain rfl | ⟨d', tail, rfl, hd⟩ := hrest
      · cases hrest'
      · have hplain := isPlain_of_not_isQuoted hu huq d (by simp [hmore])
        rw [(List.cons.inj hrest').1] at hd
        rw [not_isPlain_of_isBlank hd] at hplain
        cases hplain

/-- In front of a blank, and at the end of a text, a token is the longest that can be read. -/
theorem longest_of_apart {t : Token} (ht : t.WellSpelled) {rest : List Char}
    (hrest : Trivia.Apart rest) : t.Longest (t.spelling.toList ++ rest) := by
  cases hq : t.isQuoted with
  | false => exact longest_of_not_isQuoted ht hq hrest
  | true =>
    obtain ⟨c, cs, hcs⟩ := List.exists_cons_of_ne_nil
      (List.append_ne_nil_of_left_ne_nil (spelling_ne_nil ht) rest)
    -- A literal in quotes ends with its quote, whatever follows.
    have hscan : scan c cs = .ok (t, rest) := by
      cases t with
      | stringLit text => exact scan_stringLit ht hcs.symm
      | charLit text => exact scan_charLit ht hcs.symm
      | _ => cases hq
    rw [hcs]
    exact longest_of_scan hscan

/-! ## No token looks like a comment -/

/-- A token starts with no blank, and one that starts with a slash is the slash. -/
theorem spelling_start {t : Token} (ht : t.WellSpelled) :
    ∃ c w, t.spelling.toList = c :: w ∧ Trivia.isBlank c = false ∧ (c = '/' → w = []) := by
  -- Only literals in quotes hold blanks, and they start with the quote.
  have hplain : ∀ {c : Char}, isPlain c = true → Trivia.isBlank c = false := by
    intro c hc
    cases h : Trivia.isBlank c with
    | false => rfl
    | true =>
      rw [not_isPlain_of_isBlank h] at hc
      cases hc
  have hword : ∀ {w}, w ∈ Spelling.word →
      ∃ c v, w = c :: v ∧ Trivia.isBlank c = false ∧ (c = '/' → v = []) := by
    intro w hw
    obtain ⟨c, v, rfl, hc, -⟩ := Spelling.mem_word.mp hw
    refine ⟨c, v, rfl, hplain (isPlain_of_isWordChar (isWordChar_of_isWordStart hc)), ?_⟩
    rintro rfl
    cases hc
  have hdigits : ∀ {w : List Char}, w ∈ Spelling.digits → ∀ v,
      ∃ c u, w ++ v = c :: u ∧ Trivia.isBlank c = false ∧ (c = '/' → u = []) := by
    intro w hw v
    obtain ⟨hne, hall⟩ := Spelling.mem_digits.mp hw
    obtain ⟨c, u, rfl⟩ := List.exists_cons_of_ne_nil hne
    have hc := hall c List.mem_cons_self
    refine ⟨c, u ++ v, rfl, hplain (isPlain_of_isDigit hc), ?_⟩
    rintro rfl
    cases hc
  cases t with
  | keyword k => exact hword (keyword_mem_word k)
  | mark m => cases m <;> exact ⟨_, _, rfl, rfl, by decide⟩
  | ident name => exact hword ht.1
  | intLit text => simpa [spelling] using hdigits ht []
  | realLit text =>
    obtain ⟨whole, fraction, tail, hw, hwhole, -⟩ := Spelling.mem_real.mp ht
    simpa [spelling, hw] using hdigits hwhole ('.' :: (fraction ++ tail))
  | stringLit text =>
    obtain ⟨items, hw, -⟩ := Spelling.mem_string.mp ht
    exact ⟨_, _, hw, rfl, fun h => absurd h (by decide)⟩
  | charLit text =>
    obtain ⟨body, hw, -⟩ := Spelling.mem_character.mp ht
    exact ⟨_, _, hw, rfl, fun h => absurd h (by decide)⟩

/-- No token looks like the start of a comment: behind a slash stands a blank or nothing. -/
theorem starts_of_apart {t : Token} (ht : t.WellSpelled) {rest : List Char}
    (hrest : Trivia.Apart rest) : Trivia.starts (t.spelling.toList ++ rest) = false := by
  obtain ⟨c, w, hw, hc, hslash⟩ := spelling_start ht
  rw [hw, List.cons_append]
  -- A slash is followed by a blank or by nothing.
  have hopen : ∀ d tail, c = '/' → w ++ rest = d :: tail → Trivia.isBlank d = true := by
    intro d tail hc' htail
    rw [hslash hc', List.nil_append] at htail
    rcases hrest with rfl | ⟨e, tail', rfl, he⟩
    · cases htail
    · rw [← (List.cons.inj htail).1]
      exact he
  rw [Trivia.starts]
  · exact hc
  · intro tail hc' htail
    cases hopen _ _ hc' htail
  · intro tail hc' htail
    cases hopen _ _ hc' htail

end Token

/-! ## One token after another -/

/-- One more token in front of what can be cut. -/
theorem Cuts.cons_apart {t : Token} (ht : t.WellSpelled) {lead rest left : List Char}
    {tokens : List Token} (hlead : Trivia.Before lead (t.spelling.toList ++ rest))
    (hrest : Trivia.Apart rest) (h : Cuts rest tokens left) :
    Cuts (lead ++ (t.spelling.toList ++ rest)) (t :: tokens) left :=
  .cons hlead (Token.starts_of_apart ht hrest) ht (Token.longest_of_apart ht hrest) h

/-- Tokens that each have a gap in front of them. -/
theorem cuts_behind {ts : List Token} (hts : ∀ t ∈ ts, t.WellSpelled) {text trail : List Char}
    (htext : text ∈ (ts.map fun u => Trivia.gap * Token.written u).prod)
    (htrail : Trivia.Apart trail) :
    Trivia.Apart (text ++ trail) ∧ Cuts (text ++ trail) ts trail := by
  induction ts generalizing text with
  | nil =>
    rw [List.map_nil, List.prod_nil, Language.mem_one] at htext
    rw [htext, List.nil_append]
    exact ⟨htrail, .nil trail⟩
  | cons t ts ih =>
    obtain ⟨ht, hts⟩ := List.forall_mem_cons.mp hts
    rw [List.map_cons, List.prod_cons, Language.mem_mul] at htext
    obtain ⟨front, hfront, more, hmore, rfl⟩ := htext
    obtain ⟨g, ⟨hstretch, hblank⟩, _, rfl, rfl⟩ := Language.mem_mul.mp hfront
    obtain ⟨hapart, hcuts⟩ := ih hts hmore
    rw [List.append_assoc, List.append_assoc]
    exact ⟨Trivia.apart_append hblank _,
      hcuts.cons_apart ht (Trivia.before_of_mem_stretch hstretch _) hapart⟩

/-- Tokens laid out with gaps between them, and with blanks and comments around them, can be cut
into these tokens. -/
theorem cuts_laidOut {tokens : List Token} (htokens : ∀ t ∈ tokens, t.WellSpelled)
    {lead text trail : List Char} (hlead : Trivia.Before lead (text ++ trail))
    (htext : text ∈ Token.laidOut tokens) (htrail : Trivia.Before trail [])
    (hapart : Trivia.Apart trail) :
    ∃ left, Cuts (lead ++ (text ++ trail)) tokens left ∧ Trivia.Before left [] := by
  cases tokens with
  | nil =>
    rw [Token.laidOut, Language.mem_one] at htext
    rw [htext, List.nil_append] at hlead ⊢
    rw [← List.append_nil trail] at hlead
    exact ⟨lead ++ trail, .nil _, hlead.append htrail⟩
  | cons t ts =>
    obtain ⟨ht, hts⟩ := List.forall_mem_cons.mp htokens
    obtain ⟨_, rfl, more, hmore, rfl⟩ := Language.mem_mul.mp htext
    obtain ⟨hrest, hcuts⟩ := cuts_behind hts hmore hapart
    rw [List.append_assoc] at hlead ⊢
    exact ⟨trail, hcuts.cons_apart ht hlead hrest, htrail⟩

/-- A source that can be cut into tokens, with blanks and comments left, is read as these tokens. -/
theorem tokensOf_of_cuts {source : String} {tokens : List Token} {left : List Char}
    (hcuts : Cuts source.toList tokens left) (hleft : Trivia.Before left []) :
    ∃ list, tokensOf source = .ok list ∧ list.tokens.map (·.token) = tokens := by
  obtain ⟨q, hread, herror⟩ := Lexer.readFrom_of_cuts hcuts .start
  rw [Lexer.readFrom_of_before hleft] at hread herror
  rw [tokensOf_eq, herror]
  exact ⟨_, rfl, by simpa using hread⟩

/-- Tokens with a space in front of each of them. -/
def Token.spaced (ts : List Token) : List Char := ts.flatMap fun t => ' ' :: t.spelling.toList

/-- A space in front of each token is a gap. -/
theorem Token.spaced_mem (ts : List Token) :
    spaced ts ∈ (ts.map fun u => Trivia.gap * Token.written u).prod := by
  have hspace : [' '] ∈ Trivia.gap := by
    have hblank : [' '] ∈ Spelling.one Trivia.isBlank := ⟨' ', rfl, rfl⟩
    have hstretch : [' '] ∈ Trivia.stretch := Language.mem_kstar.mpr
      ⟨[[' ']], rfl, List.forall_mem_singleton.mpr (.inl (.inl hblank))⟩
    exact ⟨hstretch, ' ', [], rfl, rfl⟩
  induction ts with
  | nil => exact (Language.mem_one _).mpr rfl
  | cons t ts ih =>
    have hfront := Language.append_mem_mul hspace (Set.mem_singleton t.spelling.toList)
    exact Language.append_mem_mul hfront ih

/-- Well spelled tokens have a source. -/
theorem exists_source {tokens : List Token} (h : ∀ t ∈ tokens, t.WellSpelled) :
    ∃ source list, tokensOf source = .ok list ∧ list.tokens.map (·.token) = tokens := by
  have hcuts := (cuts_behind h (Token.spaced_mem tokens) (.inl rfl)).2
  rw [List.append_nil, ← String.toList_ofList (l := Token.spaced tokens)] at hcuts
  exact ⟨_, tokensOf_of_cuts hcuts (.nil [])⟩

/-- A source is read as the tokens that were written, whatever blanks and comments stand before,
between and behind them. A blank stands behind each token that something follows. Only the comment
at the very end needs no line feed to end it, which may be all there is if there are no tokens. -/
theorem tokensOf_laidOut {source : String} {tokens : List Token} {lead text trail : List Char}
    (htokens : ∀ t ∈ tokens, t.WellSpelled) (hsource : source.toList = lead ++ (text ++ trail))
    (hlead : Trivia.Before lead (text ++ trail)) (htext : text ∈ Token.laidOut tokens)
    (htrail : Trivia.Before trail []) (hapart : trail = [] ∨ Trivia.startsBlank trail) :
    ∃ list, tokensOf source = .ok list ∧ list.tokens.map (·.token) = tokens := by
  obtain ⟨left, hcuts, hleft⟩ := cuts_laidOut htokens hlead htext htrail hapart
  rw [← hsource] at hcuts
  exact tokensOf_of_cuts hcuts hleft

/-- Four tokens, with quotes in the comments around them and the start of a comment in a string. No
line feed ends the last comment. -/
def commentedSource : String := "/*\"*/x_1\t/ /**/1.5e-3\n// '\n\"é\\\" //\" // \"c"

/-- The tokens of `commentedSource`. -/
def commentedTokens : List Token :=
  [.ident "x_1", .mark .divide, .realLit "1.5e-3", .stringLit "\"é\\\" //\""]

theorem wellSpelled_commentedTokens : ∀ t ∈ commentedTokens, t.WellSpelled := by
  have hname : Token.scan 'x' ['_', '1'] = .ok (.ident "x_1", []) := by cbv
  have hreal : Token.scan '1' ['.', '5', 'e', '-', '3'] = .ok (.realLit "1.5e-3", []) := by
    cbv
  have hstring : Token.scan '"' ['é', '\\', '"', ' ', '/', '/', '"'] =
      .ok (.stringLit "\"é\\\" //\"", []) := by
    cbv
  rintro t (_ | ⟨_, _ | ⟨_, _ | ⟨_, _ | ⟨_, ⟨⟩⟩⟩⟩⟩)
  · exact Token.wellSpelled_of_scan hname
  · trivial
  · exact Token.wellSpelled_of_scan hreal
  · exact Token.wellSpelled_of_scan hstring

/-- The tokens of `commentedSource` and what stands between them. -/
theorem commentedText_mem :
    "x_1\t/ /**/1.5e-3\n// '\n\"é\\\" //\"".toList ∈ Token.laidOut commentedTokens := by
  have hempty : [] ∈ Trivia.stretch := Language.nil_mem_kstar _
  have hblock : ∀ body, ¬ ['*', '/'] <:+: body →
      '/' :: '*' :: (body ++ ['*', '/']) ++ [] ∈ Trivia.stretch :=
    fun body hbody => append_mem_kstar (.inr ⟨body, hbody, rfl⟩) hempty
  have hline : ∀ body, '\n' ∉ body → '/' :: '/' :: (body ++ ['\n']) ++ [] ∈ Trivia.stretch :=
    fun body hbody => append_mem_kstar (.inl (.inr ⟨body, hbody, rfl⟩)) hempty
  have hgap : ∀ c, Trivia.isBlank c = true → ∀ w ∈ Trivia.stretch, [c] ++ w ∈ Trivia.gap :=
    fun c hc w hw => ⟨append_mem_kstar (.inl (.inl ⟨c, hc, rfl⟩)) hw, c, w, rfl, hc⟩
  have htokens : _ ∈ Token.laidOut commentedTokens :=
    Token.append_mem_laidOut _ (hgap '\t' rfl [] hempty)
      (Token.append_mem_laidOut _ (hgap ' ' rfl _ (hblock [] (by decide)))
        (Token.append_mem_laidOut _ (hgap '\n' rfl _ (hline [' ', '\''] (by decide)))
          (Token.spelling_mem_laidOut _)))
  exact Set.mem_of_eq_of_mem (by decide) htokens

/-- The comments go and the string stays; and a comment alone, without a line feed, has no
tokens. -/
theorem tokensOf_laidOut_commented :
    (∃ list, tokensOf commentedSource = .ok list ∧
      list.tokens.map (·.token) = commentedTokens) ∧
    ∃ list, tokensOf "// c" = .ok list ∧ list.tokens.map (·.token) = [] := by
  have hlead : ∀ rest, Trivia.Before "/*\"*/".toList rest := fun rest =>
    .block (by decide : ¬ ['*', '/'] <:+: ['"']) (.nil rest)
  have htrail : Trivia.Before " // \"c".toList [] :=
    .blank rfl (.lastLine (by decide : '\n' ∉ [' ', '"', 'c']))
  refine ⟨tokensOf_laidOut wellSpelled_commentedTokens (by decide) (hlead _)
    commentedText_mem htrail (.inr ⟨' ', _, rfl, rfl⟩), ?_⟩
  have halone : Trivia.Before "// c".toList [] := .lastLine (by decide : '\n' ∉ [' ', 'c'])
  exact tokensOf_laidOut (List.forall_mem_nil _) (List.append_nil _).symm halone
    ((Language.mem_one _).mpr rfl) (.nil []) (.inl rfl)

end SyntaxOutline
