import Mathlib
import SyntaxOutline.Token.Scan

/-!
# How tokens are spelled

The spellings of each kind of token as a regular language, and what `Token.scan` has to do with
them. A scan that succeeds gives a well spelled token (`wellSpelled_of_scan`). And where a text
starts with the spelling of a token, a scan gives that token or a longer one (`scan_spelling`); so
what it gives is the longest, and it fails only where no token is spelled.
-/

namespace SyntaxOutline

open scoped Computability

/-- One more piece in front of a repetition. -/
theorem append_mem_kstar {α : Type} {l : Language α} {v w : List α} (hv : v ∈ l) (hw : w ∈ l∗) :
    v ++ w ∈ l∗ := by
  obtain ⟨ws, rfl, hws⟩ := Language.mem_kstar.mp hw
  rw [← List.flatten_cons]
  exact Language.join_mem_kstar (List.forall_mem_cons.mpr ⟨hv, hws⟩)

namespace Spelling

/-- The texts of one character out of a class. -/
def one (p : Char → Bool) : Language Char := {w | ∃ c, p c = true ∧ w = [c]}

/-- A letter or an underscore, then letters, digits and underscores. -/
def word : Language Char :=
  one (fun c => c.isAlpha || c == '_') * (one fun c => c.isAlphanum || c == '_')∗

/-- One or more digits. -/
def digits : Language Char := one Char.isDigit * (one Char.isDigit)∗

/-- The mark of an exponent, a sign or none, and digits. -/
def exponent : Language Char :=
  one (fun c => c == 'e' || c == 'E') * (1 + one fun c => c == '+' || c == '-') * digits

/-- Digits, a point, digits, and an exponent or none. -/
def real : Language Char := digits * one (· == '.') * digits * (1 + exponent)

/-- A backslash and one of the characters that may follow it. -/
def escape : Language Char :=
  one (· == '\\') * one fun c => ['n', 't', 'r', '0', '\\', '\'', '"'].contains c

/-- What may stand between quotes: an escape, or a character that is no quote of the kind, no
backslash and no line feed. -/
def item (quote : Char) : Language Char :=
  one (fun c => c != quote && c != '\\' && c != '\n') + escape

/-- Any number of items between double quotes. -/
def string : Language Char := one (· == '"') * (item '"')∗ * one (· == '"')

/-- One item between single quotes. -/
def character : Language Char := one (· == '\'') * item '\'' * one (· == '\'')

/-- A word that starts with a character of a class. -/
theorem mem_one_mul {p : Char → Bool} {l : Language Char} {w : List Char} :
    w ∈ one p * l ↔ ∃ c v, w = c :: v ∧ p c = true ∧ v ∈ l := by
  rw [Language.mem_mul]
  constructor
  · rintro ⟨_, ⟨c, hc, rfl⟩, v, hv, rfl⟩
    exact ⟨c, v, rfl, hc, hv⟩
  · rintro ⟨c, v, rfl, hc, hv⟩
    exact ⟨[c], ⟨c, hc, rfl⟩, v, hv, rfl⟩

/-- A word of characters of a class. -/
theorem mem_one_kstar {p : Char → Bool} {w : List Char} :
    w ∈ (one p)∗ ↔ ∀ c ∈ w, p c = true := by
  rw [Language.mem_kstar]
  constructor
  · rintro ⟨ws, rfl, hws⟩ c hc
    obtain ⟨v, hv, hcv⟩ := List.mem_flatten.mp hc
    obtain ⟨d, hd, rfl⟩ := hws v hv
    rw [List.mem_singleton.mp hcv]
    exact hd
  · intro h
    refine ⟨w.map ([·]), ?_, ?_⟩
    · induction w with
      | nil => rfl
      | cons c w ih =>
        rw [List.map_cons, List.flatten_cons, ← ih fun d hd => h d (List.mem_cons_of_mem _ hd)]
        rfl
    · intro v hv
      obtain ⟨c, hc, rfl⟩ := List.mem_map.mp hv
      exact ⟨c, h c hc, rfl⟩

/-- The spellings of keywords and names. -/
theorem mem_word {w : List Char} :
    w ∈ word ↔ ∃ c v, w = c :: v ∧ Token.isWordStart c = true ∧
      ∀ d ∈ v, Token.isWordChar d = true := by
  rw [word, mem_one_mul]
  simp only [mem_one_kstar]
  rfl

/-- The spellings of whole numbers. -/
theorem mem_digits {w : List Char} : w ∈ digits ↔ w ≠ [] ∧ ∀ c ∈ w, c.isDigit = true := by
  rw [digits, mem_one_mul]
  constructor
  · rintro ⟨c, v, rfl, hc, hv⟩
    exact ⟨List.cons_ne_nil c v, List.forall_mem_cons.mpr ⟨hc, mem_one_kstar.mp hv⟩⟩
  · rintro ⟨hne, hall⟩
    obtain ⟨c, v, rfl⟩ := List.exists_cons_of_ne_nil hne
    obtain ⟨hc, hv⟩ := List.forall_mem_cons.mp hall
    exact ⟨c, v, rfl, hc, mem_one_kstar.mpr hv⟩

/-- The spellings of exponents: a letter, a sign or none, and digits. -/
theorem mem_exponent {w : List Char} :
    w ∈ exponent ↔ ∃ c sign ds, w = c :: (sign ++ ds) ∧ (c == 'e' || c == 'E') = true ∧
      (sign = [] ∨ ∃ s, sign = [s] ∧ (s == '+' || s == '-') = true) ∧ ds ∈ digits := by
  rw [exponent, mul_assoc, mem_one_mul]
  constructor
  · rintro ⟨c, v, rfl, hc, hv⟩
    obtain ⟨sign, hsign, ds, hds, rfl⟩ := Language.mem_mul.mp hv
    refine ⟨c, sign, ds, rfl, hc, ?_, hds⟩
    rcases (Language.mem_add ..).mp hsign with hnone | ⟨s, hs, rfl⟩
    · exact .inl ((Language.mem_one _).mp hnone)
    · exact .inr ⟨s, rfl, hs⟩
  · rintro ⟨c, sign, ds, rfl, hc, hsign, hds⟩
    refine ⟨c, _, rfl, hc, Language.append_mem_mul ?_ hds⟩
    rcases hsign with rfl | ⟨s, rfl, hs⟩
    · exact (Language.mem_add ..).mpr (.inl Language.nil_mem_one)
    · exact (Language.mem_add ..).mpr (.inr ⟨s, hs, rfl⟩)

/-- The spellings of numbers with a fraction. -/
theorem mem_real {w : List Char} :
    w ∈ real ↔ ∃ whole fraction tail, w = whole ++ '.' :: (fraction ++ tail) ∧ whole ∈ digits ∧
      fraction ∈ digits ∧ (tail = [] ∨ tail ∈ exponent) := by
  rw [real, mul_assoc, mul_assoc]
  constructor
  · intro h
    obtain ⟨whole, hwhole, rest, hrest, rfl⟩ := Language.mem_mul.mp h
    obtain ⟨c, rest, rfl, hc, hrest⟩ := mem_one_mul.mp hrest
    obtain ⟨fraction, hfraction, tail, htail, rfl⟩ := Language.mem_mul.mp hrest
    rw [eq_of_beq hc]
    exact ⟨whole, fraction, tail, rfl, hwhole, hfraction, (Language.mem_add ..).mp htail⟩
  · rintro ⟨whole, fraction, tail, rfl, hwhole, hfraction, htail⟩
    refine Language.append_mem_mul hwhole (mem_one_mul.mpr ⟨'.', _, rfl, rfl, ?_⟩)
    exact Language.append_mem_mul hfraction ((Language.mem_add ..).mpr htail)

/-- What may stand between quotes: a character that needs no escape, or an escape. -/
theorem mem_item {quote : Char} {w : List Char} :
    w ∈ item quote ↔
      (∃ c, w = [c] ∧ c ≠ quote ∧ c ≠ '\\' ∧ c ≠ '\n') ∨
        ∃ c, w = ['\\', c] ∧ Token.isEscape c = true := by
  rw [item, Language.mem_add, escape, mem_one_mul]
  constructor
  · rintro (⟨c, hc, rfl⟩ | ⟨b, v, rfl, hb, c, hc, rfl⟩)
    · simp only [Bool.and_eq_true, bne_iff_ne] at hc
      exact .inl ⟨c, rfl, hc.1.1, hc.1.2, hc.2⟩
    · rw [eq_of_beq hb]
      exact .inr ⟨c, rfl, by simpa [Token.isEscape, or_assoc] using hc⟩
  · rintro (⟨c, rfl, hq, hb, hn⟩ | ⟨c, rfl, hc⟩)
    · exact .inl ⟨c, by simp [hq, hb, hn], rfl⟩
    · exact .inr ⟨'\\', [c], rfl, rfl, c, by simpa [Token.isEscape, or_assoc] using hc, rfl⟩

/-- The spellings of strings. -/
theorem mem_string {w : List Char} :
    w ∈ string ↔ ∃ body, w = '"' :: (body ++ ['"']) ∧ body ∈ (item '"')∗ := by
  rw [string, mul_assoc, mem_one_mul]
  constructor
  · rintro ⟨c, v, rfl, hc, hv⟩
    obtain ⟨body, hbody, _, ⟨d, hd, rfl⟩, rfl⟩ := Language.mem_mul.mp hv
    rw [eq_of_beq hc, eq_of_beq hd]
    exact ⟨body, rfl, hbody⟩
  · rintro ⟨body, rfl, hbody⟩
    exact ⟨'"', _, rfl, rfl, Language.append_mem_mul hbody ⟨'"', rfl, rfl⟩⟩

/-- The spellings of character literals. -/
theorem mem_character {w : List Char} :
    w ∈ character ↔ ∃ body, w = '\'' :: (body ++ ['\'']) ∧ body ∈ item '\'' := by
  rw [character, mul_assoc, mem_one_mul]
  constructor
  · rintro ⟨c, v, rfl, hc, hv⟩
    obtain ⟨body, hbody, _, ⟨d, hd, rfl⟩, rfl⟩ := Language.mem_mul.mp hv
    rw [eq_of_beq hc, eq_of_beq hd]
    exact ⟨body, rfl, hbody⟩
  · rintro ⟨body, rfl, hbody⟩
    exact ⟨'\'', _, rfl, rfl, Language.append_mem_mul hbody ⟨'\'', rfl, rfl⟩⟩

end Spelling

namespace Token

/-- Whether a token is one that can be written: the text of an identifier or a literal has the form
of its kind, and no identifier is written like a keyword. -/
def WellSpelled : Token → Prop
  | keyword _ | mark _ => True
  | ident name => name.toList ∈ Spelling.word ∧ ∀ k : Keyword, k.spelling ≠ name
  | intLit text => text.toList ∈ Spelling.digits
  | realLit text => text.toList ∈ Spelling.real
  | stringLit text => text.toList ∈ Spelling.string
  | charLit text => text.toList ∈ Spelling.character

/-! ## What is read is well spelled -/

theorem isWordChar_of_isWordStart {c : Char} (h : isWordStart c = true) : isWordChar c = true := by
  simp only [isWordStart, isWordChar, Char.isAlphanum, Bool.or_eq_true] at h ⊢
  exact h.elim (fun ha => .inl (.inl ha)) .inr

/-- A word is a keyword or a name, and well spelled as either. -/
theorem wellSpelled_ofWord {text : String} (h : text.toList ∈ Spelling.word) :
    (ofWord text).WellSpelled := by
  unfold ofWord Keyword.ofSpelling?
  cases hk : Keyword.all.find? (·.spelling == text) with
  | some k => trivial
  | none =>
    refine ⟨h, fun k => ?_⟩
    have := List.find?_eq_none.mp hk k k.mem_all
    simpa using this

/-- The longest word at the start of a text is well spelled. -/
theorem wellSpelled_scanWord {c : Char} (hc : isWordStart c = true) (cs : List Char) :
    (scanWord (c :: cs)).1.WellSpelled := by
  apply wellSpelled_ofWord
  rw [String.toList_ofList, List.takeWhile_cons_of_pos (isWordChar_of_isWordStart hc)]
  exact Spelling.mem_word.mpr ⟨c, _, rfl, hc, fun d hd => List.mem_takeWhile_imp hd⟩

/-- What is cut off as an exponent is one, or nothing. -/
theorem splitExponent_mem (cs : List Char) :
    (splitExponent cs).1 = [] ∨ (splitExponent cs).1 ∈ Spelling.exponent := by
  unfold splitExponent
  split
  · next c cs =>
    split
    · next hc =>
      dsimp only
      split
      · -- Without digits the letter is left to what follows.
        exact .inl rfl
      · next hne =>
        refine .inr (Spelling.mem_exponent.mpr ⟨c, _, _, rfl, hc, ?_, ?_⟩)
        · unfold splitSign
          split
          · next s _ =>
            split
            · next hs => exact .inr ⟨s, rfl, hs⟩
            · exact .inl rfl
          · exact .inl rfl
        · exact Spelling.mem_digits.mpr
            ⟨mt List.isEmpty_iff.mpr hne, fun d hd => List.mem_takeWhile_imp hd⟩
    · exact .inl rfl
  · exact .inl rfl

/-- What is cut off behind a whole number is a fraction with an exponent or without, or nothing. -/
theorem splitFraction_mem (cs : List Char) :
    (splitFraction cs).1 = [] ∨ ∃ digits tail, (splitFraction cs).1 = '.' :: (digits ++ tail) ∧
      digits ∈ Spelling.digits ∧ (tail = [] ∨ tail ∈ Spelling.exponent) := by
  unfold splitFraction
  split
  · next cs =>
    dsimp only
    split
    · exact .inl rfl
    · next hne =>
      refine .inr ⟨_, _, rfl, ?_, splitExponent_mem _⟩
      exact Spelling.mem_digits.mpr
        ⟨mt List.isEmpty_iff.mpr hne, fun d hd => List.mem_takeWhile_imp hd⟩
  · exact .inl rfl

/-- A number that is read is well spelled, whole or with a fraction. -/
theorem wellSpelled_scanNumber {c : Char} (hc : c.isDigit = true) (cs : List Char) :
    (scanNumber (c :: cs)).1.WellSpelled := by
  have hwhole : (c :: cs).takeWhile Char.isDigit ∈ Spelling.digits := by
    refine Spelling.mem_digits.mpr ⟨?_, fun d hd => List.mem_takeWhile_imp hd⟩
    rw [List.takeWhile_cons_of_pos hc]
    exact List.cons_ne_nil _ _
  have hfraction := splitFraction_mem ((c :: cs).dropWhile Char.isDigit)
  unfold scanNumber
  generalize splitFraction ((c :: cs).dropWhile Char.isDigit) = parts at hfraction ⊢
  obtain ⟨fraction, rest⟩ := parts
  dsimp only at hfraction ⊢
  split
  · simpa only [WellSpelled, String.toList_ofList] using hwhole
  · next hne =>
    obtain hnone | ⟨digits, tail, rfl, hdigits, htail⟩ := hfraction
    · exact absurd (List.isEmpty_iff.mpr hnone) hne
    · simp only [WellSpelled, String.toList_ofList]
      exact Spelling.mem_real.mpr ⟨_, digits, tail, rfl, hwhole, hdigits, htail⟩

/-- What is read of a string up to its closing quote is a row of items. -/
theorem splitString_closed {cs body rest : List Char}
    (h : splitString cs = (body, .closed, rest)) :
    ∃ items ∈ (Spelling.item '"')∗, body = items ++ ['"'] := by
  fun_induction splitString cs generalizing body with
  | case1 c cs hc body' ending rest' hs ih =>
    simp only [Prod.mk.injEq] at h
    obtain ⟨rfl, rfl, rfl⟩ := h
    obtain ⟨items, hitems, rfl⟩ := ih hs
    exact ⟨['\\', c] ++ items,
      append_mem_kstar (Spelling.mem_item.mpr (.inr ⟨c, rfl, hc⟩)) hitems, rfl⟩
  | case2 | case3 | case5 | case7 => simp at h
  | case4 cs =>
    simp only [Prod.mk.injEq] at h
    exact ⟨[], Language.nil_mem_kstar _, h.1.symm⟩
  | case6 c cs hpair hlone hquote hline body' ending rest' hs ih =>
    simp only [Prod.mk.injEq] at h
    obtain ⟨rfl, rfl, rfl⟩ := h
    obtain ⟨items, hitems, rfl⟩ := ih hs
    -- A backslash here would have been read as one of the two kinds of escapes above.
    have hslash : c ≠ '\\' := by
      intro hc
      cases cs with
      | nil => exact hlone hc rfl
      | cons d cs => exact hpair d cs hc rfl
    exact ⟨[c] ++ items,
      append_mem_kstar (Spelling.mem_item.mpr (.inl ⟨c, rfl, hquote, hslash, hline⟩)) hitems, rfl⟩

/-- A string that is read is well spelled. -/
theorem wellSpelled_of_scanString {cs rest : List Char} {t : Token}
    (h : scanString cs = .ok (t, rest)) : t.WellSpelled := by
  unfold scanString at h
  split at h
  · next body _ hs =>
    obtain ⟨items, hitems, rfl⟩ := splitString_closed hs
    cases h
    simp only [WellSpelled, String.toList_ofList]
    exact Spelling.mem_string.mpr ⟨items, rfl, hitems⟩
  all_goals cases h

theorem wellSpelled_of_scanCharacterEnd {body cs rest : List Char} {t : Token}
    (hbody : body ∈ Spelling.item '\'') (h : scanCharacterEnd body cs = .ok (t, rest)) :
    t.WellSpelled := by
  unfold scanCharacterEnd at h
  split at h
  · cases h
  · split at h
    · cases h
      simp only [WellSpelled, String.toList_ofList]
      exact Spelling.mem_character.mpr ⟨body, rfl, hbody⟩
    · cases h

theorem wellSpelled_of_scanCharacter {cs rest : List Char} {t : Token}
    (h : scanCharacter cs = .ok (t, rest)) : t.WellSpelled := by
  unfold scanCharacter at h
  split at h
  · next c cs =>
    split at h
    · next hc => exact wellSpelled_of_scanCharacterEnd (Spelling.mem_item.mpr (.inr ⟨c, rfl, hc⟩)) h
    · cases h
  · cases h
  · next c cs hpair hlone =>
    split at h
    · cases h
    · next hc =>
      simp only [Bool.or_eq_true, decide_eq_true_eq, not_or] at hc
      -- The two patterns before this one have taken all backslashes.
      have hslash : c ≠ '\\' := by
        intro hc
        cases cs with
        | nil => exact hlone hc rfl
        | cons d cs => exact hpair d cs hc rfl
      exact wellSpelled_of_scanCharacterEnd
        (Spelling.mem_item.mpr (.inl ⟨c, rfl, hc.1, hslash, hc.2⟩)) h
  · cases h

/-- What a scan gives can be written. -/
theorem wellSpelled_of_scan {c : Char} {cs rest : List Char} {t : Token}
    (h : scan c cs = .ok (t, rest)) : t.WellSpelled := by
  unfold scan at h
  split at h
  · exact wellSpelled_of_scanString h
  split at h
  · exact wellSpelled_of_scanCharacter h
  split at h
  · next hc =>
    have ht : (scanNumber (c :: cs)).1 = t := congrArg Prod.fst (Except.ok.inj h)
    exact ht ▸ wellSpelled_scanNumber hc cs
  split at h
  · next hc =>
    have ht : (scanWord (c :: cs)).1 = t := congrArg Prod.fst (Except.ok.inj h)
    exact ht ▸ wellSpelled_scanWord hc cs
  split at h
  · cases h
    trivial
  · cases h

/-! ## What is spelled is read, or more is

Where a text starts with the spelling of a token, one lemma for each kind says that a scan gives a
token that is at least as long, and that it is the same token if it is no longer. -/

/-- The outcome is the token `u` in front of `v`, or a longer token. -/
def AtLeast (u : Token) (v : List Char) (outcome : Except Fault (Token × List Char)) : Prop :=
  outcome = .ok (u, v) ∨
    ∃ t rest, outcome = .ok (t, rest) ∧ u.spelling.toList.length < t.spelling.toList.length

/-- Nothing being lost, it is enough to look at the token. -/
theorem atLeast_scan {c : Char} {cs v : List Char} {u : Token} {r : Token × List Char}
    (hcs : c :: cs = u.spelling.toList ++ v) (h : scan c cs = .ok r)
    (hlen : u.spelling.toList.length ≤ r.1.spelling.toList.length)
    (heq : r.1.spelling = u.spelling → r.1 = u) : AtLeast u v (scan c cs) := by
  obtain ⟨t, rest⟩ := r
  rcases Nat.lt_or_eq_of_le hlen with hlt | hlen
  · exact .inr ⟨t, rest, h, hlt⟩
  · have htext : t.spelling.toList ++ rest = u.spelling.toList ++ v := by
      have := scannedText_scan c cs
      rwa [h, hcs] at this
    obtain ⟨hspelling, rfl⟩ := List.append_inj htext hlen.symm
    have ht : t = u := heq (String.toList_inj.mp hspelling)
    exact .inl (ht ▸ h)

theorem ofWord_spelling (k : Keyword) : ofWord k.spelling = keyword k := by
  cases k <;> decide

/-- A word that is no keyword is a name. -/
theorem ofWord_of_ne {name : String} (h : ∀ k : Keyword, k.spelling ≠ name) :
    ofWord name = ident name := by
  have hnone : Keyword.ofSpelling? name = none :=
    List.find?_eq_none.mpr fun k _ => by simpa using h k
  rw [ofWord, hnone]

/-- Keywords are spelled like names. -/
theorem keyword_mem_word (k : Keyword) : k.spelling.toList ∈ Spelling.word := by
  rw [Spelling.mem_word]
  cases k <;> exact ⟨_, _, rfl, rfl, List.all_eq_true.mp (by decide)⟩

/-- No word starts with a digit, so words and numbers cannot be confused. -/
theorem isDigit_eq_false_of_isWordStart {c : Char} (h : isWordStart c = true) :
    c.isDigit = false := by
  simp only [isWordStart, Char.isAlpha, Char.isUpper, Char.isLower, Bool.or_eq_true,
    Bool.and_eq_true, decide_eq_true_eq, beq_iff_eq, UInt32.le_iff_toNat_le, ge_iff_le] at h
  simp only [Char.isDigit, Bool.and_eq_false_iff, decide_eq_false_iff_not, UInt32.le_iff_toNat_le,
    ge_iff_le]
  rcases h with (h | h) | rfl
  · have : 'A'.val.toNat = 65 := rfl
    have : '9'.val.toNat = 57 := rfl
    omega
  · have : 'a'.val.toNat = 97 := rfl
    have : '9'.val.toNat = 57 := rfl
    omega
  · decide

/-- A digit starts a number. -/
theorem scan_of_isDigit {c : Char} (h : c.isDigit = true) (cs : List Char) :
    scan c cs = .ok (scanNumber (c :: cs)) := by
  have hstring : c ≠ '"' := by rintro rfl; cases h
  have hcharacter : c ≠ '\'' := by rintro rfl; cases h
  rw [scan, if_neg hstring, if_neg hcharacter, if_pos h]

/-- A letter starts a word. -/
theorem scan_of_isWordStart {c : Char} (h : isWordStart c = true) (cs : List Char) :
    scan c cs = .ok (scanWord (c :: cs)) := by
  have hstring : c ≠ '"' := by rintro rfl; cases h
  have hcharacter : c ≠ '\'' := by rintro rfl; cases h
  have hdigit : ¬ c.isDigit = true := by simp [isDigit_eq_false_of_isWordStart h]
  rw [scan, if_neg hstring, if_neg hcharacter, if_neg hdigit, if_pos h]

/-- A mark is read where no number, word or literal starts. -/
theorem scan_of_scanMark {c : Char} {cs rest : List Char} {m : Mark}
    (h : scanMark (c :: cs) = some (m, rest)) : scan c cs = .ok (mark m, rest) := by
  have hnot : c ≠ '"' ∧ c ≠ '\'' ∧ ¬ c.isDigit = true ∧ ¬ isWordStart c = true := by
    unfold scanMark at h
    split at h
    case h_25 => cases h
    all_goals
      next heq =>
      obtain ⟨rfl, -⟩ := List.cons.inj heq
      decide
  obtain ⟨hstring, hcharacter, hdigit, hword⟩ := hnot
  rw [scan, if_neg hstring, if_neg hcharacter, if_neg hdigit, if_neg hword, h]

/-- Where a word is spelled, at least that is read. -/
theorem atLeast_word {c : Char} {cs v : List Char} {u : Token}
    (hword : u.spelling.toList ∈ Spelling.word) (hu : ofWord u.spelling = u)
    (hcs : c :: cs = u.spelling.toList ++ v) : AtLeast u v (scan c cs) := by
  obtain ⟨d, w, hw, hd, hall⟩ := Spelling.mem_word.mp hword
  have hc : isWordStart c = true := by
    rw [hw] at hcs
    rw [(List.cons.inj hcs).1]
    exact hd
  have htake : (c :: cs).takeWhile isWordChar = u.spelling.toList ++ v.takeWhile isWordChar := by
    rw [hcs]
    refine List.takeWhile_append_of_pos ?_
    rw [hw]
    exact List.forall_mem_cons.mpr ⟨isWordChar_of_isWordStart hd, hall⟩
  refine atLeast_scan hcs (scan_of_isWordStart hc cs) ?_ ?_
  · simp [scanWord, spelling_ofWord, htake]
  · intro h
    rw [scanWord, spelling_ofWord] at h
    rw [scanWord, h, hu]

/-- Only an equals sign behind the first character makes another mark of a mark. -/
theorem scanMark_spelling (m : Mark) (v : List Char) :
    scanMark (m.spelling.toList ++ v) = some (m, v) ∨
      ∃ m' rest, scanMark (m.spelling.toList ++ v) = some (m', rest) ∧
        m.spelling.toList.length < m'.spelling.toList.length := by
  cases m
  case assign | not | less | greater =>
    cases v with
    | nil => exact .inl rfl
    | cons d v =>
      by_cases hd : d = '='
      · rw [hd]
        exact .inr ⟨_, v, rfl, by decide⟩
      · exact .inl (by simp [Mark.spelling, scanMark, hd])
  all_goals exact .inl rfl

/-- Where a mark is spelled, at least that is read; a longer mark may be. -/
theorem atLeast_mark {c : Char} {cs v : List Char} (m : Mark)
    (hcs : c :: cs = m.spelling.toList ++ v) : AtLeast (mark m) v (scan c cs) := by
  have h := scanMark_spelling m v
  rw [← hcs] at h
  rcases h with h | ⟨m', rest, h, hlt⟩
  · exact .inl (scan_of_scanMark h)
  · exact .inr ⟨mark m', rest, scan_of_scanMark h, hlt⟩

/-- Digits are taken with all digits that follow them. -/
theorem takeWhile_isDigit_append {digits : List Char} (h : digits ∈ Spelling.digits)
    (v : List Char) :
    (digits ++ v).takeWhile Char.isDigit = digits ++ v.takeWhile Char.isDigit :=
  List.takeWhile_append_of_pos (Spelling.mem_digits.mp h).2

/-- Where an exponent is spelled, at least that much is cut off as one: its digits may go on. -/
theorem le_splitExponent {e : List Char} (he : e ∈ Spelling.exponent) (v : List Char) :
    e.length ≤ (splitExponent (e ++ v)).1.length := by
  obtain ⟨c, sign, digits, rfl, hc, hsign, hdigits⟩ := Spelling.mem_exponent.mp he
  obtain ⟨hne, hall⟩ := Spelling.mem_digits.mp hdigits
  have hsplit : splitSign (sign ++ digits ++ v) = (sign, digits ++ v) := by
    rcases hsign with rfl | ⟨s, rfl, hs⟩
    · obtain ⟨d, ds, rfl⟩ := List.exists_cons_of_ne_nil hne
      have hd : ¬ (d == '+' || d == '-') = true := by
        have hdigit := hall d List.mem_cons_self
        rw [Bool.or_eq_true, beq_iff_eq, beq_iff_eq]
        rintro (rfl | rfl) <;> cases hdigit
      simp [splitSign, hd]
    · simp [splitSign, hs]
  have hrest : ¬ (digits ++ v.takeWhile Char.isDigit).isEmpty = true := by
    simp [hne]
  simp only [List.cons_append, splitExponent, if_pos hc, hsplit, takeWhile_isDigit_append hdigits,
    if_neg hrest, List.length_cons, List.length_append]
  omega

/-- Where a fraction is spelled, at least that much is cut off as one. -/
theorem le_splitFraction {digits tail : List Char} (hdigits : digits ∈ Spelling.digits)
    (htail : tail = [] ∨ tail ∈ Spelling.exponent) (v : List Char) :
    ('.' :: (digits ++ tail)).length ≤
      (splitFraction ('.' :: (digits ++ (tail ++ v)))).1.length := by
  obtain ⟨hne, hall⟩ := Spelling.mem_digits.mp hdigits
  have hrest : ¬ (digits ++ (tail ++ v).takeWhile Char.isDigit).isEmpty = true := by
    simp [hne]
  simp only [splitFraction, takeWhile_isDigit_append hdigits, if_neg hrest,
    List.dropWhile_append_of_pos hall, List.length_cons, List.length_append]
  rcases htail with rfl | htail
  · simp only [List.length_nil]
    omega
  · have hle := le_splitExponent htail v
    -- An exponent does not start with a digit, so it is what is left behind the digits.
    have hdrop : (tail ++ v).dropWhile Char.isDigit = tail ++ v := by
      obtain ⟨c, sign, ds, rfl, hc, -⟩ := Spelling.mem_exponent.mp htail
      refine List.dropWhile_cons_of_neg ?_
      intro hdigit
      rw [Bool.or_eq_true, beq_iff_eq, beq_iff_eq] at hc
      rcases hc with rfl | rfl <;> cases hdigit
    rw [hdrop]
    omega

/-- The two parts of a number. -/
theorem scanNumber_spelling (cs : List Char) :
    (scanNumber cs).1.spelling.toList =
      cs.takeWhile Char.isDigit ++ (splitFraction (cs.dropWhile Char.isDigit)).1 := by
  unfold scanNumber
  generalize splitFraction (cs.dropWhile Char.isDigit) = parts
  obtain ⟨fraction, rest⟩ := parts
  dsimp only
  split
  · next h => simp [spelling, List.isEmpty_iff.mp h]
  · simp [spelling]

/-- With a fraction a number is real, without one it is an integer. -/
theorem scanNumber_kind (cs : List Char) :
    (scanNumber cs).1 =
      if (splitFraction (cs.dropWhile Char.isDigit)).1 = [] then
        intLit (scanNumber cs).1.spelling
      else realLit (scanNumber cs).1.spelling := by
  unfold scanNumber
  generalize splitFraction (cs.dropWhile Char.isDigit) = parts
  obtain ⟨fraction, rest⟩ := parts
  dsimp only
  simp only [List.isEmpty_iff]
  split <;> rfl

/-- Where a whole number is spelled, at least that is read; a fraction may follow. -/
theorem atLeast_intLit {c : Char} {cs v : List Char} {text : String}
    (htext : text.toList ∈ Spelling.digits) (hcs : c :: cs = text.toList ++ v) :
    AtLeast (intLit text) v (scan c cs) := by
  obtain ⟨hne, hall⟩ := Spelling.mem_digits.mp htext
  have hc : c.isDigit = true := by
    obtain ⟨d, w, hw⟩ := List.exists_cons_of_ne_nil hne
    rw [hw] at hcs hall
    rw [(List.cons.inj hcs).1]
    exact hall d List.mem_cons_self
  have hspelling := scanNumber_spelling (c :: cs)
  rw [hcs, takeWhile_isDigit_append htext, ← hcs] at hspelling
  refine atLeast_scan hcs (scan_of_isDigit hc cs) ?_ ?_
  · rw [hspelling]
    simp [spelling]
  · intro h
    have hnone : (splitFraction ((c :: cs).dropWhile Char.isDigit)).1 = [] := by
      rw [h] at hspelling
      have := congrArg List.length hspelling
      simp only [spelling, List.length_append] at this
      exact List.eq_nil_of_length_eq_zero (by omega)
    rw [scanNumber_kind, if_pos hnone, h]
    rfl

/-- Where a number with a fraction is spelled, at least that is read. -/
theorem atLeast_realLit {c : Char} {cs v : List Char} {text : String}
    (htext : text.toList ∈ Spelling.real) (hcs : c :: cs = text.toList ++ v) :
    AtLeast (realLit text) v (scan c cs) := by
  obtain ⟨whole, digits, tail, hw, hwhole, hdigits, htail⟩ := Spelling.mem_real.mp htext
  obtain ⟨hne, hall⟩ := Spelling.mem_digits.mp hwhole
  have hcs' : c :: cs = whole ++ '.' :: (digits ++ (tail ++ v)) := by
    rw [hcs, hw]
    simp
  have hc : c.isDigit = true := by
    obtain ⟨d, w, rfl⟩ := List.exists_cons_of_ne_nil hne
    rw [(List.cons.inj hcs').1]
    exact hall d List.mem_cons_self
  -- The point ends the digits, so what is left is cut at the fraction.
  have htake : (c :: cs).takeWhile Char.isDigit = whole := by
    rw [hcs', takeWhile_isDigit_append hwhole, List.takeWhile_cons_of_neg (by decide),
      List.append_nil]
  have hdrop : (c :: cs).dropWhile Char.isDigit = '.' :: (digits ++ (tail ++ v)) := by
    rw [hcs', List.dropWhile_append_of_pos hall, List.dropWhile_cons_of_neg (by decide)]
  have hle := le_splitFraction hdigits htail v
  rw [← hdrop] at hle
  refine atLeast_scan hcs (scan_of_isDigit hc cs) ?_ ?_
  · rw [scanNumber_spelling, htake]
    simp only [spelling, hw, List.length_append] at hle ⊢
    omega
  · intro h
    have hsome : ¬ (splitFraction ((c :: cs).dropWhile Char.isDigit)).1 = [] := by
      intro hnone
      rw [hnone] at hle
      simp at hle
    rw [scanNumber_kind, if_neg hsome, h]
    rfl

/-- A character that needs no escape belongs to the string. -/
theorem splitString_cons {c : Char} (hquote : c ≠ '"') (hslash : c ≠ '\\') (hline : c ≠ '\n')
    (cs : List Char) :
    splitString (c :: cs) = (c :: (splitString cs).1, (splitString cs).2) := by
  simp [splitString, hquote, hslash, hline]

/-- A row of items and a quote is read as the rest of a string. -/
theorem splitString_items {items : List Char} (h : items ∈ (Spelling.item '"')∗)
    (rest : List Char) :
    splitString (items ++ '"' :: rest) = (items ++ ['"'], .closed, rest) := by
  obtain ⟨pieces, rfl, hpieces⟩ := Language.mem_kstar.mp h
  clear h
  induction pieces with
  | nil => rfl
  | cons piece pieces ih =>
    obtain ⟨hpiece, hpieces⟩ := List.forall_mem_cons.mp hpieces
    have ih := ih hpieces
    rw [List.flatten_cons]
    rcases Spelling.mem_item.mp hpiece with ⟨c, rfl, hquote, hslash, hline⟩ | ⟨c, rfl, hc⟩
    · simp only [List.cons_append, List.nil_append, splitString_cons hquote hslash hline, ih]
    · simp only [List.cons_append, List.nil_append, splitString, if_pos hc, ih]

/-- A string is read as it is spelled: its quote ends it. -/
theorem scan_stringLit {c : Char} {cs v : List Char} {text : String}
    (htext : text.toList ∈ Spelling.string) (hcs : c :: cs = text.toList ++ v) :
    scan c cs = .ok (stringLit text, v) := by
  obtain ⟨items, hw, hitems⟩ := Spelling.mem_string.mp htext
  obtain ⟨rfl, rfl⟩ : c = '"' ∧ cs = items ++ '"' :: v := by simpa [hw] using hcs
  have htext : String.ofList ('"' :: (items ++ ['"'])) = text := by
    rw [← hw, String.ofList_toList]
  rw [scan, if_pos rfl, scanString, splitString_items hitems]
  simp only [htext]

/-- An item and a quote is read as the rest of a character literal. -/
theorem scanCharacter_item {body : List Char} (h : body ∈ Spelling.item '\'') (v : List Char) :
    scanCharacter (body ++ '\'' :: v) =
      .ok (charLit (String.ofList ('\'' :: (body ++ ['\'']))), v) := by
  rcases Spelling.mem_item.mp h with ⟨c, rfl, hquote, hslash, hline⟩ | ⟨c, rfl, hc⟩
  · simp [scanCharacter, scanCharacterEnd, hquote, hslash, hline]
  · simp [scanCharacter, scanCharacterEnd, hc]

/-- A character literal is read as it is spelled. -/
theorem scan_charLit {c : Char} {cs v : List Char} {text : String}
    (htext : text.toList ∈ Spelling.character) (hcs : c :: cs = text.toList ++ v) :
    scan c cs = .ok (charLit text, v) := by
  obtain ⟨body, hw, hbody⟩ := Spelling.mem_character.mp htext
  obtain ⟨rfl, rfl⟩ : c = '\'' ∧ cs = body ++ '\'' :: v := by simpa [hw] using hcs
  rw [scan, if_neg (by decide), if_pos rfl, scanCharacter_item hbody, ← hw, String.ofList_toList]

/-- Where a text starts with the spelling of a token, a scan gives that token or a longer one. -/
theorem scan_spelling {c : Char} {cs v : List Char} {u : Token} (hu : u.WellSpelled)
    (hcs : c :: cs = u.spelling.toList ++ v) : AtLeast u v (scan c cs) := by
  cases u with
  | keyword k => exact atLeast_word (keyword_mem_word k) (ofWord_spelling k) hcs
  | mark m => exact atLeast_mark m hcs
  | ident name => exact atLeast_word hu.1 (ofWord_of_ne hu.2) hcs
  | intLit text => exact atLeast_intLit hu hcs
  | realLit text => exact atLeast_realLit hu hcs
  | stringLit text => exact .inl (scan_stringLit hu hcs)
  | charLit text => exact .inl (scan_charLit hu hcs)

/-- No longer prefix of the text spells a token. -/
def Longest (t : Token) (text : List Char) : Prop :=
  ∀ u : Token, u.WellSpelled → u.spelling.toList <+: text →
    u.spelling.toList.length ≤ t.spelling.toList.length

/-- What is read is the longest spelling at the start of the text. -/
theorem longest_of_scan {c : Char} {cs rest : List Char} {t : Token}
    (h : scan c cs = .ok (t, rest)) : t.Longest (c :: cs) := by
  intro u hu ⟨v, hv⟩
  rcases scan_spelling hu hv.symm with heq | ⟨t', rest', heq, hlt⟩
  · rw [h] at heq
    cases heq
    exact Nat.le_refl _
  · rw [h] at heq
    cases heq
    exact Nat.le_of_lt hlt

/-- A scan succeeds with the longest token that the text starts with. -/
theorem scan_eq_ok_iff {c : Char} {cs rest : List Char} {t : Token} :
    scan c cs = .ok (t, rest) ↔
      c :: cs = t.spelling.toList ++ rest ∧ t.WellSpelled ∧ t.Longest (c :: cs) := by
  constructor
  · intro h
    have htext := scannedText_scan c cs
    rw [h] at htext
    exact ⟨htext.symm, wellSpelled_of_scan h, longest_of_scan h⟩
  · rintro ⟨hcs, ht, hlongest⟩
    rcases scan_spelling ht hcs with heq | ⟨u, rest', heq, hlt⟩
    · exact heq
    · obtain ⟨hcs', hu⟩ : u.spelling.toList <+: c :: cs ∧ u.WellSpelled := by
        have htext := scannedText_scan c cs
        rw [heq] at htext
        exact ⟨⟨rest', htext⟩, wellSpelled_of_scan heq⟩
      have := hlongest u hu hcs'
      omega

/-- A scan fails where the text starts with no token. -/
theorem scan_eq_error_iff {c : Char} {cs : List Char} :
    (∃ f, scan c cs = .error f) ↔
      ∀ u : Token, u.WellSpelled → ¬ u.spelling.toList <+: c :: cs := by
  constructor
  · rintro ⟨f, hf⟩ u hu ⟨v, hv⟩
    rcases scan_spelling hu hv.symm with heq | ⟨t, rest, heq, -⟩
    all_goals
      rw [hf] at heq
      cases heq
  · intro hnone
    cases h : scan c cs with
    | error f => exact ⟨f, rfl⟩
    | ok r =>
      obtain ⟨t, rest⟩ := r
      obtain ⟨hcs, ht, -⟩ := scan_eq_ok_iff.mp h
      exact absurd ⟨rest, hcs.symm⟩ (hnone t ht)

/-- No token is spelled as nothing. -/
theorem spelling_ne_nil {u : Token} (hu : u.WellSpelled) : u.spelling.toList ≠ [] := by
  cases u with
  | keyword k => cases k <;> decide
  | mark m => cases m <;> decide
  | ident name =>
    obtain ⟨c, v, hw, -⟩ := Spelling.mem_word.mp hu.1
    exact hw ▸ List.cons_ne_nil c v
  | intLit text => exact (Spelling.mem_digits.mp hu).1
  | realLit text =>
    obtain ⟨whole, digits, tail, hw, -⟩ := Spelling.mem_real.mp hu
    exact hw ▸ List.append_ne_nil_of_right_ne_nil _ (List.cons_ne_nil _ _)
  | stringLit text =>
    obtain ⟨items, hw, -⟩ := Spelling.mem_string.mp hu
    exact hw ▸ List.cons_ne_nil _ _
  | charLit text =>
    obtain ⟨body, hw, -⟩ := Spelling.mem_character.mp hu
    exact hw ▸ List.cons_ne_nil _ _

/-! ## No token goes over the end of a line -/

theorem newline_not_mem_digits {w : List Char} (h : w ∈ Spelling.digits) : '\n' ∉ w :=
  fun hmem => absurd ((Spelling.mem_digits.mp h).2 _ hmem) (by decide)

theorem newline_not_mem_word {w : List Char} (h : w ∈ Spelling.word) : '\n' ∉ w := by
  obtain ⟨c, v, rfl, hc, hv⟩ := Spelling.mem_word.mp h
  intro hmem
  rcases List.mem_cons.mp hmem with rfl | hmem
  · exact absurd hc (by decide)
  · exact absurd (hv _ hmem) (by decide)

theorem newline_not_mem_exponent {w : List Char} (h : w ∈ Spelling.exponent) : '\n' ∉ w := by
  obtain ⟨c, sign, digits, rfl, hc, hsign, hdigits⟩ := Spelling.mem_exponent.mp h
  have hdigits := newline_not_mem_digits hdigits
  have hc : c ≠ '\n' := by rintro rfl; cases hc
  rcases hsign with rfl | ⟨s, rfl, hs⟩
  · simp [hdigits, hc.symm]
  · have hs : s ≠ '\n' := by rintro rfl; cases hs
    simp [hdigits, hc.symm, hs.symm]

theorem newline_not_mem_real {w : List Char} (h : w ∈ Spelling.real) : '\n' ∉ w := by
  obtain ⟨whole, digits, tail, rfl, hwhole, hdigits, htail⟩ := Spelling.mem_real.mp h
  have hwhole := newline_not_mem_digits hwhole
  have hdigits := newline_not_mem_digits hdigits
  have htail : '\n' ∉ tail := by
    rcases htail with rfl | htail
    · exact List.not_mem_nil
    · exact newline_not_mem_exponent htail
  simp [hwhole, hdigits, htail]

/-- A line feed is no item, so strings end with their line. -/
theorem newline_not_mem_item {quote : Char} {w : List Char} (h : w ∈ Spelling.item quote) :
    '\n' ∉ w := by
  rcases Spelling.mem_item.mp h with ⟨c, rfl, -, -, hline⟩ | ⟨c, rfl, hc⟩
  · simp [hline.symm]
  · have hc : c ≠ '\n' := by rintro rfl; cases hc
    simp [hc.symm]

theorem newline_not_mem_string {w : List Char} (h : w ∈ Spelling.string) : '\n' ∉ w := by
  obtain ⟨items, rfl, hitems⟩ := Spelling.mem_string.mp h
  obtain ⟨pieces, rfl, hpieces⟩ := Language.mem_kstar.mp hitems
  have hitems : '\n' ∉ pieces.flatten := by
    intro hmem
    obtain ⟨piece, hpiece, hmem⟩ := List.mem_flatten.mp hmem
    exact newline_not_mem_item (hpieces piece hpiece) hmem
  simpa using hitems

theorem newline_not_mem_character {w : List Char} (h : w ∈ Spelling.character) : '\n' ∉ w := by
  obtain ⟨body, rfl, hbody⟩ := Spelling.mem_character.mp h
  simpa using newline_not_mem_item hbody

/-- No spelling goes over the end of a line. -/
theorem newline_not_mem_spelling {u : Token} (hu : u.WellSpelled) : '\n' ∉ u.spelling.toList := by
  cases u with
  | keyword k => exact newline_not_mem_word (keyword_mem_word k)
  | mark m => cases m <;> decide
  | ident name => exact newline_not_mem_word hu.1
  | intLit text => exact newline_not_mem_digits hu
  | realLit text => exact newline_not_mem_real hu
  | stringLit text => exact newline_not_mem_string hu
  | charLit text => exact newline_not_mem_character hu

end Token

end SyntaxOutline
