import SyntaxOutline.Text.Emoji
import SyntaxOutline.Text.Width

/-!
# The width of clusters on a screen

The width of a cluster is the sum of its characters' widths, but for those that merge when they are
drawn: an emoji with its selector or modifier, pictures tied by joiners, flags, keycaps, and Khmer
letters below another. A cluster is read from its end, since what stands behind a character decides
how it is drawn.
-/

namespace SyntaxOutline

namespace Text

/-- What is read of a picture before the joiner that ties it to the next. -/
inductive Joined where
  /-- Nothing. -/
  | bare
  /-- The emoji selector. -/
  | selector
  /-- The sign for the top of a key. -/
  | keycap
  /-- The emoji selector before the top of a key. -/
  | keycapSelector
  /-- One letter of a flag. -/
  | flagLetter
  /-- An even number of letters, that is some flags. -/
  | evenLetters
  /-- An odd number of letters, more than one. -/
  | oddLetters
  /-- The end of the name of a region. -/
  | tagEnd
  /-- The last letters of the name of a region. -/
  | tagLetters (count : Nat)
  /-- The last letters of the name of a region and some digits before them. -/
  | tagDigits (count : Nat)
deriving DecidableEq, Repr

/-- What stands behind a character, as far as it can change how the character is drawn. -/
inductive Behind where
  | nothing
  | lineFeed
  /-- A picture. -/
  | emoji
  /-- The selector that asks for an emoji. -/
  | emojiSelector
  /-- The selector that asks for text. -/
  | textSelector
  /-- A modifier of skin tone. -/
  | modifier
  /-- One letter of a flag. -/
  | flagLetter
  /-- Two or more letters of flags. -/
  | flagLetters
  /-- A joiner with a picture behind it, and perhaps some of the picture before it. -/
  | joined (what : Joined)
  /-- A Khmer letter that can be drawn below the one before it. -/
  | lowLetter
deriving DecidableEq, Repr

/-- The code points of Khmer letters that can be drawn below another. -/
def lowLetterRanges : List (Nat × Nat) :=
  [
    (0x1780, 0x1782), (0x1784, 0x1787), (0x1789, 0x178c), (0x178e, 0x1793), (0x1795, 0x1798),
    (0x179b, 0x179d), (0x17a0, 0x17a0), (0x17a2, 0x17a2), (0x17a7, 0x17a7), (0x17ab, 0x17ac),
    (0x17af, 0x17af)
  ]

/-- The code points of invisible characters that may stand between the sign for a low letter and the
letter. -/
def transparentRanges : List (Nat × Nat) :=
  [
    (0x34f, 0x34f), (0x17b4, 0x17b5), (0x180b, 0x180d), (0x180f, 0x180f), (0x200d, 0x200d),
    (0xfe00, 0xfe0f), (0xe0100, 0xe01ef)
  ]

namespace Behind

/-- Whether a selector that asks for an emoji comes first. -/
def asksForEmoji : Behind → Bool
  | .emojiSelector | .joined .selector | .joined .keycapSelector => true
  | _ => false

/-- What remains where a character does not take the selector behind it: nothing that could merge
with the character. -/
def withoutSelector (b : Behind) : Behind := if b.asksForEmoji then .nothing else b

/-- The same behind a selector that asks for an emoji. -/
def withSelector : Behind → Behind
  | .joined .bare => .joined .selector
  | .joined .keycap => .joined .keycapSelector
  | _ => .emojiSelector

/-- Whether a joiner ties the pictures behind it to one before it. -/
def isPicture : Behind → Bool
  | .emoji | .modifier | .flagLetters | .joined .evenLetters | .joined .oddLetters => true
  | _ => false

/-- What a character is for the one before it. -/
def ofChar (c : Char) : Behind :=
  if isFlagLetter c then .flagLetter
  else if isModifier c then .modifier
  else if isEmoji c then .emoji
  else if inRanges lowLetterRanges c.toNat then .lowLetter
  else .nothing

end Behind

namespace Joined

/-- Whether the last characters are the name of a region with a flag of its own. -/
def namesRegion : Joined → Bool
  | .tagLetters n => 3 ≤ n
  | .tagDigits n => n = 3
  | _ => false

/-- One more invisible letter of the name. -/
def tagLetter? : Joined → Option Joined
  | .tagEnd => some (.tagLetters 1)
  | .tagLetters n => if n < 6 then some (.tagLetters (n + 1)) else none
  | _ => none

/-- One more invisible digit of the name. -/
def tagDigit? : Joined → Option Joined
  | .tagEnd => some (.tagDigits 1)
  | .tagLetters n => if n < 5 then some (.tagDigits 1) else none
  | .tagDigits n => if n < 3 then some (.tagDigits (n + 1)) else none
  | _ => none

/-- What a character adds before a joiner: the change of the width, and what then stands there.
Nothing is given for a character that does not belong to the picture. -/
def add? (j : Joined) (c : Char) : Option (Int × Behind) :=
  if isFlagLetter c then
    match j with
    | .bare => some (1, .joined .flagLetter)
    | .flagLetter | .oddLetters => some (-1, .joined .evenLetters)
    | .evenLetters => some (3, .joined .oddLetters)
    | _ => none
  else if isTagLetter c then j.tagLetter?.map fun j => (0, .joined j)
  else if isTagDigit c then j.tagDigit?.map fun j => (0, .joined j)
  else if c.toNat = 0x1f3f4 && j.namesRegion then some (0, .emoji)
  else if j ≠ .bare then none
  else if c.toNat = 0x20e3 then some (0, .joined .keycap)
  else if c.toNat = 0xe007f then some (0, .joined .tagEnd)
  else if isModifier c then some (0, .modifier)
  else if isEmoji c then some (0, .emoji)
  else none

end Joined

/-- What a character adds when it merges with what stands behind it. -/
def merge? (c : Char) (b : Behind) : Option (Int × Behind) :=
  if c.toNat = 0x200d && b.isPicture then some (0, .joined .bare)
  else match b with
    | .modifier => if isModifierBase c then some (0, .emoji) else none
    | .flagLetter | .flagLetters => if isFlagLetter c then some (1, .flagLetters) else none
    | .joined j => j.add? c
    | .lowLetter =>
      if c.toNat = 0x17d2 then some (-1, .nothing)
      else if inRanges transparentRanges c.toNat then some (0, .lowLetter)
      else none
    | .textSelector => if canBeText c then some (1, .nothing) else none
    | .lineFeed => if c = '\r' then some (0, .nothing) else none
    | _ => none

/-- What a character adds to the width of what stands behind it, and what then stands behind the
character before it. -/
def addWidth (c : Char) (b : Behind) : Int × Behind :=
  if b.asksForEmoji && canBeEmoji c then (if b = .emojiSelector then 2 else 0, .emoji)
  else
    let b := b.withoutSelector
    match merge? c b with
    | some r => r
    | none =>
      if c.toNat = 0xfe0f then (0, b.withSelector)
      else if c.toNat = 0xfe0e then (0, .textSelector)
      else if c = '\n' then (0, .lineFeed)
      else (width c, .ofChar c)

/-- The cells that a cluster takes. -/
def clusterWidth (cs : List Char) : Nat :=
  (cs.foldr (fun c (sum, b) => let (w, b) := addWidth c b; (sum + w, b))
    ((0 : Int), Behind.nothing)).1.toNat

end Text

end SyntaxOutline
