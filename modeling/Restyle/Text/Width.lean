import Restyle.Text.CharWidth
import Restyle.Text.Emoji

/-!
# The width of a text in columns

The width of a text is the sum of what its characters take, and what a character takes depends on
the characters behind it: an emoji is two columns as a whole, with its selector, its skin tone and
the emoji that are joined to it; two regional indicators are a flag; some pairs of letters are drawn
as one. A text is therefore measured from its end to its beginning, and what begins behind a
character is all that is kept of the part that has been measured.

## Main definitions

* `Restyle.Text.Onset` — what begins at a place in a text.
* `Restyle.Text.Onset.joined?` — the characters that join what begins behind them.
* `Restyle.Text.Remainder` — what begins at a place, and the selector before it.
* `Restyle.Text.Remainder.before` — the columns of a character before a remainder.
* `Restyle.Text.width` — the width of a text.
-/

namespace Restyle.Text

/-- What begins at a place in a text, as far as the width of the character before depends on it. A
letter is `joined` if a joiner has been read before it. -/
inductive Onset
  /-- Nothing that a character joins. -/
  | other
  /-- A line feed. -/
  | lineFeed
  /-- An Arabic alef, with which a lam before it is drawn as one letter. -/
  | alef
  /-- A Hebrew lamed. -/
  | lamed (joined : Bool)
  /-- A Buginese letter ya. -/
  | ya (joined : Bool)
  /-- The Buginese vowel that is joined to a ya. -/
  | yaVowel
  /-- An Old Turkic letter i. -/
  | orkhonI (joined : Bool)
  /-- A consonant of Tifinagh. -/
  | tifinagh (joined : Bool)
  /-- The sign that makes one letter of two consonants of Tifinagh, and the second of them. -/
  | tifinaghPair
  /-- A second tone letter of Lisu. -/
  | lisuTone
  /-- A Khmer letter that can be written below another. -/
  | khmerLetter
  /-- The first half of a Kirat Rai vowel. -/
  | kiratE
  /-- The vowel that two of those halves are. -/
  | kiratAi
  /-- An emoji. -/
  | emoji
  /-- A joiner and an emoji. -/
  | joinedEmoji
  /-- A key cap that is joined to an emoji. -/
  | joinedKeycap
  /-- A skin tone. -/
  | skinTone
  /-- The end of the code of a region, of which `letters` letters and before them `digits` digits
  have been read, before a joiner and an emoji. -/
  | regionCode (letters digits : Nat)
  /-- A regional indicator. -/
  | indicator
  /-- At least two regional indicators. -/
  | indicators
  /-- A regional indicator that is joined to an emoji. -/
  | joinedIndicator
  /-- An even number of regional indicators that are joined to an emoji. -/
  | evenIndicators
  /-- An odd number of at least three regional indicators that are joined to an emoji. -/
  | oddIndicators
  deriving DecidableEq, Repr

/-- Whether a code point is a consonant of Tifinagh. -/
def isTifinaghConsonant (n : Nat) : Bool := inRanges n [(0x2D31, 0x2D65), (0x2D6F, 0x2D6F)]

/-- Whether a code point is a lam, or a letter with the form of one. -/
def isLam (n : Nat) : Bool :=
  inRanges n [(0x644, 0x644), (0x6B5, 0x6B8), (0x76A, 0x76A), (0x8A6, 0x8A6), (0x8C7, 0x8C7)]

/-- Whether a code point is an alef, or a letter with the form of one. -/
def isAlef (n : Nat) : Bool :=
  inRanges n [(0x622, 0x623), (0x625, 0x625), (0x627, 0x627), (0x671, 0x673), (0x675, 0x675),
    (0x773, 0x774), (0x870, 0x882)]

/-- Whether a code point is a Khmer letter that can be written below another. -/
def isKhmerSubscript (n : Nat) : Bool :=
  inRanges n [(0x1780, 0x1782), (0x1784, 0x1787), (0x1789, 0x178C), (0x178E, 0x1793),
    (0x1795, 0x1798), (0x179B, 0x179D), (0x17A0, 0x17A0), (0x17A2, 0x17A2), (0x17A7, 0x17A7),
    (0x17AB, 0x17AC), (0x17AF, 0x17AF)]

/-- Whether a code point is passed over where two letters are drawn as one. -/
def isBetweenLetters (n : Nat) : Bool :=
  inRanges n [(0x34F, 0x34F), (0x17B4, 0x17B5), (0x180B, 0x180D), (0x180F, 0x180F),
    (0x200D, 0x200D), (0xFE00, 0xFE0F), (0xE0100, 0xE01EF)]

/-- The joiner. -/
def joiner : Nat := 0x200D

namespace Onset

/-- What begins with a character that joins nothing behind it. -/
def ofChar (c : Char) : Onset :=
  let n := c.toNat
  if isAlef n then alef
  else if n = 0x5DC then lamed false
  else if n = 0x1A10 then ya false
  else if n = 0x10C03 then orkhonI false
  else if isTifinaghConsonant n then tifinagh false
  else if n = 0xA4FC || n = 0xA4FD then lisuTone
  else if isKhmerSubscript n then khmerLetter
  else if n = 0x16D67 then kiratE
  else if n = 0x16D68 then kiratAi
  else if isIndicator c then indicator
  else if isSkinTone c then skinTone
  else if isPicture c then emoji
  else other

/-- Whether this is a letter, or a part of one, from which a joiner or a selector before it does not
part the letter before. -/
def isJoining : Onset → Bool
  | lamed _ | ya _ | yaVowel | orkhonI _ | tifinagh _ | tifinaghPair | lisuTone | khmerLetter =>
    true
  | _ => false

/-- What begins with a joiner before a letter. -/
def afterJoiner : Onset → Onset
  | lamed _ => lamed true
  | ya _ => ya true
  | orkhonI _ => orkhonI true
  | tifinagh _ => tifinagh true
  | next => next

/-- Whether this is joined to an emoji so that a picture before it joins it too. -/
def isJoinedPicture : Onset → Bool
  | joinedEmoji | joinedKeycap => true
  | _ => false

/-- The columns of a tag before the end of the code of a region, and what begins with it. A code has
at most six letters, or at most four after at most three digits. -/
def joinedTag? (n letters digits : Nat) : Option (Int × Onset) :=
  if 0xE0061 ≤ n && n ≤ 0xE007A && digits = 0 && letters < 6 then
    some (0, regionCode (letters + 1) 0)
  else if 0xE0030 ≤ n && n ≤ 0xE0039 && letters ≤ 4 && digits < 3 then
    some (0, regionCode letters (digits + 1))
  else if n = 0x1F3F4 && (digits = 3 || digits = 0 && 3 ≤ letters) then some (0, emoji)
  else none

/-- The columns of a character that joins what begins behind it, and what begins with the two
together. A pair that is drawn as one letter is as wide as its second character is by itself, or
narrower by what is counted for the first. -/
def joined? (c : Char) (next : Onset) : Option (Int × Onset) :=
  let n := c.toNat
  match next with
  | alef =>
    if isLam n then some (0, other)
    else if isUnseen c then some (0, alef)
    else none
  | lamed true => if n = 0x5D0 then some (0, other) else none
  | khmerLetter => if n = 0x17D2 then some (-1, other) else none
  | ya true => if n = 0x1A17 then some (0, yaVowel) else none
  | yaVowel => if n = 0x1A15 then some (0, other) else none
  | tifinagh joined =>
    if n = 0x2D7F then some (1, tifinaghPair)
    else if joined && isTifinaghConsonant n then some (0, other)
    else none
  | tifinaghPair => if isTifinaghConsonant n then some (-1, other) else none
  | lisuTone => if 0xA4F8 ≤ n && n ≤ 0xA4FB then some (0, other) else none
  | orkhonI true => if n = 0x10C32 then some (0, other) else none
  | kiratE =>
    if n = 0x16D63 || n = 0x16D69 then some (0, other)
    else if n = 0x16D67 then some (0, kiratAi)
    else if n = 0x16D68 then some (1, kiratE)
    else none
  | kiratAi => if n = 0x16D63 then some (0, other) else none
  | skinTone =>
    if takesSkinTone c then some (0, emoji)
    else if n = joiner then some (0, joinedEmoji)
    else none
  | emoji => if n = joiner then some (0, joinedEmoji) else none
  | indicator => if isIndicator c then some (1, indicators) else none
  | indicators =>
    if isIndicator c then some (1, indicators)
    else if n = joiner then some (0, joinedEmoji)
    else none
  | joinedEmoji =>
    if n = 0x20E3 then some (0, joinedKeycap)
    else if isIndicator c then some (1, joinedIndicator)
    else if isSkinTone c then some (0, skinTone)
    else if n = 0xE007F then some (0, regionCode 0 0)
    else if isPicture c then some (0, emoji)
    else none
  | joinedIndicator => if isIndicator c then some (-1, evenIndicators) else none
  | evenIndicators =>
    if isIndicator c then some (3, oddIndicators)
    else if n = joiner then some (0, joinedEmoji)
    else none
  | oddIndicators =>
    if isIndicator c then some (-1, evenIndicators)
    else if n = joiner then some (0, joinedEmoji)
    else none
  | regionCode letters digits => joinedTag? n letters digits
  | other | lineFeed | joinedKeycap | lamed false | ya false | orkhonI false => none

end Onset

/-- What a selector asks for: the form of a text or of a picture, or the wide form of a quotation
mark. -/
inductive Selector
  | text
  | picture
  | wide
  deriving DecidableEq, Repr

/-- The part of a text behind a place: the selector that stands there, if there is one, and what
begins behind it. -/
structure Remainder where
  selector : Option Selector
  onset : Onset
  deriving DecidableEq, Repr

namespace Remainder

/-- A remainder without a selector. -/
def of (onset : Onset) : Remainder := ⟨none, onset⟩

/-- What begins behind a selector that the character before it does not take. -/
def unselected (r : Remainder) : Onset :=
  match r.selector with
  | none => r.onset
  | some _ => if r.onset.isJoining || r.onset = .alef then r.onset else .other

/-- A remainder with a selector for text before it. -/
def withText (next : Onset) : Remainder :=
  ⟨some .text, if next.isJoining || next = .alef then next else .other⟩

/-- A remainder with a selector for a picture before it. -/
def withPicture (next : Onset) : Remainder :=
  ⟨some .picture,
    if next.isJoining || next = .alef || next.isJoinedPicture then next else .other⟩

/-- Whether a code point is a quotation mark of which there is a wide form. -/
def isQuotationMark (n : Nat) : Bool := inRanges n [(0x2018, 0x2019), (0x201C, 0x201D)]

/-- Whether a character keeps to one column before a selector for text. -/
def isNarrowAsText (c : Char) : Bool :=
  hasBothForms c && isPicture c && !(0x1F200 ≤ c.toNat && c.toNat ≤ 0x1F2FF)

/-- The columns of a character before what begins behind it, where there is no selector between
them, and the remainder with the character before it. -/
def beforeOnset (c : Char) (next : Onset) : Int × Remainder :=
  let n := c.toNat
  if n ≤ 0xA0 then
    if c = '\n' then (1, of .lineFeed)
    else if c = '\r' && next = .lineFeed then (0, of .other)
    else (1, of .other)
  else if n = 0xFE0F then (0, withPicture next)
  else if n = 0xFE0E then (0, withText next)
  else if next.isJoining && n = joiner then (0, of next.afterJoiner)
  else if next.isJoining && isBetweenLetters n then (0, of next)
  else
    match next.joined? c with
    | some (columns, onset) => (columns, of onset)
    | none => if n = 0xFE01 then (0, ⟨some .wide, .other⟩) else (charWidth c, of (.ofChar c))

/-- The columns of a character before a remainder, and the remainder with the character before it. A
selector has its effect on the characters that can take it, and is passed over by all others. -/
def before (c : Char) (r : Remainder) : Int × Remainder :=
  match r.selector with
  | some .picture =>
    if hasBothForms c then (if r.onset.isJoinedPicture then 0 else 2, of .emoji)
    else beforeOnset c r.unselected
  | some .text => if isNarrowAsText c then (1, of .other) else beforeOnset c r.unselected
  | some .wide => if isQuotationMark c.toNat then (2, of .other) else beforeOnset c r.unselected
  | none => beforeOnset c r.onset

/-- The columns of a text and what it begins with, with a character before it. -/
def extend (c : Char) (text : Int × Remainder) : Int × Remainder :=
  let first := text.2.before c
  (text.1 + first.1, first.2)

/-- The columns of a text and what it begins with. -/
def measure (cs : List Char) : Int × Remainder := cs.foldr extend (0, of .other)

@[simp] theorem measure_nil : measure [] = (0, of .other) := rfl

theorem measure_cons (c : Char) (cs : List Char) : measure (c :: cs) = extend c (measure cs) := rfl

end Remainder

/-- The number of columns that a text takes. -/
def width (s : String) : Nat := (Remainder.measure s.toList).1.toNat

@[simp] theorem width_empty : width "" = 0 := rfl

end Restyle.Text
