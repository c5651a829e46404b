import Restyle.CharSet.Name
import Restyle.Pattern.Flags

/-!
# Escapes in a pattern

A backslash begins an escape: a character that has a meaning of its own otherwise, a control
character, a character given by its code point, a set of characters, or an anchor. Where blanks do
not count, they do not count between the digits of a code point, in the description of a set, or in
the kind of a word anchor either.

## Main definitions

* `Restyle.Atom` — what an escape, or a character that is not one, stands for.
* `Restyle.readEscape` — reads the part of an escape that follows the backslash.
-/

namespace Restyle

/-- The smallest part of a pattern. -/
inductive Atom where
  | char (c : Char)
  | set (s : CharSet)
  | anchor (a : Anchor)

/-- The characters that have a meaning of their own in some part of a pattern. -/
def isMeta (c : Char) : Bool :=
  "\\.+*?()|[]\x7b\x7d^$#&-~".toList.contains c

/-- Whether a character may be escaped to stand for itself: ASCII, and neither a letter, a digit
nor an angle bracket. -/
def isEscapable (c : Char) : Bool :=
  isMeta c || (c.toNat < 128 && !c.isAlphanum && c != '<' && c != '>')

/-- The value of a hexadecimal digit. -/
def hexValue? (c : Char) : Option Nat :=
  if c.isDigit then some (c.toNat - '0'.toNat)
  else if 'a' ≤ c ∧ c ≤ 'f' then some (c.toNat - 'a'.toNat + 10)
  else if 'A' ≤ c ∧ c ≤ 'F' then some (c.toNat - 'A'.toNat + 10)
  else none

/-- The character whose code point has the given hexadecimal digits. -/
def charOfHex (digits : List Char) : Except Fault Char :=
  match digits.mapM hexValue? with
  | none | some [] => .error .badCodePoint
  | some ds =>
    let n := ds.foldl (fun n d => 16 * n + d) 0
    if n < 0xD800 ∨ 0xDFFF < n ∧ n < 0x110000 then .ok (Char.ofNat n) else .error .badCodePoint

/-- The next `n` characters that count, and what follows them. -/
def takeSolid (f : Flags) : Nat → List Char → Except Fault (List Char × List Char)
  | 0, cs => .ok ([], cs)
  | n + 1, cs =>
    match f.skip cs with
    | [] => .error .unfinishedEscape
    | c :: cs => do
      let (taken, after) ← takeSolid f n cs
      return (c :: taken, after)

/-- Reads a code point: `width` digits, or any number of digits in braces. Without Unicode, two
digits would stand for a byte, which is a character in ASCII only. -/
def readCodePoint (f : Flags) (width : Nat) (cs : List Char) :
    Except Fault (Char × List Char) := do
  match f.skip cs with
  | '\x7b' :: cs =>
    match f.inBraces? false cs with
    | none => throw .unfinishedEscape
    | some (digits, after) => return (← charOfHex digits, after)
  | cs =>
    let (digits, after) ← takeSolid f width cs
    let c ← charOfHex digits
    if !f.unicode && width == 2 && 0x7f < c.toNat then throw .notText
    return (c, after)

/-- Reads the description of a set of characters: one letter, or a text in braces. Then the set is
taken with its case variants, or the characters outside it, if either the escape or the description
asks for them. -/
def readDescription (f : Flags) (negated : Bool) (cs : List Char) :
    Except Fault (CharSet × List Char) := do
  if !f.unicode then throw .notText
  let (description, after) ←
    match f.skip cs with
    | '\x7b' :: cs =>
      match f.inBraces? false cs with
      | none => throw .unfinishedEscape
      | some contents => pure contents
    | cs => takeSolid f 1 cs
  match CharSet.described? description with
  | none => throw .unknownProperty
  | some (set, others) => return (← f.complIf (negated != others) (f.foldCase set), after)

/-- Reads what may follow the letter of a word anchor: the kind of the edge, in braces. A brace
before anything but a letter or a hyphen is not part of the anchor. -/
def readEdge (f : Flags) : List Char → Except Fault (WordEdge × List Char)
  | '\x7b' :: cs =>
    match f.skip cs with
    | [] => .error .unfinishedEscape
    | c :: _ =>
      if !(c.isAlpha || c == '-') then .ok (.either, '\x7b' :: cs)
      else
        match f.inBraces? false cs with
        | none => .error .unfinishedEscape
        | some (kind, after) =>
          match String.ofList kind with
          | "start" => .ok (.start, after)
          | "end" => .ok (.finish, after)
          | "start-half" => .ok (.noWordBefore, after)
          | "end-half" => .ok (.noWordAfter, after)
          | _ => .error .unknownEscape
  | cs => .ok (.either, cs)

/-- Reads what follows a backslash. -/
def readEscape (f : Flags) : List Char → Except Fault (Atom × List Char)
  | [] => .error .unfinishedEscape
  | c :: cs =>
    if c.isDigit then .error .backreference
    else if isEscapable c then .ok (.char c, cs)
    else
      match c with
      | 'x' => codePoint 2 cs
      | 'u' => codePoint 4 cs
      | 'U' => codePoint 8 cs
      | 'p' => described false cs
      | 'P' => described true cs
      | 'd' => .ok (.set f.digit, cs)
      | 'D' => others f.digit cs
      | 's' => .ok (.set f.blank, cs)
      | 'S' => others f.blank cs
      | 'w' => .ok (.set f.word, cs)
      | 'W' => others f.word cs
      | 'a' => .ok (.char '\x07', cs)
      | 'f' => .ok (.char '\x0c', cs)
      | 't' => .ok (.char '\t', cs)
      | 'n' => .ok (.char '\n', cs)
      | 'r' => .ok (.char '\r', cs)
      | 'v' => .ok (.char '\x0b', cs)
      | 'A' => .ok (.anchor .textStart, cs)
      | 'z' => .ok (.anchor .textEnd, cs)
      | 'b' => do
        let (kind, after) ← readEdge f cs
        return (.anchor (.edge kind f.word), after)
      | 'B' => .ok (.anchor (.edge .neither f.word), cs)
      | '<' => .ok (.anchor (.edge .start f.word), cs)
      | '>' => .ok (.anchor (.edge .finish f.word), cs)
      | _ => .error .unknownEscape
where
  /-- A character given by its code point. -/
  codePoint (width : Nat) (cs : List Char) : Except Fault (Atom × List Char) := do
    let (c, after) ← readCodePoint f width cs
    return (.char c, after)
  /-- A set given by a description. -/
  described (negated : Bool) (cs : List Char) : Except Fault (Atom × List Char) := do
    let (set, after) ← readDescription f negated cs
    return (.set set, after)
  /-- The characters outside a set. -/
  others (set : CharSet) (cs : List Char) : Except Fault (Atom × List Char) := do
    return (.set (← f.compl set), cs)

end Restyle
