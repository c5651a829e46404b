import Restyle.Pattern.Segment

/-!
# Templates of replacements

A template is the text that takes the place of a match, with references to the groups of the
match. A reference is a dollar sign before a name in braces, or before the longest run of ASCII
letters, digits and underscores; a name that is a number stands for the group of that number. Two
dollar signs stand for one, and a dollar sign that begins no reference stands for itself. A
reference to an unknown group, or to one that took no part in the match, stands for nothing.

## Main definitions

* `Restyle.Template`, `Restyle.Template.read`.
* `Restyle.Template.expand` — the text that a template gives for a match.
-/

namespace Restyle

/-- A part of a template. -/
inductive TemplatePart where
  | char (c : Char)
  | group (index : Nat)
  | named (name : List Char)
  deriving DecidableEq

/-- A template, as its parts in order. -/
abbrev Template := List TemplatePart

namespace Template

/-- Whether a character may stand in a reference without braces. -/
def isNameChar (c : Char) : Bool := c.isAlphanum || c == '_'

/-- The number that a name is, if it is one. A plus sign may stand before the digits. -/
def number? (name : List Char) : Option Nat :=
  let digits := match name with
    | '+' :: ds => ds
    | ds => ds
  if digits.isEmpty || !digits.all Char.isDigit then none
  else some (digits.foldl (fun n c => 10 * n + (c.toNat - '0'.toNat)) 0)

/-- The reference that a name makes. -/
def reference (name : List Char) : TemplatePart :=
  match number? name with
  | some n => .group n
  | none => .named name

/-- The parts of a template, with a bound on their number. -/
def readParts : Nat → List Char → Template
  | 0, _ => []
  | _ + 1, [] => []
  | n + 1, '$' :: '$' :: cs => .char '$' :: readParts n cs
  | n + 1, '$' :: '\x7b' :: cs =>
    match cs.dropWhile (· != '\x7d') with
    | [] => .char '$' :: readParts n ('\x7b' :: cs)
    | _ :: after => reference (cs.takeWhile (· != '\x7d')) :: readParts n after
  | n + 1, '$' :: cs =>
    match cs.takeWhile isNameChar with
    | [] => .char '$' :: readParts n cs
    | name => reference name :: readParts n (cs.dropWhile isNameChar)
  | n + 1, c :: cs => .char c :: readParts n cs

/-- The template that a text writes. Every text writes one. -/
def read (text : List Char) : Template := readParts text.length text

/-- The text that a part of a template gives for a match, `names` giving the numbers of the named
groups. -/
def expandPart (names : List (List Char × Nat)) (m : Match) : TemplatePart → List Char
  | .char c => [c]
  | .group index => (m.group? index).getD []
  | .named name =>
    match names.lookup name with
    | some index => (m.group? index).getD []
    | none => []

/-- The text that a template gives for a match. -/
def expand (names : List (List Char × Nat)) (t : Template) (m : Match) : List Char :=
  t.flatMap (expandPart names m)

end Template

end Restyle
