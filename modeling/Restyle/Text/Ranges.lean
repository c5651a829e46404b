/-!
# Properties of characters given by ranges of code points

A property of characters is given by the increasing list of the closed ranges of code points that
have it. Long lists are written as texts: the ends of a range are hexadecimal numbers with a hyphen
between them, a range of one code point is that number alone, and blanks or line ends stand between
ranges.

## Main definitions

* `Restyle.Text.inRanges` — whether a code point lies in one of the ranges of an increasing list.
* `Restyle.Text.readRanges` — the ranges that a text writes.
-/

namespace Restyle.Text

/-- Whether `n` lies in one of the closed ranges of an increasing list; the ranges that begin
after `n` are not looked at. -/
def inRanges (n : Nat) : List (Nat × Nat) → Bool
  | [] => false
  | (lo, hi) :: rs => if n < lo then false else if n ≤ hi then true else inRanges n rs

@[simp] theorem inRanges_nil (n : Nat) : inRanges n [] = false := rfl

theorem inRanges_cons (n lo hi : Nat) (rs : List (Nat × Nat)) :
    inRanges n ((lo, hi) :: rs) =
      if n < lo then false else if n ≤ hi then true else inRanges n rs := rfl

/-- The value of a hexadecimal digit with a capital letter. -/
def digitValue (c : Char) : Nat :=
  if c.isDigit then c.toNat - '0'.toNat else c.toNat - 'A'.toNat + 10

/-- Ranges with one more before them, if its upper end `high` has been read. Its lower end is `low`,
or else the same. -/
def addRange (low high : Option Nat) (ranges : List (Nat × Nat)) : List (Nat × Nat) :=
  match high with
  | none => ranges
  | some n => (low.getD n, n) :: ranges

/-- Reads ranges: `low` is the lower end of the range being read if its hyphen has been passed,
`number` is the value of the digits read last, if there are any, and `ranges` are the ranges before,
the last first. -/
def readRangesFrom (low number : Option Nat) (ranges : List (Nat × Nat)) :
    List Char → List (Nat × Nat)
  | [] => (addRange low number ranges).reverse
  | c :: cs =>
    if c == ' ' || c == '\n' then readRangesFrom none none (addRange low number ranges) cs
    else if c == '-' then readRangesFrom number none ranges cs
    else readRangesFrom low (some (16 * number.getD 0 + digitValue c)) ranges cs

/-- The ranges that a text writes. -/
def readRanges (text : String) : List (Nat × Nat) := readRangesFrom none none [] text.toList

example : readRanges "41-5A 61-7A AA" = [(0x41, 0x5A), (0x61, 0x7A), (0xAA, 0xAA)] := by decide

end Restyle.Text
