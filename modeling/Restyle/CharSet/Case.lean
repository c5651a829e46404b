import Restyle.CharSet.Basic
import Restyle.Text.CaseFold

/-!
# Case variants of the characters of a set

## Main definitions

* `Restyle.CharSet.anyCase` — a set with all case variants of its characters added.
* `Restyle.CharSet.anyAsciiCase` — the same with the variants within ASCII only.
-/

namespace Restyle.CharSet

/-- Whether a code point lies in one of the ranges of a set. -/
def holds (s : CharSet) (n : Nat) : Bool := Text.inRanges n s.ranges

/-- A set with some code points added. -/
def insertPoints (s : CharSet) (points : List Nat) : CharSet :=
  points.foldl (fun s n => if s.holds n then s else s.insert n n) s

/-- A set with the case variants of its characters added, for pairs of a code point and its folding:
first the foldings of what it holds, and then all that has one of its characters as folding. -/
def foldWith (pairs : List (Nat × Nat)) (s : CharSet) : CharSet :=
  let folded := s.insertPoints ((pairs.filter fun p => s.holds p.1).map (·.2))
  folded.insertPoints ((pairs.filter fun p => folded.holds p.2).map (·.1))

/-- A set with all case variants of its characters added. -/
def anyCase (s : CharSet) : CharSet := s.foldWith Text.foldPairs

/-- A set with the case variants of its ASCII characters that are ASCII characters added. -/
def anyAsciiCase (s : CharSet) : CharSet :=
  s.foldWith (Text.foldPairs.filter fun p => p.1 < 128 && p.2 < 128)

/-- Whether a code point lies in a set stays true when code points are added. -/
theorem holds_insertPoints {s : CharSet} {n : Nat} (points : List Nat) (h : s.holds n) :
    (s.insertPoints points).holds n := by
  induction points generalizing s with
  | nil => exact h
  | cons p ps ih =>
    rw [insertPoints, List.foldl_cons]
    refine ih ?_
    split
    · exact h
    · rw [holds, insert, dif_pos (Nat.le_refl p)]
      show Text.inRanges n (insertRange p p s.ranges) = true
      rw [inRanges_insertRange (Nat.le_refl p) s.increasing]
      exact Bool.or_eq_true_iff.2 (.inr h)

/-- A set contains no less with its case variants. -/
theorem contains_anyCase_of_contains {s : CharSet} {c : Char} (h : s.contains c) :
    s.anyCase.contains c :=
  holds_insertPoints _ (holds_insertPoints _ h)

end Restyle.CharSet
