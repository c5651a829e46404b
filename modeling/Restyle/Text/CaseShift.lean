/-!
# Maps between letter cases given by shifts of code points

A map between the cases of letters is given by *shifts*: runs of code points, evenly spaced, that
all move by the same distance. A code point of no run stays where it is.

## Main definitions

* `Restyle.Text.CaseShift`, `Restyle.Text.CaseShift.applies`.
* `Restyle.Text.shifted` — the code point that a list of shifts sends a code point to.
* `Restyle.Text.movements` — the code points that a list of shifts moves, and where to.
-/

namespace Restyle.Text

/-- The code points `first`, `first + step`, …, `last`, each of which moves by `distance`. -/
structure CaseShift where
  first : Nat
  last : Nat
  step : Nat
  distance : Int

namespace CaseShift

/-- Whether a code point is one of those that a shift moves. -/
def applies (s : CaseShift) (n : Nat) : Bool :=
  s.first ≤ n && n ≤ s.last && (n - s.first) % s.step == 0

/-- The code point that `s` would move `n` to. -/
def target (s : CaseShift) (n : Nat) : Nat := (Int.ofNat n + s.distance).toNat

/-- The code points that a shift moves, each with the one that it is moved to. -/
def movements (s : CaseShift) : List (Nat × Nat) :=
  (List.range ((s.last - s.first) / s.step + 1)).map fun i =>
    let n := s.first + s.step * i
    (n, s.target n)

end CaseShift

/-- The code point that the first applicable shift sends `n` to, or `n` if none applies. -/
def shifted (shifts : List CaseShift) (n : Nat) : Nat :=
  match shifts.find? (·.applies n) with
  | some s => s.target n
  | none => n

/-- The code points that a list of shifts moves, each with the one that it is moved to. -/
def movements (shifts : List CaseShift) : List (Nat × Nat) := shifts.flatMap CaseShift.movements

end Restyle.Text
