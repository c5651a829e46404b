/-!
# Styled text

A piece of text may have a colour and be bold or dim. On a terminal with colours it is wrapped in
control sequences, first the colour and then the attributes; otherwise it is plain.

## Main definitions

* `Restyle.Colour`, `Restyle.Style`, `Restyle.Style.apply`.

## Main results

* `Restyle.Style.apply_eq` — a piece of text in a style between its control sequences.
-/

namespace Restyle

/-- The colours in use. -/
inductive Colour where
  | red
  | green
  | yellow
  | cyan
  | white
  deriving DecidableEq

/-- The control sequence that a number makes. -/
def controlSequence (n : Nat) : String := "\x1b[" ++ toString n ++ "m"

/-- The number of a colour in a control sequence. -/
def Colour.code : Colour → Nat
  | red => 31
  | green => 32
  | yellow => 33
  | cyan => 36
  | white => 37

/-- How a piece of text looks. -/
structure Style where
  colour : Option Colour
  bold : Bool
  dim : Bool

namespace Style

/-- Text in a colour. -/
def coloured (c : Colour) : Style := ⟨some c, false, false⟩

/-- Bold text in a colour. -/
def strong (c : Colour) : Style := ⟨some c, true, false⟩

/-- Dim text. -/
def faint : Style := ⟨none, false, true⟩

/-- The numbers of the control sequences of a style, in order. -/
def codes (s : Style) : List Nat :=
  (s.colour.map Colour.code).toList ++ (if s.bold then [1] else []) ++ (if s.dim then [2] else [])

/-- A piece of text in a style, if there are colours. -/
def apply (s : Style) (colours : Bool) (text : String) : String :=
  if !colours || s.codes.isEmpty then text
  else String.join (s.codes.map controlSequence) ++ text ++ controlSequence 0

theorem apply_false (s : Style) (text : String) : s.apply false text = text := rfl

/-- A piece of text in a style stands between the control sequences that begin the style and the one
that ends it. -/
theorem apply_eq {s : Style} {opening : String} (hcodes : s.codes ≠ [])
    (hopening : String.join (s.codes.map controlSequence) = opening) (colours : Bool)
    (text : String) :
    s.apply colours text = if colours then opening ++ text ++ "\x1b[0m" else text := by
  cases colours with
  | false => rfl
  | true =>
    have hempty : s.codes.isEmpty = false := List.isEmpty_eq_false_iff.2 hcodes
    have hending : controlSequence 0 = "\x1b[0m" := rfl
    simp [apply, hempty, hopening, hending]

end Style

end Restyle
