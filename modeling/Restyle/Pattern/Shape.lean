import Restyle.Pattern.Anchor

/-!
# Shapes of text

A *shape* says what a stretch of text may look like: a given text, a character of a set, shapes in
sequence, alternatives in order of preference, repetitions that prefer more or fewer rounds, groups
whose text is remembered, and anchors.

Shapes are built by functions that keep them in a simple form: sequences and choices are chains that
lean to the right, neighbouring texts are one text, alternatives that are single characters are one
set, and what all alternatives begin with stands before them. The last rule decides which of several
matches is preferred: the common beginning is chosen before the alternative.

## Main definitions

* `Restyle.Shape`, `Restyle.Preference`.
* `Restyle.Shape.ofSet`, `Restyle.Shape.sequence`, `Restyle.Shape.choice`,
  `Restyle.Shape.repetition` — the shapes in simple form.
* `Restyle.Shape.parts`, `Restyle.Shape.alternatives` — the links of a chain.
* `Restyle.Shape.landmarks` — texts that stand in every match of a shape.
-/

namespace Restyle

/-- Whether a repetition prefers more rounds or fewer. -/
inductive Preference where
  | more
  | fewer
  deriving DecidableEq

/-- What a stretch of text may look like. -/
inductive Shape where
  /-- no text at all -/
  | empty
  /-- a given text, which is not empty -/
  | literal (text : List Char)
  /-- one character of a set -/
  | one (set : CharSet)
  /-- a place that meets a condition -/
  | anchor (a : Anchor)
  /-- one shape after another -/
  | seq (first second : Shape)
  /-- either of two shapes, preferably the first -/
  | alt (first second : Shape)
  /-- a shape whose text is remembered under a number -/
  | group (index : Nat) (body : Shape)
  /-- a shape several times, from `least` to `most`, or without a bound -/
  | repeated (body : Shape) (least : Nat) (most : Option Nat) (preference : Preference)
  deriving DecidableEq

namespace Shape

/-- A shape without a match. -/
def never : Shape := one .empty

/-- The shape of one character of a set. -/
def ofSet (set : CharSet) : Shape :=
  match set.ranges with
  | [(low, high)] => if low = high then literal [Char.ofNat low] else one set
  | _ => one set

/-- The links of a sequence. -/
def parts : Shape → List Shape
  | empty => []
  | seq a b => a :: b.parts
  | s => [s]

/-- The sequence with given links. -/
def ofParts : List Shape → Shape
  | [] => empty
  | [s] => s
  | s :: ss => seq s (ofParts ss)

/-- Adds a shape before the links of a sequence. A text before a text is one text with it. -/
def link : Shape → List Shape → List Shape
  | literal a, literal b :: ss => literal (a ++ b) :: ss
  | s, ss => s :: ss

/-- The shapes of a list one after another. -/
def sequence (shapes : List Shape) : Shape := ofParts ((shapes.flatMap parts).foldr link [])

/-- The links of a choice. -/
def alternatives : Shape → List Shape
  | alt a b => a :: b.alternatives
  | s => [s]

/-- The choice with given links. -/
def ofAlternatives : List Shape → Shape
  | [] => never
  | [s] => s
  | s :: ss => alt s (ofAlternatives ss)

/-- The character that is the whole of a shape, if there is one. -/
def char? : Shape → Option Char
  | literal [c] => some c
  | _ => none

/-- The set that is the whole of a shape, if there is one. -/
def set? : Shape → Option CharSet
  | one set => some set
  | _ => none

/-- A choice with given links, which is one set if all links are characters or all are sets. -/
def ofWays (ways : List Shape) : Shape :=
  match ways with
  | [s] => s
  | ways =>
    match ways.mapM char?, ways.mapM set? with
    | some chars, _ => ofSet (.unionAll (chars.map .char))
    | none, some sets => ofSet (.unionAll sets)
    | none, none => ofAlternatives ways

/-- What two lists begin with. -/
def sharedStart : List Shape → List Shape → List Shape
  | a :: as, b :: bs => if a = b then a :: sharedStart as bs else []
  | _, _ => []

/-- What several sequences begin with. A shape that is no sequence shares nothing. -/
def sharedParts : List Shape → List Shape
  | seq a b :: s :: ss =>
    (s :: ss).foldl (fun shared s =>
      match s with
      | seq a b => sharedStart shared (a :: b.parts)
      | _ => []) (a :: b.parts)
  | _ => []

/-- One of the shapes of a list, the earlier ones preferred. -/
def choice (shapes : List Shape) : Shape :=
  let ways := shapes.flatMap alternatives
  match sharedParts ways with
  | [] => ofWays ways
  | shared =>
    let ends := ways.map fun s => ofParts (s.parts.drop shared.length)
    sequence (shared ++ [ofWays (ends.flatMap alternatives)])

/-- Whether a shape never takes text. -/
def takesNothing : Shape → Bool
  | empty | anchor _ => true
  | literal _ | one _ => false
  | seq a b | alt a b => a.takesNothing && b.takesNothing
  | group _ body | repeated body _ _ _ => body.takesNothing

/-- A repetition of `body`, from `least` to `most` times. Rounds that never take text count once. -/
def repetition (body : Shape) (least : Nat) (most : Option Nat) (p : Preference) : Shape :=
  let (least, most) : Nat × Option Nat :=
    if body.takesNothing then (min least 1, some (min (most.getD 1) 1)) else (least, most)
  match least, most with
  | 0, some 0 => empty
  | 1, some 1 => body
  | least, most => repeated body least most p

/-- Whether a shape can take no text. -/
def canBeEmpty : Shape → Bool
  | empty | anchor _ => true
  | literal _ | one _ => false
  | seq a b => a.canBeEmpty && b.canBeEmpty
  | alt a b => a.canBeEmpty || b.canBeEmpty
  | group _ body => body.canBeEmpty
  | repeated body least _ _ => least == 0 || body.canBeEmpty

/-- Texts that stand in every match of a shape, one after another. -/
def landmarks : Shape → List (List Char)
  | literal text => [text]
  | seq a b => a.landmarks ++ b.landmarks
  | group _ body => body.landmarks
  | repeated body least _ _ => if least = 0 then [] else body.landmarks
  | _ => []

end Shape

end Restyle
