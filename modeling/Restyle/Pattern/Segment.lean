import Restyle.Pattern.Sweep

/-!
# The matches in a text

A text falls into segments: matches of a shape, which do not overlap and of which each begins as
far left as possible, and the characters kept between them. A match may be empty, but not directly
behind another match.

## Main definitions

* `Restyle.Segment`.
* `Restyle.Shape.segments` — the segments of a text.
* `Restyle.Shape.replaceAll` — a text with every match replaced.
* `Restyle.Shape.matchesIn` — the matches in a text.
-/

namespace Restyle

/-- A part of a text: a character that belongs to no match, or a match. -/
inductive Segment where
  | kept (c : Char)
  | found (m : Match)

namespace Segment

/-- The text that a segment takes the place of. -/
def text : Segment → List Char
  | kept c => [c]
  | found m => m.text

/-- The text of a segment after its match, if it is one, is replaced. -/
def replaced (f : Match → List Char) : Segment → List Char
  | kept c => [c]
  | found m => f m

/-- The match of a segment, if it is one. -/
def match? : Segment → Option Match
  | kept _ => none
  | found m => some m

/-- The segments of a text after those in `done`, the last one first, given the preferred matches at
its places. The next `skipped` places lie inside a match, and `behindMatch` tells whether a match
ends at the place after them. -/
def choose (skipped : Nat) (behindMatch : Bool) (text : List Char) (done : List Segment) :
    List (Option Match) → List Segment
  | [] => done.reverse
  | at? :: later =>
    match skipped, at?, text with
    | n + 1, _, text => choose n behindMatch (text.drop 1) done later
    | 0, some m, text =>
      match m.length, text with
      | n + 1, text => choose n true (text.drop 1) (found m :: done) later
      | 0, [] => (if behindMatch then done else found m :: done).reverse
      | 0, c :: cs =>
        choose 0 false cs (kept c :: if behindMatch then done else found m :: done) later
    | 0, none, [] => done.reverse
    | 0, none, c :: cs => choose 0 false cs (kept c :: done) later

end Segment

/-- The text behind the first place where a part stands in it, if there is one. -/
def textBehind? (part : List Char) : List Char → Option (List Char)
  | [] => if part.isEmpty then some [] else none
  | c :: cs =>
    if part.isPrefixOf (c :: cs) then some ((c :: cs).drop part.length) else textBehind? part cs

theorem exists_append_of_textBehind? {part rest : List Char} : ∀ {text : List Char},
    textBehind? part text = some rest → ∃ before, text = before ++ (part ++ rest)
  | [], h => by
    cases part with
    | nil => exact ⟨[], by simpa [textBehind?] using h⟩
    | cons d ds => simp [textBehind?] at h
  | c :: cs, h => by
    unfold textBehind? at h
    split at h
    · next hp =>
      have hp := List.prefix_iff_eq_append.1 (List.isPrefixOf_iff_prefix.1 hp)
      rw [Option.some.inj h] at hp
      exact ⟨[], hp.symm⟩
    · obtain ⟨before, h⟩ := exists_append_of_textBehind? h
      exact ⟨c :: before, by rw [h]; rfl⟩

/-- Whether parts stand in a text, one after another. -/
def standInOrder : List (List Char) → List Char → Bool
  | [], _ => true
  | part :: parts, text =>
    match textBehind? part text with
    | some rest => standInOrder parts rest
    | none => false

namespace Shape

/-- The segments of a text. Where the texts that stand in every match do not, there is no match to
look for. -/
def segments (x : Shape) (text : List Char) : List Segment :=
  if standInOrder x.landmarks text then Segment.choose 0 false text [] (x.matchesAt text)
  else text.map .kept

/-- The matches in a text, from left to right. -/
def matchesIn (x : Shape) (text : List Char) : List Match :=
  (x.segments text).filterMap Segment.match?

/-- A text with every match replaced. -/
def replaceAll (x : Shape) (f : Match → List Char) (text : List Char) : List Char :=
  (x.segments text).flatMap (·.replaced f)

end Shape

end Restyle
