import Restyle.Pattern.Course
import Restyle.Pattern.Shape

/-!
# Matching a shape at all places of a text

The preferred match of a shape at a place is settled by what the shape does there and by the
preferred trails from the places behind it. Therefore the text is swept from its end to its
beginning, and at each place the course of every part of the shape is found from the courses at the
place before in the sweep. All that a part has to remember is its *memo*: the trails of the ways
through it that have begun behind the present place and have not come to its beginning. The time of
a sweep grows with the length of the text times the size of the shape.

A round of a repetition that takes no text ends the repetition: going round again would lead back
to the same place.

## Main definitions

* `Restyle.Shape.Memo`, `Restyle.Shape.memo` — what a shape has to remember, and its beginning.
* `Restyle.Shape.visit` — the course of a shape at a place, and the next memo.
* `Restyle.Match`, `Restyle.Shape.matchesAt` — the preferred match at each place of a text.
-/

namespace Restyle

/-- The course of going on or of stopping, in the order of preference. -/
def Preference.order (p : Preference) (goOn stop : Course) : Course :=
  match p with
  | .more => goOn.orElse stop
  | .fewer => stop.orElse goOn

/-- A text that the sweep has entered from behind: the characters that it has not passed, the last
one first, and the trail from the end of the text. -/
structure Pending where
  behind : List Char
  onward : Trail

/-- The memos of the rounds of a repetition with a fixed number of rounds. The last rounds are
listed, the last one first. As many as `more` rounds are before them, whose memos do not differ. -/
structure Rounds (M : Type) where
  listed : List M
  more : Nat
  further : M

namespace Rounds

/-- The memos of `n` rounds at the end of a text. If a round can take no text, the trails of all
rounds can differ at once. -/
def ofNat {M : Type} (n : Nat) (memo : M) (canBeEmpty : Bool) : Rounds M :=
  if canBeEmpty then ⟨List.replicate n memo, 0, memo⟩ else ⟨[], n, memo⟩

/-- The course of all rounds at a place, and their next memos, given what a round does. Each round
is changed by `around` when it is put before the rounds that follow it. -/
def visit {M : Type} (round : M → Course × (Option Trail → M)) (around : Course → Course)
    (r : Rounds M) : Course × (Option Trail → Rounds M) :=
  let (after, passed) := r.listed.foldl (fun (after, passed) m =>
    let (w, next) := round m
    (around (w.andThen after), (after, next) :: passed)) (Course.stay, [])
  let relist (onward : Option Trail) (last : List M) : List M :=
    passed.foldl (fun listed (after, next) => next (after.finish onward) :: listed) last
  match r.more with
  | 0 => (after, fun onward => { r with listed := relist onward [] })
  | n + 1 =>
    let (w, next) := round r.further
    let all := around (w.andThen after)
    (all, fun onward =>
      ⟨relist onward [next (after.finish onward)], n, next (all.finish onward)⟩)

end Rounds

namespace Shape

/-- What a shape has to remember at a place about the places behind it. -/
def Memo : Shape → Type
  | empty | anchor _ => Unit
  | literal _ => List Char × List Pending
  | one _ => Option Trail
  | seq a b | alt a b => a.Memo × b.Memo
  | group _ body => body.Memo
  | repeated body _ none _ => Rounds body.Memo × body.Memo
  | repeated body _ (some _) _ => Rounds body.Memo × Rounds body.Memo

/-- The memo at the end of a text. -/
def memo : (x : Shape) → x.Memo
  | empty | anchor _ => ()
  | literal text => (text.reverse, [])
  | one _ => none
  | seq a b | alt a b => (a.memo, b.memo)
  | group _ body => body.memo
  | repeated body least none _ => (.ofNat (least - 1) body.memo body.canBeEmpty, body.memo)
  | repeated body least (some most) _ =>
    (.ofNat least body.memo body.canBeEmpty, .ofNat (most - least) body.memo body.canBeEmpty)

/-- Passes the character `c` from behind. -/
def pass (c : Char) (pending : List Pending) : List Pending :=
  pending.filterMap fun p =>
    match p.behind with
    | d :: ds => if d == c then some { p with behind := ds } else none
    | [] => none

/-- The course of a given text, and its next memo. -/
def visitLiteral (rest : List Char) (behind : List Char) (pending : List Pending) :
    Course × (Option Trail → List Char × List Pending) :=
  let passed :=
    match rest with
    | [] => []
    | c :: _ => pass c pending
  (.taking ((passed.find? (·.behind.isEmpty)).map (·.onward)), fun onward =>
    (behind,
      match onward with
      | some t => ⟨behind, t⟩ :: passed
      | none => passed))

/-- The course of a shape at a place, and the memo for the next place, given the trail of what
follows the shape. -/
def visit : (x : Shape) → TextPlace → x.Memo → Course × (Option Trail → x.Memo)
  | empty, _, _ => (.stay, fun _ => ())
  | literal _, p, (behind, pending) => visitLiteral p.rest behind pending
  | one set, p, onward =>
    (.taking (if onward.isSome && p.rest.head?.any set.contains then onward else none), id)
  | anchor a, p, _ => (if a.holds p.before p.rest then .stay else .blocked, fun _ => ())
  | seq a b, p, (m, n) =>
    let (w, nextA) := a.visit p m
    let (v, nextB) := b.visit p n
    (w.andThen v, fun onward => (nextA (v.finish onward), nextB onward))
  | alt a b, p, (m, n) =>
    let (w, nextA) := a.visit p m
    let (v, nextB) := b.visit p n
    (w.orElse v, fun onward => (nextA onward, nextB onward))
  | group i body, p, m =>
    let (w, next) := body.visit p m
    let closing : Mark := ⟨i, false, p.rest, p.left⟩
    (w.inGroup ⟨i, true, p.rest, p.left⟩ closing, fun onward =>
      next (onward.map (.after [closing])))
  | repeated body least none preference, p, (rounds, m) =>
    let (w, next) := body.visit p m
    let loop := if least = 0 then preference.order w .stay else w
    let again (onward : Option Trail) : body.Memo :=
      next (match preference with
        | .more => w.progress.or onward
        | .fewer => onward.or w.progress)
    if least ≤ 1 then (loop, fun onward => (rounds, again onward))
    else
      let (v, nextRounds) := rounds.visit (body.visit p) id
      (v.andThen loop, fun onward => (nextRounds (loop.finish onward), again onward))
  | repeated body _ (some _) preference, p, (required, optional) =>
    let (w, nextRequired) := required.visit (body.visit p) id
    let (v, nextOptional) := optional.visit (body.visit p) (preference.order · .stay)
    (w.andThen v, fun onward => (nextRequired (v.finish onward), nextOptional onward))

end Shape

/-- A match: the first `length` characters of `start`, with the boundaries of groups in it. -/
structure Match where
  start : List Char
  length : Nat
  marks : List Mark

namespace Match

/-- The match that a trail from a place makes. -/
def along (p : TextPlace) (t : Trail) : Match := ⟨p.rest, p.left - t.left, t.marks⟩

/-- The text of a match. -/
def text (m : Match) : List Char := m.start.take m.length

/-- The last boundary of a group in a match, on either side. -/
def lastMark? (m : Match) (index : Nat) (opens : Bool) : Option Mark :=
  m.marks.foldl (fun last k => if k.group == index && k.opens == opens then some k else last) none

/-- The text that group `index` took last, group `0` being the whole match. -/
def group? (m : Match) (index : Nat) : Option (List Char) :=
  if index = 0 then some m.text
  else
    match m.lastMark? index true, m.lastMark? index false with
    | some opening, some closing => some (opening.rest.take (opening.left - closing.left))
    | _, _ => none

end Match

namespace Shape

/-- The preferred matches at the places from the beginning of a text on, given those after a place,
the text before that place, last character first, and the memo there. -/
def matchesBefore (x : Shape) (rest : List Char) (left : Nat) (m : x.Memo)
    (found : List (Option Match)) (before : List Char) : List (Option Match) :=
  let p : TextPlace := ⟨before.head?, rest, left⟩
  let (w, next) := x.visit p m
  let ends : Option Trail := some ⟨[], left⟩
  let found := (w.finish ends).map (.along p) :: found
  match before with
  | [] => found
  | c :: before => matchesBefore x (c :: rest) (left + 1) (next ends) found before

/-- The preferred match at each place of a text, if there is one, from the place before the first
character to the place behind the last one. -/
def matchesAt (x : Shape) (text : List Char) : List (Option Match) :=
  x.matchesBefore [] 0 x.memo [] text.reverse

end Shape

end Restyle
