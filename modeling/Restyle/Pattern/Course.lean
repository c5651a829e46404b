/-!
# Ways on from a place

A *trail* is a way from a place in a text to the end of a match, with the boundaries of groups that
are passed on it. At each place the preferred trail matters only, if there is one. What a shape
does at a place is its *course*: either it takes text, and then the trail from there on is settled,
or it takes none, and then the trail depends on what follows the shape. Of the ways that take none
the most preferred one matters only, since all of them lead to the same place. So a course has
three parts: the preferred trail among the ways before it, that way, and the preferred trail among
the ways after it.

## Main definitions

* `Restyle.TextPlace`, `Restyle.Mark`, `Restyle.Trail`.
* `Restyle.Course`, `Restyle.Course.finish` — the preferred trail when it is known what follows.
* `Restyle.Course.orElse`, `Restyle.Course.andThen` — one course or another, and one after another.

## Main results

* `Restyle.Course.finish_orElse`, `Restyle.Course.finish_andThen` — which trails they prefer.
-/

namespace Restyle

/-- A place in a text: the character before it, if there is one, the text that follows it, and how
many characters these are. -/
structure TextPlace where
  before : Option Char
  rest : List Char
  left : Nat

/-- A boundary of a group on the way: the number of the group, whether it begins there, the text
that follows the boundary, and how many characters these are. -/
structure Mark where
  group : Nat
  opens : Bool
  rest : List Char
  left : Nat

/-- A way to the end of a match: the boundaries of groups on it, in order, and how many characters
follow the end. -/
structure Trail where
  marks : List Mark
  left : Nat

namespace Trail

/-- A trail after the boundaries of groups that are passed before it. -/
def after (marks : List Mark) (t : Trail) : Trail := { t with marks := marks ++ t.marks }

@[simp] theorem after_nil (t : Trail) : t.after [] = t := rfl

theorem after_after (first second : List Mark) (t : Trail) :
    (t.after second).after first = t.after (first ++ second) := by
  simp [after, List.append_assoc]

end Trail

/-- What a shape does at a place: the preferred trail among the ways that are preferred to the way
that takes no text, the boundaries of groups on that way, if there is one, and the preferred trail
among the other ways. -/
structure Course where
  early : Option Trail
  still : Option (List Mark)
  late : Option Trail

namespace Course

/-- No way on. -/
def blocked : Course := ⟨none, none, none⟩

/-- Taking no text. -/
def stay : Course := ⟨none, some [], none⟩

/-- Taking text, with a settled trail if there is one. -/
def taking (t : Option Trail) : Course := ⟨t, none, none⟩

/-- The preferred trail when `onward` is the trail of what follows. -/
def finish (w : Course) (onward : Option Trail) : Option Trail :=
  w.early.or ((w.still.bind fun marks => onward.map (.after marks)).or w.late)

/-- The preferred trail among the ways that take text. -/
def progress (w : Course) : Option Trail := w.early.or w.late

/-- The ways of a course, and after them those of another. -/
def orElse (w v : Course) : Course :=
  match w.still with
  | some marks => ⟨w.early, some marks, w.late.or (v.early.or v.late)⟩
  | none => ⟨w.early.or (w.late.or v.early), v.still, v.late⟩

/-- The ways of a course, each continued by those of another. -/
def andThen (w v : Course) : Course :=
  match w.still with
  | some marks =>
    ⟨w.early.or (v.early.map (.after marks)), v.still.map (marks ++ ·),
      (v.late.map (.after marks)).or w.late⟩
  | none => ⟨w.early.or w.late, none, none⟩

/-- A course between the boundaries of a group. -/
def inGroup (opening closing : Mark) (w : Course) : Course :=
  ⟨w.early.map (.after [opening]), w.still.map fun marks => opening :: marks ++ [closing],
    w.late.map (.after [opening])⟩

@[simp] theorem finish_blocked (onward : Option Trail) : blocked.finish onward = none := rfl

@[simp] theorem finish_stay (onward : Option Trail) : stay.finish onward = onward := by
  cases onward <;> rfl

@[simp] theorem finish_taking (t onward : Option Trail) : (taking t).finish onward = t := by
  cases t <;> rfl

/-- Of two courses the first one is preferred. -/
theorem finish_orElse (w v : Course) (onward : Option Trail) :
    (w.orElse v).finish onward = (w.finish onward).or (v.finish onward) := by
  obtain ⟨e, s, l⟩ := w
  obtain ⟨e', s', l'⟩ := v
  cases e <;> cases s <;> cases l <;> cases e' <;> cases s' <;> cases l' <;> cases onward <;> rfl

/-- A course that is continued leads where its ways lead when what follows is the other course. -/
theorem finish_andThen (w v : Course) (onward : Option Trail) :
    (w.andThen v).finish onward =
      w.early.or ((w.still.bind fun marks => (v.finish onward).map (.after marks)).or w.late) := by
  obtain ⟨e, s, l⟩ := w
  obtain ⟨e', s', l'⟩ := v
  cases e <;> cases s <;> cases l <;> cases e' <;> cases s' <;> cases l' <;> cases onward <;>
    simp [andThen, finish, Trail.after, List.append_assoc]

end Course

end Restyle
