import Mathlib.Data.List.Infix
import Restyle.Pattern.Segment

/-!
# The preferred way through a shape

The sweep of `Restyle.Pattern.Sweep` finds the preferred trail at every place of a text at once.
This file describes the same trail at one place, by trying the ways through a shape in the order of
their preference and going on from the end of each with what follows the shape. A place is given by
the text behind it. Both agree for *plain* shapes, in which only single characters are repeated
without a bound, and only shapes that take text are optional.

## Main definitions

* `Restyle.Shape.IsPlain` — the shapes for which the description is given.
* `Restyle.Shape.way` — the preferred trail from a place, given the trails of what follows.
* `Restyle.Shape.courseAt` — the course that the sweep finds at a place.

## Main results

* `Restyle.Shape.finish_courseAt` — the sweep finds the preferred way.
* `Restyle.Shape.matchesAt_eq` — the matches that the sweep finds at the places of a text.
-/

namespace Restyle

/-- What follows a shape: the preferred trail from each place. -/
abbrev Onward := List Char → Option Trail

/-- The preferred one of the trails of going on and of stopping. -/
def Preference.pick (p : Preference) (goOn stop : Option Trail) : Option Trail :=
  match p with
  | .more => goOn.or stop
  | .fewer => stop.or goOn

theorem Course.finish_order (p : Preference) (w : Course) (onward : Option Trail) :
    (p.order w .stay).finish onward = p.pick (w.finish onward) onward := by
  cases p <;> simp [Preference.order, Preference.pick, finish_orElse]

theorem Course.finish_inGroup (opening closing : Mark) (w : Course) (onward : Option Trail) :
    (w.inGroup opening closing).finish onward =
      (w.finish (onward.map (.after [closing]))).map (.after [opening]) := by
  obtain ⟨e, s, l⟩ := w
  cases e <;> cases s <;> cases l <;> cases onward <;> simp [inGroup, finish, Trail.after]

theorem Course.finish_andThen_stay (w : Course) (onward : Option Trail) :
    (w.andThen .stay).finish onward = w.finish onward := by
  rw [finish_andThen, finish_stay]
  rfl

theorem Course.finish_stay_andThen (v : Course) (onward : Option Trail) :
    (stay.andThen v).finish onward = v.finish onward := by
  rw [finish_andThen]
  cases h : v.finish onward <;> simp [stay]

namespace Shape

/-- Whether a shape is *plain*: what it repeats without a bound is one character, and what may be
left out in it takes text. -/
def isPlain : Shape → Bool
  | empty | one _ | anchor _ => true
  | literal text => !text.isEmpty
  | seq a b | alt a b => a.isPlain && b.isPlain
  | group _ body => body.isPlain
  | repeated (one _) 0 none _ | repeated (one _) 1 none _ => true
  | repeated body 0 (some 1) _ => body.isPlain && !body.canBeEmpty
  | repeated _ _ _ _ => false

/-- The preferred trail through characters of a set, as many as are taken, and what follows. -/
def run (set : CharSet) (p : Preference) (onward : Onward) : Onward
  | [] => onward []
  | c :: cs =>
    if set.contains c then p.pick (run set p onward cs) (onward (c :: cs)) else onward (c :: cs)

/-- The preferred trail through a character of a set and what follows. -/
def step (set : CharSet) (onward : Onward) : Onward
  | [] => none
  | c :: cs => if set.contains c then onward cs else none

/-- The preferred trail through a plain shape and what follows, `prior` giving the character before
each place. -/
def way (prior : List Char → Option Char) : Shape → Onward → Onward
  | empty, onward => onward
  | literal text, onward => fun rest =>
    if text.isPrefixOf rest then onward (rest.drop text.length) else none
  | one set, onward => step set onward
  | anchor a, onward => fun rest => if a.holds (prior rest) rest then onward rest else none
  | seq a b, onward => way prior a (way prior b onward)
  | alt a b, onward => fun rest => (way prior a onward rest).or (way prior b onward rest)
  | group i body, onward => fun rest =>
    (way prior body (fun r => (onward r).map (.after [⟨i, false, r, r.length⟩])) rest).map
      (.after [⟨i, true, rest, rest.length⟩])
  | repeated (one set) 0 none p, onward => run set p onward
  | repeated (one set) 1 none p, onward => step set (run set p onward)
  | repeated body 0 (some 1) p, onward => fun rest =>
    p.pick (way prior body onward rest) (onward rest)
  | repeated _ _ _ _, _ => fun _ => none

variable (prior : List Char → Option Char)

/-- The memo with which the sweep comes to a place. -/
def memoAt (x : Shape) (onward : Onward) : List Char → x.Memo
  | [] => x.memo
  | _ :: cs => (x.visit ⟨prior cs, cs, cs.length⟩ (memoAt x onward cs)).2 (onward cs)

/-- The course that the sweep finds at a place. -/
def courseAt (x : Shape) (onward : Onward) (rest : List Char) : Course :=
  (x.visit ⟨prior rest, rest, rest.length⟩ (memoAt prior x onward rest)).1

theorem way_optional (body : Shape) (p : Preference) (onward : Onward) (rest : List Char) :
    way prior (repeated body 0 (some 1) p) onward rest =
      p.pick (way prior body onward rest) (onward rest) := by
  cases body <;> rfl

/-- What a plain repetition repeats. -/
theorem isPlain_repeated {body : Shape} {least : Nat} {most : Option Nat} {p : Preference}
    (h : (repeated body least most p).isPlain) :
    (∃ set, body = one set ∧ most = none ∧ (least = 0 ∨ least = 1)) ∨
      (least = 0 ∧ most = some 1 ∧ body.isPlain ∧ body.canBeEmpty = false) := by
  unfold isPlain at h
  split at h <;> simp_all

theorem memoAt_cons (x : Shape) (onward : Onward) (c : Char) (cs : List Char) :
    memoAt prior x onward (c :: cs) =
      (x.visit ⟨prior cs, cs, cs.length⟩ (memoAt prior x onward cs)).2 (onward cs) :=
  rfl

/-! ### Given texts -/

/-- The list `l` holds the ways through a part of `text` that end where `rest` begins, for the parts
that `P` admits, with the trails from the ends of the text. -/
def HoldsPending (text : List Char) (onward : Onward) (P : List Char → Prop) (rest : List Char)
    (l : List Pending) : Prop :=
  ∀ q : Pending, q ∈ l ↔ ∃ u r, P u ∧ text = q.behind.reverse ++ u ∧ rest = u ++ r ∧
    onward r = some q.onward

theorem holdsPending_pass {text : List Char} {onward : Onward} {c : Char} {cs : List Char}
    {l : List Pending} (h : HoldsPending text onward (fun _ => True) cs l) :
    HoldsPending text onward (· ≠ []) (c :: cs) (pass c l) := by
  rintro ⟨behind, t⟩
  simp only [pass, List.mem_filterMap]
  constructor
  · rintro ⟨⟨b, t'⟩, hq, hb⟩
    obtain ⟨u, r, -, htext, hcs, hr⟩ := (h _).1 hq
    cases b with
    | nil => simp at hb
    | cons d ds =>
      by_cases hd : d = c
      · simp only [hd, beq_self_eq_true, ↓reduceIte, Option.some.injEq, Pending.mk.injEq] at hb
        obtain ⟨rfl, rfl⟩ := hb
        exact ⟨c :: u, r, by simp, by simp [htext, hd], by simp [hcs], hr⟩
      · simp [hd] at hb
  · rintro ⟨u, r, hu, htext, hcs, hr⟩
    cases u with
    | nil => exact absurd rfl hu
    | cons d u =>
      obtain ⟨rfl, rfl⟩ : c = d ∧ cs = u ++ r := by simpa using hcs
      refine ⟨⟨c :: behind, t⟩, (h _).2 ⟨u, r, trivial, by simp [htext], rfl, hr⟩, by simp⟩

theorem holdsPending_add {text : List Char} {onward : Onward} {rest : List Char}
    {l : List Pending} (h : HoldsPending text onward (· ≠ []) rest l) :
    HoldsPending text onward (fun _ => True) rest
      (match onward rest with
        | some t => ⟨text.reverse, t⟩ :: l
        | none => l) := by
  intro q
  constructor
  · intro hq
    cases ht : onward rest with
    | none =>
      rw [ht] at hq
      obtain ⟨u, r, -, hur⟩ := (h q).1 hq
      exact ⟨u, r, trivial, hur⟩
    | some t =>
      rw [ht] at hq
      rcases List.mem_cons.1 hq with rfl | hq
      · exact ⟨[], rest, trivial, by simp, rfl, ht⟩
      · obtain ⟨u, r, -, hur⟩ := (h q).1 hq
        exact ⟨u, r, trivial, hur⟩
  · rintro ⟨u, r, -, htext, hrest, hr⟩
    cases u with
    | nil =>
      obtain rfl : rest = r := hrest
      have hb : q.behind = text.reverse := by rw [htext]; simp
      rw [hr]
      exact List.mem_cons.2 (.inl (by rw [← hb]))
    | cons d u =>
      have hq := (h q).2 ⟨d :: u, r, by simp, htext, hrest, hr⟩
      cases onward rest with
      | none => exact hq
      | some t => exact List.mem_cons_of_mem _ hq

/-- The way through a whole given text is among those that are pending. -/
theorem find_pending {text : List Char} (htext : text ≠ []) {onward : Onward} {rest : List Char}
    {l : List Pending} (h : HoldsPending text onward (· ≠ []) rest l) :
    (l.find? (·.behind.isEmpty)).map (·.onward) =
      if text.isPrefixOf rest then onward (rest.drop text.length) else none := by
  cases hf : l.find? (·.behind.isEmpty) with
  | some q =>
    obtain ⟨u, r, -, hu, hrest, hr⟩ := (h q).1 (List.mem_of_find?_eq_some hf)
    have hb : q.behind = [] := by simpa using List.find?_some hf
    obtain rfl : text = u := by simpa [hb] using hu
    subst hrest
    simp [hr]
  | none =>
    split
    · next hp =>
      obtain ⟨r, rfl⟩ := List.isPrefixOf_iff_prefix.1 hp
      cases hr : onward r with
      | none => simp [hr]
      | some t =>
        have hq := (h ⟨[], t⟩).2 ⟨text, r, htext, by simp, rfl, hr⟩
        exact absurd (List.find?_eq_none.1 hf _ hq) (by simp)
    · rfl

theorem exists_memoAt_literal (text : List Char) (onward : Onward) : ∀ rest : List Char,
    ∃ l, memoAt prior (literal text) onward rest = (text.reverse, l) ∧
      HoldsPending text onward (· ≠ []) rest
        (match rest with
          | [] => []
          | c :: _ => pass c l)
  | [] => by
    refine ⟨[], rfl, fun q => ⟨fun h => absurd h (by simp), ?_⟩⟩
    rintro ⟨u, r, hu, -, hrest, -⟩
    exact absurd (List.append_eq_nil_iff.1 hrest.symm).1 hu
  | c :: cs => by
    obtain ⟨l, hl, hpend⟩ := exists_memoAt_literal text onward cs
    refine ⟨_, ?_, holdsPending_pass (holdsPending_add hpend)⟩
    rw [memoAt_cons, hl]
    rfl

theorem finish_courseAt_literal {text : List Char} (htext : text ≠ []) (onward : Onward)
    (rest : List Char) :
    (courseAt prior (literal text) onward rest).finish (onward rest) =
      way prior (literal text) onward rest := by
  obtain ⟨l, hl, hpend⟩ := exists_memoAt_literal prior text onward rest
  rw [courseAt, hl]
  simp only [visit, visitLiteral, Course.finish_taking, way]
  exact find_pending htext hpend

/-! ### Single characters and their repetitions -/

theorem memoAt_one (set : CharSet) (onward : Onward) : ∀ rest : List Char,
    memoAt prior (one set) onward rest = rest.tail?.bind onward
  | [] => rfl
  | _ :: _ => rfl

theorem courseAt_one (set : CharSet) (onward : Onward) (rest : List Char) :
    courseAt prior (one set) onward rest = .taking (step set onward rest) := by
  rw [courseAt, memoAt_one]
  cases rest with
  | nil => rfl
  | cons c cs => cases h : onward cs <;> simp [visit, step, h]

theorem run_eq_pick (set : CharSet) (p : Preference) (onward : Onward) (rest : List Char) :
    run set p onward rest = p.pick (step set (run set p onward) rest) (onward rest) := by
  cases rest with
  | nil => cases p <;> simp [run, step, Preference.pick]
  | cons c cs =>
    rw [run, step]
    split
    · rfl
    · cases p <;> simp [Preference.pick]

/-- What the sweep does with a repeated character at a place. -/
theorem visit_repeated (set : CharSet) {least : Nat} (hleast : least ≤ 1) (p : Preference)
    (place : TextPlace) (rounds : Rounds (one set).Memo) (m : (one set).Memo) :
    (repeated (one set) least none p).visit place (rounds, m) =
      let w := ((one set).visit place m).1
      (if least = 0 then p.order w .stay else w, fun onward =>
        (rounds, p.pick w.progress onward)) := by
  obtain rfl | rfl : least = 0 ∨ least = 1 := by omega
  all_goals cases p <;> rfl

/-- The sweep remembers of a repeated character the trails of its repetition. -/
theorem memoAt_repeated (set : CharSet) {least : Nat} (hleast : least ≤ 1) (p : Preference)
    (onward : Onward) : ∀ rest : List Char,
    memoAt prior (repeated (one set) least none p) onward rest =
      (.ofNat (least - 1) (one set).memo false, memoAt prior (one set) (run set p onward) rest)
  | [] => rfl
  | c :: cs => by
    have hw : (courseAt prior (one set) (run set p onward) cs).progress =
        step set (run set p onward) cs := by
      rw [courseAt_one]
      simp [Course.progress, Course.taking]
    rw [memoAt_cons, memoAt_repeated set hleast p onward cs, visit_repeated set hleast]
    change (_, p.pick (courseAt prior (one set) (run set p onward) cs).progress (onward cs)) = _
    rw [hw, ← run_eq_pick, memoAt_one]
    rfl

theorem finish_courseAt_repeated (set : CharSet) {least : Nat} (hleast : least = 0 ∨ least = 1)
    (p : Preference) (onward : Onward) (rest : List Char) :
    (courseAt prior (repeated (one set) least none p) onward rest).finish (onward rest) =
      way prior (repeated (one set) least none p) onward rest := by
  have hw := courseAt_one prior set (run set p onward) rest
  rw [courseAt] at hw
  rcases hleast with rfl | rfl
  · rw [courseAt, memoAt_repeated prior set (Nat.zero_le 1), visit_repeated set (Nat.zero_le 1)]
    simp only [↓reduceIte, hw, Course.finish_order, Course.finish_taking]
    exact (run_eq_pick set p onward rest).symm
  · rw [courseAt, memoAt_repeated prior set (Nat.le_refl 1), visit_repeated set (Nat.le_refl 1)]
    simp only [Nat.one_ne_zero, ↓reduceIte, hw, Course.finish_taking]
    rfl

/-! ### Shapes made of shapes -/

section Composite

variable {a b body : Shape}

theorem memoAt_seq (hb : ∀ onward rest,
      (courseAt prior b onward rest).finish (onward rest) = way prior b onward rest)
    (onward : Onward) : ∀ rest : List Char,
    memoAt prior (seq a b) onward rest =
      (memoAt prior a (way prior b onward) rest, memoAt prior b onward rest)
  | [] => rfl
  | c :: cs => by
    rw [memoAt_cons, memoAt_seq hb onward cs, memoAt_cons, memoAt_cons, ← hb onward cs]
    rfl

theorem memoAt_alt (onward : Onward) : ∀ rest : List Char,
    memoAt prior (alt a b) onward rest = (memoAt prior a onward rest, memoAt prior b onward rest)
  | [] => rfl
  | c :: cs => by
    rw [memoAt_cons, memoAt_alt onward cs, memoAt_cons, memoAt_cons]
    rfl

theorem memoAt_group (i : Nat) (onward : Onward) : ∀ rest : List Char,
    memoAt prior (group i body) onward rest =
      memoAt prior body (fun r => (onward r).map (.after [⟨i, false, r, r.length⟩])) rest
  | [] => rfl
  | c :: cs => by
    rw [memoAt_cons, memoAt_group i onward cs, memoAt_cons]
    rfl

/-- Whether or not its memo is listed already, the only round that is left is visited in the same
way. -/
theorem visit_onlyRound {M : Type} (round : M → Course × (Option Trail → M))
    (around : Course → Course) {rounds : Rounds M} {m : M}
    (h : rounds = ⟨[], 1, m⟩ ∨ ∃ m', rounds = ⟨[m], 0, m'⟩) :
    (rounds.visit round around).1 = around ((round m).1.andThen .stay) ∧
      ∀ onward, ∃ m', (rounds.visit round around).2 onward = ⟨[(round m).2 onward], 0, m'⟩ := by
  have hstay (onward : Option Trail) : Course.stay.finish onward = onward :=
    Course.finish_stay onward
  rcases h with rfl | ⟨m', rfl⟩
  · refine ⟨rfl,
      fun onward => ⟨(round m).2 ((around ((round m).1.andThen .stay)).finish onward), ?_⟩⟩
    change (⟨[(round m).2 (Course.stay.finish onward)], 0, _⟩ : Rounds M) = _
    rw [hstay]
  · refine ⟨rfl, fun onward => ⟨m', ?_⟩⟩
    change (⟨[(round m).2 (Course.stay.finish onward)], 0, _⟩ : Rounds M) = _
    rw [hstay]

/-- What the sweep remembers of a shape that may be left out is what it remembers of the shape, as
that of the only round. -/
theorem exists_memoAt_optional (hbody : body.canBeEmpty = false) (p : Preference)
    (onward : Onward) : ∀ rest : List Char,
    ∃ rounds m, memoAt prior (repeated body 0 (some 1) p) onward rest = (⟨[], 0, m⟩, rounds) ∧
      (rounds = ⟨[], 1, memoAt prior body onward rest⟩ ∨
        ∃ m', rounds = ⟨[memoAt prior body onward rest], 0, m'⟩)
  | [] => by
    refine ⟨⟨[], 1, body.memo⟩, body.memo, ?_, .inl rfl⟩
    rw [memoAt, memo]
    simp only [Rounds.ofNat, hbody]
    rfl
  | c :: cs => by
    obtain ⟨rounds, m, hmemo, hrounds⟩ := exists_memoAt_optional hbody p onward cs
    obtain ⟨m', hnext⟩ := (visit_onlyRound (body.visit ⟨prior cs, cs, cs.length⟩)
      (p.order · .stay) hrounds).2 (onward cs)
    refine ⟨_, m, ?_, .inr ⟨m', hnext⟩⟩
    rw [memoAt_cons, hmemo]
    rfl

theorem finish_courseAt_optional (hempty : body.canBeEmpty = false)
    (hbody : ∀ onward rest,
      (courseAt prior body onward rest).finish (onward rest) = way prior body onward rest)
    (p : Preference) (onward : Onward) (rest : List Char) :
    (courseAt prior (repeated body 0 (some 1) p) onward rest).finish (onward rest) =
      way prior (repeated body 0 (some 1) p) onward rest := by
  obtain ⟨rounds, m, hmemo, hrounds⟩ := exists_memoAt_optional prior hempty p onward rest
  have hvisit := (visit_onlyRound (body.visit ⟨prior rest, rest, rest.length⟩)
    (p.order · .stay) hrounds).1
  rw [courseAt, hmemo, way_optional, ← hbody onward rest]
  change (Course.stay.andThen (rounds.visit (body.visit ⟨prior rest, rest, rest.length⟩)
    (p.order · .stay)).1).finish (onward rest) = _
  rw [hvisit, Course.finish_stay_andThen, Course.finish_order, Course.finish_andThen_stay]
  rfl

end Composite

/-! ### All plain shapes -/

/-- **The sweep finds the preferred way.** At every place the course that the sweep finds for a
plain shape leads where the preferred way through the shape leads. -/
theorem finish_courseAt : ∀ {x : Shape}, x.isPlain → ∀ (onward : Onward) (rest : List Char),
    (courseAt prior x onward rest).finish (onward rest) = way prior x onward rest
  | empty, _, onward, rest => Course.finish_stay (onward rest)
  | literal text, hx, onward, rest =>
    finish_courseAt_literal prior (by simpa [isPlain] using hx) onward rest
  | one set, _, onward, rest => by
    rw [courseAt_one, Course.finish_taking]
    rfl
  | anchor a, _, onward, rest => by
    change (if a.holds (prior rest) rest then Course.stay else .blocked).finish _ = _
    simp only [way]
    split
    · exact Course.finish_stay _
    · rfl
  | seq a b, hx, onward, rest => by
    obtain ⟨ha, hb⟩ : a.isPlain ∧ b.isPlain := by simpa [isPlain] using hx
    have hb := finish_courseAt hb
    rw [courseAt, memoAt_seq prior hb]
    change ((courseAt prior a (way prior b onward) rest).andThen
      (courseAt prior b onward rest)).finish (onward rest) = _
    rw [Course.finish_andThen, hb]
    exact finish_courseAt ha (way prior b onward) rest
  | alt a b, hx, onward, rest => by
    obtain ⟨ha, hb⟩ : a.isPlain ∧ b.isPlain := by simpa [isPlain] using hx
    rw [courseAt, memoAt_alt]
    change ((courseAt prior a onward rest).orElse
      (courseAt prior b onward rest)).finish (onward rest) = _
    rw [Course.finish_orElse, finish_courseAt ha, finish_courseAt hb, way]
  | group i body, hx, onward, rest => by
    rw [courseAt, memoAt_group]
    change ((courseAt prior body _ rest).inGroup ⟨i, true, rest, rest.length⟩
      ⟨i, false, rest, rest.length⟩).finish (onward rest) = _
    rw [Course.finish_inGroup, way]
    exact congrArg (Option.map _) (finish_courseAt (x := body) hx _ rest)
  | repeated body least most p, hx, onward, rest => by
    rcases isPlain_repeated hx with ⟨set, rfl, rfl, hleast⟩ | ⟨rfl, rfl, hbody, hempty⟩
    · exact finish_courseAt_repeated prior set hleast p onward rest
    · exact finish_courseAt_optional prior hempty (finish_courseAt hbody) p onward rest

/-! ### The matches at the places of a text -/

/-- Nothing follows a match: the trail from its end is the end. -/
def ends : Onward := fun rest => some ⟨[], rest.length⟩

/-- The preferred match at a place, if there is one. -/
def found? (x : Shape) (rest : List Char) : Option Match :=
  (way prior x ends rest).map (.along ⟨prior rest, rest, rest.length⟩)

/-- The character of a text before the place where `rest` follows. -/
def charBefore (text rest : List Char) : Option Char :=
  (text.take (text.length - rest.length)).getLast?

theorem matchesBefore_eq {x : Shape} (hx : x.isPlain) : ∀ (before rest : List Char)
    (later : List (Option Match)),
    (∀ u v, before = u ++ v → prior (u.reverse ++ rest) = v.head?) →
      x.matchesBefore rest rest.length (memoAt prior x ends rest) later before =
        before.reverse.tails.map (fun u => found? prior x (u ++ rest)) ++ later
  | [], rest, later, h => by
    have hprior : prior rest = none := h [] [] rfl
    have hfinish := finish_courseAt prior hx ends rest
    simp only [courseAt, hprior] at hfinish
    rw [matchesBefore]
    change ((Shape.visit x ⟨none, rest, rest.length⟩ _).1.finish (ends rest)).map _ :: later = _
    rw [hfinish]
    simp [found?, hprior]
  | c :: before, rest, later, h => by
    have hprior : prior rest = some c := h [] (c :: before) rfl
    have hfinish := finish_courseAt prior hx ends rest
    have ih := matchesBefore_eq hx before (c :: rest) (found? prior x rest :: later) fun u v huv =>
      by simpa using h (c :: u) v (by simp [huv])
    simp only [courseAt, hprior] at hfinish
    rw [matchesBefore]
    simp only [List.head?_cons]
    rw [memoAt_cons, hprior] at ih
    have hfound : (way prior x ends rest).map (.along ⟨some c, rest, rest.length⟩) =
        found? prior x rest := by
      rw [found?, hprior]
    rw [show some (⟨[], rest.length⟩ : Trail) = ends rest from rfl, hfinish, hfound]
    rw [List.length_cons] at ih
    rw [ih]
    simp [List.tails_append]

/-- **The sweep finds the preferred match at every place of a text.** -/
theorem matchesAt_eq {x : Shape} (hx : x.isPlain) (text : List Char) :
    x.matchesAt text = text.tails.map (found? (charBefore text) x) := by
  have h := matchesBefore_eq (charBefore text) hx text.reverse [] [] fun u v huv => by
    obtain rfl : text = v.reverse ++ u.reverse := by
      rw [← List.reverse_append, ← huv, List.reverse_reverse]
    simp [charBefore]
  rw [matchesAt]
  simpa [memoAt] using h

end Shape

end Restyle
