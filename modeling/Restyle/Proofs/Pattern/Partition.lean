import Restyle.Pattern.Segment

/-!
# The segments of a text are the text

Whatever a shape looks for, the segments of a text, one after another, are the text again. So the
matches in a text do not overlap, and between them every character is kept. This needs no more than
that the match at a place begins there and ends in the text.

## Main definitions

* `Restyle.Placed` — matches that are given for the places of a text, each at its own.

## Main results

* `Restyle.Shape.placed_matchesAt` — the preferred matches of a shape are at their places.
* `Restyle.Shape.flatMap_text_segments` — the segments together are the text.
-/

namespace Restyle

/-- Matches for the places of a text, from the place before its first character to the place behind
its last one: where there is one, it begins at its place and ends in the text. -/
inductive Placed : List Char → List (Option Match) → Prop
  | last {at? : Option Match} (h : ∀ m ∈ at?, m.start = [] ∧ m.length ≤ 0) : Placed [] [at?]
  | next {c : Char} {cs : List Char} {at? : Option Match} {later : List (Option Match)}
      (h : ∀ m ∈ at?, m.start = c :: cs ∧ m.length ≤ (c :: cs).length) (hlater : Placed cs later) :
      Placed (c :: cs) (at? :: later)

namespace Shape

/-- The sweep comes to a place with the matches behind it, and goes on with its own before them. -/
theorem placed_matchesBefore (x : Shape) : ∀ {before rest : List Char} {left : Nat} {m : x.Memo}
    {found : List (Option Match)}, left = rest.length →
      (∀ at? : Option Match, (∀ m ∈ at?, m.start = rest ∧ m.length ≤ rest.length) →
        Placed rest (at? :: found)) →
      Placed (before.reverse ++ rest) (x.matchesBefore rest left m found before) := by
  intro before
  induction before with
  | nil =>
    rintro rest left m found rfl hfound
    refine hfound _ fun n hn => ?_
    obtain ⟨t, -, rfl⟩ := Option.map_eq_some_iff.1 hn
    exact ⟨rfl, Nat.sub_le _ _⟩
  | cons c before ih =>
    rintro rest left m found rfl hfound
    rw [matchesBefore, List.reverse_cons, List.append_assoc]
    refine ih rfl fun at? hat => .next hat (hfound _ fun n hn => ?_)
    obtain ⟨t, -, rfl⟩ := Option.map_eq_some_iff.1 hn
    exact ⟨rfl, Nat.sub_le _ _⟩

/-- **The preferred matches of a shape** are at their places. -/
theorem placed_matchesAt (x : Shape) (text : List Char) : Placed text (x.matchesAt text) := by
  have h : Placed (text.reverse.reverse ++ []) (x.matchesBefore [] 0 x.memo [] text.reverse) :=
    placed_matchesBefore x rfl fun _ hat => .last hat
  rwa [List.reverse_reverse, List.append_nil] at h

end Shape

namespace Segment

variable {m : Match} {behindMatch : Bool} {text : List Char} {done : List Segment}
  {later : List (Option Match)}

/-- A match that takes text is chosen, and the places in it are skipped. -/
theorem choose_taking {n : Nat} (h : m.length = n + 1) :
    choose 0 behindMatch text done (some m :: later) =
      choose n true (text.drop 1) (.found m :: done) later := by
  rw [choose.eq_def]
  simp only [h]

/-- A match without text is chosen unless it stands directly behind another one, and the character
at its place is kept. -/
theorem choose_empty {c : Char} {cs : List Char} (h : m.length = 0) :
    choose 0 behindMatch (c :: cs) done (some m :: later) =
      choose 0 false cs (.kept c :: if behindMatch then done else .found m :: done) later := by
  rw [choose.eq_def]
  simp only [h]

/-- Segments that are chosen from matches at their places are the text that is left, behind those
that are done. -/
theorem flatMap_text_choose (h : Placed text later) : ∀ {skipped : Nat} (behindMatch : Bool)
    (done : List Segment),
      skipped ≤ text.length →
      (choose skipped behindMatch text done later).flatMap Segment.text =
        done.reverse.flatMap Segment.text ++ text.drop skipped := by
  induction h with
  | @last at? hat =>
    intro skipped behindMatch done hskipped
    obtain rfl : skipped = 0 := Nat.le_zero.1 hskipped
    cases at? with
    | none => simp [choose]
    | some m =>
      obtain ⟨hstart, hlength⟩ := hat m rfl
      have hempty : m.text = [] := by rw [Match.text, hstart, List.take_nil]
      rw [choose.eq_def]
      simp only [Nat.le_zero.1 hlength]
      cases behindMatch <;> simp [Segment.text, hempty]
  | @next c cs at? later hat _ ih =>
    intro skipped behindMatch done hskipped
    cases skipped with
    | succ n => exact ih behindMatch done (Nat.le_of_succ_le_succ hskipped)
    | zero =>
      cases at? with
      | none =>
        rw [choose, ih false (.kept c :: done) (Nat.zero_le _)]
        simp [Segment.text]
      | some m =>
        obtain ⟨hstart, hlength⟩ := hat m rfl
        cases hm : m.length with
        | zero =>
          have hempty : m.text = [] := by rw [Match.text, hm, List.take_zero]
          rw [choose_empty hm, ih false _ (Nat.zero_le _)]
          cases behindMatch <;> simp [Segment.text, hempty]
        | succ n =>
          rw [hm] at hlength
          have htext : m.text = c :: cs.take n := by
            rw [Match.text, hstart, hm, List.take_succ_cons]
          rw [choose_taking hm, List.drop_one, List.tail_cons,
            ih true _ (Nat.le_of_succ_le_succ hlength)]
          simp [Segment.text, htext]

end Segment

/-- **The segments of a text together are the text**, whatever the shape looks for. -/
theorem Shape.flatMap_text_segments (x : Shape) (text : List Char) :
    (x.segments text).flatMap Segment.text = text := by
  rw [segments]
  split
  · exact Segment.flatMap_text_choose (x.placed_matchesAt text) false [] (Nat.zero_le _)
  · rw [List.flatMap_map]
    exact List.flatMap_singleton' text

end Restyle
