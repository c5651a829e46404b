import Restyle.Proofs.Pattern.Leads

/-!
# Cutting a text into segments

The segments into which a plain shape divides a text are cut off from left to right: at each place
the preferred match, if there is one, and one character otherwise. This holds for shapes that must
take text; a text is cut in one way only.

## Main definitions

* `Restyle.Shape.Cuts` — how a text is cut into segments from left to right.

## Main results

* `Restyle.Shape.Cuts.unique` — a text is cut in one way only.
* `Restyle.Shape.cuts_segments` — the segments of a text are those that are cut off it.
-/

namespace Restyle

namespace Shape

/-- How a text is cut into segments from left to right, `found` giving the match at a place. -/
inductive Cuts (found : List Char → Option Match) : List Char → List Segment → Prop
  | nil : Cuts found [] []
  | kept {c cs ss} (h : found (c :: cs) = none) (later : Cuts found cs ss) :
      Cuts found (c :: cs) (.kept c :: ss)
  | found {u after m ss} (h : found (u ++ after) = some m) (hu : u ≠ []) (hm : m.text = u)
      (later : Cuts found after ss) : Cuts found (u ++ after) (.found m :: ss)

/-- A text is cut in one way only. -/
theorem Cuts.unique {found : List Char → Option Match} {text : List Char} {ss ss' : List Segment}
    (h : Cuts found text ss) (h' : Cuts found text ss') : ss = ss' := by
  induction h generalizing ss' with
  | nil =>
    generalize htext : ([] : List Char) = text at h'
    cases h' with
    | nil => rfl
    | kept => simp at htext
    | found h hu => exact absurd (List.append_eq_nil_iff.1 htext.symm).1 hu
  | @kept c cs ss h later ih =>
    generalize htext : c :: cs = text at h'
    cases h' with
    | nil => simp at htext
    | kept h' later' =>
      obtain ⟨rfl, rfl⟩ := List.cons.inj htext
      rw [ih later']
    | found h' hu' => simp [← htext, h] at h'
  | @found u after m ss h hu hm later ih =>
    generalize htext : u ++ after = text at h'
    cases h' with
    | nil => exact absurd (List.append_eq_nil_iff.1 htext).1 hu
    | kept h' => simp [← htext, h] at h'
    | @found v after' m' ss' h' hv hm' later' =>
      rw [← htext, h] at h'
      obtain rfl : m = m' := by simpa using h'
      obtain rfl : u = v := hm.symm.trans hm'
      obtain rfl : after = after' := by simpa using htext
      rw [ih later']

/-- Characters at which there is no match are kept one after another. -/
theorem Cuts.map_kept_append {found : List Char → Option Match} {after : List Char}
    {ss : List Segment} (later : Cuts found after ss) : ∀ {u : List Char},
    (∀ c cs, (c :: cs) <:+ u → found (c :: cs ++ after) = none) →
      Cuts found (u ++ after) (u.map .kept ++ ss)
  | [], _ => later
  | c :: cs, h => .kept (h c cs (List.suffix_refl _))
    (later.map_kept_append fun d ds hd => h d ds (hd.trans (List.suffix_cons c cs)))

theorem choose_skip {found : List Char → Option Match} {behindMatch : Bool}
    {done : List Segment} : ∀ {u after : List Char},
    Segment.choose u.length behindMatch (u ++ after) done ((u ++ after).tails.map found) =
      Segment.choose 0 behindMatch after done (after.tails.map found)
  | [], _ => rfl
  | c :: u, after => by
    rw [List.cons_append, List.tails_cons, List.map_cons, List.length_cons, Segment.choose]
    exact choose_skip

/-- Choosing from the matches at all places of a text cuts the text from left to right, if each
match takes text. -/
theorem exists_cuts_choose {found : List Char → Option Match}
    (hfound : ∀ {rest m}, found rest = some m →
      ∃ u after, u ≠ [] ∧ rest = u ++ after ∧ m.start = rest ∧ m.length = u.length) :
    ∀ (n : Nat) {text : List Char}, text.length ≤ n → ∀ (done : List Segment) (behindMatch : Bool),
      ∃ ss, Segment.choose 0 behindMatch text done (text.tails.map found) = done.reverse ++ ss ∧
        Cuts found text ss
  | n, [], _, done, behindMatch => by
    have hnone : found [] = none := by
      rw [Option.eq_none_iff_forall_ne_some]
      intro m hm
      obtain ⟨u, after, hu, hrest, -⟩ := hfound hm
      exact hu (List.append_eq_nil_iff.1 hrest.symm).1
    exact ⟨[], by simp [Segment.choose, hnone], .nil⟩
  | 0, c :: cs, h, _, _ => absurd h (by simp)
  | n + 1, c :: cs, h, done, behindMatch => by
    rw [List.tails_cons, List.map_cons]
    cases hf : found (c :: cs) with
    | none =>
      obtain ⟨ss, hss, hcuts⟩ := exists_cuts_choose hfound n
        (show cs.length ≤ n by simpa using h) (.kept c :: done) false
      exact ⟨.kept c :: ss, by simp [Segment.choose, hss], .kept hf hcuts⟩
    | some m =>
      obtain ⟨u, after, hu, hrest, hstart, hlength⟩ := hfound hf
      cases u with
      | nil => exact absurd rfl hu
      | cons d u =>
        obtain ⟨rfl, rfl⟩ : c = d ∧ cs = u ++ after := by simpa using hrest
        obtain ⟨ss, hss, hcuts⟩ := exists_cuts_choose hfound n
          (show after.length ≤ n by simp only [List.length_cons, List.length_append] at h; omega)
          (.found m :: done) true
        refine ⟨.found m :: ss, ?_, ?_⟩
        · simp only [Segment.choose, hlength, List.length_cons, List.drop_succ_cons, List.drop_zero]
          rw [choose_skip, hss]
          simp
        · exact .found (u := c :: u) hf (by simp) (by simp [Match.text, hstart, hlength]) hcuts

/-- **The segments of a text are cut off from left to right**, for a plain shape that must take
text. -/
theorem cuts_segments {x : Shape} (hx : x.isPlain) (hempty : x.canBeEmpty = false)
    (text : List Char) : Cuts (found? (charBefore text) x) text (x.segments text) := by
  rw [segments]
  split
  · rw [matchesAt_eq hx]
    obtain ⟨ss, hss, hcuts⟩ := @exists_cuts_choose (found? (charBefore text) x)
      (fun h => by
        obtain ⟨u, after, hrest, hlead, hstart, hlength⟩ :=
          exists_leads_of_found? (charBefore text) hx h
        obtain ⟨v, hv, -, hne⟩ := exists_append_of_leads _ hx hlead
        obtain rfl : u = v := List.append_cancel_right (hrest.symm.trans hv)
        exact ⟨u, after, hne hempty, hrest, hstart, hlength⟩)
      text.length text (Nat.le_refl _) [] false
    rw [hss]
    exact hcuts
  · next hlandmarks =>
    have hend : Cuts (found? (charBefore text) x) [] [] := .nil
    have hkept := hend.map_kept_append (u := text)
    rw [List.append_nil, List.append_nil] at hkept
    refine hkept fun c cs hsuffix => ?_
    rw [List.append_nil]
    rw [Option.eq_none_iff_forall_ne_some]
    intro m hm
    obtain ⟨u, after, -, hlead, -⟩ := exists_leads_of_found? (charBefore text) hx hm
    obtain ⟨v, hv, hstand, -⟩ := exists_append_of_leads _ hx hlead
    obtain ⟨a, rfl⟩ := hsuffix
    refine hlandmarks ?_
    rw [hv]
    have := standInOrder_append hstand (show standInOrder [] after from rfl)
    exact standInOrder_append_left (by simpa using this)

end Shape

end Restyle
