import Restyle.Proofs.Pattern.Cuts
import Restyle.Proofs.Rule.Reading

/-!
# Going through a text

A form *turns* the text at a place if it has a match there, and then it puts its own text in. It
goes through a text from left to right, turns what it can and keeps the characters between. This is
how the rules of the table are applied.

## Main definitions

* `Restyle.Form.turn?` — what a form puts in at a place, and the text behind its match.
* `Restyle.Form.Rewrites` — how a form goes through a text.
* `Restyle.Form.apply`, `Restyle.Form.hits` — a text after a form, and the number of matches.

## Main results

* `Restyle.Form.rewrites_apply`, `Restyle.Form.Rewrites.unique` — a form is applied by going through
  the text, and this can be done in one way only.
* `Restyle.Form.apply_of_turn?`, `Restyle.Form.apply_of_turn?_eq_none` — the step at a place.
* `Restyle.Form.hits_eq_zero_iff` — there is no match if no place is turned.
* `Restyle.applyChars_eq_of_hasForm` — rules are applied as the forms that they have.
-/

namespace Restyle

namespace Shape

/-- Whether a shape holds no anchor. -/
def isFree : Shape → Bool
  | empty | literal _ | one _ => true
  | anchor _ => false
  | seq a b | alt a b => a.isFree && b.isFree
  | group _ body | repeated body _ _ _ => body.isFree

/-- A shape without anchors looks at the text before a place in no case. -/
theorem way_eq_of_isFree (prior prior' : List Char → Option Char) : ∀ {x : Shape}, x.isPlain →
    x.isFree → ∀ onward, way prior x onward = way prior' x onward
  | empty, _, _, _ | literal _, _, _, _ | one _, _, _, _ => rfl
  | seq a b, hx, hfree, onward => by
    obtain ⟨ha, hb⟩ : a.isPlain ∧ b.isPlain := by simpa [isPlain] using hx
    obtain ⟨ha', hb'⟩ : a.isFree ∧ b.isFree := by simpa [isFree] using hfree
    rw [way, way, way_eq_of_isFree prior prior' hb hb', way_eq_of_isFree prior prior' ha ha']
  | alt a b, hx, hfree, onward => by
    obtain ⟨ha, hb⟩ : a.isPlain ∧ b.isPlain := by simpa [isPlain] using hx
    obtain ⟨ha', hb'⟩ : a.isFree ∧ b.isFree := by simpa [isFree] using hfree
    rw [way, way, way_eq_of_isFree prior prior' hb hb', way_eq_of_isFree prior prior' ha ha']
  | group i body, hx, hfree, onward => by
    rw [way, way, way_eq_of_isFree prior prior' (x := body) hx hfree]
  | repeated body least most p, hx, hfree, onward => by
    rcases isPlain_repeated hx with ⟨set, rfl, rfl, rfl | rfl⟩ | ⟨rfl, rfl, hbody, -⟩
    · rfl
    · rfl
    · funext rest
      rw [way_optional, way_optional, way_eq_of_isFree prior prior' hbody hfree]

theorem found?_eq_of_isFree (prior prior' : List Char → Option Char) {x : Shape} (hx : x.isPlain)
    (hfree : x.isFree) : found? prior x = found? prior' x := by
  funext rest
  rw [found?, found?, way_eq_of_isFree prior prior' hx hfree]
  rfl

end Shape

namespace Form

/-- What a form looks for is plain, holds no anchor and takes text. -/
def isSound (x : Form) : Bool := x.shape.isPlain && x.shape.isFree && !x.shape.canBeEmpty

theorem isSound_of_mem {x : Form} (h : x ∈ bootstrapForms) : x.isSound := by
  have : ∀ x ∈ bootstrapForms, x.isSound := by decide
  exact this x h

theorem isSound_of_mem_importForms {x : Form} (h : x ∈ importForms) : x.isSound :=
  isSound_of_mem (mem_bootstrapForms_iff.2 (.inl h))

/-- The match of a form at a place, given by the text behind it. -/
def found? (x : Form) (rest : List Char) : Option Match :=
  Shape.found? (fun _ => none) x.shape rest

/-- What a form puts in at a place, and the text behind its match. -/
def turn? (x : Form) (rest : List Char) : Option (List Char × List Char) :=
  (x.found? rest).map fun m => (x.template.expand [] m, rest.drop m.length)

/-- A text after a form. -/
def apply (x : Form) (text : List Char) : List Char :=
  x.shape.replaceAll (x.template.expand []) text

/-- The number of matches of a form in a text. -/
def hits (x : Form) (text : List Char) : Nat := (x.shape.segments text).countP (·.match?.isSome)

/-- How a form goes through a text: the number of matches, the text and what becomes of it. -/
inductive Rewrites (x : Form) : Nat → List Char → List Char → Prop
  | nil : Rewrites x 0 [] []
  | kept {n c cs out} (h : x.turn? (c :: cs) = none) (later : Rewrites x n cs out) :
      Rewrites x n (c :: cs) (c :: out)
  | turned {n text put after out} (h : x.turn? text = some (put, after))
      (later : Rewrites x n after out) : Rewrites x (n + 1) text (put ++ out)

variable {x : Form}

/-- The match at a place that a form turns. -/
theorem exists_leads_of_turn? (hx : x.isSound) {rest put after : List Char}
    (h : x.turn? rest = some (put, after)) :
    ∃ u m, u ≠ [] ∧ rest = u ++ after ∧ x.found? rest = some m ∧ m.text = u ∧
      put = x.template.expand [] m ∧ x.shape.Leads (fun _ => none) rest m.marks after := by
  obtain ⟨⟨hplain, -⟩, hempty⟩ : (x.shape.isPlain ∧ x.shape.isFree) ∧ x.shape.canBeEmpty = false :=
    by simpa [isSound] using hx
  obtain ⟨m, hm, hput⟩ := Option.map_eq_some_iff.1 h
  obtain ⟨rfl, hafter⟩ := Prod.mk.inj hput
  obtain ⟨u, after', rfl, hlead, hstart, hlength⟩ :=
    Shape.exists_leads_of_found? (fun _ => none) hplain hm
  obtain rfl : after' = after := by simpa [hlength] using hafter
  obtain ⟨v, hv, -, hne⟩ := Shape.exists_append_of_leads _ hplain hlead
  obtain rfl : u = v := List.append_cancel_right hv
  exact ⟨u, m, hne hempty, rfl, hm, by simp [Match.text, hstart, hlength], rfl, hlead⟩

/-- A form turns a place if what it looks for leads anywhere from there. -/
theorem isSome_turn?_of_leads (hx : x.isSound) {rest : List Char} (marks : List Mark)
    (after : List Char) (h : x.shape.Leads (fun _ => none) rest marks after) :
    (x.turn? rest).isSome := by
  obtain ⟨⟨hplain, -⟩, -⟩ : (x.shape.isPlain ∧ x.shape.isFree) ∧ x.shape.canBeEmpty = false := by
    simpa [isSound] using hx
  rw [turn?, Option.isSome_map]
  exact Shape.isSome_found?_of_leads _ hplain h

theorem turn?_nil (hx : x.isSound) : x.turn? [] = none := by
  rw [Option.eq_none_iff_forall_ne_some]
  rintro ⟨put, after⟩ h
  obtain ⟨u, -, hu, hrest, -⟩ := exists_leads_of_turn? hx h
  exact hu (List.append_eq_nil_iff.1 hrest.symm).1

theorem rewrites_of_cuts (hx : x.isSound) {text : List Char} {ss : List Segment}
    (h : Shape.Cuts x.found? text ss) :
    x.Rewrites (ss.countP (·.match?.isSome)) text
      (ss.flatMap (·.replaced (x.template.expand []))) := by
  induction h with
  | nil => exact .nil
  | kept h later ih =>
    rw [List.countP_cons_of_neg (by simp [Segment.match?]), List.flatMap_cons]
    exact .kept (by rw [turn?, h, Option.map_none]) ih
  | @found u after m ss h hu hm later ih =>
    have hturn : x.turn? (u ++ after) = some (x.template.expand [] m, after) := by
      have hlength : (u ++ after).drop m.length = after := by
        obtain ⟨⟨hplain, -⟩, -⟩ :
            (x.shape.isPlain ∧ x.shape.isFree) ∧ x.shape.canBeEmpty = false := by
          simpa [isSound] using hx
        obtain ⟨v, after', hv, -, hstart, hlength⟩ :=
          Shape.exists_leads_of_found? (fun _ => none) hplain h
        rw [Match.text, hstart, hv, hlength, List.take_left] at hm
        rw [hlength, hm, List.drop_left]
      rw [turn?, h, Option.map_some, hlength]
    rw [List.countP_cons_of_pos rfl, List.flatMap_cons]
    exact .turned hturn ih

/-- **A form is applied to a text by going through it.** -/
theorem rewrites_apply (hx : x.isSound) (text : List Char) :
    x.Rewrites (x.hits text) text (x.apply text) := by
  obtain ⟨⟨hplain, hfree⟩, hempty⟩ :
      (x.shape.isPlain ∧ x.shape.isFree) ∧ x.shape.canBeEmpty = false := by
    simpa [isSound] using hx
  have hcuts := Shape.cuts_segments hplain hempty text
  rw [Shape.found?_eq_of_isFree _ (fun _ => none) hplain hfree] at hcuts
  exact rewrites_of_cuts hx hcuts

/-- A form goes through a text in one way only. -/
theorem Rewrites.unique (hx : x.isSound) {n n' : Nat} {text out out' : List Char}
    (h : x.Rewrites n text out) (h' : x.Rewrites n' text out') : n = n' ∧ out = out' := by
  induction h generalizing n' out' with
  | nil =>
    cases h' with
    | nil => exact ⟨rfl, rfl⟩
    | turned h' => simp [turn?_nil hx] at h'
  | kept h later ih =>
    cases h' with
    | kept h' later' =>
      obtain ⟨rfl, rfl⟩ := ih later'
      exact ⟨rfl, rfl⟩
    | turned h' => simp [h] at h'
  | turned h later ih =>
    cases h' with
    | nil => simp [turn?_nil hx] at h
    | kept h' => simp [h] at h'
    | turned h' later' =>
      obtain ⟨rfl, rfl⟩ : _ = _ ∧ _ = _ := by simpa [h] using h'
      obtain ⟨rfl, rfl⟩ := ih later'
      exact ⟨rfl, rfl⟩

theorem apply_nil (hx : x.isSound) : x.apply [] = [] :=
  ((rewrites_apply hx []).unique hx .nil).2

/-- A place that is turned. -/
theorem apply_of_turn? (hx : x.isSound) {text put after : List Char}
    (h : x.turn? text = some (put, after)) : x.apply text = put ++ x.apply after :=
  ((rewrites_apply hx text).unique hx (.turned h (rewrites_apply hx after))).2

/-- A place that is not turned. -/
theorem apply_of_turn?_eq_none (hx : x.isSound) {c : Char} {cs : List Char}
    (h : x.turn? (c :: cs) = none) : x.apply (c :: cs) = c :: x.apply cs :=
  ((rewrites_apply hx (c :: cs)).unique hx (.kept h (rewrites_apply hx cs))).2

/-- A stretch of text in which no place is turned. -/
theorem apply_append (hx : x.isSound) : ∀ {u rest : List Char},
    (∀ v, v ≠ [] → v <:+ u → x.turn? (v ++ rest) = none) → x.apply (u ++ rest) = u ++ x.apply rest
  | [], _, _ => rfl
  | c :: u, rest, h => by
    have hfirst : x.turn? (c :: (u ++ rest)) = none := h (c :: u) (by simp) (List.suffix_refl _)
    rw [List.cons_append, apply_of_turn?_eq_none hx hfirst,
      apply_append hx fun v hv hsuffix => h v hv (hsuffix.trans (List.suffix_cons c u)),
      List.cons_append]

/-- There is no match in a text exactly if no place of it is turned. -/
theorem hits_eq_zero_iff (hx : x.isSound) {text : List Char} :
    x.hits text = 0 ↔ ∀ rest, rest <:+ text → x.turn? rest = none := by
  have aux {n : Nat} {out : List Char} (h : x.Rewrites n text out) :
      n = 0 ↔ ∀ rest, rest <:+ text → x.turn? rest = none := by
    induction h with
    | nil => simpa using turn?_nil hx
    | kept h later ih => simpa [List.suffix_cons_iff, h] using ih
    | turned h later ih => simpa using ⟨_, List.suffix_refl _, by simp [h]⟩
  exact aux (rewrites_apply hx text)

/-- Without a match a text stays as it is. -/
theorem apply_eq_self_of_hits_eq_zero (hx : x.isSound) {text : List Char} (h : x.hits text = 0) :
    x.apply text = text := by
  have happend : x.apply (text ++ []) = text ++ x.apply [] := apply_append hx fun v _ hv => by
    rw [List.append_nil]
    exact (hits_eq_zero_iff hx).1 h v hv
  simpa [apply_nil hx] using happend

end Form

/-! ### Rules and their forms -/

namespace Rule.HasForm

variable {r : Rule} {x : Form}

theorem segments_eq (h : r.HasForm x) (text : List Char) :
    r.segments text = x.shape.segments text := by
  rw [segments, h.shape]

theorem expand_eq (h : r.HasForm x) : r.expand = x.template.expand [] := by
  funext m
  rw [expand, h.template, h.names]

theorem apply_eq (h : r.HasForm x) : r.apply = x.apply := by
  funext text
  rw [Rule.apply, h.shape, h.expand_eq, Form.apply]

end Rule.HasForm

theorem applyChars_eq_of_hasForm {rs : RuleSet} {xs : List Form}
    (h : List.Forall₂ Rule.HasForm rs xs) (text : List Char) :
    rs.applyChars text = xs.foldl (fun t x => x.apply t) text := by
  induction h generalizing text with
  | nil => rfl
  | cons h _ ih =>
    rw [RuleSet.applyChars, List.foldl_cons, ← RuleSet.applyChars, ih, h.apply_eq, List.foldl_cons]

end Restyle
