import Restyle.Proofs.Rule.Rewrite

/-!
# What the forms turn

This file describes, form by form, the texts at which a form turns a place, and what it puts in. An
element is turned together with its attributes, which reach to the first angle bracket that closes a
tag. The attributes of a text field reach to the first slash; white space before them is left out,
and the first `multiline` in them is left out if they hold one. Imports are removed together with
the name of a package, which begins with the sign `@`.

## Main definitions

* `Restyle.IsBlank` — a text of white space.

## Main results

* `Restyle.Form.turn?_element_iff`, `Restyle.Form.turn?_variant_iff`,
  `Restyle.Form.turn?_field_iff`, `Restyle.Form.turn?_longField_iff`,
  `Restyle.Form.turn?_words_iff` — what the forms make of a place.
* `Restyle.Form.exists_mem_of_turn?_import` — what the other forms remove.
-/

namespace Restyle

@[simp] theorem contains_otherThan (c d : Char) : (otherThan c).contains d = (d != c) := by
  rw [otherThan, CharSet.contains_compl, CharSet.contains_char, bne]

/-- A text of white space, which is not empty. -/
structure IsBlank (w : List Char) : Prop where
  ne_nil : w ≠ []
  isBlank : ∀ c ∈ w, Text.isBlank c

/-- Neither of two texts together begins with white space if the first does not, and the second,
given by its first character, does not. -/
theorem not_isBlank_of_mem_head?_append {u v : List Char} {d : Char}
    (hu : ∀ c ∈ u.head?, ¬ Text.isBlank c) (hd : ¬ Text.isBlank d) :
    ∀ c ∈ (u ++ d :: v).head?, ¬ Text.isBlank c := by
  cases u with
  | nil =>
    intro c hc
    obtain rfl : d = c := by simpa using hc
    exact hd
  | cons e u => exact hu

namespace Shape

variable (prior : List Char → Option Char) (rest after : List Char) (marks : List Mark)

@[simp] theorem leads_text (s : String) :
    Leads prior (text s) rest marks after ↔ rest = s.toList ++ after ∧ marks = [] := Iff.rfl

@[simp] theorem leads_many (c : Char) : Leads prior (many (otherThan c)) rest marks after ↔
    ∃ u : List Char, c ∉ u ∧ rest = u ++ after ∧ marks = [] := by
  have (u : List Char) : (∀ d ∈ u, d ≠ c) ↔ c ∉ u :=
    ⟨fun h hc => h c hc rfl, fun h d hd hdc => h (hdc ▸ hd)⟩
  simp [many, Leads, this]

@[simp] theorem leads_few (c : Char) : Leads prior (few (otherThan c)) rest marks after ↔
    ∃ u : List Char, c ∉ u ∧ rest = u ++ after ∧ marks = [] :=
  leads_many prior rest after marks c

@[simp] theorem leads_blanks : Leads prior blanks rest marks after ↔
    ∃ w : List Char, IsBlank w ∧ rest = w ++ after ∧ marks = [] := by
  constructor
  · rintro ⟨w, hw, hlength, hrest, hmarks⟩
    exact ⟨w, ⟨List.ne_nil_of_length_pos hlength, fun c hc => by
      rw [← CharSet.contains_blank]; exact hw c hc⟩, hrest, hmarks⟩
  · rintro ⟨w, ⟨hne, hw⟩, hrest, hmarks⟩
    exact ⟨w, fun c hc => by rw [CharSet.contains_blank]; exact hw c hc,
      List.length_pos_of_ne_nil hne, hrest, hmarks⟩

end Shape

namespace Template

theorem expand_append (names : List (List Char × Nat)) (s t : Template) (m : Match) :
    expand names (s ++ t) m = expand names s m ++ expand names t m := List.flatMap_append

theorem expand_cons (names : List (List Char × Nat)) (p : TemplatePart) (t : Template)
    (m : Match) : expand names (p :: t) m = expandPart names m p ++ expand names t m :=
  List.flatMap_cons

theorem expand_ofText (names : List (List Char × Nat)) (s : String) (m : Match) :
    expand names (ofText s) m = s.toList := by
  simp [expand, ofText, List.flatMap_map, expandPart]

end Template

namespace Match

/-- The text of the only group on a way. -/
theorem group?_one {m : Match} {cap after : List Char}
    (h : m.marks =
      [⟨1, true, cap ++ after, (cap ++ after).length⟩, ⟨1, false, after, after.length⟩]) :
    m.group? 1 = some cap := by
  simp [group?, lastMark?, h]

/-- The texts of the two groups on a way. -/
theorem group?_two {m : Match} (cap cap' : List Char) {between after : List Char}
    (h : m.marks = [⟨1, true, cap ++ between, (cap ++ between).length⟩,
      ⟨1, false, between, between.length⟩, ⟨2, true, cap' ++ after, (cap' ++ after).length⟩,
      ⟨2, false, after, after.length⟩]) :
    m.group? 1 = some cap ∧ m.group? 2 = some cap' := by
  simp [group?, lastMark?, h]

end Match

/-- A text is cut in one way behind the characters with a property. -/
theorem append_inj_of_forall {p : Char → Prop} {a b : List Char} (ha : ∀ c ∈ a.head?, ¬ p c)
    (hb : ∀ c ∈ b.head?, ¬ p c) : ∀ {u v : List Char}, (∀ c ∈ u, p c) → (∀ c ∈ v, p c) →
      u ++ a = v ++ b → u = v ∧ a = b
  | [], [], _, _, h => ⟨rfl, h⟩
  | [], d :: v, _, hv, h => by
    obtain rfl : a = d :: v ++ b := h
    exact absurd (hv d (by simp)) (ha d rfl)
  | d :: u, [], hu, _, h => by
    obtain rfl : d :: u ++ a = b := h
    exact absurd (hu d (by simp)) (hb d rfl)
  | d :: u, e :: v, hu, hv, h => by
    obtain ⟨rfl, htail⟩ := List.cons.inj h
    obtain ⟨rfl, rfl⟩ := append_inj_of_forall ha hb (fun c hc => hu c (List.mem_cons_of_mem _ hc))
      (fun c hc => hv c (List.mem_cons_of_mem _ hc)) htail
    exact ⟨rfl, rfl⟩

/-- A text is cut in one way at the first place of a character. -/
theorem append_cons_inj_of_not_mem {c : Char} {u v a b : List Char} (hu : c ∉ u) (hv : c ∉ v)
    (h : u ++ c :: a = v ++ c :: b) : u = v ∧ a = b := by
  obtain ⟨rfl, htail⟩ := append_inj_of_forall (p := (· ≠ c)) (by simp) (by simp)
    (fun d hd hdc => hu (hdc ▸ hd)) (fun d hd hdc => hv (hdc ▸ hd)) h
  exact ⟨rfl, by simpa using htail⟩

/-- What begins a text before a character that does not stand in it begins the text up to there. -/
theorem prefix_of_prefix_append_cons {d : Char} {p u v : List Char} (hd : d ∉ p)
    (h : p <+: u ++ d :: v) : p <+: u := by
  rcases List.prefix_or_prefix_of_prefix h (List.prefix_append u (d :: v)) with hp | ⟨r, rfl⟩
  · exact hp
  · cases r with
    | nil => rw [List.append_nil]
    | cons e r =>
      obtain ⟨a, ha⟩ := h
      rw [List.append_assoc, List.append_cancel_left_eq] at ha
      exact absurd (by simp [(List.cons.inj ha).1]) hd

theorem eq_nil_of_not_infix {c : Char} {part s a b : List Char} (hc : c ∉ part)
    (hs : ¬ (c :: part) <:+: s) (h : (c :: part) ++ a = s ++ ((c :: part) ++ b)) : s = [] := by
  rcases List.append_eq_append_iff.1 h with ⟨r, rfl, -⟩ | ⟨r, hr, hrest⟩
  · exact absurd (List.infix_append' [] (c :: part) r) hs
  · cases s with
    | nil => rfl
    | cons d s =>
      obtain ⟨rfl, rfl⟩ := List.cons.inj hr
      cases r with
      | nil => exact absurd (by simp) hs
      | cons e r =>
        obtain ⟨rfl, -⟩ := List.cons.inj hrest
        simp at hc

/-- A text is cut in one way at the first place where a part stands in it, if the first character
of the part stands nowhere else in the part. -/
theorem append_inj_of_not_infix {c : Char} {part u v a b : List Char} (hc : c ∉ part)
    (hu : ¬ (c :: part) <:+: u) (hv : ¬ (c :: part) <:+: v)
    (h : u ++ ((c :: part) ++ a) = v ++ ((c :: part) ++ b)) : u = v ∧ a = b := by
  rcases List.append_eq_append_iff.1 h with ⟨s, rfl, hs⟩ | ⟨s, rfl, hs⟩
  · obtain rfl := eq_nil_of_not_infix hc (fun hi => hv (hi.trans ⟨u, [], by simp⟩)) hs
    exact ⟨by simp, by simpa using hs⟩
  · obtain rfl := eq_nil_of_not_infix hc (fun hi => hu (hi.trans ⟨v, [], by simp⟩)) hs
    exact ⟨by simp, by simpa using hs.symm⟩

namespace Form

variable {rest put after : List Char}

/-! ### Elements -/

theorem leads_element {tag ending new finish : String} {marks : List Mark} :
    (element tag ending new finish).shape.Leads (fun _ => none) rest marks after ↔
      ∃ cap, '>' ∉ cap ∧ rest = tag.toList ++ (cap ++ (ending.toList ++ after)) ∧
        marks =
          [⟨1, true, cap ++ (ending.toList ++ after), (cap ++ (ending.toList ++ after)).length⟩,
            ⟨1, false, ending.toList ++ after, (ending.toList ++ after).length⟩] := by
  simp only [shape, Shape.ofParts, Shape.Leads, Shape.leads_text, Shape.leads_many]
  constructor
  · rintro ⟨_, _, _, ⟨rfl, rfl⟩, ⟨_, _, _, ⟨_, ⟨cap, hcap, rfl, rfl⟩, rfl⟩, ⟨rfl, rfl⟩, rfl⟩, rfl⟩
    exact ⟨cap, hcap, rfl, rfl⟩
  · rintro ⟨cap, hcap, rfl, rfl⟩
    exact ⟨_, _, _, ⟨rfl, rfl⟩, ⟨_, _, _, ⟨_, ⟨cap, hcap, rfl, rfl⟩, rfl⟩, ⟨rfl, rfl⟩, rfl⟩, rfl⟩

theorem exists_of_turn?_element {tag ending new finish : String}
    (hx : (element tag ending new finish).isSound)
    (h : (element tag ending new finish).turn? rest = some (put, after)) :
    ∃ cap, '>' ∉ cap ∧ rest = tag.toList ++ (cap ++ (ending.toList ++ after)) ∧
      put = new.toList ++ (cap ++ finish.toList) := by
  obtain ⟨-, m, -, -, -, -, rfl, hlead⟩ := exists_leads_of_turn? hx h
  obtain ⟨cap, hcap, rfl, hm⟩ := leads_element.1 hlead
  refine ⟨cap, hcap, rfl, ?_⟩
  simp only [template, Template.expand_append, Template.expand_cons, Template.expand_ofText,
    Template.expandPart, Match.group?_one hm, Option.getD_some]

/-- **The places at which an element is turned.** The end of the element is the first angle bracket
that closes a tag. -/
theorem turn?_element_iff {tag ending new finish : String} {beforeEnd : List Char}
    (hx : (element tag ending new finish).isSound)
    (hending : ending.toList = beforeEnd ++ ['>']) (hbefore : '>' ∉ beforeEnd) :
    (element tag ending new finish).turn? rest = some (put, after) ↔
      ∃ cap, '>' ∉ cap ∧ rest = tag.toList ++ (cap ++ (ending.toList ++ after)) ∧
        put = new.toList ++ (cap ++ finish.toList) := by
  refine ⟨exists_of_turn?_element hx, ?_⟩
  rintro ⟨cap, hcap, rfl, rfl⟩
  obtain ⟨⟨put', after'⟩, hturn⟩ := Option.isSome_iff_exists.1
    (isSome_turn?_of_leads hx _ _ (leads_element.2 ⟨cap, hcap, rfl, rfl⟩))
  obtain ⟨cap', hcap', hrest, rfl⟩ := exists_of_turn?_element hx hturn
  rw [List.append_cancel_left_eq, hending, List.append_assoc, List.append_assoc,
    ← List.append_assoc cap, ← List.append_assoc cap'] at hrest
  obtain ⟨hcaps, rfl⟩ := append_cons_inj_of_not_mem (by simp [hcap, hbefore])
    (by simp [hcap', hbefore]) hrest
  obtain rfl : cap = cap' := List.append_cancel_right hcaps
  exact hturn

/-! ### Variants of buttons -/

section Variant

variable {value new : String}

theorem leads_variant {marks : List Mark} :
    (variant value new).shape.Leads (fun _ => none) rest marks after ↔
      ∃ w cap, IsBlank w ∧ '>' ∉ cap ∧ rest = "<Button".toList ++
        (w ++ (("variant=\"" ++ value ++ "\"").toList ++ (cap ++ (">".toList ++ after)))) ∧
        marks = [⟨1, true, cap ++ (">".toList ++ after), (cap ++ (">".toList ++ after)).length⟩,
          ⟨1, false, ">".toList ++ after, (">".toList ++ after).length⟩] := by
  simp only [shape, Shape.ofParts, Shape.Leads, Shape.leads_text, Shape.leads_many,
    Shape.leads_blanks]
  constructor
  · rintro ⟨_, _, _, ⟨rfl, rfl⟩, ⟨_, _, _, ⟨w, hw, rfl, rfl⟩, ⟨_, _, _, ⟨rfl, rfl⟩,
      ⟨_, _, _, ⟨_, ⟨cap, hcap, rfl, rfl⟩, rfl⟩, ⟨rfl, rfl⟩, rfl⟩, rfl⟩, rfl⟩, rfl⟩
    exact ⟨w, cap, hw, hcap, rfl, rfl⟩
  · rintro ⟨w, cap, hw, hcap, rfl, rfl⟩
    exact ⟨_, _, _, ⟨rfl, rfl⟩, ⟨_, _, _, ⟨w, hw, rfl, rfl⟩, ⟨_, _, _, ⟨rfl, rfl⟩,
      ⟨_, _, _, ⟨_, ⟨cap, hcap, rfl, rfl⟩, rfl⟩, ⟨rfl, rfl⟩, rfl⟩, rfl⟩, rfl⟩, rfl⟩

theorem exists_of_turn?_variant (hx : (variant value new).isSound)
    (h : (variant value new).turn? rest = some (put, after)) :
    ∃ w cap, IsBlank w ∧ '>' ∉ cap ∧ rest = "<Button".toList ++
      (w ++ (("variant=\"" ++ value ++ "\"").toList ++ (cap ++ (">".toList ++ after)))) ∧
      put = new.toList ++ (cap ++ ">".toList) := by
  obtain ⟨-, m, -, -, -, -, rfl, hlead⟩ := exists_leads_of_turn? hx h
  obtain ⟨w, cap, hw, hcap, rfl, hm⟩ := leads_variant.1 hlead
  refine ⟨w, cap, hw, hcap, rfl, ?_⟩
  simp only [template, Template.expand_append, Template.expand_cons, Template.expand_ofText,
    Template.expandPart, Match.group?_one hm, Option.getD_some]

/-- **The places at which a variant of a button is turned.** -/
theorem turn?_variant_iff (hx : (variant value new).isSound) :
    (variant value new).turn? rest = some (put, after) ↔
      ∃ w cap, IsBlank w ∧ '>' ∉ cap ∧ rest = "<Button".toList ++
        (w ++ (("variant=\"" ++ value ++ "\"").toList ++ (cap ++ (">".toList ++ after)))) ∧
        put = new.toList ++ (cap ++ ">".toList) := by
  refine ⟨exists_of_turn?_variant hx, ?_⟩
  rintro ⟨w, cap, hw, hcap, rfl, rfl⟩
  obtain ⟨⟨put', after'⟩, hturn⟩ := Option.isSome_iff_exists.1
    (isSome_turn?_of_leads hx _ _ (leads_variant.2 ⟨w, cap, hw, hcap, rfl, rfl⟩))
  obtain ⟨w', cap', hw', hcap', hrest, rfl⟩ := exists_of_turn?_variant hx hturn
  -- The attribute begins with a letter, so the white space before it is the same on both sides.
  have hhead (cs : List Char) :
      ∀ c ∈ (("variant=\"" ++ value ++ "\"").toList ++ cs).head?, ¬ Text.isBlank c := by
    rw [String.toList_append, String.toList_append]
    intro c hc
    obtain rfl : 'v' = c := by simpa using hc
    decide
  obtain ⟨rfl, htail⟩ := append_inj_of_forall (hhead _) (hhead _) hw.isBlank hw'.isBlank
    (List.append_cancel_left hrest)
  obtain ⟨rfl, rfl⟩ := append_cons_inj_of_not_mem hcap hcap' (List.append_cancel_left htail)
  exact hturn

end Variant

/-! ### Text fields -/

section Field

open Shape

/-- The attributes of a text field, up to its end. -/
private def fieldRest : Shape := ofParts [group 1 (few (otherThan '/')), text "/>"]

/-- The rest of the attributes of a text field of several lines, up to its end. -/
private def behindMultiline : Shape :=
  ofParts [text "multiline", group 2 (few (otherThan '/')), text "/>"]

/-- The attributes of a text field of several lines, up to its end. -/
private def longFieldRest : Shape := seq (group 1 (few (otherThan '/'))) behindMultiline

private theorem leads_fieldRest {marks : List Mark} :
    fieldRest.Leads (fun _ => none) rest marks after ↔
      ∃ cap, '/' ∉ cap ∧ rest = cap ++ ("/>".toList ++ after) ∧
        marks = [⟨1, true, cap ++ ("/>".toList ++ after), (cap ++ ("/>".toList ++ after)).length⟩,
          ⟨1, false, "/>".toList ++ after, ("/>".toList ++ after).length⟩] := by
  simp only [fieldRest, ofParts, Leads, leads_text, leads_few]
  constructor
  · rintro ⟨_, _, _, ⟨_, ⟨cap, hcap, rfl, rfl⟩, rfl⟩, ⟨rfl, rfl⟩, rfl⟩
    exact ⟨cap, hcap, rfl, rfl⟩
  · rintro ⟨cap, hcap, rfl, rfl⟩
    exact ⟨_, _, _, ⟨_, ⟨cap, hcap, rfl, rfl⟩, rfl⟩, ⟨rfl, rfl⟩, rfl⟩

private theorem leads_behindMultiline {marks : List Mark} :
    behindMultiline.Leads (fun _ => none) rest marks after ↔
      ∃ cap, '/' ∉ cap ∧ rest = "multiline".toList ++ (cap ++ ("/>".toList ++ after)) ∧
        marks = [⟨2, true, cap ++ ("/>".toList ++ after), (cap ++ ("/>".toList ++ after)).length⟩,
          ⟨2, false, "/>".toList ++ after, ("/>".toList ++ after).length⟩] := by
  simp only [behindMultiline, ofParts, Leads, leads_text, leads_few]
  constructor
  · rintro ⟨_, _, _, ⟨rfl, rfl⟩, ⟨_, _, _, ⟨_, ⟨cap, hcap, rfl, rfl⟩, rfl⟩, ⟨rfl, rfl⟩, rfl⟩, rfl⟩
    exact ⟨cap, hcap, rfl, rfl⟩
  · rintro ⟨cap, hcap, rfl, rfl⟩
    exact ⟨_, _, _, ⟨rfl, rfl⟩, ⟨_, _, _, ⟨_, ⟨cap, hcap, rfl, rfl⟩, rfl⟩, ⟨rfl, rfl⟩, rfl⟩, rfl⟩

private theorem leads_longFieldRest {marks : List Mark} :
    longFieldRest.Leads (fun _ => none) rest marks after ↔
      ∃ cap between inner, '/' ∉ cap ∧ rest = cap ++ between ∧
        behindMultiline.Leads (fun _ => none) between inner after ∧
        marks = ⟨1, true, rest, rest.length⟩ :: ⟨1, false, between, between.length⟩ :: inner := by
  simp only [longFieldRest, Leads, leads_few]
  constructor
  · rintro ⟨_, between, inner, ⟨_, ⟨cap, hcap, rfl, rfl⟩, rfl⟩, hlead, rfl⟩
    exact ⟨cap, between, inner, hcap, rfl, hlead, rfl⟩
  · rintro ⟨cap, between, inner, hcap, rfl, hlead, rfl⟩
    exact ⟨_, between, inner, ⟨_, ⟨cap, hcap, rfl, rfl⟩, rfl⟩, hlead, rfl⟩

/-- The white space before the attributes of a text field is taken as a whole, if the attributes may
as well begin behind any of it. -/
private theorem exists_of_turn?_fieldStart {x : Form} {y : Shape}
    (hshape : x.shape = ofParts (fieldStart ++ [y])) (hy : y.isPlain)
    (hmono : ∀ {c cs marks after}, Text.isBlank c → y.Leads (fun _ => none) (c :: cs) marks after →
      ∃ marks after, y.Leads (fun _ => none) cs marks after)
    (h : x.turn? rest = some (put, after)) :
    ∃ w between m, IsBlank w ∧ (∀ c ∈ between.head?, ¬ Text.isBlank c) ∧
      rest = "<TextField".toList ++ (w ++ between) ∧ put = x.template.expand [] m ∧
      y.Leads (fun _ => none) between m.marks after ∧
      way (fun _ => none) y ends between = some ⟨m.marks, after.length⟩ := by
  obtain ⟨m, hm, hput⟩ := Option.map_eq_some_iff.1 h
  obtain ⟨rfl, rfl⟩ := Prod.mk.inj hput
  obtain ⟨t, hway, rfl⟩ := Option.map_eq_some_iff.1 hm
  rw [hshape] at hway
  have hstart : (if "<TextField".toList.isPrefixOf rest then
      step .blank (run .blank .more (way (fun _ => none) y ends))
        (rest.drop "<TextField".toList.length) else none) = some t := hway
  split at hstart
  · next hp =>
    obtain ⟨behindName, rfl⟩ := List.isPrefixOf_iff_prefix.1 hp
    rw [List.drop_left] at hstart
    obtain ⟨c, cs, hc, rfl, hrun⟩ := exists_of_step hstart
    obtain ⟨w, between, hw, hbetween, rfl, hy'⟩ := exists_of_run_more (fun {c cs} hc hsome => by
      obtain ⟨t', ht'⟩ := Option.isSome_iff_exists.1 hsome
      obtain ⟨marks, after, -, hlead, -⟩ := exists_leads_of_way _ hy ht'
      obtain ⟨marks, after, hlead⟩ := hmono (by rwa [← CharSet.contains_blank]) hlead
      exact isSome_way_of_leads _ hy hlead rfl) hrun
    obtain ⟨marks, after, t', hlead, ht', rfl⟩ := exists_leads_of_way _ hy hy'
    obtain rfl : ⟨[], after.length⟩ = t' := Option.some.inj ht'
    obtain ⟨v, rfl, -, -⟩ := exists_append_of_leads _ hy hlead
    have hmarks : (Trail.after marks ⟨[], after.length⟩).marks = marks := List.append_nil marks
    have hrest : "<TextField".toList ++ c :: (w ++ (v ++ after)) =
        ("<TextField".toList ++ c :: (w ++ v)) ++ after := by
      simp only [List.append_assoc, List.cons_append]
    have hdrop : ("<TextField".toList ++ c :: (w ++ (v ++ after))).drop
        (Match.along ⟨none, "<TextField".toList ++ c :: (w ++ (v ++ after)),
          ("<TextField".toList ++ c :: (w ++ (v ++ after))).length⟩
          (Trail.after marks ⟨[], after.length⟩)).length = after := by
      change List.drop (_ - after.length) _ = after
      rw [hrest, List.length_append, Nat.add_sub_cancel, List.drop_left]
    rw [hdrop]
    refine ⟨c :: w, v ++ after, _, ⟨by simp, ?_⟩, ?_, rfl, rfl, ?_, ?_⟩
    · simpa [CharSet.contains_blank] using And.intro hc hw
    · simpa [CharSet.contains_blank] using hbetween
    · simpa only [Match.along, hmarks] using hlead
    · simpa only [Match.along, hmarks, Trail.after, List.append_nil] using hy'
  · simp at hstart

/-- White space before the attributes of a text field may as well be left out. -/
private theorem exists_leads_fieldRest {c : Char} {cs after : List Char} {marks : List Mark}
    (hc : Text.isBlank c) (hlead : fieldRest.Leads (fun _ => none) (c :: cs) marks after) :
    ∃ marks after, fieldRest.Leads (fun _ => none) cs marks after := by
  obtain ⟨cap, hcap, hcons, -⟩ := leads_fieldRest.1 hlead
  cases cap with
  | nil =>
    obtain ⟨rfl, -⟩ := List.cons.inj hcons
    exact absurd hc (by decide)
  | cons d cap =>
    obtain ⟨-, rfl⟩ := List.cons.inj hcons
    exact ⟨_, after, leads_fieldRest.2 ⟨cap, List.not_mem_of_not_mem_cons hcap, rfl, rfl⟩⟩

theorem exists_of_turn?_field (h : field.turn? rest = some (put, after)) :
    ∃ w cap, IsBlank w ∧ '/' ∉ cap ∧ (∀ c ∈ cap.head?, ¬ Text.isBlank c) ∧
      rest = "<TextField".toList ++ (w ++ (cap ++ ("/>".toList ++ after))) ∧
      put = "<input className=\"form-control\" ".toList ++ (cap ++ " />".toList) := by
  obtain ⟨w, between, m, hw, hhead, rfl, rfl, hlead, -⟩ :=
    exists_of_turn?_fieldStart (x := field) (y := fieldRest) rfl
      (by decide) exists_leads_fieldRest h
  obtain ⟨cap, hcap, rfl, hm⟩ := leads_fieldRest.1 hlead
  refine ⟨w, cap, hw, hcap, ?_, rfl, ?_⟩
  · intro c hc
    refine hhead c ?_
    rw [List.head?_append, Option.mem_def.1 hc]
    rfl
  · simp only [template, Template.expand_append, Template.expand_cons, Template.expand_ofText,
      Template.expandPart, Match.group?_one hm, Option.getD_some]

theorem isSome_turn?_field {w cap : List Char} (hw : IsBlank w) (hcap : '/' ∉ cap)
    (after : List Char) :
    (field.turn? ("<TextField".toList ++ (w ++ (cap ++ ("/>".toList ++ after))))).isSome :=
  isSome_turn?_of_leads (isSound_of_mem (by decide)) _ after
    ⟨_, _, _, ⟨rfl, rfl⟩, ⟨_, _, _, (leads_blanks ..).2 ⟨w, hw, rfl, rfl⟩,
      leads_fieldRest.2 ⟨cap, hcap, rfl, rfl⟩, rfl⟩, rfl⟩

/-- **The places at which a text field is turned.** Its attributes hold no slash. -/
theorem turn?_field_iff : field.turn? rest = some (put, after) ↔
    ∃ w cap, IsBlank w ∧ '/' ∉ cap ∧ (∀ c ∈ cap.head?, ¬ Text.isBlank c) ∧
      rest = "<TextField".toList ++ (w ++ (cap ++ ("/>".toList ++ after))) ∧
      put = "<input className=\"form-control\" ".toList ++ (cap ++ " />".toList) := by
  refine ⟨exists_of_turn?_field, ?_⟩
  rintro ⟨w, cap, hw, hcap, hhead, rfl, rfl⟩
  obtain ⟨⟨put', after'⟩, hturn⟩ :=
    Option.isSome_iff_exists.1 (isSome_turn?_field hw hcap after)
  obtain ⟨w', cap', hw', hcap', hhead', hrest, rfl⟩ := exists_of_turn?_field hturn
  obtain ⟨rfl, htail⟩ := append_inj_of_forall (not_isBlank_of_mem_head?_append hhead (by decide))
    (not_isBlank_of_mem_head?_append hhead' (by decide)) hw.isBlank hw'.isBlank
    (List.append_cancel_left hrest)
  obtain ⟨rfl, htail⟩ := append_cons_inj_of_not_mem hcap hcap' htail
  obtain rfl : after = after' := by simpa using htail
  exact hturn

private theorem exists_leads_longFieldRest {c : Char} {cs after : List Char} {marks : List Mark}
    (hc : Text.isBlank c) (hlead : longFieldRest.Leads (fun _ => none) (c :: cs) marks after) :
    ∃ marks after, longFieldRest.Leads (fun _ => none) cs marks after := by
  obtain ⟨cap, between, inner, hcap, hcons, hinner, -⟩ := leads_longFieldRest.1 hlead
  cases cap with
  | nil =>
    obtain ⟨cap', -, rfl, -⟩ := leads_behindMultiline.1 hinner
    obtain ⟨rfl, -⟩ := List.cons.inj hcons
    exact absurd hc (by decide)
  | cons d cap =>
    obtain ⟨-, rfl⟩ := List.cons.inj hcons
    exact ⟨_, after, leads_longFieldRest.2
      ⟨cap, between, inner, List.not_mem_of_not_mem_cons hcap, rfl, hinner, rfl⟩⟩

/-- The first group of a text field of several lines stops as early as it can, and its end is marked
there. -/
private theorem way_behindMultiline_eq_none {cap behind v : List Char} {inner : List Mark} {n : Nat}
    (hway : way (fun _ => none) longFieldRest ends (cap ++ behind) =
      some ⟨⟨1, true, cap ++ behind, (cap ++ behind).length⟩ ::
        ⟨1, false, behind, behind.length⟩ :: inner, n⟩)
    (hv : v ≠ []) (hsuffix : v <:+ cap) :
    way (fun _ => none) behindMultiline ends (v ++ behind) = none := by
  change (run (otherThan '/') .fewer (fun r => (way (fun _ => none) behindMultiline ends r).map
    (.after [⟨1, false, r, r.length⟩])) _).map _ = _ at hway
  obtain ⟨t, hrun, ht⟩ := Option.map_eq_some_iff.1 hway
  obtain ⟨u, behind', -, hsplit, honward, hfirst⟩ := exists_of_run_fewer hrun
  obtain ⟨t', -, rfl⟩ := Option.map_eq_some_iff.1 honward
  have hmarks := congrArg Trail.marks ht
  simp only [Trail.after, List.cons_append, List.nil_append, List.cons.injEq, Mark.mk.injEq,
    true_and] at hmarks
  obtain ⟨⟨rfl, -⟩, -⟩ := hmarks
  obtain rfl := List.append_cancel_right hsplit
  exact Option.map_eq_none_iff.1 (hfirst v hv hsuffix)

/-- If the first group could stop at a `multiline` of its own, it would. -/
private theorem not_multiline_infix {cap cap' : List Char} (hcap : '/' ∉ cap) (hcap' : '/' ∉ cap')
    (hfirst : ∀ v, v ≠ [] → v <:+ cap → way (fun _ => none) behindMultiline ends
      (v ++ ("multiline".toList ++ (cap' ++ ("/>".toList ++ after)))) = none) :
    ¬ "multiline".toList <:+: cap := by
  rintro ⟨a, s, rfl⟩
  have hs : '/' ∉ s := fun hs => hcap (List.mem_append_right _ hs)
  have hsome := isSome_way_of_leads (fun _ => none) (x := behindMultiline)
    (by decide) (leads_behindMultiline.2 ⟨s ++ ("multiline".toList ++ cap'), by simp [hs, hcap'],
      rfl, rfl⟩) (rfl : (ends after).isSome)
  have hnone := hfirst ("multiline".toList ++ s) (by simp) ⟨a, by rw [List.append_assoc]⟩
  simp only [List.append_assoc] at hsome hnone
  rw [hnone] at hsome
  exact absurd hsome (by simp)

theorem exists_of_turn?_longField (h : longField.turn? rest = some (put, after)) :
    ∃ w cap cap', IsBlank w ∧ '/' ∉ cap ∧ '/' ∉ cap' ∧ (∀ c ∈ cap.head?, ¬ Text.isBlank c) ∧
      ¬ "multiline".toList <:+: cap ∧
      rest = "<TextField".toList ++
        (w ++ (cap ++ ("multiline".toList ++ (cap' ++ ("/>".toList ++ after))))) ∧
      put = "<textarea className=\"form-control\" ".toList ++
        (cap ++ (" ".toList ++ (cap' ++ "></textarea>".toList))) := by
  obtain ⟨w, between, m, hw, hhead, rfl, rfl, hlead, hway⟩ := exists_of_turn?_fieldStart
    (x := longField) (y := longFieldRest) rfl (by decide) exists_leads_longFieldRest h
  obtain ⟨cap, behind, inner, hcap, rfl, hinner, hm⟩ := leads_longFieldRest.1 hlead
  rw [hm] at hway
  obtain ⟨cap', hcap', rfl, rfl⟩ := leads_behindMultiline.1 hinner
  refine ⟨w, cap, cap', hw, hcap, hcap', ?_, ?_, rfl, ?_⟩
  · intro c hc
    refine hhead c ?_
    rw [List.head?_append, Option.mem_def.1 hc]
    rfl
  · exact not_multiline_infix hcap hcap' fun v hv => way_behindMultiline_eq_none hway hv
  · obtain ⟨hone, htwo⟩ := Match.group?_two cap cap' hm
    simp only [template, Template.expand_append, Template.expand_cons, Template.expand_ofText,
      Template.expandPart, hone, htwo, Option.getD_some, List.append_assoc]

/-- **The places at which a text field of several lines is turned.** Its attributes hold no slash,
and are cut at the first `multiline`. -/
theorem turn?_longField_iff : longField.turn? rest = some (put, after) ↔
    ∃ w cap cap', IsBlank w ∧ '/' ∉ cap ∧ '/' ∉ cap' ∧ (∀ c ∈ cap.head?, ¬ Text.isBlank c) ∧
      ¬ "multiline".toList <:+: cap ∧
      rest = "<TextField".toList ++
        (w ++ (cap ++ ("multiline".toList ++ (cap' ++ ("/>".toList ++ after))))) ∧
      put = "<textarea className=\"form-control\" ".toList ++
        (cap ++ (" ".toList ++ (cap' ++ "></textarea>".toList))) := by
  refine ⟨exists_of_turn?_longField, ?_⟩
  rintro ⟨w, cap, cap', hw, hcap, hcap', hhead, hfirst, rfl, rfl⟩
  have hlead : longField.shape.Leads (fun _ => none) ("<TextField".toList ++
      (w ++ (cap ++ ("multiline".toList ++ (cap' ++ ("/>".toList ++ after)))))) _ after :=
    ⟨_, _, _, ⟨rfl, rfl⟩, ⟨_, _, _, (leads_blanks ..).2 ⟨w, hw, rfl, rfl⟩, leads_longFieldRest.2
      ⟨cap, _, _, hcap, rfl, leads_behindMultiline.2 ⟨cap', hcap', rfl, rfl⟩, rfl⟩, rfl⟩, rfl⟩
  obtain ⟨⟨put', after'⟩, hturn⟩ := Option.isSome_iff_exists.1
    (isSome_turn?_of_leads (isSound_of_mem (by decide)) _ _ hlead)
  obtain ⟨w', cap₂, cap₂', hw', hcap₂, hcap₂', hhead', hfirst', hrest, rfl⟩ :=
    exists_of_turn?_longField hturn
  obtain ⟨rfl, htail⟩ := append_inj_of_forall (not_isBlank_of_mem_head?_append hhead (by decide))
    (not_isBlank_of_mem_head?_append hhead' (by decide)) hw.isBlank hw'.isBlank
    (List.append_cancel_left hrest)
  obtain ⟨rfl, hlater⟩ := append_inj_of_not_infix (show 'm' ∉ "ultiline".toList by decide)
    hfirst hfirst' htail
  obtain ⟨rfl, hend⟩ := append_cons_inj_of_not_mem hcap' hcap₂' hlater
  obtain rfl : after = after' := by simpa using hend
  exact hturn

end Field

/-! ### Other texts -/

/-- **The places at which a text is turned.** -/
theorem turn?_words_iff {old new : String} (hx : (words old new).isSound) :
    (words old new).turn? rest = some (put, after) ↔
      rest = old.toList ++ after ∧ put = new.toList := by
  have hsound {put after : List Char} (h : (words old new).turn? rest = some (put, after)) :
      rest = old.toList ++ after ∧ put = new.toList := by
    obtain ⟨-, m, -, -, -, -, rfl, hlead⟩ := exists_leads_of_turn? hx h
    exact ⟨hlead.1, Template.expand_ofText [] new m⟩
  refine ⟨hsound, ?_⟩
  rintro ⟨rfl, rfl⟩
  obtain ⟨⟨put', after'⟩, hturn⟩ := Option.isSome_iff_exists.1
    (isSome_turn?_of_leads hx [] after ⟨rfl, rfl⟩)
  obtain ⟨hrest, rfl⟩ := hsound hturn
  obtain rfl := List.append_cancel_left hrest
  exact hturn

/-! ### Imports -/

/-- **What the other forms remove.** The name of a package stands in every import that is removed,
and nothing takes its place. -/
theorem exists_mem_of_turn?_import {x : Form} (hx : x ∈ importForms)
    (h : x.turn? rest = some (put, after)) :
    ∃ u, rest = u ++ after ∧ '@' ∈ u ∧ put = [] := by
  have hsound := isSound_of_mem_importForms hx
  obtain ⟨⟨hplain, -⟩, -⟩ : (x.shape.isPlain ∧ x.shape.isFree) ∧ x.shape.canBeEmpty = false := by
    simpa [isSound] using hsound
  have hpackage : ∀ x ∈ importForms,
      (∃ part ∈ x.shape.landmarks, '@' ∈ part) ∧ x.template = [] := by decide
  obtain ⟨⟨part, hpart, hmem⟩, htemplate⟩ := hpackage x hx
  obtain ⟨-, m, -, -, -, -, rfl, hlead⟩ := exists_leads_of_turn? hsound h
  obtain ⟨u, rfl, hstand, -⟩ := Shape.exists_append_of_leads _ hplain hlead
  exact ⟨u, rfl, (Shape.infix_of_standInOrder hstand hpart).subset hmem, by rw [htemplate]; rfl⟩

/-- A form for imports has no match in a text that names no package. -/
theorem hits_eq_zero_of_not_mem {x : Form} (hx : x ∈ importForms) {text : List Char}
    (h : '@' ∉ text) : x.hits text = 0 := by
  rw [hits_eq_zero_iff (isSound_of_mem_importForms hx)]
  rintro rest ⟨before, rfl⟩
  rw [Option.eq_none_iff_forall_ne_some]
  rintro ⟨put, after⟩ hturn
  obtain ⟨u, rfl, hmem, -⟩ := exists_mem_of_turn?_import hx hturn
  exact h (by simp [hmem])

end Form

end Restyle
