import Restyle.Proofs.Pattern.Way

/-!
# The texts that a shape takes

A plain shape *leads* from one place of a text to another if it can take the text between them. The
preferred way through a shape is one of the ways on which it leads somewhere, and there is a
preferred way if there is any. So a match is found at a place exactly if the shape leads anywhere
from there, and the landmarks of the shape stand in its text.

## Main definitions

* `Restyle.Shape.Leads` — from where to where a plain shape leads, with the boundaries of groups.

## Main results

* `Restyle.Shape.exists_leads_of_way`, `Restyle.Shape.isSome_way_of_leads`.
* `Restyle.Shape.exists_append_of_leads` — what stands between the places.
* `Restyle.Shape.exists_leads_of_found?`, `Restyle.Shape.isSome_found?_of_leads`.
-/

namespace Restyle

namespace Shape

variable (prior : List Char → Option Char)

/-- A plain shape leads from the place before `rest` to the place before `after`, passing the given
boundaries of groups. -/
def Leads : Shape → List Char → List Mark → List Char → Prop
  | empty, rest, marks, after => rest = after ∧ marks = []
  | literal text, rest, marks, after => rest = text ++ after ∧ marks = []
  | one set, rest, marks, after => ∃ c, set.contains c ∧ rest = c :: after ∧ marks = []
  | anchor a, rest, marks, after => a.holds (prior rest) rest ∧ rest = after ∧ marks = []
  | seq a b, rest, marks, after => ∃ first between second,
    Leads a rest first between ∧ Leads b between second after ∧ marks = first ++ second
  | alt a b, rest, marks, after => Leads a rest marks after ∨ Leads b rest marks after
  | group i body, rest, marks, after => ∃ inner, Leads body rest inner after ∧
    marks = ⟨i, true, rest, rest.length⟩ :: (inner ++ [⟨i, false, after, after.length⟩])
  | repeated (one set) least none _, rest, marks, after => ∃ u : List Char,
    (∀ c ∈ u, set.contains c) ∧ least ≤ u.length ∧ rest = u ++ after ∧ marks = []
  | repeated body 0 (some 1) _, rest, marks, after =>
    Leads body rest marks after ∨ rest = after ∧ marks = []
  | repeated _ _ _ _, _, _, _ => False

theorem leads_optional (body : Shape) (p : Preference) (rest : List Char) (marks : List Mark)
    (after : List Char) :
    Leads prior (repeated body 0 (some 1) p) rest marks after ↔
      Leads prior body rest marks after ∨ rest = after ∧ marks = [] := by
  cases body <;> rfl

theorem Preference.pick_eq_some {p : Preference} {goOn stop : Option Trail} {t : Trail}
    (h : p.pick goOn stop = some t) : goOn = some t ∨ stop = some t := by
  cases p <;> cases goOn <;> cases stop <;> simp_all [Preference.pick]

theorem Preference.isSome_pick (p : Preference) (goOn stop : Option Trail) :
    (p.pick goOn stop).isSome = (goOn.isSome || stop.isSome) := by
  cases p <;> cases goOn <;> cases stop <;> rfl

/-! ### The preferred way is one of the ways -/

theorem exists_of_run {set : CharSet} {p : Preference} {onward : Onward} {t : Trail} :
    ∀ {rest : List Char}, run set p onward rest = some t →
      ∃ u after, (∀ c ∈ u, set.contains c) ∧ rest = u ++ after ∧ onward after = some t
  | [], h => ⟨[], [], by simp, rfl, h⟩
  | c :: cs, h => by
    rw [run] at h
    split at h
    · next hc =>
      rcases Preference.pick_eq_some h with h | h
      · obtain ⟨u, after, hu, rfl, ht⟩ := exists_of_run h
        exact ⟨c :: u, after, by simpa using ⟨hc, hu⟩, rfl, ht⟩
      · exact ⟨[], c :: cs, by simp, rfl, h⟩
    · exact ⟨[], c :: cs, by simp, rfl, h⟩

theorem exists_of_step {set : CharSet} {onward : Onward} {rest : List Char} {t : Trail}
    (h : step set onward rest = some t) :
    ∃ c after, set.contains c ∧ rest = c :: after ∧ onward after = some t := by
  cases rest with
  | nil => simp [step] at h
  | cons c cs =>
    rw [step] at h
    split at h
    · next hc => exact ⟨c, cs, hc, rfl, h⟩
    · simp at h

/-- The preferred way through a plain shape leads somewhere, and goes on from there. -/
theorem exists_leads_of_way : ∀ {x : Shape}, x.isPlain → ∀ {onward : Onward} {rest : List Char}
    {t : Trail}, way prior x onward rest = some t →
      ∃ marks after t', Leads prior x rest marks after ∧ onward after = some t' ∧
        t = t'.after marks
  | empty, _, onward, rest, t, h => ⟨[], rest, t, ⟨rfl, rfl⟩, h, rfl⟩
  | literal text, _, onward, rest, t, h => by
    simp only [way] at h
    split at h
    · next hp =>
      obtain ⟨after, rfl⟩ := List.isPrefixOf_iff_prefix.1 hp
      exact ⟨[], after, t, ⟨rfl, rfl⟩, by simpa using h, rfl⟩
    · simp at h
  | one set, _, onward, rest, t, h => by
    obtain ⟨c, after, hc, rfl, ht⟩ := exists_of_step h
    exact ⟨[], after, t, ⟨c, hc, rfl, rfl⟩, ht, rfl⟩
  | anchor a, _, onward, rest, t, h => by
    simp only [way] at h
    split at h
    · next ha => exact ⟨[], rest, t, ⟨ha, rfl, rfl⟩, h, rfl⟩
    · simp at h
  | seq a b, hx, onward, rest, t, h => by
    obtain ⟨ha, hb⟩ : a.isPlain ∧ b.isPlain := by simpa [isPlain] using hx
    obtain ⟨first, between, t₁, hfirst, h₁, rfl⟩ := exists_leads_of_way ha h
    obtain ⟨second, after, t₂, hsecond, h₂, rfl⟩ := exists_leads_of_way hb h₁
    exact ⟨first ++ second, after, t₂, ⟨first, between, second, hfirst, hsecond, rfl⟩, h₂,
      Trail.after_after first second t₂⟩
  | alt a b, hx, onward, rest, t, h => by
    obtain ⟨ha, hb⟩ : a.isPlain ∧ b.isPlain := by simpa [isPlain] using hx
    rw [way] at h
    rcases Option.or_eq_some_iff.1 h with h | ⟨-, h⟩
    · obtain ⟨marks, after, t', hlead, ht⟩ := exists_leads_of_way ha h
      exact ⟨marks, after, t', .inl hlead, ht⟩
    · obtain ⟨marks, after, t', hlead, ht⟩ := exists_leads_of_way hb h
      exact ⟨marks, after, t', .inr hlead, ht⟩
  | group i body, hx, onward, rest, t, h => by
    rw [way] at h
    obtain ⟨t₁, h₁, rfl⟩ := Option.map_eq_some_iff.1 h
    obtain ⟨inner, after, t₂, hlead, h₂, rfl⟩ := exists_leads_of_way (x := body) hx h₁
    obtain ⟨t₃, h₃, rfl⟩ := Option.map_eq_some_iff.1 h₂
    exact ⟨_, after, t₃, ⟨inner, hlead, rfl⟩, h₃, by simp [Trail.after_after]⟩
  | repeated body least most p, hx, onward, rest, t, h => by
    rcases isPlain_repeated hx with ⟨set, rfl, rfl, rfl | rfl⟩ | ⟨rfl, rfl, hbody, -⟩
    · obtain ⟨u, after, hu, rfl, ht⟩ := exists_of_run h
      exact ⟨[], after, t, ⟨u, hu, Nat.zero_le _, rfl, rfl⟩, ht, rfl⟩
    · obtain ⟨c, between, hc, rfl, hrun⟩ := exists_of_step h
      obtain ⟨u, after, hu, rfl, ht⟩ := exists_of_run hrun
      exact ⟨[], after, t, ⟨c :: u, by simpa using ⟨hc, hu⟩, by simp, rfl, rfl⟩, ht, rfl⟩
    · rw [way_optional] at h
      rcases Preference.pick_eq_some h with h | h
      · obtain ⟨marks, after, t', hlead, ht⟩ := exists_leads_of_way hbody h
        exact ⟨marks, after, t', (leads_optional ..).2 (.inl hlead), ht⟩
      · exact ⟨[], rest, t, (leads_optional ..).2 (.inr ⟨rfl, rfl⟩), h, rfl⟩

/-! ### There is a preferred way if there is any -/

theorem isSome_run {set : CharSet} (p : Preference) {onward : Onward} {after : List Char}
    (h : (onward after).isSome) : ∀ {u : List Char}, (∀ c ∈ u, set.contains c) →
      (run set p onward (u ++ after)).isSome
  | [], _ => by
    rw [List.nil_append, run_eq_pick, Preference.isSome_pick, h, Bool.or_true]
  | c :: u, hu => by
    rw [List.cons_append, run, if_pos (hu c (by simp)), Preference.isSome_pick,
      isSome_run p h fun d hd => hu d (by simp [hd]), Bool.true_or]

/-- A repetition that prefers more rounds stops at the last place from which what follows goes on,
among those that it comes to. -/
theorem exists_of_run_last {set : CharSet} {onward : Onward} {t : Trail} :
    ∀ {rest : List Char}, run set .more onward rest = some t →
      ∃ u after, (∀ c ∈ u, set.contains c) ∧ rest = u ++ after ∧ onward after = some t ∧
        ∀ v w, v ≠ [] → (∀ c ∈ v, set.contains c) → after = v ++ w → onward w = none
  | [], h => by
    refine ⟨[], [], by simp, rfl, h, fun v w hv _ hsplit => absurd ?_ hv⟩
    exact (List.append_eq_nil_iff.1 hsplit.symm).1
  | c :: cs, h => by
    rw [run] at h
    split at h
    · next hc =>
      cases hrun : run set .more onward cs with
      | some t' =>
        obtain rfl : t' = t := by simpa [hrun, Preference.pick] using h
        obtain ⟨u, after, hu, rfl, ht, hlast⟩ := exists_of_run_last hrun
        exact ⟨c :: u, after, by simpa using ⟨hc, hu⟩, rfl, ht, hlast⟩
      | none =>
        refine ⟨[], c :: cs, by simp, rfl, by simpa [hrun, Preference.pick] using h, ?_⟩
        rintro (_ | ⟨d, v⟩) w hv hset hsplit
        · exact absurd rfl hv
        obtain ⟨rfl, hcs⟩ : c = d ∧ cs = v ++ w := by simpa using hsplit
        by_contra hsome
        have hgoOn := isSome_run .more (Option.isSome_iff_ne_none.2 hsome)
          (List.forall_mem_cons.1 hset).2
        rw [← hcs, hrun] at hgoOn
        exact Bool.noConfusion hgoOn
    · next hc =>
      refine ⟨[], c :: cs, by simp, rfl, h, ?_⟩
      rintro (_ | ⟨d, v⟩) w hv hset hsplit
      · exact absurd rfl hv
      obtain ⟨rfl, -⟩ := List.cons.inj hsplit
      exact absurd (hset c List.mem_cons_self) hc

/-- A repetition that prefers more rounds takes all characters of the set, if what follows can go on
from a place whenever it can go on from the place before a character of the set. -/
theorem exists_of_run_more {set : CharSet} {onward : Onward} {t : Trail}
    (hmono : ∀ {c cs}, set.contains c → (onward (c :: cs)).isSome → (onward cs).isSome)
    {rest : List Char} (h : run set .more onward rest = some t) :
    ∃ u after, (∀ c ∈ u, set.contains c) ∧ (∀ c ∈ after.head?, ¬ set.contains c) ∧
      rest = u ++ after ∧ onward after = some t := by
  obtain ⟨u, after, hu, rfl, ht, hlast⟩ := exists_of_run_last h
  refine ⟨u, after, hu, fun c hc hset => ?_, rfl, ht⟩
  obtain ⟨cs, rfl⟩ : ∃ cs, after = c :: cs := List.head?_eq_some_iff.1 hc
  have hgoOn := hmono hset (Option.isSome_iff_exists.2 ⟨t, ht⟩)
  rw [hlast [c] cs (by simp) (by simpa using hset) rfl] at hgoOn
  exact Bool.noConfusion hgoOn

/-- A repetition that prefers fewer rounds stops at the first place from which what follows goes
on. -/
theorem exists_of_run_fewer {set : CharSet} {onward : Onward} {t : Trail} :
    ∀ {rest : List Char}, run set .fewer onward rest = some t →
      ∃ u after, (∀ c ∈ u, set.contains c) ∧ rest = u ++ after ∧ onward after = some t ∧
        ∀ v, v ≠ [] → v <:+ u → onward (v ++ after) = none
  | [], h => ⟨[], [], by simp, rfl, h, fun v hv hsuffix => absurd (List.suffix_nil.1 hsuffix) hv⟩
  | c :: cs, h => by
    have hnil {v : List Char} (hv : v ≠ []) (hsuffix : v <:+ []) : onward (v ++ c :: cs) = none :=
      absurd (List.suffix_nil.1 hsuffix) hv
    rw [run] at h
    split at h
    · next hc =>
      cases hstop : onward (c :: cs) with
      | some t' =>
        obtain rfl : t' = t := by simpa [hstop, Preference.pick] using h
        exact ⟨[], c :: cs, by simp, rfl, hstop, fun v hv hsuffix => hnil hv hsuffix⟩
      | none =>
        have hrun : run set .fewer onward cs = some t := by
          simpa [hstop, Preference.pick] using h
        obtain ⟨u, after, hu, rfl, ht, hfirst⟩ := exists_of_run_fewer hrun
        refine ⟨c :: u, after, by simpa using ⟨hc, hu⟩, rfl, ht, fun v hv hsuffix => ?_⟩
        rcases List.suffix_cons_iff.1 hsuffix with rfl | hsuffix
        · exact hstop
        · exact hfirst v hv hsuffix
    · exact ⟨[], c :: cs, by simp, rfl, h, fun v hv hsuffix => hnil hv hsuffix⟩

/-- If a plain shape leads to a place from which what follows goes on, it has a preferred way. -/
theorem isSome_way_of_leads : ∀ {x : Shape}, x.isPlain → ∀ {onward : Onward}
    {rest after : List Char} {marks : List Mark}, Leads prior x rest marks after →
      (onward after).isSome → (way prior x onward rest).isSome
  | empty, _, onward, rest, after, marks, ⟨hrest, _⟩, h => by rwa [hrest]
  | literal text, _, onward, rest, after, marks, ⟨hrest, _⟩, h => by simpa [way, hrest] using h
  | one set, _, onward, rest, after, marks, ⟨c, hc, hrest, _⟩, h => by
    simpa [way, step, hrest, hc] using h
  | anchor a, _, onward, rest, after, marks, ⟨ha, hrest, _⟩, h => by
    subst hrest
    simpa [way, ha] using h
  | seq a b, hx, onward, rest, after, marks, ⟨first, between, second, hfirst, hsecond, _⟩, h => by
    obtain ⟨ha, hb⟩ : a.isPlain ∧ b.isPlain := by simpa [isPlain] using hx
    exact isSome_way_of_leads ha hfirst (isSome_way_of_leads hb hsecond h)
  | alt a b, hx, onward, rest, after, marks, hlead, h => by
    obtain ⟨ha, hb⟩ : a.isPlain ∧ b.isPlain := by simpa [isPlain] using hx
    rw [way, Option.isSome_or]
    rcases hlead with hlead | hlead
    · rw [isSome_way_of_leads ha hlead h, Bool.true_or]
    · rw [isSome_way_of_leads hb hlead h, Bool.or_true]
  | group i body, hx, onward, rest, after, marks, ⟨inner, hlead, _⟩, h => by
    rw [way, Option.isSome_map]
    exact isSome_way_of_leads (x := body) hx hlead (by rwa [Option.isSome_map])
  | repeated body least most p, hx, onward, rest, after, marks, hlead, h => by
    rcases isPlain_repeated hx with ⟨set, rfl, rfl, rfl | rfl⟩ | ⟨rfl, rfl, hbody, -⟩
    · obtain ⟨u, hu, -, rfl, -⟩ := hlead
      exact isSome_run p h hu
    · obtain ⟨u, hu, hlength, rfl, -⟩ := hlead
      cases u with
      | nil => simp at hlength
      | cons c u =>
        rw [way, List.cons_append, step, if_pos (hu c (by simp))]
        exact isSome_run p h fun d hd => hu d (by simp [hd])
    · rw [way_optional, Preference.isSome_pick]
      rcases (leads_optional ..).1 hlead with hlead | ⟨rfl, -⟩
      · rw [isSome_way_of_leads hbody hlead h, Bool.true_or]
      · rw [h, Bool.or_true]

/-! ### Shapes one after another -/

theorem way_ofParts_append (xs : List Shape) {ys : List Shape} (hys : ys ≠ []) (onward : Onward) :
    way prior (ofParts (xs ++ ys)) onward =
      way prior (ofParts xs) (way prior (ofParts ys) onward) := by
  induction xs with
  | nil => rfl
  | cons x xs ih =>
    cases xs with
    | nil =>
      obtain ⟨y, ys, rfl⟩ := List.exists_cons_of_ne_nil hys
      rfl
    | cons x' xs =>
      change way prior x (way prior (ofParts (x' :: xs ++ ys)) onward) = _
      rw [ih]
      rfl

theorem leads_ofParts_append {xs ys : List Shape} (hys : ys ≠ []) {rest after : List Char}
    {marks : List Mark} :
    (ofParts (xs ++ ys)).Leads prior rest marks after ↔
      ∃ first between second, (ofParts xs).Leads prior rest first between ∧
        (ofParts ys).Leads prior between second after ∧ marks = first ++ second := by
  induction xs generalizing rest marks with
  | nil =>
    constructor
    · exact fun h => ⟨[], rest, marks, ⟨rfl, rfl⟩, h, rfl⟩
    · rintro ⟨_, _, second, ⟨rfl, rfl⟩, h, rfl⟩
      exact h
  | cons x xs ih =>
    cases xs with
    | nil =>
      obtain ⟨y, ys, rfl⟩ := List.exists_cons_of_ne_nil hys
      exact Iff.rfl
    | cons x' xs =>
      constructor
      · rintro ⟨first, between, second, hx, h, rfl⟩
        obtain ⟨first', between', second', hxs, hys, rfl⟩ := ih.1 h
        exact ⟨first ++ first', between', second', ⟨first, between, first', hx, hxs, rfl⟩, hys,
          (List.append_assoc first first' second').symm⟩
      · rintro ⟨_, between, second, ⟨first, between', first', hx, hxs, rfl⟩, hys, rfl⟩
        exact ⟨first, between', first' ++ second, hx, ih.2 ⟨first', between, second, hxs, hys, rfl⟩,
          List.append_assoc first first' second⟩

/-! ### Landmarks -/

theorem standInOrder_cons_iff {part : List Char} {parts : List (List Char)} {text : List Char}
    (hmono : ∀ {a b : List Char}, standInOrder parts b → standInOrder parts (a ++ b)) :
    standInOrder (part :: parts) text ↔
      ∃ a b, text = a ++ (part ++ b) ∧ standInOrder parts b := by
  rw [standInOrder]
  constructor
  · intro h
    split at h
    · next b hb =>
      obtain ⟨a, htext⟩ := exists_append_of_textBehind? hb
      exact ⟨a, b, htext, h⟩
    · simp at h
  · rintro ⟨a, b, rfl, hb⟩
    obtain ⟨u, hu⟩ : ∃ u, textBehind? part (a ++ (part ++ b)) = some (u ++ b) := by
      induction a with
      | nil =>
        cases part with
        | nil => cases b <;> exact ⟨[], rfl⟩
        | cons d ds => exact ⟨[], by simp [textBehind?]⟩
      | cons c a ih =>
        rw [List.cons_append, textBehind?]
        split
        · next hp =>
          obtain ⟨v, hv⟩ := List.isPrefixOf_iff_prefix.1 hp
          have hlength := congrArg List.length hv
          simp only [List.length_append, List.length_cons] at hlength
          refine ⟨(c :: a ++ part).drop part.length, ?_⟩
          have hle : part.length ≤ (c :: a ++ part).length := by
            simp only [List.length_append, List.length_cons]
            omega
          rw [← List.drop_append_of_le_length hle]
          simp
        · exact ih
    rw [hu]
    exact hmono hb

theorem standInOrder_append_left : ∀ {parts : List (List Char)} {a b : List Char},
    standInOrder parts b → standInOrder parts (a ++ b)
  | [], _, _, _ => rfl
  | part :: parts, a, b, h => by
    have hmono {a b : List Char} : standInOrder parts b → standInOrder parts (a ++ b) :=
      standInOrder_append_left
    obtain ⟨u, v, rfl, hv⟩ := (standInOrder_cons_iff hmono).1 h
    exact (standInOrder_cons_iff hmono).2 ⟨a ++ u, v, by simp, hv⟩

theorem standInOrder_append : ∀ {first second : List (List Char)} {a b : List Char},
    standInOrder first a → standInOrder second b → standInOrder (first ++ second) (a ++ b)
  | [], _, _, _, _, h => standInOrder_append_left h
  | part :: first, second, a, b, ha, hb => by
    obtain ⟨u, v, rfl, hv⟩ := (standInOrder_cons_iff standInOrder_append_left).1 ha
    exact (standInOrder_cons_iff standInOrder_append_left).2
      ⟨u, v ++ b, by simp, standInOrder_append hv hb⟩

/-- Parts that stand in a text one after another stand in it. -/
theorem infix_of_standInOrder : ∀ {parts : List (List Char)} {text part : List Char},
    standInOrder parts text → part ∈ parts → part <:+: text
  | [], _, _, _, h => absurd h List.not_mem_nil
  | first :: parts, text, part, h, hpart => by
    obtain ⟨u, v, rfl, hv⟩ := (standInOrder_cons_iff standInOrder_append_left).1 h
    rcases List.mem_cons.1 hpart with rfl | hpart
    · exact List.infix_append' u part v
    · exact (infix_of_standInOrder hv hpart).trans ⟨u ++ first, [], by simp⟩

/-- What stands between the places that a plain shape leads from and to: it holds the landmarks of
the shape, and is not empty if the shape must take text. -/
theorem exists_append_of_leads : ∀ {x : Shape}, x.isPlain → ∀ {rest after : List Char}
    {marks : List Mark}, Leads prior x rest marks after →
      ∃ u, rest = u ++ after ∧ standInOrder x.landmarks u ∧ (x.canBeEmpty = false → u ≠ [])
  | empty, _, rest, after, marks, ⟨hrest, _⟩ => ⟨[], hrest, rfl, by simp [canBeEmpty]⟩
  | literal text, hx, rest, after, marks, ⟨hrest, _⟩ =>
    ⟨text, hrest, (standInOrder_cons_iff standInOrder_append_left).2 ⟨[], [], by simp, rfl⟩,
      fun _ => by simpa [isPlain] using hx⟩
  | one set, _, rest, after, marks, ⟨c, _, hrest, _⟩ => ⟨[c], hrest, rfl, by simp⟩
  | anchor a, _, rest, after, marks, ⟨_, hrest, _⟩ => ⟨[], hrest, rfl, by simp [canBeEmpty]⟩
  | seq a b, hx, rest, after, marks, ⟨first, between, second, hfirst, hsecond, _⟩ => by
    obtain ⟨ha, hb⟩ : a.isPlain ∧ b.isPlain := by simpa [isPlain] using hx
    obtain ⟨u, rfl, hu, hu'⟩ := exists_append_of_leads ha hfirst
    obtain ⟨v, rfl, hv, hv'⟩ := exists_append_of_leads hb hsecond
    refine ⟨u ++ v, by simp, standInOrder_append hu hv, ?_⟩
    intro h
    rw [canBeEmpty, Bool.and_eq_false_iff] at h
    rcases h with h | h
    · simp [hu' h]
    · simp [hv' h]
  | alt a b, hx, rest, after, marks, hlead => by
    obtain ⟨ha, hb⟩ : a.isPlain ∧ b.isPlain := by simpa [isPlain] using hx
    rcases hlead with hlead | hlead
    · obtain ⟨u, rfl, -, hu⟩ := exists_append_of_leads ha hlead
      exact ⟨u, rfl, rfl, fun h => hu (Bool.or_eq_false_iff.1 h).1⟩
    · obtain ⟨u, rfl, -, hu⟩ := exists_append_of_leads hb hlead
      exact ⟨u, rfl, rfl, fun h => hu (Bool.or_eq_false_iff.1 h).2⟩
  | group i body, hx, rest, after, marks, ⟨inner, hlead, _⟩ =>
    exists_append_of_leads (x := body) hx hlead
  | repeated body least most p, hx, rest, after, marks, hlead => by
    rcases isPlain_repeated hx with ⟨set, rfl, rfl, rfl | rfl⟩ | ⟨rfl, rfl, hbody, -⟩
    · obtain ⟨u, -, -, rfl, -⟩ := hlead
      exact ⟨u, rfl, rfl, by simp [canBeEmpty]⟩
    · obtain ⟨u, -, hlength, rfl, -⟩ := hlead
      exact ⟨u, rfl, rfl, fun _ => List.ne_nil_of_length_pos hlength⟩
    · rcases (leads_optional ..).1 hlead with hlead | ⟨rfl, -⟩
      · obtain ⟨u, rfl, -, -⟩ := exists_append_of_leads hbody hlead
        exact ⟨u, rfl, rfl, by simp [canBeEmpty]⟩
      · exact ⟨[], rfl, rfl, by simp [canBeEmpty]⟩

/-! ### Matches at places -/

/-- A match that is found at a place is made on a way on which the shape leads from there. -/
theorem exists_leads_of_found? {x : Shape} (hx : x.isPlain) {rest : List Char} {m : Match}
    (h : found? prior x rest = some m) :
    ∃ u after, rest = u ++ after ∧ Leads prior x rest m.marks after ∧ m.start = rest ∧
      m.length = u.length := by
  obtain ⟨t, ht, rfl⟩ := Option.map_eq_some_iff.1 h
  obtain ⟨marks, after, t', hlead, ht', rfl⟩ := exists_leads_of_way prior hx ht
  obtain ⟨u, rfl, -, -⟩ := exists_append_of_leads prior hx hlead
  obtain rfl : ⟨[], after.length⟩ = t' := by simpa [ends] using ht'
  exact ⟨u, after, rfl, by simpa [Match.along, Trail.after] using hlead, rfl,
    by simp [Match.along, Trail.after]⟩

/-- A match is found at a place if the shape leads anywhere from there. -/
theorem isSome_found?_of_leads {x : Shape} (hx : x.isPlain) {rest after : List Char}
    {marks : List Mark} (h : Leads prior x rest marks after) : (found? prior x rest).isSome := by
  rw [found?, Option.isSome_map]
  exact isSome_way_of_leads prior hx h rfl

end Shape

end Restyle
