import Mathlib.Logic.Function.Iterate
import Restyle.Proofs.Rule.Load
import Restyle.Proofs.Rule.Report

/-!
# Repeated conversion comes to an end

Every match of a rule of the table lowers the load of a text, so a rule that matches changes the
text, and the rules that are reported are those that change it. A text that is not left as it is by
the table has a lower load afterwards. Therefore no text comes back when the table is applied again
and again, and the load bounds the number of rounds until nothing changes.

## Main definitions

* `Restyle.Rule.hits` — the number of matches of a rule.

## Main results

* `Restyle.Rule.apply_eq_self_iff` — a rule of the table leaves a text as it is only without a
  match.
* `Restyle.RuleSet.map_index_reportFrom` — the rules that are reported.
* `Restyle.applyChars_eq_self_iff` — the table leaves a text as it is only if no rule matches it.
* `Restyle.iterate_fixed_of_load_le` — the number of rounds.
* `Restyle.bootstrapRules_converge` — reports are of changes, and repeated conversion comes to an
  end.
-/

namespace Restyle

/-- The number of matches of a rule in a text. -/
def Rule.hits (r : Rule) (text : List Char) : Nat := (r.segments text).countP (·.match?.isSome)

/-! ### Reports of rules that change what they match -/

namespace RuleSet

/-- Rules that leave a text as it is exactly if they do not match it. -/
def IsExact (rs : RuleSet) : Prop := ∀ r ∈ rs, ∀ text, r.apply text = text ↔ r.hits text = 0

variable {rs : RuleSet}

@[simp] theorem applyChars_nil (text : List Char) : applyChars [] text = text := rfl

@[simp] theorem applyChars_cons (r : Rule) (text : List Char) :
    applyChars (r :: rs) text = rs.applyChars (r.apply text) := rfl

/-- **The rules that are reported** are those that change the text that the rules before them have
made, each once and in order. -/
theorem map_index_reportFrom : ∀ {rs : RuleSet}, rs.IsExact → ∀ (index : Nat) (text : List Char),
    (reportFrom index rs text).2.map (·.index) =
      ((List.range rs.length).filter fun i =>
        applyChars (rs.take (i + 1)) text ≠ applyChars (rs.take i) text).map (index + ·)
  | [], _, _, _ => rfl
  | r :: rs, h, index, text => by
    have hr := h r (by simp) text
    have hrest : IsExact rs := fun q hq => h q (by simp [hq])
    have ih (text : List Char) := map_index_reportFrom hrest (index + 1) text
    have hshift : (fun i => index + (i + 1)) = fun i => index + 1 + i := by
      funext i
      omega
    have hlater : ((List.range rs.length).map (· + 1)).filter (fun i =>
        applyChars ((r :: rs).take (i + 1)) text ≠ applyChars ((r :: rs).take i) text) =
          ((List.range rs.length).filter fun i => applyChars (rs.take (i + 1)) (r.apply text) ≠
            applyChars (rs.take i) (r.apply text)).map (· + 1) := by
      rw [List.filter_map]
      rfl
    rw [reportFrom, List.length_cons, List.range_succ_eq_map, List.filter_cons]
    change _ = List.map _ (if _ then 0 :: List.filter _ ((List.range rs.length).map (· + 1)) else _)
    rw [hlater]
    split
    · next hcount =>
      have hsame : r.apply text = text := hr.2 hcount
      rw [if_neg (by simp [hsame]), ih, List.map_map, hsame]
      exact congrArg (List.map · _) hshift.symm
    · next hcount =>
      have hchange : r.apply text ≠ text := fun h => hcount (hr.1 h)
      rw [if_pos (by simpa using hchange), List.map_cons, List.map_cons, List.map_map]
      refine congrArg₂ List.cons rfl ((ih (r.apply text)).trans ?_)
      exact congrArg (List.map · _) hshift.symm

/-- Nothing is reported if no rule has a match in the text. -/
theorem snd_reportFrom_eq_nil_iff : ∀ {rs : RuleSet} {index : Nat} {text : List Char},
    (reportFrom index rs text).2 = [] ↔ ∀ r ∈ rs, r.hits text = 0
  | [], _, _ => by simp [reportFrom]
  | r :: rs, index, text => by
    have ih : (reportFrom (index + 1) rs text).2 = [] ↔ ∀ r ∈ rs, r.hits text = 0 :=
      snd_reportFrom_eq_nil_iff
    rw [reportFrom]
    split
    · next hcount => simpa [show r.hits text = 0 from hcount] using ih
    · next hcount => simpa using fun h : r.hits text = 0 => absurd h hcount

theorem snd_report (rs : RuleSet) (text : String) :
    (rs.report text).2 = (reportFrom 0 rs text.toList).2 := rfl

end RuleSet

/-! ### The load under the rules of the table -/

theorem exists_form_and_exists_rule {rs : RuleSet} {xs : List Form}
    (h : List.Forall₂ Rule.HasForm rs xs) :
    (∀ r ∈ rs, ∃ x ∈ xs, r.HasForm x) ∧ ∀ x ∈ xs, ∃ r ∈ rs, r.HasForm x := by
  induction h with
  | nil => simp
  | cons h _ ih =>
    obtain ⟨hforms, hrules⟩ := ih
    constructor
    · rintro r (_ | ⟨_, hr⟩)
      · exact ⟨_, List.mem_cons_self, h⟩
      · obtain ⟨x, hx, hform⟩ := hforms r hr
        exact ⟨x, List.mem_cons_of_mem _ hx, hform⟩
    · rintro x (_ | ⟨_, hx⟩)
      · exact ⟨_, List.mem_cons_self, h⟩
      · obtain ⟨r, hr, hform⟩ := hrules x hx
        exact ⟨r, List.mem_cons_of_mem _ hr, hform⟩

theorem exists_form_of_mem {r : Rule} (h : r ∈ bootstrapRules) :
    ∃ x ∈ bootstrapForms, r.HasForm x :=
  (exists_form_and_exists_rule forall₂_bootstrapRules).1 r h

theorem exists_rule_of_mem {x : Form} (h : x ∈ bootstrapForms) :
    ∃ r ∈ bootstrapRules, r.HasForm x :=
  (exists_form_and_exists_rule forall₂_bootstrapRules).2 x h

namespace Rule

variable {r : Rule}

theorem HasForm.hits_eq {x : Form} (h : r.HasForm x) (text : List Char) :
    r.hits text = x.hits text := by
  rw [hits, h.segments_eq, Form.hits]

theorem load_apply_add_hits_le_of_mem (h : r ∈ bootstrapRules) (text : List Char) :
    load (r.apply text) + r.hits text ≤ load text := by
  obtain ⟨x, hx, hform⟩ := exists_form_of_mem h
  rw [hform.apply_eq, hform.hits_eq]
  exact Form.load_apply_add_hits_le hx text

/-- **A rule of the table leaves a text as it is only if it has no match in it.** -/
theorem apply_eq_self_iff (h : r ∈ bootstrapRules) {text : List Char} :
    r.apply text = text ↔ r.hits text = 0 := by
  constructor
  · intro hsame
    have := load_apply_add_hits_le_of_mem h text
    rw [hsame] at this
    omega
  · intro hhits
    obtain ⟨x, hx, hform⟩ := exists_form_of_mem h
    rw [hform.apply_eq]
    exact Form.apply_eq_self_of_hits_eq_zero (Form.isSound_of_mem hx) (hform.hits_eq text ▸ hhits)

end Rule

theorem isExact_bootstrapRules : RuleSet.IsExact bootstrapRules :=
  fun _ hr _ => Rule.apply_eq_self_iff hr

/-- Rules of the table do not raise the load, and keep it only if none of them has a match. -/
theorem load_applyChars_le : ∀ {rs : RuleSet}, rs ⊆ bootstrapRules → ∀ text : List Char,
    load (rs.applyChars text) ≤ load text ∧
      (load (rs.applyChars text) = load text → ∀ r ∈ rs, r.hits text = 0)
  | [], _, text => ⟨Nat.le_refl _, by simp⟩
  | r :: rs, h, text => by
    have hr : r ∈ bootstrapRules := h (by simp)
    have hload := Rule.load_apply_add_hits_le_of_mem hr text
    have hlater : rs ⊆ bootstrapRules := fun q hq => h (by simp [hq])
    obtain ⟨hle, heq⟩ := load_applyChars_le hlater (r.apply text)
    rw [RuleSet.applyChars_cons]
    refine ⟨by omega, fun hsame => ?_⟩
    have hhits : r.hits text = 0 := by omega
    have happly : r.apply text = text := (Rule.apply_eq_self_iff hr).2 hhits
    have hrest := heq (by rw [hsame, happly])
    rw [happly] at hrest
    simpa [hhits] using hrest

/-- The table leaves a text as it is only if no rule of it has a match in the text. -/
theorem applyChars_eq_self_iff {text : List Char} :
    bootstrapRules.applyChars text = text ↔ ∀ r ∈ bootstrapRules, r.hits text = 0 := by
  constructor
  · intro h
    exact (load_applyChars_le (List.Subset.refl _) text).2 (congrArg load h)
  · have aux : ∀ {rs : RuleSet}, rs ⊆ bootstrapRules → (∀ r ∈ rs, r.hits text = 0) →
        rs.applyChars text = text := by
      intro rs hrs hhits
      induction rs with
      | nil => rfl
      | cons r rs ih =>
        rw [RuleSet.applyChars_cons, (Rule.apply_eq_self_iff (hrs (by simp))).2 (hhits r (by simp)),
          ih (fun q hq => hrs (by simp [hq])) fun q hq => hhits q (by simp [hq])]
    exact aux (List.Subset.refl _)

/-- A text that the table changes has a lower load afterwards. -/
theorem load_applyChars_lt {text : List Char} (h : bootstrapRules.applyChars text ≠ text) :
    load (bootstrapRules.applyChars text) < load text := by
  obtain ⟨hle, heq⟩ := load_applyChars_le (List.Subset.refl bootstrapRules) text
  exact Nat.lt_of_le_of_ne hle fun hsame => h (applyChars_eq_self_iff.2 (heq hsame))

/-! ### Repeated conversion -/

/-- After as many rounds as the load of a text nothing changes. -/
theorem iterate_fixed_of_load_le {n : Nat} {text : List Char} (h : load text ≤ n) :
    bootstrapRules.applyChars (bootstrapRules.applyChars^[n] text) =
      bootstrapRules.applyChars^[n] text := by
  induction n generalizing text with
  | zero =>
    by_contra hchange
    have := load_applyChars_lt hchange
    rw [Function.iterate_zero_apply] at this
    omega
  | succ n ih =>
    by_cases hsame : bootstrapRules.applyChars text = text
    · rw [Function.iterate_fixed hsame, hsame]
    · have hlt := load_applyChars_lt hsame
      rw [Function.iterate_succ_apply]
      exact ih (by omega)

theorem load_iterate_le (text : List Char) : ∀ n : Nat,
    load (bootstrapRules.applyChars^[n] text) ≤ load text
  | 0 => Nat.le_refl _
  | n + 1 => by
    rw [Function.iterate_succ_apply']
    exact ((load_applyChars_le (List.Subset.refl _) _).1).trans (load_iterate_le text n)

/-- A text that comes back is left as it is. -/
theorem applyChars_eq_of_iterate_eq {text : List Char} {n : Nat}
    (h : bootstrapRules.applyChars^[n + 1] text = text) :
    bootstrapRules.applyChars text = text := by
  by_contra hchange
  have hlt := load_applyChars_lt hchange
  have hle := load_iterate_le (bootstrapRules.applyChars text) n
  rw [← Function.iterate_succ_apply, h] at hle
  omega

theorem toList_iterate_apply (text : String) (n : Nat) :
    ((bootstrapRules.apply)^[n] text).toList = bootstrapRules.applyChars^[n] text.toList := by
  induction n with
  | zero => rfl
  | succ n ih =>
    rw [Function.iterate_succ_apply', Function.iterate_succ_apply', ← ih, RuleSet.apply,
      String.toList_ofList]

theorem apply_eq_iff {text : String} :
    bootstrapRules.apply text = text ↔ bootstrapRules.applyChars text.toList = text.toList := by
  rw [RuleSet.apply, ← String.toList_inj, String.toList_ofList]

/-- **Every report is of a change, and repeated conversion comes to an end.** A rule of the table
that has a match in the text that the rules before it have made changes this text. So the reported
text is the text that the table makes, nothing is reported exactly if it is the text itself, and the
reported rules are those that change the text made before them. No text comes back when the table is
applied again and again, unless it is left as it is; and after twice as many rounds as there are
characters, the text is left as it is. -/
theorem bootstrapRules_converge (text : String) :
    (∀ i r, bootstrapRules[i]? = some r →
      r.pattern.shape.matchesIn (RuleSet.applyChars (bootstrapRules.take i) text.toList) ≠ [] →
        r.apply (RuleSet.applyChars (bootstrapRules.take i) text.toList) ≠
          RuleSet.applyChars (bootstrapRules.take i) text.toList) ∧
    (bootstrapRules.report text).1 = bootstrapRules.apply text ∧
    ((bootstrapRules.report text).2 = [] ↔ bootstrapRules.apply text = text) ∧
    (bootstrapRules.report text).2.map (·.index) =
      (List.range bootstrapRules.length).filter (fun i =>
      RuleSet.applyChars (bootstrapRules.take (i + 1)) text.toList ≠
        RuleSet.applyChars (bootstrapRules.take i) text.toList) ∧
    (∀ i j, i < j → (bootstrapRules.apply)^[i] text = (bootstrapRules.apply)^[j] text →
      bootstrapRules.apply ((bootstrapRules.apply)^[i] text) = (bootstrapRules.apply)^[i] text) ∧
    bootstrapRules.apply ((bootstrapRules.apply)^[2 * text.length] text) =
      (bootstrapRules.apply)^[2 * text.length] text := by
  refine ⟨?_, ?_, ?_, ?_, ?_, ?_⟩
  · intro i r hr hmatch hsame
    have hhits := (Rule.apply_eq_self_iff (List.mem_of_getElem? hr)).1 hsame
    refine hmatch (List.length_eq_zero_iff.1 ?_)
    rw [Shape.matchesIn, List.length_filterMap_eq_countP]
    exact hhits
  · exact RuleSet.fst_report_eq_apply bootstrapRules text
  · rw [RuleSet.snd_report, RuleSet.snd_reportFrom_eq_nil_iff, apply_eq_iff, applyChars_eq_self_iff]
  · rw [RuleSet.snd_report, RuleSet.map_index_reportFrom isExact_bootstrapRules]
    simp only [Nat.zero_add, List.map_id']
  · intro i j hij hsame
    obtain ⟨n, rfl⟩ := Nat.exists_eq_add_of_lt hij
    rw [← String.toList_inj, toList_iterate_apply, toList_iterate_apply, Nat.add_assoc,
      Nat.add_comm, Function.iterate_add_apply] at hsame
    rw [apply_eq_iff, toList_iterate_apply]
    exact applyChars_eq_of_iterate_eq hsame.symm
  · rw [apply_eq_iff, toList_iterate_apply]
    exact iterate_fixed_of_load_le (load_le text.toList)

end Restyle
