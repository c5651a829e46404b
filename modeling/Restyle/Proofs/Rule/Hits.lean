import Restyle.Proofs.Pattern.Partition
import Restyle.Proofs.Rule.Convergence

/-!
# What a report says of any rules

A report is exact whatever the rules are. It is about the text that the rules make one after
another, and it has a hit for a rule exactly if the rule has a match in the text that the rules
before it have made. The hit has the number of the rule and its category, and counts the matches
that are replaced: the text falls into them and the characters between them. The hits stand in the
order of the rules.

A replacement without a dollar sign has no references, so it may be put in as it stands, and the
groups of a match need not be looked at.

## Main definitions

* `Restyle.Rule.IsWritten` — a rule puts in what its replacement writes.
* `Restyle.Rule.applyPlainly` — a rule applied without looking at groups where this is possible.

## Main results

* `Restyle.Rule.applyPlainly_eq_apply` — this makes no difference.
* `Restyle.RuleSet.mem_reportFrom_iff`, `Restyle.RuleSet.pairwise_reportFrom` — the hits of a
  report.
* `Restyle.RuleSet.report_exact` — what a report says of any rules.
-/

namespace Restyle

/-! ### Replacements without references -/

/-- A text without dollar signs is put in as it stands. -/
theorem Template.expand_read_of_not_mem {text : List Char} (h : '$' ∉ text)
    (names : List (List Char × Nat)) (m : Match) : (read text).expand names m = text := by
  rw [read, readParts_of_not_mem h (Nat.le_refl _), expand, List.flatMap_map]
  exact List.flatMap_singleton' text

namespace Rule

/-- A rule puts in what the text of its replacement writes. -/
def IsWritten (r : Rule) : Prop := r.template = .read r.replacement.toList

theorem isWritten_of_readWithin {tooLarge : SizeCheck} {category : Category}
    {source replacement : String} {r : Rule}
    (h : readWithin tooLarge category source replacement = .ok r) : r.IsWritten := by
  rw [readWithin] at h
  split at h
  · obtain rfl := Except.ok.inj h
    exact rfl
  · exact nomatch h

theorem isWritten_ofReadable (category : Category) (source replacement : String)
    (readable : (Pattern.read source.toList).isOk) :
    (ofReadable category source replacement readable).IsWritten := by
  unfold ofReadable
  split
  · exact rfl
  · next h => rw [h] at readable; cases readable

/-- A text with every match of a rule replaced, where a replacement without a dollar sign is put in
as it stands. -/
def applyPlainly (r : Rule) (text : List Char) : List Char :=
  if '$' ∈ r.replacement.toList then r.apply text
  else r.pattern.shape.replaceAll (fun _ => r.replacement.toList) text

/-- **A replacement without a dollar sign** may be put in as it stands. -/
theorem applyPlainly_eq_apply {r : Rule} (hr : r.IsWritten) (text : List Char) :
    r.applyPlainly text = r.apply text := by
  rw [applyPlainly]
  split
  · rfl
  · next hdollar =>
    have hexpand : r.expand = fun _ => r.replacement.toList := by
      funext m
      rw [expand, hr, Template.expand_read_of_not_mem hdollar]
    rw [apply, hexpand]

/-- The number of matches of a rule. -/
theorem hits_eq_length_matchesIn (r : Rule) (text : List Char) :
    r.hits text = (r.pattern.shape.matchesIn text).length := by
  rw [hits, Shape.matchesIn, List.length_filterMap_eq_countP]
  rfl

end Rule

/-- Rules that are read from texts put in what their replacements write. -/
theorem RuleSet.isWritten_of_read : ∀ {table : List (Category × String × String)} {rs : RuleSet},
    read table = .ok rs → ∀ r ∈ rs, r.IsWritten
  | [], rs, h => by
    obtain rfl := Except.ok.inj h
    exact fun r hr => nomatch hr
  | (category, source, replacement) :: table, rs, h => by
    rw [read, List.mapM_cons] at h
    cases hfirst : Rule.read category source replacement with
    | error e => simp [hfirst, bind, Except.bind] at h
    | ok r =>
      cases hlater : read table with
      | error e =>
        rw [read] at hlater
        simp [hfirst, hlater, bind, Except.bind] at h
      | ok rs' =>
        have htable := hlater
        rw [read] at hlater
        simp only [hfirst, hlater, bind, Except.bind, pure, Except.pure, Except.ok.injEq] at h
        subst h
        exact List.forall_mem_cons.2 ⟨Rule.isWritten_of_readWithin hfirst, isWritten_of_read htable⟩

/-! ### The hits of a report -/

namespace RuleSet

/-- **The hits of a report** are those of the rules that have a match in the text that the rules
before them have made. -/
theorem mem_reportFrom_iff {hit : Hit} : ∀ {rs : RuleSet} {index : Nat} {text : List Char},
    hit ∈ (reportFrom index rs text).2 ↔ ∃ i r, rs[i]? = some r ∧
      r.hits (applyChars (rs.take i) text) ≠ 0 ∧
      hit = ⟨index + i, r.category, r.hits (applyChars (rs.take i) text)⟩
  | [], index, text => by simp [reportFrom]
  | r :: rs, index, text => by
    -- the hits of the later rules, with the numbers that they have here
    have hlater : hit ∈ (reportFrom (index + 1) rs (r.apply text)).2 ↔ ∃ i r', rs[i]? = some r' ∧
        r'.hits (applyChars ((r :: rs).take (i + 1)) text) ≠ 0 ∧
        hit = ⟨index + (i + 1), r'.category,
          r'.hits (applyChars ((r :: rs).take (i + 1)) text)⟩ := by
      rw [mem_reportFrom_iff]
      simp only [List.take_succ_cons, applyChars_cons, Nat.add_assoc, Nat.add_comm 1]
    rw [reportFrom, ← Nat.or_exists_add_one]
    simp only [List.getElem?_cons_zero, List.getElem?_cons_succ, List.take_zero, applyChars_nil,
      Option.some.injEq, exists_eq_left', Nat.add_zero, ← hlater]
    split
    · next hcount =>
      have hnone : r.hits text = 0 := hcount
      rw [r.apply_eq_self_of_countP_eq_zero hcount]
      simp [hnone]
    · next hcount =>
      have hsome : r.hits text ≠ 0 := hcount
      rw [List.mem_cons]
      exact or_congr_left (and_iff_right hsome).symm

/-- The hits of a report with the number of a rule. -/
theorem mem_report_and_index_iff {rs : RuleSet} {i : Nat} {r : Rule} (hi : rs[i]? = some r)
    {text : String} {hit : Hit} : hit ∈ (rs.report text).2 ∧ hit.index = i ↔
      r.hits (applyChars (rs.take i) text.toList) ≠ 0 ∧
        hit = ⟨i, r.category, r.hits (applyChars (rs.take i) text.toList)⟩ := by
  rw [snd_report, mem_reportFrom_iff]
  simp only [Nat.zero_add]
  constructor
  · rintro ⟨⟨j, q, hj, hhits, rfl⟩, rfl⟩
    obtain rfl := Option.some.inj (hj.symm.trans hi)
    exact ⟨hhits, rfl⟩
  · rintro ⟨hhits, rfl⟩
    exact ⟨⟨i, r, hi, hhits, rfl⟩, rfl⟩

/-- The hits of a report stand in the order of the rules. -/
theorem pairwise_reportFrom : ∀ (rs : RuleSet) (index : Nat) (text : List Char),
    (reportFrom index rs text).2.Pairwise fun a b => a.index < b.index
  | [], _, _ => .nil
  | r :: rs, index, text => by
    rw [reportFrom]
    split
    · exact pairwise_reportFrom rs (index + 1) text
    · refine List.pairwise_cons.2 ⟨fun hit hhit => ?_, pairwise_reportFrom rs (index + 1) _⟩
      obtain ⟨i, _, -, -, rfl⟩ := mem_reportFrom_iff.1 hhit
      exact Nat.lt_of_lt_of_le (Nat.lt_succ_self index) (Nat.le_add_right _ i)

/-- Rules that put in what their replacements write may be applied without looking at groups where
this is possible. -/
theorem foldl_applyPlainly : ∀ {rs : RuleSet}, (∀ r ∈ rs, r.IsWritten) → ∀ text : List Char,
    rs.foldl (fun t r => r.applyPlainly t) text = rs.applyChars text
  | [], _, _ => rfl
  | r :: rs, h, text => by
    obtain ⟨hr, hrs⟩ := List.forall_mem_cons.1 h
    rw [List.foldl_cons, r.applyPlainly_eq_apply hr, foldl_applyPlainly hrs, applyChars_cons]

/-- The text after one rule more. -/
theorem applyChars_take_succ : ∀ {rs : RuleSet} {i : Nat} {r : Rule}, rs[i]? = some r →
    ∀ text : List Char, applyChars (rs.take (i + 1)) text = r.apply (applyChars (rs.take i) text)
  | q :: rs, 0, r, h, text => by
    obtain rfl : q = r := by simpa using h
    rfl
  | q :: rs, i + 1, r, h, text => by
    rw [List.take_succ_cons, applyChars_cons, applyChars_take_succ (by simpa using h)]
    rfl

/-- **What a report says of any rules.** The text that is reported is the one that the rules make,
and it makes no difference if a replacement without a dollar sign is put in as it stands. There is a
hit with a number exactly if the rule with this number has a match in the text that the rules before
it have made; the hit has the category of the rule, and counts these matches. The hits stand in the
order of the rules. The text that the rules before have made falls into the matches that are counted
and the characters between them, and the text after the rule has what the rule puts in for each
match. -/
theorem report_exact (rs : RuleSet) (text : String) :
    (rs.report text).1 = rs.apply text ∧
    ((∀ r ∈ rs, r.IsWritten) →
      rs.apply text = String.ofList (rs.foldl (fun t r => r.applyPlainly t) text.toList)) ∧
    (∀ hit, hit ∈ (rs.report text).2 ↔ ∃ r, rs[hit.index]? = some r ∧
      r.pattern.shape.matchesIn (applyChars (rs.take hit.index) text.toList) ≠ [] ∧
      hit.category = r.category ∧
      hit.count = (r.pattern.shape.matchesIn (applyChars (rs.take hit.index) text.toList)).length) ∧
    ((rs.report text).2.Pairwise fun a b => a.index < b.index) ∧
    ∀ i r, rs[i]? = some r → ∃ segments : List Segment,
      segments.filterMap Segment.match? =
        r.pattern.shape.matchesIn (applyChars (rs.take i) text.toList) ∧
      segments.flatMap Segment.text = applyChars (rs.take i) text.toList ∧
      segments.flatMap (·.replaced r.expand) = applyChars (rs.take (i + 1)) text.toList := by
  refine ⟨fst_report_eq_apply rs text, fun hrs => ?_, fun hit => ?_,
    pairwise_reportFrom rs 0 text.toList, fun i r hr => ?_⟩
  · rw [foldl_applyPlainly hrs, apply]
  · rw [snd_report, mem_reportFrom_iff]
    simp only [Rule.hits_eq_length_matchesIn, Nat.zero_add, Ne, List.length_eq_zero_iff]
    constructor
    · rintro ⟨i, r, hr, hmatch, rfl⟩
      exact ⟨r, hr, hmatch, rfl, rfl⟩
    · rintro ⟨r, hr, hmatch, hcategory, hcount⟩
      exact ⟨hit.index, r, hr, hmatch, by rw [← hcategory, ← hcount]⟩
  · refine ⟨r.segments (applyChars (rs.take i) text.toList), rfl,
      r.pattern.shape.flatMap_text_segments _, ?_⟩
    rw [applyChars_take_succ hr]
    rfl

/-- Rules with matches that take no text, with a replacement that is the match, and with references
to groups. -/
def trickyRules : RuleSet := [
  .ofReadable .retag "a*" "$0",
  .ofReadable .closingTag "b" "b",
  .ofReadable .container "(c)|d" "$$$\x7b1\x7d-"]

theorem isWritten_trickyRules : ∀ r ∈ trickyRules, r.IsWritten :=
  List.forall_mem_cons.2 ⟨Rule.isWritten_ofReadable .., List.forall_mem_cons.2
    ⟨Rule.isWritten_ofReadable .., List.forall_mem_singleton.2 (Rule.isWritten_ofReadable ..)⟩⟩

theorem report_trickyRules :
    trickyRules.report "baacd" = ("baa$c-$-",
      [⟨0, .retag, 4⟩, ⟨1, .closingTag, 1⟩, ⟨2, .container, 2⟩]) ∧
    (trickyRules.report "baacd").1 = trickyRules.apply "baacd" ∧
    trickyRules.apply "baacd" =
      String.ofList (trickyRules.foldl (fun t r => r.applyPlainly t) "baacd".toList) := by
  obtain ⟨htext, hplain, -⟩ := report_exact trickyRules "baacd"
  exact ⟨by decide +kernel, htext, hplain isWritten_trickyRules⟩

end RuleSet

end Restyle
