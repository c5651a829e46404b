import Restyle.Rule.Basic

/-!
# Reports of any rules

A rule that has no match in a text leaves the text as it is, so that it does not matter that a
report passes it over: the text that is reported is the text after all rules, whatever the rules
are.

## Main results

* `Restyle.Rule.apply_eq_self_of_countP_eq_zero` — a rule without a match.
* `Restyle.RuleSet.fst_report_eq_apply` — the text that is reported.
-/

namespace Restyle

namespace Shape

/-- A text has one more place than characters. -/
theorem length_matchesBefore (x : Shape) : ∀ (before rest : List Char) (left : Nat) (m : x.Memo)
    (found : List (Option Match)),
    (x.matchesBefore rest left m found before).length = found.length + before.length + 1
  | [], _, _, _, _ => rfl
  | c :: before, rest, left, m, found => by
    rw [matchesBefore]
    simp only [length_matchesBefore x before, List.length_cons]
    omega

theorem length_matchesAt (x : Shape) (text : List Char) :
    (x.matchesAt text).length = text.length + 1 := by
  rw [matchesAt, length_matchesBefore, List.length_reverse, List.length_nil, Nat.zero_add]

end Shape

namespace Segment

/-- Segments that are done stay. -/
theorem subset_choose (skipped : Nat) (behindMatch : Bool) (text : List Char) (done : List Segment)
    (later : List (Option Match)) : done ⊆ choose skipped behindMatch text done later := by
  fun_induction choose with
  | case1 | case6 => simp
  | case2 _ _ _ _ _ _ ih => exact ih
  | case3 _ _ _ _ _ _ _ ih | case7 _ _ _ _ _ ih => exact fun s hs => ih (List.mem_cons_of_mem _ hs)
  | case4 => split <;> simp
  | case5 _ _ _ _ _ _ _ ih =>
    refine fun s hs => ih (List.mem_cons_of_mem _ ?_)
    split
    · exact hs
    · exact List.mem_cons_of_mem _ hs

/-- If no segment is a match, the segments are the characters of the text. -/
theorem choose_eq_of_forall {skipped : Nat} {behindMatch : Bool} {text : List Char}
    {done : List Segment} {later : List (Option Match)} (hskipped : skipped = 0)
    (hlater : later.length = text.length + 1)
    (h : ∀ s ∈ choose skipped behindMatch text done later, s.match? = none) :
    choose skipped behindMatch text done later = done.reverse ++ text.map .kept := by
  fun_induction choose with
  | case1 => exact nomatch hlater
  | case2 => exact nomatch hskipped
  | case3 behindMatch done later m n text =>
    exact nomatch h (.found m) (subset_choose _ _ _ _ _ List.mem_cons_self)
  | case4 behindMatch done later m =>
    cases behindMatch with
    | true => simp
    | false => exact nomatch h (.found m) (by simp)
  | case5 behindMatch done later m c cs _ ih =>
    cases behindMatch with
    | true =>
      rw [ih rfl (by simpa using hlater) h]
      simp
    | false =>
      exact nomatch h (.found m)
        (subset_choose _ _ _ _ _ (List.mem_cons_of_mem _ List.mem_cons_self))
  | case6 => simp
  | case7 behindMatch done later c cs ih =>
    rw [ih rfl (by simpa using hlater) h]
    simp

end Segment

/-- A text without a match falls into its characters. -/
theorem Shape.segments_eq_map_kept {x : Shape} {text : List Char}
    (h : (x.segments text).countP (·.match?.isSome) = 0) : x.segments text = text.map .kept := by
  rw [segments] at h ⊢
  split at h
  · next hmarks =>
    rw [if_pos hmarks]
    have hnone := List.countP_eq_zero.1 h
    exact Segment.choose_eq_of_forall rfl (length_matchesAt x text) fun s hs => by
      simpa using hnone s hs
  · next hmarks => rw [if_neg hmarks]

namespace Rule

/-- **A rule without a match** leaves a text as it is. -/
theorem apply_eq_self_of_countP_eq_zero {r : Rule} {text : List Char}
    (h : (r.segments text).countP (·.match?.isSome) = 0) : r.apply text = text := by
  have hsegments : r.pattern.shape.segments text = text.map .kept := Shape.segments_eq_map_kept h
  rw [apply, Shape.replaceAll, hsegments, List.flatMap_map]
  exact List.flatMap_singleton' text

end Rule

namespace RuleSet

theorem fst_reportFrom_eq_applyChars : ∀ (rs : RuleSet) (index : Nat) (text : List Char),
    (reportFrom index rs text).1 = rs.applyChars text
  | [], _, _ => rfl
  | r :: rs, index, text => by
    have ih := fst_reportFrom_eq_applyChars rs (index + 1)
    change _ = applyChars rs (r.apply text)
    rw [reportFrom]
    split
    · next hcount => rw [ih, r.apply_eq_self_of_countP_eq_zero hcount]
    · exact ih (r.apply text)

/-- **The text that is reported** is the text after all rules. -/
theorem fst_report_eq_apply (rs : RuleSet) (text : String) : (rs.report text).1 = rs.apply text :=
  congrArg String.ofList (fst_reportFrom_eq_applyChars rs 0 text.toList)

end RuleSet

end Restyle
