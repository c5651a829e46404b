/-!
# Cutting a text at a mark

A text is cut at the first place where a mark stands in it. What is before that place and what is
behind the mark are its two parts.

## Main definitions

* `Restyle.Text.cutAt?`.

## Main results

* `Restyle.Text.cutAt?_eq_some`, `Restyle.Text.cutAt?_eq_none` — where a text is cut, and when it is
  not.
-/

namespace Restyle.Text

/-- The parts of a text before and behind the first place where a mark stands in it, if there is
such a place. -/
def cutAt? (mark : List Char) : List Char → Option (List Char × List Char)
  | [] => none
  | c :: cs =>
    if mark.isPrefixOf (c :: cs) then some ([], (c :: cs).drop mark.length)
    else (cutAt? mark cs).map fun (before, behind) => (c :: before, behind)

theorem cutAt?_eq_some {mark : List Char} : ∀ {text before behind : List Char}, mark ≠ [] →
    cutAt? mark text = some (before, behind) →
      text = before ++ (mark ++ behind) ∧ ¬ mark <:+: before
  | [], _, _, _, h => nomatch h
  | c :: cs, before, behind, hmark, h => by
    rw [cutAt?] at h
    split at h
    · next hp =>
      obtain ⟨rest, hrest⟩ := List.isPrefixOf_iff_prefix.1 hp
      obtain ⟨rfl, rfl⟩ := Prod.mk.inj (Option.some.inj h)
      exact ⟨by rw [← hrest, List.drop_left, List.nil_append],
        fun h => hmark (List.infix_nil.1 h)⟩
    · next hp =>
      obtain ⟨⟨before', behind'⟩, hcut, hbefore⟩ := Option.map_eq_some_iff.1 h
      obtain ⟨rfl, rfl⟩ := Prod.mk.inj hbefore
      obtain ⟨rfl, hnot⟩ := cutAt?_eq_some hmark hcut
      refine ⟨rfl, fun hinfix => ?_⟩
      -- the mark does not begin where the text was not cut, nor further inside
      rcases List.infix_cons_iff.1 hinfix with hbegin | hinfix
      · exact hp (List.isPrefixOf_iff_prefix.2
          (hbegin.trans (List.prefix_append (c :: before') (mark ++ behind'))))
      · exact hnot hinfix

theorem cutAt?_eq_none {mark : List Char} : ∀ {text : List Char}, mark ≠ [] →
    cutAt? mark text = none → ¬ mark <:+: text
  | [], hmark, _ => fun h => hmark (List.infix_nil.1 h)
  | c :: cs, hmark, h => by
    rw [cutAt?] at h
    split at h
    · exact nomatch h
    · next hp =>
      intro hinfix
      rcases List.infix_cons_iff.1 hinfix with hbegin | hinfix
      · exact hp (List.isPrefixOf_iff_prefix.2 hbegin)
      · exact cutAt?_eq_none hmark (Option.map_eq_none_iff.1 h) hinfix

end Restyle.Text
