import Restyle.Proofs.Rule.SecondConversion

/-!
# Tags whose names begin with another name

The patterns for opening tags do not look for the end of a name. Whichever rule comes first whose
component has a name that the tag begins with converts the tag, and takes the rest of the name for
attributes. Of the components of the table only the labelled control has a name that begins with
that of another one, the form control, and the rule for form controls comes first. So its own rule
never gets to see a labelled control.

## Main results

* `Restyle.applyChars_opening_append` — the opening tag of a component before text without markup.
* `Restyle.apply_formControlLabel` — what becomes of the tag of a labelled control.
* `Restyle.not_forall_apply_formControlLabel` — it is not converted by its own rule.
-/

namespace Restyle

/-- The opening tag of a component is replaced, and its attributes and the text behind it are
treated as if they stood alone. -/
theorem applyChars_opening_append {c : Container} {a v : List Char}
    (h : (Piece.opening c a).IsValid) (hsign : '@' ∉ a) (hv : IsInert v) :
    bootstrapRules.applyChars ('<' :: c.name.toList ++ (a ++ '>' :: v)) =
      c.opening.toList ++ bootstrapRules.applyChars (a ++ '>' :: v) := by
  have hsource : '<' :: c.name.toList ++ (a ++ '>' :: v) = (Piece.opening c a).source ++ v := by
    simp [Piece.source_opening]
  have hname : '@' ∉ c.name.toList := by cases c <;> decide
  have himport : '@' ∉ (Piece.opening c a).source := by simp [Piece.source_opening, hname, hsign]
  have hrest : IsInert (a ++ '>' :: v) :=
    (isInert_of_not_mem h.1.not_open hsign).append (IsInert.append (s := ['>']) (by decide) hv)
  have hgap : IsGap '>' := by decide
  have hclasses : classes ((Piece.opening c a).render id ++ v) =
      c.opening.toList ++ (classes a ++ '>' :: classes v) := by
    have hrender : (Piece.opening c a).render id ++ v = c.opening.toList ++ (a ++ '>' :: v) := by
      simp [Piece.render]
    rw [hrender, classes_append_attributes h.1.blank hgap, c.classes_opening]
  rw [hsource, applyChars_append_of_isInert (Piece.brings_source_opening h) himport hv, hclasses,
    applyChars_of_isInert hrest, classes_append_cons hgap]

/-- What stands behind the name in the tag of a labelled control, and behind the tag. -/
theorem applyChars_formControlLabel {s : List Char}
    (hhead : ∃ c ∈ s.head?, Text.isBlank c ∨ c = '>')
    (hclose : '>' ∈ s) (hopen : '<' ∉ s) (hsign : '@' ∉ s) :
    bootstrapRules.applyChars ("<FormControlLabel".toList ++ s) =
      "<div className=\"mb-3\"Label".toList ++ bootstrapRules.applyChars s := by
  obtain ⟨a, v, rfl, ha⟩ := List.eq_append_cons_of_mem hclose
  simp only [List.mem_append, List.mem_cons, not_or] at hopen hsign
  have hblank : ∀ c ∈ a.head?, Text.isBlank c := by
    intro c hc
    obtain ⟨a', rfl⟩ : ∃ a', a = c :: a' := List.head?_eq_some_iff.1 hc
    obtain ⟨d, hd, hhead⟩ := hhead
    obtain rfl : c = d := Option.some.inj hd
    exact hhead.resolve_right fun h => ha (h ▸ List.mem_cons_self)
  have hvalid : (Piece.opening .formControlLabel a).IsValid :=
    ⟨⟨hopen.1, ha, hblank⟩, nofun, nofun⟩
  have htag : "<FormControlLabel".toList = '<' :: Container.formControlLabel.name.toList := by
    decide
  rw [htag]
  exact applyChars_opening_append hvalid hsign.1 (isInert_of_not_mem hopen.2.2 hsign.2.2)

/-- **The tag of a labelled control** becomes that of a form control, with the rest of its name
where the attributes stand. Its attributes and the text behind it are treated as if they stood
alone. -/
theorem apply_formControlLabel {s : String} (hhead : ∃ c ∈ s.toList.head?, Text.isBlank c ∨ c = '>')
    (hclose : '>' ∈ s.toList) (hopen : '<' ∉ s.toList) (hsign : '@' ∉ s.toList) :
    bootstrapRules.apply ("<FormControlLabel" ++ s) =
      "<div className=\"mb-3\"Label" ++ bootstrapRules.apply s := by
  have h := applyChars_formControlLabel hhead hclose hopen hsign
  rw [RuleSet.apply, RuleSet.apply, String.toList_append, h, String.ofList_append,
    String.ofList_toList]

theorem apply_formControlLabel_label :
    bootstrapRules.apply ("<FormControlLabel" ++ " label=\"A\" fullWidth/>") =
      "<div className=\"mb-3\"Label" ++ " label=\"A\" className=\"w-100\"/>" := by
  have hrest : bootstrapRules.apply " label=\"A\" fullWidth/>" =
      " label=\"A\" className=\"w-100\"/>" := by
    have hclasses : classes " label=\"A\" fullWidth/>".toList =
        " label=\"A\" className=\"w-100\"/>".toList := by decide +kernel
    rw [RuleSet.apply, applyChars_of_isInert (by decide), hclasses, String.ofList_toList]
  rw [apply_formControlLabel ⟨' ', rfl, .inl (by decide)⟩ (by decide) (by decide) (by decide),
    hrest]

/-- A labelled control is not converted by its own rule. -/
theorem not_forall_apply_formControlLabel : ¬ ∀ s : String,
    (∃ c ∈ s.toList.head?, Text.isBlank c ∨ c = '>') → '>' ∈ s.toList → '<' ∉ s.toList →
      '@' ∉ s.toList → bootstrapRules.apply ("<FormControlLabel" ++ s) =
        "<div className=\"form-check\"" ++ bootstrapRules.apply s := by
  intro h
  have hhead : ∃ c ∈ " label=\"A\" />".toList.head?, Text.isBlank c ∨ c = '>' :=
    ⟨' ', rfl, .inl (by decide)⟩
  have hs := h " label=\"A\" />" hhead (by decide) (by decide) (by decide)
  have hchars : bootstrapRules.applyChars ("<FormControlLabel".toList ++ " label=\"A\" />".toList) =
      "<div className=\"form-check\"".toList ++
        bootstrapRules.applyChars " label=\"A\" />".toList := by
    have hlists := congrArg String.toList hs
    simpa only [RuleSet.apply, String.toList_append, String.toList_ofList] using hlists
  rw [applyChars_formControlLabel hhead (by decide) (by decide) (by decide)] at hchars
  exact absurd (List.append_cancel_right hchars) (by decide)

end Restyle
