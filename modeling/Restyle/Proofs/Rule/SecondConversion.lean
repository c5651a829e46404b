import Restyle.Proofs.Rule.Document
import Restyle.Proofs.Rule.Markup

/-!
# Converting a text twice

What the table has made of a text may hold markup that the table converts. An opening tag reaches to
the first angle bracket that closes a tag, so the tag of a component that stands among the
attributes of another one of the same name is passed over, and a second conversion finds it. A
second conversion changes nothing exactly if the first one has left no such markup.

The pieces of a document leave none: what becomes of a piece is *inert*, that is, no rule for
imports or tags has anything to do in it, and the rules for attributes have replaced every
attribute.

## Main definitions

* `Restyle.IsInert` — the rules for imports and tags have nothing to do in a text.

## Main results

* `Restyle.applyChars_of_isInert` — what the table makes of an inert text.
* `Restyle.isInert_flatMap_target` — what becomes of a document is inert.
* `Restyle.apply_apply_eq_iff` — when a second conversion changes nothing.
* `Restyle.not_forall_apply_apply_eq` — it does not always change nothing.
-/

namespace Restyle

/-- The rules for imports and tags have nothing to do in a text: there is no package in it and no
tag whose name has a capital letter, or the beginning of one at its end. -/
structure IsInert (s : List Char) : Prop where
  quiet : isQuiet s
  not_mem : '@' ∉ s

instance (s : List Char) : Decidable (IsInert s) :=
  decidable_of_iff (isQuiet s ∧ '@' ∉ s) ⟨fun ⟨h₁, h₂⟩ => ⟨h₁, h₂⟩, fun h => ⟨h.quiet, h.not_mem⟩⟩

/-- What the table makes of a piece and the inert text behind it. -/
theorem applyChars_append_of_isInert {u u' s : List Char} (hu : Form.Brings tagForms u u')
    (hsign : '@' ∉ u) (h : IsInert s) :
    bootstrapRules.applyChars (u ++ s) = classes (u' ++ s) := by
  have htags : Form.applyAll tagForms s = s := by
    have := Form.brings_self (Form.isSteady_of_isQuiet h.quiet) []
    rwa [Form.applyAll_nil fun x hx => Form.isSound_of_mem_tagForms hx, List.append_nil] at this
  have himport : '@' ∉ u ++ s := by simp [hsign, h.not_mem]
  have hforms : bootstrapRules.applyChars (u ++ s) = Form.applyAll bootstrapForms (u ++ s) :=
    applyChars_eq_of_hasForm forall₂_bootstrapRules _
  rw [hforms, bootstrapForms, Form.applyAll_append, Form.applyAll_append,
    Form.applyAll_importForms himport, hu, htags, Form.applyAll_attributeForms]

theorem applyChars_of_isInert {s : List Char} (h : IsInert s) :
    bootstrapRules.applyChars s = classes s := by
  have h' := applyChars_append_of_isInert (Form.brings_nil tagForms) List.not_mem_nil h
  rwa [List.nil_append] at h'

/-! ### What becomes of a document -/

namespace IsInert

theorem append {s t : List Char} (hs : IsInert s) (ht : IsInert t) : IsInert (s ++ t) :=
  ⟨isQuiet_append hs.quiet ht.quiet, by simp [hs.not_mem, ht.not_mem]⟩

theorem flatMap {α : Type} {f : α → List Char} : ∀ {l : List α}, (∀ a ∈ l, IsInert (f a)) →
    IsInert (l.flatMap f)
  | [], _ => ⟨rfl, List.not_mem_nil⟩
  | a :: l, h => by
    rw [List.flatMap_cons]
    exact (h a (by simp)).append (flatMap fun b hb => h b (by simp [hb]))

theorem classes {s : List Char} (h : IsInert s) : IsInert (classes s) := by
  have hsign : ∀ c ∈ attributeClasses, '@' ∉ c.2.toList := by decide
  refine ⟨isQuiet_classes h.quiet, ?_⟩
  rw [Restyle.classes]
  exact not_mem_replaceTexts hsign h.not_mem

end IsInert

theorem isInert_of_not_mem {s : List Char} (hopen : '<' ∉ s) (hsign : '@' ∉ s) : IsInert s :=
  ⟨isQuiet_of_not_mem hopen, hsign⟩

namespace Piece

theorem isInert_fieldTarget {a : List Char} (hopen : '<' ∉ a) (hsign : '@' ∉ a) :
    IsInert (fieldTarget classes a) := by
  rw [fieldTarget]
  cases hcut : Text.cutAt? "multiline".toList a with
  | some parts =>
    obtain ⟨before, behind⟩ := parts
    obtain ⟨rfl, -⟩ := Text.cutAt?_eq_some (by decide) hcut
    simp only [List.mem_append, not_or] at hopen hsign
    have hbefore := (isInert_of_not_mem hopen.1 hsign.1).classes
    have hbehind := (isInert_of_not_mem hopen.2.2 hsign.2.2).classes
    exact IsInert.append (by decide) (hbefore.append
      (IsInert.append (s := [' ']) (by decide) (hbehind.append (by decide))))
  | none =>
    have ha := (isInert_of_not_mem hopen hsign).classes
    exact IsInert.append (by decide) (ha.append (by decide))

/-- What becomes of a piece is inert. -/
theorem isInert_target {p : Piece} (h : p.IsValid) (hsign : '@' ∉ p.source) : IsInert p.target := by
  rw [target]
  cases p with
  | text q => exact IsInert.classes ⟨(isText_iff.1 h).2, hsign⟩
  | opening c a =>
    obtain ⟨⟨hopen, -, -⟩, -⟩ := h
    simp only [source_opening, List.mem_cons, List.mem_append, not_or] at hsign
    have hnew : IsInert c.opening.toList := by cases c <;> decide
    exact hnew.append ((isInert_of_not_mem hopen hsign.2.2.1).classes.append (by decide))
  | variant w v a =>
    obtain ⟨-, hopen, -, -⟩ := h
    simp only [source_variant, List.mem_append, not_or] at hsign
    have hnew : IsInert v.opening.toList := by cases v <;> decide
    exact hnew.append ((isInert_of_not_mem hopen hsign.2.2.2.1).classes.append (by decide))
  | closing c =>
    rw [render]
    cases c <;> decide
  | single s a =>
    obtain ⟨hopen, -, -⟩ := h
    simp only [source_single, List.mem_cons, List.mem_append, not_or] at hsign
    have hnew : IsInert s.opening.toList := by cases s <;> decide
    have hfinish : IsInert s.finish.toList := by cases s <;> decide
    exact hnew.append ((isInert_of_not_mem hopen hsign.2.2.1).classes.append hfinish)
  | field w a =>
    obtain ⟨-, hopen, -⟩ := h
    obtain ⟨b, a', rfl, -, -, hdrop⟩ := exists_dropWhile_isBlank a
    simp only [source_field, List.mem_append, not_or] at hopen hsign
    rw [render, hdrop]
    exact isInert_fieldTarget hopen.2 hsign.2.2.1.2

end Piece

/-- What becomes of a document is inert. -/
theorem isInert_flatMap_target {pieces : List Piece} (hvalid : ∀ p ∈ pieces, p.IsValid)
    (himport : ∀ p ∈ pieces, '@' ∉ p.source) : IsInert (pieces.flatMap Piece.target) :=
  IsInert.flatMap fun p hp => Piece.isInert_target (hvalid p hp) (himport p hp)

theorem keepsBlank_classes : Piece.KeepsBlank classes
  | [], _ => by simp
  | c :: a, h => by
    rw [classes_cons (isGap_of_isBlank (h c rfl))]
    exact fun d hd => h d hd

/-- The rules for attributes change nothing when they are applied again. -/
theorem apply_apply_attributeRules (text : String) :
    attributeRules.apply (attributeRules.apply text) = attributeRules.apply text := by
  have hclasses (s : List Char) : attributeRules.applyChars s = classes s :=
    (applyChars_eq_of_hasForm forall₂_attributeRules s).trans (Form.applyAll_attributeForms s)
  simp only [RuleSet.apply, hclasses, String.toList_ofList, classes_classes]

/-- What a document becomes holds no attribute to be replaced. -/
theorem classes_flatMap_target {pieces : List Piece} (hvalid : ∀ p ∈ pieces, p.IsValid)
    (htext : pieces.IsChain fun p q => ¬ (p.IsText ∧ q.IsText)) :
    classes (pieces.flatMap Piece.target) = pieces.flatMap Piece.target := by
  have htwice : classes ∘ classes = classes := funext classes_classes
  have h := Piece.classes_flatMap_render keepsBlank_classes hvalid htext
  rw [htwice] at h
  exact h

/-! ### The second conversion -/

/-- **When a second conversion changes nothing.** It does so exactly if the first one has left no
markup that the table converts, and the conversion of a document leaves none. -/
theorem apply_apply_eq_iff (text : String) (pieces : List Piece) :
    (bootstrapRules.apply (bootstrapRules.apply text) = bootstrapRules.apply text ↔
      ∀ u, Convertible u → ¬ u <:+: (bootstrapRules.apply text).toList) ∧
    ((∀ p ∈ pieces, p.IsValid) → (∀ p ∈ pieces, '@' ∉ p.source) →
      pieces.IsChain (fun p q => ¬ (p.IsText ∧ q.IsText)) →
        bootstrapRules.apply (bootstrapRules.apply (String.ofList (pieces.flatMap Piece.source))) =
          bootstrapRules.apply (String.ofList (pieces.flatMap Piece.source))) := by
  constructor
  · rw [apply_eq_iff, applyChars_eq_self_iff_not_convertible]
  · intro hvalid himport htext
    have htarget : (bootstrapRules.apply (String.ofList (pieces.flatMap Piece.source))).toList =
        pieces.flatMap Piece.target := by
      rw [RuleSet.apply, String.toList_ofList, String.toList_ofList,
        applyChars_flatMap_source hvalid himport htext]
    rw [apply_eq_iff, htarget, applyChars_of_isInert (isInert_flatMap_target hvalid himport),
      classes_flatMap_target hvalid htext]

theorem apply_apply_nameForm :
    bootstrapRules.apply (bootstrapRules.apply (String.ofList (nameForm.flatMap Piece.source))) =
      bootstrapRules.apply (String.ofList (nameForm.flatMap Piece.source)) :=
  (apply_apply_eq_iff "" nameForm).2 (by decide +kernel) (by decide +kernel) (by decide +kernel)

/-- A box that stands in an attribute of another one. -/
def nestedBoxes : String := "<Box component=\x7b<Box>x</Box>\x7d>y</Box>"

/-- A second conversion does not always change nothing: the inner one of two boxes is passed over.
-/
theorem not_forall_apply_apply_eq : ¬ ∀ text : String,
    bootstrapRules.apply (bootstrapRules.apply text) = bootstrapRules.apply text := by
  intro h
  have hforms : bootstrapRules.applyChars nestedBoxes.toList =
      Form.applyAll bootstrapForms nestedBoxes.toList :=
    applyChars_eq_of_hasForm forall₂_bootstrapRules _
  have hfirst : Form.applyAll bootstrapForms nestedBoxes.toList =
      "<div component=\x7b<Box>x</div>\x7d>y</div>".toList := by decide +kernel
  have hsecond := apply_eq_iff.1 (h nestedBoxes)
  rw [RuleSet.apply, String.toList_ofList, hforms, hfirst] at hsecond
  refine applyChars_eq_self_iff_not_convertible.1 hsecond _
    (.opening (show "Box" ∈ containerNames by decide) (show '>' ∉ [] by decide)) ?_
  exact ⟨"<div component=\x7b".toList, "x</div>\x7d>y</div>".toList, by decide +kernel⟩

end Restyle
