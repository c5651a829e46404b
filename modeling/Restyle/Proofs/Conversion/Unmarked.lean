import Restyle.Proofs.Conversion.Outcome
import Restyle.Proofs.Rule.SecondConversion

/-!
# Sources without markup

A text in which no angle bracket opens a tag and no package is named has nothing for the rules for
tags and imports to do. The rules for attributes do not look for a tag around an attribute, so they
replace attributes in such a text as well. If there is none, the text is kept, and a file that holds
it is neither written nor backed up.

## Main results

* `Restyle.apply_eq_self_iff_of_not_mem` — which texts without markup are kept.
* `Restyle.convert_without_markup` — files that hold them.
* `Restyle.not_forall_apply_eq_of_not_mem` — not all texts without markup are kept.
-/

namespace Restyle

open FileTree

/-- A text without markup is kept exactly if no attribute stands in it that becomes a class. -/
theorem apply_eq_self_iff_of_not_mem {text : String} (hopen : '<' ∉ text.toList)
    (hsign : '@' ∉ text.toList) : bootstrapRules.apply text = text ↔
      ∀ c ∈ attributeClasses, ¬ c.1.toList <:+: text.toList := by
  rw [apply_eq_iff, applyChars_of_isInert (isInert_of_not_mem hopen hsign), classes_eq_self_iff]

/-- **Sources without markup** and without attributes that become classes are left alone: their text
is kept, no file is written, and no backup is made. -/
theorem convert_without_markup {text : String} (hopen : '<' ∉ text.toList)
    (hsign : '@' ∉ text.toList) (hclasses : ∀ c ∈ attributeClasses, ¬ c.1.toList <:+: text.toList) :
    bootstrapRules.apply text = text ∧
      ∀ (t : FileTree) (p : Path), t.readText p = .ok text →
        (bootstrapRules.convert t p).result = .done p false ∧
        (bootstrapRules.convert t p).writes = [] ∧ (bootstrapRules.convert t p).tree = t := by
  have hsame := (apply_eq_self_iff_of_not_mem hopen hsign).2 hclasses
  exact ⟨hsame, fun t p hread => RuleSet.convert_of_apply_eq_self hread hsame⟩

/-- A module that adds numbers. -/
def addition : String := "export const add = (a, b) => a + b;\n"

/-- A directory with this module. -/
def additionSource : FileTree where
  nodes :=
    [([], .directory 0o755), (workplace, .directory 0o755),
      (Name.ofString "add.js" :: workplace, .file addition.toUTF8 0o644)]
  current := workplace
  guarded := true

theorem convert_additionSource :
    bootstrapRules.apply addition = addition ∧
      (bootstrapRules.convert additionSource (Path.ofString "add.js")).writes = [] ∧
      (bootstrapRules.convert additionSource (Path.ofString "add.js")).tree = additionSource := by
  have hopen : '<' ∉ addition.toList := by decide
  have hsign : '@' ∉ addition.toList := by decide
  have hclasses : ∀ c ∈ attributeClasses, ¬ c.1.toList <:+: addition.toList := by decide
  have hread : additionSource.readText (Path.ofString "add.js") = .ok addition :=
    readText_eq_ok_iff.2 ⟨Name.ofString "add.js" :: workplace, by decide, by decide⟩
  obtain ⟨hsame, hconvert⟩ := convert_without_markup hopen hsign hclasses
  exact ⟨hsame, (hconvert _ _ hread).2⟩

/-- An attribute that stands alone is replaced. -/
theorem not_forall_apply_eq_of_not_mem : ¬ ∀ text : String,
    '<' ∉ text.toList → '@' ∉ text.toList → bootstrapRules.apply text = text := by
  intro h
  have hkept := h "color=\"primary\"" (by decide) (by decide)
  have hmem : ("color=\"primary\"", "className=\"text-primary\"") ∈ attributeClasses := by decide
  exact (apply_eq_self_iff_of_not_mem (by decide) (by decide)).1 hkept _ hmem (List.infix_refl _)

end Restyle
