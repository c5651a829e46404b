import Mathlib
import Restyle.Proofs.Rule.Form
import Restyle.Rule.Table

/-!
# Reading the rules of the table

Each rule of the table is read from the texts of its pattern and its replacement. This file reads
them once and for all.

## Main definitions

* `Restyle.Rule.HasForm` — a rule looks for and puts in what a form does.

## Main results

* `Restyle.forall₂_bootstrapRules` — the rules of the table have the forms listed for them.
-/

namespace Restyle

open Form

/-- A rule has a form if it looks for what the form looks for and puts in what the form puts in. -/
structure Rule.HasForm (r : Rule) (x : Form) : Prop where
  shape : r.pattern.shape = x.shape
  names : r.pattern.names = []
  template : r.template = x.template

namespace Template

theorem readParts_append {text : List Char} (h : '$' ∉ text) (rest : List Char) (n : Nat) :
    readParts (text.length + n) (text ++ rest) = text.map .char ++ readParts n rest := by
  induction text with
  | nil => simp
  | cons c cs ih =>
    obtain ⟨hc, hcs⟩ : '$' ≠ c ∧ '$' ∉ cs := by simpa using h
    rw [List.length_cons, Nat.add_right_comm, List.cons_append, readParts, ih hcs]
    · rfl
    · rintro _ rfl _
      exact hc rfl
    · rintro _ rfl _
      exact hc rfl
    · rintro rfl
      exact hc rfl

/-- A text without dollar signs writes the template of its characters. -/
theorem readParts_of_not_mem {text : List Char} (h : '$' ∉ text) {n : Nat}
    (hn : text.length ≤ n) : readParts n text = text.map .char := by
  obtain ⟨m, rfl⟩ := Nat.exists_eq_add_of_le hn
  have := readParts_append h [] m
  rw [List.append_nil] at this
  rw [this]
  cases m <;> simp [readParts]

/-- The text of a reference to the group `1` writes this reference. -/
theorem readParts_group (rest : List Char) (n : Nat) :
    readParts (n + 1) ("$\x7b1\x7d".toList ++ rest) = .group 1 :: readParts n rest := by
  rfl

theorem read_ofText {s : String} (h : '$' ∉ s.toList) : read s.toList = ofText s :=
  readParts_of_not_mem h (Nat.le_refl _)

theorem read_around_group {s t : String} (hs : '$' ∉ s.toList) (ht : '$' ∉ t.toList) :
    read (s ++ "$\x7b1\x7d" ++ t).toList = ofText s ++ .group 1 :: ofText t := by
  have hlength : (s ++ "$\x7b1\x7d" ++ t).toList.length =
      s.toList.length + (t.toList.length + 3 + 1) := by
    simp only [String.toList_append, List.length_append]
    rw [show ("$\x7b1\x7d" : String).toList.length = 4 from rfl]
    omega
  rw [read, hlength, String.toList_append, String.toList_append, List.append_assoc,
    readParts_append hs, readParts_group, readParts_of_not_mem ht (Nat.le_add_right _ _)]
  rfl

end Template

/-- The text that a form puts in writes its template. -/
theorem Form.read_replacement {x : Form} (h : x.isVerbatim) :
    Template.read x.replacement.toList = x.template := by
  cases x with
  | namedImport | packageImport | styleImport => rfl
  | variant value new =>
    exact Template.read_around_group (by simpa [isVerbatim] using h) (by decide)
  | element tag ending new finish =>
    obtain ⟨hnew, hfinish⟩ : '$' ∉ new.toList ∧ '$' ∉ finish.toList := by simpa [isVerbatim] using h
    exact Template.read_around_group hnew hfinish
  | longField => decide +kernel
  | field => exact Template.read_around_group (by decide) (by decide)
  | words old new =>
    have hnew : '$' ∉ new.toList := by simpa [isVerbatim] using h
    exact Template.read_ofText hnew

/-- What a rule with a known readable pattern looks for and puts in can be seen from its texts. -/
theorem Rule.hasForm_ofReadable {category : Category} {source replacement : String}
    (readable : (Pattern.read source.toList).isOk) {x : Form}
    (hsource : (Pattern.read source.toList).toOption.map (fun p => (p.shape, p.names)) =
      some (x.shape, []))
    (hreplacement : replacement = x.replacement) (hx : x.isVerbatim) :
    (ofReadable category source replacement readable).HasForm x := by
  unfold ofReadable
  split
  · next p h =>
    obtain ⟨hshape, hnames⟩ : p.shape = x.shape ∧ p.names = [] := by
      simpa [h, Except.toOption] using hsource
    exact ⟨hshape, hnames, by rw [hreplacement, Form.read_replacement hx]⟩
  · next h => rw [h] at readable; cases readable

/-- The rules for tags. -/
def tagRules : RuleSet :=
  buttonRules ++ textFieldRules ++ selectRules ++ formControlRules ++ inputLabelRules ++
    checkboxRules ++ radioRules ++ boxRules ++ chipRules

theorem bootstrapRules_eq : bootstrapRules = importRules ++ tagRules ++ attributeRules := by
  simp only [bootstrapRules, tagRules, List.append_assoc]

/-- **The rules of the table have the forms listed.** -/
theorem forall₂_bootstrapRules : List.Forall₂ Rule.HasForm bootstrapRules bootstrapForms := by
  simp only [bootstrapRules, importRules, buttonRules, textFieldRules, selectRules,
    formControlRules, inputLabelRules, checkboxRules, radioRules, boxRules, chipRules,
    attributeRules, bootstrapForms, importForms, tagForms, attributeForms, List.cons_append,
    List.nil_append]
  repeat' first
    | exact List.Forall₂.nil
    | refine List.Forall₂.cons (Rule.hasForm_ofReadable _ ?_ ?_ ?_) ?_
    | decide +kernel

theorem forall₂_importRules : List.Forall₂ Rule.HasForm importRules importForms :=
  List.forall₂_take importRules.length forall₂_bootstrapRules

theorem forall₂_tagRules : List.Forall₂ Rule.HasForm tagRules tagForms :=
  List.forall₂_take tagRules.length
    (List.forall₂_drop importRules.length forall₂_bootstrapRules)

theorem forall₂_attributeRules : List.Forall₂ Rule.HasForm attributeRules attributeForms :=
  List.forall₂_drop (importRules ++ tagRules).length forall₂_bootstrapRules

end Restyle
