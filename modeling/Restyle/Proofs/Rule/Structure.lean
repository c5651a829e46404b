import Restyle.Proofs.Rule.Hits

/-!
# What the table does to the program around the markup

The rules of the table change names of tags and attributes, and the white space between them. All
that they take away or put in, apart from imports, are ASCII letters and digits, white space and the
characters of which markup is written. The other characters are *structural*: brackets and braces,
the signs that end and separate statements, the marks of templates, and the letters of other
alphabets. They make up the *skeleton* of a text.

The rules for tags and attributes keep the skeleton, wherever they match and whatever they match:
the attributes that they capture are put in again once, in order and as they stand. The rules for
imports only take away, and do so only where the name of a package, which has the structural sign
`@`, stands.

## Main definitions

* `Restyle.isStructural`, `Restyle.skeleton` — the structural characters of a text.
* `Restyle.Form.isBare` — the fixed texts of a form hold no structural characters.

## Main results

* `Restyle.Form.skeleton_put_eq` — what a bare form puts in has the skeleton of what it takes away.
* `Restyle.Form.skeleton_apply_of_turn?` — from one match to all matches in a text.
* `Restyle.skeleton_applyChars_eq` — rules keep the skeleton if none of them removes an import.
* `Restyle.skeleton_apply` — what the table does to the skeleton of a text.
-/

namespace Restyle

/-- The characters of which markup is written, apart from letters and digits. -/
def markupSigns : List Char := ['"', '=', '-', '<', '>', '/']

/-- Whether a character is neither white space, nor an ASCII letter or digit, nor one of the signs
of markup. -/
def isStructural (c : Char) : Bool := !Text.isBlank c && !c.isAlphanum && !markupSigns.contains c

/-- The structural characters of a text, in order. -/
def skeleton (text : List Char) : List Char := text.filter isStructural

@[simp] theorem skeleton_nil : skeleton [] = [] := rfl

@[simp] theorem skeleton_append (u v : List Char) : skeleton (u ++ v) = skeleton u ++ skeleton v :=
  List.filter_append u v

theorem mem_skeleton {c : Char} {text : List Char} :
    c ∈ skeleton text ↔ c ∈ text ∧ isStructural c := List.mem_filter

theorem IsBlank.skeleton_eq_nil {w : List Char} (h : IsBlank w) : skeleton w = [] :=
  List.filter_eq_nil_iff.2 fun c hc => by simp [isStructural, h.isBlank c hc]

namespace Form

/-! ### One match -/

/-- Whether a form that is not for imports looks for and puts in no structural characters around the
attributes that it keeps. -/
def isBare : Form → Bool
  | namedImport _ | packageImport | styleImport => false
  | variant value new =>
    skeleton ("variant=\"" ++ value ++ "\"").toList == [] && skeleton new.toList == []
  | element tag ending new finish =>
    skeleton tag.toList == [] && skeleton ending.toList == [] &&
      (skeleton new.toList == [] && skeleton finish.toList == [])
  | longField | field => true
  | words old new => skeleton old.toList == [] && skeleton new.toList == []

theorem isBare_of_mem {x : Form} (hx : x ∈ tagForms ++ attributeForms) : x.isBare := by
  have hbare : ∀ x ∈ tagForms ++ attributeForms, x.isBare := by decide +kernel
  exact hbare x hx

variable {x : Form} {u put after : List Char}

/-- **What a bare form puts in** has the skeleton of what it takes away: the attributes that it
keeps are put in again once and in order. -/
theorem skeleton_put_eq (hx : x.isSound) (hbare : x.isBare)
    (h : x.turn? (u ++ after) = some (put, after)) : skeleton put = skeleton u := by
  -- what stands behind a match has no part in it
  suffices hall : skeleton (put ++ after) = skeleton (u ++ after) by
    rw [skeleton_append, skeleton_append] at hall
    exact List.append_cancel_right hall
  cases x with
  | namedImport | packageImport | styleImport => exact absurd hbare (by simp [isBare])
  | variant value new =>
    obtain ⟨hvalue, hnew⟩ : skeleton ("variant=\"" ++ value ++ "\"").toList = [] ∧
        skeleton new.toList = [] := by
      simpa only [isBare, Bool.and_eq_true, beq_iff_eq] using hbare
    obtain ⟨w, cap, hw, -, htext, rfl⟩ := exists_of_turn?_variant hx h
    have htag : skeleton "<Button".toList = [] := by decide
    rw [htext]
    simp only [skeleton_append, htag, hw.skeleton_eq_nil, hvalue, hnew, List.nil_append,
      List.append_assoc]
  | element tag ending new finish =>
    obtain ⟨⟨htag, hending⟩, hnew, hfinish⟩ : (skeleton tag.toList = [] ∧
        skeleton ending.toList = []) ∧ skeleton new.toList = [] ∧ skeleton finish.toList = [] := by
      simpa only [isBare, Bool.and_eq_true, beq_iff_eq] using hbare
    obtain ⟨cap, -, htext, rfl⟩ := exists_of_turn?_element hx h
    rw [htext]
    simp only [skeleton_append, htag, hending, hnew, hfinish, List.nil_append, List.append_nil]
  | longField =>
    obtain ⟨w, cap, cap', hw, -, -, -, -, htext, rfl⟩ := exists_of_turn?_longField h
    have hfixed : ∀ s ∈ ["<TextField", "multiline", "/>",
        "<textarea className=\"form-control\" ", " ", "></textarea>"],
        skeleton s.toList = [] := by decide
    simp only [List.forall_mem_cons] at hfixed
    obtain ⟨htag, hword, hending, hnew, hgap, hfinish, -⟩ := hfixed
    rw [htext]
    simp only [skeleton_append, htag, hw.skeleton_eq_nil, hword, hending, hnew, hgap, hfinish,
      List.nil_append, List.append_assoc]
  | field =>
    obtain ⟨w, cap, hw, -, -, htext, rfl⟩ := exists_of_turn?_field h
    have hfixed : ∀ s ∈ ["<TextField", "/>", "<input className=\"form-control\" ", " />"],
        skeleton s.toList = [] := by decide
    simp only [List.forall_mem_cons] at hfixed
    obtain ⟨htag, hending, hnew, hfinish, -⟩ := hfixed
    rw [htext]
    simp only [skeleton_append, htag, hw.skeleton_eq_nil, hending, hnew, hfinish, List.nil_append,
      List.append_nil]
  | words old new =>
    obtain ⟨hold, hnew⟩ : skeleton old.toList = [] ∧ skeleton new.toList = [] := by
      simpa only [isBare, Bool.and_eq_true, beq_iff_eq] using hbare
    obtain ⟨htext, rfl⟩ := (turn?_words_iff hx).1 h
    rw [htext, skeleton_append, skeleton_append, hold, hnew]

/-! ### All matches in a text -/

/-- What relates the skeletons of what is put in and what is taken away at every match relates those
of the texts. The relation holds between a text and itself, and of parts put together. -/
theorem skeleton_apply_of_turn? {R : List Char → List Char → Prop} (hrefl : ∀ s, R s s)
    (happend : ∀ {s s' t t'}, R s s' → R t t' → R (s ++ t) (s' ++ t')) (hx : x.isSound)
    (hturn : ∀ {u put after}, x.turn? (u ++ after) = some (put, after) →
      R (skeleton put) (skeleton u)) (text : List Char) :
    R (skeleton (x.apply text)) (skeleton text) := by
  have aux {n : Nat} {text out : List Char} (h : x.Rewrites n text out) :
      R (skeleton out) (skeleton text) := by
    induction h with
    | nil => exact hrefl []
    | @kept n c cs out h later ih =>
      have hfirst (s : List Char) : skeleton (c :: s) = skeleton [c] ++ skeleton s :=
        skeleton_append [c] s
      rw [hfirst out, hfirst cs]
      exact happend (hrefl (skeleton [c])) ih
    | turned h later ih =>
      obtain ⟨u, -, -, rfl, -⟩ := exists_leads_of_turn? hx h
      rw [skeleton_append, skeleton_append]
      exact happend (hturn h) ih
  exact aux (rewrites_apply hx text)

/-- A bare form keeps the skeleton of a text. -/
theorem skeleton_apply_eq (hx : x.isSound) (hbare : x.isBare) (text : List Char) :
    skeleton (x.apply text) = skeleton text :=
  skeleton_apply_of_turn? (fun _ => rfl) (fun h h' => congrArg₂ (· ++ ·) h h') hx
    (skeleton_put_eq hx hbare) text

/-- A form of the table adds nothing to the skeleton of a text. -/
theorem skeleton_apply_sublist (hx : x ∈ bootstrapForms) (text : List Char) :
    (skeleton (x.apply text)).Sublist (skeleton text) := by
  have hsound := isSound_of_mem hx
  refine skeleton_apply_of_turn? List.Sublist.refl List.Sublist.append hsound (fun h => ?_) text
  rcases mem_bootstrapForms_iff.1 hx with himport | hother
  · obtain ⟨-, -, -, rfl⟩ := exists_mem_of_turn?_import himport h
    exact List.nil_sublist _
  · rw [skeleton_put_eq hsound (isBare_of_mem hother) h]

end Form

/-! ### The rules of the table -/

theorem Rule.category_ofReadable (category : Category) (source replacement : String)
    (readable : (Pattern.read source.toList).isOk) :
    (ofReadable category source replacement readable).category = category := by
  unfold ofReadable
  split
  · rfl
  · next h => rw [h] at readable; cases readable

theorem category_of_mem_importRules : ∀ r ∈ importRules, r.category = .importElision := by
  simp only [importRules, List.forall_mem_cons, Rule.category_ofReadable]
  simp

theorem category_ne_of_mem : ∀ r ∈ tagRules ++ attributeRules, r.category ≠ .importElision := by
  simp only [tagRules, buttonRules, textFieldRules, selectRules, formControlRules, inputLabelRules,
    checkboxRules, radioRules, boxRules, chipRules, attributeRules, List.cons_append,
    List.nil_append, List.forall_mem_cons, Rule.category_ofReadable]
  simp

/-- A rule of the table removes imports and has one of the forms for that, or keeps the skeleton of
every text. -/
theorem exists_form_or_skeleton_apply_eq {r : Rule} (hr : r ∈ bootstrapRules) :
    (r.category = .importElision ∧ ∃ x ∈ importForms, r.HasForm x) ∨
      (r.category ≠ .importElision ∧ ∀ text, skeleton (r.apply text) = skeleton text) := by
  rw [bootstrapRules_eq, List.append_assoc, List.mem_append] at hr
  rcases hr with himport | hother
  · exact .inl ⟨category_of_mem_importRules r himport,
      (exists_form_and_exists_rule forall₂_importRules).1 r himport⟩
  · refine .inr ⟨category_ne_of_mem r hother, fun text => ?_⟩
    obtain ⟨x, hx, hform⟩ := (exists_form_and_exists_rule
      (List.rel_append forall₂_tagRules forall₂_attributeRules)).1 r hother
    have hsound := Form.isSound_of_mem (mem_bootstrapForms_iff.2 (.inr hx))
    rw [hform.apply_eq]
    exact Form.skeleton_apply_eq hsound (Form.isBare_of_mem hx) text

/-- Rules of the table add nothing to the skeleton of a text. -/
theorem skeleton_applyChars_sublist : ∀ {rs : RuleSet}, rs ⊆ bootstrapRules → ∀ text : List Char,
    (skeleton (rs.applyChars text)).Sublist (skeleton text)
  | [], _, _ => List.Sublist.refl _
  | r :: rs, h, text => by
    obtain ⟨x, hx, hform⟩ := exists_form_of_mem (h List.mem_cons_self)
    rw [RuleSet.applyChars_cons, hform.apply_eq]
    exact (skeleton_applyChars_sublist (fun q hq => h (List.mem_cons_of_mem r hq)) _).trans
      (Form.skeleton_apply_sublist hx text)

/-- **Rules of the table keep the skeleton of a text** if the report of them has no hit of a rule
that removes imports. -/
theorem skeleton_applyChars_eq : ∀ {rs : RuleSet}, rs ⊆ bootstrapRules → ∀ {index : Nat}
    {text : List Char},
    (∀ hit ∈ (RuleSet.reportFrom index rs text).2, hit.category ≠ .importElision) →
      skeleton (rs.applyChars text) = skeleton text
  | [], _, _, _, _ => rfl
  | r :: rs, hsub, index, text, h => by
    have hrs : rs ⊆ bootstrapRules := fun q hq => hsub (List.mem_cons_of_mem r hq)
    rw [RuleSet.applyChars_cons]
    rw [RuleSet.reportFrom] at h
    split at h
    · next hcount =>
      rw [r.apply_eq_self_of_countP_eq_zero hcount]
      exact skeleton_applyChars_eq hrs h
    · next hcount =>
      obtain ⟨hcategory, hlater⟩ := List.forall_mem_cons.1 h
      rcases exists_form_or_skeleton_apply_eq (hsub List.mem_cons_self) with
        ⟨helision, -⟩ | ⟨-, hkept⟩
      · exact absurd helision hcategory
      · exact (skeleton_applyChars_eq hrs hlater).trans (hkept text)

/-- A text without the sign `@` gets none, as the sign is structural. -/
theorem not_mem_applyChars {rs : RuleSet} (hsub : rs ⊆ bootstrapRules) {text : List Char}
    (h : '@' ∉ text) : '@' ∉ rs.applyChars text := fun hmem =>
  have hkept := (skeleton_applyChars_sublist hsub text).subset
    (mem_skeleton.2 ⟨hmem, by decide⟩)
  h (mem_skeleton.1 hkept).1

/-- **What the table does to the skeleton of a text.** The structural characters of the text that
the table makes are some of those of the text, in the same order. They are all of them if no rule
that removes imports has a match, and none has one in a text without the sign `@`. -/
theorem skeleton_apply (text : String) :
    (skeleton (bootstrapRules.apply text).toList).Sublist (skeleton text.toList) ∧
    ((∀ hit ∈ (bootstrapRules.report text).2, hit.category ≠ .importElision) →
      skeleton (bootstrapRules.apply text).toList = skeleton text.toList) ∧
    ('@' ∉ text.toList →
      ∀ hit ∈ (bootstrapRules.report text).2, hit.category ≠ .importElision) := by
  rw [RuleSet.apply, String.toList_ofList, RuleSet.snd_report]
  refine ⟨skeleton_applyChars_sublist (List.Subset.refl _) _,
    skeleton_applyChars_eq (List.Subset.refl _), fun h hit hhit hcategory => ?_⟩
  obtain ⟨i, r, hr, hmatch, rfl⟩ := RuleSet.mem_reportFrom_iff.1 hhit
  rcases exists_form_or_skeleton_apply_eq (List.mem_of_getElem? hr) with
    ⟨-, x, hx, hform⟩ | ⟨hother, -⟩
  · refine hmatch ((hform.hits_eq _).trans (Form.hits_eq_zero_of_not_mem hx ?_))
    exact not_mem_applyChars (List.take_subset i bootstrapRules) h
  · exact hother hcategory

/-- A box with an attribute in braces, which holds a dollar sign. -/
def styledBox : String := "<Box sx=\x7b\x7b p: $1 \x7d\x7d>é;</Box>"

theorem skeleton_apply_styledBox :
    '@' ∉ styledBox.toList ∧
    bootstrapRules.apply styledBox = "<div sx=\x7b\x7b p: $1 \x7d\x7d>é;</div>" ∧
    skeleton (bootstrapRules.apply styledBox).toList = "\x7b\x7b:$\x7d\x7dé;".toList := by
  have hsign : '@' ∉ styledBox.toList := by decide +kernel
  obtain ⟨-, hkept, hnone⟩ := skeleton_apply styledBox
  refine ⟨hsign, ?_, (hkept (hnone hsign)).trans (by decide +kernel)⟩
  rw [RuleSet.apply, applyChars_eq_of_hasForm forall₂_bootstrapRules]
  decide +kernel

-- An import takes its quotation marks and its semicolon along.
example : skeleton (bootstrapRules.apply "import a from '@mui/material'; f($1);").toList =
    "($);".toList := by
  rw [RuleSet.apply, applyChars_eq_of_hasForm forall₂_bootstrapRules]
  decide +kernel

end Restyle
