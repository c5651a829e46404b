import Restyle.Proofs.Rule.Markup

/-!
# What the forms for imports remove

An import that is removed ends with its package in quotation marks, and with a semicolon if there is
one. The forms for imports of a name look for a list in braces before the package, and take the
statement of this list alone. Those for imports on a line look for a package only, and take
everything on the line before it along: they reach to the last package on the line whose imports
they remove.

## Main definitions

* `Restyle.Form.IsFrom` — the packages whose imports a form removes.
* `Restyle.Form.EndsImport` — the end of an import, as a form looks for it.
* `Restyle.Form.IsForLine` — the forms for imports on a line.

## Main results

* `Restyle.Form.IsForLine.exists_of_turn?`, `Restyle.Form.IsForLine.isSome_turn?` — imports on a
  line.
* `Restyle.Form.exists_of_turn?_namedImport`, `Restyle.Form.isSome_turn?_namedImport` — imports of
  names.
-/

namespace Restyle

theorem not_isQuote_of_isBlank {c : Char} (hc : Text.isBlank c) : ¬ IsQuote c := by
  rintro (rfl | rfl)
  · exact absurd hc (by decide)
  · exact absurd hc (by decide)

instance (c : Char) : Decidable (IsQuote c) := inferInstanceAs (Decidable (_ ∨ _))

/-! ### Packages and the ends of imports -/

namespace Form

open Shape

variable {x : Form} {rest put after : List Char}

theorem exists_way_of_turn? (h : x.turn? rest = some (put, after)) :
    ∃ t m, way (fun _ => none) x.shape ends rest = some t ∧ put = x.template.expand [] m ∧
      ∀ {u after'}, rest = u ++ after' → t.left = after'.length → after = after' := by
  obtain ⟨m, hm, hput⟩ := Option.map_eq_some_iff.1 h
  obtain ⟨rfl, rfl⟩ := Prod.mk.inj hput
  obtain ⟨t, hway, rfl⟩ := Option.map_eq_some_iff.1 hm
  refine ⟨t, _, hway, rfl, ?_⟩
  rintro u after' rfl hleft
  change List.drop (_ - t.left) _ = after'
  rw [hleft, List.length_append, Nat.add_sub_cancel, List.drop_left]

/-- What stands between the quotation marks of an import that a form removes. -/
def package : Form → List Shape
  | styleImport => [text "@emotion/", repeated (one quotes.compl) 1 none .more]
  | _ => [text "@mui/material"]

/-- The packages whose imports a form removes. -/
def IsFrom : Form → List Char → Prop
  | styleImport, p =>
    ∃ name : List Char, name ≠ [] ∧ (∀ c ∈ name, ¬ IsQuote c) ∧ p = "@emotion/".toList ++ name
  | _, p => p = "@mui/material".toList

theorem isFrom_styleImport_iff {p : List Char} : styleImport.IsFrom p ↔
    "@emotion/".toList <+: p ∧ p.drop 9 ≠ [] ∧ ∀ c ∈ p.drop 9, ¬ IsQuote c := by
  constructor
  · rintro ⟨name, hne, hname, rfl⟩
    exact ⟨List.prefix_append _ _, hne, hname⟩
  · rintro ⟨⟨name, rfl⟩, hne, hname⟩
    exact ⟨name, hne, hname, rfl⟩

instance : (x : Form) → (p : List Char) → Decidable (x.IsFrom p)
  | styleImport, _ => decidable_of_iff _ isFrom_styleImport_iff.symm
  | namedImport _, p | packageImport, p | variant .., p | element .., p | longField, p | field, p
  | words .., p => inferInstanceAs (Decidable (p = "@mui/material".toList))

theorem IsFrom.not_isQuote {p : List Char} (h : x.IsFrom p) : ∀ c ∈ p, ¬ IsQuote c := by
  have hslash : ∀ c ∈ "@emotion/".toList, ¬ IsQuote c := by simp [IsQuote]
  have hlibrary : ∀ c ∈ "@mui/material".toList, ¬ IsQuote c := by simp [IsQuote]
  unfold IsFrom at h
  split at h
  · obtain ⟨name, -, hname, rfl⟩ := h
    exact List.forall_mem_append.2 ⟨hslash, hname⟩
  · exact h ▸ hlibrary

/-- The name of a package whose imports are removed begins with a sign. -/
theorem IsFrom.exists_cons {p : List Char} (h : x.IsFrom p) : ∃ p', p = '@' :: p' := by
  unfold IsFrom at h
  split at h
  · obtain ⟨name, -, -, rfl⟩ := h
    exact ⟨_, rfl⟩
  · exact ⟨_, h⟩

end Form

instance (p : List Char) : Decidable (IsPackage p) :=
  inferInstanceAs (Decidable (Form.packageImport.IsFrom p ∨ Form.styleImport.IsFrom p))

theorem IsPackage.not_isQuote {p : List Char} (h : IsPackage p) : ∀ c ∈ p, ¬ IsQuote c := by
  rcases h with hp | hp
  · exact Form.IsFrom.not_isQuote (x := .packageImport) hp
  · exact Form.IsFrom.not_isQuote (x := .styleImport) hp

namespace Form

open Shape

variable {x : Form} {rest put after : List Char}

theorem leads_package {marks : List Mark} :
    (ofParts x.package).Leads (fun _ => none) rest marks after ↔
      ∃ p, x.IsFrom p ∧ rest = p ++ after ∧ marks = [] := by
  have hlibrary : (ofParts [text "@mui/material"]).Leads (fun _ => none) rest marks after ↔
      ∃ p, p = "@mui/material".toList ∧ rest = p ++ after ∧ marks = [] := by simp [ofParts]
  cases x with
  | styleImport =>
    have hquote (c : Char) : quotes.compl.contains c ↔ ¬ IsQuote c := by
      rw [CharSet.contains_compl, Bool.not_eq_true', ← contains_quotes, Bool.not_eq_true]
    constructor
    · rintro ⟨_, _, _, ⟨rfl, rfl⟩, ⟨name, hname, hlength, rfl, rfl⟩, rfl⟩
      exact ⟨_, ⟨name, List.ne_nil_of_length_pos hlength, fun c hc => (hquote c).1 (hname c hc),
        rfl⟩, by simp, rfl⟩
    · rintro ⟨_, ⟨name, hne, hname, rfl⟩, rfl, rfl⟩
      exact ⟨_, _, _, ⟨by rw [List.append_assoc], rfl⟩,
        ⟨name, fun c hc => (hquote c).2 (hname c hc), List.length_pos_of_ne_nil hne, rfl, rfl⟩, rfl⟩
  | _ => exact hlibrary

/-- A text begins with the end of an import of a form, behind which `after` stands. A semicolon
behind the package belongs to the end. -/
def EndsImport (x : Form) (text after : List Char) : Prop :=
  ∃ w q p q' behind, IsBlank w ∧ IsQuote q ∧ x.IsFrom p ∧ IsQuote q' ∧
    text = "from".toList ++ (w ++ q :: (p ++ q' :: behind)) ∧
    (behind = ';' :: after ∨ behind = after ∧ after.head? ≠ some ';')

theorem EndsImport.exists_cons {text : List Char} (h : x.EndsImport text after) :
    ∃ cs, text = 'f' :: cs := by
  obtain ⟨w, q, p, q', behind, -, -, -, -, rfl, -⟩ := h
  exact ⟨_, rfl⟩

theorem EndsImport.exists_append {text : List Char} (h : x.EndsImport text after) :
    ∃ u, text = u ++ after := by
  obtain ⟨w, q, p, q', behind, -, -, -, -, rfl, rfl | ⟨rfl, -⟩⟩ := h
  · exact ⟨"from".toList ++ (w ++ q :: (p ++ [q', ';'])), by simp⟩
  · exact ⟨"from".toList ++ (w ++ q :: (p ++ [q'])), by simp⟩

/-- What stands at the end of an import before the package, and behind it. -/
def beforePackage : Shape := ofParts [text "from", blanks, one quotes]

/-- See `beforePackage`. -/
def behindPackage : Shape := ofParts [one quotes, repeated (text ";") 0 (some 1) .more]

theorem way_fromPackage : way (fun _ => none) (ofParts (fromPackage x.package)) ends =
    way (fun _ => none) beforePackage
      (way (fun _ => none) (ofParts x.package) (way (fun _ => none) behindPackage ends)) := by
  rw [fromPackage, List.append_assoc, way_ofParts_append _ _ (by simp),
    way_ofParts_append _ _ (by simp)]
  rfl

/-- The preferred way through the end of an import takes a semicolon along. -/
theorem exists_endsImport_of_way {t : Trail}
    (h : way (fun _ => none) (ofParts (fromPackage x.package)) ends rest = some t) :
    ∃ after, x.EndsImport rest after ∧ t.left = after.length := by
  have hplain : (ofParts x.package).isPlain := by cases x <;> rfl
  rw [way_fromPackage] at h
  obtain ⟨_, between, t₁, ⟨_, _, _, ⟨rfl, rfl⟩, ⟨_, _, _, hblanks, ⟨q, hq, rfl, rfl⟩, rfl⟩, rfl⟩,
    h₁, rfl⟩ := exists_leads_of_way _ (by decide) h
  obtain ⟨w, hw, rfl, rfl⟩ := (leads_blanks ..).1 hblanks
  obtain ⟨_, behind, t₂, hlead, h₂, rfl⟩ := exists_leads_of_way _ hplain h₁
  obtain ⟨p, hp, rfl, rfl⟩ := leads_package.1 hlead
  obtain ⟨q', behind, hq', rfl, h₃⟩ := exists_of_step h₂
  have hends {after : List Char}
      (hend : behind = ';' :: after ∨ behind = after ∧ after.head? ≠ some ';')
      (hleft : t₂.left = after.length) : ∃ after,
        x.EndsImport ("from".toList ++ (w ++ q :: (p ++ q' :: behind))) after ∧
          t₂.left = after.length :=
    ⟨after, ⟨w, q, p, q', behind, hw, (contains_quotes q).1 hq, hp, (contains_quotes q').1 hq', rfl,
      hend⟩, hleft⟩
  rcases behind with _ | ⟨c, behind⟩
  · obtain rfl := Option.some.inj h₃
    exact hends (.inr ⟨rfl, by simp⟩) rfl
  · by_cases hc : c = ';'
    · subst hc
      obtain rfl := Option.some.inj h₃
      exact hends (.inl rfl) rfl
    · have hstop : ends (c :: behind) = some t₂ := by
        have hnone : way (fun _ => none) (text ";") ends (c :: behind) = none :=
          if_neg (by simp [Ne.symm hc])
        have hpick : Preference.more.pick (way (fun _ => none) (text ";") ends (c :: behind))
          (ends (c :: behind)) = some t₂ := h₃
        rwa [hnone] at hpick
      obtain rfl := Option.some.inj hstop
      exact hends (.inr ⟨rfl, by simpa using hc⟩) rfl

theorem EndsImport.exists_leads (h : x.EndsImport rest after) :
    ∃ after', (ofParts (fromPackage x.package)).Leads (fun _ => none) rest [] after' := by
  obtain ⟨w, q, p, q', behind, hw, hq, hp, hq', rfl, -⟩ := h
  exact ⟨behind, leads_fromPackage.2 ⟨w, q, _, hw, hq, rfl, (leads_ofParts_append _ (by simp)).2
    ⟨[], _, [], leads_package.2 ⟨p, hp, rfl, rfl⟩, leads_importEnd hq' behind, rfl⟩⟩⟩

/-! ### Imports on a line -/

/-- The forms that remove an import on a line, whatever is imported. -/
def IsForLine (x : Form) : Prop := x = packageImport ∨ x = styleImport

theorem IsForLine.shape_eq (hx : x.IsForLine) :
    x.shape =
      ofParts ([text "import", blanks, many (otherThan '\n')] ++ fromPackage x.package) := by
  rcases hx with rfl | rfl <;> rfl

/-- **What a form for imports on a line removes** reaches to the last package on the line, as far as
it removes imports from it. -/
theorem IsForLine.exists_of_turn? (hx : x.IsForLine) (h : x.turn? rest = some (put, after)) :
    put = [] ∧ ∃ w line behind, IsBlank w ∧ '\n' ∉ line ∧
      rest = "import".toList ++ (w ++ (line ++ behind)) ∧ x.EndsImport behind after ∧
      ∀ v u after', v ≠ [] → '\n' ∉ v → behind = v ++ u → ¬ x.EndsImport u after' := by
  obtain ⟨t, m, hway, rfl, heq⟩ := exists_way_of_turn? h
  have htemplate : x.template = [] := by rcases hx with rfl | rfl <;> rfl
  have hne : fromPackage x.package ≠ [] := by simp [fromPackage]
  rw [hx.shape_eq, way_ofParts_append _ _ hne] at hway
  have hstart : way (fun _ => none) (ofParts [text "import", blanks])
      (run (otherThan '\n') .more (way (fun _ => none) (ofParts (fromPackage x.package)) ends))
        rest = some t := hway
  obtain ⟨_, _, t₁, ⟨_, _, _, ⟨rfl, rfl⟩, hblanks, rfl⟩, hrun, rfl⟩ :=
    exists_leads_of_way _ (by decide) hstart
  obtain ⟨w, hw, rfl, rfl⟩ := (leads_blanks ..).1 hblanks
  obtain ⟨line, behind, hline, rfl, hend, hlast⟩ := exists_of_run_last hrun
  obtain ⟨after, hafter, hleft⟩ := exists_endsImport_of_way hend
  have hset (v : List Char) : (∀ c ∈ v, (otherThan '\n').contains c) ↔ '\n' ∉ v := by
    simp only [contains_otherThan, bne_iff_ne, ne_eq]
    exact ⟨fun h hmem => h _ hmem rfl, fun h c hc heq => h (heq ▸ hc)⟩
  obtain ⟨u, hu⟩ := hafter.exists_append
  obtain rfl := heq (u := "import".toList ++ (w ++ (line ++ u))) (by simp [hu]) hleft
  refine ⟨by rw [htemplate]; rfl, w, line, behind, hw, (hset line).1 hline, rfl, hafter, ?_⟩
  intro v u after' hv hline' hsplit hends
  have hplain : (ofParts (fromPackage x.package)).isPlain := by cases x <;> rfl
  obtain ⟨behind', hlead⟩ := hends.exists_leads
  have hsome : (way (fun _ => none) (ofParts (fromPackage x.package)) ends u).isSome :=
    isSome_way_of_leads _ hplain hlead rfl
  rw [hlast v u hv ((hset v).2 hline') hsplit] at hsome
  exact Bool.noConfusion hsome

theorem IsForLine.isSome_turn? (hx : x.IsForLine) {w line behind : List Char} (hw : IsBlank w)
    (hline : '\n' ∉ line) (h : x.EndsImport behind after) :
    (x.turn? ("import".toList ++ (w ++ (line ++ behind)))).isSome := by
  have hsound : x.isSound := by rcases hx with rfl | rfl <;> decide
  obtain ⟨after', hlead⟩ := h.exists_leads
  refine isSome_turn?_of_leads hsound [] after' ?_
  rw [hx.shape_eq]
  exact leads_lineImport.2 ⟨w, line, behind, hw, hline, rfl, hlead⟩

/-! ### Imports of names -/

/-- **What a form for imports of a name removes.** -/
theorem exists_of_turn?_namedImport {name : String}
    (hname : name ∈ ["Button", "TextField", "Select"])
    (h : (namedImport name).turn? rest = some (put, after)) :
    put = [] ∧ ∃ w inner w₁ behind, IsBlank w ∧ '\x7d' ∉ inner ∧ name.toList <:+: inner ∧
      IsBlank w₁ ∧ rest = "import".toList ++ (w ++ '\x7b' :: (inner ++ '\x7d' :: (w₁ ++ behind))) ∧
      (namedImport name).EndsImport behind after := by
  obtain ⟨hne, hbrace⟩ : name.toList ≠ [] ∧ '\x7d' ∉ name.toList := by
    have : ∀ name ∈ ["Button", "TextField", "Select"], name.toList ≠ [] ∧ '\x7d' ∉ name.toList := by
      decide
    exact this name hname
  obtain ⟨t, m, hway, rfl, heq⟩ := exists_way_of_turn? h
  have hshape : (namedImport name).shape = ofParts ([text "import", blanks, text "\x7b",
      many (otherThan '\x7d'), text name, many (otherThan '\x7d'), text "\x7d", blanks] ++
        fromPackage (namedImport name).package) := rfl
  have hplain : (ofParts [text "import", blanks, text "\x7b", many (otherThan '\x7d'), text name,
      many (otherThan '\x7d'), text "\x7d", blanks]).isPlain := by
    simp [ofParts, isPlain, text, blanks, many, hne]
  rw [hshape, way_ofParts_append _ _ (by simp [fromPackage])] at hway
  obtain ⟨_, behind, t₁,
    ⟨_, _, _, ⟨rfl, rfl⟩, ⟨_, _, _, hblanks, ⟨_, _, _, ⟨rfl, rfl⟩, ⟨_, _, _, hmany,
      ⟨_, _, _, ⟨rfl, rfl⟩, ⟨_, _, _, hmany', ⟨_, _, _, ⟨rfl, rfl⟩, hblanks', rfl⟩, rfl⟩, rfl⟩,
        rfl⟩, rfl⟩, rfl⟩, rfl⟩, hend, rfl⟩ := exists_leads_of_way _ hplain hway
  obtain ⟨w, hw, rfl, rfl⟩ := (leads_blanks ..).1 hblanks
  obtain ⟨a, ha, rfl, rfl⟩ := (leads_many ..).1 hmany
  obtain ⟨b, hb, rfl, rfl⟩ := (leads_many ..).1 hmany'
  obtain ⟨w₁, hw₁, rfl, rfl⟩ := (leads_blanks ..).1 hblanks'
  obtain ⟨after, hafter, hleft⟩ := exists_endsImport_of_way hend
  obtain ⟨u, rfl⟩ := hafter.exists_append
  obtain rfl := heq (u := "import".toList ++ (w ++ '\x7b' :: (a ++ (name.toList ++ (b ++ '\x7d' ::
    (w₁ ++ u)))))) (by simp) hleft
  exact ⟨rfl, w, a ++ (name.toList ++ b), w₁, _, hw, by simp [ha, hbrace, hb],
    List.infix_append' a name.toList b, hw₁, by simp, hafter⟩

theorem isSome_turn?_namedImport {name : String} (hx : (namedImport name).isSound)
    {w inner w₁ behind : List Char} (hw : IsBlank w) (hinner : '\x7d' ∉ inner)
    (hname : name.toList <:+: inner) (hw₁ : IsBlank w₁)
    (h : (namedImport name).EndsImport behind after) :
    ((namedImport name).turn?
      ("import".toList ++ (w ++ '\x7b' :: (inner ++ '\x7d' :: (w₁ ++ behind))))).isSome := by
  obtain ⟨a, b, rfl⟩ := hname
  obtain ⟨after', hlead⟩ := h.exists_leads
  simp only [List.mem_append, not_or] at hinner
  exact isSome_turn?_of_leads hx [] after'
    (leads_namedImport.2 ⟨w, a, b, w₁, behind, hw, hinner.1.1, hinner.2, hw₁, by simp, hlead⟩)

theorem mem_importForms_iff {x : Form} : x ∈ importForms ↔
    (∃ name ∈ ["Button", "TextField", "Select"], x = namedImport name) ∨ x.IsForLine := by
  simp [importForms, IsForLine, or_assoc]

theorem prefix_of_turn?_import (hx : x ∈ importForms) (h : x.turn? rest = some (put, after)) :
    "import".toList <+: rest := by
  rcases mem_importForms_iff.1 hx with ⟨name, hname, rfl⟩ | hline
  · obtain ⟨-, w, inner, w₁, behind, -, -, -, -, rfl, -⟩ := exists_of_turn?_namedImport hname h
    exact List.prefix_append _ _
  · obtain ⟨-, w, line, behind, -, -, rfl, -⟩ := hline.exists_of_turn? h
    exact List.prefix_append _ _

/-- No import begins with another character than its first one. -/
theorem turn?_cons_eq_none (hx : x ∈ importForms) {c : Char} (hc : c ≠ 'i') :
    x.turn? (c :: rest) = none := by
  rw [Option.eq_none_iff_forall_ne_some]
  rintro ⟨put, after⟩ hturn
  obtain ⟨k, hk⟩ := prefix_of_turn?_import hx hturn
  exact hc (List.cons.inj hk).1.symm

end Form

end Restyle
