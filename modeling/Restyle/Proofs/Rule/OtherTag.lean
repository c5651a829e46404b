import Restyle.Proofs.Rule.SecondConversion

/-!
# Tags of components outside the table

The opening tag of a component that the table does not hold is not always kept. The rules for
opening tags and for elements without content look for the beginning of a name only, and one of them
*takes* the tag if the name goes on from that of its own component. The rules for the variants of
buttons and for text fields look for white space behind the name and take no such tag. The rule for
full widths looks for its attribute anywhere, in names as well. Apart from this the tag is kept.

## Main definitions

* `Restyle.componentNames` — the components of the table.
* `Restyle.IsComponentName` — the names that a component may have.
* `Restyle.IsTaken` — a rule for another component takes a tag.

## Main results

* `Restyle.convertible_prefix_iff` — where the table finds markup at the beginning of a tag.
* `Restyle.apply_otherTag_eq_iff` — which tags are kept.
* `Restyle.not_forall_apply_otherTag_eq` — not all of them are.
-/

namespace Restyle

/-- The names of the components of the table. -/
def componentNames : List String := containerNames ++ emptyNames ++ ["TextField"]

/-- The name of a component: a capital letter, and letters and digits behind it. -/
def IsComponentName (n : List Char) : Prop :=
  ∃ c cs, n = c :: cs ∧ c.isUpper ∧ ∀ d ∈ cs, d.isAlphanum

/-- A rule for a component with a shorter name takes the tag of the name `n`, with `s` behind the
name. -/
inductive IsTaken (n s : List Char) : Prop
  /-- the rule for its opening tag, up to the end of the tag -/
  | opening {m : String} (hm : m ∈ containerNames) (hn : m.toList <+: n) (hs : '>' ∈ s)
  /-- the rule for it as an element without content, if the tag ends with a slash -/
  | empty {m : String} (hm : m ∈ emptyNames) (hn : m.toList <+: n) {a v : List Char} (ha : '>' ∉ a)
    (hs : s = a ++ '/' :: '>' :: v)

variable {n s : List Char}

theorem IsComponentName.isAlphanum (hn : IsComponentName n) : ∀ c ∈ n, c.isAlphanum := by
  obtain ⟨c, cs, rfl, hc, hcs⟩ := hn
  intro d hd
  rcases List.mem_cons.1 hd with rfl | hd
  · change (d.isUpper || d.isLower || d.isDigit) = true
    rw [hc, Bool.true_or, Bool.true_or]
  · exact hcs d hd

theorem IsComponentName.not_mem {d : Char} (hn : IsComponentName n) (hd : ¬ d.isAlphanum) : d ∉ n :=
  fun hmem => hd (hn.isAlphanum d hmem)

/-- A tag with such a name is not quiet. -/
theorem IsComponentName.not_isQuiet (hn : IsComponentName n) (rest : List Char) :
    ¬ isQuiet ('<' :: (n ++ rest)) := by
  obtain ⟨c, cs, rfl, hc, -⟩ := hn
  exact fun h => isQuiet_iff.1 h _ (List.suffix_refl _)
    (mayOpenTag_iff.2 (.inr (.inr (.inl ⟨c, hc, cs ++ rest, rfl⟩))))

/-! ### Markup at the beginning of a tag -/

/-- A name of the table with which a name and the text behind it begin is the beginning of the name.
-/
theorem prefix_of_append_eq {m : String} (hm : m ∈ containerNames ++ emptyNames)
    (hs : ∃ d ∈ s.head?, ¬ d.isAlphanum) {rest : List Char} (h : n ++ s = m.toList ++ rest) :
    m.toList <+: n := by
  have hletters : ∀ m ∈ containerNames ++ emptyNames, ∀ c ∈ m.toList, c.isAlphanum := by decide
  obtain ⟨d, hd, hdelimiter⟩ := hs
  obtain ⟨s', rfl⟩ : ∃ s', s = d :: s' := List.head?_eq_some_iff.1 hd
  exact prefix_of_prefix_append_cons (fun hmem => hdelimiter (hletters m hm d hmem)) ⟨rest, h.symm⟩

/-- An element without content at the beginning of a tag, with `k` being the rest of the name. -/
theorem isTaken_of_append_eq {name : String} {k attributes behind : List Char}
    (hname : name ∈ emptyNames) (hslash : '/' ∉ k) (hclose : '>' ∉ attributes)
    (h : k ++ s = attributes ++ '/' :: '>' :: behind) : IsTaken (name.toList ++ k) s := by
  -- the rest of the name holds no slash, so it stands among the attributes
  rcases List.append_eq_append_iff.1 h with ⟨a, rfl, hs⟩ | ⟨k', rfl, hs⟩
  · exact .empty hname (List.prefix_append _ k) (fun ha => hclose (List.mem_append_right k ha)) hs
  · cases k' with
    | nil => exact .empty hname (List.prefix_append _ _) List.not_mem_nil hs.symm
    | cons c k' =>
      obtain ⟨rfl, -⟩ := List.cons.inj hs
      exact absurd (by simp) hslash

/-- The tag of a text field has the name of one. -/
theorem eq_textField_of_append_eq {w rest : List Char} (hn : IsComponentName n)
    (hs : ∃ d ∈ s.head?, ¬ d.isAlphanum) (hw : IsBlank w)
    (h : n ++ s = "TextField".toList ++ (w ++ rest)) : n = "TextField".toList := by
  obtain ⟨c, w', rfl⟩ := List.exists_cons_of_ne_nil hw.ne_nil
  have hblank : ∀ d ∈ (c :: w' ++ rest).head?, ¬ d.isAlphanum := by
    intro d hd halphanum
    obtain rfl : c = d := Option.some.inj hd
    exact Text.not_isBlank_of_isAlphanum halphanum (hw.isBlank c List.mem_cons_self)
  have hdelimiter : ∀ d ∈ s.head?, ¬ d.isAlphanum := by
    obtain ⟨e, he, hdelimiter⟩ := hs
    intro d hd
    rwa [← Option.some.inj (he.symm.trans hd)]
  exact (append_inj_of_forall (p := (·.isAlphanum)) hdelimiter hblank hn.isAlphanum (by decide) h).1

/-- Markup at the beginning of a tag is the tag of a component with a shorter name. -/
theorem isTaken_of_convertible_prefix (hn : IsComponentName n) (hfield : n ≠ "TextField".toList)
    (hs : ∃ d ∈ s.head?, ¬ d.isAlphanum) {u : List Char} (hu : Convertible u)
    (hstart : u <+: '<' :: (n ++ s)) : IsTaken n s := by
  obtain ⟨behind, h⟩ := hstart
  cases hu with
  | @opening name attributes hname hattributes =>
    have hrest : n ++ s = name.toList ++ (attributes ++ '>' :: behind) := by simpa using h.symm
    have hmem : '>' ∈ n ++ s := by simp [hrest]
    exact .opening hname (prefix_of_append_eq (List.mem_append_left _ hname) hs hrest)
      ((List.mem_append.1 hmem).resolve_left (hn.not_mem (by decide)))
  | @closing name hname =>
    have hrest : n ++ s = '/' :: (name.toList ++ '>' :: behind) := by simpa using h.symm
    obtain ⟨c, cs, rfl, hc, -⟩ := hn
    obtain ⟨rfl, -⟩ := List.cons.inj hrest
    exact absurd hc (by decide)
  | @empty name attributes hname hattributes =>
    have hrest : n ++ s = name.toList ++ (attributes ++ '/' :: '>' :: behind) := by
      simpa using h.symm
    obtain ⟨k, rfl⟩ := prefix_of_append_eq (List.mem_append_right _ hname) hs hrest
    have hslash : '/' ∉ name.toList ++ k := hn.not_mem (by decide)
    rw [List.append_assoc, List.append_cancel_left_eq] at hrest
    exact isTaken_of_append_eq hname
      (fun hk => hslash (List.mem_append_right _ hk)) hattributes hrest
  | @field w attributes hw hattributes =>
    have hrest : n ++ s = "TextField".toList ++ (w ++ (attributes ++ '/' :: '>' :: behind)) := by
      simpa using h.symm
    exact absurd (eq_textField_of_append_eq hn hs hw hrest) hfield
  | @styleAttribute a ha =>
    have hhead : ∀ a ∈ attributeTexts, ∀ rest, a.toList ++ rest ≠ '<' :: (n ++ s) := by
      simp [attributeTexts]
    exact absurd h (hhead a ha behind)
  | lineImport | namedImport => simp at h

/-- A tag that is taken is markup up to the end of the tag. -/
theorem IsTaken.exists_convertible_prefix (hn : IsComponentName n) (h : IsTaken n s) :
    ∃ u, Convertible u ∧ u <+: '<' :: (n ++ s) := by
  have hclose : '>' ∉ n := hn.not_mem (by decide)
  rcases h with ⟨hm, ⟨k, rfl⟩, hclosed⟩ | @⟨m, hm, ⟨k, rfl⟩, a, v, ha, rfl⟩
  · obtain ⟨a, v, rfl, ha⟩ := List.eq_append_cons_of_mem hclosed
    have hk : '>' ∉ k ++ a := by
      simp only [List.mem_append, not_or] at hclose ⊢
      exact ⟨hclose.2, ha⟩
    exact ⟨_, .opening hm hk, v, by simp⟩
  · have hk : '>' ∉ k ++ a := by
      simp only [List.mem_append, not_or] at hclose ⊢
      exact ⟨hclose.2, ha⟩
    exact ⟨_, .empty hm hk, v, by simp⟩

/-- **Where the table finds markup at the beginning of a tag.** -/
theorem convertible_prefix_iff (hn : IsComponentName n) (hfield : n ≠ "TextField".toList)
    (hs : ∃ d ∈ s.head?, ¬ d.isAlphanum) :
    (∃ u, Convertible u ∧ u <+: '<' :: (n ++ s)) ↔ IsTaken n s :=
  ⟨fun ⟨_, hu, hstart⟩ => isTaken_of_convertible_prefix hn hfield hs hu hstart,
    fun h => h.exists_convertible_prefix hn⟩

/-! ### A tag and the text behind it -/

namespace Form

variable {x : Form} {put after : List Char}

/-- Whether the texts that a form puts in around attributes are quiet. -/
def isQuietPut : Form → Bool
  | namedImport _ | packageImport | styleImport => false
  | variant _ new | words _ new => isQuiet new.toList
  | element _ _ new finish => isQuiet new.toList && isQuiet finish.toList
  | longField | field => true

theorem not_mem_of_cons_eq_append {c : Char} {r u v : List Char} (hu : u ≠ []) (hr : c ∉ r)
    (h : c :: r = u ++ v) : c ∉ v := by
  cases u with
  | nil => exact absurd rfl hu
  | cons d u =>
    obtain ⟨-, rfl⟩ := List.cons.inj h
    exact fun hv => hr (List.mem_append_right u hv)

/-- What a rule for tags puts in the place of a tag, and the text behind it, are quiet if no other
tag begins there. -/
theorem isQuiet_of_turn? (hx : x ∈ tagForms) (hs : '<' ∉ s)
    (h : x.turn? ('<' :: s) = some (put, after)) : isQuiet (put ++ after) := by
  have hsound := isSound_of_mem_tagForms hx
  have hput : x.isQuietPut := by
    have : ∀ x ∈ tagForms, x.isQuietPut := by decide +kernel
    exact this x hx
  have hstart : x.start ≠ [] := by
    have : ∀ x ∈ tagForms, x.start ≠ [] := by decide +kernel
    exact this x hx
  cases x with
  | namedImport | packageImport | styleImport => exact absurd hput (by simp [isQuietPut])
  | variant value new =>
    obtain ⟨w, cap, -, -, hrest, rfl⟩ := exists_of_turn?_variant hsound h
    have hopen := not_mem_of_cons_eq_append hstart hs hrest
    simp only [List.mem_append, not_or] at hopen
    exact isQuiet_append (isQuiet_append hput (isQuiet_of_not_mem (by simp [hopen])))
      (isQuiet_of_not_mem hopen.2.2.2.2)
  | element tag ending new finish =>
    obtain ⟨cap, -, hrest, rfl⟩ := exists_of_turn?_element hsound h
    obtain ⟨hnew, hfinish⟩ : isQuiet new.toList ∧ isQuiet finish.toList := by
      simpa [isQuietPut] using hput
    have hopen := not_mem_of_cons_eq_append hstart hs hrest
    simp only [List.mem_append, not_or] at hopen
    exact isQuiet_append (isQuiet_append hnew (isQuiet_append (isQuiet_of_not_mem hopen.1) hfinish))
      (isQuiet_of_not_mem hopen.2.2)
  | longField =>
    obtain ⟨w, cap, cap', -, -, -, -, -, hrest, rfl⟩ := exists_of_turn?_longField h
    have hopen := not_mem_of_cons_eq_append hstart hs hrest
    simp only [List.mem_append, not_or] at hopen
    obtain ⟨-, hcap, -, hcap', -, hafter⟩ := hopen
    have hfinish : isQuiet "></textarea>".toList := by decide
    exact isQuiet_append (isQuiet_append (by decide) (isQuiet_append (isQuiet_of_not_mem hcap)
      (isQuiet_append (by decide) (isQuiet_append (isQuiet_of_not_mem hcap') hfinish))))
      (isQuiet_of_not_mem hafter)
  | field =>
    obtain ⟨w, cap, -, -, -, hrest, rfl⟩ := exists_of_turn?_field h
    have hopen := not_mem_of_cons_eq_append hstart hs hrest
    simp only [List.mem_append, not_or] at hopen
    obtain ⟨-, hcap, -, hafter⟩ := hopen
    exact isQuiet_append (isQuiet_append (by decide) (isQuiet_append (isQuiet_of_not_mem hcap)
      (by decide))) (isQuiet_of_not_mem hafter)
  | words old new =>
    obtain ⟨hrest, rfl⟩ := (turn?_words_iff hsound).1 h
    have hopen := not_mem_of_cons_eq_append hstart hs hrest
    exact isQuiet_append hput (isQuiet_of_not_mem hopen)

theorem apply_eq_self_of_isQuiet (hx : x ∈ tagForms) (hs : isQuiet s) : x.apply s = s := by
  have h := isSteady_of_isQuiet hs x hx []
  rw [List.append_nil] at h
  exact h.trans
    (by rw [applyAll_singleton, apply_nil (isSound_of_mem_tagForms hx), List.append_nil])

/-- The rules for tags keep a tag that none of them turns, and the text behind it, and make a quiet
text of one that one of them turns. -/
theorem applyAll_tag (hs : '<' ∉ s) : ∀ xs : List Form, (∀ x ∈ xs, x ∈ tagForms) →
    ((∀ x ∈ xs, x.turn? ('<' :: s) = none) → applyAll xs ('<' :: s) = '<' :: s) ∧
    ((∃ x ∈ xs, (x.turn? ('<' :: s)).isSome) → isQuiet (applyAll xs ('<' :: s)))
  | [], _ => by simp [applyAll]
  | x :: xs, hxs => by
    obtain ⟨hx, hxs⟩ := List.forall_mem_cons.1 hxs
    have hsound := isSound_of_mem_tagForms hx
    have hquiet : isQuiet s := isQuiet_of_not_mem hs
    obtain ⟨hkept, hturned⟩ := applyAll_tag hs xs hxs
    have hcons : applyAll (x :: xs) ('<' :: s) = applyAll xs (x.apply ('<' :: s)) := rfl
    cases h : x.turn? ('<' :: s) with
    | none =>
      rw [hcons, apply_of_turn?_eq_none hsound h, apply_eq_self_of_isQuiet hx hquiet]
      simp only [List.forall_mem_cons, List.exists_mem_cons_iff, h, Option.isSome_none,
        Bool.false_eq_true, false_or, true_and]
      exact ⟨hkept, hturned⟩
    | some turned =>
      obtain ⟨put, after⟩ := turned
      have hput := isQuiet_of_turn? hx hs h
      have hafter : isQuiet after := by
        obtain ⟨u, -, hu, hrest, -⟩ := exists_leads_of_turn? hsound h
        exact isQuiet_of_not_mem (not_mem_of_cons_eq_append hu hs hrest)
      have hlater : applyAll xs (put ++ after) = put ++ after := by
        have hbrings := brings_self (fun y hy => isSteady_of_isQuiet hput y (hxs y hy)) []
        rwa [applyAll_nil fun y hy => isSound_of_mem_tagForms (hxs y hy),
          List.append_nil] at hbrings
      rw [hcons, apply_of_turn? hsound h, apply_eq_self_of_isQuiet hx hafter, hlater]
      simp [h, hput]

end Form

/-- What the table makes of a tag and the text behind it. -/
theorem applyChars_tag (hs : '<' ∉ s) (hsign : '@' ∉ s) :
    ((∃ u, Convertible u ∧ u <+: '<' :: s) → isQuiet (bootstrapRules.applyChars ('<' :: s))) ∧
    ((¬ ∃ u, Convertible u ∧ u <+: '<' :: s) →
      bootstrapRules.applyChars ('<' :: s) = '<' :: classes s) := by
  have himport : '@' ∉ '<' :: s := by simpa using hsign
  have hforms : bootstrapRules.applyChars ('<' :: s) =
      classes (Form.applyAll tagForms ('<' :: s)) := by
    have happly : bootstrapRules.applyChars ('<' :: s) = Form.applyAll bootstrapForms ('<' :: s) :=
      applyChars_eq_of_hasForm forall₂_bootstrapRules _
    rw [happly, bootstrapForms, Form.applyAll_append, Form.applyAll_append,
      Form.applyAll_importForms himport, Form.applyAll_attributeForms]
  obtain ⟨hkept, hturned⟩ := Form.applyAll_tag hs tagForms fun x hx => hx
  rw [hforms]
  constructor
  · rintro ⟨u, hu, behind, h⟩
    obtain ⟨x, hx, hturn⟩ := Form.exists_turn?_of_convertible hu behind
    rw [h] at hturn
    refine isQuiet_classes (hturned ⟨x, ?_, hturn⟩)
    obtain ⟨⟨put, after⟩, hturn⟩ := Option.isSome_iff_exists.1 hturn
    -- rules for imports and attributes do not look for a tag
    rcases mem_bootstrapForms_iff.1 hx with hx | hx
    · obtain ⟨v, hv, hmem, -⟩ := Form.exists_mem_of_turn?_import hx hturn
      exact absurd (by rw [hv]; exact List.mem_append_left _ hmem) himport
    · rcases List.mem_append.1 hx with hx | hx
      · exact hx
      · have hstart : ∀ x ∈ attributeForms, x.start.head?.all (· != '<') ∧ x.start ≠ [] := by decide
        obtain ⟨hhead, hne⟩ := hstart x hx
        have hprefix := Form.start_prefix_of_turn?
          (Form.isSound_of_mem (by simp [bootstrapForms, hx])) hturn
        obtain ⟨c, cs, hcs⟩ := List.exists_cons_of_ne_nil hne
        rw [hcs] at hprefix hhead
        obtain ⟨rfl, -⟩ := List.cons_prefix_cons.1 hprefix
        simp at hhead
  · intro hnot
    have hnone : ∀ x ∈ tagForms, x.turn? ('<' :: s) = none := by
      intro x hx
      rw [Option.eq_none_iff_forall_ne_some]
      intro turned hturn
      obtain ⟨u, behind, hu, hrest⟩ :=
        Form.exists_convertible_of_turn? (by simp [bootstrapForms, hx]) hturn
      exact hnot ⟨u, hu, behind, hrest.symm⟩
    rw [hkept hnone, classes_cons (by decide)]

/-- The rules for attributes keep a name exactly if it does not hold the attribute for full widths,
which alone is a word. -/
theorem classes_eq_self_iff_of_isAlphanum (hn : ∀ c ∈ n, c.isAlphanum) :
    classes n = n ↔ ¬ "fullWidth".toList <:+: n := by
  have hsign : ∀ c ∈ attributeClasses, '"' ∈ c.1.toList ∨ c.1 = "fullWidth" := by decide
  have hquote : '"' ∉ n := fun hmem => absurd (hn _ hmem) (by decide)
  rw [classes_eq_self_iff]
  constructor
  · exact fun h => h ("fullWidth", "className=\"w-100\"") (by decide)
  · intro h c hc hin
    rcases hsign c hc with hmem | heq
    · exact hquote (hin.subset hmem)
    · exact h (heq ▸ hin)

theorem applyChars_otherTag_eq_iff (hn : IsComponentName n) (hfield : n ≠ "TextField".toList)
    (hhead : ∃ c ∈ s.head?, Text.isBlank c ∨ c = '/' ∨ c = '>') (hopen : '<' ∉ s)
    (hsign : '@' ∉ s) :
    bootstrapRules.applyChars ('<' :: (n ++ s)) = '<' :: (n ++ bootstrapRules.applyChars s) ↔
      ¬ IsTaken n s ∧ ¬ "fullWidth".toList <:+: n := by
  obtain ⟨d, hd, hdelimiter⟩ := hhead
  have halphanum : ¬ d.isAlphanum := by
    rcases hdelimiter with hblank | rfl | rfl
    · exact fun h => Text.not_isBlank_of_isAlphanum h hblank
    · decide
    · decide
  have hgap : IsGap d := by
    rcases hdelimiter with hblank | rfl | rfl
    · exact isGap_of_isBlank hblank
    · decide
    · decide
  have hopen' : '<' ∉ n ++ s := by simp [hn.not_mem (d := '<') (by decide), hopen]
  have hsign' : '@' ∉ n ++ s := by simp [hn.not_mem (d := '@') (by decide), hsign]
  obtain ⟨hquiet, hkept⟩ := applyChars_tag hopen' hsign'
  rw [convertible_prefix_iff hn hfield ⟨d, hd, halphanum⟩] at hquiet hkept
  by_cases htaken : IsTaken n s
  · refine iff_of_false (fun h => ?_) fun h => h.1 htaken
    exact hn.not_isQuiet _ (h ▸ hquiet htaken)
  · obtain ⟨s', rfl⟩ : ∃ s', s = d :: s' := List.head?_eq_some_iff.1 hd
    have hrest : bootstrapRules.applyChars (d :: s') = d :: classes s' := by
      rw [applyChars_of_isInert (isInert_of_not_mem hopen hsign), classes_cons hgap]
    rw [hkept htaken, hrest, classes_append_cons hgap, List.cons_inj_right,
      List.append_cancel_right_eq, classes_eq_self_iff_of_isAlphanum hn.isAlphanum]
    exact ⟨fun h => ⟨htaken, h⟩, fun h => h.2⟩

theorem apply_otherTag_eq_iff_applyChars (name s : String) :
    bootstrapRules.apply ("<" ++ name ++ s) = "<" ++ name ++ bootstrapRules.apply s ↔
      bootstrapRules.applyChars ('<' :: (name.toList ++ s.toList)) =
        '<' :: (name.toList ++ bootstrapRules.applyChars s.toList) := by
  rw [← String.toList_inj]
  simp [RuleSet.apply]

/-- **Which tags are kept** of components that the table does not hold, with the text behind them
being treated as if it stood alone: those that no rule for a component with a shorter name takes,
and that do not hold the attribute for full widths in their name. -/
theorem apply_otherTag_eq_iff {name s : String} (hname : IsComponentName name.toList)
    (hother : name ∉ componentNames)
    (hhead : ∃ c ∈ s.toList.head?, Text.isBlank c ∨ c = '/' ∨ c = '>') (hopen : '<' ∉ s.toList)
    (hsign : '@' ∉ s.toList) :
    bootstrapRules.apply ("<" ++ name ++ s) = "<" ++ name ++ bootstrapRules.apply s ↔
      ¬ IsTaken name.toList s.toList ∧ ¬ "fullWidth".toList <:+: name.toList := by
  have hfield : name.toList ≠ "TextField".toList := by
    intro h
    obtain rfl := String.toList_inj.1 h
    exact hother (by decide)
  rw [apply_otherTag_eq_iff_applyChars, applyChars_otherTag_eq_iff hname hfield hhead hopen hsign]

/-- The name of a chip goes on, and the tag does not end with a slash. -/
theorem apply_otherTag_eq_iff_chips :
    bootstrapRules.apply ("<" ++ "Chips" ++ " fullWidth>") =
      "<" ++ "Chips" ++ " className=\"w-100\">" := by
  have hname : IsComponentName "Chips".toList := ⟨'C', "hips".toList, rfl, by decide, by decide⟩
  have hrest : bootstrapRules.apply " fullWidth>" = " className=\"w-100\">" := by
    have hclasses : classes " fullWidth>".toList = " className=\"w-100\">".toList := by
      decide +kernel
    rw [RuleSet.apply, applyChars_of_isInert (by decide), hclasses, String.ofList_toList]
  have hkept : ¬ IsTaken "Chips".toList " fullWidth>".toList := by
    rintro (⟨hm, hprefix, -⟩ | ⟨-, -, -, hs⟩)
    · have : ∀ m ∈ containerNames, ¬ m.toList <+: "Chips".toList := by decide
      exact this _ hm hprefix
    · exact absurd (show '/' ∈ " fullWidth>".toList by rw [hs]; simp) (by decide)
  rw [(apply_otherTag_eq_iff hname (by decide) ⟨' ', rfl, .inl (by decide)⟩ (by decide)
    (by decide)).2 ⟨hkept, by decide⟩, hrest]

/-- Not all of these tags are kept: that of a group of buttons is taken by the rule for buttons. -/
theorem not_forall_apply_otherTag_eq : ¬ ∀ name s : String, IsComponentName name.toList →
    name ∉ componentNames → (∃ c ∈ s.toList.head?, Text.isBlank c ∨ c = '/' ∨ c = '>') →
      '<' ∉ s.toList → '@' ∉ s.toList →
        bootstrapRules.apply ("<" ++ name ++ s) = "<" ++ name ++ bootstrapRules.apply s := by
  intro h
  have hname : IsComponentName "ButtonGroup".toList :=
    ⟨'B', "uttonGroup".toList, rfl, by decide, by decide⟩
  have hhead : ∃ c ∈ ">".toList.head?, Text.isBlank c ∨ c = '/' ∨ c = '>' :=
    ⟨'>', rfl, .inr (.inr rfl)⟩
  have hkept := h "ButtonGroup" ">" hname (by decide) hhead (by decide) (by decide)
  rw [apply_otherTag_eq_iff_applyChars, applyChars_otherTag_eq_iff hname (by decide) hhead
    (by decide) (by decide)] at hkept
  exact hkept.1 (.opening (m := "Button") (by decide) (by decide) (by decide))

end Restyle
