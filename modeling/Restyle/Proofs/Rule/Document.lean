import Restyle.Proofs.Rule.Piece

/-!
# The conversion of whole documents

The table converts a document piece by piece. No rule looks beyond the piece that it converts: the
tag of an element ends at the first angle bracket behind its beginning, a text field at the first
slash, and between the pieces there is no beginning of a tag that could reach into the next one. The
rules for attributes work on text and attributes alone, since what stands around them is in no
attribute.

## Main results

* `Restyle.Piece.brings_source` — what the rules for tags make of a piece.
* `Restyle.Piece.classes_flatMap_render` — what the rules for attributes make of a document.
* `Restyle.apply_document` — a document is converted piece by piece.
-/

namespace Restyle

/-! ### The rules for tags -/

namespace Form

theorem turn?_eq_none_of_mem_take {i : Nat} {s : List Char}
    (h : ∀ y ∈ tagForms.take i, y.isApart s) :
    ∀ y ∈ tagForms.take i, ∀ rest, y.turn? (s ++ rest) = none := fun y hy rest =>
  turn?_eq_none_of_isApart (isSound_of_mem_tagForms (List.mem_of_mem_take hy)) (h y hy) rest

/-- An element that a rule for tags turns and none before it does. -/
theorem brings_element (i : Nat) (tag ending new finish : String) {name beforeEnd a : List Char}
    (hforms : tagForms =
      tagForms.take i ++ element tag ending new finish :: tagForms.drop (i + 1))
    (htag : tag.toList = '<' :: name) (hname : '<' ∉ name)
    (hending : ending.toList = beforeEnd ++ ['>']) (hopen : '<' ∉ beforeEnd)
    (hclose : '>' ∉ beforeEnd)
    (hnew : isQuiet new.toList) (hfinish : isQuiet finish.toList) (ha : '<' ∉ a) (ha' : '>' ∉ a)
    (hbefore : ∀ y ∈ tagForms.take i, ∀ rest,
      y.turn? (tag.toList ++ (a ++ (ending.toList ++ rest))) = none) :
    Brings tagForms (tag.toList ++ (a ++ ending.toList)) (new.toList ++ (a ++ finish.toList)) := by
  have hsound := isSound_of_mem_tagForms (x := element tag ending new finish) (by
    rw [hforms]
    simp)
  rw [htag, List.cons_append]
  refine brings_of_turn? hforms (fun y hy rest => ?_) (isSteady_of_not_mem ?_) (fun rest => ?_)
    ((isSteady_of_isQuiet hnew).append ((isSteady_of_not_mem ha).append
      (isSteady_of_isQuiet hfinish)))
  · have := hbefore y hy rest
    rw [htag] at this
    simpa only [List.cons_append, List.append_assoc] using this
  · simp [hending, hname, ha, hopen]
  · refine (turn?_element_iff hsound hending hclose).2 ⟨a, ha', ?_, rfl⟩
    rw [htag]
    simp only [List.cons_append, List.append_assoc]

/-- An opening tag that a rule turns of which no rule before has the same beginning. -/
theorem brings_opening (i : Nat) (tag new : String) {name a : List Char}
    (hforms : tagForms = tagForms.take i ++ element tag ">" new ">" :: tagForms.drop (i + 1))
    (htag : tag.toList = '<' :: name) (hname : '<' ∉ name) (hnew : isQuiet new.toList)
    (ha : '<' ∉ a) (ha' : '>' ∉ a) (hapart : ∀ y ∈ tagForms.take i, y.isApart tag.toList) :
    Brings tagForms (tag.toList ++ (a ++ ['>'])) (new.toList ++ (a ++ ['>'])) :=
  brings_element i tag ">" new ">" hforms htag hname (List.nil_append _).symm (by simp)
    (by simp) hnew
    (by decide) ha ha' fun y hy _ => turn?_eq_none_of_mem_take hapart y hy _

/-- A closing tag. -/
theorem brings_closing (i : Nat) (old new : String) {name : List Char}
    (hforms : tagForms = tagForms.take i ++ words old new :: tagForms.drop (i + 1))
    (hold : old.toList = '<' :: name) (hname : '<' ∉ name) (hnew : isQuiet new.toList)
    (hapart : ∀ y ∈ tagForms.take i, y.isApart old.toList) :
    Brings tagForms old.toList new.toList := by
  have hsound := isSound_of_mem_tagForms (x := words old new) (by
    rw [hforms]
    simp)
  rw [hold] at hapart ⊢
  refine brings_of_turn? hforms (turn?_eq_none_of_mem_take hapart) (isSteady_of_not_mem hname)
    (fun rest => ?_) (isSteady_of_isQuiet hnew)
  rw [turn?_words_iff hsound, hold]
  exact ⟨rfl, rfl⟩

/-- A radio button does not take the tag of a group of them. -/
theorem turn?_radio_eq_none {a rest : List Char} (ha : '>' ∉ a) (hslash : a.getLast? ≠ some '/')
    {new finish : String} (hx : (selfClosing "Radio" new finish).isSound) :
    (selfClosing "Radio" new finish).turn? ("<RadioGroup".toList ++ (a ++ ('>' :: rest))) =
      none := by
  rw [Option.eq_none_iff_forall_ne_some]
  rintro ⟨put, after⟩ hturn
  obtain ⟨cap, hcap, hrest, -⟩ := exists_of_turn?_element hx hturn
  have hsplit : ("Group".toList ++ a) ++ '>' :: rest = (cap ++ ['/']) ++ '>' :: after := by
    have hname : "<Radio".toList ++ ("Group".toList ++ (a ++ '>' :: rest)) =
        "<Radio".toList ++ (cap ++ ("/>".toList ++ after)) := hrest
    simpa using List.append_cancel_left hname
  obtain ⟨hcaps, -⟩ := append_cons_inj_of_not_mem (by simp [ha]) (by simp [hcap]) hsplit
  have hlast : ("Group".toList ++ a).getLast? = some '/' := by rw [hcaps]; simp
  rw [List.getLast?_append] at hlast
  cases hget : a.getLast? with
  | none => simp [hget] at hlast
  | some c =>
    rw [hget] at hlast
    exact hslash (hget.trans hlast)

theorem variant_mem_tagForms (v : Variant) : variant v.name v.opening ∈ tagForms := by
  cases v <;> decide

theorem not_isBlank_of_mem_head?_code (v : Variant) (cs : List Char) :
    ∀ c ∈ (v.code.toList ++ cs).head?, ¬ Text.isBlank c := by
  intro c hc
  rw [Variant.code, String.toList_append, String.toList_append] at hc
  obtain rfl : 'v' = c := by simpa using hc
  decide

/-- A variant of a button does not take the tag of another one. -/
theorem turn?_variant_eq_none_of_ne {v v' : Variant} (h : v ≠ v') {w rest : List Char}
    (hw : IsBlank w) :
    (variant v.name v.opening).turn? ("<Button".toList ++ (w ++ (v'.code.toList ++ rest))) =
      none := by
  rw [Option.eq_none_iff_forall_ne_some]
  rintro ⟨put, after⟩ hturn
  obtain ⟨w', cap, hw', -, hrest, -⟩ :=
    exists_of_turn?_variant (isSound_of_mem_tagForms (variant_mem_tagForms v)) hturn
  obtain ⟨rfl, hcode⟩ := append_inj_of_forall (not_isBlank_of_mem_head?_code v' _)
    (not_isBlank_of_mem_head?_code v _) hw.isBlank hw'.isBlank (List.append_cancel_left hrest)
  have hdiffer : ∀ {v v' : Variant}, v ≠ v' → ¬ v.code.toList <+: v'.code.toList := by
    intro v v' hne
    rw [← List.isPrefixOf_iff_prefix]
    cases v <;> cases v' <;> first | exact absurd rfl hne | decide
  rcases List.prefix_or_prefix_of_prefix (List.prefix_append v'.code.toList rest)
    (hcode ▸ List.prefix_append v.code.toList _) with hp | hp
  · exact hdiffer h.symm hp
  · exact hdiffer h hp

/-- A variant of a button does not take the tag of a button that does not begin with it. -/
theorem turn?_variant_eq_none {v : Variant} {a rest : List Char} (ha : ¬ BeginsWithVariant a) :
    (variant v.name v.opening).turn? ("<Button".toList ++ (a ++ ('>' :: rest))) = none := by
  rw [Option.eq_none_iff_forall_ne_some]
  rintro ⟨put, after⟩ hturn
  obtain ⟨w, cap, hw, -, hrest, -⟩ :=
    exists_of_turn?_variant (isSound_of_mem_tagForms (variant_mem_tagForms v)) hturn
  have hp : w ++ v.code.toList <+: a ++ '>' :: rest := by
    rw [List.append_cancel_left hrest, ← List.append_assoc]
    exact List.prefix_append _ _
  have hmem : '>' ∉ w ++ v.code.toList := by
    rw [List.mem_append, not_or]
    exact ⟨fun h => absurd (hw.isBlank '>' h) (by decide), by cases v <;> decide⟩
  exact ha ⟨w, v, hw, prefix_of_prefix_append_cons hmem hp⟩

/-- A text field is not one of several lines if its attributes do not hold `multiline`. -/
theorem turn?_longField_eq_none {w a : List Char} (hw : IsBlank w) (hslash : '/' ∉ a)
    (hhead : ∀ c ∈ a.head?, ¬ Text.isBlank c) (hnot : ¬ "multiline".toList <:+: a)
    (rest : List Char) :
    longField.turn? ("<TextField".toList ++ (w ++ (a ++ ("/>".toList ++ rest)))) = none := by
  rw [Option.eq_none_iff_forall_ne_some]
  rintro ⟨put, after⟩ hturn
  obtain ⟨w', cap, cap', hw', hcap, hcap', hhead', -, hrest, -⟩ := exists_of_turn?_longField hturn
  obtain ⟨rfl, htail⟩ := append_inj_of_forall (not_isBlank_of_mem_head?_append hhead (by decide))
    (not_isBlank_of_mem_head?_append hhead' (by decide)) hw.isBlank hw'.isBlank
    (List.append_cancel_left hrest)
  have hsplit : a ++ '/' :: ('>' :: rest) =
      (cap ++ ("multiline".toList ++ cap')) ++ '/' :: ('>' :: after) := by
    rw [List.append_assoc, List.append_assoc]
    exact htail
  obtain ⟨rfl, -⟩ := append_cons_inj_of_not_mem hslash (by simp [hcap, hcap']) hsplit
  exact hnot (List.infix_append' _ _ _)

end Form

namespace Piece

open Form

theorem brings_source_opening {c : Container} {a : List Char} (h : (opening c a).IsValid) :
    Brings tagForms (opening c a).source ((opening c a).render id) := by
  obtain ⟨⟨hopen, hclose, -⟩, hvariant, hslash⟩ := h
  cases c with
  | button =>
    refine brings_element 3 "<Button" ">" Container.button.opening ">" rfl rfl (by decide)
      (List.nil_append _).symm (by simp) (by simp) (by decide) (by decide) hopen hclose
      fun y hy rest => ?_
    have hlist : y ∈ [Form.variant "contained" Variant.contained.opening,
      Form.variant "outlined" Variant.outlined.opening,
      Form.variant "text" Variant.text.opening] := hy
    obtain ⟨v, rfl⟩ : ∃ v : Variant, y = Form.variant v.name v.opening := by
      simp only [List.mem_cons, List.not_mem_nil, or_false] at hlist
      rcases hlist with rfl | rfl | rfl
      · exact ⟨.contained, rfl⟩
      · exact ⟨.outlined, rfl⟩
      · exact ⟨.text, rfl⟩
    exact turn?_variant_eq_none (hvariant rfl)
  | select =>
    exact brings_opening 7 "<Select" _ rfl rfl (by decide) (by decide) hopen hclose
      (by decide)
  | menuItem =>
    exact brings_opening 9 "<MenuItem" _ rfl rfl (by decide) (by decide) hopen hclose
      (by decide)
  | formControl =>
    exact brings_opening 11 "<FormControl" _ rfl rfl (by decide) (by decide) hopen hclose
      (by decide)
  | inputLabel =>
    exact brings_opening 13 "<InputLabel" _ rfl rfl (by decide) (by decide) hopen hclose
      (by decide)
  | formControlLabel =>
    have hbrings :=
      brings_opening 11 "<FormControl" "<div className=\"mb-3\"" (a := "Label".toList ++ a)
      rfl rfl (by decide) (by decide) (by simp [hopen]) (by simp [hclose]) (by decide)
    have hnew : Container.formControlLabel.opening.toList =
        "<div className=\"mb-3\"".toList ++ "Label".toList := by decide +kernel
    rw [render, hnew, List.append_assoc]
    rw [List.append_assoc] at hbrings
    exact hbrings
  | radioGroup =>
    refine brings_element 19 "<RadioGroup" ">" "<div" ">" rfl rfl (by decide)
      (List.nil_append _).symm (by simp) (by simp) (by decide) (by decide) hopen hclose
      fun y hy rest => ?_
    have hother : ∀ y ∈ tagForms.take 19, y.isApart "<RadioGroup".toList ∨
        y = selfClosing "Radio" Single.radio.opening Single.radio.finish := by decide +kernel
    have hsound := isSound_of_mem_tagForms (List.mem_of_mem_take hy)
    rcases hother y hy with hapart | rfl
    · exact turn?_eq_none_of_isApart hsound hapart _
    · exact turn?_radio_eq_none hclose (hslash rfl) hsound
  | box =>
    exact brings_opening 21 "<Box" _ rfl rfl (by decide) (by decide) hopen hclose
      (by decide)

theorem brings_source_closing (c : Container) :
    Brings tagForms (closing c).source ((closing c).render id) := by
  cases c with
  | button =>
    exact brings_closing 4 "</Button>" _ rfl rfl (by decide) (by decide) (by decide)
  | select =>
    exact brings_closing 8 "</Select>" _ rfl rfl (by decide) (by decide) (by decide)
  | menuItem =>
    exact brings_closing 10 "</MenuItem>" _ rfl rfl (by decide) (by decide) (by decide)
  | formControl =>
    exact brings_closing 12 "</FormControl>" _ rfl rfl (by decide) (by decide)
      (by decide)
  | inputLabel =>
    exact brings_closing 14 "</InputLabel>" _ rfl rfl (by decide) (by decide)
      (by decide)
  | formControlLabel =>
    exact brings_closing 17 "</FormControlLabel>" _ rfl rfl (by decide) (by decide)
      (by decide)
  | radioGroup =>
    exact brings_closing 20 "</RadioGroup>" _ rfl rfl (by decide) (by decide)
      (by decide)
  | box =>
    exact brings_closing 22 "</Box>" _ rfl rfl (by decide) (by decide) (by decide)

theorem brings_source_single {s : Single} {a : List Char} (h : (single s a).IsValid) :
    Brings tagForms (single s a).source ((single s a).render id) := by
  obtain ⟨hopen, hclose, -⟩ := h
  cases s with
  | checkbox =>
    exact brings_element 15 "<Checkbox" "/>" _ _ rfl rfl (by decide)
      (show "/>".toList = ['/'] ++ ['>'] from rfl) (by decide) (by decide) (by decide)
        (by decide) hopen hclose
      fun y hy _ => turn?_eq_none_of_mem_take (s := "<Checkbox".toList) (by decide) y hy _
  | radio =>
    exact brings_element 18 "<Radio" "/>" _ _ rfl rfl (by decide)
      (show "/>".toList = ['/'] ++ ['>'] from rfl) (by decide) (by decide) (by decide)
        (by decide) hopen hclose
      fun y hy _ => turn?_eq_none_of_mem_take (s := "<Radio".toList) (by decide) y hy _
  | chip =>
    exact brings_element 23 "<Chip" "/>" _ _ rfl rfl (by decide)
      (show "/>".toList = ['/'] ++ ['>'] from rfl) (by decide) (by decide) (by decide)
        (by decide) hopen hclose
      fun y hy _ => turn?_eq_none_of_mem_take (s := "<Chip".toList) (by decide) y hy _

theorem brings_source_variant {w : List Char} {v : Variant} {a : List Char}
    (h : (variant w v a).IsValid) :
    Brings tagForms (variant w v a).source ((variant w v a).render id) := by
  obtain ⟨hw, hopen, hclose, -⟩ := h
  have hblank : '<' ∉ w := fun h => absurd (hw.isBlank '<' h) (by decide)
  have hcode : '<' ∉ v.code.toList := by cases v <;> decide
  obtain ⟨i, hforms, hearlier⟩ : ∃ i, tagForms = tagForms.take i ++
      Form.variant v.name v.opening :: tagForms.drop (i + 1) ∧
        ∀ y ∈ tagForms.take i, ∃ v' : Variant, v' ≠ v ∧ y = Form.variant v'.name v'.opening := by
    cases v with
    | contained => exact ⟨0, rfl, by simp⟩
    | outlined =>
      refine ⟨1, rfl, fun y hy => ⟨.contained, by decide, ?_⟩⟩
      exact List.mem_singleton.1 hy
    | text =>
      refine ⟨2, rfl, fun y hy => ?_⟩
      rcases List.mem_cons.1 hy with rfl | hy
      · exact ⟨.contained, by decide, rfl⟩
      · exact ⟨.outlined, by decide, List.mem_singleton.1 hy⟩
  have hquiet : isQuiet v.opening.toList := by cases v <;> decide
  refine brings_of_turn? (c := '<') (s := "Button".toList ++ (w ++ (v.code.toList ++ (a ++ ['>']))))
    hforms (fun y hy rest => ?_) (isSteady_of_not_mem ?_) (fun rest => ?_)
    ((isSteady_of_isQuiet hquiet).append
      ((isSteady_of_not_mem hopen).append (isSteady_of_not_mem (by decide))))
  · obtain ⟨v', hne, rfl⟩ := hearlier y hy
    change Form.turn? _ ("<Button".toList ++ ((w ++ (v.code.toList ++ (a ++ ['>']))) ++ rest)) =
      none
    simp only [List.append_assoc]
    exact turn?_variant_eq_none_of_ne hne hw
  · simp [hblank, hcode, hopen]
  · refine (turn?_variant_iff (isSound_of_mem_tagForms (variant_mem_tagForms v))).2
      ⟨w, a, hw, hclose, ?_, rfl⟩
    change "<Button".toList ++ ((w ++ (v.code.toList ++ (a ++ ['>']))) ++ rest) = _
    simp only [List.append_assoc]
    rfl

theorem source_field_append (w a rest : List Char) :
    (field w a).source ++ rest = "<TextField".toList ++ (w ++ (a ++ ("/>".toList ++ rest))) := by
  change "<TextField".toList ++ (w ++ (a ++ ['/', '>'])) ++ rest = _
  simp only [List.append_assoc]
  rfl

/-- White space may stand on either side of the border between the name and the attributes. -/
theorem source_field_blank (w b a : List Char) :
    (field w (b ++ a)).source = (field (w ++ b) a).source := by
  change "<TextField".toList ++ (w ++ ((b ++ a) ++ ['/', '>'])) =
    "<TextField".toList ++ ((w ++ b) ++ (a ++ ['/', '>']))
  simp only [List.append_assoc]

theorem turn?_source_field_eq_none {y : Form} (hy : y ∈ tagForms.take 5) (w a rest : List Char) :
    y.turn? ((field w a).source ++ rest) = none := by
  rw [source_field_append]
  exact turn?_eq_none_of_mem_take (s := "<TextField".toList) (by decide) y hy _

/-- Behind its first character a text field holds no `<`. -/
theorem isSteady_field {w a : List Char} (hw : IsBlank w) (hopen : '<' ∉ a) :
    IsSteady ("TextField".toList ++ (w ++ (a ++ ['/', '>']))) := by
  have hblank : '<' ∉ w := fun h => absurd (hw.isBlank '<' h) (by decide)
  refine isSteady_of_not_mem ?_
  simp only [List.mem_append, not_or]
  exact ⟨by decide, hblank, hopen, by decide⟩

/-- A text field whose attributes hold `multiline` becomes a text area. -/
theorem brings_source_longField {w before behind : List Char}
    (h : (field w (before ++ ("multiline".toList ++ behind))).IsValid)
    (hhead : ∀ c ∈ before.head?, ¬ Text.isBlank c) (hfirst : ¬ "multiline".toList <:+: before) :
    Brings tagForms (field w (before ++ ("multiline".toList ++ behind))).source
      ("<textarea className=\"form-control\" ".toList ++
        (before ++ (' ' :: (behind ++ "></textarea>".toList)))) := by
  obtain ⟨hw, hopen, hslash⟩ := h
  have hsteady := isSteady_field hw hopen
  simp only [List.mem_append, not_or] at hopen hslash
  have hforms : tagForms = tagForms.take 5 ++ Form.longField :: tagForms.drop 6 := rfl
  refine brings_of_turn? hforms (fun y hy => turn?_source_field_eq_none hy w _) hsteady
    (fun rest => ?_) ?_
  · refine turn?_longField_iff.2
      ⟨w, before, behind, hw, hslash.1, hslash.2.2, hhead, hfirst, ?_, rfl⟩
    refine (source_field_append w _ rest).trans ?_
    simp only [List.append_assoc]
  · exact (isSteady_of_isQuiet (by decide)).append ((isSteady_of_not_mem hopen.1).append
      ((isSteady_of_isQuiet (s := [' ']) (by decide)).append
        ((isSteady_of_not_mem hopen.2.2).append (isSteady_of_isQuiet (by decide)))))

/-- Any other text field becomes an input. -/
theorem brings_source_shortField {w a : List Char} (h : (field w a).IsValid)
    (hhead : ∀ c ∈ a.head?, ¬ Text.isBlank c) (hnot : ¬ "multiline".toList <:+: a) :
    Brings tagForms (field w a).source
      ("<input className=\"form-control\" ".toList ++ (a ++ " />".toList)) := by
  obtain ⟨hw, hopen, hslash⟩ := h
  have hforms : tagForms = tagForms.take 6 ++ Form.field :: tagForms.drop 7 := rfl
  refine brings_of_turn? hforms (fun y hy rest => ?_) (isSteady_field hw hopen) (fun rest => ?_)
    ((isSteady_of_isQuiet (by decide)).append ((isSteady_of_not_mem hopen).append
      (isSteady_of_isQuiet (by decide))))
  · have hy' : y ∈ tagForms.take 5 ∨ y = Form.longField := by
      have : y ∈ tagForms.take 5 ++ [Form.longField] := hy
      simpa using this
    rcases hy' with hy' | rfl
    · exact turn?_source_field_eq_none hy' w a rest
    · have hnone := turn?_longField_eq_none hw hslash hhead hnot rest
      rw [← source_field_append] at hnone
      exact hnone
  · exact turn?_field_iff.2 ⟨w, a, hw, hslash, hhead, source_field_append w a rest, rfl⟩

theorem brings_source_field {w a : List Char} (h : (field w a).IsValid) :
    Brings tagForms (field w a).source ((field w a).render id) := by
  obtain ⟨hw, hopen, hslash⟩ := h
  obtain ⟨b, a', rfl, hb, hhead, hdrop⟩ := exists_dropWhile_isBlank a
  have hw' : IsBlank (w ++ b) := ⟨by simp [hw.ne_nil], fun c hc => by
    rcases List.mem_append.1 hc with hc | hc
    · exact hw.isBlank c hc
    · exact hb c hc⟩
  have hvalid : (field (w ++ b) a').IsValid := ⟨hw', fun h => hopen (List.mem_append_right b h),
    fun h => hslash (List.mem_append_right b h)⟩
  rw [source_field_blank, render, hdrop, fieldTarget]
  cases hcut : Text.cutAt? "multiline".toList a' with
  | some parts =>
    obtain ⟨before, behind⟩ := parts
    obtain ⟨rfl, hfirst⟩ := Text.cutAt?_eq_some (by decide) hcut
    refine brings_source_longField hvalid (fun c hc => hhead c ?_) hfirst
    rw [List.head?_append, Option.mem_def.1 hc]
    rfl
  | none => exact brings_source_shortField hvalid hhead (Text.cutAt?_eq_none (by decide) hcut)

/-- **What the rules for tags make of a piece**, whatever stands behind it. -/
theorem brings_source {p : Piece} (h : p.IsValid) : Brings tagForms p.source (p.render id) := by
  cases p with
  | text q =>
    change Brings tagForms q q
    exact brings_self (isSteady_of_isQuiet (isText_iff.1 h).2)
  | opening c a => exact brings_source_opening h
  | variant w v a => exact brings_source_variant h
  | closing c => exact brings_source_closing c
  | single s a => exact brings_source_single h
  | field w a => exact brings_source_field h

end Piece

/-! ### The rules for attributes -/

/-- Attributes of a tag are replaced apart from what stands before and behind them. -/
theorem classes_append_attributes {u a : List Char} (ha : ∀ c ∈ a.head?, Text.isBlank c)
    {d : Char} (hd : IsGap d) (v : List Char) :
    classes (u ++ (a ++ d :: v)) = classes u ++ (classes a ++ d :: classes v) := by
  cases a with
  | nil => simpa using classes_append_cons hd u v
  | cons c cs =>
    have hc : IsGap c := isGap_of_isBlank (ha c rfl)
    rw [List.cons_append, classes_append_cons hc, classes_append_cons hd, classes_cons hc,
      List.cons_append]

/-- No attribute that becomes a class stands in what becomes of an opening tag, before its
attributes. -/
theorem Container.classes_opening (c : Container) :
    classes c.opening.toList = c.opening.toList := by
  cases c <;> decide +kernel

namespace Piece

/-- Whether a change of attributes leaves white space at their beginning. -/
def KeepsBlank (f : List Char → List Char) : Prop :=
  ∀ a : List Char, (∀ c ∈ a.head?, Text.isBlank c) → ∀ c ∈ (f a).head?, Text.isBlank c

variable {f : List Char → List Char}

/-- What the rules for attributes make of a text field, whatever stands behind it. -/
theorem classes_fieldTarget (a rest : List Char) :
    classes (fieldTarget f a ++ rest) = fieldTarget (classes ∘ f) a ++ classes rest := by
  have hblank : IsGap ' ' := by decide
  have hclose : IsGap '>' := by decide
  have hslash : IsGap '/' := by decide
  cases hcut : Text.cutAt? "multiline".toList a with
  | some parts =>
    obtain ⟨before, behind⟩ := parts
    have hnew : "<textarea className=\"form-control\" ".toList =
        "<textarea className=\"form-control\"".toList ++ [' '] := rfl
    have hopening : classes "<textarea className=\"form-control\"".toList =
        "<textarea className=\"form-control\"".toList := by decide +kernel
    have hfinish : "></textarea>".toList = '>' :: ("</textarea".toList ++ ['>']) := rfl
    have hclosing : classes "</textarea".toList = "</textarea".toList := by decide +kernel
    simp only [fieldTarget, hcut, hnew, hfinish, Function.comp, List.append_assoc, List.cons_append,
      List.nil_append]
    rw [classes_append_cons hblank, classes_append_cons hblank, classes_append_cons hclose,
      classes_append_cons hclose, hopening, hclosing]
  | none =>
    have hnew : "<input className=\"form-control\" ".toList =
        "<input className=\"form-control\"".toList ++ [' '] := rfl
    have hopening : classes "<input className=\"form-control\"".toList =
        "<input className=\"form-control\"".toList := by decide +kernel
    have hfinish : " />".toList = [' ', '/', '>'] := rfl
    simp only [fieldTarget, hcut, hnew, hfinish, Function.comp, List.append_assoc, List.cons_append,
      List.nil_append]
    rw [classes_append_cons hblank, classes_append_cons hblank, classes_cons hslash,
      classes_cons hclose, hopening]

/-- What the rules for attributes make of a piece that is not text, whatever stands behind it. -/
theorem classes_render {p : Piece} (hf : KeepsBlank f) (h : p.IsValid) (htext : ¬ p.IsText)
    (rest : List Char) :
    classes (p.render f ++ rest) = p.render (classes ∘ f) ++ classes rest := by
  cases p with
  | text q => exact absurd trivial htext
  | opening c a =>
    obtain ⟨⟨-, -, ha⟩, -⟩ := h
    simp only [render, Function.comp, List.append_assoc, List.cons_append, List.nil_append]
    rw [classes_append_attributes (hf a ha) (by decide), c.classes_opening]
  | variant w v a =>
    obtain ⟨-, -, -, ha⟩ := h
    have hnew : classes v.opening.toList = v.opening.toList := by cases v <;> decide +kernel
    simp only [render, Function.comp, List.append_assoc, List.cons_append, List.nil_append]
    rw [classes_append_attributes (hf a ha) (by decide), hnew]
  | closing c =>
    obtain ⟨u, hu, hclasses⟩ : ∃ u, c.closing.toList = u ++ ['>'] ∧ classes u = u := by
      refine ⟨c.closing.toList.dropLast, ?_, ?_⟩ <;> cases c <;> decide +kernel
    simp only [render]
    rw [hu, List.append_assoc, List.singleton_append, classes_append_cons (by decide), hclasses,
      List.append_assoc, List.singleton_append]
  | single s a =>
    obtain ⟨-, -, ha⟩ := h
    have hnew : classes s.opening.toList = s.opening.toList := by cases s <;> decide +kernel
    obtain ⟨d, u, hfinish, hd, hu⟩ : ∃ d u, s.finish.toList = d :: (u ++ ['>']) ∧ IsGap d ∧
        classes u = u := by
      refine ⟨s.finish.toList.headD ' ', s.finish.toList.tail.dropLast, ?_, ?_, ?_⟩ <;>
        cases s <;> decide +kernel
    simp only [render, Function.comp, hfinish, List.append_assoc, List.cons_append, List.nil_append]
    rw [classes_append_attributes (hf a ha) hd, hnew, classes_append_cons (by decide), hu]
  | field w a =>
    simp only [render]
    exact classes_fieldTarget _ rest

/-- What becomes of a piece that is not text begins with an angle bracket. -/
theorem exists_render_eq_cons {p : Piece} (htext : ¬ p.IsText) : ∃ s, p.render f = '<' :: s := by
  cases p with
  | text q => exact absurd trivial htext
  | opening c a => cases c <;> exact ⟨_, rfl⟩
  | variant w v a => cases v <;> exact ⟨_, rfl⟩
  | closing c => cases c <;> exact ⟨_, rfl⟩
  | single s a => cases s <;> exact ⟨_, rfl⟩
  | field w a =>
    rw [render, fieldTarget]
    split <;> exact ⟨_, rfl⟩

/-- What the rules for attributes make of a document. -/
theorem classes_flatMap_render (hf : KeepsBlank f) : ∀ {pieces : List Piece},
    (∀ p ∈ pieces, p.IsValid) → pieces.IsChain (fun p q => ¬ (p.IsText ∧ q.IsText)) →
      classes (pieces.flatMap (render f)) = pieces.flatMap (render (classes ∘ f))
  | [], _, _ => classes_nil
  | p :: pieces, hvalid, hchain => by
    have hrest := classes_flatMap_render hf (fun q hq => hvalid q (by simp [hq])) hchain.of_cons
    rw [List.flatMap_cons, List.flatMap_cons]
    by_cases htext : p.IsText
    · cases p with
      | text q =>
        cases pieces with
        | nil => simp only [render, List.flatMap_nil, List.append_nil, Function.comp_apply]
        | cons p' pieces =>
          have htext' : ¬ p'.IsText := fun h => (List.isChain_cons_cons.1 hchain).1 ⟨htext, h⟩
          obtain ⟨s, hs⟩ := exists_render_eq_cons (f := f) htext'
          rw [List.flatMap_cons, hs, List.cons_append] at hrest ⊢
          rw [classes_cons (by decide)] at hrest
          simp only [render, Function.comp_apply]
          rw [classes_append_cons (by decide), hrest]
      | _ => exact absurd htext id
    · rw [classes_render hf (hvalid p (by simp)) htext, hrest]

end Piece

/-! ### Whole documents -/

namespace Form

/-- The rules for imports leave a text as it is that names no package. -/
theorem applyAll_importForms {text : List Char} (h : '@' ∉ text) :
    applyAll importForms text = text := by
  have aux : ∀ {xs : List Form}, xs ⊆ importForms → applyAll xs text = text := by
    intro xs
    induction xs with
    | nil => exact fun _ => rfl
    | cons x xs ih =>
      intro hsub
      have hx : x ∈ importForms := hsub (by simp)
      change applyAll xs (x.apply text) = text
      rw [apply_eq_self_of_hits_eq_zero (isSound_of_mem_importForms hx)
        (hits_eq_zero_of_not_mem hx h)]
      exact ih fun y hy => hsub (by simp [hy])
  exact aux (List.Subset.refl _)

end Form

theorem applyChars_flatMap_source {pieces : List Piece} (hvalid : ∀ p ∈ pieces, p.IsValid)
    (himport : ∀ p ∈ pieces, '@' ∉ p.source)
    (htext : pieces.IsChain fun p q => ¬ (p.IsText ∧ q.IsText)) :
    bootstrapRules.applyChars (pieces.flatMap Piece.source) = pieces.flatMap Piece.target := by
  have hsign : '@' ∉ pieces.flatMap Piece.source := by
    simpa only [List.mem_flatMap, not_exists, not_and] using himport
  have htags : Form.applyAll tagForms (pieces.flatMap Piece.source) =
      pieces.flatMap (Piece.render id) :=
    Form.applyAll_flatMap (fun x hx => Form.isSound_of_mem_tagForms hx)
      fun p hp => Piece.brings_source (hvalid p hp)
  have hforms : bootstrapRules.applyChars (pieces.flatMap Piece.source) =
      Form.applyAll bootstrapForms (pieces.flatMap Piece.source) :=
    applyChars_eq_of_hasForm forall₂_bootstrapRules _
  rw [hforms, bootstrapForms, Form.applyAll_append, Form.applyAll_append,
    Form.applyAll_importForms hsign, htags, Form.applyAll_attributeForms,
    Piece.classes_flatMap_render (f := id) (fun _ h => h) hvalid htext, Function.comp_id]
  rfl

/-- **A document is converted piece by piece.** The tags of the components get their new names and
classes, text and attributes are kept up to the attributes that become classes, and no rule looks
beyond the piece that it converts. Two texts that stand next to each other are one text, and imports
are no pieces of a document. -/
theorem apply_document (pieces : List Piece) (hvalid : ∀ p ∈ pieces, p.IsValid)
    (himport : ∀ p ∈ pieces, '@' ∉ p.source)
    (htext : pieces.IsChain fun p q => ¬ (p.IsText ∧ q.IsText)) :
    bootstrapRules.apply (String.ofList (pieces.flatMap Piece.source)) =
      String.ofList (pieces.flatMap Piece.target) := by
  rw [RuleSet.apply, String.toList_ofList, applyChars_flatMap_source hvalid himport htext]

/-- A text field and a button in a box. -/
def nameForm : List Piece := [
  .opening .box [],
  .text "Name: ".toList,
  .field " ".toList "fullWidth".toList,
  .variant " ".toList .outlined " size=\"small\"".toList,
  .text "Send".toList,
  .closing .button,
  .closing .box]

theorem apply_nameForm :
    (∀ p ∈ nameForm, p.IsValid) ∧ (∀ p ∈ nameForm, '@' ∉ p.source) ∧
      nameForm.IsChain (fun p q => ¬ (p.IsText ∧ q.IsText)) ∧
      bootstrapRules.apply ("<Box>Name: <TextField fullWidth/>" ++
          "<Button variant=\"outlined\" size=\"small\">Send</Button></Box>") =
        "<div>Name: <input className=\"form-control\" className=\"w-100\" /><button className=" ++
          "\"btn btn-outline-primary\" className=\"btn-sm\">Send</button></div>" := by
  have hvalid : ∀ p ∈ nameForm, p.IsValid := by decide +kernel
  have himport : ∀ p ∈ nameForm, '@' ∉ p.source := by decide +kernel
  have htext : nameForm.IsChain fun p q => ¬ (p.IsText ∧ q.IsText) := by decide +kernel
  have hsource : nameForm.flatMap Piece.source = ("<Box>Name: <TextField fullWidth/>" ++
      "<Button variant=\"outlined\" size=\"small\">Send</Button></Box>").toList := by decide +kernel
  have htarget : nameForm.flatMap Piece.target =
      ("<div>Name: <input className=\"form-control\" className=\"w-100\" /><button className=" ++
        "\"btn btn-outline-primary\" className=\"btn-sm\">Send</button></div>").toList := by
    decide +kernel
  have happly := apply_document nameForm hvalid himport htext
  rw [hsource, htarget, String.ofList_toList, String.ofList_toList] at happly
  exact ⟨hvalid, himport, htext, happly⟩

end Restyle
