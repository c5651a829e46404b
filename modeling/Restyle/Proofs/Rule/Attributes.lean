import Restyle.Proofs.Rule.Piecewise

/-!
# Attributes that become classes

The rules for attributes put one text in place of another. They work on either side of a *gap*, a
character that stands in none of the attributes. No attribute overlaps what is put in place of one,
so no attribute comes into being by a replacement, and a text whose attributes are replaced has
none.

## Main definitions

* `Restyle.replaceText` — a text with another one in place of each stretch of it.
* `Restyle.IsClear` — two texts do not overlap.
* `Restyle.attributeClasses` — the attributes that become classes.
* `Restyle.classes` — a text with these attributes replaced.

## Main results

* `Restyle.exists_kept_of_infix_replaceText` — what stands in a text after replacing stretches of
  it.
* `Restyle.Form.applyAll_attributeForms` — the rules for attributes replace attributes.
* `Restyle.classes_append_cons` — attributes are replaced on either side of a gap.
* `Restyle.classes_eq_self_iff` — a text is kept exactly if no attribute stands in it.
* `Restyle.classes_classes` — attributes are replaced once and for all.
-/

namespace Restyle

/-! ### Replacing stretches of text -/

/-- A text with `new` in place of each stretch `old`, from left to right; the first characters, as
many as are to be skipped, belong to a stretch that is replaced already. -/
def replaceText (old new : List Char) : Nat → List Char → List Char
  | _, [] => []
  | n + 1, _ :: cs => replaceText old new n cs
  | 0, c :: cs =>
    if old.isPrefixOf (c :: cs) then new ++ replaceText old new (old.length - 1) cs
    else c :: replaceText old new 0 cs

section ReplaceText

variable {old new : List Char}

theorem replaceText_cons (c : Char) (cs : List Char) :
    replaceText old new 0 (c :: cs) =
      if old.isPrefixOf (c :: cs) then new ++ replaceText old new (old.length - 1) cs
      else c :: replaceText old new 0 cs := rfl

theorem replaceText_skip : ∀ (u rest : List Char),
    replaceText old new u.length (u ++ rest) = replaceText old new 0 rest
  | [], _ => rfl
  | _ :: u, rest => replaceText_skip u rest

theorem replaceText_append (hold : old ≠ []) (rest : List Char) :
    replaceText old new 0 (old ++ rest) = new ++ replaceText old new 0 rest := by
  cases old with
  | nil => exact absurd rfl hold
  | cons c cs =>
    have hp : (c :: cs).isPrefixOf (c :: (cs ++ rest)) :=
      List.isPrefixOf_iff_prefix.2 ⟨rest, rfl⟩
    rw [List.cons_append, replaceText_cons, if_pos hp]
    exact congrArg (new ++ ·) (replaceText_skip cs rest)

/-- Replacing works on either side of a character that does not stand in what is replaced. -/
theorem replaceText_append_cons (hold : old ≠ []) {d : Char} (hd : d ∉ old) (v : List Char) :
    ∀ {n : Nat} {u : List Char}, n ≤ u.length →
      replaceText old new n (u ++ d :: v) = replaceText old new n u ++ d :: replaceText old new 0 v
  | 0, [], _ => by
    have hp : old.isPrefixOf (d :: v) = false := by
      rw [Bool.eq_false_iff]
      intro hp
      obtain ⟨r, hr⟩ := List.isPrefixOf_iff_prefix.1 hp
      cases old with
      | nil => exact hold rfl
      | cons c cs => exact hd (by rw [(List.cons.inj hr).1]; exact List.mem_cons_self)
    rw [List.nil_append, replaceText_cons, hp]
    rfl
  | n + 1, c :: u, h =>
    replaceText_append_cons hold hd v (n := n) (u := u) (by simpa using h)
  | 0, c :: u, _ => by
    have hiff : old.isPrefixOf (c :: (u ++ d :: v)) = old.isPrefixOf (c :: u) := by
      rw [Bool.eq_iff_iff, List.isPrefixOf_iff_prefix, List.isPrefixOf_iff_prefix]
      exact ⟨fun hp => prefix_of_prefix_append_cons hd hp,
        fun hp => hp.trans (List.prefix_append (c :: u) (d :: v))⟩
    rw [List.cons_append, replaceText_cons, replaceText_cons, hiff]
    split
    · next hp =>
      have hle := (List.isPrefixOf_iff_prefix.1 hp).length_le
      rw [replaceText_append_cons hold hd v (by simpa using hle), List.append_assoc]
    · rw [replaceText_append_cons hold hd v (Nat.zero_le _), List.cons_append]

/-- A text in which the stretch to be replaced does not stand. -/
theorem replaceText_eq_self :
    ∀ {text : List Char}, ¬ old <:+: text → replaceText old new 0 text = text
  | [], _ => rfl
  | c :: cs, h => by
    have hp : old.isPrefixOf (c :: cs) = false := by
      rw [Bool.eq_false_iff]
      exact fun hp => h (List.isPrefixOf_iff_prefix.1 hp).isInfix
    rw [replaceText_cons, hp,
      replaceText_eq_self fun h' => h (h'.trans (List.suffix_cons c cs).isInfix)]
    rfl

/-- Whether two texts do not overlap, whichever of them begins first. -/
def IsClear (part new : List Char) : Prop :=
  (∀ v ∈ part.tails, v ≠ [] → ¬ v <+: new ∧ ¬ new <+: v) ∧
    ∀ v ∈ new.tails, v ≠ [] → ¬ v <+: part ∧ ¬ part <+: v

instance (part new : List Char) : Decidable (IsClear part new) :=
  inferInstanceAs (Decidable (_ ∧ _))

theorem infix_of_infix_append {part rest : List Char} : ∀ {new : List Char},
    (∀ v ∈ new.tails, v ≠ [] → ¬ v <+: part ∧ ¬ part <+: v) → part <:+: new ++ rest → part <:+: rest
  | [], _, h => h
  | c :: new, hclear, h => by
    rcases List.infix_cons_iff.1 h with hp | h
    · obtain ⟨h₁, h₂⟩ := hclear (c :: new) (by simp) (by simp)
      rcases List.prefix_or_prefix_of_prefix hp (List.prefix_append (c :: new) rest) with hp | hp
      · exact absurd hp h₂
      · exact absurd hp h₁
    · exact infix_of_infix_append (fun v hv => hclear v (by simp [hv])) h

/-- What the text after replacing begins with, if it does not overlap what is put in. -/
theorem prefix_of_prefix_replaceText : ∀ {text v : List Char},
    (∀ w ∈ v.tails, w ≠ [] → ¬ w <+: new ∧ ¬ new <+: w) → v <+: replaceText old new 0 text →
    v <+: text
  | _, [], _, _ => List.nil_prefix
  | [], _ :: _, _, h => h
  | c :: cs, d :: v, hclear, h => by
    rw [replaceText_cons] at h
    split at h
    · obtain ⟨h₁, h₂⟩ := hclear (d :: v) (by simp) (by simp)
      rcases List.prefix_or_prefix_of_prefix h (List.prefix_append new _) with hp | hp
      · exact absurd hp h₁
      · exact absurd hp h₂
    · obtain ⟨rfl, htail⟩ := List.cons_prefix_cons.1 h
      exact List.cons_prefix_cons.2 ⟨rfl, prefix_of_prefix_replaceText
        (fun w hw => hclear w (by simp [hw])) htail⟩

/-- **What stands in a text after replacing stretches of it** and does not overlap what is put in
stands in the text itself, at a place that is kept. -/
theorem exists_kept_of_infix_replaceText {part : List Char} (hclear : IsClear part new) :
    ∀ {n : Nat} {text : List Char}, part ≠ [] → part <:+: replaceText old new n text →
      ∃ v, v <:+ text ∧ part <+: v ∧ ¬ old <+: v
  | _, [], hpart, h => by
    rw [replaceText] at h
    exact absurd (List.infix_nil.1 h) hpart
  | n + 1, c :: cs, hpart, h => by
    have hrest : part <:+: replaceText old new n cs := h
    obtain ⟨v, hv, hkept⟩ := exists_kept_of_infix_replaceText hclear hpart hrest
    exact ⟨v, hv.trans (List.suffix_cons c cs), hkept⟩
  | 0, c :: cs, hpart, h => by
    have hlater {m : Nat} (h : part <:+: replaceText old new m cs) :
        ∃ v, v <:+ c :: cs ∧ part <+: v ∧ ¬ old <+: v := by
      obtain ⟨v, hv, hkept⟩ := exists_kept_of_infix_replaceText hclear hpart h
      exact ⟨v, hv.trans (List.suffix_cons c cs), hkept⟩
    rw [replaceText_cons] at h
    split at h
    · exact hlater (infix_of_infix_append hclear.2 h)
    · next hold =>
      rcases List.infix_cons_iff.1 h with hp | h
      · have hp' : part <+: replaceText old new 0 (c :: cs) := by
          rw [replaceText_cons, if_neg hold]
          exact hp
        exact ⟨c :: cs, List.suffix_refl _, prefix_of_prefix_replaceText hclear.1 hp',
          fun h => hold (List.isPrefixOf_iff_prefix.2 h)⟩
      · exact hlater h

/-- What may be put in without making the beginning of a tag together with what stands before it. -/
def IsHarmless (new : List Char) : Prop :=
  '<' ∉ new ∧ ∃ c ∈ new.head?, ¬ c.isUpper ∧ c ≠ '/'

instance (new : List Char) : Decidable (IsHarmless new) :=
  match new with
  | [] => isFalse (by simp [IsHarmless])
  | c :: new => decidable_of_iff ('<' ∉ c :: new ∧ ¬ c.isUpper ∧ c ≠ '/') (by simp [IsHarmless])

theorem mayOpenTag_of_replaceText (hnew : IsHarmless new) {c : Char} {cs : List Char}
    (h : mayOpenTag (c :: replaceText old new 0 cs)) : mayOpenTag (c :: cs) := by
  obtain ⟨-, e, he, hupper, hslash⟩ := hnew
  obtain ⟨new', rfl⟩ : ∃ new', new = e :: new' := List.head?_eq_some_iff.1 he
  obtain rfl := head_eq_of_mayOpenTag h
  cases cs with
  | nil => exact h
  | cons d ds =>
    rw [replaceText_cons] at h
    split at h
    · simp [mayOpenTag, hupper, hslash] at h
    · by_cases hd : d = '/'
      · subst hd
        cases ds with
        | nil => rfl
        | cons f fs =>
          rw [replaceText_cons] at h
          split at h
          · simp [mayOpenTag, hupper] at h
          · simpa [mayOpenTag] using h
      · simpa [mayOpenTag, hd] using h

theorem isQuiet_replaceText (hnew : IsHarmless new) : ∀ {n : Nat} {text : List Char}, isQuiet text →
    isQuiet (replaceText old new n text)
  | _, [], _ => by
    rw [replaceText]
    rfl
  | n + 1, c :: cs, h => by
    obtain ⟨-, hcs⟩ : mayOpenTag (c :: cs) = false ∧ isQuiet cs := by simpa [isQuiet] using h
    exact isQuiet_replaceText hnew (n := n) hcs
  | 0, c :: cs, h => by
    obtain ⟨hmay, hcs⟩ : mayOpenTag (c :: cs) = false ∧ isQuiet cs := by simpa [isQuiet] using h
    rw [replaceText_cons]
    split
    · exact isQuiet_append (isQuiet_of_not_mem hnew.1) (isQuiet_replaceText hnew hcs)
    · have hmay' : mayOpenTag (c :: replaceText old new 0 cs) = false := by
        rw [Bool.eq_false_iff] at hmay ⊢
        exact fun h => hmay (mayOpenTag_of_replaceText hnew h)
      rw [isQuiet, hmay', isQuiet_replaceText hnew hcs]
      rfl

theorem mem_replaceText {d : Char} : ∀ {n : Nat} {text : List Char},
    d ∈ replaceText old new n text → d ∈ text ∨ d ∈ new
  | _, [], h => by
    rw [replaceText] at h
    exact .inl h
  | n + 1, c :: cs, h => (mem_replaceText (n := n) h).imp_left (List.mem_cons_of_mem c)
  | 0, c :: cs, h => by
    rw [replaceText_cons] at h
    split at h
    · rcases List.mem_append.1 h with h | h
      · exact .inr h
      · exact (mem_replaceText h).imp_left (List.mem_cons_of_mem c)
    · rcases List.mem_cons.1 h with rfl | h
      · exact .inl List.mem_cons_self
      · exact (mem_replaceText h).imp_left (List.mem_cons_of_mem c)

end ReplaceText

theorem Form.toList_ne_nil_of_isSound {old new : String} (hx : (words old new).isSound) :
    old.toList ≠ [] := by
  intro h
  simp [isSound, shape, Shape.text, Shape.isPlain, h] at hx

/-- A rule that puts one text in place of another replaces the stretches of it. -/
theorem Form.apply_words {old new : String} (hx : (words old new).isSound) (text : List Char) :
    (words old new).apply text = replaceText old.toList new.toList 0 text := by
  have aux {n : Nat} {out : List Char} (h : (words old new).Rewrites n text out) :
      out = replaceText old.toList new.toList 0 text := by
    induction h with
    | nil => rfl
    | @kept n c cs out h later ih =>
      have hp : old.toList.isPrefixOf (c :: cs) = false := by
        rw [Bool.eq_false_iff]
        intro hp
        obtain ⟨after, hafter⟩ := List.isPrefixOf_iff_prefix.1 hp
        rw [(turn?_words_iff hx).2 ⟨hafter.symm, rfl⟩] at h
        exact absurd h (by simp)
      rw [replaceText_cons, hp, ih]
      rfl
    | turned h later ih =>
      obtain ⟨rfl, rfl⟩ := (turn?_words_iff hx).1 h
      rw [replaceText_append (toList_ne_nil_of_isSound hx), ih]
  exact aux (rewrites_apply hx text)

/-- A text with a new text in place of each old one, for one pair of them after another. -/
def replaceTexts (pairs : List (String × String)) (text : List Char) : List Char :=
  pairs.foldl (fun t c => replaceText c.1.toList c.2.toList 0 t) text

section ReplaceTexts

variable {pairs : List (String × String)}

theorem replaceTexts_cons (c : String × String) (text : List Char) :
    replaceTexts (c :: pairs) text =
      replaceTexts pairs (replaceText c.1.toList c.2.toList 0 text) := rfl

/-- Replacing works on either side of a character that stands in nothing that is replaced. -/
theorem replaceTexts_append_cons {d : Char} (h : ∀ c ∈ pairs, c.1.toList ≠ [] ∧ d ∉ c.1.toList)
    (u v : List Char) :
    replaceTexts pairs (u ++ d :: v) = replaceTexts pairs u ++ d :: replaceTexts pairs v := by
  induction pairs generalizing u v with
  | nil => rfl
  | cons c pairs ih =>
    obtain ⟨hne, hmem⟩ := h c (by simp)
    rw [replaceTexts_cons, replaceText_append_cons hne hmem v (Nat.zero_le _),
      ih fun e he => h e (by simp [he])]
    rfl

theorem replaceTexts_eq_self {text : List Char} (h : ∀ c ∈ pairs, ¬ c.1.toList <:+: text) :
    replaceTexts pairs text = text := by
  induction pairs with
  | nil => rfl
  | cons c pairs ih =>
    rw [replaceTexts_cons, replaceText_eq_self (h c (by simp)), ih fun d hd => h d (by simp [hd])]

theorem infix_of_infix_replaceTexts {part text : List Char} (hpart : part ≠ [])
    (hclear : ∀ c ∈ pairs, IsClear part c.2.toList) (h : part <:+: replaceTexts pairs text) :
    part <:+: text := by
  induction pairs generalizing text with
  | nil => exact h
  | cons c pairs ih =>
    obtain ⟨v, hv, hp, -⟩ := exists_kept_of_infix_replaceText (hclear c (by simp)) hpart
      (ih (fun d hd => hclear d (by simp [hd])) h)
    exact hp.isInfix.trans hv.isInfix

theorem isQuiet_replaceTexts (h : ∀ c ∈ pairs, IsHarmless c.2.toList) {text : List Char}
    (htext : isQuiet text) : isQuiet (replaceTexts pairs text) := by
  induction pairs generalizing text with
  | nil => exact htext
  | cons c pairs ih =>
    exact ih (fun d hd => h d (by simp [hd])) (isQuiet_replaceText (h c (by simp)) htext)

theorem not_mem_replaceTexts {d : Char} (h : ∀ c ∈ pairs, d ∉ c.2.toList) {text : List Char}
    (htext : d ∉ text) : d ∉ replaceTexts pairs text := by
  induction pairs generalizing text with
  | nil => exact htext
  | cons c pairs ih =>
    refine ih (fun e he => h e (by simp [he])) fun hd => ?_
    rcases mem_replaceText hd with hd | hd
    · exact htext hd
    · exact h c (by simp) hd

/-- Nothing that is replaced is left. -/
theorem not_infix_replaceTexts (hne : ∀ c ∈ pairs, c.1.toList ≠ [])
    (hclear : ∀ c ∈ pairs, ∀ d ∈ pairs, IsClear c.1.toList d.2.toList) (text : List Char) :
    ∀ c ∈ pairs, ¬ c.1.toList <:+: replaceTexts pairs text := by
  induction pairs generalizing text with
  | nil => simp
  | cons e pairs ih =>
    intro c hc h
    rw [replaceTexts_cons] at h
    rcases List.mem_cons.1 hc with rfl | hmem
    · have hfirst := infix_of_infix_replaceTexts (hne c hc)
        (fun d hd => hclear c hc d (by simp [hd])) h
      obtain ⟨v, -, hp, hkept⟩ :=
        exists_kept_of_infix_replaceText (hclear c hc c hc) (hne c hc) hfirst
      exact hkept hp
    · exact ih (fun d hd => hne d (by simp [hd]))
        (fun d hd e he => hclear d (by simp [hd]) e (by simp [he])) _ c hmem h

end ReplaceTexts

/-! ### Attributes that become classes -/

/-- The attributes that become classes, in the order in which they are replaced, and the classes. -/
def attributeClasses : List (String × String) := [
  ("color=\"primary\"", "className=\"text-primary\""),
  ("color=\"secondary\"", "className=\"text-secondary\""),
  ("color=\"error\"", "className=\"text-danger\""),
  ("color=\"success\"", "className=\"text-success\""),
  ("color=\"warning\"", "className=\"text-warning\""),
  ("size=\"small\"", "className=\"btn-sm\""),
  ("size=\"large\"", "className=\"btn-lg\""),
  ("fullWidth", "className=\"w-100\"")]

/-- A text with the attributes that become classes replaced by them. -/
@[irreducible] def classes (text : List Char) : List Char := replaceTexts attributeClasses text

namespace Form

/-- Rules that put texts in place of other ones, one after another. -/
theorem applyAll_words {pairs : List (String × String)}
    (h : ∀ c ∈ pairs, (words c.1 c.2).isSound) (text : List Char) :
    applyAll (pairs.map fun c => words c.1 c.2) text = replaceTexts pairs text := by
  induction pairs generalizing text with
  | nil => rfl
  | cons c pairs ih =>
    rw [replaceTexts_cons, ← apply_words (h c (by simp)), ← ih fun d hd => h d (by simp [hd])]
    rfl

/-- The rules for attributes replace attributes by classes. -/
theorem applyAll_attributeForms (text : List Char) :
    applyAll attributeForms text = classes text := by
  have hforms : attributeForms = attributeClasses.map fun c => words c.1 c.2 := by decide +kernel
  rw [hforms, classes]
  refine applyAll_words (fun c hc => isSound_of_mem ?_) text
  rw [bootstrapForms, hforms]
  exact List.mem_append_right _ (List.mem_map_of_mem hc)

end Form

/-- A character that stands in no attribute that becomes a class. -/
def IsGap (d : Char) : Prop := ∀ c ∈ attributeClasses, d ∉ c.1.toList

instance (d : Char) : Decidable (IsGap d) :=
  inferInstanceAs (Decidable (∀ c ∈ attributeClasses, d ∉ c.1.toList))

theorem isGap_of_isBlank {d : Char} (hd : Text.isBlank d) : IsGap d := by
  intro c hc hmem
  have : ∀ c ∈ attributeClasses, ∀ d ∈ c.1.toList, ¬ Text.isBlank d := by decide +kernel
  exact this c hc d hmem hd

@[simp] theorem classes_nil : classes [] = [] := by decide +kernel

theorem ne_nil_of_mem_attributeClasses : ∀ c ∈ attributeClasses, c.1.toList ≠ [] := by
  decide +kernel

/-- **Attributes are replaced on either side of a gap.** -/
theorem classes_append_cons {d : Char} (hd : IsGap d) (u v : List Char) :
    classes (u ++ d :: v) = classes u ++ d :: classes v := by
  rw [classes, classes, classes]
  exact replaceTexts_append_cons (fun c hc => ⟨ne_nil_of_mem_attributeClasses c hc, hd c hc⟩) u v

theorem classes_cons {d : Char} (hd : IsGap d) (v : List Char) :
    classes (d :: v) = d :: classes v := by
  rw [← List.nil_append (d :: v), classes_append_cons hd, classes_nil, List.nil_append]

/-- No attribute is left to be replaced. -/
theorem not_infix_classes (text : List Char) :
    ∀ c ∈ attributeClasses, ¬ c.1.toList <:+: classes text := by
  have hclear : ∀ c ∈ attributeClasses, ∀ d ∈ attributeClasses, IsClear c.1.toList d.2.toList := by
    decide +kernel
  rw [classes]
  exact not_infix_replaceTexts ne_nil_of_mem_attributeClasses hclear text

theorem isQuiet_classes {text : List Char} (h : isQuiet text) : isQuiet (classes text) := by
  have hharmless : ∀ c ∈ attributeClasses, IsHarmless c.2.toList := by decide
  rw [classes]
  exact isQuiet_replaceTexts hharmless h

/-- A text is kept exactly if no attribute stands in it. -/
theorem classes_eq_self_iff {text : List Char} :
    classes text = text ↔ ∀ c ∈ attributeClasses, ¬ c.1.toList <:+: text := by
  constructor
  · intro h
    rw [← h]
    exact not_infix_classes text
  · intro h
    rw [classes]
    exact replaceTexts_eq_self h

/-- **Attributes are replaced once and for all.** -/
theorem classes_classes (text : List Char) : classes (classes text) = classes text :=
  classes_eq_self_iff.2 (not_infix_classes text)

end Restyle
