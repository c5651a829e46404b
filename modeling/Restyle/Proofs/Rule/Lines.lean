import Restyle.Proofs.Rule.Piece
import Restyle.Proofs.Rule.Statement

/-!
# Imports on lines of their own

Sources mostly have one import statement on a line. The pattern for imports of names may cross the
ends of lines in its list and in its white space, and the patterns for imports on a line may do so
in their white space. None of them begins on one line and ends on another, though, if every import
that begins on a line goes on there: the package that is looked for has the sign `@`, which stands
on the lines of the imports that are removed only, and there behind a clause of their own. So the
rules for imports treat every line as if it stood alone.

## Main definitions

* `Restyle.Line`, `Restyle.Line.source`, `Restyle.Line.target` — lines and what they become.
* `Restyle.Line.IsValid` — what a line may hold.
* `Restyle.Line.IsClosed` — what may stand behind a line.

## Main results

* `Restyle.Line.turn?_eq_none_of_suffix` — no import that is removed begins on another line.
* `Restyle.Line.apply_source_append` — what a form makes of a line.
* `Restyle.Line.applyAll_intercalate` — forms go through a source line by line.
* `Restyle.apply_intercalate_lines` — what the rules for imports leave of a source.
-/

namespace Restyle

/-! ### Lines -/

/-- An import of the component library or of a styling package that stands alone on its line. -/
structure ImportStatement.IsAlone (s : ImportStatement) : Prop where
  ne_nil : s.clause ≠ []
  head : ∀ c ∈ s.clause.head?, ¬ Text.isBlank c
  one_line : '\n' ∉ s.clause
  no_quote : ∀ c ∈ s.clause, ¬ IsQuote c
  no_import : ¬ "import".toList <:+: s.clause
  braces : '\x7b' ∈ s.clause → s.clause.getLast? = some '\x7d'
  opening : IsQuote s.opening
  package : IsPackage s.package
  package_blank : ∀ c ∈ s.package, ¬ Text.isBlank c
  closing : IsQuote s.closing

theorem ImportStatement.isAlone_iff {s : ImportStatement} : s.IsAlone ↔
    s.clause ≠ [] ∧ (∀ c ∈ s.clause.head?, ¬ Text.isBlank c) ∧ '\n' ∉ s.clause ∧
      (∀ c ∈ s.clause, ¬ IsQuote c) ∧ ¬ "import".toList <:+: s.clause ∧
        ('\x7b' ∈ s.clause → s.clause.getLast? = some '\x7d') ∧ IsQuote s.opening ∧
          IsPackage s.package ∧ (∀ c ∈ s.package, ¬ Text.isBlank c) ∧ IsQuote s.closing :=
  ⟨fun ⟨h₁, h₂, h₃, h₄, h₅, h₆, h₇, h₈, h₉, h₁₀⟩ => ⟨h₁, h₂, h₃, h₄, h₅, h₆, h₇, h₈, h₉, h₁₀⟩,
    fun ⟨h₁, h₂, h₃, h₄, h₅, h₆, h₇, h₈, h₉, h₁₀⟩ => ⟨h₁, h₂, h₃, h₄, h₅, h₆, h₇, h₈, h₉, h₁₀⟩⟩

instance (s : ImportStatement) : Decidable s.IsAlone :=
  decidable_of_iff _ ImportStatement.isAlone_iff.symm

theorem ImportStatement.IsAlone.isRegular {s : ImportStatement} (h : s.IsAlone) : s.IsRegular where
  head := by
    obtain ⟨c, clause, hclause⟩ := List.exists_cons_of_ne_nil h.ne_nil
    have hc : c ∈ s.clause.head? := by simp [hclause]
    exact ⟨c, hc, h.head c hc⟩
  one_line := h.one_line
  no_quote := h.no_quote
  braces := h.braces
  no_import _ _ hin := h.no_import ((List.prefix_append _ _).isInfix.trans hin)
  opening := h.opening
  package c hc := ⟨h.package.not_isQuote c hc, h.package_blank c hc⟩
  closing := h.closing

/-- Whether an import that may begin before a text goes on in the text: there is a character behind
the white space, and if it is the brace of a list behind white space, the list ends in the text. -/
def goesOn (behind : List Char) : Bool :=
  match behind.dropWhile Text.isBlank with
  | [] => false
  | c :: rest => c != '\x7b' || behind.head? == some '\x7b' || rest.contains '\x7d'

theorem exists_of_goesOn {behind : List Char} (h : goesOn behind) :
    ∃ w c rest, behind = w ++ c :: rest ∧ (∀ d ∈ w, Text.isBlank d) ∧ ¬ Text.isBlank c ∧
      (c = '\x7b' → w ≠ [] → '\x7d' ∈ rest) := by
  obtain ⟨w, behind', rfl, hw, hhead, hdrop⟩ := exists_dropWhile_isBlank behind
  rw [goesOn, hdrop] at h
  cases behind' with
  | nil => exact absurd h (by simp)
  | cons c rest =>
    refine ⟨w, c, rest, rfl, hw, hhead c rfl, fun hc hne => ?_⟩
    obtain ⟨d, w, rfl⟩ := List.exists_cons_of_ne_nil hne
    subst hc
    have hd : d ≠ '\x7b' := by
      rintro rfl
      exact absurd (hw _ List.mem_cons_self) (by decide)
    simpa [hd] using h

/-- The lines of a source. -/
inductive Line where
  /-- an import of the component library or of a styling package -/
  | elided (s : ImportStatement)
  /-- another line -/
  | other (text : List Char)

namespace Line

/-- What a line looks like. -/
def source : Line → List Char
  | elided s => s.source
  | other text => text

/-- What a line becomes. -/
def target : Line → List Char
  | elided _ => []
  | other text => text

/-- What a line may hold: a line other than an import that is removed names no package with the sign
`@`, and no import that begins on it reaches to the next line with its first name or its list of
names. -/
def IsValid : Line → Prop
  | elided s => s.IsAlone
  | other text =>
    '\n' ∉ text ∧ '@' ∉ text ∧ ∀ behind, "import".toList ++ behind <:+ text → goesOn behind

theorem forall_suffix_iff {text : List Char} :
    (∀ behind, "import".toList ++ behind <:+ text → goesOn behind) ↔
      ∀ v ∈ text.tails, "import".toList <+: v → goesOn (v.drop 6) := by
  constructor
  · rintro h v hv ⟨behind, rfl⟩
    exact h behind ((List.mem_tails _ _).1 hv)
  · exact fun h behind hsuffix => h _ ((List.mem_tails _ _).2 hsuffix) (List.prefix_append _ _)

instance : DecidablePred IsValid
  | elided s => inferInstanceAs (Decidable s.IsAlone)
  | other text => decidable_of_iff ('\n' ∉ text ∧ '@' ∉ text ∧
      ∀ v ∈ text.tails, "import".toList <+: v → goesOn (v.drop 6))
      (by rw [IsValid, forall_suffix_iff])

/-- What a form makes of a line that stands alone. -/
def clear (x : Form) : Line → Line
  | elided s => if s.IsRemovedBy x then other [] else elided s
  | other text => other text

/-- What stands behind a line, on the lines that follow it. -/
def below (lines : List Line) : List Char := lines.flatMap fun l => '\n' :: l.source

theorem below_cons (l : Line) (lines : List Line) :
    below (l :: lines) = '\n' :: (l.source ++ below lines) := rfl

theorem intercalate_source (l : Line) (lines : List Line) :
    List.intercalate ['\n'] ((l :: lines).map source) = l.source ++ below lines := by
  induction lines generalizing l with
  | nil => simp [below]
  | cons m lines ih =>
    rw [List.map_cons, List.map_cons, List.intercalate_cons_cons, ← List.map_cons, ih, below_cons]
    simp

/-- What stands behind a line does not end an import that begins before: it goes on on a new line,
and not with a package in quotation marks, nor with the word before one. -/
structure IsClosed (T : List Char) : Prop where
  head : ∀ c ∈ T.head?, c = '\n'
  not_package : ∀ {w q r}, (∀ c ∈ w, Text.isBlank c) → IsQuote q → T ≠ w ++ q :: '@' :: r
  not_from : ∀ {w w' q r}, (∀ c ∈ w, Text.isBlank c) → (∀ c ∈ w', Text.isBlank c) → IsQuote q →
    T ≠ w ++ ("from".toList ++ (w' ++ q :: '@' :: r))

section Closed

variable {T v u r : List Char} {q : Char}

/-- A package behind a line without the sign of packages is named on a later line. -/
theorem exists_of_append_eq_package (hv : '@' ∉ v) (hT : IsClosed T)
    (h : v ++ T = u ++ q :: '@' :: r) :
    ∃ u', u = v ++ u' ∧ T = u' ++ q :: '@' :: r := by
  rcases List.append_eq_append_iff.1 h with ⟨u', rfl, hu⟩ | ⟨k, rfl, hk⟩
  · exact ⟨u', rfl, hu⟩
  · match k, hk with
    | [], hk => exact ⟨[], by simp, hk.symm⟩
    | [c], hk =>
      obtain ⟨-, rfl⟩ := List.cons.inj hk
      exact absurd (hT.head '@' rfl) (by decide)
    | c :: d :: k, hk =>
      obtain ⟨-, hd⟩ := List.cons.inj hk
      obtain ⟨rfl, -⟩ := List.cons.inj hd
      exact absurd (by simp) hv

/-- The word before a package that is named on a later line stands on a later line as well. -/
theorem IsClosed.exists_of_append_eq_from (hT : IsClosed T) {w : List Char}
    (hw : ∀ c ∈ w, Text.isBlank c) (hq : IsQuote q) {a : List Char}
    (h : a ++ ("from".toList ++ w) = v ++ u) (hu : T = u ++ q :: '@' :: r) :
    ∃ a', a = v ++ a' ∧ T = a' ++ ("from".toList ++ (w ++ q :: '@' :: r)) := by
  rcases List.append_eq_append_iff.1 h with ⟨k, rfl, hk⟩ | ⟨a', rfl, hu'⟩
  · cases u with
    | nil => exact absurd hu (hT.not_package (w := []) (by simp) hq)
    | cons c u =>
      obtain rfl := hT.head c (by rw [hu]; rfl)
      obtain ⟨w', -, rfl⟩ := exists_append_of_not_mem (show '\n' ∉ "from".toList by decide) hk
      exact absurd hu (hT.not_package (fun c hc => hw c (List.mem_append_right w' hc)) hq)
  · exact ⟨a', rfl, by rw [hu, hu']; simp⟩

end Closed

/-- What stands behind a line is closed if the next line is valid and what stands behind that is
closed. -/
theorem isClosed_cons {l : Line} {T : List Char} (hl : l.IsValid) (hT : IsClosed T) :
    IsClosed ('\n' :: (l.source ++ T)) := by
  refine ⟨by simp, ?_, ?_⟩
  · intro w q r hw hq heq
    rcases w with _ | ⟨c, w⟩
    · obtain ⟨rfl, -⟩ := List.cons.inj heq
      exact not_isQuote_of_isBlank (by decide) hq
    obtain ⟨hc, hw⟩ := List.forall_mem_cons.1 hw
    obtain ⟨-, hrest⟩ := List.cons.inj heq
    cases l with
    | elided s =>
      rcases w with _ | ⟨d, w⟩
      · obtain ⟨rfl, -⟩ := List.cons.inj hrest
        exact absurd hq (by decide)
      · obtain ⟨rfl, -⟩ := List.cons.inj hrest
        exact absurd (hw _ List.mem_cons_self) (by decide)
    | other text =>
      obtain ⟨u, rfl, hu⟩ := exists_of_append_eq_package hl.2.1 hT hrest
      exact hT.not_package (fun c hc => hw c (List.mem_append_right text hc)) hq hu
  · intro w w' q r hw hw' hq heq
    rcases w with _ | ⟨c, w⟩
    · exact absurd (List.cons.inj heq).1 (by decide)
    obtain ⟨hc, hw⟩ := List.forall_mem_cons.1 hw
    obtain ⟨-, hrest⟩ := List.cons.inj heq
    cases l with
    | elided s =>
      rcases w with _ | ⟨d, w⟩
      · exact absurd (List.cons.inj hrest).1 (by decide)
      · obtain ⟨rfl, -⟩ := List.cons.inj hrest
        exact absurd (hw _ List.mem_cons_self) (by decide)
    | other text =>
      have hpackage : text ++ T = (w ++ ("from".toList ++ w')) ++ q :: '@' :: r := by
        rw [List.append_assoc, List.append_assoc]
        exact hrest
      obtain ⟨u, hfrom, hu⟩ := exists_of_append_eq_package hl.2.1 hT hpackage
      obtain ⟨a, rfl, ha⟩ := hT.exists_of_append_eq_from hw' hq hfrom hu
      exact hT.not_from (fun c hc => hw c (List.mem_append_right text hc)) hw' hq ha

theorem isClosed_below : ∀ {lines : List Line}, (∀ l ∈ lines, l.IsValid) → IsClosed (below lines)
  | [], _ => ⟨by simp [below], by simp [below], by simp [below]⟩
  | l :: lines, h => by
    obtain ⟨hl, hlines⟩ := List.forall_mem_cons.1 h
    exact isClosed_cons hl (isClosed_below hlines)

/-! ### What the forms for imports make of a line -/

section Clear

variable {x : Form} {T v text : List Char}

/-- No import that is removed begins on a line that is not one. -/
theorem turn?_eq_none_of_suffix (hx : x ∈ importForms) (hl : (other text).IsValid) (hT : IsClosed T)
    (hsuffix : v <:+ text) : x.turn? (v ++ T) = none := by
  obtain ⟨-, hsign, hgoesOn⟩ := hl
  have hv : '@' ∉ v := fun hmem => hsign (hsuffix.subset hmem)
  -- an import that is found is named on a later line, and its text up to there is known
  have hcut {a behind after : List Char} (hend : x.EndsImport behind after)
      (h : v ++ T = "import".toList ++ (a ++ behind)) :
      ∃ k a' w q r, "import".toList ++ k <:+ text ∧ a = k ++ '\n' :: a' ∧
        (∀ c ∈ w, Text.isBlank c) ∧ IsQuote q ∧
        T = '\n' :: a' ++ ("from".toList ++ (w ++ q :: '@' :: r)) := by
    obtain ⟨w, q, p, q', behind', hw, hq, hp, -, rfl, -⟩ := hend
    obtain ⟨p', rfl⟩ := hp.exists_cons
    have hpackage : v ++ T = ("import".toList ++ a ++ ("from".toList ++ w)) ++
        q :: '@' :: (p' ++ q' :: behind') := by
      simp only [h, List.append_assoc, List.cons_append]
    obtain ⟨u, hfrom, hu⟩ := exists_of_append_eq_package hv hT hpackage
    obtain ⟨a', ha, hT'⟩ := hT.exists_of_append_eq_from hw.isBlank hq hfrom hu
    rcases a' with _ | ⟨c, a'⟩
    · exact absurd (hT.head 'f' (by rw [hT']; rfl)) (by decide)
    · obtain rfl := hT.head c (by rw [hT']; rfl)
      obtain ⟨k, rfl, hk⟩ := exists_append_of_not_mem (show '\n' ∉ "import".toList by decide) ha
      exact ⟨k, a', w, q, _, hsuffix, hk, hw.isBlank, hq, hT'⟩
  rw [Option.eq_none_iff_forall_ne_some]
  rintro ⟨put, after⟩ hturn
  rcases Form.mem_importForms_iff.1 hx with ⟨name, hname, rfl⟩ | hline
  · obtain ⟨-, w, inner, w₁, behind, hw, hinner, -, hw₁, hrest, hend⟩ :=
      Form.exists_of_turn?_namedImport hname hturn
    obtain ⟨k, a', w₂, q, r, hk, ha, hw₂, hq, hT'⟩ :=
      hcut (a := w ++ '\x7b' :: (inner ++ '\x7d' :: w₁)) hend (by simpa using hrest)
    obtain ⟨w₀, c, rest, rfl, hw₀, hc, hbrace⟩ := exists_of_goesOn (hgoesOn k hk)
    rw [List.append_assoc] at ha
    obtain ⟨rfl, hlist⟩ := append_inj_of_forall (p := (Text.isBlank ·)) (by simp; decide)
      (by simpa using hc) hw.isBlank hw₀ ha
    obtain ⟨rfl, hnames⟩ := List.cons.inj hlist
    -- the list of names ends on the line, and only white space stands between it and the next line
    obtain ⟨names, rest, rfl, hnot⟩ := List.eq_append_cons_of_mem (hbrace rfl hw.ne_nil)
    have hcut' : inner ++ '\x7d' :: w₁ = names ++ '\x7d' :: (rest ++ '\n' :: a') := by
      simpa using hnames
    obtain ⟨-, rfl⟩ := append_cons_inj_of_not_mem hinner hnot hcut'
    exact hT.not_from (fun c hc => hw₁.isBlank c (List.mem_append_right rest hc)) hw₂ hq hT'
  · obtain ⟨-, w, line, behind, hw, hline', hrest, hend, -⟩ := hline.exists_of_turn? hturn
    obtain ⟨k, a', w₂, q, r, hk, ha, -⟩ := hcut (a := w ++ line) hend (by simpa using hrest)
    obtain ⟨w₀, c, rest, rfl, -, hc, -⟩ := exists_of_goesOn (hgoesOn k hk)
    rcases List.append_eq_append_iff.1 ha with ⟨k', hk', rfl⟩ | ⟨k', rfl, -⟩
    · exact hline' (by simp)
    · exact hc (hw.isBlank c (by simp))

/-- **A form makes of a line** what it makes of a line that stands alone. -/
theorem apply_source_append (hx : x ∈ importForms) {l : Line} (hl : l.IsValid) (hT : IsClosed T) :
    x.apply (l.source ++ T) = (l.clear x).source ++ x.apply T := by
  have hsound := Form.isSound_of_mem_importForms hx
  cases l with
  | elided s =>
    have hs := ImportStatement.IsAlone.isRegular hl
    rw [clear]
    split
    · next hremoved =>
      exact Form.apply_of_turn? hsound ((hs.turn?_iff hx hT.head).2 ⟨rfl, rfl, hremoved⟩)
    · next hkept =>
      refine hs.apply_source_append hx (Option.eq_none_iff_forall_ne_some.2 ?_)
      rintro ⟨put, after⟩ hturn
      exact hkept ((hs.turn?_iff hx hT.head).1 hturn).2.2
  | other text =>
    exact Form.apply_append hsound fun v _ hsuffix => turn?_eq_none_of_suffix hx hl hT hsuffix

theorem isValid_clear {l : Line} (hl : l.IsValid) : (l.clear x).IsValid := by
  cases l with
  | elided s =>
    rw [clear]
    split
    · refine ⟨List.not_mem_nil, List.not_mem_nil, fun behind h => ?_⟩
      exact absurd (List.suffix_nil.1 h) (by simp)
    · exact hl
  | other text => exact hl

theorem apply_below (hx : x ∈ importForms) : ∀ {lines : List Line}, (∀ l ∈ lines, l.IsValid) →
    x.apply (below lines) = below (lines.map (clear x))
  | [], _ => Form.apply_nil (Form.isSound_of_mem_importForms hx)
  | l :: lines, h => by
    obtain ⟨hl, hlines⟩ := List.forall_mem_cons.1 h
    have hend : x.apply ('\n' :: (l.source ++ below lines)) =
        '\n' :: x.apply (l.source ++ below lines) :=
      Form.apply_of_turn?_eq_none (Form.isSound_of_mem_importForms hx)
        (Form.turn?_cons_eq_none hx (by decide))
    rw [below_cons, hend, apply_source_append hx hl (isClosed_below hlines), apply_below hx hlines,
      List.map_cons, below_cons]

/-- **A form goes through a source line by line.** -/
theorem apply_intercalate (hx : x ∈ importForms) {lines : List Line} (h : ∀ l ∈ lines, l.IsValid) :
    x.apply (List.intercalate ['\n'] (lines.map source)) =
      List.intercalate ['\n'] ((lines.map (clear x)).map source) := by
  cases lines with
  | nil => exact Form.apply_nil (Form.isSound_of_mem_importForms hx)
  | cons l lines =>
    obtain ⟨hl, hlines⟩ := List.forall_mem_cons.1 h
    rw [intercalate_source, apply_source_append hx hl (isClosed_below hlines),
      apply_below hx hlines, List.map_cons, intercalate_source]

/-- What forms make of a line that stands alone, one after another. -/
def clearAll (xs : List Form) (l : Line) : Line := xs.foldl (fun l x => l.clear x) l

theorem applyAll_intercalate : ∀ {xs : List Form}, xs ⊆ importForms → ∀ {lines : List Line},
    (∀ l ∈ lines, l.IsValid) → Form.applyAll xs (List.intercalate ['\n'] (lines.map source)) =
      List.intercalate ['\n'] ((lines.map (clearAll xs)).map source)
  | [], _, lines, _ => by
    have hid : clearAll [] = id := rfl
    rw [hid, List.map_id]
    rfl
  | x :: xs, hxs, lines, h => by
    obtain ⟨hx, hxs⟩ := List.cons_subset.1 hxs
    have hclear : ∀ l ∈ lines.map (clear x), l.IsValid := by
      simpa using fun l hl => isValid_clear (h l hl)
    have hmap : lines.map (clearAll (x :: xs)) = (lines.map (clear x)).map (clearAll xs) := by
      rw [List.map_map]
      rfl
    change Form.applyAll xs (x.apply _) = _
    rw [apply_intercalate hx h, applyAll_intercalate hxs hclear, hmap]

theorem clearAll_other (xs : List Form) (text : List Char) :
    clearAll xs (other text) = other text := by
  induction xs with
  | nil => rfl
  | cons x xs ih => exact ih

theorem clearAll_elided {s : ImportStatement} : ∀ {xs : List Form}, (∃ x ∈ xs, s.IsRemovedBy x) →
    clearAll xs (elided s) = other []
  | [], h => absurd h (by simp)
  | x :: xs, h => by
    change clearAll xs (clear x (elided s)) = other []
    rw [clear]
    split
    · exact clearAll_other xs []
    · next hkept =>
      obtain ⟨y, hy, hremoved⟩ := h
      rcases List.mem_cons.1 hy with rfl | hy
      · exact absurd hremoved hkept
      · exact clearAll_elided ⟨y, hy, hremoved⟩

/-- The forms for imports remove every import of the component library or of a styling package. -/
theorem source_clearAll_importForms {l : Line} (hl : l.IsValid) :
    (clearAll importForms l).source = l.target := by
  cases l with
  | elided s =>
    have hremoved : ∃ x ∈ importForms, s.IsRemovedBy x := by
      rcases hl.package with hp | hp
      · exact ⟨.packageImport, by decide, hp⟩
      · exact ⟨.styleImport, by decide, hp⟩
    rw [clearAll_elided hremoved]
    rfl
  | other text =>
    rw [clearAll_other]
    rfl

end Clear

end Line

/-- **Imports on lines of their own.** Where an import of the component library or of a styling
package stands, the first rules of the table leave an empty line; they keep all other lines. -/
theorem apply_intercalate_lines {lines : List Line} (h : ∀ l ∈ lines, l.IsValid) :
    RuleSet.apply (bootstrapRules.take 5)
        (String.ofList (List.intercalate ['\n'] (lines.map Line.source))) =
      String.ofList (List.intercalate ['\n'] (lines.map Line.target)) := by
  have hlines : (lines.map (Line.clearAll importForms)).map Line.source =
      lines.map Line.target := by
    rw [List.map_map]
    exact List.map_congr_left fun l hl => Line.source_clearAll_importForms (h l hl)
  rw [RuleSet.apply, String.toList_ofList, Form.applyChars_take_eq,
    Line.applyAll_intercalate (List.Subset.refl _) h, hlines]

/-- The imports of a component, some of them on lines that are removed. -/
def componentHead : List Line :=
  [.elided ⟨"\x7b Button, Box \x7d".toList, '\'', "@mui/material".toList, '\'', true⟩,
    .other "import \x7b useState \x7d from 'react';".toList,
    .elided ⟨"styled".toList, '"', "@emotion/styled".toList, '"', false⟩, .other []]

theorem apply_intercalate_componentHead : (∀ l ∈ componentHead, l.IsValid) ∧
    RuleSet.apply (bootstrapRules.take 5) ("import \x7b Button, Box \x7d from '@mui/material';\n" ++
      "import \x7b useState \x7d from 'react';\nimport styled from \"@emotion/styled\"\n") =
        "\nimport \x7b useState \x7d from 'react';\n\n" := by
  have hvalid : ∀ l ∈ componentHead, l.IsValid := by decide +kernel
  have hsource : List.intercalate ['\n'] (componentHead.map Line.source) =
      ("import \x7b Button, Box \x7d from '@mui/material';\n" ++
        "import \x7b useState \x7d from 'react';\n" ++
        "import styled from \"@emotion/styled\"\n").toList := by
    decide +kernel
  have htarget : List.intercalate ['\n'] (componentHead.map Line.target) =
      "\nimport \x7b useState \x7d from 'react';\n\n".toList := by decide +kernel
  have h := apply_intercalate_lines hvalid
  rw [hsource, htarget, String.ofList_toList, String.ofList_toList] at h
  exact ⟨hvalid, h⟩

end Restyle
