import Restyle.Proofs.Rule.Piecewise
import Restyle.Proofs.Rule.Statement

/-!
# Imports in any layout

Several import statements may stand on one line. A form for imports of a name removes its
statements, wherever they stand. A form for imports on a line removes more: it begins at the first
statement of a line and goes on to the last one on the line with its package, and takes everything
between them along. So the rules for imports remove the statements of other packages that stand
before an import on a line, unless the import is one of those that have been removed by name before.

## Main definitions

* `Restyle.Token`, `Restyle.Token.text` — statements and what stands between them.
* `Restyle.Token.clearAll` — what forms for imports leave of statements.
* `Restyle.Token.kept` — the statements that are left.
* `Restyle.ImportStatement.IsSimple` — imports of names or of lists of names.

## Main results

* `Restyle.Token.exists_of_turn?_line` — how far a form for imports on a line reaches.
* `Restyle.Token.apply_text` — what a form for imports makes of statements.
* `Restyle.apply_text_clearAll` — what the rules for imports make of statements in any layout.
* `Restyle.not_forall_standInOrder_apply` — they do not keep all statements of other packages.
-/

namespace Restyle

/-- The parts of a text of import statements. -/
inductive Token where
  | statement (s : ImportStatement)
  | space
  | newline

namespace Token

/-- What a part looks like. -/
def source : Token → List Char
  | statement s => s.source
  | space => [' ']
  | newline => ['\n']

/-- What parts look like one after another. -/
def text (ts : List Token) : List Char := ts.flatMap source

/-- All statements are regular. -/
def AreRegular (ts : List Token) : Prop := ∀ s, statement s ∈ ts → s.IsRegular

/-- The statements among the parts. -/
def statements : List Token → List ImportStatement
  | [] => []
  | statement s :: ts => s :: statements ts
  | space :: ts | newline :: ts => statements ts

/-! ### What forms leave of statements -/

section Strip

variable (p q : ImportStatement → Bool)

/-- Whether a statement of a kind stands on the rest of a line. -/
def onLine : List Token → Bool
  | [] | newline :: _ => false
  | space :: ts => onLine ts
  | statement s :: ts => p s || onLine ts

/-- What is left if on every line everything is removed from the first statement to the last one of
a kind. A line has begun if a statement stands before on the line. -/
def strip : Bool → List Token → List Token
  | _, [] => []
  | _, newline :: ts => newline :: strip false ts
  | begun, space :: ts =>
    if begun && onLine p ts then strip begun ts else space :: strip begun ts
  | _, statement s :: ts =>
    if p s || onLine p ts then strip true ts else statement s :: strip true ts

/-- What is left if the statements of a kind are removed. -/
def drop : List Token → List Token
  | [] => []
  | statement s :: ts => if p s then drop ts else statement s :: drop ts
  | space :: ts => space :: drop ts
  | newline :: ts => newline :: drop ts

/-- The statements that are not of one kind and have none of another kind behind them on their line.
-/
def kept : List Token → List ImportStatement
  | [] => []
  | space :: ts | newline :: ts => kept ts
  | statement s :: ts => if p s || onLine q ts then kept ts else s :: kept ts

end Strip

/-- What a form for imports leaves of statements. -/
def clear : Form → List Token → List Token
  | .namedImport name => drop fun s => s.IsRemovedBy (.namedImport name)
  | x => strip (fun s => s.IsRemovedBy x) false

/-- What forms for imports leave of statements, one after another. -/
def clearAll (xs : List Form) (ts : List Token) : List Token := xs.foldl (fun ts x => clear x ts) ts

theorem clear_eq_strip {x : Form} (hx : x.IsForLine) :
    clear x = strip (fun s => s.IsRemovedBy x) false := by
  rcases hx with rfl | rfl <;> rfl

section Kinds

variable {p q : ImportStatement → Bool} {l ts : List Token} {s : ImportStatement}

theorem onLine_iff : ∀ {ts : List Token}, onLine p ts ↔
    ∃ l s ts', ts = l ++ statement s :: ts' ∧ newline ∉ l ∧ p s
  | [] => by simp [onLine]
  | newline :: ts => by
    refine iff_of_false (by simp [onLine]) ?_
    rintro ⟨l, s, ts', h, hl, -⟩
    cases l with
    | nil => exact absurd (List.cons.inj h).1 (by simp)
    | cons t l => exact hl (List.mem_cons.2 (.inl (List.cons.inj h).1))
  | space :: ts => by
    rw [onLine, onLine_iff]
    constructor
    · rintro ⟨l, s, ts', rfl, hl, hs⟩
      exact ⟨space :: l, s, ts', rfl, by simpa using hl, hs⟩
    · rintro ⟨l, s, ts', h, hl, hs⟩
      cases l with
      | nil => exact absurd (List.cons.inj h).1 (by simp)
      | cons t l =>
        exact ⟨l, s, ts', (List.cons.inj h).2, fun hmem => hl (List.mem_cons_of_mem t hmem), hs⟩
  | statement r :: ts => by
    rw [onLine, Bool.or_eq_true, onLine_iff]
    constructor
    · rintro (hr | ⟨l, s, ts', rfl, hl, hs⟩)
      · exact ⟨[], r, ts, rfl, List.not_mem_nil, hr⟩
      · exact ⟨statement r :: l, s, ts', rfl, by simpa using hl, hs⟩
    · rintro ⟨l, s, ts', h, hl, hs⟩
      cases l with
      | nil =>
        obtain ⟨hr, -⟩ := List.cons.inj h
        obtain rfl : r = s := Token.statement.inj hr
        exact .inl hs
      | cons t l =>
        exact .inr ⟨l, s, ts', (List.cons.inj h).2, fun hmem => hl (List.mem_cons_of_mem t hmem),
          hs⟩

/-- It makes no difference for a line without statements of the kind whether it has begun. -/
theorem strip_eq_of_not_onLine : ∀ {ts : List Token}, onLine p ts = false →
    strip p true ts = strip p false ts
  | [], _ | newline :: _, _ | statement _ :: _, _ => rfl
  | space :: ts, h => by
    have hts : onLine p ts = false := h
    simp [strip, hts, strip_eq_of_not_onLine hts]

/-- A line that has begun is stripped up to a statement of the kind. -/
theorem strip_append (hs : p s) : ∀ {l : List Token}, newline ∉ l →
    strip p true (l ++ statement s :: ts) = strip p true ts
  | [], _ => by simp [strip, hs]
  | t :: l, hl => by
    have hl' : newline ∉ l := fun hmem => hl (List.mem_cons_of_mem t hmem)
    have hline : onLine p (l ++ statement s :: ts) := onLine_iff.2 ⟨l, s, ts, rfl, hl', hs⟩
    cases t with
    | statement r => simpa [strip, hline] using strip_append hs hl'
    | space => simpa [strip, hline] using strip_append hs hl'
    | newline => exact absurd List.mem_cons_self hl

theorem strip_sublist : ∀ (begun : Bool) (ts : List Token), (strip p begun ts).Sublist ts
  | _, [] => List.Sublist.refl []
  | _, newline :: ts => (strip_sublist false ts).cons_cons newline
  | begun, space :: ts => by
    rw [strip]
    split
    · exact (strip_sublist begun ts).cons space
    · exact (strip_sublist begun ts).cons_cons space
  | _, statement s :: ts => by
    rw [strip]
    split
    · exact (strip_sublist true ts).cons (statement s)
    · exact (strip_sublist true ts).cons_cons (statement s)

theorem drop_sublist : ∀ ts : List Token, (drop p ts).Sublist ts
  | [] => List.Sublist.refl []
  | newline :: ts => (drop_sublist ts).cons_cons newline
  | space :: ts => (drop_sublist ts).cons_cons space
  | statement s :: ts => by
    rw [drop]
    split
    · exact (drop_sublist ts).cons (statement s)
    · exact (drop_sublist ts).cons_cons (statement s)

/-! ### Which statements are left -/

theorem statements_strip : ∀ (begun : Bool) (ts : List Token),
    statements (strip p begun ts) = kept p p ts
  | _, [] => rfl
  | _, newline :: ts => statements_strip false ts
  | begun, space :: ts => by
    rw [strip, kept]
    split
    · exact statements_strip begun ts
    · exact statements_strip begun ts
  | _, statement s :: ts => by
    rw [strip, kept]
    split
    · exact statements_strip true ts
    · exact congrArg (s :: ·) (statements_strip true ts)

/-- A line without statements of one kind keeps those of another kind. -/
theorem onLine_strip : ∀ {ts : List Token} (begun : Bool), onLine p ts = false →
    onLine q (strip p begun ts) = onLine q ts
  | [], _, _ | newline :: _, _, _ => rfl
  | space :: ts, begun, h => by
    have hts : onLine p ts = false := h
    simp [strip, hts, onLine, onLine_strip begun hts]
  | statement s :: ts, _, h => by
    obtain ⟨hs, hts⟩ : p s = false ∧ onLine p ts = false := by simpa [onLine] using h
    simp [strip, hs, hts, onLine, onLine_strip true hts]

theorem onLine_or :
    ∀ ts : List Token, onLine (fun s => p s || q s) ts = (onLine p ts || onLine q ts)
  | [] | newline :: _ => rfl
  | space :: ts => onLine_or ts
  | statement s :: ts => by
    simp only [onLine, onLine_or ts]
    ac_rfl

/-- Two kinds of statements are stripped as one. -/
theorem kept_strip : ∀ (begun : Bool) (ts : List Token),
    kept q q (strip p begun ts) = kept (fun s => p s || q s) (fun s => p s || q s) ts
  | _, [] => rfl
  | _, newline :: ts => kept_strip false ts
  | begun, space :: ts => by
    rw [strip, kept]
    split
    · exact kept_strip begun ts
    · exact kept_strip begun ts
  | _, statement s :: ts => by
    rw [strip, kept, onLine_or]
    split
    · next h =>
      rw [if_pos (by simp only [Bool.or_eq_true] at h ⊢; tauto)]
      exact kept_strip true ts
    · next h =>
      obtain ⟨hs, hts⟩ : p s = false ∧ onLine p ts = false := by simpa using h
      simp only [kept, onLine_strip true hts, hs, hts, Bool.false_or, kept_strip true ts]

theorem onLine_drop : ∀ ts : List Token, onLine q (drop p ts) = onLine (fun s => q s && !p s) ts
  | [] | newline :: _ => rfl
  | space :: ts => onLine_drop ts
  | statement s :: ts => by
    rw [drop, onLine]
    split
    · next hs => simp [hs, onLine_drop ts]
    · next hs => simp [hs, onLine, onLine_drop ts]

/-- A statement that has been removed takes no other statement along. -/
theorem kept_drop {r : ImportStatement → Bool} : ∀ ts : List Token,
    kept q r (drop p ts) = kept (fun s => q s || p s) (fun s => r s && !p s) ts
  | [] => rfl
  | newline :: ts | space :: ts => kept_drop ts
  | statement s :: ts => by
    rw [drop, kept]
    split
    · next hs => simp [hs, kept_drop ts]
    · next hs => simp [hs, kept, onLine_drop, kept_drop ts]

end Kinds

/-! ### Where an import ends -/

section Text

variable {x : Form} {ts : List Token} {r : ImportStatement} {u behind after put : List Char}

theorem text_append (l ts : List Token) : text (l ++ ts) = text l ++ text ts := List.flatMap_append

theorem text_cons (t : Token) (ts : List Token) : text (t :: ts) = t.source ++ text ts := rfl

theorem text_statement (s : ImportStatement) (ts : List Token) :
    text (statement s :: ts) = s.source ++ text ts := rfl

theorem AreRegular.mono {l ts : List Token} (h : AreRegular ts) (hl : l ⊆ ts) : AreRegular l :=
  fun s hs => h s (hl hs)

/-- No semicolon stands behind a statement that has none. -/
theorem head?_text_ne (ts : List Token) : (text ts).head? ≠ some ';' := by
  rcases ts with _ | ⟨_ | _ | _, ts⟩
  · simp [text]
  · exact fun h => absurd (Option.some.inj h) (by decide)
  · exact fun h => absurd (Option.some.inj h) (by decide)
  · exact fun h => absurd (Option.some.inj h) (by decide)

theorem mem_text_iff : ∀ {ts : List Token}, AreRegular ts → ('\n' ∈ text ts ↔ newline ∈ ts)
  | [], _ => by simp [text]
  | t :: ts, h => by
    have hts := mem_text_iff (h.mono (List.subset_cons_self t ts))
    have ht : '\n' ∈ t.source ↔ t = newline := by
      cases t with
      | statement s => exact iff_of_false (h s List.mem_cons_self).not_mem_source (by simp)
      | space => simp [source]
      | newline => simp [source]
    rw [text_cons, List.mem_append, ht, List.mem_cons, hts, eq_comm]

/-- The end of an import in a text of statements is the end of one of them. -/
theorem exists_of_text_eq (hts : AreRegular ts) (h : text ts = u ++ behind)
    (hend : x.EndsImport behind after) :
    ∃ l s ts', ts = l ++ statement s :: ts' ∧ u = text l ++ s.front ∧ x.IsFrom s.package ∧
      after = text ts' := by
  induction ts generalizing u with
  | nil =>
    obtain ⟨cs, rfl⟩ := hend.exists_cons
    exact absurd h (by simp [text])
  | cons t ts ih =>
    have hts' := hts.mono (List.subset_cons_self t ts)
    -- no import ends at a character between statements
    have hgap {c : Char} (hc : c ≠ 'f') (hsource : t.source = [c]) :
        ∃ l s ts', t :: ts = l ++ statement s :: ts' ∧ u = text l ++ s.front ∧ x.IsFrom s.package ∧
          after = text ts' := by
      have h' : c :: text ts = u ++ behind := by
        rw [← h, text_cons, hsource]
        rfl
      cases u with
      | nil =>
        obtain ⟨cs, rfl⟩ := hend.exists_cons
        exact absurd (List.cons.inj h').1 hc
      | cons d u =>
        obtain ⟨rfl, hrest⟩ := List.cons.inj h'
        obtain ⟨l, s, ts', rfl, rfl, hfrom, hafter⟩ := ih hts' hrest
        refine ⟨t :: l, s, ts', rfl, ?_, hfrom, hafter⟩
        rw [text_cons, hsource]
        rfl
    cases t with
    | space => exact hgap (by decide) rfl
    | newline => exact hgap (by decide) rfl
    | statement s =>
      rcases (hts s List.mem_cons_self).endsImport_cases (fun _ => head?_text_ne ts) h hend with
        ⟨rfl, hfrom, rfl⟩ | ⟨u', rfl, hrest⟩
      · exact ⟨[], s, ts, rfl, rfl, hfrom, rfl⟩
      · obtain ⟨l, s', ts', rfl, rfl, hfrom, hafter⟩ := ih hts' hrest
        exact ⟨statement s :: l, s', ts', rfl, by rw [text_statement, List.append_assoc], hfrom,
          hafter⟩

/-- A text of statements is cut at the word before the package of one of them. -/
theorem text_append_statement (l ts : List Token) (s : ImportStatement) :
    text (l ++ statement s :: ts) = (text l ++ s.front) ++ (s.back ++ text ts) := by
  rw [text_append, text_statement, s.source_eq_append]
  simp only [List.append_assoc]

theorem not_mem_text_front {l : List Token} {s : ImportStatement}
    (hts : AreRegular (l ++ statement s :: ts)) (hl : newline ∉ l) : '\n' ∉ text l ++ s.front := by
  have hs := (hts s (by simp)).not_mem_source
  rw [s.source_eq_append, List.mem_append, not_or] at hs
  rw [List.mem_append, not_or, mem_text_iff (hts.mono (List.subset_append_left l _))]
  exact ⟨hl, hs.1⟩

/-! ### What the forms for imports make of statements -/

theorem apply_text_cons_of_source_eq (hx : x ∈ importForms) {t : Token} {c : Char} (hc : c ≠ 'i')
    (hsource : t.source = [c]) : x.apply (text (t :: ts)) = t.source ++ x.apply (text ts) := by
  rw [text_cons, hsource]
  exact Form.apply_of_turn?_eq_none (Form.isSound_of_mem_importForms hx)
    (Form.turn?_cons_eq_none hx hc)

/-- **How far a form for imports on a line reaches**: to the last statement with its package that
stands on the line. -/
theorem exists_of_turn?_line (hx : x.IsForLine) (hts : AreRegular (statement r :: ts))
    (h : x.turn? (text (statement r :: ts)) = some (put, after)) :
    put = [] ∧ ∃ l s ts', statement r :: ts = l ++ statement s :: ts' ∧ newline ∉ l ∧
      s.IsRemovedBy x ∧ onLine (fun s => s.IsRemovedBy x) ts' = false ∧ after = text ts' := by
  obtain ⟨rfl, line, behind, hline, hrest, hend, hlast⟩ :=
    (hts r List.mem_cons_self).exists_of_turn?_line hx h
  have hline' : '\n' ∉ "import ".toList ++ line := by simp [hline]
  obtain ⟨l, s, ts', heq, hu, hfrom, rfl⟩ := exists_of_text_eq hts hrest hend
  rw [heq] at hts
  have hl : newline ∉ l := by
    rw [← mem_text_iff (hts.mono (List.subset_append_left l _))]
    exact fun hmem => hline' (hu ▸ List.mem_append_left _ hmem)
  refine ⟨rfl, l, s, ts', heq, hl, (ImportStatement.isRemovedBy_iff_isFrom hx).2 hfrom, ?_, rfl⟩
  rw [← Bool.not_eq_true, onLine_iff]
  rintro ⟨l', s', ts'', rfl, hl', hs'⟩
  have hbehind : behind = (s.back ++ (text l' ++ s'.front)) ++ (s'.back ++ text ts'') := by
    have hcut : ("import ".toList ++ line) ++ behind =
        ("import ".toList ++ line) ++ (s.back ++ text (l' ++ statement s' :: ts'')) := by
      rw [← hrest, hu, ← text_append_statement, ← heq]
      rfl
    rw [List.append_cancel_left hcut, text_append_statement]
    simp only [List.append_assoc]
  have hts' : AreRegular (l' ++ statement s' :: ts'') := hts.mono fun t ht => by simp [ht]
  have hback : '\n' ∉ s.back := by
    have hs := (hts s (by simp)).not_mem_source
    rw [s.source_eq_append, List.mem_append, not_or] at hs
    exact hs.2
  have hfrom' : x.IsFrom s'.package :=
    (ImportStatement.isRemovedBy_iff_isFrom hx).1 (of_decide_eq_true hs')
  refine hlast (s.back ++ (text l' ++ s'.front)) _ (text ts'') (by simp [s.back_eq]) ?_ hbehind
    ((hts' s' (by simp)).endsImport hfrom' fun _ => head?_text_ne ts'')
  rw [List.mem_append, not_or]
  exact ⟨hback, not_mem_text_front hts' hl'⟩

/-- A form for imports on a line has a match at a statement if a statement with its package stands
on the rest of the line. -/
theorem isSome_turn?_line (hx : x.IsForLine) (hts : AreRegular (statement r :: ts))
    (h : onLine (fun s => s.IsRemovedBy x) (statement r :: ts)) :
    (x.turn? (text (statement r :: ts))).isSome := by
  obtain ⟨l, s, ts', heq, hl, hs⟩ := onLine_iff.1 h
  have hfrom : x.IsFrom s.package :=
    (ImportStatement.isRemovedBy_iff_isFrom hx).1 (of_decide_eq_true hs)
  rw [heq] at hts ⊢
  have hend := (hts s (by simp)).endsImport hfrom fun _ => head?_text_ne ts'
  obtain ⟨line, hline⟩ : ∃ line, text l ++ s.front = "import ".toList ++ line := by
    cases l with
    | nil => exact ⟨_, s.front_eq⟩
    | cons t l =>
      obtain ⟨rfl, -⟩ := List.cons.inj heq
      refine ⟨r.clause ++ (" from ".toList ++ (r.opening :: (r.package ++ r.closing :: r.finish) ++
        (text l ++ s.front))), ?_⟩
      rw [text_statement, r.source_eq]
      simp only [List.append_assoc]
  have hnot := not_mem_text_front hts hl
  rw [hline, List.mem_append, not_or] at hnot
  exact ImportStatement.isSome_turn?_line hx hnot.2
    (by rw [text_append_statement, hline]) hend

theorem apply_text_namedImport {name : String} (hname : name ∈ ["Button", "TextField", "Select"]) :
    ∀ {ts : List Token}, AreRegular ts →
      (Form.namedImport name).apply (text ts) = text (clear (.namedImport name) ts)
  | [], _ => Form.apply_nil (Form.isSound_of_mem_importForms (Form.mem_importForms_iff.2
      (.inl ⟨name, hname, rfl⟩)))
  | t :: ts, hts => by
    have hx : Form.namedImport name ∈ importForms :=
      Form.mem_importForms_iff.2 (.inl ⟨name, hname, rfl⟩)
    have ih := apply_text_namedImport hname (hts.mono (List.subset_cons_self t ts))
    cases t with
    | space =>
      rw [apply_text_cons_of_source_eq hx (by decide) rfl, ih]
      rfl
    | newline =>
      rw [apply_text_cons_of_source_eq hx (by decide) rfl, ih]
      rfl
    | statement s =>
      have hs := hts s List.mem_cons_self
      rw [clear, drop]
      split
      · next hremoved =>
        have hturn := (hs.turn?_namedImport_iff hname (fun _ => head?_text_ne ts)).2
          ⟨rfl, rfl, of_decide_eq_true hremoved⟩
        rw [text_statement, Form.apply_of_turn? (Form.isSound_of_mem_importForms hx) hturn, ih]
        rfl
      · next hkept =>
        have hnone : (Form.namedImport name).turn? (s.source ++ text ts) = none := by
          rw [Option.eq_none_iff_forall_ne_some]
          rintro ⟨put, after⟩ hturn
          obtain ⟨-, -, hremoved⟩ :=
            (hs.turn?_namedImport_iff hname (fun _ => head?_text_ne ts)).1 hturn
          exact hkept (decide_eq_true hremoved)
        rw [text_statement, hs.apply_source_append hx hnone, ih]
        rfl

theorem apply_text_line (hx : x.IsForLine) : ∀ {ts : List Token}, AreRegular ts →
    x.apply (text ts) = text (strip (fun s => s.IsRemovedBy x) false ts)
  | [], _ => Form.apply_nil (Form.isSound_of_mem_importForms (Form.mem_importForms_iff.2 (.inr hx)))
  | space :: ts, hts => by
    have ih := apply_text_line hx (hts.mono (List.subset_cons_self space ts))
    rw [apply_text_cons_of_source_eq (Form.mem_importForms_iff.2 (.inr hx)) (by decide) rfl, ih]
    rfl
  | newline :: ts, hts => by
    have ih := apply_text_line hx (hts.mono (List.subset_cons_self newline ts))
    rw [apply_text_cons_of_source_eq (Form.mem_importForms_iff.2 (.inr hx)) (by decide) rfl, ih]
    rfl
  | statement r :: ts, hts => by
    have hmem := Form.mem_importForms_iff.2 (.inr hx)
    have hsound := Form.isSound_of_mem_importForms hmem
    cases hturn : x.turn? (text (statement r :: ts)) with
    | some turned =>
      obtain ⟨put, after⟩ := turned
      obtain ⟨rfl, l, s, ts', heq, hl, hs, hnone, rfl⟩ := exists_of_turn?_line hx hts hturn
      have hlength : ts'.length < ts.length + 1 := by
        rw [← List.length_cons, heq, List.length_append, List.length_cons]
        omega
      have ih := apply_text_line hx (hts.mono (l := ts') fun t ht => by rw [heq]; simp [ht])
      -- the line begins with the statement at which the match begins
      have hbegun : strip (fun s => s.IsRemovedBy x) false (statement r :: ts) =
          strip (fun s => s.IsRemovedBy x) true (statement r :: ts) := rfl
      rw [Form.apply_of_turn? hsound hturn, ih, hbegun, heq, strip_append (decide_eq_true hs) hl,
        strip_eq_of_not_onLine hnone]
      rfl
    | none =>
      have hline : onLine (fun s => s.IsRemovedBy x) (statement r :: ts) = false := by
        rw [← Bool.not_eq_true]
        intro honLine
        have hsome := isSome_turn?_line hx hts honLine
        rw [hturn] at hsome
        exact Bool.noConfusion hsome
      obtain ⟨hr, hrest⟩ : (decide (r.IsRemovedBy x)) = false ∧
          onLine (fun s => s.IsRemovedBy x) ts = false := by
        simpa only [onLine, Bool.or_eq_false_iff] using hline
      have ih := apply_text_line hx (hts.mono (List.subset_cons_self (statement r) ts))
      rw [text_statement] at hturn ⊢
      rw [(hts r List.mem_cons_self).apply_source_append hmem hturn, ih, strip, hr, hrest,
        strip_eq_of_not_onLine hrest]
      rfl
termination_by ts => ts.length
decreasing_by
  all_goals simp
  omega

/-- **What a form for imports makes of statements.** -/
theorem apply_text (hx : x ∈ importForms) (hts : AreRegular ts) :
    x.apply (text ts) = text (clear x ts) := by
  rcases Form.mem_importForms_iff.1 hx with ⟨name, hname, rfl⟩ | hline
  · exact apply_text_namedImport hname hts
  · rw [clear_eq_strip hline, apply_text_line hline hts]

theorem clear_sublist (x : Form) (ts : List Token) : (clear x ts).Sublist ts := by
  unfold clear
  split
  · exact drop_sublist ts
  · exact strip_sublist false ts

theorem clearAll_sublist : ∀ (xs : List Form) (ts : List Token), (clearAll xs ts).Sublist ts
  | [], ts => List.Sublist.refl ts
  | x :: xs, ts => (clearAll_sublist xs (clear x ts)).trans (clear_sublist x ts)

theorem applyAll_text : ∀ {xs : List Form}, xs ⊆ importForms → ∀ {ts : List Token}, AreRegular ts →
    Form.applyAll xs (text ts) = text (clearAll xs ts)
  | [], _, _, _ => rfl
  | x :: xs, hxs, ts, hts => by
    obtain ⟨hx, hxs⟩ := List.cons_subset.1 hxs
    change Form.applyAll xs (x.apply _) = _
    rw [apply_text hx hts, applyAll_text hxs (hts.mono (clear_sublist x ts).subset)]
    rfl

theorem applyChars_text (hts : AreRegular ts) :
    RuleSet.applyChars (bootstrapRules.take 5) (text ts) = text (clearAll importForms ts) := by
  rw [Form.applyChars_take_eq, applyAll_text (List.Subset.refl importForms) hts]

end Text

end Token

/-! ### Which statements are kept -/

namespace ImportStatement

/-- A statement imports from the component library or from a styling package. -/
def isElided (s : ImportStatement) : Bool := decide (IsPackage s.package)

/-- A statement is removed by a form for imports of a name. -/
def isNamed (s : ImportStatement) : Bool :=
  ["Button", "TextField", "Select"].any fun name => s.IsRemovedBy (.namedImport name)

/-- A statement is left to the forms for imports on a line, which take along what stands before it
on its line. -/
def isSweeping (s : ImportStatement) : Bool := s.isElided && !s.isNamed

/-- The names that are imported. -/
structure IsName (n : List Char) : Prop where
  ne_nil : n ≠ []
  head : ∀ c ∈ n.head?, c.isAlpha ∨ c = '_' ∨ c = '$'
  forall_mem : ∀ c ∈ n, c.isAlphanum ∨ c = '_' ∨ c = '$'
  ne_import : n ≠ "import".toList
  ne_from : n ≠ "from".toList

theorem isName_iff {n : List Char} : IsName n ↔
    n ≠ [] ∧ (∀ c ∈ n.head?, c.isAlpha ∨ c = '_' ∨ c = '$') ∧
      (∀ c ∈ n, c.isAlphanum ∨ c = '_' ∨ c = '$') ∧ n ≠ "import".toList ∧ n ≠ "from".toList :=
  ⟨fun ⟨h₁, h₂, h₃, h₄, h₅⟩ => ⟨h₁, h₂, h₃, h₄, h₅⟩,
    fun ⟨h₁, h₂, h₃, h₄, h₅⟩ => ⟨h₁, h₂, h₃, h₄, h₅⟩⟩

instance (n : List Char) : Decidable (IsName n) := decidable_of_iff _ isName_iff.symm

/-- What stands between braces around names. -/
def listed (names : List (List Char)) : List Char :=
  ' ' :: (", ".toList.intercalate names ++ [' '])

/-- The import of a name or of a list of names in braces, with a semicolon at its end. -/
structure IsSimple (s : ImportStatement) : Prop where
  clause : IsName s.clause ∨
    ∃ names : List (List Char), (∀ n ∈ names, IsName n) ∧
      s.clause = '\x7b' :: (listed names ++ ['\x7d'])
  opening : s.opening = '\''
  ne_nil : s.package ≠ []
  package : ∀ c ∈ s.package, c.isAlphanum ∨ c ∈ ['@', '/', '.', '-']
  closing : s.closing = '\''
  ended : s.ended

theorem mem_intercalate {sep : List Char} {c : Char} : ∀ {names : List (List Char)},
    c ∈ sep.intercalate names → c ∈ sep ∨ ∃ n ∈ names, c ∈ n
  | [], h => by simp at h
  | [n], h => .inr ⟨n, by simp, by simpa using h⟩
  | n :: m :: names, h => by
    rw [List.intercalate_cons_cons, List.mem_append, List.mem_append] at h
    rcases h with (h | h) | h
    · exact .inr ⟨n, List.mem_cons_self, h⟩
    · exact .inl h
    · refine (mem_intercalate h).imp_right ?_
      rintro ⟨n', hn', hc⟩
      exact ⟨n', List.mem_cons_of_mem n hn', hc⟩

/-- Names and what stands between them hold no braces, no quotation marks and no ends of lines. -/
theorem IsName.mem_signs {n : List Char} (h : IsName n) {c : Char} (hc : c ∈ n) :
    c.isAlphanum ∨ c ∈ ['_', '$', ',', ' '] := by
  rcases h.forall_mem c hc with hc | rfl | rfl
  · exact .inl hc
  · exact .inr (by simp)
  · exact .inr (by simp)

theorem mem_signs_of_mem_listed {names : List (List Char)} (h : ∀ n ∈ names, IsName n) {c : Char}
    (hc : c ∈ listed names) : c.isAlphanum ∨ c ∈ ['_', '$', ',', ' '] := by
  have hsigns : ∀ c ∈ ", ".toList, c ∈ ['_', '$', ',', ' '] := by decide
  rw [listed, List.mem_cons, List.mem_append] at hc
  rcases hc with rfl | hc | hc
  · exact .inr (by simp)
  · rcases mem_intercalate hc with hc | ⟨n, hn, hc⟩
    · exact .inr (hsigns c hc)
    · exact (h n hn).mem_signs hc
  · obtain rfl := List.mem_singleton.1 hc
    exact .inr (by simp)

variable {s : ImportStatement}

theorem IsSimple.mem_signs (h : s.IsSimple) {c : Char} (hc : c ∈ s.clause) :
    c.isAlphanum ∨ c ∈ ['_', '$', ',', ' ', '\x7b', '\x7d'] := by
  have hsigns {c : Char} (hc : c.isAlphanum ∨ c ∈ ['_', '$', ',', ' ']) :
      c.isAlphanum ∨ c ∈ ['_', '$', ',', ' ', '\x7b', '\x7d'] :=
    hc.imp_right fun hmem => List.mem_append_left ['\x7b', '\x7d'] hmem
  rcases h.clause with hname | ⟨names, hnames, hclause⟩
  · exact hsigns (hname.mem_signs hc)
  · rw [hclause, List.mem_cons, List.mem_append, List.mem_singleton] at hc
    rcases hc with rfl | hc | rfl
    · exact .inr (by simp)
    · exact hsigns (mem_signs_of_mem_listed hnames hc)
    · exact .inr (by simp)

/-- Simple statements are regular. -/
theorem IsSimple.isRegular (h : s.IsSimple) : s.IsRegular where
  head := by
    rcases h.clause with hname | ⟨names, -, hclause⟩
    · obtain ⟨c, n, hn⟩ := List.exists_cons_of_ne_nil hname.ne_nil
      have hc : c ∈ s.clause.head? := by rw [hn]; rfl
      refine ⟨c, hc, ?_⟩
      rcases hname.head c hc with hletter | rfl | rfl
      · refine Text.not_isBlank_of_isAlphanum ?_
        change (c.isAlpha || c.isDigit) = true
        rw [hletter, Bool.true_or]
      · decide
      · decide
    · exact ⟨'\x7b', by simp [hclause], by decide⟩
  one_line hmem := absurd (h.mem_signs hmem) (by decide)
  no_quote c hc := by
    rintro (rfl | rfl)
    · exact absurd (h.mem_signs hc) (by decide)
    · exact absurd (h.mem_signs hc) (by decide)
  braces hmem := by
    rcases h.clause with hname | ⟨names, -, hclause⟩
    · exact absurd (hname.mem_signs hmem) (by decide)
    · rw [hclause, ← List.cons_append, List.getLast?_concat]
  no_import w _ hin := by
    have hbrace : '\x7b' ∈ "import".toList ++ (w ++ ['\x7b']) := by simp
    rcases h.clause with hname | ⟨names, hnames, hclause⟩
    · exact absurd (hname.mem_signs (hin.subset hbrace)) (by decide)
    · rw [hclause] at hin
      rcases List.infix_cons_iff.1 hin with ⟨behind, hprefix⟩ | hin
      · exact absurd (List.cons.inj hprefix).1 (by decide)
      · rcases List.mem_append.1 (hin.subset hbrace) with hmem | hmem
        · exact absurd (mem_signs_of_mem_listed hnames hmem) (by decide)
        · exact absurd hmem (by decide)
  opening := .inl h.opening
  package c hc := by
    constructor
    · rintro (rfl | rfl)
      · exact absurd (h.package _ hc) (by decide)
      · exact absurd (h.package _ hc) (by decide)
    · rcases h.package c hc with hc | hc
      · exact Text.not_isBlank_of_isAlphanum hc
      · have hsigns : ∀ c ∈ ['@', '/', '.', '-'], ¬ Text.isBlank c := by decide
        exact hsigns c hc
  closing := .inl h.closing

theorem isElided_eq (s : ImportStatement) :
    s.isElided =
      (decide (s.IsRemovedBy .packageImport) || decide (s.IsRemovedBy .styleImport)) := by
  rw [Bool.eq_iff_iff, Bool.or_eq_true, decide_eq_true_iff, decide_eq_true_iff]
  exact decide_eq_true_iff

theorem isNamed_eq (s : ImportStatement) : s.isNamed =
    (decide (s.IsRemovedBy (.namedImport "Button")) ||
      decide (s.IsRemovedBy (.namedImport "TextField")) ||
        decide (s.IsRemovedBy (.namedImport "Select"))) := by
  simp [isNamed, Bool.or_assoc]

/-- What a form for imports of a name removes comes from the component library. -/
theorem isElided_or_isNamed (s : ImportStatement) : (s.isElided || s.isNamed) = s.isElided := by
  rw [Bool.or_eq_left_iff_imp]
  intro h
  obtain ⟨name, -, hremoved⟩ := List.any_eq_true.1 h
  obtain ⟨hpackage, -⟩ := of_decide_eq_true hremoved
  exact decide_eq_true (.inl hpackage)

end ImportStatement

open ImportStatement

/-- The statements that are left by the forms for imports. -/
theorem Token.statements_clearAll_importForms (ts : List Token) :
    statements (clearAll importForms ts) = kept isElided isSweeping ts := by
  have hclear : clearAll importForms ts =
      strip (fun s => s.IsRemovedBy .styleImport) false
        (strip (fun s => s.IsRemovedBy .packageImport) false
          (drop (fun s => s.IsRemovedBy (.namedImport "Select"))
            (drop (fun s => s.IsRemovedBy (.namedImport "TextField"))
              (drop (fun s => s.IsRemovedBy (.namedImport "Button")) ts)))) := rfl
  rw [hclear, statements_strip, kept_strip, kept_drop, kept_drop, kept_drop]
  congr
  · funext s
    rw [← isElided_or_isNamed, isElided_eq, isNamed_eq]
    ac_rfl
  · funext s
    rw [isSweeping, isElided_eq, isNamed_eq, Bool.not_or, Bool.not_or]
    ac_rfl

/-- **Imports in any layout.** The first rules of the table leave of a text of import statements
what the forms for imports leave one after another. This is a part of the statements: those that are
neither from the component library nor from a styling package, and on whose line no such import
comes later, apart from imports that are removed by name. -/
theorem apply_text_clearAll {ts : List Token} (h : Token.AreRegular ts) :
    RuleSet.apply (bootstrapRules.take 5) (String.ofList (Token.text ts)) =
        String.ofList (Token.text (Token.clearAll importForms ts)) ∧
      (Token.clearAll importForms ts).Sublist ts ∧
        Token.statements (Token.clearAll importForms ts) = Token.kept isElided isSweeping ts := by
  refine ⟨?_, Token.clearAll_sublist importForms ts, Token.statements_clearAll_importForms ts⟩
  rw [RuleSet.apply, String.toList_ofList, Token.applyChars_text h]

/-- The import of a name, or of names in braces, from a package. -/
def simpleImport (clause package : String) : ImportStatement :=
  ⟨clause.toList, '\'', package.toList, '\'', true⟩

theorem isSimple_simpleImport {clause package : String}
    (hclause : IsName clause.toList ∨ ∃ names : List (List Char), (∀ n ∈ names, IsName n) ∧
      clause.toList = '\x7b' :: (listed names ++ ['\x7d'])) (hne : package.toList ≠ [])
    (hpackage : ∀ c ∈ package.toList, c.isAlphanum ∨ c ∈ ['@', '/', '.', '-']) :
    (simpleImport clause package).IsSimple :=
  ⟨hclause, rfl, hne, hpackage, rfl, rfl⟩

/-- Two lines of imports, the first one with an import that is removed by name. -/
def twoLines : List Token :=
  [.statement (simpleImport "a" "react"), .space,
    .statement (simpleImport "\x7b Select \x7d" "@mui/material"), .newline,
    .statement (simpleImport "b" "react"), .space, .statement (simpleImport "c" "@emotion/css"),
    .space, .statement (simpleImport "d" "./d"), .newline]

/-- An import that is removed by name leaves the import before it, and the import of a styling
package takes the one before it along. -/
theorem apply_text_clearAll_twoLines :
    RuleSet.apply (bootstrapRules.take 5) ("import a from 'react'; import \x7b Select \x7d from " ++
        "'@mui/material';\nimport b from 'react'; import c from '@emotion/css'; " ++
          "import d from './d';\n") =
      "import a from 'react'; \n import d from './d';\n" ∧
      Token.kept isElided isSweeping twoLines =
        [simpleImport "a" "react", simpleImport "d" "./d"] := by
  have hregular : Token.AreRegular twoLines := by
    intro s hs
    simp only [twoLines, List.mem_cons, Token.statement.injEq, reduceCtorEq, List.not_mem_nil,
      or_false, false_or] at hs
    have hname : ∀ n ∈ ["a", "b", "c", "d"], IsName n.toList := by decide +kernel
    have hnames : ∀ n ∈ ["Select".toList], IsName n := by decide +kernel
    rcases hs with rfl | rfl | rfl | rfl | rfl
    · exact (isSimple_simpleImport (.inl (hname "a" (by simp))) (by decide) (by decide)).isRegular
    · exact (isSimple_simpleImport (.inr ⟨_, hnames, by decide⟩) (by decide) (by decide)).isRegular
    · exact (isSimple_simpleImport (.inl (hname "b" (by simp))) (by decide) (by decide)).isRegular
    · exact (isSimple_simpleImport (.inl (hname "c" (by simp))) (by decide) (by decide)).isRegular
    · exact (isSimple_simpleImport (.inl (hname "d" (by simp))) (by decide) (by decide)).isRegular
  have hsource : Token.text twoLines = ("import a from 'react'; import \x7b Select \x7d from " ++
      "'@mui/material';\nimport b from 'react'; import c from '@emotion/css'; " ++
        "import d from './d';\n").toList := by decide +kernel
  have htarget : Token.text (Token.clearAll importForms twoLines) =
      "import a from 'react'; \n import d from './d';\n".toList := by decide +kernel
  have hkept : Token.kept isElided isSweeping twoLines =
      [simpleImport "a" "react", simpleImport "d" "./d"] := by decide +kernel
  obtain ⟨happly, -⟩ := apply_text_clearAll hregular
  rw [hsource, htarget, String.ofList_toList, String.ofList_toList] at happly
  exact ⟨happly, hkept⟩

/-- Statements with a space or the end of a line behind each of them. -/
def laidOut (statements : List (ImportStatement × Bool)) : List Token :=
  statements.flatMap fun (s, ends) => [.statement s, if ends then .newline else .space]

/-- The rules do not keep all imports of other packages: one that stands before an import on its
line is removed with it. -/
theorem not_forall_standInOrder_apply :
    ¬ ∀ statements : List (ImportStatement × Bool), statements ≠ [] →
      (∀ s ∈ statements, s.1.IsSimple) →
      standInOrder (((statements.map Prod.fst).filter (!isElided ·)).map ImportStatement.source)
        (RuleSet.apply (bootstrapRules.take 5)
          (String.ofList (Token.text (laidOut statements)))).toList := by
  intro h
  have hname : ∀ n ∈ ["a", "b"], IsName n.toList := by decide +kernel
  have hreact : (simpleImport "a" "react").IsSimple :=
    isSimple_simpleImport (.inl (hname "a" (by simp))) (by decide) (by decide)
  have hlibrary : (simpleImport "b" "@mui/material").IsSimple :=
    isSimple_simpleImport (.inl (hname "b" (by simp))) (by decide) (by decide)
  have hstand := h [(simpleImport "a" "react", false), (simpleImport "b" "@mui/material", true)]
    (by simp) (by simp [hreact, hlibrary])
  have hregular : Token.AreRegular (laidOut [(simpleImport "a" "react", false),
      (simpleImport "b" "@mui/material", true)]) := by
    simp [Token.AreRegular, laidOut, hreact.isRegular, hlibrary.isRegular]
  rw [RuleSet.apply, String.toList_ofList, String.toList_ofList,
    Token.applyChars_text hregular] at hstand
  exact absurd hstand (by decide +kernel)

end Restyle
