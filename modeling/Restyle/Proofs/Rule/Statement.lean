import Restyle.Proofs.Rule.Import

/-!
# Import statements

An import statement names what it imports, its *clause*, and then its package in quotation marks.
This file describes what the forms for imports remove of a statement and the text behind it. A form
for imports of a name removes the statement alone. A form for imports on a line begins at a
statement, too, and ends with this statement or with one behind it. Where a form has no match at the
beginning of a statement, it has none within the statement.

## Main definitions

* `Restyle.ImportStatement`, `Restyle.ImportStatement.source` — statements and what they look like.
* `Restyle.ImportStatement.IsRegular` — nothing in a statement could be taken for a part of another
  one.
* `Restyle.ImportStatement.IsRemovedBy` — the statements that a form removes.

## Main results

* `Restyle.ImportStatement.IsRegular.endsImport_cases` — where an import ends.
* `Restyle.ImportStatement.IsRegular.turn?_namedImport_iff` — forms for imports of names at a
  statement.
* `Restyle.ImportStatement.IsRegular.turn?_iff` — all forms at a statement that ends its line.
* `Restyle.ImportStatement.IsRegular.turn?_eq_none_of_suffix` — no match within a statement.
-/

namespace Restyle

/-! ### Where texts are cut -/

section Cut

variable {p : Char → Prop} {a b u v : List Char} {c d : Char}

/-- A text is cut in one way before the characters with a property at its end. -/
theorem append_inj_of_forall_end (ha : ∀ c ∈ a.getLast?, ¬ p c) (hb : ∀ c ∈ b.getLast?, ¬ p c)
    (hu : ∀ c ∈ u, p c) (hv : ∀ c ∈ v, p c) (h : a ++ u = b ++ v) : a = b ∧ u = v := by
  have hreverse : u.reverse ++ a.reverse = v.reverse ++ b.reverse := by
    rw [← List.reverse_append, h, List.reverse_append]
  obtain ⟨huv, hab⟩ := append_inj_of_forall (p := p) (by simpa using ha) (by simpa using hb)
    (by simpa using hu) (by simpa using hv) hreverse
  exact ⟨List.reverse_injective hab, List.reverse_injective huv⟩

/-- The first character with a property in a text is also the first one behind a place, if none
stands before it there, or it stands before the place. -/
theorem append_cons_eq_cases (hu : ∀ e ∈ u, ¬ p e) (hv : ∀ e ∈ v, ¬ p e) (hc : p c) (hd : p d)
    {a b w : List Char} (h : u ++ c :: a = w ++ (v ++ d :: b)) :
    (u = w ++ v ∧ c = d ∧ a = b) ∨ ∃ w', w = u ++ c :: w' ∧ a = w' ++ (v ++ d :: b) := by
  rcases List.append_eq_append_iff.1 h with ⟨r, rfl, hr⟩ | ⟨r, rfl, hr⟩
  · cases r with
    | nil =>
      cases v with
      | nil =>
        obtain ⟨rfl, rfl⟩ := List.cons.inj hr
        exact .inl ⟨by simp, rfl, rfl⟩
      | cons e v =>
        obtain ⟨rfl, -⟩ := List.cons.inj hr
        exact absurd hc (hv _ List.mem_cons_self)
    | cons e r =>
      obtain ⟨rfl, rfl⟩ := List.cons.inj hr
      exact .inr ⟨r, rfl, rfl⟩
  · have hr' : ∀ e ∈ r, ¬ p e := fun e he => hu e (List.mem_append_right w he)
    obtain ⟨rfl, hrest⟩ :=
      append_inj_of_forall (p := (¬ p ·)) (by simpa using hd) (by simpa using hc)
      hv hr' hr
    obtain ⟨rfl, rfl⟩ := List.cons.inj hrest
    exact .inl ⟨rfl, rfl, rfl⟩

/-- A character stands behind a text that does not hold it. -/
theorem exists_append_of_not_mem (hd : d ∉ a) (h : a ++ u = b ++ d :: v) :
    ∃ b', b = a ++ b' ∧ u = b' ++ d :: v := by
  rcases List.append_eq_append_iff.1 h with ⟨b', rfl, hu⟩ | ⟨r, rfl, hr⟩
  · exact ⟨b', rfl, hu⟩
  · cases r with
    | nil => exact ⟨[], by simp, by simpa using hr.symm⟩
    | cons e r =>
      obtain ⟨rfl, -⟩ := List.cons.inj hr
      exact absurd (by simp) hd

theorem infix_append_cons (hd : d ∉ a) : ∀ {u : List Char}, a <:+: u ++ d :: v → a <:+: u ∨ a <:+: v
  | [], h => by
    rcases List.infix_cons_iff.1 h with hp | h
    · exact .inl (prefix_of_prefix_append_cons (u := []) hd hp).isInfix
    · exact .inr h
  | e :: u, h => by
    rcases List.infix_cons_iff.1 h with hp | h
    · exact .inl (prefix_of_prefix_append_cons (u := e :: u) hd hp).isInfix
    · exact (infix_append_cons hd h).imp_left (·.trans (List.suffix_cons e u).isInfix)

/-- A stretch ends only where its last character stands. -/
theorem infix_of_infix_append_of_last_not_mem (hc : c ∉ v) (h : a ++ [c] <:+: u ++ v) :
    a ++ [c] <:+: u := by
  obtain ⟨before, behind, h⟩ := h
  rcases List.append_eq_append_iff.1 h with ⟨r, rfl, -⟩ | ⟨r, hr, rfl⟩
  · exact ⟨before, r, rfl⟩
  · rcases List.eq_nil_or_concat r with rfl | ⟨r, e, rfl⟩
    · exact ⟨before, [], by simpa using hr⟩
    · have hlast : (before ++ a) ++ [c] = (u ++ r) ++ [e] := by simpa using hr
      obtain ⟨-, he⟩ := List.append_inj' hlast rfl
      exact absurd (by simp [List.cons.inj he]) hc

end Cut

/-! ### Import statements -/

/-- An import statement that ends with its package and perhaps a semicolon. -/
structure ImportStatement where
  /-- what is imported -/
  clause : List Char
  /-- the quotation mark before the package -/
  opening : Char
  package : List Char
  /-- the quotation mark behind the package -/
  closing : Char
  /-- whether a semicolon ends the statement -/
  ended : Bool
  deriving DecidableEq

namespace ImportStatement

/-- What stands behind the package and its quotation mark. -/
def finish (s : ImportStatement) : List Char := if s.ended then [';'] else []

/-- What a statement looks like. -/
def source (s : ImportStatement) : List Char :=
  "import ".toList ++
    (s.clause ++ (" from ".toList ++ s.opening :: (s.package ++ s.closing :: s.finish)))

theorem source_eq (s : ImportStatement) : s.source = "import ".toList ++
    (s.clause ++ (" from ".toList ++ s.opening :: (s.package ++ s.closing :: s.finish))) := rfl

/-- A statement up to the word before its package. -/
def front (s : ImportStatement) : List Char := "import ".toList ++ (s.clause ++ [' '])

/-- A statement from the word before its package. -/
def back (s : ImportStatement) : List Char :=
  "from".toList ++ ([' '] ++ s.opening :: (s.package ++ s.closing :: s.finish))

theorem front_eq (s : ImportStatement) : s.front = "import ".toList ++ (s.clause ++ [' ']) := rfl

theorem back_eq (s : ImportStatement) : s.back =
    "from".toList ++ ([' '] ++ s.opening :: (s.package ++ s.closing :: s.finish)) := rfl

theorem source_eq_append (s : ImportStatement) : s.source = s.front ++ s.back := by
  have hword : " from ".toList = [' '] ++ ("from".toList ++ [' ']) := rfl
  simp only [source_eq, front_eq, back_eq, hword, List.append_assoc]

/-- A statement of which nothing could be taken for a part of another one: its clause ends with a
brace if it holds one, and only the package stands in quotation marks. -/
structure IsRegular (s : ImportStatement) : Prop where
  head : ∃ c ∈ s.clause.head?, ¬ Text.isBlank c
  one_line : '\n' ∉ s.clause
  no_quote : ∀ c ∈ s.clause, ¬ IsQuote c
  braces : '\x7b' ∈ s.clause → s.clause.getLast? = some '\x7d'
  no_import : ∀ w, IsBlank w → ¬ "import".toList ++ (w ++ ['\x7b']) <:+: s.clause
  opening : IsQuote s.opening
  package : ∀ c ∈ s.package, ¬ IsQuote c ∧ ¬ Text.isBlank c
  closing : IsQuote s.closing

variable {s : ImportStatement} {x : Form} {T u behind after put : List Char}

/-- No quotation mark stands in a statement before its package. -/
theorem IsRegular.not_isQuote (hs : s.IsRegular) :
    ∀ c ∈ "import ".toList ++ (s.clause ++ " from ".toList), ¬ IsQuote c := by
  have himport : ∀ c ∈ "import ".toList, ¬ IsQuote c := by simp [IsQuote]
  have hfrom : ∀ c ∈ " from ".toList, ¬ IsQuote c := by simp [IsQuote]
  exact List.forall_mem_append.2 ⟨himport, List.forall_mem_append.2 ⟨hs.no_quote, hfrom⟩⟩

theorem mem_finish {c : Char} (h : c ∈ s.finish) : c = ';' := by
  rw [finish] at h
  split at h
  · simpa using h
  · exact absurd h List.not_mem_nil

/-- What stands behind a statement, if a semicolon belongs to it. -/
theorem eq_of_finish_append (hT : s.ended = false → T.head? ≠ some ';') (h : s.finish ++ T = behind)
    (hafter : behind = ';' :: after ∨ behind = after ∧ after.head? ≠ some ';') : after = T := by
  rw [finish] at h
  split at h
  · rcases hafter with rfl | ⟨rfl, hsemicolon⟩
    · exact (List.cons.inj h).2.symm
    · exact absurd (by rw [← h]; rfl) hsemicolon
  · next hended =>
    obtain rfl : T = behind := h
    rcases hafter with rfl | ⟨rfl, -⟩
    · exact absurd rfl (hT (by simpa using hended))
    · rfl

/-- **The end of an import in a statement and the text behind it** is the end of the statement, or
stands behind it. -/
theorem IsRegular.endsImport_cases (hs : s.IsRegular) (hT : s.ended = false → T.head? ≠ some ';')
    (h : s.source ++ T = u ++ behind) (hend : x.EndsImport behind after) :
    (u = s.front ∧ x.IsFrom s.package ∧ after = T) ∨
      ∃ u', u = s.source ++ u' ∧ T = u' ++ behind := by
  obtain ⟨w, q, p, q', behind', hw, hq, hp, hq', rfl, hafter⟩ := hend
  have hfrom : ∀ c ∈ "from".toList ++ w, ¬ IsQuote c := by
    have hword : ∀ c ∈ "from".toList, ¬ IsQuote c := by simp [IsQuote]
    exact List.forall_mem_append.2 ⟨hword, fun c hc => not_isQuote_of_isBlank (hw.isBlank c hc)⟩
  have hsplit : ("import ".toList ++ (s.clause ++ " from ".toList)) ++
      s.opening :: (s.package ++ s.closing :: (s.finish ++ T)) =
        u ++ (("from".toList ++ w) ++ q :: (p ++ q' :: behind')) := by
    simpa only [source_eq, List.append_assoc, List.cons_append] using h
  rcases append_cons_eq_cases (p := IsQuote) hs.not_isQuote hfrom hs.opening hq hsplit with
    ⟨hu, -, hrest⟩ | ⟨u', rfl, hrest⟩
  · left
    have hblank : ∀ c ∈ [' '], Text.isBlank c := by decide
    have hword : " from ".toList = [' '] ++ ("from".toList ++ [' ']) := rfl
    have hu' : (("import ".toList ++ (s.clause ++ [' '])) ++ "from".toList) ++ [' '] =
        (u ++ "from".toList) ++ w := by
      simpa only [hword, List.append_assoc] using hu
    have hlast (v : List Char) : ∀ c ∈ (v ++ "from".toList).getLast?, ¬ Text.isBlank c := by
      have hletters : "from".toList = "fro".toList ++ ['m'] := rfl
      rw [hletters, ← List.append_assoc, List.getLast?_concat]
      intro c hc
      obtain rfl : 'm' = c := Option.some.inj hc
      decide
    obtain ⟨hstart, -⟩ := append_inj_of_forall_end (hlast _) (hlast _) hblank hw.isBlank hu'
    obtain ⟨rfl, hbehind⟩ := append_inj_of_forall (p := (¬ IsQuote ·)) (by simpa using hs.closing)
      (by simpa using hq') (fun c hc => (hs.package c hc).1) hp.not_isQuote hrest
    exact ⟨(List.append_cancel_right hstart).symm, hp,
      eq_of_finish_append hT (List.cons.inj hbehind).2 hafter⟩
  · rcases append_cons_eq_cases (p := IsQuote) (fun c hc => (hs.package c hc).1) hfrom hs.closing hq
      hrest with ⟨hpackage, -⟩ | ⟨u'', rfl, hlater⟩
    · obtain ⟨c, hc⟩ := List.exists_mem_of_ne_nil w hw.ne_nil
      exact absurd (hw.isBlank c hc) (hs.package c (by simp [hpackage, hc])).2
    · right
      have hletter : 'f' ∉ s.finish := fun hmem => absurd (mem_finish hmem) (by decide)
      have hword : "from".toList = 'f' :: "rom".toList := rfl
      simp only [hword, List.append_assoc, List.cons_append] at hlater ⊢
      obtain ⟨u', rfl, hT'⟩ := exists_append_of_not_mem hletter hlater
      exact ⟨u', by simp only [source_eq, List.append_assoc, List.cons_append], hT'⟩

/-- The end of a statement. -/
theorem IsRegular.endsImport (hs : s.IsRegular) (hfrom : x.IsFrom s.package)
    (hT : s.ended = false → T.head? ≠ some ';') : x.EndsImport (s.back ++ T) T := by
  refine ⟨[' '], _, _, _, s.finish ++ T, ⟨by simp, by decide⟩, hs.opening, hfrom, hs.closing,
    by simp only [back_eq, List.append_assoc, List.cons_append], ?_⟩
  rw [finish]
  split
  · exact .inl rfl
  · next hended => exact .inr ⟨rfl, hT (by simpa using hended)⟩

/-- A single blank stands at the beginning of a statement. -/
theorem IsRegular.blank_eq (hs : s.IsRegular) {w R R' : List Char} (hw : IsBlank w)
    (h : "import ".toList ++ (s.clause ++ R) = "import".toList ++ (w ++ R')) :
    w = [' '] ∧ s.clause ++ R = R' := by
  obtain ⟨d, w', rfl⟩ := List.exists_cons_of_ne_nil hw.ne_nil
  have hword : "import ".toList = "import".toList ++ [' '] := rfl
  rw [hword, List.append_assoc, List.append_cancel_left_eq] at h
  obtain ⟨rfl, hrest⟩ : ' ' = d ∧ s.clause ++ R = w' ++ R' := by simpa using h
  obtain ⟨c, hc, hblank⟩ := hs.head
  obtain ⟨clause, hclause⟩ : ∃ clause, s.clause = c :: clause := List.head?_eq_some_iff.1 hc
  cases w' with
  | nil => exact ⟨rfl, hrest⟩
  | cons e w' =>
    rw [hclause] at hrest
    obtain ⟨rfl, -⟩ := List.cons.inj hrest
    exact absurd (hw.isBlank c (by simp)) hblank

/-- The braces of a list of names are the first and the last character of the clause. -/
theorem IsRegular.clause_eq (hs : s.IsRegular) {w inner w₁ R : List Char} (hw : IsBlank w)
    (hinner : '\x7d' ∉ inner) (hw₁ : IsBlank w₁)
    (h : "import ".toList ++ (s.clause ++ R) =
      "import".toList ++ (w ++ '\x7b' :: (inner ++ '\x7d' :: w₁))) :
    s.clause = '\x7b' :: (inner ++ ['\x7d']) ∧ w₁ = R := by
  obtain ⟨-, hrest⟩ := hs.blank_eq hw h
  obtain ⟨c, hc, -⟩ := hs.head
  obtain ⟨clause, hclause⟩ : ∃ clause, s.clause = c :: clause := List.head?_eq_some_iff.1 hc
  rw [hclause] at hrest
  obtain ⟨rfl, hnames⟩ : c = '\x7b' ∧ clause ++ R = inner ++ '\x7d' :: w₁ := by simpa using hrest
  obtain ⟨names, rfl⟩ : ∃ names, clause = names ++ ['\x7d'] := by
    obtain ⟨names, hlast⟩ := List.getLast?_eq_some_iff.1 (hs.braces (by simp [hclause]))
    rw [hclause] at hlast
    cases names with
    | nil => simp at hlast
    | cons d names => exact ⟨names, (List.cons.inj hlast).2⟩
  have hbrace : '\x7d' ∉ w₁ := fun hmem => absurd (hw₁.isBlank _ hmem) (by decide)
  have hcut : inner ++ '\x7d' :: w₁ = names ++ ([] ++ '\x7d' :: R) := by simpa using hnames.symm
  rcases append_cons_eq_cases (p := (· = '\x7d')) (fun e he heq => hinner (heq ▸ he))
    (by simp) rfl rfl
    hcut with ⟨hinner', -, rfl⟩ | ⟨w', -, rfl⟩
  · exact ⟨by rw [hclause, hinner', List.append_nil], rfl⟩
  · exact absurd (by simp) hbrace

/-! ### What is removed of a statement -/

/-- What stands between the first and the last character of the clause. -/
def names (s : ImportStatement) : List Char := s.clause.tail.dropLast

/-- The clause is a list in braces in which a name stands. -/
def Lists (s : ImportStatement) (name : String) : Prop :=
  s.clause = '\x7b' :: (s.names ++ ['\x7d']) ∧ '\x7d' ∉ s.names ∧ name.toList <:+: s.names

/-- A form removes a statement, whatever stands around it. -/
def IsRemovedBy (s : ImportStatement) : Form → Prop
  | .namedImport name => s.package = "@mui/material".toList ∧ s.Lists name
  | x => x.IsFrom s.package

instance (s : ImportStatement) (name : String) : Decidable (s.Lists name) :=
  inferInstanceAs (Decidable (_ ∧ _ ∧ _))

instance (s : ImportStatement) : (x : Form) → Decidable (s.IsRemovedBy x)
  | .namedImport name =>
    inferInstanceAs (Decidable (s.package = "@mui/material".toList ∧ s.Lists name))
  | .styleImport => inferInstanceAs (Decidable (Form.styleImport.IsFrom s.package))
  | .packageImport | .variant .. | .element .. | .longField | .field | .words .. =>
    inferInstanceAs (Decidable (s.package = "@mui/material".toList))

theorem lists_of_clause_eq {name : String} {inner : List Char} (hinner : '\x7d' ∉ inner)
    (hname : name.toList <:+: inner) (h : s.clause = '\x7b' :: (inner ++ ['\x7d'])) :
    s.Lists name := by
  have hnames : s.names = inner := by simp [names, h]
  rw [Lists, hnames]
  exact ⟨h, hinner, hname⟩

theorem isRemovedBy_iff_isFrom (hx : x.IsForLine) : s.IsRemovedBy x ↔ x.IsFrom s.package := by
  rcases hx with rfl | rfl <;> rfl

/-- A form for imports of a name removes a statement or has no match at its beginning. -/
theorem IsRegular.turn?_namedImport_iff (hs : s.IsRegular) {name : String}
    (hname : name ∈ ["Button", "TextField", "Select"]) (hT : s.ended = false → T.head? ≠ some ';') :
    (Form.namedImport name).turn? (s.source ++ T) = some (put, after) ↔
      put = [] ∧ after = T ∧ s.IsRemovedBy (.namedImport name) := by
  have hsound {put after : List Char}
      (h : (Form.namedImport name).turn? (s.source ++ T) = some (put, after)) :
      put = [] ∧ after = T ∧ s.IsRemovedBy (.namedImport name) := by
    obtain ⟨rfl, w, inner, w₁, behind, hw, hinner, hin, hw₁, hrest, hend⟩ :=
      Form.exists_of_turn?_namedImport hname h
    have hrest' : s.source ++ T =
        ("import".toList ++ (w ++ '\x7b' :: (inner ++ '\x7d' :: w₁))) ++ behind := by
      simpa only [List.append_assoc, List.cons_append] using hrest
    rcases hs.endsImport_cases hT hrest' hend with ⟨hu, hfrom, rfl⟩ | ⟨u', hu, -⟩
    · obtain ⟨hclause, -⟩ := hs.clause_eq hw hinner hw₁ hu.symm
      exact ⟨rfl, rfl, hfrom, lists_of_clause_eq hinner hin hclause⟩
    · -- the name of a package cannot stand behind the braces
      have hu' : "import ".toList ++ (s.clause ++ (" from ".toList ++ (s.opening ::
          (s.package ++ s.closing :: s.finish) ++ u'))) =
            "import".toList ++ (w ++ '\x7b' :: (inner ++ '\x7d' :: w₁)) := by
        simp only [hu, source_eq, List.append_assoc]
      obtain ⟨-, rfl⟩ := hs.clause_eq hw hinner hw₁ hu'
      exact absurd (hw₁.isBlank 'f' (by simp)) (by decide)
  refine ⟨hsound, ?_⟩
  rintro ⟨rfl, rfl, hfrom, hclause, hinner, hin⟩
  have hblank : IsBlank [' '] := ⟨by simp, by decide⟩
  have hx : Form.namedImport name ∈ importForms :=
    Form.mem_importForms_iff.2 (.inl ⟨name, hname, rfl⟩)
  have hsome := Form.isSome_turn?_namedImport (Form.isSound_of_mem_importForms hx) hblank hinner hin
    hblank (hs.endsImport hfrom hT)
  have hsource : "import".toList ++ ([' '] ++ '\x7b' :: (s.names ++ '\x7d' :: ([' '] ++
      (s.back ++ after)))) = s.source ++ after := by
    rw [source_eq_append, front_eq]
    rw [hclause]
    simp
  rw [hsource] at hsome
  obtain ⟨⟨put', after'⟩, hturn⟩ := Option.isSome_iff_exists.1 hsome
  obtain ⟨rfl, rfl, -⟩ := hsound hturn
  exact hturn

/-- What a form for imports on a line removes at the beginning of a statement. -/
theorem IsRegular.exists_of_turn?_line (hs : s.IsRegular) (hx : x.IsForLine)
    (h : x.turn? (s.source ++ T) = some (put, after)) :
    put = [] ∧ ∃ line behind, '\n' ∉ line ∧ s.source ++ T = ("import ".toList ++ line) ++ behind ∧
      x.EndsImport behind after ∧
        ∀ v u after', v ≠ [] → '\n' ∉ v → behind = v ++ u → ¬ x.EndsImport u after' := by
  obtain ⟨rfl, w, line, behind, hw, hline, hrest, hend, hlast⟩ := hx.exists_of_turn? h
  obtain ⟨rfl, -⟩ := hs.blank_eq (R := " from ".toList ++ s.opening :: (s.package ++ s.closing ::
    (s.finish ++ T))) hw
    (by simpa only [source_eq, List.append_assoc, List.cons_append] using hrest)
  refine ⟨rfl, line, behind, hline, ?_, hend, hlast⟩
  rw [hrest]
  rfl

theorem isSome_turn?_line (hx : x.IsForLine) {rest line behind : List Char} (hline : '\n' ∉ line)
    (h : rest = ("import ".toList ++ line) ++ behind) (hend : x.EndsImport behind after) :
    (x.turn? rest).isSome := by
  rw [h]
  exact hx.isSome_turn? (w := [' ']) ⟨by simp, by decide⟩ hline hend

/-- **What a form removes of a statement on a line of its own**, at its beginning. -/
theorem IsRegular.turn?_iff (hs : s.IsRegular) (hx : x ∈ importForms)
    (hT : ∀ c ∈ T.head?, c = '\n') :
    x.turn? (s.source ++ T) = some (put, after) ↔ put = [] ∧ after = T ∧ s.IsRemovedBy x := by
  have hsemicolon : s.ended = false → T.head? ≠ some ';' := fun _ hhead => by
    have := hT ';' hhead
    exact absurd this (by decide)
  rcases Form.mem_importForms_iff.1 hx with ⟨name, hname, rfl⟩ | hx
  · exact hs.turn?_namedImport_iff hname hsemicolon
  have hsound {put after : List Char} (h : x.turn? (s.source ++ T) = some (put, after)) :
      put = [] ∧ after = T ∧ s.IsRemovedBy x := by
    obtain ⟨rfl, line, behind, hline, hrest, hend, -⟩ := hs.exists_of_turn?_line hx h
    rcases hs.endsImport_cases hsemicolon hrest hend with ⟨-, hfrom, rfl⟩ | ⟨u', hu, hbehind⟩
    · exact ⟨rfl, rfl, (isRemovedBy_iff_isFrom hx).2 hfrom⟩
    · -- the end of the line stands before another import
      have hu' : '\n' ∉ u' := fun hmem => by
        have hmem' : '\n' ∈ "import ".toList ++ line := hu ▸ List.mem_append_right _ hmem
        simp [hline] at hmem'
      cases u' with
      | nil =>
        obtain ⟨cs, rfl⟩ := hend.exists_cons
        exact absurd (hT 'f' (by rw [hbehind]; rfl)) (by decide)
      | cons c u' =>
        obtain rfl := hT c (by rw [hbehind]; rfl)
        exact absurd List.mem_cons_self hu'
  refine ⟨hsound, ?_⟩
  rintro ⟨rfl, rfl, hremoved⟩
  have hfrom := (isRemovedBy_iff_isFrom hx).1 hremoved
  have hline : '\n' ∉ s.clause ++ [' '] := by simp [hs.one_line]
  have hsource : s.source ++ after =
      ("import ".toList ++ (s.clause ++ [' '])) ++ (s.back ++ after) := by
    rw [source_eq_append, front_eq, List.append_assoc]
  have hsome := isSome_turn?_line hx hline hsource (hs.endsImport hfrom hsemicolon)
  obtain ⟨⟨put', after'⟩, hturn⟩ := Option.isSome_iff_exists.1 hsome
  obtain ⟨rfl, rfl, -⟩ := hsound hturn
  exact hturn

theorem IsRegular.not_mem_source (hs : s.IsRegular) : '\n' ∉ s.source := by
  have hpackage : '\n' ∉ s.package := fun hmem => (hs.package _ hmem).2 (by decide)
  have hfinish : '\n' ∉ s.finish := fun hmem => absurd (mem_finish hmem) (by decide)
  have hopening : '\n' ≠ s.opening := by rcases hs.opening with h | h <;> simp [h]
  have hclosing : '\n' ≠ s.closing := by rcases hs.closing with h | h <;> simp [h]
  simp [source_eq, hs.one_line, hpackage, hfinish, hopening, hclosing]

/-- A statement ends with a quotation mark or a semicolon. -/
theorem IsRegular.exists_mem_of_suffix (hs : s.IsRegular) {v : List Char} (hv : v ≠ [])
    (hsuffix : v <:+ s.source) : ∃ c ∈ v, c = ';' ∨ IsQuote c := by
  obtain ⟨front, c, hsource, hc⟩ : ∃ front c, s.source = front ++ [c] ∧ (c = ';' ∨ IsQuote c) := by
    have hfront : s.source = ("import ".toList ++ (s.clause ++ (" from ".toList ++ s.opening ::
        (s.package ++ [s.closing])))) ++ s.finish := by simp [source_eq]
    rw [hfront, finish]
    split
    · exact ⟨_, _, rfl, .inl rfl⟩
    · exact ⟨"import ".toList ++ (s.clause ++ (" from ".toList ++ s.opening :: s.package)),
        s.closing, by simp, .inr hs.closing⟩
  obtain ⟨before, h⟩ := hsuffix
  rcases List.eq_nil_or_concat v with rfl | ⟨v, d, rfl⟩
  · exact absurd rfl hv
  rw [hsource, List.concat_eq_append, ← List.append_assoc] at h
  obtain ⟨-, hd⟩ := List.append_inj' h rfl
  exact ⟨d, by simp, (List.cons.inj hd).1 ▸ hc⟩

/-- What begins with an import within a statement holds it and the white space behind it. -/
theorem IsRegular.exists_of_suffix_append (hs : s.IsRegular) {v w R : List Char} (hv : v ≠ [])
    (hsuffix : v <:+ s.source) (hw : IsBlank w) (h : v ++ T = "import".toList ++ (w ++ R)) :
    ∃ k, k ≠ [] ∧ v = "import".toList ++ (w ++ k) ∧ R = k ++ T := by
  obtain ⟨d, hd, hmark⟩ := hs.exists_mem_of_suffix hv hsuffix
  have hnot : d ∉ "import".toList ++ w := by
    have hletters : ∀ c ∈ "import".toList, ¬ (c = ';' ∨ IsQuote c) := by simp [IsQuote]
    intro hmem
    rcases List.mem_append.1 hmem with hmem | hmem
    · exact hletters d hmem hmark
    · rcases hmark with rfl | hquote
      · exact absurd (hw.isBlank _ hmem) (by decide)
      · exact not_isQuote_of_isBlank (hw.isBlank _ hmem) hquote
  rw [← List.append_assoc] at h
  rcases List.append_eq_append_iff.1 h with ⟨k, hk, -⟩ | ⟨k, rfl, hR⟩
  · exact absurd (by rw [hk]; exact List.mem_append_left _ hd) hnot
  · refine ⟨k, ?_, by simp, hR⟩
    rintro rfl
    exact hnot (by simpa using hd)

/-- A proper part of a statement that begins like an import stands behind the first word. -/
theorem exists_append_of_suffix {v k : List Char} (hv : v = "import".toList ++ k)
    (hsuffix : v <:+ s.source) (hne : v ≠ s.source) :
    ∃ b, s.clause ++ (" from ".toList ++ s.opening :: (s.package ++ s.closing :: s.finish)) =
      b ++ v := by
  obtain ⟨before, h⟩ := hsuffix
  cases before with
  | nil => exact absurd h hne
  | cons c before =>
    have hword : "import ".toList = 'i' :: "mport ".toList := rfl
    have hk : v = 'i' :: ("mport".toList ++ k) := hv
    rw [source_eq, hword] at h
    have hrest : "mport ".toList ++ (s.clause ++ (" from ".toList ++ s.opening ::
        (s.package ++ s.closing :: s.finish))) = before ++ 'i' :: ("mport".toList ++ k) := by
      rw [← hk]
      exact (List.cons.inj h).2.symm
    obtain ⟨b, -, hb⟩ := exists_append_of_not_mem (show 'i' ∉ "mport ".toList by decide) hrest
    exact ⟨b, by rw [hb, hk]⟩

/-- No import of names begins within a statement. -/
theorem IsRegular.not_infix_brace (hs : s.IsRegular) {w : List Char} (hw : IsBlank w) :
    ¬ ("import".toList ++ w) ++ ['\x7b'] <:+:
      s.clause ++ (" from ".toList ++ s.opening :: (s.package ++ s.closing :: s.finish)) := by
  have hquote : ∀ c ∈ ("import".toList ++ w) ++ ['\x7b'], ¬ IsQuote c := by
    have hletters : ∀ c ∈ "import".toList, ¬ IsQuote c := by simp [IsQuote]
    have hbrace : ∀ c ∈ ['\x7b'], ¬ IsQuote c := by simp [IsQuote]
    exact List.forall_mem_append.2 ⟨List.forall_mem_append.2
      ⟨hletters, fun c hc => not_isQuote_of_isBlank (hw.isBlank c hc)⟩, hbrace⟩
  intro h
  rw [← List.append_assoc] at h
  rcases infix_append_cons (fun hmem => hquote _ hmem hs.opening) h with h | h
  · refine hs.no_import w hw ?_
    have hclause := infix_of_infix_append_of_last_not_mem (by decide) h
    rwa [List.append_assoc] at hclause
  · rcases infix_append_cons (fun hmem => hquote _ hmem hs.closing) h with h | h
    · obtain ⟨c, hc⟩ := List.exists_mem_of_ne_nil w hw.ne_nil
      exact (hs.package c (h.subset (by simp [hc]))).2 (hw.isBlank c hc)
    · exact absurd (mem_finish (h.subset (List.mem_append_right _ List.mem_cons_self))) (by decide)

/-- **Within a statement** no place is turned if its beginning is not. -/
theorem IsRegular.turn?_eq_none_of_suffix (hs : s.IsRegular) (hx : x ∈ importForms)
    (hnone : x.turn? (s.source ++ T) = none) {v : List Char} (hv : v ≠ [])
    (hsuffix : v <:+ s.source) :
    x.turn? (v ++ T) = none := by
  by_cases hwhole : v = s.source
  · rw [hwhole, hnone]
  rw [Option.eq_none_iff_forall_ne_some]
  rintro ⟨put, after⟩ hturn
  rcases Form.mem_importForms_iff.1 hx with ⟨name, hname, rfl⟩ | hline
  · obtain ⟨-, w, inner, w₁, behind, hw, -, -, -, hrest, -⟩ :=
      Form.exists_of_turn?_namedImport hname hturn
    obtain ⟨k, hk, rfl, hR⟩ := hs.exists_of_suffix_append hv hsuffix hw hrest
    obtain ⟨b, hb⟩ := exists_append_of_suffix rfl hsuffix hwhole
    obtain ⟨d, k, rfl⟩ := List.exists_cons_of_ne_nil hk
    obtain ⟨rfl, -⟩ := List.cons.inj hR
    exact hs.not_infix_brace hw ⟨b, k, by rw [hb]; simp⟩
  · obtain ⟨-, w, line, behind, hw, hline', hrest, hend, -⟩ := hline.exists_of_turn? hturn
    obtain ⟨k, -, rfl, hR⟩ := hs.exists_of_suffix_append hv hsuffix hw hrest
    obtain ⟨b, hb⟩ := exists_append_of_suffix rfl hsuffix hwhole
    have hsource : s.source = "import ".toList ++ (b ++ ("import".toList ++ (w ++ k))) := by
      rw [source_eq, hb]
    have hbefore : '\n' ∉ b ++ ("import".toList ++ w) := fun hmem => hs.not_mem_source <| by
      rw [hsource]
      simp only [List.mem_append] at hmem ⊢
      tauto
    have hrest' : s.source ++ T =
        ("import ".toList ++ ((b ++ ("import".toList ++ w)) ++ line)) ++ behind := by
      rw [hsource]
      simp only [List.append_assoc, hR]
    have hbetween : '\n' ∉ (b ++ ("import".toList ++ w)) ++ line := by
      rw [List.mem_append, not_or]
      exact ⟨hbefore, hline'⟩
    have hsome := isSome_turn?_line hline hbetween hrest' hend
    rw [hnone] at hsome
    exact Bool.noConfusion hsome

/-- A statement is kept if there is no match at its beginning. -/
theorem IsRegular.apply_source_append (hs : s.IsRegular) (hx : x ∈ importForms)
    (hnone : x.turn? (s.source ++ T) = none) : x.apply (s.source ++ T) = s.source ++ x.apply T :=
  Form.apply_append (Form.isSound_of_mem_importForms hx) fun _ hv hsuffix =>
    hs.turn?_eq_none_of_suffix hx hnone hv hsuffix

end ImportStatement

end Restyle
