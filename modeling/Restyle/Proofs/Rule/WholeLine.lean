import Restyle.Proofs.Pattern.Cuts
import Restyle.Proofs.Pattern.Spelling
import Restyle.Proofs.Rule.Hits

/-!
# Rules for whole lines

A pattern that spells out a text between a circumflex and a dollar sign looks for the text as a
whole line. It is found where a line begins that is this text, and nowhere else. A line ends at a
line feed or at the end of the text; other characters do not end one. So a rule with such a pattern
goes through a text line by line: it replaces the lines that are the text, and keeps the others.

## Main results

* `Restyle.Shape.found?_wholeLine` — where a whole line is found.
* `Restyle.Shape.exists_cuts_lines` — how a text is cut if its lines are given.
* `Restyle.Rule.wholeLine_exact` — what a rule for a whole line does to any text.
-/

namespace Restyle

namespace Shape

variable {line l done after : List Char} {ss : List Segment}

theorem isPlain_wholeLine (h : line ≠ []) : (wholeLine line).isPlain := by
  simpa [wholeLine, isPlain] using h

/-! ### Where a whole line is found -/

/-- **A whole line is found** where a line begins with it and ends behind it. -/
theorem found?_wholeLine (prior : List Char → Option Char) (rest : List Char) :
    found? prior (wholeLine line) rest =
      if (prior rest).all (· == '\n') ∧ line <+: rest ∧
          (rest.drop line.length).head?.all (· == '\n')
      then some ⟨rest, line.length, []⟩ else none := by
  have hlength (h : line <+: rest) : rest.length - (rest.drop line.length).length =
      line.length := by
    have hle := h.length_le
    rw [List.length_drop]
    omega
  simp only [found?, wholeLine, way, Anchor.holds, ends, List.isPrefixOf_iff_prefix]
  split_ifs <;> simp_all [Match.along]

theorem charBefore_append (u v : List Char) : charBefore (u ++ v) v = u.getLast? := by
  rw [charBefore, List.length_append, Nat.add_sub_cancel, List.take_left]

/-- The first line of a text is what stands before its first line feed. -/
theorem takeWhile_line (hl : '\n' ∉ l) (hafter : after.head?.all (· == '\n')) :
    (l ++ after).takeWhile (· != '\n') = l := by
  have hnone : after.takeWhile (· != '\n') = [] := by
    cases after with
    | nil => rfl
    | cons c cs => simpa using hafter
  have hall (c : Char) (hc : c ∈ l) : (c != '\n') = true :=
    bne_iff_ne.2 (ne_of_mem_of_not_mem hc hl)
  rw [List.takeWhile_append_of_pos hall, hnone, List.append_nil]

/-- Where a line begins, a whole line is found if that is the line. -/
theorem found?_line (hline : '\n' ∉ line) (hl : '\n' ∉ l) (hdone : done.getLast?.all (· == '\n'))
    (hafter : after.head?.all (· == '\n')) :
    found? (charBefore (done ++ (l ++ after))) (wholeLine line) (l ++ after) =
      if l = line then some ⟨l ++ after, line.length, []⟩ else none := by
  rw [found?_wholeLine, charBefore_append]
  refine if_congr ⟨?_, ?_⟩ rfl rfl
  · rintro ⟨-, ⟨v, hv⟩, hend⟩
    rw [← hv, List.drop_left] at hend
    rw [← takeWhile_line hl hafter, ← hv, takeWhile_line hline hend]
  · rintro rfl
    exact ⟨hdone, List.prefix_append _ _, by rwa [List.drop_left]⟩

/-- Inside a line, a whole line is not found. -/
theorem found?_inside (h : ¬ done.getLast?.all (· == '\n')) (line rest : List Char) :
    found? (charBefore (done ++ rest)) (wholeLine line) rest = none := by
  rw [found?_wholeLine, charBefore_append, if_neg fun hfound => h hfound.1]

/-- A whole line is not found where a line ends, unless it is empty. -/
theorem found?_line_feed (prior : List Char → Option Char) (hne : line ≠ []) (hline : '\n' ∉ line)
    (rest : List Char) : found? prior (wholeLine line) ('\n' :: rest) = none := by
  rw [found?_wholeLine, if_neg]
  rintro ⟨-, hstart, -⟩
  obtain ⟨c, cs, rfl⟩ := List.exists_cons_of_ne_nil hne
  exact hline ((List.cons_prefix_cons.1 hstart).1 ▸ List.mem_cons_self)

/-! ### Cutting a text line by line -/

/-- How a line is cut off: it is found as a whole, or its characters are kept. -/
theorem exists_cuts_line (hne : line ≠ []) (hline : '\n' ∉ line) (hl : '\n' ∉ l)
    (hdone : done.getLast?.all (· == '\n')) (hafter : after.head?.all (· == '\n'))
    (later : Cuts (found? (charBefore (done ++ (l ++ after))) (wholeLine line)) after ss) :
    ∃ first, Cuts (found? (charBefore (done ++ (l ++ after))) (wholeLine line)) (l ++ after)
        (first ++ ss) ∧
      (∀ new, first.flatMap (·.replaced fun _ => new) = if l = line then new else l) ∧
      first.countP (·.match?.isSome) = if l = line then 1 else 0 := by
  have hfound := found?_line hline hl hdone hafter
  split_ifs at hfound ⊢ with heq
  · subst heq
    exact ⟨[.found ⟨l ++ after, l.length, []⟩], .found hfound hne List.take_left later, by
      simp [Segment.replaced], rfl⟩
  · refine ⟨l.map .kept, later.map_kept_append fun c cs hsuffix => ?_, fun new => ?_, ?_⟩
    · obtain ⟨u, rfl⟩ := hsuffix
      cases u using List.reverseRecOn with
      | nil => exact hfound
      | append_singleton u d =>
        have hd : d ≠ '\n' := by
          rintro rfl
          simp at hl
        have hlast : ¬ (done ++ (u ++ [d])).getLast?.all (· == '\n') := by
          simpa [List.getLast?_append] using hd
        simpa using found?_inside hlast line (c :: cs ++ after)
    · rw [List.flatMap_map]
      exact List.flatMap_singleton' l
    · rw [List.countP_map]
      exact List.countP_eq_zero.2 fun _ _ => Bool.false_ne_true

/-- **A text is cut line by line**: each line that is the text looked for is found as a whole, and
everything else is kept. -/
theorem exists_cuts_lines (hne : line ≠ []) (hline : '\n' ∉ line) :
    ∀ {lines : List (List Char)}, lines ≠ [] → (∀ l ∈ lines, '\n' ∉ l) →
      ∀ done : List Char, done.getLast?.all (· == '\n') → ∃ ss,
        Cuts (found? (charBefore (done ++ ['\n'].intercalate lines)) (wholeLine line))
          (['\n'].intercalate lines) ss ∧
        (∀ new, ss.flatMap (·.replaced fun _ => new) =
          ['\n'].intercalate (lines.map fun l => if l = line then new else l)) ∧
        ss.countP (·.match?.isSome) = lines.count line
  | [], h, _, _, _ => absurd rfl h
  | [l], _, hlines, done, hdone => by
    have hl := hlines l List.mem_cons_self
    obtain ⟨first, hcuts, htext, hcount⟩ := exists_cuts_line hne hline hl hdone
      (show ([] : List Char).head?.all (· == '\n') from rfl) .nil
    rw [List.append_nil, List.append_nil] at hcuts
    rw [List.intercalate_singleton, List.count_singleton]
    refine ⟨first, hcuts, fun new => ?_, ?_⟩
    · rw [htext, List.map_singleton, List.intercalate_singleton]
    · simpa using hcount
  | l :: l' :: lines, _, hlines, done, hdone => by
    obtain ⟨hl, hlines⟩ := List.forall_mem_cons.1 hlines
    -- what is below the line is cut behind the line feed
    obtain ⟨ss, hcuts, htext, hcount⟩ := exists_cuts_lines hne hline (List.cons_ne_nil l' lines)
      hlines (done ++ (l ++ ['\n'])) (by simp)
    have hsplit : done ++ (l ++ ['\n']) ++ ['\n'].intercalate (l' :: lines) =
        done ++ (l ++ '\n' :: ['\n'].intercalate (l' :: lines)) := by simp
    rw [hsplit] at hcuts
    obtain ⟨first, hfirst, htext', hcount'⟩ := exists_cuts_line hne hline hl hdone rfl
      (.kept (found?_line_feed _ hne hline _) hcuts)
    rw [List.intercalate_cons_cons, List.append_assoc, List.singleton_append]
    refine ⟨first ++ .kept '\n' :: ss, hfirst, fun new => ?_, ?_⟩
    · rw [List.flatMap_append, htext', List.flatMap_cons, htext]
      simp only [List.map_cons, List.intercalate_cons_cons, List.append_assoc, Segment.replaced]
    · rw [List.countP_append, hcount', List.countP_cons_of_neg Bool.false_ne_true, hcount,
        List.count_cons (l := l' :: lines), Nat.add_comm]
      simp

/-- No line of a text has a line feed in it. -/
theorem not_mem_of_mem_splitOn : ∀ {text : List Char}, ∀ l ∈ text.splitOn '\n', '\n' ∉ l
  | [], l, hl => by
    obtain rfl : l = [] := by simpa using hl
    exact List.not_mem_nil
  | c :: cs, l, hl => by
    obtain ⟨first, lines, hsplit⟩ := List.exists_cons_of_ne_nil (List.splitOn_ne_nil '\n' cs)
    have ih : ∀ l ∈ first :: lines, '\n' ∉ l := hsplit ▸ not_mem_of_mem_splitOn
    rw [List.splitOn_cons_eq_if_modifyHead, hsplit] at hl
    split_ifs at hl with hc
    · rcases List.mem_cons.1 hl with rfl | hl
      · exact List.not_mem_nil
      · exact ih l hl
    · rcases List.mem_cons.1 hl with rfl | hl
      · exact List.not_mem_cons_of_ne_of_not_mem (fun h => hc (by simp [← h]))
          (ih first List.mem_cons_self)
      · exact ih l (List.mem_cons_of_mem _ hl)

variable (hne : line ≠ []) (hline : '\n' ∉ line) (text : List Char)

include hne hline

/-- The segments of a text, line by line. -/
theorem segments_wholeLine :
    (∀ new, ((wholeLine line).segments text).flatMap (·.replaced fun _ => new) =
      ['\n'].intercalate ((text.splitOn '\n').map fun l => if l = line then new else l)) ∧
    ((wholeLine line).segments text).countP (·.match?.isSome) = (text.splitOn '\n').count line := by
  obtain ⟨ss, hcuts, htext, hcount⟩ := exists_cuts_lines hne hline
    (List.splitOn_ne_nil '\n' text) not_mem_of_mem_splitOn [] rfl
  rw [List.nil_append, List.intercalate_splitOn] at hcuts
  rw [(cuts_segments (isPlain_wholeLine hne) rfl text).unique hcuts]
  exact ⟨htext, hcount⟩

end Shape

/-! ### Rules for whole lines -/

/-- A character of a plain phrase: an ASCII letter or digit, a space or a semicolon. -/
def IsPhraseChar (c : Char) : Prop := c.isAlphanum ∨ c = ' ' ∨ c = ';'

instance (c : Char) : Decidable (IsPhraseChar c) :=
  inferInstanceAs (Decidable (c.isAlphanum ∨ c = ' ' ∨ c = ';'))

theorem IsPhraseChar.isOrdinary {c : Char} (h : IsPhraseChar c) : IsOrdinary c := by
  have hspecial : ∀ c ∈ specialChars, ¬ IsPhraseChar c := by decide
  exact fun hc => hspecial c hc h

theorem IsPhraseChar.utf8Size_eq {c : Char} (h : IsPhraseChar c) : c.utf8Size = 1 := by
  rw [Char.utf8Size_eq_one_iff]
  rcases h with h | rfl | rfl
  · simp only [Char.isAlphanum, Char.isAlpha, Char.isUpper, Char.isLower, Char.isDigit,
      Bool.or_eq_true, Bool.and_eq_true, decide_eq_true_eq, UInt32.le_iff_toNat_le] at h ⊢
    simp at h ⊢
    omega
  · decide
  · decide

namespace Rule

variable {line replacement : String}

/-- The rule that a text between the two anchors and a replacement write. -/
theorem readWithin_wholeLine (tooLarge : SizeCheck) (category : Category) (replacement : String)
    (hne : line ≠ "") (hline : ∀ c ∈ line.toList, IsOrdinary c) :
    readWithin tooLarge category ("^" ++ line ++ "$") replacement =
      if tooLarge (.wholeLine line.toList) then .error ⟨"^" ++ line ++ "$", .tooLarge⟩
      else .ok ⟨category, "^" ++ line ++ "$", replacement, ⟨.wholeLine line.toList, []⟩,
        .read replacement.toList⟩ := by
  have hsource : ("^" ++ line ++ "$").toList = '^' :: (line.toList ++ ['$']) := by
    simp
  rw [readWithin, hsource, Pattern.readWithin_wholeLine tooLarge (by simpa using hne) hline]
  split_ifs <;> rfl

/-- **A rule for a whole line** replaces the lines that are this line, and keeps the others. -/
theorem apply_wholeLine {r : Rule} (hshape : r.pattern.shape = .wholeLine line.toList)
    (hr : r.IsWritten) (hdollar : '$' ∉ r.replacement.toList) (hne : line.toList ≠ [])
    (hfeed : '\n' ∉ line.toList) (text : List Char) :
    r.apply text = ['\n'].intercalate ((text.splitOn '\n').map fun l =>
      if l = line.toList then r.replacement.toList else l) := by
  rw [← r.applyPlainly_eq_apply hr, applyPlainly, if_neg hdollar, Shape.replaceAll, hshape]
  exact (Shape.segments_wholeLine hne hfeed text).1 r.replacement.toList

/-- A rule for a whole line has a match for each line that is this line. -/
theorem hits_wholeLine {r : Rule} (hshape : r.pattern.shape = .wholeLine line.toList)
    (hne : line.toList ≠ []) (hfeed : '\n' ∉ line.toList) (text : List Char) :
    r.hits text = (text.splitOn '\n').count line.toList := by
  rw [hits, segments, hshape]
  exact (Shape.segments_wholeLine hne hfeed text).2

/-- **What a rule for a whole line does.** The line is any text of ASCII letters and digits, spaces
and semicolons that is not empty, and the replacement any text without a dollar sign. Whatever size
check there is, the rule can be read if the check lets the line pass. Then it goes through every
text line by line, where a line ends at a line feed and nowhere else: it replaces the lines that are
this line, and keeps all other characters. Whatever rules it stands among, it is reported exactly if
there is such a line in the text that the rules before it have made, and the number of such lines is
reported. If the check does not let the line pass, the pattern is refused for its size. -/
theorem wholeLine_exact (tooLarge : SizeCheck) (category : Category) (hne : line ≠ "")
    (hline : ∀ c ∈ line.toList, IsPhraseChar c) (hdollar : '$' ∉ replacement.toList) :
    (tooLarge (.wholeLine line.toList) = false → ∃ rule,
      readWithin tooLarge category ("^" ++ line ++ "$") replacement = .ok rule ∧
      (∀ text : List Char, rule.apply text = ['\n'].intercalate ((text.splitOn '\n').map fun l =>
        if l = line.toList then replacement.toList else l)) ∧
      ∀ (rs : RuleSet) (i : Nat), rs[i]? = some rule → ∀ (text : String) (hit : Hit),
        let lines := (RuleSet.applyChars (rs.take i) text.toList).splitOn '\n'
        hit ∈ (rs.report text).2 ∧ hit.index = i ↔
          lines.count line.toList ≠ 0 ∧ hit = ⟨i, category, lines.count line.toList⟩) ∧
    (tooLarge (.wholeLine line.toList) = true →
      readWithin tooLarge category ("^" ++ line ++ "$") replacement =
        .error ⟨"^" ++ line ++ "$", .tooLarge⟩) := by
  have hread := readWithin_wholeLine tooLarge category replacement hne
    fun c hc => (hline c hc).isOrdinary
  have hne' : line.toList ≠ [] := by simpa using hne
  have hfeed : '\n' ∉ line.toList := fun hmem => absurd (hline _ hmem) (by decide)
  refine ⟨fun hpasses => ?_, fun hlarge => ?_⟩
  · rw [hpasses, if_neg Bool.false_ne_true] at hread
    refine ⟨_, hread, apply_wholeLine rfl rfl hdollar hne' hfeed, fun rs i hi text hit => ?_⟩
    rw [RuleSet.mem_report_and_index_iff hi, hits_wholeLine rfl hne' hfeed]
  · rwa [if_pos hlarge] at hread

/-- Imports, of which one is behind a space and one is before a carriage return. -/
def nearImports : String := "import x;\nimport x;\n import x;\nimport x;\r\nimport x;"

/-- A line with a space at its beginning, or a carriage return at its end, is another line. -/
theorem wholeLine_exact_nearImports :
    ("import x;" ≠ "" ∧ (∀ c ∈ "import x;".toList, IsPhraseChar c) ∧ '$' ∉ "let x;".toList ∧
      Shape.isTooHeavy (.wholeLine "import x;".toList) = false) ∧
    ∃ rule, read .importElision "^import x;$" "let x;" = .ok rule ∧
      rule.apply nearImports.toList =
        "let x;\nlet x;\n import x;\nimport x;\r\nlet x;".toList ∧
      ⟨0, .importElision, 3⟩ ∈ (RuleSet.report [rule] nearImports).2 := by
  refine ⟨by decide, ?_⟩
  obtain ⟨rule, hread, happly, hreport⟩ :=
    (@wholeLine_exact "import x;" "let x;" Shape.isTooHeavy .importElision (by decide) (by decide)
      (by decide)).1 (by decide)
  have hcount : ((RuleSet.applyChars (List.take 0 [rule]) nearImports.toList).splitOn '\n').count
      "import x;".toList = 3 := by
    change (nearImports.toList.splitOn '\n').count "import x;".toList = 3
    decide +kernel
  refine ⟨rule, hread, (happly _).trans (by decide +kernel), ?_⟩
  exact ((hreport [rule] 0 rfl nearImports ⟨0, .importElision, 3⟩).2
    ⟨by rw [hcount]; decide, by rw [hcount]⟩).1

/-- A line of equal letters. -/
def monotone (length : Nat) : String := .ofList (List.replicate length 'a')

theorem isPhraseChar_of_mem_monotone {length : Nat} {c : Char}
    (h : c ∈ (monotone length).toList) : IsPhraseChar c := by
  rw [monotone, String.toList_ofList] at h
  obtain rfl := List.eq_of_mem_replicate h
  decide

theorem monotone_ne_empty {length : Nat} (h : length ≠ 0) : monotone length ≠ "" := by
  simpa [monotone] using h

/-- **Not every line can be read.** A line of 330000 letters is too heavy. Whatever the size check
is, as long as it keeps a limit of ten mebibytes, there is a line that does not pass. -/
theorem not_forall_isOk_read_wholeLine :
    (monotone 330000 ≠ "" ∧ (∀ c ∈ (monotone 330000).toList, IsPhraseChar c) ∧
      ¬ (read .retag ("^" ++ monotone 330000 ++ "$") "r").isOk) ∧
    ∀ tooLarge : SizeCheck, tooLarge.KeepsLimit →
      ¬ ∀ (category : Category) (line replacement : String), line ≠ "" →
        (∀ c ∈ line.toList, IsPhraseChar c) → '$' ∉ replacement.toList →
          (readWithin tooLarge category ("^" ++ line ++ "$") replacement).isOk := by
  have hrefused (tooLarge : SizeCheck) {length : Nat} (hlength : length ≠ 0)
      (hlarge : tooLarge (.wholeLine (monotone length).toList)) :
      ¬ (readWithin tooLarge .retag ("^" ++ monotone length ++ "$") "r").isOk := by
    rw [readWithin_wholeLine tooLarge .retag "r" (monotone_ne_empty hlength)
      fun c hc => (isPhraseChar_of_mem_monotone hc).isOrdinary, if_pos hlarge]
    exact Bool.false_ne_true
  refine ⟨⟨monotone_ne_empty (by decide), fun c => isPhraseChar_of_mem_monotone,
    hrefused _ (by decide) ?_⟩, fun tooLarge hlimit hall => ?_⟩
  · rw [Shape.isTooHeavy_wholeLine_iff fun c hc => (isPhraseChar_of_mem_monotone hc).utf8Size_eq,
      String.length_toList, monotone, String.length_ofList, List.length_replicate]
    decide
  · have hsize : (((monotone (Shape.weightLimit + 1)).toList).map Char.utf8Size).sum =
        Shape.weightLimit + 1 := by
      rw [List.map_congr_left fun c hc => (isPhraseChar_of_mem_monotone hc).utf8Size_eq]
      simp [monotone]
    have hlarge := hlimit (.anchor .lineStart) (.anchor .lineEnd)
      (monotone (Shape.weightLimit + 1)).toList (by omega)
    exact hrefused tooLarge (Nat.succ_ne_zero _) hlarge (hall .retag _ "r"
      (monotone_ne_empty (Nat.succ_ne_zero _)) (fun c => isPhraseChar_of_mem_monotone) (by decide))

end Rule

end Restyle
