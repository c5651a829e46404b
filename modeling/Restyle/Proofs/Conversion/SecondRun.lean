import Restyle.Proofs.Conversion.Sections
import Restyle.Proofs.Conversion.Settled
import Restyle.Proofs.Rule.SecondConversion

/-!
# Running a second time

With rules that change nothing when they are applied again, a second run has nothing to do. It finds
the same files, since a run adds backups only, and for none of them there is anything to write. It
fails for the files that the first run has not settled, and these are the ones whose last report was
an error.

A file may be reached under several paths. Its last report counts under whichever path it came,
since a path may be too long for that of its backup while another path to the same file is not. A
path whose backup has a path that may be used is not concerned, and its own last report counts.

## Main definitions

* `Restyle.Stage.reports`, `Restyle.lastReport?` — what is reported, and the last of it about some
  paths.
* `Restyle.FileTree.foundFrom` — the files that a run finds.

## Main results

* `Restyle.RuleSet.runFrom_eq_convertAll` — a run converts the files it finds at the beginning.
* `Restyle.RuleSet.isIdle_convertAll` — there is nothing left to write for them.
* `Restyle.RuleSet.isError_lastReport_iff` — the last report tells which files are settled.
* `Restyle.RuleSet.second_run` — what a second run does.
* `Restyle.RuleSet.not_forall_last_report_of_path` — the last report about a path is not enough.
-/

namespace Restyle

/-- The outcome that an observer is told, if it is that. -/
def Event.result? : Event → Option ConversionResult
  | finished r => some r
  | _ => none

/-- The outcomes that are reported in a stage. -/
def Stage.reports {α : Type} (s : Stage α) : List ConversionResult :=
  s.events.filterMap Event.result?

/-- The last report about some paths. -/
def lastReport? (about : Path → Bool) (results : List ConversionResult) : Option ConversionResult :=
  (results.filter fun r => about r.path).getLast?

theorem exists_append_of_lastReport? {about : Path → Bool} {results : List ConversionResult}
    {r : ConversionResult} (h : lastReport? about results = some r) :
    ∃ before after, results = before ++ r :: after ∧ about r.path ∧
      ∀ r' ∈ after, ¬ about r'.path := by
  obtain ⟨kept, hkept⟩ := List.getLast?_eq_some_iff.1 h
  obtain ⟨before, rest, rfl, -, hrest⟩ := List.filter_eq_append_iff.1 hkept
  obtain ⟨skipped, after, rfl, -, habout, hafter⟩ := List.filter_eq_cons_iff.1 hrest
  exact ⟨before ++ skipped, after, by rw [List.append_assoc], habout,
    fun r' hr' => by simpa using List.filter_eq_nil_iff.1 hafter r' hr'⟩

theorem lastReport?_pair {about : Path → Bool} {r r' : ConversionResult} (h : about r.path)
    (h' : about r'.path = false) : lastReport? about [r, r'] = some r := by
  simp [lastReport?, h, h']

theorem isSome_lastReport? (about : Path → Bool) {results : List ConversionResult}
    (h : ∃ r ∈ results, about r.path) : (lastReport? about results).isSome := by
  obtain ⟨r, hr, habout⟩ := h
  rw [Option.isSome_iff_ne_none, lastReport?, Ne, List.getLast?_eq_none_iff]
  exact List.ne_nil_of_mem (List.mem_filter.2 ⟨hr, habout⟩)

open FileTree

namespace FileTree

variable {t u : FileTree}

/-- The source files below a directory, if it is one. -/
def sourcesIn (t : FileTree) (dir : Path) : List Path :=
  if t.isDirectory dir then t.discover dir else []

/-- The source files below some roots. -/
def foundFrom (t : FileTree) (roots : List SourceRoot) : List Path :=
  roots.flatMap fun root => t.sourcesIn root.dir

theorem exists_foundAt_of_mem_sourcesIn (ht : t.IsSound) (hlink : t.LinkFree) {dir : Path} :
    ∀ p ∈ t.sourcesIn dir, ∃ d n, t.FoundAt p d n := by
  rw [sourcesIn]
  split
  · next hdir => exact exists_foundAt ht hlink hdir
  · simp

theorem exists_foundAt_of_mem_foundFrom (ht : t.IsSound) (hlink : t.LinkFree)
    (roots : List SourceRoot) : ∀ p ∈ t.foundFrom roots, ∃ d n, t.FoundAt p d n := by
  intro p hp
  obtain ⟨root, -, hp⟩ := List.mem_flatMap.1 hp
  exact exists_foundAt_of_mem_sourcesIn ht hlink p hp

/-- **The same files are found** after conversions. -/
theorem Preserves.foundFrom_eq (h : Preserves t u) (ht : t.IsSound) (hlink : t.LinkFree)
    (roots : List SourceRoot) : u.foundFrom roots = t.foundFrom roots := by
  refine List.flatMap_congr fun root _ => ?_
  rw [sourcesIn, sourcesIn, h.toSameFrame.isDirectory_eq hlink (h.linkFree hlink)]
  split
  · next hdir =>
    exact h.sameSources.discover_eq_of_isDirectory ht (h.isSound ht) hlink (h.linkFree hlink) hdir
  · rfl

end FileTree

namespace RuleSet

variable {rs : RuleSet} {t : FileTree} {p : Path} {d : Location} {n : Name} {ps : List Path}

/-! ### Runs as batches -/

theorem reports_convertAll (rs : RuleSet) (t : FileTree) (ps : List Path) :
    (rs.convertAll t ps).reports = (rs.convertAll t ps).result := by
  rw [Stage.reports, events_convertAll, List.filterMap_flatMap]
  exact List.flatMap_singleton' _

theorem map_path_convertAll (rs : RuleSet) (t : FileTree) (ps : List Path) :
    (rs.convertAll t ps).result.map (·.path) = ps := (rs.conversions_convertAll t ps).map_path

theorem convertAll_append (rs : RuleSet) : ∀ (t : FileTree) (ps qs : List Path),
    rs.convertAll t (ps ++ qs) =
      ⟨(rs.convertAll t ps).result ++ (rs.convertAll (rs.convertAll t ps).tree qs).result,
        (rs.convertAll (rs.convertAll t ps).tree qs).tree,
        (rs.convertAll t ps).trace ++ (rs.convertAll (rs.convertAll t ps).tree qs).trace⟩
  | _, [], _ => rfl
  | t, p :: ps, qs => by
    simp only [List.cons_append, convertAll, convertAll_append rs (rs.convert t p).tree ps qs,
      List.append_assoc]

theorem convertDirectory_eq (rs : RuleSet) (t : FileTree) (dir : Path) :
    (rs.convertDirectory t dir).tree = (rs.convertAll t (t.sourcesIn dir)).tree ∧
      (rs.convertDirectory t dir).reports = (rs.convertAll t (t.sourcesIn dir)).result ∧
      (rs.convertDirectory t dir).result =
        (rs.convertAll t (t.sourcesIn dir)).result.countP (·.wasModified) := by
  by_cases hdir : t.isDirectory dir
  · obtain ⟨hevents, hcount, htree⟩ := rs.convertDirectory_of_isDirectory hdir
    rw [sourcesIn, if_pos hdir]
    exact ⟨htree, by rw [Stage.reports, hevents, ← Stage.reports, reports_convertAll], hcount⟩
  · rw [convertDirectory, sourcesIn, if_neg hdir, if_neg hdir]
    exact ⟨rfl, rfl, rfl⟩

/-- **A run converts the files that it finds at the beginning**, in the order of the roots. -/
theorem runFrom_eq_convertAll (rs : RuleSet) : ∀ (roots : List SourceRoot) (s : Summary)
    {t : FileTree}, t.IsSound → t.LinkFree →
      (rs.runFrom s t roots).tree = (rs.convertAll t (t.foundFrom roots)).tree ∧
        (rs.runFrom s t roots).reports = (rs.convertAll t (t.foundFrom roots)).result ∧
        (rs.runFrom s t roots).result.total =
          s.total + .ofNat ((rs.convertAll t (t.foundFrom roots)).result.countP (·.wasModified))
  | [], s, _, _, _ => ⟨rfl, rfl, (UInt64.add_zero s.total).symm⟩
  | root :: roots, s, t, ht, hlink => by
    obtain ⟨htree, hreports, hcount⟩ := rs.convertDirectory_eq t root.dir
    have hpreserves := (rs.progress_convertDirectory ht hlink root.dir).preserves
    obtain ⟨htree', hreports', htotal'⟩ := rs.runFrom_eq_convertAll roots
      (s.record root.label (.ofNat (rs.convertDirectory t root.dir).result)) (hpreserves.isSound ht)
      (hpreserves.linkFree hlink)
    rw [hpreserves.foundFrom_eq ht hlink, htree] at htree' hreports' htotal'
    have hfound : t.foundFrom (root :: roots) = t.sourcesIn root.dir ++ t.foundFrom roots := rfl
    rw [hfound, convertAll_append]
    refine ⟨by rw [← htree', runFrom, htree], ?_, ?_⟩
    · rw [← hreports, ← hreports', runFrom]
      simp only [Stage.reports, Stage.events, List.cons_append, List.filterMap_cons,
        List.filterMap_append, Happening.event?, Event.result?, htree]
    · rw [runFrom]
      simp only [htree] at htotal' ⊢
      rw [htotal', Summary.total_record, hcount, List.countP_append, UInt64.ofNat_add,
        UInt64.add_assoc]

theorem run_eq_convertAll (rs : RuleSet) (ht : t.IsSound) (hlink : t.LinkFree)
    (roots : List SourceRoot) :
    (rs.run t roots).tree = (rs.convertAll t (t.foundFrom roots)).tree ∧
      (rs.run t roots).reports = (rs.convertAll t (t.foundFrom roots)).result ∧
      (rs.run t roots).result.total =
        .ofNat ((rs.convertAll t (t.foundFrom roots)).result.countP (·.wasModified)) := by
  have h := rs.runFrom_eq_convertAll roots .empty ht hlink
  rwa [show Summary.empty.total = 0 from rfl, UInt64.zero_add] at h

/-! ### After a batch -/

/-- **A batch leaves nothing to write** for its files. -/
theorem isIdle_convertAll (hrules : ∀ text, rs.apply (rs.apply text) = rs.apply text) :
    ∀ {ps : List Path} {t : FileTree}, (∀ q ∈ ps, ∃ d n, t.FoundAt q d n) → t.LinkFree →
      t.FoundAt p d n → p ∈ ps ∨ rs.IsIdle t p → rs.IsIdle (rs.convertAll t ps).tree p
  | [], _, _, _, _, h => h.resolve_left List.not_mem_nil
  | q :: ps, t, hfound, hlink, hp, h => by
    obtain ⟨⟨d', n', hq⟩, hfound⟩ := List.forall_mem_cons.1 hfound
    have hpreserves := (rs.progress_convert hq hlink).preserves
    refine isIdle_convertAll hrules (t := (rs.convert t q).tree)
      (fun q' hq' => let ⟨d, n, hq'⟩ := hfound q' hq'; ⟨d, n, hq'.of_preserves hpreserves⟩)
      (hpreserves.linkFree hlink) (hp.of_preserves hpreserves) ?_
    rcases h with h | h
    · rcases List.mem_cons.1 h with rfl | h
      · exact .inr (isIdle_convert hrules hp hq hlink (.inl rfl))
      · exact .inl h
    · exact .inr (isIdle_convert hrules hp hq hlink (.inr h))

/-- A batch for which there is nothing to write leaves the tree as it is. -/
theorem convertAll_of_isIdle : ∀ {ps : List Path},
    (∀ p ∈ ps, ∃ d n, t.FoundAt p d n) → t.LinkFree → (∀ p ∈ ps, rs.IsIdle t p) →
      (rs.convertAll t ps).tree = t ∧
        (rs.convertAll t ps).result = ps.map fun p => (rs.convert t p).result
  | [], _, _, _ => ⟨rfl, rfl⟩
  | p :: ps, hfound, hlink, hidle => by
    obtain ⟨⟨d, n, hp⟩, hfound⟩ := List.forall_mem_cons.1 hfound
    obtain ⟨hfirst, hidle⟩ := List.forall_mem_cons.1 hidle
    obtain ⟨htree, hresult⟩ := convertAll_of_isIdle hfound hlink hidle
    rw [convertAll, (hfirst.tree_eq hp hlink).1]
    exact ⟨htree, congrArg ((rs.convert t p).result :: ·) hresult⟩

/-- Whether a file is settled does not change by the conversion of other files, nor once there is
nothing to write for it under a path whose backup has a path that may be used. -/
theorem settles_convertAll_iff (hrules : ∀ text, rs.apply (rs.apply text) = rs.apply text) :
    ∀ {ps : List Path} {t : FileTree}, (∀ q ∈ ps, ∃ d n, t.FoundAt q d n) → t.LinkFree →
      t.FoundAt p d n →
      (∀ q ∈ ps, t.location? q ≠ t.location? p) ∨
        rs.IsIdle t p ∧ (∀ b ∈ p.backup?, usable b = .ok ()) →
      (rs.Settles (rs.convertAll t ps).tree (n :: d) ↔ rs.Settles t (n :: d))
  | [], _, _, _, _, _ => Iff.rfl
  | q :: ps, t, hfound, hlink, hp, h => by
    obtain ⟨⟨d', n', hq⟩, hfound⟩ := List.forall_mem_cons.1 hfound
    have hpreserves := (rs.progress_convert hq hlink).preserves
    refine (settles_convertAll_iff hrules (t := (rs.convert t q).tree)
      (fun q' hq' => let ⟨d, n, hq'⟩ := hfound q' hq'; ⟨d, n, hq'.of_preserves hpreserves⟩)
      (hpreserves.linkFree hlink) (hp.of_preserves hpreserves) ?_).trans
        (settles_convert_iff hp hq hlink ?_)
    · refine h.imp (fun h q' hq' => ?_) fun ⟨hidle, hbackup⟩ =>
        ⟨isIdle_convert hrules hp hq hlink (.inr hidle), hbackup⟩
      obtain ⟨d'', n'', hq''⟩ := hfound q' hq'
      rw [hq''.location?_of_preserves hlink hpreserves, hp.location?_of_preserves hlink hpreserves]
      exact h q' (List.mem_cons_of_mem q hq')
    · refine h.imp (fun h => ?_) id
      have hne := h q List.mem_cons_self
      rwa [hq.location?_eq hlink, hp.location?_eq hlink, Ne, Option.some.injEq] at hne

/-! ### Last reports -/

/-- A report of a batch is made when the files before have been converted. -/
theorem exists_append_of_result_eq {r : ConversionResult} {after : List ConversionResult} :
    ∀ {before : List ConversionResult} {ps : List Path} {t : FileTree},
      (rs.convertAll t ps).result = before ++ r :: after →
        ∃ ps₁, ps = ps₁ ++ r.path :: after.map (·.path) ∧
          r = (rs.convert (rs.convertAll t ps₁).tree r.path).result
  | [], [], _, h | _ :: _, [], _, h => nomatch h
  | [], p :: ps, t, h => by
    obtain ⟨rfl, hafter⟩ := List.cons.inj h
    rw [path_convert]
    refine ⟨[], ?_, rfl⟩
    rw [← hafter, map_path_convertAll]
    rfl
  | r' :: before, p :: ps, t, h => by
    obtain ⟨ps₁, rfl, hr⟩ := exists_append_of_result_eq (List.cons.inj h).2
    exact ⟨p :: ps₁, rfl, hr⟩

/-- **The last report tells which files are settled.** It may be the last one about a file, under
any path, or the last one about a path whose backup has a path that may be used. -/
theorem isError_lastReport_iff (hrules : ∀ text, rs.apply (rs.apply text) = rs.apply text)
    (hfound : ∀ q ∈ ps, ∃ d n, t.FoundAt q d n) (hlink : t.LinkFree) (hp : t.FoundAt p d n)
    {about : Path → Bool} (habout : ∀ q, about q → t.location? q = t.location? p)
    (hother : (∀ q, t.location? q = t.location? p → about q) ∨
      (∀ q, about q → q = p) ∧ ∀ b ∈ p.backup?, usable b = .ok ())
    {r : ConversionResult} (h : lastReport? about (rs.convertAll t ps).result = some r) :
    r.isError ↔ ¬ rs.Settles (rs.convertAll t ps).tree (n :: d) := by
  obtain ⟨before, after, hresult, hr, hafter⟩ := exists_append_of_lastReport? h
  obtain ⟨ps₁, hps, hreport⟩ := exists_append_of_result_eq hresult
  generalize hq : r.path = q at *
  generalize hps₂ : after.map (·.path) = ps₂ at *
  subst hps
  obtain ⟨hfound₁, hfound₂⟩ := List.forall_mem_append.1 hfound
  obtain ⟨⟨d', n', hq'⟩, hfound₂⟩ := List.forall_mem_cons.1 hfound₂
  -- the file is at the same place when the report is made
  have hfirst := (rs.progress_convertAll hfound₁ hlink).preserves
  have hlink₁ := hfirst.linkFree hlink
  have hsame := habout q hr
  rw [hq'.location?_eq hlink, hp.location?_eq hlink] at hsame
  obtain ⟨rfl, rfl⟩ := List.cons.inj (Option.some.inj hsame)
  have hq₁ := hq'.of_preserves hfirst
  have hlast := (rs.progress_convert hq₁ hlink₁).preserves
  have hp₁ := hp.of_preserves hfirst
  -- and it is settled at the end if it is then
  rw [convertAll_append, convertAll, hreport, isError_convert_iff hrules hq₁ hlink₁, not_iff_not]
  have hfoundLater : ∀ q' ∈ ps₂, ∃ d n,
      (rs.convert (rs.convertAll t ps₁).tree q).tree.FoundAt q' d n := by
    intro q' hmem
    obtain ⟨d, n, hq'⟩ := hfound₂ q' hmem
    exact ⟨d, n, (hq'.of_preserves hfirst).of_preserves hlast⟩
  refine (settles_convertAll_iff hrules hfoundLater (hlast.linkFree hlink₁)
    (hp₁.of_preserves hlast) ?_).symm
  refine hother.imp (fun hall q' hmem hsame => ?_) fun hunique => ?_
  · obtain ⟨r', hr', rfl⟩ := List.mem_map.1 (hps₂ ▸ hmem)
    obtain ⟨d, n, hq'⟩ := hfound₂ _ hmem
    rw [(hq'.of_preserves hfirst).location?_of_preserves hlink₁ hlast,
      hp₁.location?_of_preserves hlink₁ hlast, hq'.location?_of_preserves hlink hfirst,
      hp.location?_of_preserves hlink hfirst] at hsame
    exact hafter r' hr' (hall _ hsame)
  · obtain ⟨hunique, hbackup⟩ := hunique
    obtain rfl := hunique q hr
    exact ⟨isIdle_convert hrules hp₁ hq₁ hlink₁ (.inl rfl), hbackup⟩

/-- **A second run** finds nothing to write. It fails for the files that are not settled. -/
theorem run_again (hrules : ∀ text, rs.apply (rs.apply text) = rs.apply text) (ht : t.IsSound)
    (hlink : t.LinkFree) (roots : List SourceRoot) :
    let first := rs.run t roots
    let second := rs.run first.tree roots
    second.result.total = 0 ∧ (∀ r ∈ second.reports, r.wasModified = false) ∧
      second.tree = first.tree ∧
      second.reports = ((t.foundFrom roots).map fun p => (rs.convert first.tree p).result) ∧
      ∀ p ∈ t.foundFrom roots, ∀ {d : Location} {n : Name}, t.FoundAt p d n →
        ((rs.convert first.tree p).result.isError ↔ ¬ rs.Settles first.tree (n :: d)) := by
  intro first second
  have hpreserves := (rs.progress_run ht hlink roots).preserves
  have hlink₁ := hpreserves.linkFree hlink
  obtain ⟨htree₂, hreports₂, htotal₂⟩ := rs.run_eq_convertAll (hpreserves.isSound ht) hlink₁ roots
  rw [hpreserves.foundFrom_eq ht hlink] at htree₂ hreports₂ htotal₂
  have hfound := exists_foundAt_of_mem_foundFrom ht hlink roots
  have hfound₁ : ∀ p ∈ t.foundFrom roots, ∃ d n, first.tree.FoundAt p d n := fun p hp =>
    let ⟨d, n, hp⟩ := hfound p hp
    ⟨d, n, hp.of_preserves hpreserves⟩
  have hidle : ∀ p ∈ t.foundFrom roots, rs.IsIdle first.tree p := fun p hp => by
    obtain ⟨d, n, hp'⟩ := hfound p hp
    rw [(rs.run_eq_convertAll ht hlink roots).1]
    exact isIdle_convertAll hrules hfound hlink hp' (.inl hp)
  obtain ⟨hsame, hresult⟩ := convertAll_of_isIdle hfound₁ hlink₁ hidle
  have hunchanged : ∀ r ∈ (t.foundFrom roots).map fun p => (rs.convert first.tree p).result,
      r.wasModified = false := by
    refine List.forall_mem_map.2 fun p hp => ?_
    obtain ⟨d, n, hp'⟩ := hfound₁ p hp
    exact ((hidle p hp).tree_eq hp' hlink₁).2
  have hreports := hreports₂.trans hresult
  refine ⟨?_, ?_, htree₂.trans hsame, hreports, fun p hp d n hp' => ?_⟩
  · rw [htotal₂, hresult, List.countP_eq_zero.2 fun r hr => Bool.eq_false_iff.1 (hunchanged r hr)]
    rfl
  · rwa [hreports]
  · have hp₁ := hp'.of_preserves hpreserves
    rw [isError_convert_iff hrules hp₁ hlink₁, ((hidle p hp).tree_eq hp₁ hlink₁).1]

/-- **A second run has nothing to do.** It changes no file, reports no change and counts none, and
it reports on the same paths as the first run. It reports an error for those whose file, under
whichever path, had an error as its last report in the first run; and if the path of its backup may
be used, a path has an error exactly if its own last report in the first run was one. -/
theorem second_run (hrules : ∀ text, rs.apply (rs.apply text) = rs.apply text) (ht : t.IsSound)
    (hlink : t.LinkFree) (roots : List SourceRoot) :
    let first := rs.run t roots
    let second := rs.run first.tree roots
    second.result.total = 0 ∧ (∀ r ∈ second.reports, r.wasModified = false) ∧
      second.tree = first.tree ∧
      second.reports.map (·.path) = first.reports.map (·.path) ∧
      (∀ r ∈ second.reports, r.isError ↔
        (lastReport? (fun q => t.location? q = t.location? r.path) first.reports).any (·.isError)) ∧
      ∀ r ∈ second.reports, (∀ b ∈ r.path.backup?, usable b = .ok ()) →
        (r.isError ↔ (lastReport? (fun q => q = r.path) first.reports).any (·.isError)) := by
  intro first second
  obtain ⟨htree, hreports, -⟩ := rs.run_eq_convertAll ht hlink roots
  obtain ⟨htotal, hunchanged, hsame, hreports₂, herror⟩ := run_again hrules ht hlink roots
  have hfound := exists_foundAt_of_mem_foundFrom ht hlink roots
  have hlast : ∀ r ∈ second.reports, ∀ about : Path → Bool, about r.path →
      (∀ q, about q → t.location? q = t.location? r.path) →
      ((∀ q, t.location? q = t.location? r.path → about q) ∨
        (∀ q, about q → q = r.path) ∧ ∀ b ∈ r.path.backup?, usable b = .ok ()) →
      (r.isError ↔ (lastReport? about first.reports).any (·.isError)) := by
    intro r hr about hself habout hother
    rw [hreports₂] at hr
    obtain ⟨p, hp, rfl⟩ := List.mem_map.1 hr
    simp only [path_convert] at hself habout hother
    obtain ⟨d, n, hp'⟩ := hfound p hp
    have hmem : p ∈ (rs.convertAll t (t.foundFrom roots)).result.map (·.path) := by
      rwa [map_path_convertAll]
    obtain ⟨r', hr', hpath⟩ := List.mem_map.1 hmem
    obtain ⟨last, hlast⟩ := Option.isSome_iff_exists.1
      (isSome_lastReport? about ⟨r', hr', by rw [hpath]; exact hself⟩)
    rw [herror p hp hp', hreports, hlast, Option.any_some,
      isError_lastReport_iff hrules hfound hlink hp' habout hother hlast, htree]
  refine ⟨htotal, hunchanged, hsame, ?_, fun r hr => ?_, fun r hr hbackup => ?_⟩
  · have hpaths : (fun p => (rs.convert first.tree p).result.path) = id :=
      funext (path_convert rs first.tree)
    rw [hreports, hreports₂, map_path_convertAll, List.map_map, Function.comp_def, hpaths,
      List.map_id]
  · exact hlast r hr _
      (by simp) (fun q hq => by simpa using hq) (.inl fun q hq => by simpa using hq)
  · refine hlast r hr _ (by simp) (fun q hq => ?_) (.inr ⟨fun q hq => by simpa using hq, hbackup⟩)
    rw [show q = r.path by simpa using hq]

theorem second_run_mixedSources :
    let first := attributeRules.run mixedSources overlappingRoots
    let second := attributeRules.run first.tree overlappingRoots
    ((∀ text, attributeRules.apply (attributeRules.apply text) = attributeRules.apply text) ∧
      mixedSources.IsSound ∧ mixedSources.LinkFree) ∧
    first.reports.map (·.isError) = [false, true, true, false, false, true, true, false] ∧
    first.result.total = 2 ∧ second.result.total = 0 ∧ second.tree = first.tree ∧
      second.reports.map (·.path) = first.reports.map (·.path) ∧
      ∀ r ∈ second.reports, r.isError ↔
        (lastReport? (fun q => mixedSources.location? q = mixedSources.location? r.path)
          first.reports).any (·.isError) := by
  intro first second
  obtain ⟨htotal, -, htree, hpaths, herrors, -⟩ := second_run apply_apply_attributeRules
    isSound_mixedSources linkFree_mixedSources overlappingRoots
  exact ⟨⟨apply_apply_attributeRules, isSound_mixedSources, linkFree_mixedSources⟩,
    by decide +kernel, by decide +kernel, htotal, htree, hpaths, herrors⟩

/-! ### A file under a long path and a short one -/

/-- A tree with one source file. -/
def singleSource : FileTree where
  nodes :=
    [([], .directory 0o755), (workplace, .directory 0o755),
      (Name.ofString "src" :: workplace, .directory 0o755),
      (Name.ofString "a.js" :: Name.ofString "src" :: workplace, .file "fullWidth".toUTF8 0o644)]
  current := workplace
  guarded := false

theorem isSound_singleSource : singleSource.IsSound := by decide

theorem linkFree_singleSource : singleSource.LinkFree := linkFree_of_forall (by decide)

/-- A path to its directory that is so long that the file may be read and written but its backup may
not. -/
def longRoot : Path := Path.slashed 4079 (Name.ofString "src")

/-- The path of its file that is found from there. -/
def longFile : Path := longRoot.child (Name.ofString "a.js")

/-- The long path and a short one. -/
def longAndShort : List SourceRoot := [⟨"Long", longRoot⟩, ⟨"Short", Path.ofString "src"⟩]

/-- The path of its file that is found from the short one. -/
def shortFile : Path := Path.ofString "src/a.js"

theorem way_longRoot : longRoot.way = [.here, .name (Name.ofString "src")] :=
  Path.way_slashed 4079 (by decide)

theorem longRoot_bytes_ne_nil : longRoot.bytes ≠ [] := Path.slashed_bytes_ne_nil _ _

theorem zero_not_mem_longRoot : 0 ∉ longRoot.bytes :=
  Path.not_mem_slashed _ (by decide) (by decide) (by decide)

theorem length_longRoot : longRoot.bytes.length = 4084 := by
  rw [longRoot, Path.length_slashed, show (Name.ofString "src").length = 3 by decide]

theorem child_longRoot (n : Name) : longRoot.child n = ⟨longRoot.bytes ++ slash :: n⟩ :=
  Path.child_eq (by decide) (Path.pieces_slashed 4079 (by decide)) n

theorem length_child_longRoot (n : Name) : (longRoot.child n).bytes.length = 4085 + n.length := by
  rw [child_longRoot, List.length_append, length_longRoot, List.length_cons]
  omega

theorem shortFile_ne_longFile : shortFile ≠ longFile := fun hsame => by
  have hlength := congrArg (·.bytes.length) hsame
  simp only [longFile, length_child_longRoot] at hlength
  exact absurd hlength (by decide)

theorem usable_longRoot : usable longRoot = .ok () :=
  usable_eq_ok_iff.2 ⟨zero_not_mem_longRoot, longRoot_bytes_ne_nil, by rw [length_longRoot]; decide⟩

theorem usable_longFile : usable longFile = .ok () := by
  have hname : 0 ∉ slash :: Name.ofString "a.js" := by decide
  refine usable_eq_ok_iff.2 ⟨?_, Path.child_bytes_ne_nil longRoot_bytes_ne_nil, ?_⟩
  · rw [longFile, child_longRoot]
    exact fun hmem => (List.mem_append.1 hmem).elim zero_not_mem_longRoot hname
  · rw [longFile, length_child_longRoot, show (Name.ofString "a.js").length = 4 by decide]
    decide

theorem steps_longFile : longFile.steps = longRoot.way ++ [.name (Name.ofString "a.js")] :=
  Path.steps_child longRoot_bytes_ne_nil (by decide)

theorem resolve_longRoot : singleSource.resolve .followed longRoot =
    .ok (.found (Name.ofString "src" :: workplace) (.directory 0o755)) := by
  have hsteps : longRoot.steps = longRoot.way :=
    Path.steps_eq_way (by decide) (Path.pieces_slashed 4079 (by decide))
  rw [resolve, usable_longRoot, hsteps, way_longRoot]
  rfl

theorem isDirectory_longRoot : singleSource.isDirectory longRoot := by
  rw [isDirectory, stat, statWith, resolve_longRoot]
  rfl

theorem isFile_longFile : singleSource.isFile longFile := by
  rw [isFile, stat, statWith, resolve, usable_longFile, steps_longFile, way_longRoot]
  rfl

/-- The file is found under the long path. -/
theorem discover_longRoot : singleSource.discover longRoot = [longFile] := by
  have hentries : singleSource.entries longRoot =
      .ok [(Name.ofString "a.js", .file "fullWidth".toUTF8 0o644)] := by
    rw [entries, resolve_longRoot]
    rfl
  have hsource : (longRoot.child (Name.ofString "a.js")).isSource := by
    rw [Path.isSource_child_eq longRoot_bytes_ne_nil (by decide)]
    decide
  have hfile : singleSource.isFile (longRoot.child (Name.ofString "a.js")) := isFile_longFile
  have hfinds : singleSource.findsBelow (singleSource.nodes.length + 1) longRoot =
      [[Name.ofString "a.js"]] := by
    rw [findsBelow_succ, hentries]
    simp only [List.flatMap_cons, List.flatMap_nil, findsOf, Node.kind, hsource, hfile]
    rfl
  rw [discover_eq_map isSound_singleSource isDirectory_longRoot, hfinds, longFile]
  simp only [List.map_cons, List.map_nil, Path.descend_cons, Path.descend_nil]

theorem foundAt_longFile : singleSource.FoundAt longFile (Name.ofString "src" :: workplace)
    (Name.ofString "a.js") where
  exists_child := ⟨longRoot, rfl, longRoot_bytes_ne_nil, by rw [way_longRoot]; decide⟩
  isProper := by decide
  isSome_text := by decide
  isSource := by decide
  exists_file := ⟨"fullWidth".toUTF8, 0o644, by decide⟩
  permit_eq := by
    rw [permit, usable_longFile]
    decide

theorem foundAt_shortFile : singleSource.FoundAt shortFile (Name.ofString "src" :: workplace)
    (Name.ofString "a.js") where
  exists_child := ⟨Path.ofString "src", by decide, by decide, by decide⟩
  isProper := by decide
  isSome_text := by decide
  isSource := by decide
  exists_file := ⟨"fullWidth".toUTF8, 0o644, by decide⟩
  permit_eq := by decide

theorem foundFrom_longAndShort : singleSource.foundFrom longAndShort = [longFile, shortFile] := by
  have hshort : singleSource.sourcesIn (Path.ofString "src") = [shortFile] := by decide
  simp only [foundFrom, longAndShort, List.flatMap_cons, List.flatMap_nil, hshort]
  rw [sourcesIn, if_pos isDirectory_longRoot, discover_longRoot]
  rfl

theorem not_settles_singleSource : ¬ attributeRules.Settles singleSource
    (Name.ofString "a.js" :: Name.ofString "src" :: workplace) := by
  rintro ⟨text, htext, hsame⟩
  have hold : singleSource.textAt? (Name.ofString "a.js" :: Name.ofString "src" :: workplace) =
      some "fullWidth" := by decide
  obtain rfl := Option.some.inj (hold.symm.trans htext)
  exact absurd hsame (by decide +kernel)

/-- There is nothing to write for the file under the long path, for its backup cannot be made. -/
theorem isIdle_longFile : attributeRules.IsIdle singleSource longFile := by
  obtain ⟨b, m, hb, hm, -, htreatment⟩ :=
    exists_treatment attributeRules foundAt_longFile linkFree_singleSource
  refine htreatment.eq_nil_of_permit fun hpermit => ?_
  have hlong : m.length = 15 := by
    have hlength : (Name.ofString "a.js").backup?.map List.length = some 15 := by decide
    rw [hm] at hlength
    exact Option.some.inj hlength
  have hdir : longFile.directory = longRoot :=
    Path.directory_child (by decide) (by decide)
      (Path.pieces_slashed 4079 (by decide))
  rw [longFile, Path.backup?_child longRoot_bytes_ne_nil (by decide) (by decide) hm,
    Path.sibling, ← longFile, hdir] at hb
  obtain rfl := Option.some.inj hb
  obtain ⟨_, husable, -⟩ := exists_of_bind_eq_ok hpermit
  have hlimit := (usable_eq_ok_iff.1 husable).2.2
  rw [length_child_longRoot, hlong] at hlimit
  exact absurd hlimit (by decide)

/-- **Not every path whose own last report was an error** has an error in a second run. The first
run cannot make the backup of the file under the long path, but converts the file under the short
one. -/
theorem not_forall_last_report_of_path :
    ¬ ∀ (rs : RuleSet) (t : FileTree) (roots : List SourceRoot),
    (∀ text, rs.apply (rs.apply text) = rs.apply text) → t.IsSound → t.LinkFree →
      let first := rs.run t roots
      let second := rs.run first.tree roots
      second.result.total = 0 ∧ second.tree = first.tree ∧
        ∀ p, (∃ r ∈ second.reports, r.path = p ∧ r.isError) ↔
          (lastReport? (fun q => q = p) first.reports).any (·.isError) := by
  intro h
  obtain ⟨-, -, hpaths⟩ := h attributeRules singleSource longAndShort apply_apply_attributeRules
    isSound_singleSource linkFree_singleSource
  obtain ⟨htree, hreports, -⟩ :=
    attributeRules.run_eq_convertAll isSound_singleSource linkFree_singleSource longAndShort
  obtain ⟨-, -, -, hreports₂, herror⟩ :=
    run_again apply_apply_attributeRules isSound_singleSource linkFree_singleSource longAndShort
  -- under the long path the first run fails and changes nothing
  have hlong := isIdle_longFile.tree_eq foundAt_longFile linkFree_singleSource
  have hfailed : (attributeRules.convert singleSource longFile).result.isError := by
    rw [isError_convert_iff apply_apply_attributeRules foundAt_longFile linkFree_singleSource,
      hlong.1]
    exact not_settles_singleSource
  -- under the short path it settles the file
  have hshort : (attributeRules.convert singleSource shortFile).result.isError = false := by
    decide +kernel
  rw [foundFrom_longAndShort] at htree hreports hreports₂ herror
  simp only [convertAll, hlong.1] at htree hreports
  have hsettled : attributeRules.Settles (attributeRules.run singleSource longAndShort).tree
      (Name.ofString "a.js" :: Name.ofString "src" :: workplace) := by
    rw [htree, ← not_not (a := attributeRules.Settles _ _), ← isError_convert_iff
      apply_apply_attributeRules foundAt_shortFile linkFree_singleSource, hshort]
    exact Bool.false_ne_true
  have hlast : (lastReport? (fun q => q = longFile)
      (attributeRules.run singleSource longAndShort).reports).any (·.isError) := by
    have hpath := path_convert attributeRules singleSource
    rw [hreports, lastReport?_pair, Option.any_some, hfailed]
    · rw [hpath, decide_eq_true_eq]
    · rw [hpath, decide_eq_false_iff_not]
      exact shortFile_ne_longFile
  -- so that the second run fails under neither
  have hnone : ∀ r ∈ (attributeRules.run (attributeRules.run singleSource longAndShort).tree
      longAndShort).reports, ¬ r.isError := by
    rw [hreports₂]
    simp only [List.forall_mem_map, List.forall_mem_cons]
    refine ⟨fun hwrong => ?_, fun hwrong => ?_, List.forall_mem_nil _⟩
    · exact (herror longFile (by simp) foundAt_longFile).1 hwrong hsettled
    · exact (herror shortFile (by simp) foundAt_shortFile).1 hwrong hsettled
  obtain ⟨r, hr, -, hwrong⟩ := (hpaths longFile).2 hlast
  exact hnone r hr hwrong

end RuleSet

end Restyle
