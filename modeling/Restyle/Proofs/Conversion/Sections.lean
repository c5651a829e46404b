import Restyle.Proofs.Conversion.Batch
import Restyle.Proofs.Report.Records
import Restyle.Report.Observer

/-!
# The sections of a run

A run falls into sections, one for each root, in order. In a section an observer is told that its
root is begun, and then for each file that is found below the root that it is visited, directly
followed by the outcome. The files of a section are found in the tree that the sections before have
left, and each file is converted on the tree that the files before it have left, whatever has become
of them. The summary of the run counts the files of the sections that changed.

## Main definitions

* `Restyle.Section`, `Restyle.Section.events`, `Restyle.Section.converted`.
* `Restyle.Section.records` — what a run records for its sections.
* `Restyle.RuleSet.Conversions` — how files are converted one after the other.
* `Restyle.RuleSet.Sections` — how a run goes through its roots.

## Main results

* `Restyle.RuleSet.exists_sections_runFrom` — the sections of a run, its events and its summary.
* `Restyle.RuleSet.run_in_sections` — what an observer is told in a run, and what the run counts.
-/

namespace Restyle

/-- A section of a run: its root, and the outcomes for the files below it, in order. -/
structure Section where
  root : SourceRoot
  results : List ConversionResult

namespace Section

/-- What an observer is told in a section. -/
def events (c : Section) : List Event :=
  .rootStarted c.root :: c.results.flatMap fun r => [.visiting r.path, .finished r]

/-- How many files of a section changed. -/
def converted (c : Section) : Nat := c.results.countP (·.wasModified)

end Section

/-- One who keeps the events keeps them all. -/
theorem Observer.foldl_recorder : ∀ (es seen : List Event),
    es.foldl recorder.tell seen = seen ++ es
  | [], seen => (List.append_nil seen).symm
  | e :: es, seen => by
    rw [List.foldl_cons, foldl_recorder es, recorder, List.append_assoc, List.singleton_append]

/-- One who keeps the events has kept all events of a stage in the end. -/
theorem Stage.observed_recorder {α : Type} (s : Stage α) : s.observed .recorder = s.events :=
  Observer.foldl_recorder s.events []

/-! ### What is recorded for sections -/

namespace Section

/-- What is recorded for some sections: the label of each, and how many of its files changed. -/
def records (sections : List Section) : List (String × UInt64) :=
  sections.map fun c => (c.root.label, .ofNat c.converted)

/-- The numbers of files that changed, added up as words. -/
theorem sum_records : ∀ sections : List Section, ((records sections).map (·.2)).sum =
    .ofNat ((sections.flatMap (·.results)).countP (·.wasModified))
  | [] => rfl
  | c :: sections => by
    rw [records, List.map_cons, List.map_cons, List.sum_cons, ← records, sum_records sections,
      List.flatMap_cons, List.countP_append, UInt64.ofNat_add]
    rfl

theorem count_recordAll_records (sections : List Section) (label : String) :
    (Summary.empty.recordAll (records sections)).count label =
      .ofNat (((sections.filter (·.root.label = label)).flatMap (·.results)).countP
        (·.wasModified)) := by
  rw [Summary.count_recordAll, Summary.count_empty, UInt64.zero_add, ← sum_records, records,
    List.filter_map]
  rfl

theorem total_recordAll_records (sections : List Section) :
    (Summary.empty.recordAll (records sections)).total =
      .ofNat ((sections.flatMap (·.results)).countP (·.wasModified)) := by
  rw [Summary.total_recordAll, sum_records]
  exact UInt64.zero_add _

theorem labels_recordAll_records (sections : List Section) :
    (Summary.empty.recordAll (records sections)).labels =
      (sections.map (·.root.label)).eraseDups := by
  rw [Summary.labels_recordAll, show Summary.empty.labels = [] from rfl, List.nil_append,
    List.removeAll_nil, records, List.map_map]
  rfl

end Section

namespace RuleSet

open FileTree

variable {rs : RuleSet} {t u v : FileTree} {p : Path} {ps : List Path}
  {results : List ConversionResult} {root : SourceRoot} {roots : List SourceRoot}
  {sections : List Section}

/-! ### Conversions one after the other -/

/-- A conversion reports a change or an error, but never both. -/
theorem not_wasModified_and_isError_convert (rs : RuleSet) (t : FileTree) (p : Path) :
    ¬ ((rs.convert t p).result.wasModified ∧ (rs.convert t p).result.isError) := by
  rw [result_convert]
  cases (rs.edit t p).result with
  | ok => exact fun h => nomatch h.2
  | error => exact fun h => nomatch h.1

/-- How files are converted one after the other, each in the tree that the ones before it have left:
the paths, the outcomes, and the tree that is left in the end. -/
inductive Conversions (rs : RuleSet) :
    FileTree → List Path → List ConversionResult → FileTree → Prop
  | nil {t : FileTree} : Conversions rs t [] [] t
  | cons {t u : FileTree} {p : Path} {ps : List Path} {results : List ConversionResult}
      (later : Conversions rs (rs.convert t p).tree ps results u) :
      Conversions rs t (p :: ps) ((rs.convert t p).result :: results) u

theorem conversions_convertAll (rs : RuleSet) : ∀ (t : FileTree) (ps : List Path),
    rs.Conversions t ps (rs.convertAll t ps).result (rs.convertAll t ps).tree
  | _, [] => .nil
  | t, p :: ps => .cons (conversions_convertAll rs (rs.convert t p).tree ps)

/-- The outcomes are those of the files, in order. -/
theorem Conversions.map_path (h : rs.Conversions t ps results u) : results.map (·.path) = ps := by
  induction h with
  | nil => rfl
  | cons _ ih => rw [List.map_cons, path_convert, ih]

/-- Whatever is true of all conversions is true of those that come one after the other. -/
theorem Conversions.forall_mem {P : ConversionResult → Prop}
    (hP : ∀ t p, P (rs.convert t p).result) (h : rs.Conversions t ps results u) :
    ∀ r ∈ results, P r := by
  induction h with
  | nil => exact List.forall_mem_nil _
  | cons _ ih => exact List.forall_mem_cons.2 ⟨hP _ _, ih⟩

/-- There is one way only in which files are converted one after the other. -/
theorem Conversions.unique {results' : List ConversionResult} {u' : FileTree}
    (h : rs.Conversions t ps results u) (h' : rs.Conversions t ps results' u') :
    results = results' ∧ u = u' := by
  induction h generalizing results' with
  | nil =>
    cases h'
    exact ⟨rfl, rfl⟩
  | cons _ ih =>
    cases h' with
    | cons later' =>
      obtain ⟨rfl, rfl⟩ := ih later'
      exact ⟨rfl, rfl⟩

/-! ### Sections one after the other -/

/-- How a run goes through its roots: the sections, and the tree that is left in the end. The files
of a section are those that are found below its root when the root is reached; there are none if
there is no directory. -/
inductive Sections (rs : RuleSet) :
    FileTree → List SourceRoot → List Section → FileTree → Prop
  | nil {t : FileTree} : Sections rs t [] [] t
  | directory {t u v : FileTree} {root : SourceRoot} {roots : List SourceRoot}
      {results : List ConversionResult} {sections : List Section} (hdir : t.isDirectory root.dir)
      (hfiles : rs.Conversions t (t.discover root.dir) results u)
      (later : Sections rs u roots sections v) :
      Sections rs t (root :: roots) (⟨root, results⟩ :: sections) v
  | missing {t v : FileTree} {root : SourceRoot} {roots : List SourceRoot}
      {sections : List Section} (hdir : ¬ t.isDirectory root.dir)
      (later : Sections rs t roots sections v) :
      Sections rs t (root :: roots) (⟨root, []⟩ :: sections) v

theorem Sections.map_root (h : rs.Sections t roots sections v) :
    sections.map (·.root) = roots := by
  induction h with
  | nil => rfl
  | directory _ _ _ ih | missing _ _ ih => rw [List.map_cons, ih]

/-- Whatever is true of all conversions is true of those in the sections of a run. -/
theorem Sections.forall_mem {P : ConversionResult → Prop}
    (hP : ∀ t p, P (rs.convert t p).result) (h : rs.Sections t roots sections v) :
    ∀ c ∈ sections, ∀ r ∈ c.results, P r := by
  induction h with
  | nil => exact List.forall_mem_nil _
  | directory _ hfiles _ ih => exact List.forall_mem_cons.2 ⟨hfiles.forall_mem hP, ih⟩
  | missing _ _ ih => exact List.forall_mem_cons.2 ⟨List.forall_mem_nil _, ih⟩

/-- A run goes through its roots in one way only. -/
theorem Sections.unique {sections' : List Section} {v' : FileTree}
    (h : rs.Sections t roots sections v) (h' : rs.Sections t roots sections' v') :
    sections = sections' ∧ v = v' := by
  induction h generalizing sections' with
  | nil =>
    cases h'
    exact ⟨rfl, rfl⟩
  | directory hdir hfiles _ ih =>
    cases h' with
    | directory _ hfiles' later' =>
      obtain ⟨rfl, rfl⟩ := hfiles.unique hfiles'
      obtain ⟨rfl, rfl⟩ := ih later'
      exact ⟨rfl, rfl⟩
    | missing hdir' => exact absurd hdir hdir'
  | missing hdir _ ih =>
    cases h' with
    | directory hdir' => exact absurd hdir' hdir
    | missing _ later' =>
      obtain ⟨rfl, rfl⟩ := ih later'
      exact ⟨rfl, rfl⟩

/-! ### The events and the summary of a run -/

theorem events_convertAll (rs : RuleSet) : ∀ (t : FileTree) (ps : List Path),
    (rs.convertAll t ps).events =
      (rs.convertAll t ps).result.flatMap fun r => [.visiting r.path, .finished r]
  | _, [] => rfl
  | t, p :: ps => by
    have hfirst := events_convert rs t p
    have hlater := events_convertAll rs (rs.convert t p).tree ps
    rw [Stage.events] at hfirst hlater
    simp only [Stage.events, convertAll, List.filterMap_append, hfirst, hlater, List.flatMap_cons,
      path_convert]

/-- What an observer is told in the conversion of a directory, and what is counted. -/
theorem convertDirectory_of_isDirectory (rs : RuleSet) {dir : Path} (hdir : t.isDirectory dir) :
    (rs.convertDirectory t dir).events = (rs.convertAll t (t.discover dir)).events ∧
      (rs.convertDirectory t dir).result =
        (rs.convertAll t (t.discover dir)).result.countP (·.wasModified) ∧
      (rs.convertDirectory t dir).tree = (rs.convertAll t (t.discover dir)).tree := by
  have hnotes := filterMap_notes (f := Happening.event?) (fun _ => rfl) (t.discoveryNotes dir)
  rw [convertDirectory, if_pos hdir]
  refine ⟨?_, rfl, rfl⟩
  simp only [Stage.events, List.filterMap_append, hnotes, List.nil_append]

theorem events_runFrom_cons (rs : RuleSet) (s : Summary) (t : FileTree) (root : SourceRoot)
    (roots : List SourceRoot) :
    (rs.runFrom s t (root :: roots)).events =
      .rootStarted root :: (rs.convertDirectory t root.dir).events ++
        (rs.runFrom (s.record root.label (.ofNat (rs.convertDirectory t root.dir).result))
          (rs.convertDirectory t root.dir).tree roots).events := by
  simp only [Stage.events, runFrom, List.cons_append, List.filterMap_cons, Happening.event?,
    List.filterMap_append]

/-- **The sections of a run**: its events are theirs, and its summary has a record for each. -/
theorem exists_sections_runFrom (rs : RuleSet) : ∀ (roots : List SourceRoot) (s : Summary)
    (t : FileTree), ∃ sections, rs.Sections t roots sections (rs.runFrom s t roots).tree ∧
      (rs.runFrom s t roots).events = sections.flatMap Section.events ∧
      (rs.runFrom s t roots).result =
        s.recordAll (Section.records sections)
  | [], s, t => ⟨[], .nil, rfl, rfl⟩
  | root :: roots, s, t => by
    obtain ⟨sections, hsections, hevents, hresult⟩ := exists_sections_runFrom rs roots
      (s.record root.label (.ofNat (rs.convertDirectory t root.dir).result))
      (rs.convertDirectory t root.dir).tree
    rw [events_runFrom_cons, hevents]
    by_cases hdir : t.isDirectory root.dir
    · obtain ⟨hwork, hcount, htree⟩ := rs.convertDirectory_of_isDirectory hdir
      have hfiles := conversions_convertAll rs t (t.discover root.dir)
      rw [← htree] at hfiles
      refine ⟨⟨root, (rs.convertAll t (t.discover root.dir)).result⟩ :: sections,
        .directory hdir hfiles hsections, ?_, ?_⟩
      · rw [hwork, events_convertAll]
        rfl
      · rw [runFrom, hresult, hcount]
        rfl
    · have hwork : rs.convertDirectory t root.dir = ⟨0, t, [.note (.rootNotFound root.dir)]⟩ := by
        rw [convertDirectory, if_neg hdir]
      rw [runFrom, hresult]
      rw [hwork] at hsections ⊢
      exact ⟨⟨root, []⟩ :: sections, .missing hdir hsections, rfl, rfl⟩

theorem mem_events_sections {r : ConversionResult} :
    .finished r ∈ sections.flatMap Section.events ↔ ∃ c ∈ sections, r ∈ c.results := by
  simp [Section.events]

/-- **What an observer is told in a run, and what the run counts.** The events of a run are those of
its sections: for each root that it is begun, and then for each file that is found below it, in the
tree that the run has made until then, that it is visited, directly followed by the outcome. No
outcome is both a change and an error. The count of a label is the number of files that changed in
the sections with this label, and the total is the number of all of them, both as words, and so
exactly if the number of all of them fits into a word. The labels are those of the roots, each where
it comes up first. -/
theorem run_in_sections (rs : RuleSet) (t : FileTree) (roots : List SourceRoot) :
    ∃ sections, rs.Sections t roots sections (rs.run t roots).tree ∧
      (rs.run t roots).observed .recorder = sections.flatMap Section.events ∧
      (∀ r, .finished r ∈ (rs.run t roots).observed .recorder → ¬ (r.wasModified ∧ r.isError)) ∧
      (∀ label, (rs.run t roots).result.count label =
        .ofNat (((sections.filter (·.root.label = label)).flatMap (·.results)).countP
          (·.wasModified))) ∧
      (rs.run t roots).result.total =
        .ofNat ((sections.flatMap (·.results)).countP (·.wasModified)) ∧
      ((sections.flatMap (·.results)).countP (·.wasModified) < UInt64.size →
        (∀ label, ((rs.run t roots).result.count label).toNat =
          ((sections.filter (·.root.label = label)).flatMap (·.results)).countP
            (·.wasModified)) ∧
        (rs.run t roots).result.total.toNat =
          (sections.flatMap (·.results)).countP (·.wasModified)) ∧
      (rs.run t roots).result.roots.map (·.1) = (roots.map (·.label)).eraseDups := by
  obtain ⟨sections, hsections, hevents, hresult⟩ := exists_sections_runFrom rs roots .empty t
  have hobserved := (Stage.observed_recorder (rs.run t roots)).trans hevents
  have hcount := Section.count_recordAll_records sections
  have htotal := Section.total_recordAll_records sections
  have hlabels := Section.labels_recordAll_records sections
  rw [← hresult] at hcount htotal hlabels
  refine ⟨sections, hsections, hobserved, fun r hr => ?_, hcount, htotal,
    fun hfits => ⟨fun label => ?_, ?_⟩, ?_⟩
  · rw [hobserved] at hr
    obtain ⟨c, hc, hmem⟩ := mem_events_sections.1 hr
    exact hsections.forall_mem (P := fun r => ¬ (r.wasModified ∧ r.isError))
      (not_wasModified_and_isError_convert rs) c hc r hmem
  · have hsome : ((sections.filter (·.root.label = label)).flatMap (·.results)).countP
        (·.wasModified) ≤ (sections.flatMap (·.results)).countP (·.wasModified) :=
      (List.filter_sublist.flatMap _).countP_le
    rw [run, hcount]
    exact UInt64.toNat_ofNat_of_lt' (Nat.lt_of_le_of_lt hsome hfits)
  · rw [run, htotal]
    exact UInt64.toNat_ofNat_of_lt' hfits
  · have hroots : sections.map (·.root.label) = roots.map (·.label) := by
      rw [← hsections.map_root, List.map_map]
      rfl
    rw [← hroots]
    exact hlabels

/-- Two of the four files are converted below the first root, and none below the second one. -/
example : (attributeRules.run mixedSources overlappingRoots).result =
    ⟨[("All", 2), ("Again", 0)]⟩ := by
  decide +kernel

end RuleSet

end Restyle
