import Restyle.CommandLine.Program
import Restyle.Proofs.Conversion.Sections

/-!
# Runs under the eyes of an observer

An observer is told each event when it happens, in the middle of the work. What it makes of the
events does not come back into the work: the tree that a run leaves and its summary are the same for
every observer, and they are those of a run that nobody watches. In the end an observer has been
told the events of that run, in order. So one who ignores them shows nothing, and the console shows
what stands for each event that one who keeps them has kept.

## Main definitions

* `Restyle.Watched` — what is left of watched work: a result, a tree, and the state of the observer.
* `Restyle.Stage.watched` — a stage of the work, told to an observer when it is over.
* `Restyle.RuleSet.runWatched` — a run that tells an observer each event when it happens.

## Main results

* `Restyle.RuleSet.runWatched_eq` — an observer may as well be told everything in the end.
* `Restyle.RuleSet.exists_sections_shown` — what the console shows of the sections of a run.
* `Restyle.RuleSet.run_watched` — no observer has an influence, and what the console shows.
* `Restyle.Program.shown_run` — the program shows what the console shows that watches its run.
-/

namespace Restyle

/-- What is left of work that is watched: its result, its tree, and the state of the observer. -/
structure Watched (σ α : Type) where
  result : α
  tree : FileTree
  seen : σ

/-- A stage of the work when it is told to an observer, with all its events, at the end. -/
def Stage.watched {σ α : Type} (s : Stage α) (o : Observer σ) (seen : σ) : Watched σ α :=
  ⟨s.result, s.tree, s.events.foldl o.tell seen⟩

/-! ### What observers make of events -/

namespace Observer

/-- One who ignores the events shows nothing. -/
theorem foldl_silent : ∀ (es : List Event) (shown : String), es.foldl silent.tell shown = shown
  | [], _ => rfl
  | _ :: es, shown => foldl_silent es shown

/-- The console shows the events one behind the other. -/
theorem foldl_printer (c : Console) : ∀ (es : List Event) (shown : String),
    es.foldl (printer c).tell shown = shown ++ c.events es
  | [], shown => (String.append_empty (s := shown)).symm
  | e :: es, shown => by
    rw [List.foldl_cons, foldl_printer c es, printer, Console.events, Console.events, List.map_cons,
      String.join_cons, String.append_assoc]

end Observer

/-- What the console shows of a section: the header of its root, and for each file the line of the
file, directly followed by the text of its outcome. -/
def Console.section (c : Console) (s : Section) : String :=
  c.rootHeader s.root.label s.root.dir ++
    String.join (s.results.map fun r => Console.converting r.path ++ c.event (.finished r))

theorem Console.events_flatMap (c : Console) : ∀ rs : List ConversionResult,
    c.events (rs.flatMap fun r => [.visiting r.path, .finished r]) =
      String.join (rs.map fun r => Console.converting r.path ++ c.event (.finished r))
  | [] => rfl
  | r :: rs => by
    have ih := Console.events_flatMap c rs
    rw [Console.events] at ih ⊢
    simp only [List.flatMap_cons, List.cons_append, List.nil_append, List.map_cons,
      String.join_cons, ih, String.append_assoc]
    rfl

/-- The events of some sections are shown as the texts of the sections, in order. -/
theorem Console.events_sections (c : Console) : ∀ sections : List Section,
    c.events (sections.flatMap Section.events) = String.join (sections.map c.section)
  | [] => rfl
  | s :: sections => by
    have ih := Console.events_sections c sections
    have hfiles := Console.events_flatMap c s.results
    rw [Console.events] at ih hfiles ⊢
    simp only [List.flatMap_cons, Section.events, List.cons_append, List.map_cons, List.map_append,
      String.join_cons, String.join_append, ih, hfiles, Console.section, String.append_assoc]
    rfl

namespace RuleSet

variable {σ : Type}

/-! ### Watched work -/

/-- Converts the file at `p`. The observer is told before the file is read, and when it is done. -/
def convertWatched (rs : RuleSet) (o : Observer σ) (seen : σ) (t : FileTree) (p : Path) :
    Watched σ ConversionResult :=
  let begun := o.tell seen (.visiting p)
  let work := rs.edit t p
  let result := ConversionResult.of p work.result
  ⟨result, work.tree, o.tell begun (.finished result)⟩

/-- Converts the files at the given paths one after the other for an observer. -/
def convertAllWatched (rs : RuleSet) (o : Observer σ) :
    σ → FileTree → List Path → Watched σ (List ConversionResult)
  | seen, t, [] => ⟨[], t, seen⟩
  | seen, t, p :: ps =>
    let first := rs.convertWatched o seen t p
    let later := convertAllWatched rs o first.seen first.tree ps
    ⟨first.result :: later.result, later.tree, later.seen⟩

/-- Converts every source file below a directory for an observer and counts those that changed. -/
def convertDirectoryWatched (rs : RuleSet) (o : Observer σ) (seen : σ) (t : FileTree) (dir : Path) :
    Watched σ Nat :=
  if t.isDirectory dir then
    let work := rs.convertAllWatched o seen t (t.discover dir)
    ⟨work.result.countP (·.wasModified), work.tree, work.seen⟩
  else ⟨0, t, seen⟩

/-- Converts the directories of the given roots in order for an observer, adding to a summary. -/
def runFromWatched (rs : RuleSet) (o : Observer σ) :
    σ → Summary → FileTree → List SourceRoot → Watched σ Summary
  | seen, s, t, [] => ⟨s, t, seen⟩
  | seen, s, t, root :: roots =>
    let work := rs.convertDirectoryWatched o (o.tell seen (.rootStarted root)) t root.dir
    runFromWatched rs o work.seen (s.record root.label (.ofNat work.result)) work.tree roots

/-- Converts the directories of the given roots in order and sums up how many files changed, and
tells an observer what happens. -/
def runWatched (rs : RuleSet) (o : Observer σ) (t : FileTree) (roots : List SourceRoot) :
    Watched σ Summary :=
  rs.runFromWatched o o.initial .empty t roots

/-! ### The observer may be told in the end -/

theorem convertWatched_eq (rs : RuleSet) (o : Observer σ) (seen : σ) (t : FileTree) (p : Path) :
    rs.convertWatched o seen t p = (rs.convert t p).watched o seen := by
  rw [Stage.watched, events_convert]
  rfl

theorem convertAllWatched_eq (rs : RuleSet) (o : Observer σ) :
    ∀ (ps : List Path) (seen : σ) (t : FileTree),
      rs.convertAllWatched o seen t ps = (rs.convertAll t ps).watched o seen
  | [], _, _ => rfl
  | p :: ps, seen, t => by
    have hevents : (rs.convertAll t (p :: ps)).events =
        (rs.convert t p).events ++ (rs.convertAll (rs.convert t p).tree ps).events :=
      List.filterMap_append
    rw [convertAllWatched, convertWatched_eq, convertAllWatched_eq rs o ps, Stage.watched,
      Stage.watched, Stage.watched, hevents, List.foldl_append]
    rfl

theorem convertDirectoryWatched_eq (rs : RuleSet) (o : Observer σ) (seen : σ) (t : FileTree)
    (dir : Path) :
    rs.convertDirectoryWatched o seen t dir = (rs.convertDirectory t dir).watched o seen := by
  rw [convertDirectoryWatched, Stage.watched]
  by_cases hdir : t.isDirectory dir
  · obtain ⟨hevents, hcount, htree⟩ := rs.convertDirectory_of_isDirectory hdir
    rw [if_pos hdir, convertAllWatched_eq, hevents, hcount, htree]
    rfl
  · rw [if_neg hdir, convertDirectory, if_neg hdir]
    rfl

theorem runFromWatched_eq (rs : RuleSet) (o : Observer σ) :
    ∀ (roots : List SourceRoot) (seen : σ) (s : Summary) (t : FileTree),
      rs.runFromWatched o seen s t roots = (rs.runFrom s t roots).watched o seen
  | [], _, _, _ => rfl
  | root :: roots, seen, s, t => by
    rw [runFromWatched, convertDirectoryWatched_eq, runFromWatched_eq rs o roots, Stage.watched,
      Stage.watched, Stage.watched, events_runFrom_cons, List.foldl_append, List.foldl_cons]
    rfl

/-- **An observer may as well be told everything in the end**: a run that tells it each event when
it happens is a run that nobody watches, and its events in order. -/
theorem runWatched_eq (rs : RuleSet) (o : Observer σ) (t : FileTree) (roots : List SourceRoot) :
    rs.runWatched o t roots =
      ⟨(rs.run t roots).result, (rs.run t roots).tree, (rs.run t roots).observed o⟩ :=
  runFromWatched_eq rs o roots o.initial .empty t

/-! ### What is shown in a run -/

/-- **What the console shows of a run**: the texts of its sections, in order. -/
theorem exists_sections_shown (rs : RuleSet) (c : Console) (t : FileTree)
    (roots : List SourceRoot) :
    ∃ sections, rs.Sections t roots sections (rs.run t roots).tree ∧
      (rs.runWatched (.printer c) t roots).seen = String.join (sections.map c.section) := by
  obtain ⟨sections, hsections, hevents, -⟩ := exists_sections_runFrom rs roots .empty t
  refine ⟨sections, hsections, ?_⟩
  rw [runWatched_eq, ← Console.events_sections, ← hevents]
  exact (Observer.foldl_printer c _ "").trans String.empty_append

/-- **No observer has an influence, and the console shows what is recorded.** Whoever watches a run,
it leaves the tree and the summary of a run that nobody watches. One who ignores the events shows
nothing. The console shows what stands for each event that one who keeps them has kept, in order:
for a root that is begun its header, for a file that is visited the line with its path, and for an
outcome one of three lines, with the message if there is an error, and otherwise telling whether the
file changed. -/
theorem run_watched (rs : RuleSet) (t : FileTree) (roots : List SourceRoot) :
    (∀ {σ : Type} (o : Observer σ), (rs.runWatched o t roots).tree = (rs.run t roots).tree ∧
      (rs.runWatched o t roots).result = (rs.run t roots).result) ∧
    (rs.runWatched .silent t roots).seen = "" ∧
    ∀ c : Console,
      (rs.runWatched (.printer c) t roots).seen =
        String.join ((rs.runWatched .recorder t roots).seen.map c.event) ∧
      (∀ root, c.event (.rootStarted root) =
        "\n    " ++ (if c.emoji then "📂 " else "") ++
          c.paint "\x1b[36m\x1b[1m" ("Converting " ++ Text.lowercase root.label) ++ " " ++
          c.paint "\x1b[2m" "│" ++ " " ++ c.paint "\x1b[2m" root.dir.toText ++ "\n    " ++
          c.paint "\x1b[2m" "────────────────────────────────────────────────────────────" ++
          "\n") ∧
      (∀ p, c.event (.visiting p) = "    Converting: " ++ p.toText ++ "\n") ∧
      ∀ r, c.event (.finished r) =
        "      " ++
          (match r.error?, r.wasModified with
          | some e, _ => c.paint "\x1b[31m\x1b[1m" "✗" ++ " " ++
              c.paint "\x1b[31m" ("Error: " ++ e.message)
          | none, true => c.paint "\x1b[32m\x1b[1m" "✓" ++ " " ++
              c.paint "\x1b[32m" "Converted successfully"
          | none, false => c.paint "\x1b[2m" "-" ++ " " ++
              c.paint "\x1b[2m" "No changes needed") ++
          "\n" := by
  refine ⟨fun o => ?_, ?_, fun c =>
    ⟨?_, c.event_rootStarted, c.event_visiting, c.event_finished⟩⟩
  · rw [runWatched_eq]
    exact ⟨rfl, rfl⟩
  · rw [runWatched_eq]
    exact Observer.foldl_silent _ ""
  · have hshown := Observer.foldl_printer c (rs.run t roots).events ""
    rw [runWatched_eq, runWatched_eq, Stage.observed_recorder]
    exact hshown.trans String.empty_append

end RuleSet

/-- Between its first and its last lines the program shows what the console shows that watches its
run. -/
theorem Program.shown_run {args : List Name} {a : Arguments} (h : Arguments.read args = .ok a)
    (c : Console) (t : FileTree) :
    let work := bootstrapRules.runWatched (.printer c) t (SourceRoot.ofProject a.projectRoot)
    (run c t args).shown = shown c work.seen work.result := by
  rw [RuleSet.runWatched_eq, run, h]
  rfl

end Restyle
