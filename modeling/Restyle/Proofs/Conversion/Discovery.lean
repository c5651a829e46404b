import Mathlib.Data.List.Perm.Subperm
import Restyle.Conversion.Discovery
import Restyle.Proofs.FileTree.Entries
import Restyle.Proofs.Path.Backup
import Restyle.Proofs.Path.Skipped

/-!
# What the search for source files finds

The search finds a file under the names that lead to it from the root. It goes through directories
that can be listed and are not skipped, never through a link, and it finds the files in the order of
their names. How deep it may go is no limit: the directories on the way to a file are different
nodes of the tree.

## Main definitions

* `Restyle.FileTree.Finds` — under which names there is a file to find.
* `Restyle.FileTree.findsBelow` — the names under which the search finds files.

## Main results

* `Restyle.FileTree.mem_findsBelow_iff` — the search finds each file that there is to find.
* `Restyle.FileTree.pairwise_findsBelow` — it finds them in the order of their names.
* `Restyle.FileTree.discover_eq_map` — the paths that are found.
* `Restyle.FileTree.discover_findable` — which paths are found, and in which order.
-/

namespace Restyle

namespace FileTree

variable {t : FileTree} {l : Location} {n : Name} {p dir root : Path} {cs ds : List Name} {k : Nat}

/-! ### Files to find -/

/-- Under which names below a directory there is a file to find. The directories on the way can be
listed, are no links and are not skipped; the last name is that of a source file, and it leads to a
file. -/
inductive Finds (t : FileTree) : Path → List Name → Prop
  | file {dir : Path} {n : Name} (hlist : (t.entries dir).isOk) (hn : n.IsProper)
      (hsource : n.text?.isSome && n.isSource) (hfile : t.isFile (dir.child n)) : Finds t dir [n]
  | inside {dir : Path} {n : Name} {cs : List Name} {mode : Nat} (hlist : (t.entries dir).isOk)
      (hn : n.IsProper) (henter : ¬ n.isSkipped)
      (hdir : t.linkStat (dir.child n) = .ok (.directory mode)) (h : Finds t (dir.child n) cs) :
      Finds t dir (n :: cs)

theorem Finds.isProper (h : t.Finds dir cs) : ∀ n ∈ cs, n.IsProper := by
  induction h with
  | file _ hn => simpa using hn
  | inside _ hn _ _ _ ih => exact List.forall_mem_cons.2 ⟨hn, ih⟩

theorem Finds.isOk_entries (h : t.Finds dir cs) : (t.entries dir).isOk := by
  cases h <;> assumption

/-! ### The search -/

/-- The names below a directory under which the search finds files, `k` levels at most. -/
def findsBelow (t : FileTree) : Nat → Path → List (List Name)
  | 0, _ => []
  | k + 1, dir =>
    match t.entries dir with
    | .error _ => []
    | .ok es => es.flatMap fun (n, node) =>
      match node.kind with
      | .directory => if n.isSkipped then [] else (findsBelow t k (dir.child n)).map (n :: ·)
      | _ => if (dir.child n).isSource && t.isFile (dir.child n) then [[n]] else []

/-- The names that begin with one name in a directory, under which the search finds files. -/
def findsOf (t : FileTree) (k : Nat) (dir : Path) (entry : Name × Node) : List (List Name) :=
  match entry.2.kind with
  | .directory =>
    if entry.1.isSkipped then [] else (t.findsBelow k (dir.child entry.1)).map (entry.1 :: ·)
  | _ => if (dir.child entry.1).isSource && t.isFile (dir.child entry.1) then [[entry.1]] else []

theorem findsBelow_succ (t : FileTree) (k : Nat) (dir : Path) :
    t.findsBelow (k + 1) dir =
      match t.entries dir with
      | .error _ => []
      | .ok es => es.flatMap (t.findsOf k dir) := rfl

/-- What the search comes across through one entry of a directory. -/
def visitsOf (t : FileTree) (root : Path) (k : Nat) (dir : Path) (entry : Name × Node) :
    List Visit :=
  match entry.2.kind with
  | .directory =>
    if Path.isSkipped root (dir.child entry.1) then [.skipped (dir.child entry.1)]
    else .entry (dir.child entry.1) .directory :: t.visitsBelow root k (dir.child entry.1)
  | kind => [.entry (dir.child entry.1) kind]

theorem visitsBelow_succ (t : FileTree) (root : Path) (k : Nat) (dir : Path) :
    t.visitsBelow root (k + 1) dir =
      match t.entries dir with
      | .error e => [.unreadable dir e]
      | .ok es => es.flatMap (t.visitsOf root k dir) := rfl

/-- **What the search finds below a directory**, given by names. The directory is reached from the
root through directories that are not skipped. -/
theorem filterMap_visitsBelow (ht : t.IsSound) (hroot : root.bytes ≠ []) :
    ∀ (k : Nat) {ds : List Name}, (∀ n ∈ ds, n.IsProper) → ds.any Name.isSkipped = false →
      (t.visitsBelow root k (root.descend ds)).filterMap t.foundFile? =
        (t.findsBelow k (root.descend ds)).map (root.descend ds).descend
  | 0, ds, _, _ => rfl
  | k + 1, ds, hds, hskip => by
    rw [visitsBelow_succ, findsBelow_succ]
    have hbytes : (root.descend ds).bytes ≠ [] := Path.descend_bytes_ne_nil hroot
    cases hes : t.entries (root.descend ds) with
    | error err => rfl
    | ok es =>
      obtain ⟨l, mode, hresolve, rfl⟩ := exists_entriesAt_eq hes
      simp only [List.filterMap_flatMap, List.map_flatMap]
      refine List.flatMap_congr fun entry hentry => ?_
      obtain ⟨n, node⟩ := entry
      have hn := isProper_of_mem_entriesAt ht hentry
      have hnode := (mem_entriesAt_iff ht).1 hentry
      have hproper : ∀ m ∈ ds ++ [n], m.IsProper :=
        List.forall_mem_append.2 ⟨hds, List.forall_mem_singleton.2 hn⟩
      have hskipped : Path.isSkipped root ((root.descend ds).child n) = n.isSkipped := by
        rw [← Path.descend_concat, Path.isSkipped_descend root hproper, List.any_append, hskip]
        simp
      -- a file or a link stands for itself, a directory for what is found in it
      cases node with
      | file content mode | link target =>
        simp only [visitsOf, findsOf, Node.kind, List.filterMap_cons, List.filterMap_nil,
          foundFile?]
        cases ((root.descend ds).child n).isSource && t.isFile ((root.descend ds).child n) <;> rfl
      | directory mode' =>
        simp only [visitsOf, findsOf, Node.kind, hskipped]
        cases hn' : n.isSkipped with
        | true => rfl
        | false =>
          have hnone : t.foundFile? (.entry ((root.descend ds).child n) .directory) = none := by
            rw [foundFile?, isFile_child_eq_false hbytes hn hresolve hnode, Bool.and_false]
            rfl
          have ih := filterMap_visitsBelow ht hroot k hproper
            (by rw [List.any_append, hskip]; simpa using hn')
          rw [Path.descend_concat] at ih
          simp only [Bool.false_eq_true, if_false, List.filterMap_cons, hnone, ih, List.map_map]
          rfl

theorem eq_cons_of_mem_findsOf {entry : Name × Node} (h : cs ∈ t.findsOf k dir entry) :
    ∃ ds, cs = entry.1 :: ds := by
  rw [findsOf] at h
  split at h
  · split at h
    · exact absurd h List.not_mem_nil
    · obtain ⟨ds, -, rfl⟩ := List.mem_map.1 h
      exact ⟨ds, rfl⟩
  · split at h
    · exact ⟨[], List.mem_singleton.1 h⟩
    · exact absurd h List.not_mem_nil

/-- **The search finds files in the order of their names.** -/
theorem pairwise_findsBelow (ht : t.IsSound) : ∀ (k : Nat) (dir : Path),
    (t.findsBelow k dir).Pairwise (· < ·)
  | 0, _ => .nil
  | k + 1, dir => by
    rw [findsBelow_succ]
    split
    · exact .nil
    · next es hes =>
      obtain ⟨l, mode, -, rfl⟩ := exists_entriesAt_eq hes
      refine List.pairwise_flatMap.2 ⟨fun entry _ => ?_, ?_⟩
      · rw [findsOf]
        split
        · split
          · exact .nil
          · exact (pairwise_findsBelow ht k _).map _ fun _ _ => List.Lex.cons
        · split
          · exact List.pairwise_singleton _ _
          · exact .nil
      · refine (pairwise_entriesAt ht l).imp fun {a b} hlt cs hcs ds hds => ?_
        obtain ⟨cs, rfl⟩ := eq_cons_of_mem_findsOf hcs
        obtain ⟨ds, rfl⟩ := eq_cons_of_mem_findsOf hds
        exact List.Lex.rel hlt

/-- What is found through an entry of a directory is there to find. -/
theorem finds_of_mem_findsOf (ht : t.IsSound) (hbytes : dir.bytes ≠ []) {mode : Nat}
    (hdir : t.resolve .followed dir = .ok (.found l (.directory mode)))
    (hlist : (t.entries dir).isOk) {node : Node} (hentry : (n, node) ∈ t.entriesAt l)
    (hbelow : ∀ ds ∈ t.findsBelow k (dir.child n), ds.length ≤ k ∧ t.Finds (dir.child n) ds)
    (h : cs ∈ t.findsOf k dir (n, node)) : cs.length ≤ k + 1 ∧ t.Finds dir cs := by
  have hn := isProper_of_mem_entriesAt ht hentry
  have hnode := (mem_entriesAt_iff ht).1 hentry
  rw [findsOf] at h
  split at h
  · next hkind =>
    split at h
    · exact absurd h List.not_mem_nil
    · next henter =>
      obtain ⟨ds, hds, rfl⟩ := List.mem_map.1 h
      obtain ⟨hlength, hfinds⟩ := hbelow ds hds
      obtain ⟨m, mode', hchild, -⟩ := exists_entries_of_isOk hfinds.isOk_entries
      cases node with
      | directory mode'' =>
        have hitself := resolve_child_of_entries hbytes hn hdir hnode (by decide) hchild .itself
          (by decide)
        have hstat : t.linkStat (dir.child n) = .ok (.directory mode'') := by
          rw [linkStat, statWith, hitself]
          rfl
        exact ⟨by simpa using hlength, .inside hlist hn henter hstat hfinds⟩
      | file content mode'' => cases hkind
      | link target => cases hkind
  · split at h
    · next hfound =>
      obtain ⟨hsource, hfile⟩ := Bool.and_eq_true_iff.1 hfound
      obtain rfl := List.mem_singleton.1 h
      rw [Path.isSource_child_eq hbytes hn] at hsource
      exact ⟨by simp, .file hlist hn hsource hfile⟩
    · exact absurd h List.not_mem_nil

/-- **The search finds each file that there is to find**, as far down as it goes. -/
theorem mem_findsBelow_iff (ht : t.IsSound) : ∀ {k : Nat} {dir : Path} {cs : List Name},
    dir.bytes ≠ [] → (cs ∈ t.findsBelow k dir ↔ cs.length ≤ k ∧ t.Finds dir cs)
  | 0, dir, cs, hbytes => by
    refine ⟨fun h => absurd h List.not_mem_nil, fun ⟨hlength, h⟩ => ?_⟩
    cases h <;> exact absurd hlength (by simp)
  | k + 1, dir, cs, hbytes => by
    have ih {n : Name} {ds : List Name} : ds ∈ t.findsBelow k (dir.child n) ↔
        ds.length ≤ k ∧ t.Finds (dir.child n) ds :=
      mem_findsBelow_iff ht (Path.child_bytes_ne_nil hbytes)
    rw [findsBelow_succ]
    constructor
    · intro h
      cases hes : t.entries dir with
      | error err =>
        rw [hes] at h
        exact absurd h List.not_mem_nil
      | ok es =>
        rw [hes] at h
        obtain ⟨l, mode, hresolve, rfl⟩ := exists_entriesAt_eq hes
        obtain ⟨entry, hentry, h⟩ := List.mem_flatMap.1 h
        exact finds_of_mem_findsOf ht hbytes hresolve (by rw [hes]; rfl) hentry (fun ds => ih.1) h
    · rintro ⟨hlength, h⟩
      obtain ⟨l, mode, hresolve, hes⟩ := exists_entries_of_isOk h.isOk_entries
      rw [hes]
      refine List.mem_flatMap.2 ?_
      cases h with
      | file _ hn hsource hfile =>
        obtain ⟨entry, hentry, hkind⟩ := exists_entry_of_isFile ht hbytes hn hresolve hfile
        refine ⟨_, hentry, ?_⟩
        rw [findsOf]
        split
        · next h => exact absurd h hkind
        · rw [Path.isSource_child_eq hbytes hn, hsource, hfile]
          exact List.mem_singleton_self _
      | inside _ hn henter hdir h =>
        refine ⟨_, (mem_entriesAt_iff ht).2 (node?_of_linkStat hbytes hn hresolve hdir), ?_⟩
        simp only [findsOf, Node.kind, if_neg henter]
        exact List.mem_map_of_mem (ih.2 ⟨by simpa using hlength, h⟩)

/-! ### How deep the search goes -/

/-- The directories on the way to a file are different nodes of the tree. -/
theorem Finds.exists_directories (ht : t.IsSound) (h : t.Finds dir cs) (hbytes : dir.bytes ≠ []) :
    ∀ {l : Location} {node : Node}, t.resolve .followed dir = .ok (.found l node) →
      ∃ ls : List Location, cs.length = ls.length + 1 ∧ ls.Nodup ∧
        ∀ m ∈ ls, m ∈ t.nodes.map Prod.fst ∧ l.length < m.length := by
  induction h with
  | file => exact fun _ => ⟨[], by simp⟩
  | @inside dir n cs mode _ hn _ hdir h ih =>
    intro l node hresolve
    have hnode := node?_of_linkStat hbytes hn hresolve hdir
    obtain ⟨m, hitself⟩ := statWith_eq_ok hdir
    have hchild := resolve_child_of_entries hbytes hn hresolve hnode (by decide) hitself .followed
      (by decide)
    obtain ⟨ls, hlength, hnodup, hls⟩ := ih (Path.child_bytes_ne_nil hbytes) hchild
    refine ⟨(n :: l) :: ls, by simp [hlength], List.nodup_cons.2 ⟨fun hmem => ?_, hnodup⟩, ?_⟩
    · exact absurd (hls _ hmem).2 (by simp)
    · refine List.forall_mem_cons.2 ⟨⟨List.mem_map_of_mem (ht.mem_nodes_iff.2 hnode), by simp⟩, ?_⟩
      intro m hm
      obtain ⟨hnodes, hlt⟩ := hls m hm
      exact ⟨hnodes, by simp at hlt; omega⟩

/-- **No file is deeper than the search goes.** -/
theorem Finds.length_le (ht : t.IsSound) (h : t.Finds dir cs) (hbytes : dir.bytes ≠ []) :
    cs.length ≤ t.nodes.length + 1 := by
  obtain ⟨l, mode, hresolve, -⟩ := exists_entries_of_isOk h.isOk_entries
  obtain ⟨ls, hlength, hnodup, hls⟩ := h.exists_directories ht hbytes hresolve
  have hle := (hnodup.subperm fun m hm => (hls m hm).1).length_le
  rw [List.length_map] at hle
  omega

/-! ### Searching from a directory on -/

/-- **The paths that are found** below a directory. -/
theorem discover_eq_map (ht : t.IsSound) (hroot : t.isDirectory root) :
    t.discover root = (t.findsBelow (t.nodes.length + 1) root).map root.descend := by
  obtain ⟨l, mode, hresolve⟩ := exists_directory_of_isDirectory hroot
  have hnone (kind : Node.Kind) : t.foundFile? (.entry root kind) = none := by
    rw [foundFile?, isFile_eq_false_of_resolve hresolve, Bool.and_false]
    rfl
  have hinside : (t.visitsBelow root (t.nodes.length + 1) root).filterMap t.foundFile? =
      (t.findsBelow (t.nodes.length + 1) root).map root.descend := by
    have hnil : ([] : List Name).any Name.isSkipped = false := rfl
    exact filterMap_visitsBelow ht (bytes_ne_nil_of_resolve hresolve) _ (by simp) hnil
  have hstat : t.stat root = .ok (.directory mode) := by
    rw [stat, statWith, hresolve]
    rfl
  rw [discover, visits]
  rcases resolve_itself_of_resolve hresolve with hitself | ⟨m, target, hitself⟩
  · have hlink : t.linkStat root = .ok (.directory mode) := by
      rw [linkStat, statWith, hitself]
      rfl
    rw [hlink]
    simp only [List.filterMap_cons, hnone, hinside]
  · have hlink : t.linkStat root = .ok (.link target) := by
      rw [linkStat, statWith, hitself]
      rfl
    rw [hlink]
    simp only [hstat, List.filterMap_cons, hnone, hinside]

theorem mem_findsBelow_length_iff (ht : t.IsSound) (hbytes : dir.bytes ≠ []) :
    cs ∈ t.findsBelow (t.nodes.length + 1) dir ↔ t.Finds dir cs :=
  (mem_findsBelow_iff ht hbytes).trans ⟨And.right, fun h => ⟨h.length_le ht hbytes, h⟩⟩

/-! ### What is found -/

/-- A file stands below a root in the way in which it is found. Each directory on the way, the root
included, can be listed; those below the root are directories and not links to directories, and no
marker of directories that are skipped stands in their names; the last name is a text that ends like
a source file but not like a backup; and the path leads to a file, through links at its end. -/
structure Findable (t : FileTree) (root : Path) (cs : List Name) : Prop where
  listed : ∀ ds, ds <+: cs → ds ≠ cs → (t.entries (root.descend ds)).isOk
  directory : ∀ ds, ds <+: cs → ds ≠ [] → ds ≠ cs →
    ∃ mode, t.linkStat (root.descend ds) = .ok (.directory mode)
  entered : ∀ n ∈ cs.dropLast, ∀ marker ∈ skippedMarkers, ¬ Name.ofString marker <:+: n
  source : ∃ n ∈ cs.getLast?, n.text?.isSome ∧ ∃ stem, ∃ e ∈ Name.extensions,
    n = stem ++ e ∧ ¬ Name.ofString backupStem <:+ stem
  file : t.isFile (root.descend cs)

theorem Finds.findable (h : t.Finds dir cs) : t.Findable dir cs := by
  induction h with
  | @file dir n hlist hn hsource hfile =>
    have hbegin {ds : List Name} (hds : ds <+: [n]) (hne : ds ≠ [n]) : ds = [] := by
      rcases List.prefix_cons_iff.1 hds with rfl | ⟨es, rfl, hes⟩
      · rfl
      · exact absurd (by rw [List.prefix_nil.1 hes]) hne
    obtain ⟨htext, hsource⟩ := Bool.and_eq_true_iff.1 hsource
    refine ⟨fun ds hds hne => ?_, fun ds hds hne hne' => absurd (hbegin hds hne') hne, by simp,
      ⟨n, by simp, htext, Name.isSource_iff.1 hsource⟩, hfile⟩
    rw [hbegin hds hne]
    exact hlist
  | @inside dir n cs mode hlist hn henter hdir h ih =>
    have hne : cs ≠ [] := by
      rintro rfl
      exact nomatch h
    refine ⟨fun ds hds hne => ?_, fun ds hds hnil hne => ?_, ?_, ?_, ih.file⟩
    · rcases List.prefix_cons_iff.1 hds with rfl | ⟨es, rfl, hes⟩
      · exact hlist
      · exact ih.listed es hes fun h => hne (by rw [h])
    · rcases List.prefix_cons_iff.1 hds with rfl | ⟨es, rfl, hes⟩
      · exact absurd rfl hnil
      · by_cases hes' : es = []
        · subst hes'
          exact ⟨mode, hdir⟩
        · exact ih.directory es hes hes' fun h => hne (by rw [h])
    · rw [List.dropLast_cons_of_ne_nil hne]
      refine List.forall_mem_cons.2 ⟨fun marker hmarker hinfix => ?_, ih.entered⟩
      exact henter (Name.isSkipped_iff.2 ⟨marker, hmarker, hinfix⟩)
    · obtain ⟨m, hm, hsource⟩ := ih.source
      refine ⟨m, ?_, hsource⟩
      rw [List.getLast?_cons, Option.mem_def.1 hm]
      rfl

theorem Findable.finds : ∀ {cs : List Name} {dir : Path}, t.Findable dir cs →
    (∀ n ∈ cs, n.IsProper) → t.Finds dir cs
  | [], _, h, _ => by
    obtain ⟨n, hn, -⟩ := h.source
    exact nomatch hn
  | [n], dir, h, hproper => by
    obtain ⟨m, hm, htext, hsource⟩ := h.source
    obtain rfl : n = m := by simpa using hm
    exact .file (h.listed [] List.nil_prefix (by simp)) (hproper n List.mem_cons_self)
      (Bool.and_eq_true_iff.2 ⟨htext, Name.isSource_iff.2 hsource⟩) h.file
  | n :: m :: cs, dir, h, hproper => by
    have hbegin {ds : List Name} (hds : ds <+: m :: cs) : n :: ds <+: n :: m :: cs :=
      (List.prefix_cons_inj n).2 hds
    obtain ⟨mode, hdir⟩ := h.directory [n] (hbegin List.nil_prefix) (by simp) (by simp)
    have hrest : t.Findable (dir.child n) (m :: cs) := {
      listed := fun ds hds hne => h.listed (n :: ds) (hbegin hds) (by simpa using hne)
      directory := fun ds hds _ hne =>
        h.directory (n :: ds) (hbegin hds) (by simp) (by simpa using hne)
      entered := fun k hk => h.entered k (List.mem_cons_of_mem n hk)
      source := by
        obtain ⟨k, hk, hsource⟩ := h.source
        exact ⟨k, by rwa [List.getLast?_cons_cons] at hk, hsource⟩
      file := h.file }
    refine .inside (h.listed [] List.nil_prefix (by simp)) (hproper n List.mem_cons_self)
      (fun hskip => ?_) hdir (hrest.finds fun k hk => hproper k (List.mem_cons_of_mem n hk))
    obtain ⟨marker, hmarker, hinfix⟩ := Name.isSkipped_iff.1 hskip
    exact h.entered n List.mem_cons_self marker hmarker hinfix

/-- The search finds the files that are findable. -/
theorem finds_iff_findable (hproper : ∀ n ∈ cs, n.IsProper) : t.Finds dir cs ↔ t.Findable dir cs :=
  ⟨Finds.findable, fun h => h.finds hproper⟩

/-- Nothing is found below a root that leads nowhere. -/
theorem discover_eq_nil {err : SystemError} (h : t.stat root = .error err) :
    t.discover root = [] := by
  have hnone (kind : Node.Kind) : t.foundFile? (.entry root kind) = none := by
    rw [foundFile?, isFile, h, Bool.and_false]
    rfl
  have hentries : ∃ err, t.entries root = .error err := by
    cases hes : t.entries root with
    | error err => exact ⟨err, rfl⟩
    | ok es =>
      obtain ⟨l, mode, hresolve, -⟩ := exists_entriesAt_eq hes
      rw [stat, statWith, hresolve] at h
      cases h
  obtain ⟨err', hentries⟩ := hentries
  rw [discover, visits]
  split
  · rfl
  · simp [hnone]
  · rw [visitsBelow_succ, hentries]
    simp only [List.filterMap_cons, hnone]
    rfl
  · rw [h]
    rfl

theorem Findable.isOk_stat (h : t.Findable root cs) : (t.stat root).isOk := by
  have hne : [] ≠ cs := by
    rintro rfl
    obtain ⟨n, hn, -⟩ := h.source
    exact nomatch hn
  obtain ⟨l, mode, hresolve, -⟩ := exists_entries_of_isOk (h.listed [] List.nil_prefix hne)
  rw [Path.descend_nil] at hresolve
  rw [stat, statWith, hresolve]
  rfl

/-- **What is found, and in which order.** Below a root that leads to a directory, if anywhere, the
search finds the paths that are findable, in the order of the names that lead to them, name by name,
each once. -/
theorem discover_findable (ht : t.IsSound)
    (hroot : ∀ node, t.stat root = .ok node → node.kind = .directory) :
    (∃ finds : List (List Name), t.discover root = finds.map root.descend ∧
      finds.Pairwise (· < ·) ∧ ∀ cs ∈ finds, ∀ n ∈ cs, n.IsProper) ∧
    (t.discover root).Nodup ∧
    ∀ cs : List Name, (∀ n ∈ cs, n.IsProper) →
      (root.descend cs ∈ t.discover root ↔ t.Findable root cs) := by
  cases hstat : t.stat root with
  | error err =>
    rw [discover_eq_nil hstat]
    refine ⟨⟨[], rfl, .nil, by simp⟩, .nil,
      fun cs _ => ⟨fun h => absurd h List.not_mem_nil, fun h => ?_⟩⟩
    have hok := h.isOk_stat
    rw [hstat] at hok
    exact nomatch hok
  | ok node =>
    have hdir : t.isDirectory root := by
      rw [isDirectory, hstat]
      exact beq_iff_eq.2 (hroot node hstat)
    obtain ⟨l, mode, hresolve⟩ := exists_directory_of_isDirectory hdir
    have hbytes := bytes_ne_nil_of_resolve hresolve
    have hmem {cs : List Name} : cs ∈ t.findsBelow (t.nodes.length + 1) root ↔ t.Finds root cs :=
      mem_findsBelow_length_iff ht hbytes
    have hproper : ∀ cs ∈ t.findsBelow (t.nodes.length + 1) root, ∀ n ∈ cs, n.IsProper :=
      fun cs hcs => (hmem.1 hcs).isProper
    have horder := pairwise_findsBelow ht (t.nodes.length + 1) root
    rw [discover_eq_map ht hdir]
    refine ⟨⟨_, rfl, horder, hproper⟩, ?_, fun cs hcs => ?_⟩
    · rw [List.Nodup, List.pairwise_map]
      refine horder.imp_of_mem fun {a b} ha hb hlt hsame => ?_
      rw [Path.descend_inj root (hproper a ha) (hproper b hb) hsame] at hlt
      exact List.lt_irrefl b hlt
    · rw [← finds_iff_findable hcs, ← hmem, List.mem_map]
      constructor
      · rintro ⟨ds, hds, hsame⟩
        rwa [← Path.descend_inj root (hproper ds hds) hcs hsame]
      · exact fun h => ⟨cs, h, rfl⟩

/-- A directory of sources to which a link leads, with a directory that is skipped, and a link to a
file among the sources. -/
def linkedSources : FileTree where
  nodes :=
    [([], .directory 0o755), (workplace, .directory 0o755),
      (Name.ofString "site" :: workplace, .link (Path.ofString "app")),
      (Name.ofString "app" :: workplace, .directory 0o755),
      (Name.ofString "a.jsx" :: Name.ofString "app" :: workplace, .file .empty 0o644),
      (Name.ofString "a" :: Name.ofString "app" :: workplace, .directory 0o755),
      (Name.ofString "x.js" :: Name.ofString "a" :: Name.ofString "app" :: workplace,
        .file .empty 0o644),
      (Name.ofString "build" :: Name.ofString "app" :: workplace, .directory 0o755),
      (Name.ofString "y.js" :: Name.ofString "build" :: Name.ofString "app" :: workplace,
        .file .empty 0o644),
      (Name.ofString "z.js" :: Name.ofString "app" :: workplace, .link (Path.ofString "a/x.js"))]
  current := workplace
  guarded := true

/-- The sources are listed through the link, the directory before the file of the same name, and
without those in the directory that is skipped. -/
theorem discover_findable_linkedSources :
    linkedSources.IsSound ∧
    linkedSources.discover (Path.ofString "site") =
      [Path.ofString "site/a/x.js", Path.ofString "site/a.jsx", Path.ofString "site/z.js"] ∧
    (∃ finds : List (List Name),
      linkedSources.discover (Path.ofString "site") = finds.map (Path.ofString "site").descend ∧
        finds.Pairwise (· < ·) ∧ ∀ cs ∈ finds, ∀ n ∈ cs, n.IsProper) ∧
    (linkedSources.discover (Path.ofString "site")).Nodup ∧
    ∀ cs : List Name, (∀ n ∈ cs, n.IsProper) →
      ((Path.ofString "site").descend cs ∈ linkedSources.discover (Path.ofString "site") ↔
        linkedSources.Findable (Path.ofString "site") cs) := by
  have hsound : linkedSources.IsSound := by decide
  have hstat : linkedSources.stat (Path.ofString "site") = .ok (.directory 0o755) := by
    decide
  refine ⟨hsound, by decide, discover_findable hsound fun node hnode => ?_⟩
  obtain rfl := Except.ok.inj (hstat.symm.trans hnode)
  rfl

end FileTree

end Restyle
