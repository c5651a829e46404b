import Mathlib.Data.List.Nodup
import Restyle.Proofs.Conversion.Discovery
import Restyle.Proofs.FileTree.Frame

/-!
# Source files in trees without links

In a sound tree without links a file that is found stands under the last name of its path, in the
directory that the path before leads to, and so does its backup. The search finds each such file
once. What it finds depends on the directories of the tree and on the names of the source files in
them, and on nothing else.

## Main definitions

* `Restyle.FileTree.FoundAt` — a path is that of a source file under a name in a directory.
* `Restyle.FileTree.SameSources` — two trees have the same directories and source files in them.

## Main results

* `Restyle.FileTree.FoundAt.exists_backup` — where the backup of a source file stands.
* `Restyle.FileTree.exists_foundAt` — where the search finds files.
* `Restyle.FileTree.pairwise_location?_discover` — the search finds each file once.
* `Restyle.FileTree.SameSources.discover_eq_of_isDirectory` — what its finds depend on.
-/

namespace Restyle

namespace FileTree

variable {t u : FileTree} {l d : Location} {n : Name} {p dir root : Path} {cs : List Name}
  {e : Ending}

/-- **Where the path of a name in a directory leads**, if it leads anywhere. -/
theorem exists_leadsTo_child (hlink : t.LinkFree) {place : Place} (hn : n.IsProper)
    (hbytes : dir.bytes ≠ []) (h : t.resolve e (dir.child n) = .ok place) :
    ∃ d, t.enterFrom dir.way = some d ∧ t.LeadsTo (dir.child n) d n ∧ place = t.placeAt d n :=
  exists_leadsTo_of_resolve hlink dir.exists_way_eq (Path.steps_child hbytes hn) h

/-- A path is that of a source file under a name in a directory. -/
structure FoundAt (t : FileTree) (p : Path) (d : Location) (n : Name) : Prop where
  exists_child : ∃ dir : Path, p = dir.child n ∧ dir.bytes ≠ [] ∧ t.enterFrom dir.way = some d
  isProper : n.IsProper
  isSome_text : n.text?.isSome
  isSource : n.isSource
  exists_file : ∃ content mode, t.node? (n :: d) = some (.file content mode)
  permit_eq : permit p n = .ok ()

namespace FoundAt

theorem leadsTo (h : t.FoundAt p d n) : t.LeadsTo p d n := by
  obtain ⟨dir, rfl, hbytes, hd⟩ := h.exists_child
  exact ⟨dir.way, Path.steps_child hbytes h.isProper, hd⟩

theorem location?_eq (h : t.FoundAt p d n) (hlink : t.LinkFree) : t.location? p = some (n :: d) :=
  h.leadsTo.location?_eq_some hlink h.permit_eq

/-- **The backup of a source file** stands in the same directory. -/
theorem exists_backup (h : t.FoundAt p d n) :
    ∃ b m, p.backup? = some b ∧ n.backup? = some m ∧ t.LeadsTo b d m := by
  obtain ⟨dir, rfl, hbytes, hd⟩ := h.exists_child
  obtain ⟨m, hname⟩ := Option.isSome_iff_exists.1 (Name.isSome_backup?_of_isSource h.isSource)
  have hb := Path.backup?_child hbytes h.isProper h.isSome_text hname
  obtain ⟨m, hm, way, idle, hway, hidle, hsteps⟩ :=
    Path.exists_way_of_backup? hbytes h.isProper hb
  refine ⟨_, m, hb, hm, way, hsteps, ?_⟩
  rw [← enterFrom_append_idle hidle, ← hway, hd]

theorem stat_eq (h : t.FoundAt p d n) (hframe : SameFrame t u) (hlink : u.LinkFree) {node : Node}
    (hnode : u.node? (n :: d) = some node) : u.stat p = .ok node := by
  rw [(hframe.leadsTo h.leadsTo).stat_eq hlink, h.permit_eq, hnode]
  rfl

/-- A source file is not its own backup. -/
theorem ne_backup {m : Name} (h : t.FoundAt p d n) (hm : n.backup? = some m) : n :: d ≠ m :: d :=
  fun heq => Name.not_isSource_of_backup? hm ((List.cons.inj heq).1 ▸ h.isSource)

/-- A file that is found is found as long as it is a file and the directories stay. -/
theorem of_sameFrame (h : t.FoundAt p d n) (hframe : SameFrame t u)
    (hfile : ∃ content mode, u.node? (n :: d) = some (.file content mode)) : u.FoundAt p d n := by
  obtain ⟨dir, hp, hbytes, hd⟩ := h.exists_child
  exact ⟨⟨dir, hp, hbytes, by rw [hframe.enterFrom_eq, hd]⟩, h.isProper, h.isSome_text, h.isSource,
    hfile, h.permit_eq⟩

end FoundAt

/-! ### Where files are found -/

/-- A file that there is to find stands at the location to which its names lead. -/
theorem Finds.exists_foundAt (hlink : t.LinkFree) (h : t.Finds dir cs) (hbytes : dir.bytes ≠ []) :
    ∀ {l : Location} {node : Node}, t.resolve .followed dir = .ok (.found l node) →
      ∃ d n, t.FoundAt (dir.descend cs) d n ∧ n :: d = cs.reverse ++ l := by
  induction h with
  | @file dir n _ hn hsource hfile =>
    intro l node hresolve
    obtain ⟨m, content, mode, hplace⟩ := exists_file_of_isFile hfile
    obtain ⟨d, hd, hleads, hat⟩ := exists_leadsTo_child hlink hn hbytes hplace
    obtain ⟨htext, hsource⟩ := Bool.and_eq_true_iff.1 hsource
    rcases resolve_child hbytes hn hresolve (by decide) hplace with
      ⟨-, h⟩ | ⟨target, h, -⟩ | ⟨x, hx, -, hall⟩
    · cases h
    · exact absurd h (hlink _ _)
    · obtain ⟨rfl, rfl⟩ :=
        Place.found.inj (Except.ok.inj (hplace.symm.trans (hall .followed (by decide))))
      obtain rfl : l = d := by
        rw [placeAt] at hat
        split at hat
        · exact (List.cons.inj (Place.found.inj hat).1).2
        · cases hat
      refine ⟨l, n, ⟨⟨dir, rfl, hbytes, hd⟩, hn, htext, hsource, ⟨content, mode, hx⟩, ?_⟩, rfl⟩
      rw [hleads.resolve_eq hlink] at hplace
      exact (exists_of_map_permit hplace).1
  | @inside dir n cs mode _ hn _ hdir _ ih =>
    intro l node hresolve
    obtain ⟨m, hitself⟩ := statWith_eq_ok hdir
    have hchild := resolve_child_of_entries hbytes hn hresolve
      (node?_of_linkStat hbytes hn hresolve hdir) (by decide) hitself .followed (by decide)
    obtain ⟨d, m, hfound, hlocation⟩ := ih (Path.child_bytes_ne_nil hbytes) hchild
    exact ⟨d, m, hfound, by rw [hlocation, List.reverse_cons, List.append_assoc]; rfl⟩

theorem mem_discover_iff (ht : t.IsSound) (hroot : t.isDirectory root) :
    p ∈ t.discover root ↔ ∃ cs, t.Finds root cs ∧ p = root.descend cs := by
  obtain ⟨l, mode, hresolve⟩ := exists_directory_of_isDirectory hroot
  rw [discover_eq_map ht hroot, List.mem_map]
  refine exists_congr fun cs => ?_
  rw [mem_findsBelow_length_iff ht (bytes_ne_nil_of_resolve hresolve), eq_comm]

/-- **Where the search finds files**: under the last names of their paths. -/
theorem exists_foundAt (ht : t.IsSound) (hlink : t.LinkFree) (hroot : t.isDirectory root) :
    ∀ p ∈ t.discover root, ∃ d n, t.FoundAt p d n := by
  obtain ⟨l, mode, hresolve⟩ := exists_directory_of_isDirectory hroot
  intro p hp
  obtain ⟨cs, hfinds, rfl⟩ := (mem_discover_iff ht hroot).1 hp
  obtain ⟨d, n, hfound, -⟩ :=
    hfinds.exists_foundAt hlink (bytes_ne_nil_of_resolve hresolve) hresolve
  exact ⟨d, n, hfound⟩

/-- **The search finds each file once.** -/
theorem pairwise_location?_discover (ht : t.IsSound) (hlink : t.LinkFree)
    (hroot : t.isDirectory root) :
    (t.discover root).Pairwise fun p q => t.location? p ≠ t.location? q := by
  obtain ⟨l, mode, hresolve⟩ := exists_directory_of_isDirectory hroot
  have hbytes := bytes_ne_nil_of_resolve hresolve
  have hlocation {cs : List Name} (hcs : cs ∈ t.findsBelow (t.nodes.length + 1) root) :
      t.location? (root.descend cs) = some (cs.reverse ++ l) := by
    obtain ⟨d, n, hfound, heq⟩ := ((mem_findsBelow_length_iff ht hbytes).1 hcs).exists_foundAt hlink
      hbytes hresolve
    rw [hfound.location?_eq hlink, heq]
  rw [discover_eq_map ht hroot, List.pairwise_map]
  refine (pairwise_findsBelow ht _ root).imp_of_mem fun {cs ds} hcs hds hlt hsame => ?_
  rw [hlocation hcs, hlocation hds] at hsame
  have hreverse := List.append_cancel_right (Option.some.inj hsame)
  rw [List.reverse_injective hreverse] at hlt
  exact List.lt_irrefl ds hlt

/-! ### Trees with the same source files -/

/-- Two trees have the same directories, and source files at the same locations. -/
structure SameSources (t u : FileTree) : Prop extends SameFrame t u where
  file : ∀ d n, n.IsProper → n.text?.isSome → n.isSource →
    ((∃ content mode, u.node? (n :: d) = some (.file content mode)) ↔
      ∃ content mode, t.node? (n :: d) = some (.file content mode))

theorem SameSources.symm (h : SameSources t u) : SameSources u t :=
  ⟨h.toSameFrame.symm, fun d n hn htext hsource => (h.file d n hn htext hsource).symm⟩

theorem SameFrame.isOk_entries (h : SameFrame t u) (hlink : t.LinkFree)
    (hlist : (t.entries dir).isOk) : (u.entries dir).isOk := by
  obtain ⟨l, mode, hresolve, -⟩ := exists_entries_of_isOk hlist
  rw [entries, hresolve] at hlist
  rw [entries, h.resolve_directory hlink (by decide) (by decide) hresolve]
  simp only [bind, Except.bind, h.permits_eq] at hlist ⊢
  cases hmode : t.permits readBit mode with
  | false =>
    rw [hmode] at hlist
    cases hlist
  | true => rfl

theorem SameFrame.isDirectory_eq (h : SameFrame t u) (hlink : t.LinkFree) (hlink' : u.LinkFree)
    (dir : Path) : u.isDirectory dir = t.isDirectory dir := by
  have aux {t u : FileTree} (h : SameFrame t u) (hlink : t.LinkFree) (hdir : t.isDirectory dir) :
      u.isDirectory dir := by
    obtain ⟨l, mode, hresolve⟩ := exists_directory_of_isDirectory hdir
    rw [isDirectory, stat, statWith, h.resolve_directory hlink (by decide) (by decide) hresolve]
    rfl
  exact Bool.eq_iff_iff.2 ⟨aux h.symm hlink', aux h hlink⟩

/-- What there is to find depends on the directories and on where source files stand. -/
theorem Finds.of_sameSources (h : SameSources t u) (hlink : t.LinkFree) (hlink' : u.LinkFree)
    (hfinds : t.Finds dir cs) (hbytes : dir.bytes ≠ []) : u.Finds dir cs := by
  induction hfinds with
  | @file dir n hlist hn hsource hfile =>
    obtain ⟨l, mode, hresolve, -⟩ := exists_entries_of_isOk hlist
    obtain ⟨d, m, hfound, heq⟩ :=
      (Finds.file hlist hn hsource hfile).exists_foundAt hlink hbytes hresolve
    obtain ⟨rfl, rfl⟩ := List.cons.inj heq
    obtain ⟨content, mode', hnode⟩ :=
      (h.file _ _ hn hfound.isSome_text hfound.isSource).2 hfound.exists_file
    refine .file (h.toSameFrame.isOk_entries hlink hlist) hn hsource ?_
    have hstat : u.stat (dir.child m) = .ok (.file content mode') :=
      hfound.stat_eq h.toSameFrame hlink' hnode
    rw [isFile, hstat]
    rfl
  | @inside dir n cs mode hlist hn henter hdir _ ih =>
    obtain ⟨l, hresolve⟩ := statWith_eq_ok hdir
    have hdir' : u.linkStat (dir.child n) = .ok (.directory mode) := by
      rw [linkStat, statWith,
        h.toSameFrame.resolve_directory hlink (by decide) (by decide) hresolve]
      rfl
    exact .inside (h.toSameFrame.isOk_entries hlink hlist) hn henter hdir'
      (ih (Path.child_bytes_ne_nil hbytes))

/-- **What the search finds** below a directory depends on the directories and on where source files
stand. -/
theorem SameSources.discover_eq_of_isDirectory (h : SameSources t u) (ht : t.IsSound)
    (hu : u.IsSound) (hlink : t.LinkFree) (hlink' : u.LinkFree) (hroot : t.isDirectory root) :
    u.discover root = t.discover root := by
  obtain ⟨l, mode, hresolve⟩ := exists_directory_of_isDirectory hroot
  have hbytes := bytes_ne_nil_of_resolve hresolve
  have hroot' : u.isDirectory root := by rwa [h.toSameFrame.isDirectory_eq hlink hlink']
  have horder := pairwise_findsBelow ht (t.nodes.length + 1) root
  have horder' := pairwise_findsBelow hu (u.nodes.length + 1) root
  have hperm : (u.findsBelow (u.nodes.length + 1) root).Perm
      (t.findsBelow (t.nodes.length + 1) root) := by
    refine (List.perm_ext_iff_of_nodup horder'.nodup horder.nodup).2 fun cs => ?_
    rw [mem_findsBelow_length_iff hu hbytes, mem_findsBelow_length_iff ht hbytes]
    exact ⟨fun hcs => hcs.of_sameSources h.symm hlink' hlink hbytes,
      fun hcs => hcs.of_sameSources h hlink hlink' hbytes⟩
  rw [discover_eq_map ht hroot, discover_eq_map hu hroot', hperm.eq_of_pairwise
    (fun _ _ _ _ hlt hgt => absurd hgt (List.lt_asymm hlt)) horder' horder]

/-! ### A small tree -/

/-- A directory with a source file, one that may not be written, one that is no text, and one with a
backup that was made by hand. -/
def mixedSources : FileTree where
  nodes :=
    [([], .directory 0o755), (workplace, .directory 0o755),
      (Name.ofString "src" :: workplace, .directory 0o755),
      (Name.ofString "a.js" :: Name.ofString "src" :: workplace,
        .file "<Box fullWidth>a</Box>".toUTF8 0o644),
      (Name.ofString "b.jsx" :: Name.ofString "src" :: workplace,
        .file "<Box fullWidth>b</Box>".toUTF8 0o444),
      (Name.ofString "c.js" :: Name.ofString "src" :: workplace, .file ⟨#[0xff]⟩ 0o644),
      (Name.ofString "d.js" :: Name.ofString "src" :: workplace,
        .file "<Box fullWidth>d</Box>".toUTF8 0o644),
      (Name.ofString "d_MUI_backup.js" :: Name.ofString "src" :: workplace, .file "d".toUTF8 0o644)]
  current := workplace
  guarded := true

/-- Two roots that lead to its directory. -/
def overlappingRoots : List SourceRoot :=
  [⟨"All", Path.ofString "src"⟩, ⟨"Again", Path.ofString "./src"⟩]

theorem isSound_mixedSources : mixedSources.IsSound := by decide

theorem linkFree_mixedSources : mixedSources.LinkFree := linkFree_of_forall (by decide)

theorem isDirectory_mixedSources : mixedSources.isDirectory (Path.ofString "src") := by
  decide

end FileTree

end Restyle
