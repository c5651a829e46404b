import Restyle.Proofs.Conversion.Writing
import Restyle.Proofs.FileTree.Address

/-!
# Originals

The first original of a source file is not lost. At any point of a run, between any two writes, a
source file has the content it had before the run, or there is something at the place of its backup,
and if there was nothing before, it is that content. Once there is a backup, or any other file that
is no source file, neither runs nor anything that is done to source files from outside change it.

## Main definitions

* `Restyle.FileTree.Deed` — a run, or something that is done to a source file from outside.

## Main results

* `Restyle.RuleSet.original_at_every_write` — source files at any point of a run.
* `Restyle.FileTree.originals_kept` — files that are no source files, and new backups, in the course
  of any deeds.
-/

namespace Restyle

open Relation

namespace Location

variable {l d : Location} {n m : Name}

/-- The locations of source files have a name with a backup. -/
theorem isSource_path_iff (hl : IsProper l) :
    l.path.isSource ↔ ∃ d n m, l = n :: d ∧ Name.BackedBy n m := by
  cases l with
  | nil => exact iff_of_false (by decide) fun ⟨_, _, _, h, _⟩ => nomatch h
  | cons n d =>
    have hn : n.IsProper := hl n List.mem_cons_self
    rw [isSource_path_cons hn, Bool.and_eq_true]
    constructor
    · rintro ⟨htext, hsource⟩
      obtain ⟨m, hname⟩ := Name.exists_backedBy hn htext hsource
      exact ⟨d, n, m, rfl, hname⟩
    · rintro ⟨d', n', m, h, hname⟩
      rw [(List.cons.inj h).1]
      exact ⟨hname.isSome_text, hname.isSource⟩

theorem backup?_path_of_backedBy (hl : IsProper (n :: d)) (h : n.BackedBy m) :
    (path (n :: d)).backup? = some (path (m :: d)) := by
  rw [backup?_path_cons (fun k hk => hl k (List.mem_cons_of_mem n hk)) h.isProper, h.isSome_text,
    if_pos rfl, h.backup?_eq, Option.map_some]

/-- Different source files have different backups. -/
theorem eq_of_backup?_path_eq {l' b : Location} (hl : IsProper l) (hl' : IsProper l')
    (hsource : l.path.isSource) (hsource' : l'.path.isSource) (h : l.path.backup? = some b.path)
    (h' : l'.path.backup? = some b.path) : l = l' := by
  obtain ⟨d, n, m, rfl, hname⟩ := (isSource_path_iff hl).1 hsource
  obtain ⟨d', n', m', rfl, hname'⟩ := (isSource_path_iff hl').1 hsource'
  rw [backup?_path_of_backedBy hl hname] at h
  rw [backup?_path_of_backedBy hl' hname', ← h] at h'
  have hproper {d : Location} {n m : Name} (hl : IsProper (n :: d)) (hname : n.BackedBy m) :
      IsProper (m :: d) :=
    .cons hname.isProper_backup fun k hk => hl k (List.mem_cons_of_mem n hk)
  obtain ⟨rfl, rfl⟩ := List.cons.inj
    (path_inj (hproper hl' hname') (hproper hl hname) (Option.some.inj h'))
  rw [hname.left_unique hname']

end Location

namespace FileTree

variable {t u v : FileTree} {l : Location} {node : Node}

namespace Preserves

/-- What is no source file stays as it is. -/
theorem node?_of_not_isSource (h : Preserves t u) (ht : t.IsSound) (hl : ¬ l.path.isSource)
    (hnode : t.node? l = some node) : u.node? l = some node := by
  rcases h.kept l node hnode with hsame | ⟨d, n, m, heq, hname, -⟩
  · exact hsame
  · exact absurd ((Location.isSource_path_iff (ht.isProper hnode)).2 ⟨d, n, m, heq, hname⟩) hl

/-- What is new is the backup of one source file and holds its content. -/
theorem exists_original (h : Preserves t u) (ht : t.IsSound) (hnone : t.node? l = none)
    (hnode : u.node? l = some node) :
    ∃ s : Location, s.path.isSource ∧ s.path.backup? = some l.path ∧
      (∀ s' : Location, s'.IsProper → s'.path.isSource → s'.path.backup? = some l.path → s' = s) ∧
      ∃ content mode, t.node? s = some (.file content mode) ∧ node = .file content newFileMode := by
  obtain ⟨d, n, m, rfl, hname, content, mode, hfile, hcopy⟩ := h.added l node hnone hnode
  have hproper := ht.isProper hfile
  have hsource := (Location.isSource_path_iff hproper).2 ⟨d, n, m, rfl, hname⟩
  have hbackup := Location.backup?_path_of_backedBy hproper hname
  exact ⟨n :: d, hsource, hbackup,
    fun s' hs' hsource' hbackup' =>
      Location.eq_of_backup?_path_eq hs' hproper hsource' hsource hbackup' hbackup,
    content, mode, hfile, hcopy⟩

/-- **A source file stays as it is, or it has a backup**, which holds its content if it is new. -/
theorem original (h : Preserves t u) (ht : t.IsSound) (hsource : l.path.isSource)
    {content : ByteArray} {mode : Nat} (hnode : t.node? l = some (.file content mode)) :
    u.node? l = some (.file content mode) ∨ ∃ b : Location, l.path.backup? = some b.path ∧
      (u.node? b).isSome ∧ (t.node? b = none → u.node? b = some (.file content newFileMode)) := by
  have hproper := ht.isProper hnode
  rcases h.kept l _ hnode with hsame | ⟨d, n, m, rfl, hname, hbackup, -⟩
  · exact .inl hsame
  · have hpath := Location.backup?_path_of_backedBy hproper hname
    refine .inr ⟨m :: d, hpath, hbackup, fun hnone => ?_⟩
    obtain ⟨node, hcopy⟩ := Option.isSome_iff_exists.1 hbackup
    obtain ⟨s, -, -, hunique, content', mode', hfile, rfl⟩ := h.exists_original ht hnone hcopy
    rw [← hunique _ hproper hsource hpath, hnode] at hfile
    rw [hcopy, (Node.file.inj (Option.some.inj hfile)).1]

end Preserves

end FileTree

open FileTree

namespace RuleSet

variable {t : FileTree}

/-- **Source files at any point of a run.** The writes of a run are put down in its order; between
any two of them, each source file has the content it had before the run, or there is something at
the place of its backup, which holds this content if there was nothing before. -/
theorem original_at_every_write (rs : RuleSet) (ht : t.IsSound) (hlink : t.LinkFree)
    (roots : List SourceRoot) {before after : List (Path × String)}
    (h : (rs.run t roots).writes = before ++ after) :
    ∃ u, t.writeAll before = .ok u ∧ u.writeAll after = .ok (rs.run t roots).tree ∧
      ∀ (l : Location) (content : ByteArray) (mode : Nat), l.path.isSource →
        t.node? l = some (.file content mode) →
          u.node? l = some (.file content mode) ∨ ∃ b : Location, l.path.backup? = some b.path ∧
            (u.node? b).isSome ∧
            (t.node? b = none → u.node? b = some (.file content newFileMode)) := by
  have hprogress := rs.progress_run ht hlink roots
  rw [h] at hprogress
  obtain ⟨u, hbefore, hafter⟩ := hprogress.exists_of_append
  exact ⟨u, hbefore.writeAll_eq, hafter.writeAll_eq,
    fun l content mode hsource hnode => hbefore.preserves.original ht hsource hnode⟩

/-- What is written there until the second file is saved. -/
def firstWrites : List (Path × String) :=
  [(Path.ofString "src/a_MUI_backup.js", "<Box fullWidth>a</Box>"),
    (Path.ofString "src/a.js", "<div fullWidth>a</div>"),
    (Path.ofString "src/b_MUI_backup.jsx", "<Box fullWidth>b</Box>")]

theorem original_after_firstWrites :
    (mixedSources.IsSound ∧ mixedSources.LinkFree) ∧
    (boxRules.run mixedSources overlappingRoots).writes =
      firstWrites ++ [(Path.ofString "src/d.js", "<div fullWidth>d</div>")] ∧
    ∃ u, mixedSources.writeAll firstWrites = .ok u ∧
      ∀ (l : Location) (content : ByteArray) (mode : Nat), l.path.isSource →
        mixedSources.node? l = some (.file content mode) →
          u.node? l = some (.file content mode) ∨ ∃ b : Location, l.path.backup? = some b.path ∧
            (u.node? b).isSome ∧
            (mixedSources.node? b = none → u.node? b = some (.file content newFileMode)) := by
  have hwrites : (boxRules.run mixedSources overlappingRoots).writes =
      firstWrites ++ [(Path.ofString "src/d.js", "<div fullWidth>d</div>")] := by decide +kernel
  obtain ⟨u, hbefore, -, horiginal⟩ := original_at_every_write boxRules isSound_mixedSources
    linkFree_mixedSources overlappingRoots hwrites
  exact ⟨⟨isSound_mixedSources, linkFree_mixedSources⟩, hwrites, u, hbefore, horiginal⟩

end RuleSet

namespace FileTree

variable {t u v : FileTree}

/-- A run, or something that is done to a source file from outside. -/
inductive Deed : FileTree → FileTree → Prop
  /-- a run with any rules and any roots -/
  | run (rs : RuleSet) (t : FileTree) (roots : List SourceRoot) : Deed t (rs.run t roots).tree
  /-- a source file is made, or its content or its permissions are changed -/
  | save {t : FileTree} {l : Location} (hproper : l.IsProper) (hsource : l.path.isSource)
      (hplace : ∀ node, t.node? l = some node → node.kind = .file) (content : ByteArray)
      (mode : Nat) : Deed t (t.put l (.file content mode))
  /-- a source file is deleted -/
  | delete {t : FileTree} {l : Location} (hsource : l.path.isSource)
      (hfile : ∀ node, t.node? l = some node → node.kind = .file) : Deed t (t.drop l)

/-- What every deed keeps. -/
theorem Deed.spec (h : Deed t u) (ht : t.IsSound) (hlink : t.LinkFree) :
    u.IsSound ∧ u.LinkFree ∧
      ∀ l node, ¬ l.path.isSource → t.node? l = some node → u.node? l = some node := by
  cases h with
  | run rs t roots =>
    have hpreserves := (rs.progress_run ht hlink roots).preserves
    exact ⟨hpreserves.isSound ht, hpreserves.linkFree hlink,
      fun l node hl hnode => hpreserves.node?_of_not_isSource ht hl hnode⟩
  | @save t l hproper hsource hplace content mode =>
    refine ⟨ht.put hproper _, fun l' target => ?_, fun l' node hl' hnode => ?_⟩
    · rw [node?_put]
      split
      · exact nofun
      · exact hlink l' target
    · rwa [node?_put, if_neg fun h : l' = l => hl' (h ▸ hsource)]
  | @delete t l hsource =>
    refine ⟨ht.drop l, fun l' target => ?_, fun l' node hl' hnode => ?_⟩
    · rw [node?_drop]
      split
      · exact nofun
      · exact hlink l' target
    · rwa [node?_drop, if_neg fun h : l' = l => hl' (h ▸ hsource)]

/-- What any number of deeds keeps. -/
theorem spec_of_deeds (h : ReflTransGen Deed t u) (ht : t.IsSound) (hlink : t.LinkFree) :
    u.IsSound ∧ u.LinkFree ∧
      ∀ l node, ¬ l.path.isSource → t.node? l = some node → u.node? l = some node := by
  induction h with
  | refl => exact ⟨ht, hlink, fun _ _ _ hnode => hnode⟩
  | tail _ hdeed ih =>
    obtain ⟨ht', hlink', hkept⟩ := ih
    obtain ⟨ht'', hlink'', hkept'⟩ := hdeed.spec ht' hlink'
    exact ⟨ht'', hlink'', fun l node hl hnode => hkept' l node hl (hkept l node hl hnode)⟩

/-- **Originals are kept.** Whatever has been done to a tree, a file that is no source file keeps
its content whatever is done later, and what a run adds to the tree is the backup of one source
file, with the content that this file has at the start of the run. -/
theorem originals_kept (ht : t.IsSound) (hlink : t.LinkFree) (h : ReflTransGen Deed t u) :
    (∀ v, ReflTransGen Deed u v → ∀ (l : Location) (content : ByteArray) (mode : Nat),
      ¬ l.path.isSource → u.node? l = some (.file content mode) →
        v.node? l = some (.file content mode)) ∧
    ∀ (rs : RuleSet) (roots : List SourceRoot) (l : Location) (node : Node),
      u.node? l = none → (rs.run u roots).tree.node? l = some node →
        ∃ s : Location, s.path.isSource ∧ s.path.backup? = some l.path ∧
          (∀ s' : Location, s'.IsProper → s'.path.isSource → s'.path.backup? = some l.path →
            s' = s) ∧
          ∃ content mode, u.node? s = some (.file content mode) ∧
            node = .file content newFileMode := by
  obtain ⟨hu, hlink', -⟩ := spec_of_deeds h ht hlink
  refine ⟨fun v hv l content mode hl hnode => ?_, fun rs roots l node hnone hnode => ?_⟩
  · obtain ⟨-, -, hkept⟩ := spec_of_deeds hv hu hlink'
    exact hkept l _ hl hnode
  · exact (rs.progress_run hu hlink' roots).preserves.exists_original hu hnone hnode

/-- A run, a change of a source file from outside, and another run. The backup that was made by hand
and the one that the first run has made stay through whatever follows. -/
theorem originals_kept_mixedSources :
    let u := (boxRules.run mixedSources [⟨"All", Path.ofString "src"⟩]).tree
    let v := u.put (Name.ofString "a.js" :: Name.ofString "src" :: workplace)
      (.file "<Box>new</Box>".toUTF8 0o644)
    let w := (boxRules.run v [⟨"All", Path.ofString "src"⟩]).tree
    (mixedSources.IsSound ∧ mixedSources.LinkFree ∧ ReflTransGen Deed mixedSources u ∧
      ReflTransGen Deed u w) ∧
    w.node? (Name.ofString "d_MUI_backup.js" :: Name.ofString "src" :: workplace) =
      some (.file "d".toUTF8 0o644) ∧
    w.node? (Name.ofString "a_MUI_backup.js" :: Name.ofString "src" :: workplace) =
      some (.file "<Box fullWidth>a</Box>".toUTF8 newFileMode) := by
  intro u v w
  have hrun : ReflTransGen Deed mixedSources u := .single (.run boxRules mixedSources _)
  have hedit : Deed u v := .save (by decide) (by decide)
    (fun node hnode => by
      have hold : u.node? (Name.ofString "a.js" :: Name.ofString "src" :: workplace) =
          some (.file "<div fullWidth>a</div>".toUTF8 0o644) := by decide +kernel
      rw [← Option.some.inj (hold.symm.trans hnode)]
      rfl) _ _
  have hlater : ReflTransGen Deed u w := .head hedit (.single (.run boxRules v _))
  obtain ⟨hkept, -⟩ := originals_kept isSound_mixedSources linkFree_mixedSources hrun
  exact ⟨⟨isSound_mixedSources, linkFree_mixedSources, hrun, hlater⟩,
    hkept w hlater _ _ _ (by decide) (by decide +kernel),
    hkept w hlater _ _ _ (by decide) (by decide +kernel)⟩

end FileTree

end Restyle
