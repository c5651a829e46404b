import Restyle.Proofs.Conversion.Writing

/-!
# What the search finds after a run

A run makes files in the directories that it searches. Their names carry the marker of backups, so
none of them is that of a source file, and the files that the run rewrites are still files. Wherever
a search begins, it finds after the run what it has found before, in the same order, and the same
holds at any time during the run, as between two of its roots.

A search may begin at a file. A path that leads to a file leads to its last name in a directory, so
this case does not differ: the file is found if its name is that of a source file.

## Main results

* `Restyle.FileTree.discover_of_not_isDirectory` — what the search finds that begins at no
  directory.
* `Restyle.FileTree.SameSources.discover_eq` — what it finds depends on where source files stand.
* `Restyle.RuleSet.discover_run` — what it finds after a run.
-/

namespace Restyle

namespace FileTree

variable {t u : FileTree} {p root : Path}

/-- **A search that begins at no directory** finds the path where it begins, if it is that of a
source file. -/
theorem discover_of_not_isDirectory (hlink : t.LinkFree) (hroot : ¬ t.isDirectory root) :
    t.discover root = if root.isSource && t.isFile root then [root] else [] := by
  have hentry (kind : Node.Kind) : [Visit.entry root kind].filterMap t.foundFile? =
      if root.isSource && t.isFile root then [root] else [] := by
    cases hfound : root.isSource && t.isFile root <;> simp [foundFile?, hfound]
  rw [discover, visits]
  split
  · next err hitself =>
    -- a path to a file leads somewhere, whether a link at its end is followed or not
    refine (if_neg fun hfile => ?_).symm
    obtain ⟨l, content, mode, hresolve⟩ := exists_file_of_isFile (Bool.and_eq_true_iff.1 hfile).2
    rcases resolve_itself_of_resolve hresolve with h | ⟨m, target, h⟩ <;>
    · rw [linkStat, statWith, h] at hitself
      cases hitself
  · exact hentry .file
  · next mode hitself =>
    obtain ⟨l, hresolve⟩ := statWith_eq_ok hitself
    refine absurd ?_ hroot
    rw [isDirectory, stat, statWith,
      (SameFrame.refl t).resolve_directory hlink (by decide) (by decide) hresolve]
    rfl
  · next target hitself =>
    cases hstat : t.stat root with
    | error err =>
      rw [isFile, hstat, Bool.and_false]
      rfl
    | ok node =>
      cases node with
      | directory mode =>
        rw [isDirectory, hstat] at hroot
        exact absurd rfl hroot
      | file content mode => exact hentry .link
      | link target' => exact hentry .link

/-- Whether the path of a source file leads to a file depends on where source files stand. -/
theorem SameSources.isFile_eq (h : SameSources t u) (hlink : t.LinkFree) (hlink' : u.LinkFree)
    (hsource : p.isSource) : u.isFile p = t.isFile p := by
  obtain ⟨n, hname, hn⟩ : ∃ n, p.fileName? = some n ∧ (n.text?.isSome && n.isSource) :=
    (Option.any_eq_true _ _).1 hsource
  obtain ⟨htext, hsource⟩ := Bool.and_eq_true_iff.1 hn
  have hproper := (Path.exists_way_of_fileName? hname).1
  have aux {t u : FileTree} (h : SameSources t u) (hlink : t.LinkFree) (hlink' : u.LinkFree)
      (hfile : t.isFile p) : u.isFile p := by
    obtain ⟨l, content, mode, hresolve⟩ := exists_file_of_isFile hfile
    obtain ⟨d, hleads⟩ := exists_leadsTo_of_resolve_file hlink (by decide) hname hresolve
    rw [hleads.resolve_eq hlink] at hresolve
    obtain ⟨hpermit, hplace⟩ := exists_of_map_permit hresolve
    have hnode : t.node? (n :: d) = some (.file content mode) := by
      rw [placeAt] at hplace
      split at hplace
      · next hnode =>
        obtain ⟨-, rfl⟩ := Place.found.inj hplace
        exact hnode
      · cases hplace
    obtain ⟨content', mode', hnode'⟩ := (h.file d n hproper htext hsource).2 ⟨content, mode, hnode⟩
    rw [isFile, (h.toSameFrame.leadsTo hleads).stat_eq hlink', hpermit, hnode']
    rfl
  exact Bool.eq_iff_iff.2 ⟨aux h.symm hlink' hlink, aux h hlink hlink'⟩

/-- **What the search finds**, wherever it begins, depends on the directories and on where source
files stand. -/
theorem SameSources.discover_eq (h : SameSources t u) (ht : t.IsSound) (hu : u.IsSound)
    (hlink : t.LinkFree) (hlink' : u.LinkFree) (root : Path) :
    u.discover root = t.discover root := by
  by_cases hroot : t.isDirectory root
  · exact h.discover_eq_of_isDirectory ht hu hlink hlink' hroot
  · have hroot' : ¬ u.isDirectory root := by rwa [h.toSameFrame.isDirectory_eq hlink hlink']
    rw [discover_of_not_isDirectory hlink hroot, discover_of_not_isDirectory hlink' hroot']
    by_cases hsource : root.isSource
    · rw [h.isFile_eq hlink hlink' hsource]
    · simp [hsource]

/-- The search finds the same after conversions. -/
theorem Preserves.discover_eq (h : Preserves t u) (ht : t.IsSound) (hlink : t.LinkFree)
    (root : Path) : u.discover root = t.discover root :=
  h.sameSources.discover_eq ht (h.isSound ht) hlink (h.linkFree hlink) root

end FileTree

namespace RuleSet

open FileTree

variable {t : FileTree}

/-- **What the search finds after a run** is what it has found before, in the same order, wherever
it begins. So it is at any time during the run: after any number of its writes. -/
theorem discover_run (rs : RuleSet) (ht : t.IsSound) (hlink : t.LinkFree) (roots : List SourceRoot)
    (root : Path) :
    (rs.run t roots).tree.discover root = t.discover root ∧
    ∀ ws ws', (rs.run t roots).writes = ws ++ ws' →
      ∃ u, t.writeAll ws = .ok u ∧ u.discover root = t.discover root := by
  have hprogress := progress_run rs ht hlink roots
  refine ⟨hprogress.preserves.discover_eq ht hlink root, fun ws ws' hws => ?_⟩
  rw [hws] at hprogress
  obtain ⟨u, hfirst, -⟩ := hprogress.exists_of_append
  exact ⟨u, hfirst.writeAll_eq, hfirst.preserves.discover_eq ht hlink root⟩

theorem discover_run_mixedSources :
    mixedSources.IsSound ∧ mixedSources.LinkFree ∧
    mixedSources.exists (Path.ofString "src/a_MUI_backup.js") = false ∧
    (attributeRules.run mixedSources overlappingRoots).tree.exists
      (Path.ofString "src/a_MUI_backup.js") = true ∧
    (attributeRules.run mixedSources overlappingRoots).tree.discover (Path.ofString "src") =
      [Path.ofString "src/a.js", Path.ofString "src/b.jsx", Path.ofString "src/c.js",
        Path.ofString "src/d.js"] := by
  have hafter := (discover_run attributeRules isSound_mixedSources linkFree_mixedSources
    overlappingRoots (Path.ofString "src")).1
  refine ⟨isSound_mixedSources, linkFree_mixedSources, by decide +kernel, by decide +kernel, ?_⟩
  exact hafter.trans (by decide +kernel)

end RuleSet

end Restyle
