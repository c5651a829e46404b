import Restyle.Proofs.FileTree.Links
import Mathlib.Data.List.Perm.Basic

/-!
# The names in a directory

A directory of a sound tree is listed by name, in order and each name once. A name is looked up in
the directory that a path leads to: it leads to a file only if it stands in the list, and to a
directory of the list without following a link.

## Main results

* `Restyle.FileTree.mem_entriesAt_iff`, `Restyle.FileTree.pairwise_entriesAt` — the names in a
  directory.
* `Restyle.FileTree.exists_entry_of_isFile`, `Restyle.FileTree.node?_of_linkStat`,
  `Restyle.FileTree.resolve_child_of_entries` — where a name in a directory leads.
-/

namespace Restyle

namespace FileTree

variable {t : FileTree} {l : Location} {n : Name} {p dir : Path}

/-! ### The names in a directory -/

theorem insertEntry_perm (e : Name × Node) : ∀ es : List (Name × Node),
    (insertEntry e es).Perm (e :: es)
  | [] => .refl _
  | f :: fs => by
    rw [insertEntry]
    split
    · exact .refl _
    · exact ((insertEntry_perm e fs).cons f).trans (.swap e f fs)

theorem foldr_insertEntry_perm : ∀ es : List (Name × Node), (es.foldr insertEntry []).Perm es
  | [] => .refl _
  | e :: es => (insertEntry_perm e _).trans ((foldr_insertEntry_perm es).cons e)

/-- A name that goes to its place among names in order leaves them in order. -/
theorem pairwise_insertEntry {e : Name × Node} : ∀ {es : List (Name × Node)},
    es.Pairwise (fun a b => a.1 ≤ b.1) → (insertEntry e es).Pairwise fun a b => a.1 ≤ b.1
  | [], _ => List.pairwise_singleton _ _
  | f :: fs, h => by
    obtain ⟨hf, hfs⟩ := List.pairwise_cons.1 h
    rw [insertEntry]
    split
    · next hlt =>
      have hle : e.1 ≤ f.1 := Std.le_of_lt hlt
      refine List.pairwise_cons.2 ⟨fun g hg => ?_, h⟩
      rcases List.mem_cons.1 hg with rfl | hg
      · exact hle
      · exact Std.le_trans hle (hf g hg)
    · next hlt =>
      refine List.pairwise_cons.2 ⟨fun g hg => ?_, pairwise_insertEntry hfs⟩
      rcases List.mem_cons.1 ((insertEntry_perm e fs).mem_iff.1 hg) with rfl | hg
      · exact Std.not_lt.1 hlt
      · exact hf g hg

theorem pairwise_foldr_insertEntry : ∀ es : List (Name × Node),
    (es.foldr insertEntry []).Pairwise fun a b => a.1 ≤ b.1
  | [] => .nil
  | _ :: es => pairwise_insertEntry (pairwise_foldr_insertEntry es)

/-- The entry of a node in a directory, if it stands in it. -/
def entryIn (l : Location) : Location × Node → Option (Name × Node)
  | (n :: m, node) => if m = l then some (n, node) else none
  | ([], _) => none

theorem entryIn_eq_some_iff {c : Name × Node} : ∀ {a : Location × Node},
    entryIn l a = some c ↔ a = (c.1 :: l, c.2)
  | ([], _) => by simp [entryIn]
  | (n :: m, node) => by
    obtain ⟨n', node'⟩ := c
    rw [entryIn]
    split
    · next hm => simp [hm]
    · next hm => simp [hm]

theorem entriesAt_perm (t : FileTree) (l : Location) :
    (t.entriesAt l).Perm (t.nodes.filterMap (entryIn l)) := by
  have hentry : t.entriesAt l = (t.nodes.filterMap (entryIn l)).foldr insertEntry [] := rfl
  rw [hentry]
  exact foldr_insertEntry_perm _

theorem IsSound.mem_nodes_iff (ht : t.IsSound) {node : Node} :
    (l, node) ∈ t.nodes ↔ t.node? l = some node := by
  rw [node?, List.lookup_eq_some_iff]
  constructor
  · intro h
    obtain ⟨before, after, hnodes⟩ := List.append_of_mem h
    refine ⟨before, after, hnodes, fun e he => ?_⟩
    have hnodup := ht.nodup
    rw [hnodes, List.map_append, List.map_cons, List.nodup_append] at hnodup
    simpa using (hnodup.2.2 e.1 (List.mem_map_of_mem he) l List.mem_cons_self).symm
  · rintro ⟨before, after, hnodes, -⟩
    rw [hnodes]
    exact List.mem_append_right _ List.mem_cons_self

/-- The names that stand in a directory. -/
theorem mem_entriesAt_iff (ht : t.IsSound) {node : Node} :
    (n, node) ∈ t.entriesAt l ↔ t.node? (n :: l) = some node := by
  rw [(entriesAt_perm t l).mem_iff, List.mem_filterMap, ← ht.mem_nodes_iff]
  constructor
  · rintro ⟨a, ha, hentry⟩
    rwa [entryIn_eq_some_iff.1 hentry] at ha
  · exact fun h => ⟨_, h, entryIn_eq_some_iff.2 rfl⟩

/-- **The names in a directory** are listed in order, each once. -/
theorem pairwise_entriesAt (ht : t.IsSound) (l : Location) :
    (t.entriesAt l).Pairwise fun a b => a.1 < b.1 := by
  have hnodes : t.nodes.Pairwise fun a b => a.1 ≠ b.1 := List.pairwise_map.1 ht.nodup
  have hne : (t.entriesAt l).Pairwise fun a b => a.1 ≠ b.1 := by
    rw [(entriesAt_perm t l).pairwise_iff Ne.symm, List.pairwise_filterMap]
    refine hnodes.imp fun {a b} hne c hc c' hc' hsame => hne ?_
    rw [entryIn_eq_some_iff.1 hc, entryIn_eq_some_iff.1 hc', hsame]
  exact (pairwise_foldr_insertEntry _).imp₂ (fun a b => Std.lt_of_le_of_ne) hne

theorem isProper_of_mem_entriesAt (ht : t.IsSound) {node : Node} (h : (n, node) ∈ t.entriesAt l) :
    n.IsProper :=
  ht.proper _ (ht.mem_nodes_iff.2 ((mem_entriesAt_iff ht).1 h)) n List.mem_cons_self

/-- Listing a directory gives the names in it. -/
theorem exists_entriesAt_eq {es : List (Name × Node)} (h : t.entries p = .ok es) :
    ∃ l mode, t.resolve .followed p = .ok (.found l (.directory mode)) ∧ es = t.entriesAt l := by
  rw [entries] at h
  obtain ⟨place, hplace, h⟩ := exists_of_bind_eq_ok h
  cases place with
  | free d n => exact nomatch h
  | found l node =>
    cases node with
    | directory mode =>
      simp only at h
      split at h
      · exact ⟨l, mode, hplace, (Except.ok.inj h).symm⟩
      · exact nomatch h
    | file content mode => exact nomatch h
    | link target => exact nomatch h

/-! ### What a path leads to -/

theorem bytes_ne_nil_of_resolve {e : Ending} {place : Place} (h : t.resolve e p = .ok place) :
    p.bytes ≠ [] := by
  intro hnil
  obtain ⟨_, husable, -⟩ := exists_of_bind_eq_ok h
  simp [usable, hnil] at husable

theorem statWith_eq_ok {e : Ending} {node : Node} (h : t.statWith e p = .ok node) :
    ∃ l, t.resolve e p = .ok (.found l node) := by
  obtain ⟨place, hplace, hnode⟩ := exists_of_bind_eq_ok h
  cases place with
  | free d n => exact nomatch hnode
  | found l node' =>
    obtain rfl := Except.ok.inj hnode
    exact ⟨l, hplace⟩

theorem exists_file_of_isFile (h : t.isFile p) :
    ∃ l content mode, t.resolve .followed p = .ok (.found l (.file content mode)) := by
  rw [isFile] at h
  split at h
  · next node hstat =>
    obtain ⟨l, hresolve⟩ := statWith_eq_ok hstat
    cases node with
    | file content mode => exact ⟨l, content, mode, hresolve⟩
    | directory mode => exact nomatch h
    | link target => exact nomatch h
  · exact nomatch h

theorem exists_directory_of_isDirectory (h : t.isDirectory p) :
    ∃ l mode, t.resolve .followed p = .ok (.found l (.directory mode)) := by
  rw [isDirectory] at h
  split at h
  · next node hstat =>
    obtain ⟨l, hresolve⟩ := statWith_eq_ok hstat
    cases node with
    | directory mode => exact ⟨l, mode, hresolve⟩
    | file content mode => exact nomatch h
    | link target => exact nomatch h
  · exact nomatch h

theorem isFile_eq_false_of_resolve {mode : Nat}
    (h : t.resolve .followed p = .ok (.found l (.directory mode))) : t.isFile p = false := by
  rw [isFile, stat, statWith, h]
  rfl

theorem exists_entries_of_isOk (h : (t.entries p).isOk) : ∃ l mode,
    t.resolve .followed p = .ok (.found l (.directory mode)) ∧
      t.entries p = .ok (t.entriesAt l) := by
  cases hes : t.entries p with
  | error err =>
    rw [hes] at h
    exact nomatch h
  | ok es =>
    obtain ⟨l, mode, hresolve, rfl⟩ := exists_entriesAt_eq hes
    exact ⟨l, mode, hresolve, rfl⟩

/-! ### Names in a directory that a path leads to -/

/-- A directory is no file to find. -/
theorem isFile_child_eq_false {mode : Nat} {node : Node} (hbytes : dir.bytes ≠ []) (hn : n.IsProper)
    (hdir : t.resolve .followed dir = .ok (.found l node))
    (hnode : t.node? (n :: l) = some (.directory mode)) : t.isFile (dir.child n) = false := by
  rw [← Bool.not_eq_true]
  intro hfile
  obtain ⟨m, content, mode', hresolve⟩ := exists_file_of_isFile hfile
  rcases resolve_child hbytes hn hdir (by decide) hresolve with
    ⟨h, -⟩ | ⟨target, h, -⟩ | ⟨x, h, -, hall⟩
  · rw [hnode] at h
    exact nomatch h
  · rw [hnode] at h
    exact nomatch h
  · rw [hnode] at h
    obtain rfl := Option.some.inj h
    rw [hall .followed (by decide)] at hresolve
    exact nomatch hresolve

/-- A name that leads to a file stands in the directory, and it is not that of a directory. -/
theorem exists_entry_of_isFile (ht : t.IsSound) (hbytes : dir.bytes ≠ []) (hn : n.IsProper)
    {node : Node} (hdir : t.resolve .followed dir = .ok (.found l node))
    (hfile : t.isFile (dir.child n)) :
    ∃ entry, (n, entry) ∈ t.entriesAt l ∧ entry.kind ≠ .directory := by
  obtain ⟨m, content, mode, hresolve⟩ := exists_file_of_isFile hfile
  rcases resolve_child hbytes hn hdir (by decide) hresolve with
    ⟨-, h⟩ | ⟨target, h, -⟩ | ⟨x, h, -, -⟩
  · exact nomatch h
  · exact ⟨_, (mem_entriesAt_iff ht).2 h, nofun⟩
  · refine ⟨x, (mem_entriesAt_iff ht).2 h, fun hkind => ?_⟩
    cases x with
    | directory mode' =>
      rw [isFile_child_eq_false hbytes hn hdir h] at hfile
      exact nomatch hfile
    | file content mode' => exact nomatch hkind
    | link target => exact nomatch hkind

/-- A name that leads to a directory, through no link, is that of a directory in the directory. -/
theorem node?_of_linkStat (hbytes : dir.bytes ≠ []) (hn : n.IsProper) {node : Node}
    (hdir : t.resolve .followed dir = .ok (.found l node)) {mode : Nat}
    (h : t.linkStat (dir.child n) = .ok (.directory mode)) :
    t.node? (n :: l) = some (.directory mode) := by
  obtain ⟨m, hresolve⟩ := statWith_eq_ok h
  rcases resolve_child hbytes hn hdir (by decide) hresolve with
    ⟨-, h⟩ | ⟨target, -, h⟩ | ⟨x, hx, -, hall⟩
  · exact nomatch h
  · exact nomatch h rfl
  · have hsame := (hall .itself (by decide)).symm.trans hresolve
    obtain ⟨-, rfl⟩ := Place.found.inj (Except.ok.inj hsame)
    exact hx

/-- A directory in a directory that can be listed is no link. -/
theorem resolve_child_of_entries (hbytes : dir.bytes ≠ []) (hn : n.IsProper) {node : Node}
    (hdir : t.resolve .followed dir = .ok (.found l node)) {mode : Nat}
    (hnode : t.node? (n :: l) = some (.directory mode)) {e : Ending} (he : e ≠ .writable)
    {place : Place} (h : t.resolve e (dir.child n) = .ok place) :
    ∀ e' ≠ .writable, t.resolve e' (dir.child n) = .ok (.found (n :: l) (.directory mode)) := by
  rcases resolve_child hbytes hn hdir he h with ⟨h, -⟩ | ⟨target, h, -⟩ | ⟨x, h, -, hall⟩
  · rw [hnode] at h
    exact nomatch h
  · rw [hnode] at h
    exact nomatch h
  · rw [hnode] at h
    obtain rfl := Option.some.inj h
    exact hall

end FileTree

end Restyle
