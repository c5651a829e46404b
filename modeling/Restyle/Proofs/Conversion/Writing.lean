import Mathlib.Logic.Relation
import Restyle.Proofs.Conversion.Treatment

/-!
# What a run writes

Every write of a run either makes the backup of a source file that has none or gives a new content
to a source file that has one. Such a write keeps what there is to keep: the directories, all files
but the source files that have a backup, and in a backup that is made the content of its file from
before the run. So does the run up to any of its writes.

## Main definitions

* `Restyle.FileTree.writeAll` — the tree after a list of writes.
* `Restyle.Name.BackedBy` — a name and the name of its backup.
* `Restyle.FileTree.WriteStep` — a write of a conversion.
* `Restyle.FileTree.Progress` — a list of such writes, one after the other.
* `Restyle.FileTree.Preserves` — what they keep.

## Main results

* `Restyle.FileTree.Preserves.step` — one more write keeps the same.
* `Restyle.RuleSet.progress_run` — the writes of a run are such writes.
-/

namespace Restyle

/-- The name of a source file and the name of its backup. -/
structure Name.BackedBy (n m : Name) : Prop where
  isProper : n.IsProper
  isSome_text : n.text?.isSome
  isSource : n.isSource
  backup?_eq : n.backup? = some m

/-- Every source file has a name for its backup. -/
theorem Name.exists_backedBy {n : Name} (hn : n.IsProper) (htext : n.text?.isSome)
    (hsource : n.isSource) : ∃ m, n.BackedBy m := by
  obtain ⟨stem, e, he, rfl, -⟩ := isSource_iff.1 hsource
  exact ⟨_, hn, htext, hsource, backup?_stem he⟩

namespace Name.BackedBy

variable {n n' m : Name}

theorem not_isSource (h : n.BackedBy m) : ¬ m.isSource :=
  not_isSource_of_backup? h.backup?_eq

theorem isProper_backup (h : n.BackedBy m) : m.IsProper :=
  isProper_of_backup? h.isProper h.backup?_eq

theorem left_unique (h : n.BackedBy m) (h' : n'.BackedBy m) : n = n' :=
  backup?_inj h.backup?_eq h'.backup?_eq

theorem right_unique {m' : Name} (h : n.BackedBy m) (h' : n.BackedBy m') : m = m' :=
  Option.some.inj (h.backup?_eq.symm.trans h'.backup?_eq)

theorem not_backedBy (h : n.BackedBy m) : ¬ n'.BackedBy n := fun h' => h'.not_isSource h.isSource

end Name.BackedBy

namespace FileTree

variable {t u v : FileTree} {p b : Path} {d l : Location} {n m : Name} {ws : List (Path × String)}

/-- The tree after a list of writes, unless one of them is refused. -/
def writeAll (t : FileTree) (ws : List (Path × String)) : Except SystemError FileTree :=
  ws.foldlM (fun t w => t.writeText w.1 w.2) t

/-! ### Writes -/

/-- A write of a conversion. -/
inductive WriteStep (t : FileTree) : FileTree → Prop
  /-- a backup is made of a source file that has none -/
  | save {d : Location} {n m : Name} {content : ByteArray} {mode : Nat} (hname : n.BackedBy m)
      (hnode : t.node? (n :: d) = some (.file content mode)) (hfree : t.node? (m :: d) = none) :
      WriteStep t (t.put (m :: d) (.file content newFileMode))
  /-- a source file that has a backup gets a new content -/
  | replace {d : Location} {n m : Name} {content new : ByteArray} {mode : Nat}
      (hname : n.BackedBy m) (hnode : t.node? (n :: d) = some (.file content mode))
      (hbackup : (t.node? (m :: d)).isSome) : WriteStep t (t.put (n :: d) (.file new mode))

/-- What the writes of conversions keep of a tree. -/
structure Preserves (t u : FileTree) : Prop extends SameFrame t u where
  linkFree : t.LinkFree → u.LinkFree
  isSound : t.IsSound → u.IsSound
  /-- A node stays, or it is that of a source file that has a backup and stays a file. -/
  kept : ∀ l node, t.node? l = some node → u.node? l = some node ∨
    ∃ d n m, l = n :: d ∧ Name.BackedBy n m ∧ (u.node? (m :: d)).isSome ∧
      ∃ content new mode, node = .file content mode ∧ u.node? l = some (.file new mode)
  /-- A new node is the backup of a source file and holds its content. -/
  added : ∀ l node, t.node? l = none → u.node? l = some node →
    ∃ d n m, l = m :: d ∧ Name.BackedBy n m ∧
      ∃ content mode, t.node? (n :: d) = some (.file content mode) ∧
        node = .file content newFileMode

namespace Preserves

theorem refl (t : FileTree) : Preserves t t where
  toSameFrame := .refl t
  linkFree := id
  isSound := id
  kept _ _ h := .inl h
  added _ _ h h' := nomatch h.symm.trans h'

theorem isSome_node? (h : Preserves t u) (hnode : (t.node? l).isSome) : (u.node? l).isSome := by
  obtain ⟨node, hnode⟩ := Option.isSome_iff_exists.1 hnode
  rcases h.kept l node hnode with hsame | ⟨-, -, -, -, -, -, -, new, mode, -, hnew⟩
  · exact Option.isSome_of_eq_some hsame
  · exact Option.isSome_of_eq_some hnew

/-- A source file stays a file, and there are no new ones. -/
theorem exists_file_iff (h : Preserves t u) (hname : n.BackedBy m) :
    (∃ content mode, u.node? (n :: d) = some (.file content mode)) ↔
      ∃ content mode, t.node? (n :: d) = some (.file content mode) := by
  constructor
  · rintro ⟨content, mode, hnode⟩
    cases hold : t.node? (n :: d) with
    | none =>
      obtain ⟨d', n', m', hl, hname', -⟩ := h.added _ _ hold hnode
      rw [(List.cons.inj hl).1] at hname
      exact absurd hname' hname.not_backedBy
    | some node =>
      rcases h.kept _ _ hold with hsame | ⟨-, -, -, -, -, -, content', new, mode', rfl, -⟩
      · rw [hnode] at hsame
        exact ⟨content, mode, hsame.symm⟩
      · exact ⟨content', mode', rfl⟩
  · rintro ⟨content, mode, hnode⟩
    rcases h.kept _ _ hnode with hsame | ⟨-, -, -, -, -, -, -, new, mode', -, hnew⟩
    · exact ⟨content, mode, hsame⟩
    · exact ⟨new, mode', hnew⟩

/-- The source files are the same. -/
theorem sameSources (h : Preserves t u) : SameSources t u where
  toSameFrame := h.toSameFrame
  file _ _ hn htext hsource :=
    let ⟨_, hname⟩ := Name.exists_backedBy hn htext hsource
    h.exists_file_iff hname

/-- A source file that has no backup still has the content it had. -/
theorem node?_of_free (h : Preserves t u) (hname : n.BackedBy m) {content : ByteArray} {mode : Nat}
    (hnode : u.node? (n :: d) = some (.file content mode)) (hfree : u.node? (m :: d) = none) :
    t.node? (n :: d) = some (.file content mode) := by
  obtain ⟨content', mode', hold⟩ := (h.exists_file_iff hname).1 ⟨content, mode, hnode⟩
  rcases h.kept _ _ hold with hsame | ⟨d', n', m', hl, hname', hbackup, -⟩
  · rw [hold, ← hsame, hnode]
  · obtain ⟨rfl, rfl⟩ := List.cons.inj hl
    rw [hname'.right_unique hname, hfree] at hbackup
    exact nomatch hbackup

end Preserves

theorem IsSound.isProper (ht : t.IsSound) {node : Node} (h : t.node? l = some node) :
    Location.IsProper l := ht.proper _ (ht.mem_nodes_iff.2 h)

/-- Putting a file into the directory of another one. -/
theorem IsSound.put_sibling (ht : t.IsSound) {node : Node} (h : t.node? (n :: d) = some node)
    (hm : m.IsProper) (node' : Node) : (t.put (m :: d) node').IsSound :=
  ht.put (.cons hm fun k hk => ht.isProper h k (List.mem_cons_of_mem n hk)) node'

namespace Preserves

/-- A source file has the permissions that it had. -/
theorem exists_eq_file (h : Preserves t u) {node : Node} {content : ByteArray} {mode : Nat}
    (hold : t.node? l = some node) (hnode : u.node? l = some (.file content mode)) :
    ∃ content, node = .file content mode := by
  rcases h.kept l node hold with hsame | ⟨-, -, -, -, -, -, content', new, mode', rfl, hnew⟩
  · exact ⟨content, Option.some.inj (hsame.symm.trans hnode)⟩
  · obtain ⟨-, rfl⟩ := Node.file.inj (Option.some.inj (hnode.symm.trans hnew))
    exact ⟨content', rfl⟩

/-- One more backup keeps the same. -/
theorem save (h : Preserves t u) (hname : n.BackedBy m) {content : ByteArray} {mode : Nat}
    (hnode : u.node? (n :: d) = some (.file content mode)) (hfree : u.node? (m :: d) = none) :
    Preserves t (u.put (m :: d) (.file content newFileMode)) := by
  have hkeeps : Keeps [m :: d] u (u.put (m :: d) (.file content newFileMode)) :=
    keeps_put (by simp [hfree]) content newFileMode
  have hother {l : Location} (hl : (u.node? l).isSome) :
      (u.put (m :: d) (.file content newFileMode)).node? l = u.node? l := by
    refine hkeeps.node? l fun hmem => ?_
    rw [List.mem_singleton.1 hmem, hfree] at hl
    exact nomatch hl
  refine ⟨h.toSameFrame.trans hkeeps.toSameFrame, hkeeps.linkFree ∘ h.linkFree,
    fun ht => (h.isSound ht).put_sibling hnode hname.isProper_backup _, fun l node hl => ?_,
    fun l node hl hl' => ?_⟩
  · rw [hother (h.isSome_node? (Option.isSome_of_eq_some hl))]
    rcases h.kept l node hl with hsame | ⟨d', n', m', hl, hname', hbackup, hfile⟩
    · exact .inl hsame
    · exact .inr ⟨d', n', m', hl, hname', by rwa [hother hbackup], hfile⟩
  · rw [node?_put] at hl'
    split at hl'
    · next hsame =>
      exact ⟨d, n, m, hsame, hname, content, mode, h.node?_of_free hname hnode hfree,
        (Option.some.inj hl').symm⟩
    · exact h.added l node hl hl'

/-- One more change of a source file that has a backup keeps the same. -/
theorem replace (h : Preserves t u) (hname : n.BackedBy m) {content : ByteArray} {mode : Nat}
    (hnode : u.node? (n :: d) = some (.file content mode)) (hbackup : (u.node? (m :: d)).isSome)
    (new : ByteArray) : Preserves t (u.put (n :: d) (.file new mode)) := by
  have hkeeps : Keeps [n :: d] u (u.put (n :: d) (.file new mode)) :=
    keeps_put (by simp [hnode]) new mode
  have hsome {l : Location} (hl : (u.node? l).isSome) :
      ((u.put (n :: d) (.file new mode)).node? l).isSome := by
    rw [node?_put]
    split
    · rfl
    · exact hl
  refine ⟨h.toSameFrame.trans hkeeps.toSameFrame, hkeeps.linkFree ∘ h.linkFree,
    fun ht => (h.isSound ht).put_sibling hnode hname.isProper _, fun l node hl => ?_,
    fun l node hl hl' => ?_⟩
  · by_cases hsame : l = n :: d
    · subst hsame
      obtain ⟨content', rfl⟩ := h.exists_eq_file hl hnode
      exact .inr ⟨d, n, m, rfl, hname, hsome hbackup, content', new, mode, rfl,
        by rw [node?_put, if_pos rfl]⟩
    · rw [hkeeps.node? l (by simpa using hsame)]
      rcases h.kept l node hl with hsame | ⟨d', n', m', hl, hname', hbackup', hfile⟩
      · exact .inl hsame
      · exact .inr ⟨d', n', m', hl, hname', hsome hbackup', hfile⟩
  · by_cases hsame : l = n :: d
    · subst hsame
      obtain ⟨content', mode', hold⟩ := (h.exists_file_iff hname).1 ⟨content, mode, hnode⟩
      exact nomatch hl.symm.trans hold
    · rw [hkeeps.node? l (by simpa using hsame)] at hl'
      exact h.added l node hl hl'

/-- **One more write keeps the same.** -/
theorem step (h : Preserves t u) (hstep : WriteStep u v) : Preserves t v := by
  cases hstep with
  | save hname hnode hfree => exact h.save hname hnode hfree
  | replace hname hnode hbackup => exact h.replace hname hnode hbackup _

end Preserves

/-- **Any number of writes** keeps the same. -/
theorem preserves_of_reflTransGen (h : Relation.ReflTransGen WriteStep t u) : Preserves t u := by
  induction h with
  | refl => exact .refl t
  | tail _ hstep ih => exact ih.step hstep

/-! ### Lists of writes -/

/-- The writes of conversions, one after the other. -/
inductive Progress : FileTree → List (Path × String) → FileTree → Prop
  | nil {t : FileTree} : Progress t [] t
  | cons {t u v : FileTree} {w : Path × String} {ws : List (Path × String)}
      (hwrite : t.writeText w.1 w.2 = .ok u) (hstep : WriteStep t u) (hlater : Progress u ws v) :
      Progress t (w :: ws) v

namespace Progress

variable {ws' : List (Path × String)}

theorem append (h : Progress t ws u) (h' : Progress u ws' v) : Progress t (ws ++ ws') v := by
  induction h with
  | nil => exact h'
  | cons hwrite hstep _ ih => exact .cons hwrite hstep (ih h')

/-- **Between two writes** there is a tree. -/
theorem exists_of_append : ∀ {ws : List (Path × String)} {t : FileTree}, Progress t (ws ++ ws') v →
    ∃ u, Progress t ws u ∧ Progress u ws' v
  | [], t, h => ⟨t, .nil, h⟩
  | w :: ws, t, h => by
    cases h with
    | cons hwrite hstep hlater =>
      obtain ⟨u, hfirst, hlater⟩ := exists_of_append hlater
      exact ⟨u, .cons hwrite hstep hfirst, hlater⟩

theorem writeAll_eq (h : Progress t ws u) : t.writeAll ws = .ok u := by
  induction h with
  | nil => rfl
  | cons hwrite _ _ ih =>
    rw [writeAll, List.foldlM_cons, hwrite]
    exact ih

theorem preserves (h : Progress t ws u) : Preserves t u := by
  refine preserves_of_reflTransGen ?_
  induction h with
  | nil => exact .refl
  | cons _ hstep _ ih => exact .head hstep ih

end Progress

theorem FoundAt.backedBy (h : t.FoundAt p d n) (hm : n.backup? = some m) : n.BackedBy m :=
  ⟨h.isProper, h.isSome_text, h.isSource, hm⟩

/-- A file that is found is found after conversions. -/
theorem FoundAt.of_preserves (h : t.FoundAt p d n) (hu : Preserves t u) : u.FoundAt p d n := by
  obtain ⟨b, m, -, hm, -⟩ := h.exists_backup
  exact h.of_sameFrame hu.toSameFrame ((hu.exists_file_iff (h.backedBy hm)).2 h.exists_file)

/-- It stands where it stood. -/
theorem FoundAt.location?_of_preserves (h : t.FoundAt p d n) (hlink : t.LinkFree)
    (hu : Preserves t u) : u.location? p = t.location? p := by
  rw [(h.of_preserves hu).location?_eq (hu.linkFree hlink), h.location?_eq hlink]

end FileTree

open FileTree

variable {rs : RuleSet} {t u v : FileTree} {p b : Path} {d : Location} {n m : Name}
  {ws : List (Path × String)}

/-! ### The writes of conversions -/

theorem BackedUp.progress {old : String} {mode : Nat} (h : BackedUp t b d m old ws u)
    (hlink : t.LinkFree) (hleads : t.LeadsTo b d m) (hpermit : permit b m = .ok ())
    (hname : n.BackedBy m) (hnode : t.node? (n :: d) = some (.file old.toUTF8 mode)) :
    Progress t ws u := by
  cases h with
  | kept => exact .nil
  | made hfree hchange =>
    refine .cons ?_ (.save hname hnode hfree) .nil
    rw [RuleSet.writeText_eq hlink hleads, modeFor, hpermit, hfree, hchange]
    rfl

theorem Treatment.progress {outcome : Except ConversionError Bool}
    (h : Treatment rs t p b d n m outcome ws u) (hp : t.FoundAt p d n) (hlink : t.LinkFree)
    (hleads : t.LeadsTo b d m) (hm : n.backup? = some m) : Progress t ws u := by
  have hname := hp.backedBy hm
  cases h with
  | unread | same | unsaved => exact .nil
  | unwritten _ _ hpermit hsave hnode => exact hsave.progress hlink hleads hpermit hname hnode
  | @done old mode ws u _ _ hpermit hsave hnode hmode =>
    have hprogress := hsave.progress hlink hleads hpermit hname hnode
    have hpreserves := hprogress.preserves
    have hnode' : u.node? (n :: d) = some (.file old.toUTF8 mode) := by
      cases hsave with
      | kept => exact hnode
      | made =>
        rw [node?_put, if_neg (hp.ne_backup hm), hnode]
    refine hprogress.append (.cons ?_ (.replace hname hnode' hsave.isSome_node?) .nil)
    rw [(hp.of_preserves hpreserves).writeText_eq (hpreserves.linkFree hlink) hnode',
      hpreserves.permits_eq, hmode]
    rfl

namespace RuleSet

variable {ps : List Path}

theorem progress_convert (rs : RuleSet) (hp : t.FoundAt p d n) (hlink : t.LinkFree) :
    Progress t (rs.convert t p).writes (rs.convert t p).tree := by
  obtain ⟨b, m, -, hm, hleads, htreatment⟩ := rs.exists_treatment hp hlink
  exact htreatment.progress hp hlink hleads hm

theorem progress_convertAll (rs : RuleSet) : ∀ {ps : List Path} {t : FileTree},
    (∀ p ∈ ps, ∃ d n, t.FoundAt p d n) → t.LinkFree →
      Progress t (rs.convertAll t ps).writes (rs.convertAll t ps).tree
  | [], _, _, _ => .nil
  | p :: ps, t, hfound, hlink => by
    obtain ⟨⟨d, n, hp⟩, hfound⟩ := List.forall_mem_cons.1 hfound
    have hfirst := progress_convert rs hp hlink
    have hpreserves := hfirst.preserves
    have hlater : ∀ q ∈ ps, ∃ d n, (rs.convert t p).tree.FoundAt q d n := fun q hq =>
      let ⟨d, n, hq⟩ := hfound q hq
      ⟨d, n, hq.of_preserves hpreserves⟩
    have happend := hfirst.append (progress_convertAll rs hlater (hpreserves.linkFree hlink))
    simpa only [Stage.writes, convertAll, List.filterMap_append] using happend

theorem progress_convertDirectory (rs : RuleSet) (ht : t.IsSound) (hlink : t.LinkFree)
    (dir : Path) :
    Progress t (rs.convertDirectory t dir).writes (rs.convertDirectory t dir).tree := by
  rw [convertDirectory]
  split
  · next hdir =>
    have hnotes := filterMap_notes (f := Happening.wrote?) (fun _ => rfl) (t.discoveryNotes dir)
    simpa [Stage.writes, List.filterMap_append, hnotes] using
      progress_convertAll rs (exists_foundAt ht hlink hdir) hlink
  · exact .nil

theorem progress_runFrom (rs : RuleSet) : ∀ (roots : List SourceRoot) (s : Summary) {t : FileTree},
    t.IsSound → t.LinkFree → Progress t (rs.runFrom s t roots).writes (rs.runFrom s t roots).tree
  | [], _, _, _, _ => .nil
  | root :: roots, s, t, ht, hlink => by
    have hfirst := progress_convertDirectory rs ht hlink root.dir
    have hpreserves := hfirst.preserves
    have happend := hfirst.append (progress_runFrom rs roots
      (s.record root.label (.ofNat (rs.convertDirectory t root.dir).result)) (hpreserves.isSound ht)
      (hpreserves.linkFree hlink))
    simpa only [Stage.writes, runFrom, List.cons_append, List.filterMap_cons, Happening.wrote?,
      List.filterMap_append] using happend

/-- **The writes of a run** are writes of conversions. -/
theorem progress_run (rs : RuleSet) (ht : t.IsSound) (hlink : t.LinkFree)
    (roots : List SourceRoot) :
    Progress t (rs.run t roots).writes (rs.run t roots).tree :=
  progress_runFrom rs roots .empty ht hlink

end RuleSet

end Restyle
