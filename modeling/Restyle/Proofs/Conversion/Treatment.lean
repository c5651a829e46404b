import Restyle.Proofs.Conversion.Batch
import Restyle.Proofs.Conversion.Outcome

/-!
# What a conversion makes of a file

In a tree without links, the way in which the conversion of a source file ends depends on the nodes
of the file, of its backup and of their directory, and on whether the path of the backup may be
used.

## Main definitions

* `Restyle.BackedUp` — how the old text of a file gets to its backup.
* `Restyle.Treatment` — the five ways in which a conversion ends.

## Main results

* `Restyle.RuleSet.exists_treatment` — the conversion of a source file ends in one of the five ways.
-/

namespace Restyle

open FileTree

variable {rs : RuleSet} {t u : FileTree} {p b : Path} {d l : Location} {n m : Name}

/-- How the old text of a file gets to its backup: there is one already, or one is made. -/
inductive BackedUp (t : FileTree) (b : Path) (d : Location) (m : Name) (old : String) :
    List (Path × String) → FileTree → Prop
  | kept (hnode : (t.node? (m :: d)).isSome) : BackedUp t b d m old [] t
  | made (hfree : t.node? (m :: d) = none) (hchange : t.change d = .ok ()) :
      BackedUp t b d m old [(b, old)] (t.put (m :: d) (.file old.toUTF8 newFileMode))

theorem BackedUp.isSome_node? {old : String} {ws : List (Path × String)}
    (h : BackedUp t b d m old ws u) : (u.node? (m :: d)).isSome := by
  cases h with
  | kept hnode => exact hnode
  | made => simp [node?_put]

/-- What a conversion makes of the source file at `p`, which stands under `n` in the directory at
`d`, and whose backup `b` stands under `m` there: the result, what is written, and the tree that is
left. -/
inductive Treatment (rs : RuleSet) (t : FileTree) (p b : Path) (d : Location) (n m : Name) :
    Except ConversionError Bool → List (Path × String) → FileTree → Prop
  /-- the file cannot be read as a text -/
  | unread {fault : ReadFault} (htext : t.textAt? (n :: d) = none) :
      Treatment rs t p b d n m (.error (.read p fault)) [] t
  /-- the rules do not change the text -/
  | same {text : String} (htext : t.textAt? (n :: d) = some text) (hsame : rs.apply text = text) :
      Treatment rs t p b d n m (.ok false) [] t
  /-- the backup cannot be made -/
  | unsaved {old : String} {e : SystemError} (htext : t.textAt? (n :: d) = some old)
      (hnew : rs.apply old ≠ old)
      (hsave : permit b m ≠ .ok () ∨ t.node? (m :: d) = none ∧ t.change d ≠ .ok ()) :
      Treatment rs t p b d n m (.error (.write b e)) [] t
  /-- the new text cannot be written -/
  | unwritten {old : String} {mode : Nat} {e : SystemError} {ws : List (Path × String)}
      {u : FileTree} (htext : t.textAt? (n :: d) = some old) (hnew : rs.apply old ≠ old)
      (hpermit : permit b m = .ok ()) (hsave : BackedUp t b d m old ws u)
      (hnode : t.node? (n :: d) = some (.file old.toUTF8 mode))
      (hmode : t.permits writeBit mode = false) :
      Treatment rs t p b d n m (.error (.write p e)) ws u
  /-- the new text is written -/
  | done {old : String} {mode : Nat} {ws : List (Path × String)} {u : FileTree}
      (htext : t.textAt? (n :: d) = some old) (hnew : rs.apply old ≠ old)
      (hpermit : permit b m = .ok ()) (hsave : BackedUp t b d m old ws u)
      (hnode : t.node? (n :: d) = some (.file old.toUTF8 mode)) (hmode : t.permits writeBit mode) :
      Treatment rs t p b d n m (.ok true) (ws ++ [(p, rs.apply old)])
        (u.put (n :: d) (.file (rs.apply old).toUTF8 mode))

/-! ### Reading and writing of source files -/

namespace FileTree.FoundAt

/-- **The text that is read** is that at the location of the file. -/
theorem readText_eq_ok_iff (h : t.FoundAt p d n) (hlink : t.LinkFree) {text : String} :
    t.readText p = .ok text ↔ t.textAt? (n :: d) = some text := by
  simp [FileTree.readText_eq_ok_iff, h.location?_eq hlink]

/-- **Writing to a source file** is refused if its permissions do. -/
theorem writeText_eq (h : t.FoundAt p d n) (hlink : t.LinkFree) {content : ByteArray} {mode : Nat}
    (hnode : t.node? (n :: d) = some (.file content mode)) (text : String) :
    t.writeText p text =
      if t.permits writeBit mode then .ok (t.put (n :: d) (.file text.toUTF8 mode))
      else .error .accessDenied := by
  rw [RuleSet.writeText_eq hlink h.leadsTo, modeFor, h.permit_eq, hnode]
  change Except.map _ (if _ then _ else _) = _
  split <;> rfl

end FileTree.FoundAt

namespace FileTree.LeadsTo

/-- Whether there is something at the path of a name in a directory. -/
theorem exists_iff (h : t.LeadsTo b d m) (hlink : t.LinkFree) :
    t.exists b ↔ permit b m = .ok () ∧ (t.node? (m :: d)).isSome := by
  rw [FileTree.exists, h.stat_eq hlink]
  cases permit b m with
  | error err => simp [bind, Except.bind, Except.isOk, Except.toBool]
  | ok => cases t.node? (m :: d) <;> simp [bind, Except.bind, Except.isOk, Except.toBool, throw,
      throwThe, MonadExceptOf.throw, pure, Except.pure]

/-- **Writing where nothing is** makes a file, if the path may be used and the directory changed. -/
theorem writeText_eq_ok_iff (h : t.LeadsTo b d m) (hlink : t.LinkFree) (hexists : ¬ t.exists b)
    {text : String} : t.writeText b text = .ok u ↔
      permit b m = .ok () ∧ t.node? (m :: d) = none ∧ t.change d = .ok () ∧
        t.put (m :: d) (.file text.toUTF8 newFileMode) = u := by
  rw [h.exists_iff hlink, not_and] at hexists
  rw [RuleSet.writeText_eq hlink h, modeFor]
  cases hpermit : permit b m with
  | error err => simp [bind, Except.bind, Except.map]
  | ok =>
    have hfree : t.node? (m :: d) = none := by simpa using hexists hpermit
    cases hchange : t.change d <;>
      simp [hfree, bind, Except.bind, Except.map, pure, Except.pure]

end FileTree.LeadsTo

/-! ### Which treatment it is -/

/-- Making the backup does not touch the file. -/
theorem BackedUp.writeText_eq {old : String} {ws : List (Path × String)}
    (h : BackedUp t b d m old ws u) (hp : t.FoundAt p d n) (hlink : t.LinkFree)
    (hm : n.backup? = some m) {content : ByteArray} {mode : Nat}
    (hnode : t.node? (n :: d) = some (.file content mode)) (text : String) :
    u.writeText p text =
      if t.permits writeBit mode then .ok (u.put (n :: d) (.file text.toUTF8 mode))
      else .error .accessDenied := by
  cases h with
  | kept => exact hp.writeText_eq hlink hnode text
  | made hfree =>
    have hkeeps := keeps_put (t := t) (l := m :: d) (by simp [hfree]) old.toUTF8 newFileMode
    have hnode' : (t.put (m :: d) (.file old.toUTF8 newFileMode)).node? (n :: d) =
        some (.file content mode) := by rw [node?_put, if_neg (hp.ne_backup hm), hnode]
    exact (hp.of_sameFrame hkeeps.toSameFrame ⟨_, _, hnode'⟩).writeText_eq (hkeeps.linkFree hlink)
      hnode' text

/-- If the old text of a source file is kept, it is at the path of its backup. -/
theorem Secured.backedUp {old : String} {ws : List (Path × String)} (h : Secured t p old ws u)
    (hb : p.backup? = some b) (hleads : t.LeadsTo b d m) (hlink : t.LinkFree) :
    permit b m = .ok () ∧ BackedUp t b d m old ws u := by
  cases h with
  | unnamed hb' => simp [hb] at hb'
  | kept hb' hexists =>
    obtain rfl := Option.some.inj (hb.symm.trans hb')
    obtain ⟨hpermit, hnode⟩ := (hleads.exists_iff hlink).1 hexists
    exact ⟨hpermit, .kept hnode⟩
  | made hb' hexists hwrite =>
    obtain rfl := Option.some.inj (hb.symm.trans hb')
    obtain ⟨hpermit, hfree, hchange, rfl⟩ := (hleads.writeText_eq_ok_iff hlink hexists).1 hwrite
    exact ⟨hpermit, .made hfree hchange⟩

/-- **The conversion of a source file ends in one of the five ways.** -/
theorem RuleSet.exists_treatment (rs : RuleSet) (hp : t.FoundAt p d n) (hlink : t.LinkFree) :
    ∃ b m, p.backup? = some b ∧ n.backup? = some m ∧ t.LeadsTo b d m ∧ Treatment rs t p b d n m
      (rs.edit t p).result (rs.convert t p).writes (rs.convert t p).tree := by
  obtain ⟨b, m, hb, hm, hleads⟩ := hp.exists_backup
  refine ⟨b, m, hb, hm, hleads, ?_⟩
  have htext {text : String} (hread : t.readText p = .ok text) : t.textAt? (n :: d) = some text :=
    (hp.readText_eq_ok_iff hlink).1 hread
  have houtcome := outcome_convert rs t p
  generalize (rs.edit t p).result = outcome at houtcome ⊢
  generalize (rs.convert t p).writes = ws at houtcome ⊢
  generalize (rs.convert t p).tree = v at houtcome ⊢
  cases houtcome with
  | unread hread =>
    refine .unread (Option.eq_none_iff_forall_ne_some.2 fun text htext => ?_)
    rw [(hp.readText_eq_ok_iff hlink).2 htext] at hread
    cases hread
  | same hread hsame => exact .same (htext hread) hsame
  | unsaved hread hnew hb' hexists hwrite =>
    obtain rfl := Option.some.inj (hb.symm.trans hb')
    refine .unsaved (htext hread) hnew (or_iff_not_imp_left.2 fun hpermit => ?_)
    have hpermit := not_not.1 hpermit
    have hfree : t.node? (m :: d) = none := by
      simpa [hpermit] using mt (hleads.exists_iff hlink).2 hexists
    refine ⟨hfree, fun hchange => ?_⟩
    rw [(hleads.writeText_eq_ok_iff hlink hexists).2 ⟨hpermit, hfree, hchange, rfl⟩] at hwrite
    cases hwrite
  | unwritten hread hnew hsecured hwrite =>
    obtain ⟨hpermit, hsave⟩ := hsecured.backedUp hb hleads hlink
    obtain ⟨mode, hnode, -⟩ := exists_of_textAt? (htext hread)
    rw [hsave.writeText_eq hp hlink hm hnode] at hwrite
    split at hwrite
    · cases hwrite
    · next hmode => exact .unwritten (htext hread) hnew hpermit hsave hnode (by simpa using hmode)
  | done hread hnew hsecured hwrite =>
    obtain ⟨hpermit, hsave⟩ := hsecured.backedUp hb hleads hlink
    obtain ⟨mode, hnode, -⟩ := exists_of_textAt? (htext hread)
    rw [hsave.writeText_eq hp hlink hm hnode] at hwrite
    split at hwrite
    · next hmode =>
      obtain rfl := Except.ok.inj hwrite
      exact .done (htext hread) hnew hpermit hsave hnode hmode
    · cases hwrite

end Restyle
