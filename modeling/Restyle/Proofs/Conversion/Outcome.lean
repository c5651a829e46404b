import Restyle.Proofs.Conversion.Locality
import Restyle.Proofs.FileTree.Growth
import Restyle.Proofs.Rule.Report

/-!
# How conversions end

The conversion of a file ends in one of five ways: the file cannot be read as a text, or its text
stays, or its backup cannot be made, or its new text cannot be written, or it is written. Only the
last two may have written anything, the backup before the file.

## Main definitions

* `Restyle.FileTree.textAt?` — the text of the file at a location, if it can be read.
* `Restyle.Secured` — how the old text of a file is kept.
* `Restyle.Outcome` — the five ways.

## Main results

* `Restyle.FileTree.readText_eq_ok_iff` — the text that is read at a path.
* `Restyle.RuleSet.outcome_convert` — a conversion ends in one of the five ways.
* `Restyle.RuleSet.convert_of_apply_eq_self` — nothing is written if the text stays.
-/

namespace Restyle

open FileTree

variable {rs : RuleSet} {t u v : FileTree} {p b : Path} {l m : Location} {node : Node}
  {old text : String} {ws : List (Path × String)}

/-! ### Texts of files -/

namespace FileTree

/-- The text of the file at a location, if there is a file that can be read as a text. -/
def textAt? (t : FileTree) (l : Location) : Option String :=
  match t.node? l with
  | some (.file content mode) =>
    if t.permits readBit mode then String.fromUTF8? content else none
  | _ => none

theorem exists_of_textAt? (h : t.textAt? l = some text) :
    ∃ mode, t.node? l = some (.file text.toUTF8 mode) ∧ t.permits readBit mode := by
  rw [textAt?] at h
  split at h
  · next content mode hnode =>
    split at h
    · next hmode => exact ⟨mode, by rw [hnode, RuleSet.toUTF8_of_fromUTF8? h], hmode⟩
    · cases h
  · cases h

/-- The text at a location is that of the node there. -/
theorem textAt?_congr (hguarded : u.guarded = t.guarded) (hnode : u.node? l = t.node? l) :
    u.textAt? l = t.textAt? l := by
  have hpermits : u.permits readBit = t.permits readBit := by
    funext mode
    rw [permits, permits, hguarded]
  rw [textAt?, textAt?, hnode, hpermits]

theorem textAt?_put {mode : Nat} (hmode : t.permits readBit mode) :
    (t.put l (.file text.toUTF8 mode)).textAt? l = some text := by
  rw [textAt?, node?_put, if_pos rfl]
  have hpermits : (t.put l (.file text.toUTF8 mode)).permits readBit mode = true := hmode
  simp only [hpermits, if_true]
  rw [String.toUTF8_eq_toByteArray, String.fromUTF8?, dif_pos text.isValidUTF8]
  rfl

/-- **Reading a text** is reading it at the location that the path leads to. -/
theorem readText_eq_ok_iff : t.readText p = .ok text ↔
    ∃ l, t.location? p = some l ∧ t.textAt? l = some text := by
  constructor
  · intro h
    rw [readText] at h
    split at h
    · cases h
    · next content hread =>
      obtain ⟨l, mode, hl, hnode, hmode⟩ := read_eq_ok_iff.1 hread
      refine ⟨l, hl, ?_⟩
      rw [textAt?, hnode]
      simp only [hmode, if_true]
      split at h
      · next htext => rw [htext, Except.ok.inj h]
      · cases h
  · rintro ⟨l, hl, htext⟩
    rw [textAt?] at htext
    split at htext
    · next content mode hnode =>
      split at htext
      · next hmode =>
        rw [readText, read_eq_ok_iff.2 ⟨l, mode, hl, hnode, hmode⟩]
        simp only [htext]
      · cases htext
    · cases htext

end FileTree

/-! ### How the old text is kept -/

/-- How the old text of the file at a path is kept: there is no path for its backup, or something is
there, or the text is written there, where nothing was. -/
inductive Secured (t : FileTree) (p : Path) (old : String) : List (Path × String) → FileTree → Prop
  | unnamed (hb : p.backup? = none) : Secured t p old [] t
  | kept {b : Path} (hb : p.backup? = some b) (hexists : t.exists b) : Secured t p old [] t
  | made {b : Path} {u : FileTree} (hb : p.backup? = some b) (hexists : ¬ t.exists b)
      (hwrite : t.writeText b old = .ok u) : Secured t p old [(b, old)] u

/-- What is written to a path that leads to nothing goes to a new file. -/
theorem exists_of_writeText (hexists : ¬ t.exists b) (h : t.writeText b old = .ok u) :
    ∃ m, t.location? b = some m ∧ t.node? m = none ∧
      u = t.put m (.file old.toUTF8 newFileMode) := by
  obtain ⟨m, mode, hm, rfl, hwas⟩ := exists_of_write h
  rcases hwas with ⟨hfree, rfl⟩ | ⟨content, hnode⟩
  · exact ⟨m, hm, hfree, rfl⟩
  · exact absurd (exists_iff.2 ⟨m, hm, Option.isSome_of_eq_some hnode⟩) hexists

namespace Secured

theorem grows (h : Secured t p old ws u) : Grows t u := by
  cases h with
  | unnamed | kept => exact .refl t
  | made _ hexists hwrite =>
    obtain ⟨m, -, hfree, rfl⟩ := exists_of_writeText hexists hwrite
    exact grows_put (.inl hfree) _

/-- What was there stays as it was. -/
theorem node?_eq (h : Secured t p old ws u) (hnode : t.node? l = some node) :
    u.node? l = some node := by
  cases h with
  | unnamed | kept => exact hnode
  | made _ hexists hwrite =>
    obtain ⟨m, -, hfree, rfl⟩ := exists_of_writeText hexists hwrite
    have hne : l ≠ m := by
      rintro rfl
      simp [hfree] at hnode
    rw [node?_put, if_neg hne, hnode]

/-- Something is new exactly if there is a path for the backup that leads to nothing. -/
theorem exists_new_iff (h : Secured t p old ws u) :
    (∃ m, t.node? m = none ∧ (u.node? m).isSome) ↔ ∃ b, p.backup? = some b ∧ ¬ t.exists b := by
  cases h with
  | unnamed hb => simp [hb]
  | kept hb hexists => simp [hb, hexists]
  | made hb hexists hwrite =>
    obtain ⟨m, -, hfree, rfl⟩ := exists_of_writeText hexists hwrite
    refine iff_of_true ⟨m, hfree, ?_⟩ ⟨_, hb, hexists⟩
    rw [node?_put, if_pos rfl]
    rfl

/-- What is new is at the path of the backup and holds the old text. -/
theorem exists_backup_of_new (h : Secured t p old ws u) (hfree : t.node? m = none)
    (hnode : u.node? m = some node) :
    ∃ b, p.backup? = some b ∧ t.location? b = some m ∧ node = .file old.toUTF8 newFileMode := by
  cases h with
  | unnamed | kept => simp [hfree] at hnode
  | made hb hexists hwrite =>
    obtain ⟨m', hm, -, rfl⟩ := exists_of_writeText hexists hwrite
    rw [node?_put] at hnode
    split at hnode
    · next hsame => exact ⟨_, hb, hsame ▸ hm, (Option.some.inj hnode).symm⟩
    · simp [hfree] at hnode

end Secured

/-! ### How conversions end -/

/-- How the conversion of the file at a path ends: the result, what is written, and the tree that is
left. -/
inductive Outcome (rs : RuleSet) (t : FileTree) (p : Path) :
    Except ConversionError Bool → List (Path × String) → FileTree → Prop
  /-- the file cannot be read as a text -/
  | unread {fault : ReadFault} (hread : t.readText p = .error fault) :
      Outcome rs t p (.error (.read p fault)) [] t
  /-- the rules do not change the text -/
  | same {text : String} (hread : t.readText p = .ok text) (hsame : rs.apply text = text) :
      Outcome rs t p (.ok false) [] t
  /-- the backup cannot be made -/
  | unsaved {old : String} {b : Path} {e : SystemError} (hread : t.readText p = .ok old)
      (hnew : rs.apply old ≠ old) (hb : p.backup? = some b) (hexists : ¬ t.exists b)
      (hwrite : t.writeText b old = .error e) : Outcome rs t p (.error (.write b e)) [] t
  /-- the new text cannot be written -/
  | unwritten {old : String} {e : SystemError} {ws : List (Path × String)} {u : FileTree}
      (hread : t.readText p = .ok old) (hnew : rs.apply old ≠ old) (hsecured : Secured t p old ws u)
      (hwrite : u.writeText p (rs.apply old) = .error e) : Outcome rs t p (.error (.write p e)) ws u
  /-- the new text is written -/
  | done {old : String} {ws : List (Path × String)} {u v : FileTree}
    (hread : t.readText p = .ok old)
      (hnew : rs.apply old ≠ old) (hsecured : Secured t p old ws u)
      (hwrite : u.writeText p (rs.apply old) = .ok v) :
      Outcome rs t p (.ok true) (ws ++ [(p, rs.apply old)]) v

namespace RuleSet

/-- The new text of a file whose old text is kept. -/
theorem outcome_writeNew (hread : t.readText p = .ok old) (hnew : rs.apply old ≠ old)
    (hsecured : Secured t p old ws u) {before : List Happening}
    (hbefore : before.filterMap Happening.wrote? = ws) :
    Outcome rs t p (writeNew u p (rs.apply old) before).result
      (writeNew u p (rs.apply old) before).writes (writeNew u p (rs.apply old) before).tree := by
  subst hbefore
  rw [Stage.writes, writeNew]
  cases hwrite : u.writeText p (rs.apply old) with
  | error e => exact .unwritten hread hnew hsecured hwrite
  | ok v =>
    rw [List.filterMap_append]
    exact .done hread hnew hsecured hwrite

/-- **A conversion ends in one of the five ways.** -/
theorem outcome_convert (rs : RuleSet) (t : FileTree) (p : Path) :
    Outcome rs t p (rs.edit t p).result (rs.convert t p).writes (rs.convert t p).tree := by
  have hwrites : (rs.convert t p).writes = (rs.edit t p).writes := by
    simp only [Stage.writes, convert]
    cases (rs.edit t p).result <;> simp [List.filterMap_cons, Happening.wrote?]
  rw [hwrites]
  change Outcome rs t p (rs.edit t p).result (rs.edit t p).writes (rs.edit t p).tree
  rw [edit]
  cases hread : t.readText p with
  | error fault => exact .unread hread
  | ok old =>
    simp only [fst_report_eq_apply]
    split
    · next hsame => exact .same hread hsame
    · next hnew =>
      have hhits : ((rs.report old).2.map fun hit =>
          Happening.note (.ruleApplied p hit)).filterMap Happening.wrote? = [] := by
        rw [List.filterMap_map]
        exact List.filterMap_eq_nil_iff.2 fun _ _ => rfl
      rw [writeBoth]
      split
      · next hb =>
        exact outcome_writeNew hread hnew (.unnamed hb)
          (by simp [List.filterMap_append, hhits, Happening.wrote?])
      · next b hb =>
        split
        · next hexists => exact outcome_writeNew hread hnew (.kept hb hexists) hhits
        · next hexists =>
          cases hwrite : t.writeText b old with
          | error e =>
            simp only [Stage.writes, hhits]
            exact .unsaved hread hnew hb hexists hwrite
          | ok u =>
            exact outcome_writeNew hread hnew (.made hb hexists hwrite)
              (by simp [List.filterMap_append, hhits, Happening.wrote?])

/-- Where the rules do not change the text, nothing is written. -/
theorem convert_of_apply_eq_self (hread : t.readText p = .ok text) (hsame : rs.apply text = text) :
    (rs.convert t p).result = .done p false ∧ (rs.convert t p).writes = [] ∧
      (rs.convert t p).tree = t := by
  have houtcome := outcome_convert rs t p
  rw [result_convert]
  generalize (rs.edit t p).result = outcome at houtcome ⊢
  generalize (rs.convert t p).writes = ws at houtcome ⊢
  generalize (rs.convert t p).tree = u at houtcome ⊢
  cases houtcome with
  | unread hread' => cases hread.symm.trans hread'
  | same => exact ⟨rfl, rfl, rfl⟩
  | unsaved hread' hnew | unwritten hread' hnew | done hread' hnew =>
    obtain rfl := Except.ok.inj (hread.symm.trans hread')
    exact absurd hsame hnew

end RuleSet

end Restyle
