import Restyle.Proofs.Conversion.Outcome
import Restyle.Rule.Table

/-!
# What conversions do to a tree

In any tree, whatever links stand in it, a conversion that does not fail changes the file that the
path leads to exactly if the rules change its text, and makes a backup exactly if there is a path
for one that leads to nothing. If a conversion fails, nothing that was there has changed, and all
that may have come is the backup.

## Main definitions

* `Restyle.Converted` — what has become of a tree when a file in it is converted.

## Main results

* `Restyle.RuleSet.convert_without_error` — conversions that do not fail.
* `Restyle.RuleSet.convert_with_error` — conversions that fail.
-/

namespace Restyle

open FileTree

variable {rs : RuleSet} {t u v : FileTree} {p : Path} {l : Location} {old new : String}
  {ws : List (Path × String)}

/-- What has become of a tree when the file that a path leads to, at `l`, has got a new text. -/
structure Converted (t u : FileTree) (p : Path) (l : Location) (old new : String) : Prop where
  /-- the new text is read from the file -/
  readText_eq : u.readText p = .ok new
  /-- of what was there, the file has changed and nothing else -/
  ne_iff : ∀ m node, t.node? m = some node → (u.node? m ≠ some node ↔ m = l)
  /-- something is new exactly if there is a path for the backup that leads to nothing -/
  exists_new_iff :
    (∃ m, t.node? m = none ∧ (u.node? m).isSome) ↔ ∃ b, p.backup? = some b ∧ ¬ t.exists b
  /-- what is new is the file that the path for the backup leads to, and holds the old text -/
  exists_backup_of_new : ∀ m node, t.node? m = none → u.node? m = some node →
    ∃ b, p.backup? = some b ∧ u.location? b = some m ∧ node = .file old.toUTF8 newFileMode

theorem converted_of_writeText {mode : Nat} (hl : t.location? p = some l)
    (hnode : t.node? l = some (.file old.toUTF8 mode)) (hmode : t.permits readBit mode)
    (hne : new ≠ old) (hsecured : Secured t p old ws u) (hwrite : u.writeText p new = .ok v) :
    Converted t v p l old new := by
  have hgrows := hsecured.grows
  have hnode' := hsecured.node?_eq hnode
  obtain ⟨l', mode', hl', rfl, hwas⟩ := exists_of_write hwrite
  obtain rfl : l = l' := Option.some.inj ((hgrows.location?_eq hl).symm.trans hl')
  obtain rfl : mode' = mode := by
    rcases hwas with ⟨hfree, -⟩ | ⟨content, hwas⟩
    · simp [hfree] at hnode'
    · exact (Node.file.inj (Option.some.inj (hwas.symm.trans hnode'))).2
  have hgrows' : Grows u (u.put l (.file new.toUTF8 mode')) := grows_put (.inr ⟨_, hnode'⟩) _
  have hother {m : Location} (hm : m ≠ l) :
      (u.put l (.file new.toUTF8 mode')).node? m = u.node? m := by rw [node?_put, if_neg hm]
  have hfreed {m : Location} (hfree : t.node? m = none) : m ≠ l := by
    rintro rfl
    simp [hfree] at hnode
  refine ⟨readText_eq_ok_iff.2 ⟨l, hgrows'.location?_eq hl', textAt?_put ?_⟩, fun m node hm => ?_,
    ?_, fun m node hfree hm => ?_⟩
  · rwa [hgrows.permits_eq]
  · by_cases hsame : m = l
    · subst hsame
      refine iff_of_true (fun heq => hne ?_) rfl
      rw [node?_put, if_pos rfl, ← hm, hnode] at heq
      exact String.toByteArray_inj.1 (Node.file.inj (Option.some.inj heq)).1
    · refine iff_of_false (not_not.2 ?_) hsame
      rw [hother hsame, hsecured.node?_eq hm]
  · rw [← hsecured.exists_new_iff]
    exact exists_congr fun m => and_congr_right fun hfree => by rw [hother (hfreed hfree)]
  · rw [hother (hfreed hfree)] at hm
    obtain ⟨b, hb, hlocation, hcontent⟩ := hsecured.exists_backup_of_new hfree hm
    exact ⟨b, hb, (hgrows.trans hgrows').location?_eq hlocation, hcontent⟩

/-- A directory of sources that are links to files elsewhere, one of which may not be written. The
backups are links, too, to files that are not there. -/
def linkedOriginals : FileTree where
  nodes :=
    [([], .directory 0o755), (workplace, .directory 0o755),
      (Name.ofString "src" :: workplace, .directory 0o755),
      (Name.ofString "lib" :: workplace, .directory 0o755),
      (Name.ofString "old" :: workplace, .directory 0o755),
      (Name.ofString "a.js" :: Name.ofString "src" :: workplace,
        .link (Path.ofString "../lib/a.js")),
      (Name.ofString "b.js" :: Name.ofString "src" :: workplace,
        .link (Path.ofString "../lib/b.js")),
      (Name.ofString "a_MUI_backup.js" :: Name.ofString "src" :: workplace,
        .link (Path.ofString "../old/a.js")),
      (Name.ofString "b_MUI_backup.js" :: Name.ofString "src" :: workplace,
        .link (Path.ofString "../old/b.js")),
      (Name.ofString "a.js" :: Name.ofString "lib" :: workplace, .file "<Box>a</Box>".toUTF8 0o644),
      (Name.ofString "b.js" :: Name.ofString "lib" :: workplace, .file "<Box>b</Box>".toUTF8 0o444)]
  current := workplace
  guarded := true

namespace RuleSet

/-- **A conversion that does not fail** has read a text from the file that the path leads to. It
reports a change exactly if the rules change the text. Without one the tree stays as it is. With one
the file has the new text, nothing else has changed that was there, and a new file holds the old
text exactly if there is a path for the backup that led to nothing. -/
theorem convert_without_error (h : (rs.convert t p).result.error? = none) :
    ∃ (l : Location) (old : String) (mode : Nat), t.readText p = .ok old ∧ t.location? p = some l ∧
      t.node? l = some (.file old.toUTF8 mode) ∧
      ((rs.convert t p).result.wasModified ↔ rs.apply old ≠ old) ∧
      (¬ (rs.convert t p).result.wasModified → (rs.convert t p).tree = t) ∧
      ((rs.convert t p).result.wasModified →
        Converted t (rs.convert t p).tree p l old (rs.apply old)) := by
  have houtcome := outcome_convert rs t p
  rw [result_convert] at h ⊢
  generalize (rs.edit t p).result = outcome at h houtcome ⊢
  generalize (rs.convert t p).writes = ws at houtcome
  generalize (rs.convert t p).tree = u at houtcome ⊢
  cases houtcome with
  | unread | unsaved | unwritten => cases h
  | same hread hsame =>
    obtain ⟨l, hl, htext⟩ := readText_eq_ok_iff.1 hread
    obtain ⟨mode, hnode, -⟩ := exists_of_textAt? htext
    refine ⟨l, _, mode, hread, hl, hnode, by simp [hsame], fun _ => rfl, fun h => ?_⟩
    cases h
  | done hread hnew hsecured hwrite =>
    obtain ⟨l, hl, htext⟩ := readText_eq_ok_iff.1 hread
    obtain ⟨mode, hnode, hmode⟩ := exists_of_textAt? htext
    exact ⟨l, _, mode, hread, hl, hnode, by simp [hnew], fun h => absurd rfl h,
      fun _ => converted_of_writeText hl hnode hmode hnew hsecured hwrite⟩

/-- The text of the file to which the link leads is replaced, and its backup is made where the link
of the backup leads. -/
theorem convert_a_linkedOriginals :
    let p := Path.ofString "src/a.js"
    (boxRules.convert linkedOriginals p).result.error? = none ∧
    (boxRules.convert linkedOriginals p).result.wasModified ∧
    Converted linkedOriginals (boxRules.convert linkedOriginals p).tree p
      (Name.ofString "a.js" :: Name.ofString "lib" :: workplace) "<Box>a</Box>" "<div>a</div>" := by
  intro p
  have herror : (boxRules.convert linkedOriginals p).result.error? = none := by decide +kernel
  have hmodified : (boxRules.convert linkedOriginals p).result.wasModified := by decide +kernel
  have hread : linkedOriginals.readText p = .ok "<Box>a</Box>" := by decide +kernel
  have hlocation : linkedOriginals.location? p =
      some (Name.ofString "a.js" :: Name.ofString "lib" :: workplace) := by decide +kernel
  obtain ⟨l, old, mode, hread', hl, -, -, -, hconverted⟩ := convert_without_error herror
  obtain rfl := Except.ok.inj (hread.symm.trans hread')
  obtain rfl := Option.some.inj (hlocation.symm.trans hl)
  have hnew : boxRules.apply "<Box>a</Box>" = "<div>a</div>" := by decide +kernel
  exact ⟨herror, hmodified, hnew ▸ hconverted hmodified⟩

/-- **A conversion that fails** reports no change, and nothing that was there has changed. Either
the file could not be read as a text, or its backup, of which nothing was there, could not be
written, and then the tree is as it was; or the new text could not be written, and then all that may
have come is the backup, with the text of the file. -/
theorem convert_with_error {err : ConversionError}
    (h : (rs.convert t p).result.error? = some err) :
    (rs.convert t p).result.wasModified = false ∧
    (∀ m node, t.node? m = some node → (rs.convert t p).tree.node? m = some node) ∧
    ((∃ fault, t.readText p = .error fault ∧ err = .read p fault ∧ (rs.convert t p).tree = t) ∨
      ∃ old, t.readText p = .ok old ∧
        ((∃ b e, p.backup? = some b ∧ ¬ t.exists b ∧ t.writeText b old = .error e ∧
            err = .write b e ∧ (rs.convert t p).tree = t) ∨
          ∃ e, (rs.convert t p).tree.writeText p (rs.apply old) = .error e ∧ err = .write p e ∧
            ((rs.convert t p).tree = t ∨
              ∃ b m, p.backup? = some b ∧ ¬ t.exists b ∧ t.node? m = none ∧
                (rs.convert t p).tree.location? b = some m ∧
                (rs.convert t p).tree = t.put m (.file old.toUTF8 newFileMode)))) := by
  have houtcome := outcome_convert rs t p
  rw [result_convert] at h ⊢
  generalize (rs.edit t p).result = outcome at h houtcome ⊢
  generalize (rs.convert t p).writes = ws at houtcome
  generalize (rs.convert t p).tree = u at houtcome ⊢
  cases houtcome with
  | same | done => cases h
  | unread hread =>
    obtain rfl := Option.some.inj h
    exact ⟨rfl, fun m node hnode => hnode, .inl ⟨_, hread, rfl, rfl⟩⟩
  | unsaved hread _ hb hexists hwrite =>
    obtain rfl := Option.some.inj h
    exact ⟨rfl, fun m node hnode => hnode,
      .inr ⟨_, hread, .inl ⟨_, _, hb, hexists, hwrite, rfl, rfl⟩⟩⟩
  | @unwritten old e ws u hread _ hsecured hwrite =>
    obtain rfl := Option.some.inj h
    refine ⟨rfl, fun m node hnode => hsecured.node?_eq hnode,
      .inr ⟨old, hread, .inr ⟨e, hwrite, rfl, ?_⟩⟩⟩
    have hgrows := hsecured.grows
    cases hsecured with
    | unnamed | kept => exact .inl rfl
    | made hb hexists hwrite' =>
      obtain ⟨m, hm, hfree, hput⟩ := exists_of_writeText hexists hwrite'
      exact .inr ⟨_, m, hb, hexists, hfree, hgrows.location?_eq hm, hput⟩

/-- The file to which the link leads may not be written. Its backup has been made where the link of
the backup leads, and nothing else has changed. -/
theorem convert_b_linkedOriginals :
    let p := Path.ofString "src/b.js"
    let m := Name.ofString "b.js" :: Name.ofString "old" :: workplace
    (boxRules.convert linkedOriginals p).result.error? = some (.write p .accessDenied) ∧
    (boxRules.convert linkedOriginals p).result.wasModified = false ∧
    linkedOriginals.node? m = none ∧
    (boxRules.convert linkedOriginals p).tree.node? m =
      some (.file "<Box>b</Box>".toUTF8 newFileMode) ∧
    ∀ l node, linkedOriginals.node? l = some node →
      (boxRules.convert linkedOriginals p).tree.node? l = some node := by
  intro p m
  have herror : (boxRules.convert linkedOriginals p).result.error? =
      some (.write p .accessDenied) := by decide +kernel
  obtain ⟨hmodified, hkept, -⟩ := convert_with_error herror
  exact ⟨herror, hmodified, by decide, by decide +kernel, hkept⟩

end RuleSet

end Restyle
