import Restyle.Conversion.File
import Restyle.Proofs.FileTree.Frame
import Restyle.Proofs.Path.Backup

/-!
# What the conversion of a file depends on

The conversion of a file reads and writes the file and its backup and nothing else. In two trees
that have the same directories and the same nodes at these places it has the same outcome and leaves
the same nodes there. It reports a change exactly if the node of the file has changed.

## Main definitions

* `Restyle.FileTree.Touches` — a file and its backup stand at some locations.
* `Restyle.FileTree.places` — the locations of a file and its backup.
* `Restyle.Stage.Agrees` — two stages of work that cannot be told apart at some locations.

## Main results

* `Restyle.RuleSet.convert_keeps` — the conversion of a file changes nothing elsewhere.
* `Restyle.RuleSet.convert_agrees` — it depends on nothing elsewhere.
* `Restyle.RuleSet.wasModified_convert_iff` — it reports exactly the changes of the file.
-/

namespace Restyle

namespace FileTree

/-- A file and its backup lead to names in directories, and stand at some of the given locations if
their paths may be used. -/
structure Touches (t : FileTree) (p : Path) (ls : List Location) : Prop where
  file : ∃ d n, t.LeadsTo p d n ∧ (permit p n = .ok () → n :: d ∈ ls)
  backup : ∀ b ∈ p.backup?, ∃ d n, t.LeadsTo b d n ∧ (permit b n = .ok () → n :: d ∈ ls)

/-- The locations of a file and its backup. -/
def places (t : FileTree) (p : Path) : List Location :=
  (t.location? p).toList ++ (p.backup?.bind t.location?).toList

theorem touches_places {t : FileTree} (hlink : t.LinkFree) {p : Path}
    (hp : ∃ d n, t.LeadsTo p d n) (hbackup : ∀ b ∈ p.backup?, ∃ d n, t.LeadsTo b d n) :
    t.Touches p (t.places p) := by
  obtain ⟨d, n, hleads⟩ := hp
  refine ⟨⟨d, n, hleads, fun hpermit => ?_⟩, fun b hb => ?_⟩
  · rw [places, hleads.location?_eq_some hlink hpermit]
    exact List.mem_append_left _ (List.mem_singleton_self _)
  · obtain ⟨d, n, hleads⟩ := hbackup b hb
    refine ⟨d, n, hleads, fun hpermit => ?_⟩
    rw [places, Option.mem_def.1 hb, Option.bind_some, hleads.location?_eq_some hlink hpermit]
    exact List.mem_append_right _ (List.mem_singleton_self _)

end FileTree

open FileTree

/-- Two stages of work that cannot be told apart at some locations. -/
structure Stage.Agrees {α : Type} (ls : List Location) (s s' : Stage α) : Prop where
  result : s'.result = s.result
  trace : s'.trace = s.trace
  tree : Alike ls s.tree s'.tree

namespace RuleSet

variable {rs : RuleSet} {t t' : FileTree} {p : Path} {d : Location} {n : Name} {ls : List Location}

/-! ### Writing -/

theorem writeText_eq (hlink : t.LinkFree) (hp : t.LeadsTo p d n) (text : String) :
    t.writeText p text =
      (t.modeFor p d n).map fun mode => t.put (n :: d) (.file text.toUTF8 mode) :=
  hp.write_eq hlink text.toUTF8

theorem keeps_writeText (hlink : t.LinkFree) (hp : t.LeadsTo p d n)
    (hmem : permit p n = .ok () → n :: d ∈ ls) {text : String} {u : FileTree}
    (h : t.writeText p text = .ok u) : Keeps ls t u := by
  rw [writeText_eq hlink hp] at h
  cases hmode : t.modeFor p d n with
  | error err =>
    rw [hmode] at h
    exact nomatch h
  | ok mode =>
    rw [hmode] at h
    obtain rfl := Except.ok.inj h
    exact (keeps_put (not_directory_of_modeFor hmode) text.toUTF8 mode).mono
      (by simpa using hmem (permit_of_modeFor hmode))

/-- Writing the same text into two trees: it is refused in both, for the same reason, or in none. -/
theorem writeText_cases (halike : Alike ls t t') (hlink : t.LinkFree) (hlink' : t'.LinkFree)
    (hp : t.LeadsTo p d n) (hmem : permit p n = .ok () → n :: d ∈ ls) (text : String) :
    (∃ err, t.writeText p text = .error err ∧ t'.writeText p text = .error err) ∨
      ∃ u u', t.writeText p text = .ok u ∧ t'.writeText p text = .ok u' ∧ Alike ls u u' := by
  have hp' := halike.toSameFrame.leadsTo hp
  rw [writeText_eq hlink hp, writeText_eq hlink' hp', halike.modeFor_eq hp.isSearchable hmem]
  cases t.modeFor p d n with
  | error err => exact .inl ⟨err, rfl, rfl⟩
  | ok mode => exact .inr ⟨_, _, rfl, rfl, halike.put _ _⟩

theorem writeNew_keeps (hlink : t.LinkFree) (hp : t.LeadsTo p d n)
    (hmem : permit p n = .ok () → n :: d ∈ ls) (text : String) (before : List Happening) :
    Keeps ls t (writeNew t p text before).tree := by
  rw [writeNew]
  split
  · exact .refl ls t
  · next u hu => exact keeps_writeText hlink hp hmem hu

theorem writeNew_agrees (halike : Alike ls t t') (hlink : t.LinkFree) (hlink' : t'.LinkFree)
    (hp : t.LeadsTo p d n) (hmem : permit p n = .ok () → n :: d ∈ ls) (text : String)
    (before : List Happening) :
    Stage.Agrees ls (writeNew t p text before) (writeNew t' p text before) := by
  rw [writeNew, writeNew]
  rcases writeText_cases halike hlink hlink' hp hmem text with ⟨err, h, h'⟩ | ⟨u, u', h, h', hu⟩
  · rw [h, h']
    exact ⟨rfl, rfl, halike⟩
  · rw [h, h']
    exact ⟨rfl, rfl, hu⟩

theorem writeBoth_keeps (hlink : t.LinkFree) (hp : t.Touches p ls) (old new : String)
    (before : List Happening) : Keeps ls t (writeBoth t p old new before).tree := by
  obtain ⟨⟨d, n, hleads, hmem⟩, hbackup⟩ := hp
  rw [writeBoth]
  split
  · exact writeNew_keeps hlink hleads hmem new _
  · next b hb =>
    split
    · exact writeNew_keeps hlink hleads hmem new _
    · split
      · exact .refl ls t
      · next u hu =>
        obtain ⟨d', n', hleads', hmem'⟩ := hbackup b hb
        have hfirst := keeps_writeText hlink hleads' hmem' hu
        have hsecond :=
          writeNew_keeps (hfirst.linkFree hlink) (hfirst.toSameFrame.leadsTo hleads) hmem
          new (before ++ [.wrote b old, .note (.backupWritten b)])
        exact (hfirst.trans hsecond).mono (by simp)

theorem writeBoth_agrees (halike : Alike ls t t') (hlink : t.LinkFree) (hlink' : t'.LinkFree)
    (hp : t.Touches p ls) (old new : String) (before : List Happening) :
    Stage.Agrees ls (writeBoth t p old new before) (writeBoth t' p old new before) := by
  obtain ⟨⟨d, n, hleads, hmem⟩, hbackup⟩ := hp
  rw [writeBoth, writeBoth]
  cases hb : p.backup? with
  | none => exact writeNew_agrees halike hlink hlink' hleads hmem new _
  | some b =>
    obtain ⟨d', n', hleads', hmem'⟩ := hbackup b hb
    have hexists : t'.exists b = t.exists b := by
      rw [FileTree.exists, FileTree.exists, halike.stat_eq hleads' hmem' hlink hlink']
    simp only [hexists]
    split
    · exact writeNew_agrees halike hlink hlink' hleads hmem new _
    · rcases writeText_cases halike hlink hlink' hleads' hmem' old with
        ⟨err, h, h'⟩ | ⟨u, u', h, h', hu⟩
      · rw [h, h']
        exact ⟨rfl, rfl, halike⟩
      · have hkeeps := keeps_writeText hlink hleads' hmem' h
        have hkeeps' := keeps_writeText hlink' (halike.toSameFrame.leadsTo hleads') hmem' h'
        rw [h, h']
        exact writeNew_agrees hu (hkeeps.linkFree hlink) (hkeeps'.linkFree hlink')
          (hkeeps.toSameFrame.leadsTo hleads) hmem new _

/-! ### Converting -/

theorem edit_keeps (rs : RuleSet) (hlink : t.LinkFree) (hp : t.Touches p ls) :
    Keeps ls t (rs.edit t p).tree := by
  rw [edit]
  cases t.readText p with
  | error fault => exact .refl ls t
  | ok old =>
    simp only
    split
    · exact .refl ls t
    · exact writeBoth_keeps hlink hp _ _ _

theorem edit_agrees (rs : RuleSet) (halike : Alike ls t t') (hlink : t.LinkFree)
    (hlink' : t'.LinkFree) (hp : t.Touches p ls) :
    Stage.Agrees ls (rs.edit t p) (rs.edit t' p) := by
  obtain ⟨d, n, hleads, hmem⟩ := hp.file
  have hread : t'.readText p = t.readText p := by
    rw [readText, readText, halike.read_eq hleads hmem hlink hlink']
  rw [edit, edit, hread]
  cases t.readText p with
  | error fault => exact ⟨rfl, rfl, halike⟩
  | ok old =>
    simp only
    split
    · exact ⟨rfl, rfl, halike⟩
    · exact writeBoth_agrees halike hlink hlink' hp _ _ _

/-- **The conversion of a file changes nothing elsewhere.** -/
theorem convert_keeps (rs : RuleSet) (hlink : t.LinkFree) (hp : t.Touches p ls) :
    Keeps ls t (rs.convert t p).tree := edit_keeps rs hlink hp

/-- **The conversion of a file depends on nothing elsewhere.** -/
theorem convert_agrees (rs : RuleSet) (halike : Alike ls t t') (hlink : t.LinkFree)
    (hlink' : t'.LinkFree) (hp : t.Touches p ls) :
    Stage.Agrees ls (rs.convert t p) (rs.convert t' p) := by
  obtain ⟨hresult, htrace, htree⟩ := edit_agrees rs halike hlink hlink' hp
  refine ⟨?_, ?_, htree⟩
  · rw [convert, convert, hresult]
  · rw [convert, convert, hresult, htrace]

/-! ### Changes that are reported -/

theorem toUTF8_of_fromUTF8? {content : ByteArray} {text : String}
    (h : String.fromUTF8? content = some text) : text.toUTF8 = content := by
  rw [String.fromUTF8?] at h
  split at h
  · obtain rfl := Option.some.inj h
    rfl
  · exact nomatch h

/-- The text of a file is that of its content. -/
theorem fromUTF8?_of_readText (hlink : t.LinkFree) (hp : t.LeadsTo p d n) {content : ByteArray}
    {mode : Nat} (hnode : t.node? (n :: d) = some (.file content mode)) {text : String}
    (h : t.readText p = .ok text) : String.fromUTF8? content = some text := by
  have hread : t.read p = .ok content := by
    have hstat : t.stat p = (permit p n).map fun _ => .file content mode := by
      rw [hp.stat_eq hlink, hnode]
      cases permit p n <;> rfl
    rw [readText, FileTree.read, hstat] at h
    rw [FileTree.read, hstat]
    cases hpermit : permit p n with
    | error err =>
      rw [hpermit] at h
      cases h
    | ok =>
      rw [hpermit] at h
      cases hmode : t.permits readBit mode with
      | false =>
        simp [Except.map, bind, Except.bind, hmode] at h
      | true =>
        simp only [Except.map, bind, Except.bind, hmode]
        rfl
  rw [readText, hread] at h
  simp only at h
  split at h
  · next hcontent =>
    rw [hcontent, Except.ok.inj h]
  · cases h

/-- Whether the outcome of work on a file is that its text changed. -/
def isChange (outcome : Except ConversionError Bool) : Bool :=
  match outcome with
  | .ok b => b
  | .error _ => false

theorem wasModified_convert (rs : RuleSet) (t : FileTree) (p : Path) :
    (rs.convert t p).result.wasModified = isChange (rs.edit t p).result := by
  change (ConversionResult.of p (rs.edit t p).result).wasModified = _
  cases (rs.edit t p).result <;> rfl

theorem isChange_writeNew_iff (hlink : t.LinkFree) (hp : t.LeadsTo p d n) {content : ByteArray}
    {mode : Nat} (hnode : t.node? (n :: d) = some (.file content mode)) {text : String}
    (hne : text.toUTF8 ≠ content) (before : List Happening) :
    isChange (writeNew t p text before).result ↔
      (writeNew t p text before).tree.node? (n :: d) ≠ t.node? (n :: d) := by
  rw [writeNew, writeText_eq hlink hp]
  cases t.modeFor p d n with
  | error err => simp [isChange, Except.map]
  | ok mode' =>
    have hne' : ¬ text.toByteArray = content := hne
    simp [isChange, Except.map, node?_put, hnode, hne']

theorem isChange_writeBoth_iff (hlink : t.LinkFree) (hp : t.LeadsTo p d n)
    (hbackup : ∀ b ∈ p.backup?, ∃ d' n', t.LeadsTo b d' n' ∧ n' :: d' ≠ n :: d)
    {content : ByteArray}
    {mode : Nat} (hnode : t.node? (n :: d) = some (.file content mode)) {new : String}
    (hne : new.toUTF8 ≠ content) (old : String) (before : List Happening) :
    isChange (writeBoth t p old new before).result ↔
      (writeBoth t p old new before).tree.node? (n :: d) ≠ t.node? (n :: d) := by
  rw [writeBoth]
  split
  · exact isChange_writeNew_iff hlink hp hnode hne _
  · next b hb =>
    split
    · exact isChange_writeNew_iff hlink hp hnode hne _
    · split
      · simp [isChange]
      · next u hu =>
        obtain ⟨d', n', hleads', hplace⟩ := hbackup b hb
        have hkeeps : Keeps [n' :: d'] t u := keeps_writeText hlink hleads' (fun _ => by simp) hu
        have hsame : u.node? (n :: d) = t.node? (n :: d) :=
          hkeeps.node? _ (by simpa using fun h h' => hplace (by rw [h, h']))
        rw [← hsame]
        exact isChange_writeNew_iff (hkeeps.linkFree hlink) (hkeeps.toSameFrame.leadsTo hp)
          (hsame.trans hnode) hne _

/-- **The conversion of a file reports exactly the changes of the file.** -/
theorem wasModified_convert_iff (rs : RuleSet) (hlink : t.LinkFree) (hp : t.LeadsTo p d n)
    (hbackup : ∀ b ∈ p.backup?, ∃ d' n', t.LeadsTo b d' n' ∧ n' :: d' ≠ n :: d)
    {content : ByteArray} {mode : Nat} (hnode : t.node? (n :: d) = some (.file content mode)) :
    (rs.convert t p).result.wasModified ↔
      (rs.convert t p).tree.node? (n :: d) ≠ t.node? (n :: d) := by
  rw [wasModified_convert]
  change _ ↔ (rs.edit t p).tree.node? (n :: d) ≠ _
  rw [edit]
  cases hread : t.readText p with
  | error fault => simp [isChange]
  | ok old =>
    have hcontent := toUTF8_of_fromUTF8? (fromUTF8?_of_readText hlink hp hnode hread)
    simp only
    split
    · simp [isChange]
    · next hnew =>
      refine isChange_writeBoth_iff hlink hp hbackup hnode (fun hsame => hnew ?_) old _
      exact String.toByteArray_inj.1 (hsame.trans hcontent.symm)

end RuleSet

end Restyle
