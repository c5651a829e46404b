import Restyle.Path.Source
import Restyle.Proofs.Path.Pieces

/-!
# The names of backups

The name of a file with a backup falls into two parts, of which the second begins at the last place
where a source extension may begin, and the name of its backup has the marker between them. The
marker makes no later such place, so that the parts can be read off the name of the backup. Hence no
backup is itself a source file, and different files of a directory have different backups.

## Main results

* `Restyle.Name.backup?_eq_some_iff` — the name of a backup.
* `Restyle.Name.not_isSource_of_backup?` — no backup is a source file.
* `Restyle.Name.backup?_inj` — different files have different backups.
* `Restyle.Path.exists_way_of_backup?` — a backup stands in the directory of its file.
-/

namespace Restyle

namespace Name

variable {n b : Name}

theorem without?_eq_some {ending stem : Name} :
    without? ending n = some stem ↔ n = stem ++ ending := by
  rw [without?]
  constructor
  · intro h
    split at h
    · next hsuffix =>
      obtain ⟨front, rfl⟩ := List.isSuffixOf_iff_suffix.1 hsuffix
      simpa using h
    · exact nomatch h
  · rintro rfl
    simp

/-- The extensions of source files. -/
def extensions : List Name := sourceExtensions.map ofString

/-- The name of a source file is a stem and an extension, and the stem is not that of a backup. -/
theorem isSource_iff : n.isSource ↔
    ∃ stem, ∃ e ∈ extensions, n = stem ++ e ∧ ¬ ofString backupStem <:+ stem := by
  rw [isSource, List.any_eq_true]
  constructor
  · rintro ⟨e, he, h⟩
    obtain ⟨stem, hstem, hnot⟩ := (Option.any_eq_true _ _).1 h
    refine ⟨stem, ofString e, List.mem_map_of_mem he, without?_eq_some.1 hstem, fun hsuffix => ?_⟩
    rw [List.isSuffixOf_iff_suffix.2 hsuffix] at hnot
    exact Bool.noConfusion hnot
  · rintro ⟨stem, e, he, hn, hnot⟩
    obtain ⟨ending, hending, rfl⟩ := List.mem_map.1 he
    refine ⟨ending, hending, (Option.any_eq_true _ _).2 ⟨stem, without?_eq_some.2 hn, ?_⟩⟩
    rw [Bool.not_eq_true', Bool.eq_false_iff]
    exact fun hsuffix => hnot (List.isSuffixOf_iff_suffix.1 hsuffix)

/-! ### The last place of a marker -/

/-- The last place of a marker is that in the rest of a name, if the marker begins the rest and
stands at no later place. -/
theorem cutLast?_append {marker rest : Name} (h : cutLast? marker rest = some ([], rest)) :
    ∀ stem : Name, cutLast? marker (stem ++ rest) = some (stem, rest)
  | [] => h
  | b :: stem => by rw [List.cons_append, cutLast?, cutLast?_append h stem]

/-- **A name is cut at the last place of a marker**, and nowhere else. -/
theorem cutLast?_eq_some_iff {marker before rest : Name} : ∀ {n : Name},
    cutLast? marker n = some (before, rest) ↔
      n = before ++ rest ∧ cutLast? marker rest = some ([], rest) := by
  refine fun {n} => ⟨fun h => ?_, fun ⟨hn, hrest⟩ => hn ▸ cutLast?_append hrest before⟩
  induction n generalizing before with
  | nil => exact nomatch h
  | cons c cs ih =>
    have hcut := h
    rw [cutLast?] at h
    split at h
    · next later rest' hlater =>
      obtain ⟨rfl, rfl⟩ := Prod.mk.inj (Option.some.inj h)
      obtain ⟨rfl, hrest⟩ := ih hlater
      exact ⟨rfl, hrest⟩
    · split at h
      · obtain ⟨rfl, rfl⟩ := Prod.mk.inj (Option.some.inj h)
        exact ⟨rfl, hcut⟩
      · exact nomatch h

/-- A name can be cut if the marker stands in it. -/
theorem isSome_cutLast? {marker : Name} (hmarker : marker ≠ []) : ∀ {n : Name}, marker <:+: n →
    (cutLast? marker n).isSome
  | [], h => absurd (List.infix_nil.1 h) hmarker
  | c :: cs, h => by
    rw [cutLast?]
    split
    · rfl
    · next hnone =>
      rcases List.infix_cons_iff.1 h with hprefix | hinfix
      · rw [if_pos (List.isPrefixOf_iff_prefix.2 hprefix)]
        rfl
      · have hsome := isSome_cutLast? hmarker hinfix
        rw [hnone] at hsome
        exact nomatch hsome

theorem cutLast?_of_mem_extensions :
    ∀ e ∈ extensions, cutLast? extensionMarker e = some ([], e) := by
  decide

/-! ### Names of backups -/

/-- **The name of a backup** has the marker before the last place where a source extension may
begin. -/
theorem backup?_eq_some_iff : n.backup? = some b ↔ ∃ before rest, n = before ++ rest ∧
    cutLast? extensionMarker rest = some ([], rest) ∧
      b = before ++ ofString backupMarker ++ rest := by
  rw [backup?, Option.map_eq_some_iff]
  constructor
  · rintro ⟨⟨before, rest⟩, hcut, rfl⟩
    obtain ⟨hn, hrest⟩ := cutLast?_eq_some_iff.1 hcut
    exact ⟨before, rest, hn, hrest, rfl⟩
  · rintro ⟨before, rest, hn, hrest, rfl⟩
    exact ⟨(before, rest), cutLast?_eq_some_iff.2 ⟨hn, hrest⟩, rfl⟩

/-- The name of the backup of a source file has the marker before the extension. -/
theorem backup?_stem {stem e : Name} (he : e ∈ extensions) :
    (stem ++ e).backup? = some (stem ++ ofString backupMarker ++ e) :=
  backup?_eq_some_iff.2 ⟨stem, e, rfl, cutLast?_of_mem_extensions e he, rfl⟩

/-- A source file has a backup. -/
theorem isSome_backup?_of_isSource (h : n.isSource) : n.backup?.isSome := by
  obtain ⟨stem, e, he, rfl, -⟩ := isSource_iff.1 h
  rw [backup?_stem he]
  rfl

/-- A name in which a source extension may begin has a backup. -/
theorem isSome_backup? (h : extensionMarker <:+: n) : n.backup?.isSome := by
  rw [backup?, Option.isSome_map]
  exact isSome_cutLast? (by decide) h

/-- **No backup is a source file.** -/
theorem not_isSource_of_backup? (hb : n.backup? = some b) : ¬ b.isSource := by
  obtain ⟨before, rest, -, hrest, rfl⟩ := backup?_eq_some_iff.1 hb
  intro hsource
  obtain ⟨stem, e, he, hsame, hnot⟩ := isSource_iff.1 hsource
  -- the extension begins where the name is cut, so that the stem ends in the marker
  have hcut := cutLast?_append hrest (before ++ ofString backupMarker)
  rw [hsame, cutLast?_append (cutLast?_of_mem_extensions e he)] at hcut
  obtain ⟨rfl, -⟩ := Prod.mk.inj (Option.some.inj hcut)
  have hmarker : ofString backupStem <:+ ofString backupMarker := by decide
  exact hnot (hmarker.trans (List.suffix_append before _))

/-- **Different files have different backups.** -/
theorem backup?_inj {n' : Name} (hb : n.backup? = some b) (hb' : n'.backup? = some b) : n = n' := by
  obtain ⟨before, rest, rfl, hrest, rfl⟩ := backup?_eq_some_iff.1 hb
  obtain ⟨before', rest', rfl, hrest', hsame⟩ := backup?_eq_some_iff.1 hb'
  have hcut := cutLast?_append hrest (before ++ ofString backupMarker)
  rw [hsame, cutLast?_append hrest'] at hcut
  obtain ⟨hbefore, rfl⟩ := Prod.mk.inj (Option.some.inj hcut)
  rw [List.append_cancel_right hbefore]

/-- The name of a backup is longer than that of its file. -/
theorem ne_of_backup? (hb : n.backup? = some b) : b ≠ n := by
  obtain ⟨before, rest, rfl, -, rfl⟩ := backup?_eq_some_iff.1 hb
  have hlong : 0 < (ofString backupMarker).length := by decide
  intro h
  have := congrArg List.length h
  simp only [List.length_append] at this
  omega

/-- A backup has a name that a node may have. -/
theorem isProper_of_backup? (hproper : n.IsProper) (hb : n.backup? = some b) : b.IsProper := by
  obtain ⟨before, rest, rfl, -, rfl⟩ := backup?_eq_some_iff.1 hb
  have hmarker : slash ∉ ofString backupMarker := by decide
  have hlong : 2 < (ofString backupMarker).length := by decide
  have hslash := hproper.not_mem
  simp only [List.mem_append, not_or] at hslash
  refine ⟨fun h => ?_, by simp [hslash, hmarker], fun h => ?_, fun h => ?_⟩ <;>
    · have := congrArg List.length h
      simp only [List.length_append, dot, dotDot, List.length_cons, List.length_nil] at this
      omega

end Name

namespace Path

theorem backup?_child {dir : Path} {n m : Name} (hdir : dir.bytes ≠ []) (hproper : n.IsProper)
    (htext : n.text?.isSome) (hm : n.backup? = some m) :
    (dir.child n).backup? = some ((dir.child n).sibling m) := by
  rw [backup?, fileName?_child hdir hproper]
  simp only [htext, hm, if_true, Option.map_some]

/-- **A backup stands in the directory of its file.** It is reached by the same steps, up to steps
from a directory to itself. -/
theorem exists_way_of_backup? {dir b : Path} {n : Name} (hdir : dir.bytes ≠ [])
    (hproper : n.IsProper) (hb : (dir.child n).backup? = some b) :
    ∃ m, n.backup? = some m ∧ ∃ way idle : List Step, dir.way = way ++ idle ∧
      (∀ s ∈ idle, s = .here) ∧ b.steps = way ++ [.name m] := by
  rw [backup?, fileName?_child hdir hproper] at hb
  simp only at hb
  split at hb
  · obtain ⟨m, hm, rfl⟩ := Option.map_eq_some_iff.1 hb
    obtain ⟨idle, hidle, hne, hway⟩ := exists_way_directory hdir hproper
    exact ⟨m, hm, (dir.child n).directory.way, idle, hway, hidle,
      steps_child hne (Name.isProper_of_backup? hproper hm)⟩
  · exact nomatch hb

end Path

end Restyle
