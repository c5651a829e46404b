import Restyle.Proofs.Path.Backup
import Restyle.Proofs.Path.Descent

/-!
# Paths that differ in their last name

A path that ends in a name has the components of its directory and the name, however many slashes
and dots it is written with. A path for another name in the same directory has the components of the
directory and the other name, so that its directory is the same one. The backup of a file is such a
path, and what is known of the names of backups holds of their paths.

Paths are compared by their components.

## Main results

* `Restyle.Path.components_eq_directory` — the components of a path that ends in a name.
* `Restyle.Path.components_sibling`, `Restyle.Path.directory_sibling` — another name in the
  directory.
* `Restyle.Path.backup?_eq_some_iff` — the path of a backup.
* `Restyle.Path.backups_are_apart` — the backups of all paths.
-/

namespace Restyle

namespace Path

variable {p q b : Path} {n m : Name}

/-! ### The directory of a path -/

/-- The directory of a path does not depend on what stands idle at its end. -/
theorem directory_congr {first : Name} {more idle : List Name} (hidle : ∀ q ∈ idle, isIdle q)
    (hp : pieces p.bytes = first :: (more ++ idle)) (hq : pieces q.bytes = first :: more) :
    p.directory = q.directory := by
  rw [directory, directory, hp, hq]
  simp only [dropIdleEnd_append hidle]

/-- The components of the directory of a path that ends in a name behind other pieces. -/
theorem components_directory {first : Name} {more : List Name} (hn : n.IsProper)
    (h : pieces p.bytes = first :: (more ++ [n])) :
    p.directory.components = firstComponent first :: more.filterMap Component.ofPiece? := by
  obtain ⟨hne, hpieces⟩ := exists_pieces_directory hn h
  rw [← Component.filterMap_dropIdleEnd more]
  rcases hpieces with hpieces | hpieces
  · exact components_eq hne hpieces
  · have hempty : [[]].filterMap Component.ofPiece? = [] := rfl
    rw [components_eq hne hpieces, List.filterMap_append, hempty, List.append_nil]

/-- **The components of a path that ends in a name** are those of its directory and the name. -/
theorem components_eq_directory (h : p.fileName? = some n) :
    p.components = p.directory.components ++ [.name n] := by
  obtain ⟨hn, before, after, hpieces, hafter⟩ := exists_pieces_of_fileName? h
  have hbytes : p.bytes ≠ [] := fun hnil => by simp [fileName?, components, hnil, pieces] at h
  cases before with
  | nil =>
    have hdirectory : p.directory = ⟨[]⟩ := by
      have hidle := dropIdleEnd_append hafter []
      rw [List.nil_append] at hidle
      rw [directory, hpieces]
      simp only [List.nil_append, hidle]
      rfl
    rw [components_eq hbytes hpieces, Component.filterMap_ofPiece?_of_isIdle hafter, hdirectory,
      firstComponent_of_isProper hn]
    rfl
  | cons first more =>
    have hmore : pieces p.bytes = first :: ((more ++ [n]) ++ after) := by simpa using hpieces
    -- the same path without what stands idle at its end
    have hshort : pieces (joinPieces (first :: (more ++ [n]))) = first :: (more ++ [n]) := by
      refine pieces_joinPieces (by simp) fun q hq => @not_mem_of_mem_pieces p.bytes q ?_
      rw [hmore, ← List.cons_append]
      exact List.mem_append_left _ hq
    have hdirectory :=
      directory_congr (q := ⟨joinPieces (first :: (more ++ [n]))⟩) hafter hmore hshort
    rw [components_eq hbytes hmore, hdirectory, components_directory hn hshort,
      List.filterMap_append,
      List.filterMap_append, Component.filterMap_ofPiece?_of_isIdle hafter, List.append_nil,
      List.filterMap_cons_some (Component.ofPiece?_of_isProper hn), List.filterMap_nil,
      List.cons_append]

/-! ### Another name in the directory -/

/-- The components of a path for another name in the directory. -/
theorem components_sibling (p : Path) (hm : m.IsProper) :
    (p.sibling m).components = p.directory.components ++ [.name m] := components_child hm

theorem fileName?_sibling (p : Path) (hm : m.IsProper) : (p.sibling m).fileName? = some m := by
  rw [fileName?, components_sibling p hm, List.getLast?_concat]

/-- **The directory stays** for another name. -/
theorem directory_sibling (p : Path) (hm : m.IsProper) :
    (p.sibling m).directory.components = p.directory.components := by
  rw [← List.append_left_inj [.name m], ← components_eq_directory (fileName?_sibling p hm),
    components_sibling p hm]

/-! ### Backups -/

/-- **The path of a backup** is that of the name of the backup in the directory of the file. -/
theorem backup?_eq_some_iff : p.backup? = some b ↔
    ∃ n m, p.fileName? = some n ∧ n.text?.isSome ∧ n.backup? = some m ∧ b = p.sibling m := by
  rw [backup?]
  constructor
  · intro h
    split at h
    · cases h
    · next n hn =>
      split at h
      · next htext =>
        obtain ⟨m, hm, rfl⟩ := Option.map_eq_some_iff.1 h
        exact ⟨n, m, hn, htext, hm, rfl⟩
      · cases h
  · rintro ⟨n, m, hn, htext, hm, rfl⟩
    simp only [hn, htext, hm, if_true, Option.map_some]

/-- **The backups of all paths.** A path whose last name is a text in which a source extension may
begin has a backup in the same directory, which is another path and not that of a source file. Two
paths with the same backup are the same. A source file has a backup. -/
theorem backups_are_apart :
    (∀ (p : Path) (n : Name), p.fileName? = some n → n.text?.isSome → extensionMarker <:+: n →
      ∃ b, p.backup? = some b ∧ b.directory.components = p.directory.components ∧
        b.components ≠ p.components ∧ ¬ b.isSource) ∧
    (∀ p q b b' : Path, p.backup? = some b → q.backup? = some b' → b.components = b'.components →
      p.components = q.components) ∧
    ∀ p : Path, p.isSource → p.backup?.isSome := by
  refine ⟨fun p n hn htext hmarker => ?_, fun p q b b' hb hb' hsame => ?_, fun p hsource => ?_⟩
  · obtain ⟨m, hm⟩ := Option.isSome_iff_exists.1 (Name.isSome_backup? hmarker)
    have hproper := Name.isProper_of_backup? (exists_pieces_of_fileName? hn).1 hm
    refine ⟨p.sibling m, backup?_eq_some_iff.2 ⟨n, m, hn, htext, hm, rfl⟩,
      directory_sibling p hproper, fun hsame => ?_, fun hsource => ?_⟩
    · rw [components_sibling p hproper, components_eq_directory hn] at hsame
      exact Name.ne_of_backup? hm (by simpa using hsame)
    · rw [isSource, fileName?_sibling p hproper, Option.any_some, Bool.and_eq_true] at hsource
      exact Name.not_isSource_of_backup? hm hsource.2
  · obtain ⟨n, m, hn, -, hm, rfl⟩ := backup?_eq_some_iff.1 hb
    obtain ⟨n', m', hn', -, hm', rfl⟩ := backup?_eq_some_iff.1 hb'
    have hproper := Name.isProper_of_backup? (exists_pieces_of_fileName? hn).1 hm
    have hproper' := Name.isProper_of_backup? (exists_pieces_of_fileName? hn').1 hm'
    rw [components_sibling p hproper, components_sibling q hproper'] at hsame
    obtain ⟨hdirectory, hname⟩ := List.append_inj' hsame rfl
    obtain rfl : m = m' := by simpa using hname
    rw [components_eq_directory hn, components_eq_directory hn', hdirectory,
      Name.backup?_inj hm hm']
  · obtain ⟨n, hn, hname⟩ := (Option.any_eq_true _ _).1 hsource
    obtain ⟨htext, hsource⟩ := Bool.and_eq_true_iff.1 hname
    obtain ⟨m, hm⟩ := Option.isSome_iff_exists.1 (Name.isSome_backup?_of_isSource hsource)
    exact Option.isSome_iff_exists.2 ⟨_, backup?_eq_some_iff.2 ⟨n, m, hn, htext, hm, rfl⟩⟩

/-- The marker goes before the last of several places where an extension may begin, and what stands
idle at the end of a path is left out. -/
example : (ofString "lib.js/./App.js.jsx//.").backup? =
    some (ofString "lib.js/App.js_MUI_backup.jsx") := by
  decide +kernel

end Path

end Restyle
