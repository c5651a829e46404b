import Restyle.Proofs.FileTree.Sound
import Restyle.Proofs.Path.Backup
import Restyle.Proofs.Path.Descent

/-!
# The paths of locations

The path of a location goes through its names from the root of everything. It tells the location, it
is that of a source file or not by the last name alone, and the path of its backup is that of a
location in the same directory.

## Main definitions

* `Restyle.Location.path` — the path of a location from the root of everything.

## Main results

* `Restyle.Location.path_inj` — the path tells the location.
* `Restyle.Location.isSource_path_cons`, `Restyle.Location.backup?_path_cons` — source files and
  their backups, by location.
-/

namespace Restyle

namespace Location

variable {l l' d : Location} {n : Name}

/-- The path of a location from the root of everything. -/
def path (l : Location) : Path := Path.descend ⟨[slash]⟩ l.reverse

@[simp] theorem path_cons (n : Name) (d : Location) : path (n :: d) = (path d).child n := by
  rw [path, List.reverse_cons, Path.descend_concat]
  rfl

theorem path_bytes_ne_nil (l : Location) : (path l).bytes ≠ [] :=
  Path.descend_bytes_ne_nil (by simp)

/-- **The path tells the location.** -/
theorem path_inj (hl : IsProper l) (hl' : IsProper l') (h : l.path = l'.path) : l = l' :=
  List.reverse_injective (Path.descend_inj _ (fun n hn => hl n (List.mem_reverse.1 hn))
    (fun n hn => hl' n (List.mem_reverse.1 hn)) h)

/-- Which locations are those of source files. -/
theorem isSource_path_cons (hn : n.IsProper) :
    (path (n :: d)).isSource = (n.text?.isSome && n.isSource) := by
  rw [path_cons, Path.isSource_child_eq (path_bytes_ne_nil d) hn]

/-- The pieces of the path of a location. -/
theorem pieces_path_cons : ∀ {d : Location} {n : Name}, IsProper d → n.IsProper →
    pieces (path (n :: d)).bytes = ([] :: d.reverse) ++ [n]
  | [], n, _, hn => by
    have hbytes : (path [n]).bytes = [] ++ slash :: n := rfl
    rw [hbytes, pieces_append_slash, pieces_of_not_mem hn.not_mem]
    rfl
  | m :: d, n, hd, hn => by
    obtain ⟨hm, hd⟩ := List.forall_mem_cons.1 hd
    rw [path_cons, Path.pieces_child hn.not_mem hm.ne_nil (pieces_path_cons hd hm)]
    simp

/-- The directory of a location has the path before the last name. -/
theorem directory_path_cons : ∀ {d : Location} {n : Name}, IsProper d → n.IsProper →
    (path (n :: d)).directory = path d
  | [], n, _, hn => by
    have hkept : dropIdleEnd [] = [] := rfl
    rw [Path.directory_eq_first hn hkept (pieces_path_cons (List.forall_mem_nil _) hn)]
    rfl
  | m :: d, n, hd, hn => by
    obtain ⟨hm, hd⟩ := List.forall_mem_cons.1 hd
    rw [path_cons, Path.directory_child hn hm (pieces_path_cons hd hm)]

/-- **The path of the backup** of the file at a location. -/
theorem backup?_path_cons (hd : IsProper d) (hn : n.IsProper) : (path (n :: d)).backup? =
    if n.text?.isSome then n.backup?.map fun m => path (m :: d) else none := by
  have hsibling : (path (n :: d)).sibling = fun m => path (m :: d) := by
    funext m
    rw [Path.sibling, directory_path_cons hd hn, path_cons]
  have hname : (path (n :: d)).fileName? = some n := by
    rw [path_cons, Path.fileName?_child (path_bytes_ne_nil d) hn]
  rw [Path.backup?, hname, ← hsibling]

end Location

end Restyle
