import Restyle.Path.Source
import Restyle.Proofs.Path.Pieces

/-!
# Paths below a path

Going down from a path through names puts the names behind its components, so that the names that
were gone through can be read off a path below.

## Main definitions

* `Restyle.Path.descend` — the path that names lead to from a path.

## Main results

* `Restyle.Path.components_descend` — the components of a path below.
* `Restyle.Path.descend_inj` — different names lead to different paths.
-/

namespace Restyle

namespace Path

variable {p root : Path} {n : Name} {cs ds : List Name}

/-- The path that names lead to from a path. -/
def descend (p : Path) (cs : List Name) : Path := cs.foldl child p

@[simp] theorem descend_nil (p : Path) : p.descend [] = p := rfl

@[simp] theorem descend_cons (p : Path) (n : Name) (cs : List Name) :
    p.descend (n :: cs) = (p.child n).descend cs := rfl

theorem descend_append (p : Path) (cs ds : List Name) :
    p.descend (cs ++ ds) = (p.descend cs).descend ds := List.foldl_append

theorem descend_concat (p : Path) (cs : List Name) (n : Name) :
    p.descend (cs ++ [n]) = (p.descend cs).child n := descend_append p cs [n]

theorem descend_bytes_ne_nil : ∀ {cs : List Name} {p : Path}, p.bytes ≠ [] →
    (p.descend cs).bytes ≠ []
  | [], _, hp => hp
  | _ :: cs, _, hp => @descend_bytes_ne_nil cs _ (child_bytes_ne_nil hp)

/-! ### Components -/

/-- The component of the first piece of a path. -/
def firstComponent (q : Name) : Component :=
  if q.isEmpty then .root else if q = dot then .here else if q = dotDot then .up else .name q

theorem components_eq (hp : p.bytes ≠ []) {first : Name} {more : List Name}
    (h : pieces p.bytes = first :: more) :
    p.components = firstComponent first :: more.filterMap Component.ofPiece? := by
  have hmore : first.isEmpty → more ≠ [] := by
    rintro hfirst rfl
    obtain ⟨b, bs, hbs⟩ := List.exists_cons_of_ne_nil hp
    have hhead := (head?_eq_slash_iff hp h).2 (List.isEmpty_iff.1 hfirst)
    rw [hbs] at h hhead
    obtain rfl : b = slash := by simpa using hhead
    exact pieces_ne_nil bs (by simpa [pieces] using (List.cons.inj h).2)
  rw [components, h, firstComponent]
  simp only
  split
  · next hfirst => rw [if_neg (by simpa using hmore hfirst)]
  · split
    · rfl
    · split <;> rfl

theorem firstComponent_of_isProper (hn : n.IsProper) : firstComponent n = .name n := by
  simp [firstComponent, hn.ne_nil, hn.ne_dot, hn.ne_dotDot]

/-- The components of a name in a directory: those of the directory, and the name. -/
theorem components_child (hn : n.IsProper) :
    (p.child n).components = p.components ++ [.name n] := by
  by_cases hp : p.bytes = []
  · have hchild : p.child n = ⟨n⟩ := by simp [child, hp]
    have hnone : p.components = [] := by simp [components, hp, pieces]
    rw [hchild, hnone, components_eq hn.ne_nil (pieces_of_not_mem hn.not_mem),
      firstComponent_of_isProper hn]
    rfl
  · obtain ⟨first, more, hchild, hpieces⟩ := exists_pieces_child hp hn.not_mem
    have hname : [n].filterMap Component.ofPiece? = [.name n] := by
      simp [Component.ofPiece?_of_isProper hn]
    have hempty : [[]].filterMap Component.ofPiece? = [] := rfl
    have hdir : p.components = firstComponent first :: more.filterMap Component.ofPiece? := by
      rcases hpieces with h | h
      · exact components_eq hp h
      · rw [components_eq hp h, List.filterMap_append, hempty, List.append_nil]
    rw [components_eq (child_bytes_ne_nil hp) hchild, hdir, List.filterMap_append, hname,
      List.cons_append]

/-- **The components of a path below** are those of the path and the names. -/
theorem components_descend : ∀ {cs : List Name} {p : Path}, (∀ n ∈ cs, n.IsProper) →
    (p.descend cs).components = p.components ++ cs.map .name
  | [], p, _ => by simp
  | n :: cs, p, hcs => by
    rw [descend_cons, components_descend fun m hm => hcs m (by simp [hm]),
      components_child (hcs n (by simp)), List.map_cons, List.append_assoc, List.singleton_append]

/-- What a path puts before a name does not depend on the name. -/
theorem exists_child_eq (p : Path) : ∃ v, ∀ m, p.child m = ⟨v ++ m⟩ := by
  by_cases hp : p.bytes.isEmpty
  · exact ⟨[], fun m => by rw [child, if_pos hp, List.nil_append]⟩
  · by_cases hend : p.bytes.getLast? = some slash
    · exact ⟨p.bytes, fun m => by rw [child, if_neg hp, if_pos hend]⟩
    · exact ⟨p.bytes ++ [slash], fun m => by
        rw [child, if_neg hp, if_neg hend, List.append_assoc, List.singleton_append]⟩

/-- A path of several names behind a path is put behind it name by name. -/
theorem child_append {u : List UInt8} (hne : n ≠ []) (hslash : slash ∉ n) :
    p.child (n ++ slash :: u) = (p.child n).child u := by
  obtain ⟨v, hv⟩ := exists_child_eq p
  have hempty : ¬ (v ++ n).isEmpty := by simp [hne]
  have hlast : (v ++ n).getLast? ≠ some slash := fun h => by
    rw [List.getLast?_append_of_ne_nil v hne] at h
    exact hslash (List.mem_of_getLast? h)
  rw [hv, hv, child, if_neg hempty, if_neg hlast, List.append_assoc]

theorem child_joinPieces : ∀ {cs : List Name} {p : Path}, cs ≠ [] → (∀ n ∈ cs, n.IsProper) →
    p.child (joinPieces cs) = p.descend cs
  | [_], _, _, _ => rfl
  | c :: d :: cs, p, _, hcs => by
    obtain ⟨hc, hcs⟩ := List.forall_mem_cons.1 hcs
    have hjoin : joinPieces (c :: d :: cs) = c ++ slash :: joinPieces (d :: cs) := rfl
    rw [hjoin, child_append hc.ne_nil hc.not_mem, child_joinPieces (by simp) hcs, descend_cons,
      descend_cons, descend_cons]

/-- A slash at the end of a path does not matter. -/
theorem components_child_nil (p : Path) : (p.child []).components = p.components := by
  by_cases hp : p.bytes = []
  · have hchild : p.child [] = p := by
      rw [child, if_pos (List.isEmpty_iff.2 hp), ← hp]
    rw [hchild]
  · have hempty : ¬ p.bytes.isEmpty := by simpa using hp
    by_cases hend : p.bytes.getLast? = some slash
    · rw [child, if_neg hempty, if_pos hend, List.append_nil]
    · obtain ⟨first, more, hpieces⟩ := List.exists_cons_of_ne_nil (pieces_ne_nil p.bytes)
      have hchild : pieces (p.child []).bytes = first :: (more ++ [[]]) := by
        rw [child, if_neg hempty, if_neg hend, pieces_append_slash, hpieces]
        rfl
      have hnone : [[]].filterMap Component.ofPiece? = [] := rfl
      rw [components_eq (child_bytes_ne_nil hp) hchild, components_eq hp hpieces,
        List.filterMap_append, hnone, List.append_nil]

theorem components_child_joinPieces (p : Path) (hcs : ∀ n ∈ cs, n.IsProper) :
    (p.child (joinPieces cs)).components = p.components ++ cs.map .name := by
  cases cs with
  | nil => exact (components_child_nil p).trans (List.append_nil _).symm
  | cons c cs => rw [child_joinPieces (by simp) hcs, components_descend hcs]

/-- What stands below a root is what was put behind its components. -/
theorem below_eq {rest : List Component} (h : p.components = root.components ++ rest) :
    below root p = rest := by
  have hbegin : root.components.isPrefixOf p.components :=
    List.isPrefixOf_iff_prefix.2 (h ▸ List.prefix_append _ _)
  rw [below, if_pos hbegin, h, List.drop_left]

theorem below_descend (root : Path) (hcs : ∀ n ∈ cs, n.IsProper) :
    below root (root.descend cs) = cs.map .name := below_eq (components_descend hcs)

/-- **Different names lead to different paths.** -/
theorem descend_inj (root : Path) (hcs : ∀ n ∈ cs, n.IsProper) (hds : ∀ n ∈ ds, n.IsProper)
    (h : root.descend cs = root.descend ds) : cs = ds := by
  have hnames : cs.map Component.name = ds.map .name := by
    rw [← below_descend root hcs, ← below_descend root hds, h]
  exact List.map_injective_iff.2 (fun _ _ => Component.name.inj) hnames

/-- Whether a path for a name in a directory is that of a source file. -/
theorem isSource_child_eq (hp : p.bytes ≠ []) (hn : n.IsProper) :
    (p.child n).isSource = (n.text?.isSome && n.isSource) := by
  rw [isSource, fileName?_child hp hn]
  rfl

end Path

end Restyle
