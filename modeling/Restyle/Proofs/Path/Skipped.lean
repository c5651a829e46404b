import Restyle.Proofs.Path.Descent
import Restyle.Proofs.Text.Lossy

/-!
# Which directories are skipped

Whether a directory is skipped is asked of the text that the part of its path below the root is
shown as. The markers are in ASCII and hold no slash, so that neither what is shown for bytes that
are no text nor the borders of names make or hide one: a directory is skipped exactly if a marker
stands in one of the names below the root.

## Main definitions

* `Restyle.Name.IsMarker` — what a marker has to be for this.

## Main results

* `Restyle.Path.infix_bytes_iff` — a marker stands in a path if it stands in a name of it.
* `Restyle.Path.infix_relative_iff` — the same for the part of a path below another one.
* `Restyle.Path.isSkipped_iff` — which directories are skipped.
* `Restyle.Path.isSkipped_child_joinPieces` — the same for the names below a root.
-/

namespace Restyle

theorem standsIn_iff_isInfix {α : Type} [BEq α] [LawfulBEq α] {part : List α} : ∀ {xs : List α},
    standsIn part xs ↔ part <:+: xs
  | [] => by simp [standsIn]
  | x :: xs => by
    rw [standsIn, Bool.or_eq_true, List.isPrefixOf_iff_prefix, standsIn_iff_isInfix,
      List.infix_cons_iff]

theorem Name.isSkipped_iff {n : Name} :
    n.isSkipped ↔ ∃ marker ∈ skippedMarkers, ofString marker <:+: n := by
  rw [isSkipped, List.any_eq_true]
  simp only [standsIn_iff_isInfix]

/-! ### Markers -/

/-- A name in ASCII that holds no slash and is too long for the name of a directory in itself or of
the one above. -/
structure Name.IsMarker (marker : Name) : Prop where
  ascii : ∀ b ∈ marker, b < 0x80
  not_mem : slash ∉ marker
  long : 2 < marker.length

namespace Name.IsMarker

variable {marker q : Name} {ps : List Name}

theorem ne_nil (h : marker.IsMarker) : marker ≠ [] :=
  List.ne_nil_of_length_pos (Nat.lt_trans Nat.two_pos h.long)

/-- A marker stands in no piece that is not a name. -/
theorem not_isInfix_of_length_le (h : marker.IsMarker) (hq : q.length ≤ 2) : ¬ marker <:+: q :=
  fun hinfix => Nat.not_le_of_lt h.long (Nat.le_trans hinfix.length_le hq)

theorem length_le_of_isIdle (hq : isIdle q) : q.length ≤ 2 := by
  rw [isIdle, Bool.or_eq_true, beq_iff_eq] at hq
  rcases hq with hq | rfl
  · simp [List.isEmpty_iff.1 hq]
  · decide

/-- A marker stands in a name that is made of two with a slash between them exactly if it stands in
one of the two. -/
theorem infix_append_slash_iff (h : marker.IsMarker) {u v : List UInt8} :
    marker <:+: u ++ slash :: v ↔ marker <:+: u ∨ marker <:+: v := by
  constructor
  · rintro ⟨before, after, hsplit⟩
    rw [List.append_assoc, List.append_eq_append_iff] at hsplit
    rcases hsplit with ⟨w, rfl, hw⟩ | ⟨w, rfl, hw⟩
    · rw [List.append_eq_append_iff] at hw
      rcases hw with ⟨x, rfl, -⟩ | ⟨x, hmarker, hx⟩
      · exact .inl ⟨before, x, by simp⟩
      · cases x with
        | nil => exact .inl ⟨before, [], by simp [hmarker]⟩
        | cons b x =>
          obtain ⟨rfl, -⟩ := List.cons.inj hx
          exact absurd (by simp [hmarker]) h.not_mem
    · cases w with
      | nil =>
        cases marker with
        | nil => exact absurd rfl h.ne_nil
        | cons b marker =>
          obtain ⟨rfl, -⟩ := List.cons.inj hw
          exact absurd List.mem_cons_self h.not_mem
      | cons b w =>
        obtain ⟨rfl, rfl⟩ := List.cons.inj hw
        exact .inr ⟨w, after, by simp⟩
  · rintro (hu | hv)
    · exact hu.trans (List.prefix_append _ _).isInfix
    · exact hv.trans ((List.suffix_cons slash v).trans (List.suffix_append u _)).isInfix

/-- **A marker stands in pieces with slashes between them** exactly if it stands in one of them. -/
theorem infix_joinPieces_iff (h : marker.IsMarker) : ∀ {ps : List Name},
    marker <:+: joinPieces ps ↔ ∃ q ∈ ps, marker <:+: q
  | [] => by simpa [joinPieces] using h.ne_nil
  | [p] => by simp [joinPieces]
  | p :: q :: ps => by
    have hjoin : joinPieces (p :: q :: ps) = p ++ slash :: joinPieces (q :: ps) := rfl
    rw [hjoin, h.infix_append_slash_iff, h.infix_joinPieces_iff]
    simp

/-- A marker stands in a piece exactly if it stands in the name that the piece is. -/
theorem exists_piece_iff (h : marker.IsMarker) :
    (∃ q ∈ ps, marker <:+: q) ↔ ∃ n, .name n ∈ ps.filterMap Component.ofPiece? ∧ marker <:+: n := by
  simp only [List.mem_filterMap]
  constructor
  · rintro ⟨q, hq, hinfix⟩
    refine ⟨q, ⟨q, hq, ?_⟩, hinfix⟩
    have hidle : ¬ isIdle q := fun hidle =>
      h.not_isInfix_of_length_le (length_le_of_isIdle hidle) hinfix
    have hdots : q ≠ dotDot := by
      rintro rfl
      exact h.not_isInfix_of_length_le (by decide) hinfix
    simp [Component.ofPiece?, hidle, hdots]
  · rintro ⟨n, ⟨q, hq, hpiece⟩, hinfix⟩
    obtain ⟨rfl, -⟩ := Component.eq_of_ofPiece? hpiece
    exact ⟨q, hq, hinfix⟩

end Name.IsMarker

/-! ### What follows some components -/

theorem Component.filterMap_dropWhile_isIdle : ∀ ps : List Name,
    (ps.dropWhile isIdle).filterMap ofPiece? = ps.filterMap ofPiece?
  | [] => rfl
  | p :: ps => by
    rw [List.dropWhile_cons]
    split
    · next hidle =>
      rw [filterMap_dropWhile_isIdle ps, List.filterMap_cons_none (ofPiece?_eq_none_iff.2 hidle)]
    · rfl

/-- What follows the first pieces that matter has the components that follow the first ones. -/
theorem Component.filterMap_dropMattering (k : Nat) (ps : List Name) :
    (dropMattering k ps).filterMap ofPiece? = (ps.filterMap ofPiece?).drop k := by
  fun_induction dropMattering k ps with
  | case1 => rfl
  | case2 => rfl
  | case3 k p ps hidle ih => rw [ih, List.filterMap_cons_none (ofPiece?_eq_none_iff.2 hidle)]
  | case4 k p ps hidle ih =>
    obtain ⟨c, hc⟩ := Option.ne_none_iff_exists'.1 fun hnone => hidle (ofPiece?_eq_none_iff.1 hnone)
    rw [ih, List.filterMap_cons_some hc, List.drop_succ_cons]

namespace Path

variable {p root : Path} {marker n : Name} {cs ds : List Name}

/-- The names among the components of a path are those of its pieces. -/
theorem name_mem_components_iff :
    .name n ∈ p.components ↔ .name n ∈ (pieces p.bytes).filterMap Component.ofPiece? := by
  by_cases hp : p.bytes = []
  · have hempty : [[]].filterMap Component.ofPiece? = [] := rfl
    simp [components, hp, pieces, hempty]
  · obtain ⟨first, more, hpieces⟩ := List.exists_cons_of_ne_nil (pieces_ne_nil p.bytes)
    have hfirst : firstComponent first = .name n ↔ Component.ofPiece? first = some (.name n) := by
      simp only [firstComponent, Component.ofPiece?, isIdle]
      split_ifs <;> simp_all
    rw [components_eq hp hpieces, hpieces, List.mem_cons, List.mem_filterMap, List.mem_filterMap,
      List.exists_mem_cons_iff, eq_comm, hfirst]

/-- **A marker stands in a path** exactly if it stands in one of its names. -/
theorem infix_bytes_iff (h : marker.IsMarker) :
    marker <:+: p.bytes ↔ ∃ n, .name n ∈ p.components ∧ marker <:+: n := by
  simp only [name_mem_components_iff]
  rw [← h.exists_piece_iff, ← h.infix_joinPieces_iff, joinPieces_pieces]

/-- **A marker stands in the part of a path below another one** exactly if it stands in one of the
names below. -/
theorem infix_relative_iff (h : marker.IsMarker) :
    marker <:+: (relative root p).bytes ↔ ∃ n, .name n ∈ below root p ∧ marker <:+: n := by
  rw [relative, below]
  split
  · next hbegin =>
    cases hroot : root.components with
    | nil => exact infix_bytes_iff h
    | cons c cs =>
      have hp : p.bytes ≠ [] := fun hnil => by
        have hnone : p.components = [] := by simp [components, hnil, pieces]
        rw [hroot, hnone] at hbegin
        exact Bool.false_ne_true hbegin
      obtain ⟨first, more, hpieces⟩ := List.exists_cons_of_ne_nil (pieces_ne_nil p.bytes)
      rw [components_eq hp hpieces, hpieces, List.length_cons, List.drop_succ_cons,
        ← Component.filterMap_dropMattering, ← Component.filterMap_dropWhile_isIdle,
        ← Component.filterMap_dropIdleEnd, ← h.exists_piece_iff]
      exact h.infix_joinPieces_iff
  · exact infix_bytes_iff h

/-! ### Directories that are skipped -/

theorem isMarker_of_mem {m : String} (hm : m ∈ skippedMarkers) : (Name.ofString m).IsMarker := by
  have hall : ∀ m ∈ skippedMarkers, (∀ b ∈ Name.ofString m, b < 0x80) ∧ slash ∉ Name.ofString m ∧
      2 < (Name.ofString m).length := by decide +kernel
  obtain ⟨hascii, hslash, hlong⟩ := hall m hm
  exact ⟨hascii, hslash, hlong⟩

theorem map_asciiChar_of_mem {m : String} (hm : m ∈ skippedMarkers) :
    (Name.ofString m).map Text.asciiChar = m.toList := by
  have hall : ∀ m ∈ skippedMarkers, (Name.ofString m).map Text.asciiChar = m.toList := by
    decide +kernel
  exact hall m hm

/-- **Which directories are skipped**: those with a name below the root in which a marker stands. -/
theorem isSkipped_iff : isSkipped root p ↔ ∃ n, .name n ∈ below root p ∧ n.isSkipped := by
  have hmarker {m : String} (hm : m ∈ skippedMarkers) :
      standsIn m.toList (relative root p).toText.toList ↔
        ∃ n, .name n ∈ below root p ∧ Name.ofString m <:+: n := by
    have h := isMarker_of_mem hm
    rw [standsIn_iff_isInfix, ← map_asciiChar_of_mem hm, toText,
      Text.infix_lossy_iff h.ne_nil h.ascii, infix_relative_iff h]
  simp only [isSkipped, List.any_eq_true, Name.isSkipped_iff]
  constructor
  · rintro ⟨m, hm, hstands⟩
    obtain ⟨n, hn, hinfix⟩ := (hmarker hm).1 hstands
    exact ⟨n, hn, m, hm, hinfix⟩
  · rintro ⟨n, hn, m, hm, hinfix⟩
    exact ⟨m, hm, (hmarker hm).2 ⟨n, hn, hinfix⟩⟩

/-- A directory is skipped for the names that were put behind the root. -/
theorem isSkipped_eq_any (h : p.components = root.components ++ cs.map .name) :
    isSkipped root p = cs.any Name.isSkipped := by
  rw [Bool.eq_iff_iff, isSkipped_iff, below_eq h, List.any_eq_true]
  simp

theorem isSkipped_descend (root : Path) (hcs : ∀ n ∈ cs, n.IsProper) :
    isSkipped root (root.descend cs) = cs.any Name.isSkipped :=
  isSkipped_eq_any (components_descend hcs)

/-- **Which directories are skipped below a root.** A path of names behind the root is skipped
exactly if a marker stands in one of the names, so that it does not matter which root it is, and
what stands below a directory that is skipped is skipped as well. -/
theorem isSkipped_child_joinPieces (root root' : Path) (hcs : ∀ n ∈ cs, n.IsProper)
    (hds : ∀ n ∈ ds, n.IsProper) :
    (isSkipped root (root.child (joinPieces cs)) ↔
      ∃ n ∈ cs, ∃ marker ∈ skippedMarkers, Name.ofString marker <:+: n) ∧
    isSkipped root' (root'.child (joinPieces cs)) = isSkipped root (root.child (joinPieces cs)) ∧
    (isSkipped root (root.child (joinPieces cs)) →
      isSkipped root (root.child (joinPieces (cs ++ ds)))) := by
  have hnames (root : Path) : isSkipped root (root.child (joinPieces cs)) = cs.any Name.isSkipped :=
    isSkipped_eq_any (components_child_joinPieces root hcs)
  have hbelow := isSkipped_eq_any
    (components_child_joinPieces root (List.forall_mem_append.2 ⟨hcs, hds⟩))
  refine ⟨?_, (hnames root').trans (hnames root).symm, fun h => ?_⟩
  · rw [hnames, List.any_eq_true]
    simp only [Name.isSkipped_iff]
  · rw [hnames] at h
    rw [hbelow, List.any_append, h, Bool.true_or]

/-- Names that are no texts, with a marker between bytes that encode nothing. -/
def rawNames : List Name := [[0xff], 0xc3 :: Name.ofString "old_backup" ++ [0xe2, 0x82]]

theorem isSkipped_rawNames :
    ((∀ n ∈ rawNames, n.IsProper) ∧ ∀ n ∈ [Name.ofString "src"], n.IsProper) ∧
    isSkipped (ofString "build/.//a/") ((ofString "build/.//a/").child (joinPieces rawNames)) ∧
    isSkipped (ofString "build/.//a/")
      ((ofString "build/.//a/").child (joinPieces (rawNames ++ [Name.ofString "src"]))) ∧
    isSkipped (ofString "") ((ofString "").child (joinPieces rawNames)) =
      isSkipped (ofString "build/.//a/")
        ((ofString "build/.//a/").child (joinPieces rawNames)) := by
  have hraw : ∀ n ∈ rawNames, n.IsProper := by decide +kernel
  have hsrc : ∀ n ∈ [Name.ofString "src"], n.IsProper := by decide +kernel
  obtain ⟨hiff, hroot, hbelow⟩ :=
    isSkipped_child_joinPieces (ofString "build/.//a/") (ofString "") hraw hsrc
  have hskip := hiff.2 ⟨0xc3 :: Name.ofString "old_backup" ++ [0xe2, 0x82], by simp [rawNames],
    "_backup", by simp [skippedMarkers], by decide +kernel⟩
  exact ⟨⟨hraw, hsrc⟩, hskip, hbelow hskip, hroot⟩

/-- A marker in the path of the root does not count, nor do two names that make one together. -/
example : isSkipped (ofString "build/") (ofString "build/node_/modules") = false := by
  decide +kernel

end Path

end Restyle
