import Restyle.FileTree.Resolve
import Mathlib

/-!
# The pieces of a path

The pieces of a path put together are those of its parts, and a path made of pieces has these
pieces. The steps of a path for a name in a directory are those of the directory and one to the
name. A path for another name in the same directory leaves out the dots at the end of the path of
the directory, which are steps to the directory itself.

## Main definitions

* `Restyle.Name.IsProper` — a name that a node may have in a directory.
* `Restyle.Step.ofPiece?`, `Restyle.Path.way` — the steps of a path, leaving aside what a slash at
  its end asks for.

## Main results

* `Restyle.Path.steps_child` — the steps to a name in a directory.
* `Restyle.Path.exists_way_directory` — the steps to the directory of a name.
* `Restyle.Path.fileName?_child`, `Restyle.Path.exists_way_of_fileName?` — the last name of a path.
* `Restyle.Path.way_slashed` — repeated slashes do not matter.
-/

namespace Restyle

/-- A name that a node may have in a directory: it is not empty, holds no slash and is not one of
the names of the directory itself and the one above. -/
structure Name.IsProper (n : Name) : Prop where
  ne_nil : n ≠ []
  not_mem : slash ∉ n
  ne_dot : n ≠ dot
  ne_dotDot : n ≠ dotDot

instance (n : Name) : Decidable n.IsProper :=
  decidable_of_iff (n ≠ [] ∧ slash ∉ n ∧ n ≠ dot ∧ n ≠ dotDot)
    ⟨fun ⟨hnil, hslash, hdot, hdots⟩ => ⟨hnil, hslash, hdot, hdots⟩,
      fun h => ⟨h.ne_nil, h.not_mem, h.ne_dot, h.ne_dotDot⟩⟩

/-! ### Pieces -/

theorem pieces_ne_nil : ∀ bs : List UInt8, pieces bs ≠ []
  | [] => by simp [pieces]
  | b :: bs => by
    rw [pieces]
    split
    · simp
    · split <;> simp

theorem pieces_cons_of_ne {b : UInt8} (hb : b ≠ slash) {bs : List UInt8} {p : Name} {ps : List Name}
    (h : pieces bs = p :: ps) : pieces (b :: bs) = (b :: p) :: ps := by
  rw [pieces, if_neg hb, h]

theorem pieces_of_not_mem : ∀ {bs : List UInt8}, slash ∉ bs → pieces bs = [bs]
  | [], _ => rfl
  | b :: bs, h => by
    obtain ⟨hb, hbs⟩ : slash ≠ b ∧ slash ∉ bs := by simpa using h
    exact pieces_cons_of_ne hb.symm (pieces_of_not_mem hbs)

theorem pieces_append_slash (v : List UInt8) : ∀ u : List UInt8,
    pieces (u ++ slash :: v) = pieces u ++ pieces v
  | [] => by simp [pieces]
  | b :: u => by
    obtain ⟨p, ps, hp⟩ := List.exists_cons_of_ne_nil (pieces_ne_nil u)
    by_cases hb : b = slash
    · rw [List.cons_append, pieces, if_pos hb, pieces, if_pos hb, pieces_append_slash v u,
        List.cons_append]
    · have happend : pieces (u ++ slash :: v) = p :: (ps ++ pieces v) := by
        rw [pieces_append_slash v u, hp, List.cons_append]
      rw [List.cons_append, pieces_cons_of_ne hb happend, pieces_cons_of_ne hb hp, List.cons_append]

theorem pieces_replicate_slash (bs : List UInt8) : ∀ k : Nat,
    pieces (List.replicate k slash ++ bs) = List.replicate k [] ++ pieces bs
  | 0 => rfl
  | k + 1 => by
    rw [List.replicate_succ, List.cons_append, pieces, if_pos rfl, pieces_replicate_slash bs k]
    rfl

theorem not_mem_of_mem_pieces : ∀ {bs : List UInt8}, ∀ p ∈ pieces bs, slash ∉ p
  | [], p, hp => by
    obtain rfl : p = [] := by simpa [pieces] using hp
    simp
  | b :: bs, p, hp => by
    obtain ⟨q, qs, hq⟩ := List.exists_cons_of_ne_nil (pieces_ne_nil bs)
    by_cases hb : b = slash
    · rw [pieces, if_pos hb] at hp
      rcases List.mem_cons.1 hp with rfl | hp
      · simp
      · exact not_mem_of_mem_pieces p hp
    · rw [pieces_cons_of_ne hb hq] at hp
      rcases List.mem_cons.1 hp with rfl | hp
      · have hmem : slash ∉ q := @not_mem_of_mem_pieces bs q (by simp [hq])
        simp [hmem, Ne.symm hb]
      · exact @not_mem_of_mem_pieces bs p (by simp [hq, hp])

theorem pieces_joinPieces : ∀ {ps : List Name}, ps ≠ [] → (∀ p ∈ ps, slash ∉ p) →
    pieces (joinPieces ps) = ps
  | [p], _, h => pieces_of_not_mem (h p (by simp))
  | p :: q :: ps, _, h => by
    have hrest : pieces (joinPieces (q :: ps)) = q :: ps :=
      pieces_joinPieces (by simp) fun r hr => h r (by simp [hr])
    rw [joinPieces, pieces_append_slash, pieces_of_not_mem (h p (by simp)), hrest]
    · rfl
    · simp

theorem joinPieces_pieces : ∀ bs : List UInt8, joinPieces (pieces bs) = bs
  | [] => rfl
  | b :: bs => by
    obtain ⟨p, ps, hp⟩ := List.exists_cons_of_ne_nil (pieces_ne_nil bs)
    have ih := joinPieces_pieces bs
    by_cases hb : b = slash
    · subst hb
      rw [pieces, if_pos rfl, hp, joinPieces, ← hp, ih, List.nil_append]
      exact fun h => List.cons_ne_nil p ps h
    · rw [pieces_cons_of_ne hb hp]
      rw [hp] at ih
      cases ps with
      | nil => simpa [joinPieces] using ih
      | cons q ps => simpa [joinPieces] using ih

/-- Bytes begin with a slash if their first piece is empty. -/
theorem head?_eq_slash_iff {bs : List UInt8} (hbs : bs ≠ []) {p : Name} {ps : List Name}
    (h : pieces bs = p :: ps) : bs.head? = some slash ↔ p = [] := by
  obtain ⟨b, bs, rfl⟩ := List.exists_cons_of_ne_nil hbs
  obtain ⟨q, qs, hq⟩ := List.exists_cons_of_ne_nil (pieces_ne_nil bs)
  by_cases hb : b = slash
  · rw [pieces, if_pos hb] at h
    obtain ⟨rfl, -⟩ := List.cons.inj h
    simp [hb]
  · rw [pieces_cons_of_ne hb hq] at h
    obtain ⟨rfl, -⟩ := List.cons.inj h
    simp [hb]

/-! ### Pieces at the end that do not matter -/

theorem exists_append_dropIdleEnd (ps : List Name) :
    ∃ idle, ps = dropIdleEnd ps ++ idle ∧ ∀ p ∈ idle, isIdle p := by
  refine ⟨(ps.reverse.takeWhile isIdle).reverse, ?_, fun p hp => ?_⟩
  · rw [dropIdleEnd, ← List.reverse_append, List.takeWhile_append_dropWhile, List.reverse_reverse]
  · exact List.all_eq_true.1 List.all_takeWhile p (List.mem_reverse.1 hp)

theorem dropIdleEnd_concat {p : Name} (hp : ¬ isIdle p) (ps : List Name) :
    dropIdleEnd (ps ++ [p]) = ps ++ [p] := by
  simp [dropIdleEnd, hp]

/-- Pieces that do not matter do not keep others from the end. -/
theorem dropIdleEnd_append {idle : List Name} (h : ∀ q ∈ idle, isIdle q) (ps : List Name) :
    dropIdleEnd (ps ++ idle) = dropIdleEnd ps := by
  have hidle : idle.reverse.dropWhile isIdle = [] :=
    List.dropWhile_eq_nil_iff.2 fun q hq => h q (List.mem_reverse.1 hq)
  rw [dropIdleEnd, List.reverse_append, List.dropWhile_append, hidle]
  rfl

theorem Name.IsProper.not_isIdle {n : Name} (h : n.IsProper) : ¬ isIdle n := by
  simp [isIdle, h.ne_nil, h.ne_dot]

/-! ### Components and steps -/

theorem Component.ofPiece?_eq_none_iff {q : Name} : Component.ofPiece? q = none ↔ isIdle q := by
  rw [ofPiece?]
  split
  · next hidle => exact iff_of_true rfl hidle
  · next hidle => exact iff_of_false (by split <;> exact nofun) hidle

theorem Component.ofPiece?_of_isProper {n : Name} (h : n.IsProper) :
    Component.ofPiece? n = some (.name n) := by
  simp [Component.ofPiece?, h.not_isIdle, h.ne_dotDot]

/-- Pieces that do not matter have no components. -/
theorem Component.filterMap_ofPiece?_of_isIdle {idle : List Name} (h : ∀ q ∈ idle, isIdle q) :
    idle.filterMap ofPiece? = [] :=
  List.filterMap_eq_nil_iff.2 fun q hq => ofPiece?_eq_none_iff.2 (h q hq)

/-- Pieces at the end that do not matter may be dropped. -/
theorem Component.filterMap_dropIdleEnd (ps : List Name) :
    (dropIdleEnd ps).filterMap ofPiece? = ps.filterMap ofPiece? := by
  obtain ⟨idle, hps, hidle⟩ := exists_append_dropIdleEnd ps
  conv_rhs => rw [hps, List.filterMap_append, filterMap_ofPiece?_of_isIdle hidle, List.append_nil]

theorem Component.eq_of_ofPiece? {q n : Name} (h : Component.ofPiece? q = some (.name n)) :
    q = n ∧ ¬ isIdle q ∧ q ≠ dotDot := by
  rw [ofPiece?] at h
  split at h
  · exact nomatch h
  · next hidle =>
    split at h
    · exact nomatch h
    · next hdots => exact ⟨Component.name.inj (Option.some.inj h), hidle, hdots⟩

/-- The step of a piece, if it matters. -/
def Step.ofPiece? (q : Name) : Option Step :=
  if q.isEmpty then none
  else if q = dot then some .here
  else if q = dotDot then some .up
  else some (.name q)

theorem Step.ofPiece?_of_isProper {n : Name} (h : n.IsProper) :
    Step.ofPiece? n = some (.name n) := by
  simp [Step.ofPiece?, h.ne_nil, h.ne_dot, h.ne_dotDot]

theorem Step.isProper_of_ofPiece? {q n : Name} (h : Step.ofPiece? q = some (.name n))
    (hslash : slash ∉ q) : n.IsProper := by
  rw [Step.ofPiece?] at h
  split at h
  · exact nomatch h
  · next hempty =>
    split at h
    · exact nomatch h
    · next hdot =>
      split at h
      · exact nomatch h
      · next hdots =>
        obtain rfl : q = n := by simpa using h
        exact ⟨by simpa using hempty, hslash, hdot, hdots⟩

theorem Step.eq_here_of_isIdle {q : Name} (h : isIdle q) {s : Step}
    (hs : Step.ofPiece? q = some s) :
    s = .here := by
  rw [isIdle, Bool.or_eq_true, beq_iff_eq] at h
  rcases h with h | rfl
  · simp [Step.ofPiece?, h] at hs
  · have hdot : Step.ofPiece? dot = some .here := rfl
    exact (Option.some.inj (hdot.symm.trans hs)).symm

namespace Path

/-- The steps of a path, leaving aside what a slash at its end asks for. -/
def way (p : Path) : List Step :=
  (if p.bytes.head? = some slash then [.root] else []) ++ (pieces p.bytes).filterMap Step.ofPiece?

/-- The steps of a path. A slash at the end asks for a directory. -/
theorem steps_eq (p : Path) : p.steps = p.way ++
    if ((pieces p.bytes).getLast?).any List.isEmpty &&
      !((pieces p.bytes).filterMap Step.ofPiece?).isEmpty then [.directory] else [] := by
  change (if p.bytes.head? = some slash then Step.root :: (_ ++ _) else _ ++ _) = _
  rw [way, List.append_assoc]
  split <;> rfl

theorem steps_eq_way_or (p : Path) : p.steps = p.way ∨ p.steps = p.way ++ [.directory] := by
  rw [steps_eq]
  split
  · exact .inr rfl
  · exact .inl (List.append_nil _)

theorem steps_eq_way {p : Path} {ps : List Name} {n : Name} (hn : n ≠ [])
    (h : pieces p.bytes = ps ++ [n]) : p.steps = p.way := by
  have hlast : ((pieces p.bytes).getLast?).any List.isEmpty = false := by simp [h, hn]
  rw [steps_eq, hlast]
  exact List.append_nil _

theorem way_eq {p : Path} (hp : p.bytes ≠ []) {first : Name} {more : List Name}
    (h : pieces p.bytes = first :: more) :
    p.way = (if first = [] then [.root] else []) ++ (first :: more).filterMap Step.ofPiece? := by
  rw [way, h]
  simp only [head?_eq_slash_iff hp h]

/-- An empty piece at the end of a path changes nothing. -/
theorem way_eq_or {p : Path} (hp : p.bytes ≠ []) {first : Name} {more : List Name}
    (h : pieces p.bytes = first :: more ∨ pieces p.bytes = first :: (more ++ [[]])) :
    p.way = (if first = [] then [.root] else []) ++ (first :: more).filterMap Step.ofPiece? := by
  rcases h with h | h
  · exact way_eq hp h
  · have hnone : [[]].filterMap Step.ofPiece? = [] := rfl
    rw [way_eq hp h, ← List.cons_append, List.filterMap_append, hnone, List.append_nil]

/-! ### A name in a directory -/

variable {p : Path} {n m : Name}

/-- The pieces of a name in a directory: those of the directory, leaving out an empty one at the
end, and the name. -/
theorem exists_pieces_child (hp : p.bytes ≠ []) (hn : slash ∉ n) :
    ∃ first more, pieces (p.child n).bytes = first :: (more ++ [n]) ∧
      (pieces p.bytes = first :: more ∨ pieces p.bytes = first :: (more ++ [[]])) := by
  have hempty : p.bytes.isEmpty = false := by simpa using hp
  by_cases hslash : p.bytes.getLast? = some slash
  · obtain ⟨bs, hbs⟩ : ∃ bs, p.bytes = bs ++ [slash] := List.getLast?_eq_some_iff.1 hslash
    obtain ⟨first, more, hpieces⟩ := List.exists_cons_of_ne_nil (pieces_ne_nil bs)
    refine ⟨first, more, ?_, .inr ?_⟩
    · rw [child, hempty, if_neg Bool.false_ne_true, if_pos hslash, hbs, List.append_assoc,
        List.singleton_append, pieces_append_slash, hpieces, pieces_of_not_mem hn, List.cons_append]
    · rw [hbs, pieces_append_slash, hpieces]
      rfl
  · obtain ⟨first, more, hpieces⟩ := List.exists_cons_of_ne_nil (pieces_ne_nil p.bytes)
    refine ⟨first, more, ?_, .inl hpieces⟩
    rw [child, hempty, if_neg Bool.false_ne_true, if_neg hslash, pieces_append_slash, hpieces,
      pieces_of_not_mem hn, List.cons_append]

theorem child_bytes_ne_nil (hp : p.bytes ≠ []) : (p.child n).bytes ≠ [] := by
  rw [child]
  split
  · next h => exact absurd (List.isEmpty_iff.1 h) hp
  · split <;> simp [hp]

theorem way_child (hp : p.bytes ≠ []) (hn : n.IsProper) :
    (p.child n).way = p.way ++ [.name n] := by
  obtain ⟨first, more, hchild, hpieces⟩ := exists_pieces_child hp hn.not_mem
  have hname : [n].filterMap Step.ofPiece? = [.name n] := by
    simp [Step.ofPiece?_of_isProper hn]
  rw [way_eq (child_bytes_ne_nil hp) hchild, way_eq_or hp hpieces, ← List.cons_append,
    List.filterMap_append, hname, List.append_assoc]

/-- **The steps to a name in a directory** are those to the directory and one to the name. -/
theorem steps_child (hp : p.bytes ≠ []) (hn : n.IsProper) :
    (p.child n).steps = p.way ++ [.name n] := by
  obtain ⟨first, more, hchild, -⟩ := exists_pieces_child hp hn.not_mem
  have hlast : pieces (p.child n).bytes = (first :: more) ++ [n] := hchild
  rw [steps_eq_way hn.ne_nil hlast, way_child hp hn]

/-- A name behind a path that does not end in a slash. -/
theorem child_eq {ps : List Name} (hm : m ≠ []) (h : pieces p.bytes = ps ++ [m]) (n : Name) :
    p.child n = ⟨p.bytes ++ slash :: n⟩ := by
  have hempty : ¬ p.bytes.isEmpty := fun hnil => by
    have hlast := congrArg List.getLast? h
    rw [List.isEmpty_iff.1 hnil, List.getLast?_concat] at hlast
    exact hm (Option.some.inj hlast).symm
  have hslash : p.bytes.getLast? ≠ some slash := fun hslash => by
    obtain ⟨bs, hbs⟩ := List.getLast?_eq_some_iff.1 hslash
    rw [hbs, pieces_append_slash] at h
    have hlast := congrArg List.getLast? h
    rw [List.getLast?_concat] at hlast
    exact hm (by simpa [pieces] using hlast.symm)
  rw [child, if_neg hempty, if_neg hslash]

theorem pieces_child {ps : List Name} (hn : slash ∉ n) (hm : m ≠ [])
    (h : pieces p.bytes = ps ++ [m]) : pieces (p.child n).bytes = ps ++ [m, n] := by
  rw [child_eq hm h, pieces_append_slash, h, pieces_of_not_mem hn, List.append_assoc]
  rfl

/-- The last name of a path. -/
theorem fileName?_child (hp : p.bytes ≠ []) (hn : n.IsProper) :
    (p.child n).fileName? = some n := by
  obtain ⟨first, more, hchild, -⟩ := exists_pieces_child hp hn.not_mem
  have hname : [n].filterMap Component.ofPiece? = [.name n] := by
    simp [Component.ofPiece?_of_isProper hn]
  have hlast (c : Component) (cs : List Component) :
      (c :: (cs ++ [.name n])).getLast? = some (.name n) := by
    rw [← List.cons_append, List.getLast?_concat]
  have hcomponents : (p.child n).components.getLast? = some (.name n) := by
    rw [components, hchild]
    simp only [List.filterMap_append, hname]
    split
    · split
      · next h => simp at h
      · exact hlast _ _
    · split
      · exact hlast _ _
      · split <;> exact hlast _ _
  rw [fileName?, hcomponents]

/-- The last name of a path is a piece of it, and no piece behind it matters. -/
theorem exists_pieces_of_fileName? (h : p.fileName? = some n) : n.IsProper ∧
    ∃ before after, pieces p.bytes = before ++ n :: after ∧ ∀ q ∈ after, isIdle q := by
  have hlast : p.components.getLast? = some (.name n) := by
    rw [fileName?] at h
    split at h
    · next hlast => rw [hlast, Option.some.inj h]
    · exact nomatch h
  suffices hpiece : ∃ before after, pieces p.bytes = before ++ n :: after ∧
      (¬ isIdle n ∧ n ≠ dotDot) ∧ ∀ q ∈ after, isIdle q by
    obtain ⟨before, after, hpieces, ⟨hn, hdots⟩, hafter⟩ := hpiece
    have hslash : slash ∉ n := not_mem_of_mem_pieces n (by rw [hpieces]; simp)
    obtain ⟨hnil, hdot⟩ : n ≠ [] ∧ n ≠ dot := by simpa [isIdle] using hn
    exact ⟨⟨hnil, hslash, hdot, hdots⟩, before, after, hpieces, hafter⟩
  obtain ⟨first, more, hpieces⟩ := List.exists_cons_of_ne_nil (pieces_ne_nil p.bytes)
  rw [components, hpieces] at hlast
  rcases List.eq_nil_or_concat (more.filterMap Component.ofPiece?) with hnone | ⟨cs, c, hrest⟩
  · -- only the first piece matters
    simp only [hnone] at hlast
    split at hlast
    · split at hlast <;> exact nomatch hlast
    · next hempty =>
      split at hlast
      · exact nomatch hlast
      · next hdot =>
        split at hlast
        · exact nomatch hlast
        · next hdots =>
          obtain rfl : first = n := by simpa using hlast
          have hnil : first ≠ [] := by simpa using hempty
          exact ⟨[], more, hpieces, ⟨by simp [isIdle, hnil, hdot], hdots⟩, fun q hq =>
            Component.ofPiece?_eq_none_iff.1 (List.filterMap_eq_nil_iff.1 hnone q hq)⟩
  · have hconcat (d : Component) : (d :: (cs ++ [c])).getLast? = some c := by
      rw [← List.cons_append, List.getLast?_concat]
    have hmore : more ≠ [] := by
      rintro rfl
      simp at hrest
    have hc : c = .name n := by
      simp only [hrest, List.concat_eq_append, List.isEmpty_iff, hmore, if_false] at hlast
      split at hlast
      · simpa [hconcat] using hlast
      · split at hlast
        · simpa [hconcat] using hlast
        · split at hlast <;> simpa [hconcat] using hlast
    rw [hc, List.concat_eq_append, List.filterMap_eq_append_iff] at hrest
    obtain ⟨qs, qs', rfl, -, hrest⟩ := hrest
    obtain ⟨qs', q, after, rfl, -, hq, hafter⟩ := List.filterMap_eq_cons_iff.1 hrest
    obtain ⟨rfl, hmatters⟩ := Component.eq_of_ofPiece? hq
    refine ⟨first :: (qs ++ qs'), after, by rw [hpieces]; simp, hmatters, fun q hq => ?_⟩
    exact Component.ofPiece?_eq_none_iff.1 (List.filterMap_eq_nil_iff.1 hafter q hq)

/-- **The last name of a path** is the last name on its way. -/
theorem exists_way_of_fileName? (h : p.fileName? = some n) : n.IsProper ∧
    ∃ S idle : List Step, p.way = S ++ .name n :: idle ∧ ∀ s ∈ idle, s = .here := by
  obtain ⟨hn, before, after, hpieces, hafter⟩ := exists_pieces_of_fileName? h
  refine ⟨hn,
    (if p.bytes.head? = some slash then [.root] else []) ++ before.filterMap Step.ofPiece?,
    after.filterMap Step.ofPiece?, ?_, fun s hs => ?_⟩
  · rw [way, hpieces, List.filterMap_append,
      List.filterMap_cons_some (Step.ofPiece?_of_isProper hn), List.append_assoc]
  · obtain ⟨q, hq, hstep⟩ := List.mem_filterMap.1 hs
    exact Step.eq_here_of_isIdle (hafter q hq) hstep

/-! ### The directory of a name -/

theorem directory_eq_first {first : Name} {more : List Name} (hn : n.IsProper)
    (hkept : dropIdleEnd more = []) (h : pieces p.bytes = first :: (more ++ [n])) :
    p.directory = if first.isEmpty then ⟨[slash]⟩ else ⟨first⟩ := by
  rw [directory, h]
  simp only [dropIdleEnd_concat hn.not_isIdle]
  split
  · next hnil => simp at hnil
  · simp only [List.dropLast_concat, hkept]

theorem directory_eq_join {first k : Name} {more ks : List Name} (hn : n.IsProper)
    (hkept : dropIdleEnd more = k :: ks) (h : pieces p.bytes = first :: (more ++ [n])) :
    p.directory = ⟨joinPieces (first :: k :: ks)⟩ := by
  rw [directory, h]
  simp only [dropIdleEnd_concat hn.not_isIdle]
  split
  · next hnil => simp at hnil
  · simp only [List.dropLast_concat, hkept]

/-- A path that ends in a name is the directory of each name in it. -/
theorem directory_child {ps : List Name} (hn : n.IsProper) (hm : m.IsProper)
    (h : pieces p.bytes = ps ++ [m]) : (p.child n).directory = p := by
  have hjoin : p = ⟨joinPieces (ps ++ [m])⟩ := by rw [← h, joinPieces_pieces]
  have hchild := pieces_child hn.not_mem hm.ne_nil h
  cases ps with
  | nil =>
    have hkept : dropIdleEnd [] = [] := rfl
    rw [directory_eq_first hn hkept hchild, if_neg (by simpa using hm.ne_nil)]
    exact hjoin.symm
  | cons first more =>
    obtain ⟨k, ks, hkept⟩ := List.exists_cons_of_ne_nil (List.concat_ne_nil m more)
    have hname : pieces (p.child n).bytes = first :: ((more ++ [m]) ++ [n]) := by
      rw [hchild, List.append_assoc]
      rfl
    rw [directory_eq_join hn ((dropIdleEnd_concat hm.not_isIdle more).trans hkept) hname, hjoin,
      List.cons_append, hkept]

/-- The pieces of the directory of a path that ends in a name. -/
theorem exists_pieces_directory {first : Name} {more : List Name} (hn : n.IsProper)
    (h : pieces p.bytes = first :: (more ++ [n])) : p.directory.bytes ≠ [] ∧
      (pieces p.directory.bytes = first :: dropIdleEnd more ∨
        pieces p.directory.bytes = first :: (dropIdleEnd more ++ [[]])) := by
  have hslash : ∀ q ∈ first :: dropIdleEnd more, slash ∉ q := fun q hq => by
    obtain ⟨idle, hmore, -⟩ := exists_append_dropIdleEnd more
    refine @not_mem_of_mem_pieces p.bytes q ?_
    rw [h, hmore, List.append_assoc, ← List.cons_append]
    exact List.mem_append_left _ hq
  cases hkept : dropIdleEnd more with
  | nil =>
    rw [directory_eq_first hn hkept h]
    by_cases hfirst : first = []
    · subst hfirst
      exact ⟨by simp, .inr rfl⟩
    · rw [if_neg (by simpa using hfirst)]
      exact ⟨hfirst, .inl (pieces_of_not_mem (hslash first (by simp)))⟩
  | cons k ks =>
    rw [hkept] at hslash
    rw [directory_eq_join hn hkept h]
    have hpieces := pieces_joinPieces (by simp) hslash
    refine ⟨fun hnil => ?_, .inl hpieces⟩
    have hnil' : joinPieces (first :: k :: ks) = [] := hnil
    rw [hnil'] at hpieces
    simp [pieces] at hpieces

/-- **The directory of a name** is left by the same steps as the path the name stands in, up to
steps from a directory to itself. -/
theorem exists_way_directory (hp : p.bytes ≠ []) (hn : n.IsProper) :
    ∃ idle : List Step, (∀ s ∈ idle, s = .here) ∧ (p.child n).directory.bytes ≠ [] ∧
      p.way = (p.child n).directory.way ++ idle := by
  obtain ⟨first, more, hchild, hpieces⟩ := exists_pieces_child hp hn.not_mem
  obtain ⟨hne, hdirectory⟩ := exists_pieces_directory hn hchild
  obtain ⟨idle, hmore, hidle⟩ := exists_append_dropIdleEnd more
  refine ⟨idle.filterMap Step.ofPiece?, fun s hs => ?_, hne, ?_⟩
  · obtain ⟨q, hq, hs⟩ := List.mem_filterMap.1 hs
    exact Step.eq_here_of_isIdle (hidle q hq) hs
  · have hinner : (first :: more).filterMap Step.ofPiece? =
        (first :: dropIdleEnd more).filterMap Step.ofPiece? ++ idle.filterMap Step.ofPiece? := by
      rw [← List.filterMap_append, List.cons_append, ← hmore]
    rw [way_eq_or hp hpieces, way_eq_or hne hdirectory, hinner, List.append_assoc]

/-! ### Repeated slashes -/

/-- The path of a name in the current directory, with more slashes than it takes. -/
def slashed (k : Nat) (n : Name) : Path := ⟨dot ++ slash :: (List.replicate k slash ++ n)⟩

theorem pieces_slashed (k : Nat) (hn : slash ∉ n) :
    pieces (slashed k n).bytes = (dot :: List.replicate k []) ++ [n] := by
  rw [slashed, pieces_append_slash, pieces_replicate_slash, pieces_of_not_mem hn]
  rfl

/-- **Repeated slashes do not matter** for where a path leads. -/
theorem way_slashed (k : Nat) (hn : n.IsProper) : (slashed k n).way = [.here, .name n] := by
  have hidle : (List.replicate k []).filterMap Step.ofPiece? = [] :=
    List.filterMap_eq_nil_iff.2 fun q hq => by rw [(List.mem_replicate.1 hq).2]; rfl
  have hhere : Step.ofPiece? dot = some .here := rfl
  rw [way_eq (by simp [slashed]) (pieces_slashed k hn.not_mem), if_neg (by decide)]
  simp [List.filterMap_append, hidle, hhere, Step.ofPiece?_of_isProper hn]

theorem slashed_bytes_ne_nil (k : Nat) (n : Name) : (slashed k n).bytes ≠ [] := by simp [slashed]

theorem not_mem_slashed {b : UInt8} (k : Nat) (hdot : b ∉ dot) (hslash : b ≠ slash) (hn : b ∉ n) :
    b ∉ (slashed k n).bytes := by
  simp [slashed, hdot, hslash, hn, List.mem_replicate]

theorem length_slashed (k : Nat) (n : Name) : (slashed k n).bytes.length = k + n.length + 2 := by
  simp only [slashed, dot, List.length_append, List.length_cons, List.length_replicate,
    List.length_nil]
  omega

end Path

end Restyle
