import Restyle.FileTree.Arrange
import Restyle.Proofs.Path.Pieces

/-!
# Sound file trees

A list of nodes is a file tree if no location occurs in it twice and all names are names that a node
may have in a directory. The tree in which work begins is sound, and so is every tree that an
operation makes of a sound one, since paths lead only to names that stand in them.

## Main definitions

* `Restyle.FileTree.IsSound` — the representation of a tree is one of a file tree.

## Main results

* `Restyle.FileTree.isSound_start` — the tree in which work begins is sound.
* `Restyle.FileTree.isProper_of_resolve` — the names of a place that a path leads to.
* `Restyle.FileTree.IsSound.write`, `Restyle.FileTree.IsSound.makeDirectories`,
  `Restyle.FileTree.IsSound.makeLink`, `Restyle.FileTree.IsSound.remove`,
  `Restyle.FileTree.IsSound.setMode` — operations keep trees sound.
-/

namespace Restyle

/-- A location all of whose names are names that a node may have. -/
def Location.IsProper (l : Location) : Prop := ∀ n ∈ l, Name.IsProper n

theorem Location.IsProper.cons {l : Location} {n : Name} (hn : n.IsProper)
    (hl : Location.IsProper l) : Location.IsProper (n :: l) := fun m hm => by
  rcases List.mem_cons.1 hm with rfl | hm
  · exact hn
  · exact hl m hm

/-- The location of the node that a path leads to, or of the name that is free. -/
def Place.location : Place → Location
  | .found l _ => l
  | .free d n => n :: d

namespace FileTree

/-- The representation of a tree is one of a file tree: there is one node at a location at most, and
all names are names that a node may have. -/
structure IsSound (t : FileTree) : Prop where
  nodup : (t.nodes.map Prod.fst).Nodup
  proper : ∀ e ∈ t.nodes, Location.IsProper e.1
  current : Location.IsProper t.current

variable {t : FileTree} {l : Location} {node : Node}

instance (l : Location) : Decidable (Location.IsProper l) :=
  inferInstanceAs (Decidable (∀ n ∈ l, Name.IsProper n))

instance (t : FileTree) : Decidable t.IsSound :=
  decidable_of_iff ((t.nodes.map Prod.fst).Nodup ∧ (∀ e ∈ t.nodes, Location.IsProper e.1) ∧
      Location.IsProper t.current)
    ⟨fun ⟨hnodup, hproper, hcurrent⟩ => ⟨hnodup, hproper, hcurrent⟩,
      fun h => ⟨h.nodup, h.proper, h.current⟩⟩

theorem isSound_start : start.IsSound := by decide

namespace IsSound

theorem drop (ht : t.IsSound) (l : Location) : (t.drop l).IsSound where
  nodup := ht.nodup.sublist ((List.filter_sublist).map Prod.fst)
  proper e he := ht.proper e (List.mem_of_mem_filter he)
  current := ht.current

theorem put (ht : t.IsSound) (hl : Location.IsProper l) (node : Node) : (t.put l node).IsSound where
  nodup := by
    refine List.nodup_cons.2 ⟨fun hmem => ?_, (ht.drop l).nodup⟩
    obtain ⟨e, he, rfl⟩ := List.mem_map.1 hmem
    simpa using List.of_mem_filter he
  proper e he := by
    rcases List.mem_cons.1 he with rfl | he
    · exact hl
    · exact (ht.drop l).proper e he
  current := ht.current

theorem guard (ht : t.IsSound) : t.guard.IsSound := ⟨ht.nodup, ht.proper, ht.current⟩

end IsSound

/-! ### Where paths lead -/

/-- The steps of a path have names that a node may have. -/
theorem isProper_of_mem_steps {p : Path} {n : Name} (h : Step.name n ∈ p.steps) : n.IsProper := by
  have hway : Step.name n ∈ p.way := by
    rcases p.steps_eq_way_or with heq | heq
    · rwa [heq] at h
    · rw [heq] at h
      simpa using h
  have hpieces : Step.name n ∈ (pieces p.bytes).filterMap Step.ofPiece? := by
    rw [Path.way] at hway
    split at hway
    · simpa using hway
    · simpa using hway
  obtain ⟨q, hq, hstep⟩ := List.mem_filterMap.1 hpieces
  exact Step.isProper_of_ofPiece? hstep (not_mem_of_mem_pieces q hq)

variable {e : Ending} {through : Location → List Step → Except SystemError Place} {place : Place}

theorem exists_of_bind_eq_ok {α β : Type} {x : Except SystemError α} {f : α → Except SystemError β}
    {b : β} (h : x >>= f = .ok b) : ∃ a, x = .ok a ∧ f a = .ok b := by
  cases x with
  | error err => exact nomatch h
  | ok a => exact ⟨a, rfl, h⟩

/-- Following a name. -/
theorem follow_name_eq (l : Location) (n : Name) (cs : List Step) :
    t.follow e through l (.name n :: cs) = (do
      t.search l
      if e = .writable && Step.askOnly cs then .error .isDirectory
      else if nameLimit < n.length then .error .nameTooLong
      else match t.node? (n :: l) with
        | none => if cs.isEmpty then .ok (.free l n) else .error .noEntry
        | some (.link target) =>
          if cs.isEmpty && e = .itself then .ok (.found (n :: l) (.link target))
          else through l (target.steps ++ cs)
        | some _ => t.follow e through (n :: l) cs) := by
  rw [follow]
  rfl

theorem isProper_of_follow
    (hthrough : ∀ l cs place, Location.IsProper l → (∀ n, Step.name n ∈ cs → n.IsProper) →
      through l cs = .ok place → Location.IsProper place.location) :
    ∀ {cs : List Step} {l : Location}, Location.IsProper l → (∀ n, Step.name n ∈ cs → n.IsProper) →
      t.follow e through l cs = .ok place → Location.IsProper place.location
  | [], l, hl, hcs, h => by
    rw [follow] at h
    split at h
    · obtain rfl := Except.ok.inj h
      exact hl
    · exact nomatch h
  | .root :: cs, l, hl, hcs, h => by
    refine isProper_of_follow hthrough (fun n hn => absurd hn List.not_mem_nil)
      (fun n hn => hcs n (List.mem_cons_of_mem _ hn)) (l := []) h
  | .here :: cs, l, hl, hcs, h => by
    obtain ⟨_, -, h⟩ := exists_of_bind_eq_ok h
    exact isProper_of_follow hthrough hl (fun n hn => hcs n (List.mem_cons_of_mem _ hn)) h
  | .up :: cs, l, hl, hcs, h => by
    obtain ⟨_, -, h⟩ := exists_of_bind_eq_ok h
    exact isProper_of_follow hthrough (fun n hn => hl n (List.mem_of_mem_tail hn))
      (fun n hn => hcs n (List.mem_cons_of_mem _ hn)) h
  | .directory :: cs, l, hl, hcs, h => by
    rw [follow] at h
    split at h
    · exact isProper_of_follow hthrough hl (fun n hn => hcs n (List.mem_cons_of_mem _ hn)) h
    · exact nomatch h
    · exact nomatch h
  | .name n :: cs, l, hl, hcs, h => by
    have hn : n.IsProper := hcs n List.mem_cons_self
    have hrest : ∀ m, Step.name m ∈ cs → m.IsProper := fun m hm => hcs m (List.mem_cons_of_mem _ hm)
    rw [follow_name_eq] at h
    obtain ⟨_, -, h⟩ := exists_of_bind_eq_ok h
    split at h
    · exact nomatch h
    · split at h
      · exact nomatch h
      · split at h
        · split at h
          · obtain rfl := Except.ok.inj h
            exact Location.IsProper.cons hn hl
          · exact nomatch h
        · next target _ =>
          split at h
          · obtain rfl := Except.ok.inj h
            exact Location.IsProper.cons hn hl
          · refine hthrough l _ _ hl (fun m hm => ?_) h
            rcases List.mem_append.1 hm with hm | hm
            · exact isProper_of_mem_steps hm
            · exact hrest m hm
        · exact isProper_of_follow hthrough (Location.IsProper.cons hn hl) hrest h

theorem isProper_of_followLinks : ∀ (k : Nat) (l : Location) (cs : List Step) (place : Place),
    Location.IsProper l → (∀ n, Step.name n ∈ cs → n.IsProper) →
      t.followLinks e k l cs = .ok place → Location.IsProper place.location
  | 0, _, _, _, hl, hcs, h =>
    isProper_of_follow (fun _ _ _ _ _ h => by simp at h) hl hcs h
  | k + 1, _, _, _, hl, hcs, h =>
    isProper_of_follow (isProper_of_followLinks k) hl hcs h

/-- **The names of a place that a path leads to** are names that a node may have. -/
theorem isProper_of_resolve (ht : t.IsSound) {p : Path} (h : t.resolve e p = .ok place) :
    Location.IsProper place.location := by
  obtain ⟨_, -, h⟩ := exists_of_bind_eq_ok h
  exact isProper_of_followLinks linkLimit _ _ _ ht.current (fun _ hn => isProper_of_mem_steps hn) h

/-! ### Operations -/

namespace IsSound

theorem write (ht : t.IsSound) {p : Path} {content : ByteArray} {u : FileTree}
    (h : t.write p content = .ok u) : u.IsSound := by
  rw [FileTree.write] at h
  obtain ⟨place, hplace, h⟩ := exists_of_bind_eq_ok h
  have hproper := isProper_of_resolve ht hplace
  cases place with
  | free d n =>
    obtain ⟨_, -, h⟩ := exists_of_bind_eq_ok h
    obtain rfl := Except.ok.inj h
    exact ht.put hproper _
  | found l node =>
    cases node with
    | file old mode =>
      simp only at h
      split at h
      · obtain rfl := Except.ok.inj h
        exact ht.put hproper _
      · exact nomatch h
    | directory mode => exact nomatch h
    | link target => exact nomatch h

theorem makeDirectory (ht : t.IsSound) {p : Path} {u : FileTree} (h : t.makeDirectory p = .ok u) :
    u.IsSound := by
  obtain ⟨place, hplace, h⟩ := exists_of_bind_eq_ok h
  have hproper := isProper_of_resolve ht hplace
  cases place with
  | found l node => exact nomatch h
  | free d n =>
    obtain ⟨_, -, h⟩ := exists_of_bind_eq_ok h
    obtain rfl := Except.ok.inj h
    exact ht.put hproper _

theorem makeLink (ht : t.IsSound) {target p : Path} {u : FileTree}
    (h : t.makeLink target p = .ok u) : u.IsSound := by
  obtain ⟨_, -, h⟩ := exists_of_bind_eq_ok h
  obtain ⟨place, hplace, h⟩ := exists_of_bind_eq_ok h
  have hproper := isProper_of_resolve ht hplace
  cases place with
  | found l node => exact nomatch h
  | free d n =>
    simp only at h
    split at h
    · exact nomatch h
    · obtain ⟨_, -, h⟩ := exists_of_bind_eq_ok h
      obtain rfl := Except.ok.inj h
      exact ht.put hproper _

theorem remove (ht : t.IsSound) {p : Path} {u : FileTree} (h : t.remove p = .ok u) : u.IsSound := by
  obtain ⟨place, hplace, h⟩ := exists_of_bind_eq_ok h
  cases place with
  | free d n => exact nomatch h
  | found l node =>
    simp only at h
    split at h
    · exact nomatch h
    · obtain ⟨_, -, h⟩ := exists_of_bind_eq_ok h
      split at h
      · exact nomatch h
      · obtain rfl := Except.ok.inj h
        exact ht.drop l

theorem setMode (ht : t.IsSound) {p : Path} {mode : Nat} {u : FileTree}
    (h : t.setMode p mode = .ok u) : u.IsSound := by
  obtain ⟨place, hplace, h⟩ := exists_of_bind_eq_ok h
  have hproper := isProper_of_resolve ht hplace
  cases place with
  | free d n => exact nomatch h
  | found l node =>
    cases node with
    | link target => exact nomatch h
    | file content old | directory old =>
      obtain rfl := Except.ok.inj h
      exact ht.put hproper _

theorem attempt (ht : t.IsSound) {operation : FileTree → Except SystemError FileTree}
    (h : ∀ u, operation t = .ok u → u.IsSound) : (t.attempt operation).tree.IsSound := by
  rw [FileTree.attempt]
  split
  · next u hu => exact h u hu
  · exact ht

theorem makeLevels : ∀ {k : Nat} {t : FileTree} {p : Path}, t.IsSound →
    (FileTree.makeLevels k t p).tree.IsSound
  | 0, t, p, ht => ht.attempt fun _ hu => ht.makeDirectory hu
  | k + 1, t, p, ht => by
    rw [FileTree.makeLevels]
    split
    · exact ht
    · split
      · next u hu => exact ht.makeDirectory hu
      · split
        · exact ht
        · next up _ =>
          have habove := makeLevels (k := k) (p := up) ht
          simp only
          split
          · exact habove
          · exact habove.attempt fun _ hu => habove.makeDirectory hu
      · exact ht

theorem makeDirectories (ht : t.IsSound) (p : Path) : (t.makeDirectories p).tree.IsSound :=
  ht.makeLevels

theorem save (ht : t.IsSound) (p : Path) (content : ByteArray) :
    (t.save p content).tree.IsSound := by
  have hwrite {above : Attempt} (habove : above.tree.IsSound) :
      (if above.result.isOk then above.tree.attempt (·.write p content)
        else above).tree.IsSound := by
    split
    · exact habove.attempt fun _ hu => habove.write hu
    · exact habove
  rw [FileTree.save]
  refine hwrite ?_
  split
  · exact ht.makeDirectories _
  · exact ht

end IsSound

end FileTree

end Restyle
