import Restyle.Proofs.FileTree.Entries
import Restyle.Proofs.FileTree.Route

/-!
# Trees that grow

Writing makes a tree grow: files come and change their content, and everything else stays. A path
that leads anywhere leads to the same location in the grown tree, through the same links, since
nothing on its way was free. So reading and writing are a matter of the location that a path leads
to, and what has been written to a path is what is read from it.

## Main definitions

* `Restyle.FileTree.Grows` — files come and change their content, and everything else stays.

## Main results

* `Restyle.FileTree.Grows.location?_eq` — paths lead to the same locations in a grown tree.
* `Restyle.FileTree.read_eq_ok_iff` — reading a file, by its location.
* `Restyle.FileTree.exists_of_write` — what writing to a path makes of a tree, by the location.
-/

namespace Restyle

namespace FileTree

variable {t u v : FileTree} {e : Ending} {k : Nat} {l : Location} {n : Name} {S cs : List Step}
  {p : Path} {place : Place} {node : Node}

/-- A tree grows into another one: files come and change their content, and everything else stays.
-/
structure Grows (t u : FileTree) : Prop extends SameFrame t u where
  link : ∀ l target, u.node? l = some (.link target) ↔ t.node? l = some (.link target)
  file : ∀ l content mode, t.node? l = some (.file content mode) →
    ∃ new, u.node? l = some (.file new mode)

namespace Grows

theorem refl (t : FileTree) : Grows t t where
  toSameFrame := .refl t
  link _ _ := Iff.rfl
  file _ content _ h := ⟨content, h⟩

theorem trans (h : Grows t u) (h' : Grows u v) : Grows t v where
  toSameFrame := h.toSameFrame.trans h'.toSameFrame
  link l target := (h'.link l target).trans (h.link l target)
  file l content mode hnode :=
    let ⟨new, hnew⟩ := h.file l content mode hnode
    h'.file l new mode hnew

/-- A node stays one of its kind. -/
theorem exists_node?_eq (h : Grows t u) (hnode : t.node? l = some node) :
    ∃ node', u.node? l = some node' ∧ node'.kind = node.kind := by
  cases node with
  | file content mode =>
    obtain ⟨new, hnew⟩ := h.file l content mode hnode
    exact ⟨_, hnew, rfl⟩
  | directory mode => exact ⟨_, (h.directory l mode).2 hnode, rfl⟩
  | link target => exact ⟨_, (h.link l target).2 hnode, rfl⟩

/-- What comes is a file. -/
theorem kind_eq_file (h : Grows t u) (hfree : t.node? l = none) (hnode : u.node? l = some node) :
    node.kind = .file := by
  cases node with
  | file content mode => rfl
  | directory mode => exact nomatch hfree.symm.trans ((h.directory l mode).1 hnode)
  | link target => exact nomatch hfree.symm.trans ((h.link l target).1 hnode)

theorem admits (h : Grows t u) (hname : t.Admits e l n cs) : u.Admits .followed l n cs :=
  ⟨by rw [h.isSearchable_eq, hname.isSearchable], hname.length_le, nofun⟩

end Grows

/-- Putting a file where nothing is, or where a file of the same mode is, makes a tree grow. -/
theorem grows_put {mode : Nat}
    (h : t.node? l = none ∨ ∃ old, t.node? l = some (.file old mode)) (content : ByteArray) :
    Grows t (t.put l (.file content mode)) where
  current := rfl
  guarded := rfl
  directory m mode' := by
    rw [node?_put]
    split
    · next hm =>
      subst hm
      rcases h with h | ⟨old, h⟩ <;> simp [h]
    · rfl
  link m target := by
    rw [node?_put]
    split
    · next hm =>
      subst hm
      rcases h with h | ⟨old, h⟩ <;> simp [h]
    · rfl
  file m old mode' hnode := by
    rw [node?_put]
    split
    · next hm =>
      subst hm
      rcases h with h | ⟨old', h⟩
      · exact nomatch h.symm.trans hnode
      · obtain ⟨-, rfl⟩ := Node.file.inj (Option.some.inj (h.symm.trans hnode))
        exact ⟨content, rfl⟩
    · exact ⟨old, hnode⟩

/-! ### Where paths lead -/

/-- The route of steps that are followed through a link at their end is there in a grown tree, and
leads to the same location. -/
theorem Route.exists_of_grows (hgrows : Grows t u) (he : e ≠ .itself)
    (h : t.Route e k l S place) :
    ∃ place', u.Route .followed k l S place' ∧ place'.location = place.location := by
  induction h with
  | stop hnode =>
    obtain ⟨node', hnode', -⟩ := hgrows.exists_node?_eq hnode
    exact ⟨_, .stop hnode', rfl⟩
  | root _ ih =>
    obtain ⟨place', hlater, hplace⟩ := ih
    exact ⟨place', .root hlater, hplace⟩
  | here hl _ ih =>
    obtain ⟨place', hlater, hplace⟩ := ih
    exact ⟨place', .here (by rwa [hgrows.isSearchable_eq]) hlater, hplace⟩
  | up hl _ ih =>
    obtain ⟨place', hlater, hplace⟩ := ih
    exact ⟨place', .up (by rwa [hgrows.isSearchable_eq]) hlater, hplace⟩
  | directory hnode _ ih =>
    obtain ⟨place', hlater, hplace⟩ := ih
    exact ⟨place', .directory ((hgrows.directory _ _).2 hnode) hlater, hplace⟩
  | @free k l n hname hnode =>
    -- a file may have come in the meantime
    cases hnode' : u.node? (n :: l) with
    | none => exact ⟨_, .free (hgrows.admits hname) hnode', rfl⟩
    | some node =>
      have hkind : node.kind ≠ .link := by
        rw [hgrows.kind_eq_file hnode hnode']
        decide
      exact ⟨_, .enter (hgrows.admits hname) hnode' hkind (.stop hnode'), rfl⟩
  | enter hname hnode hkind _ ih =>
    obtain ⟨node', hnode', hkind'⟩ := hgrows.exists_node?_eq hnode
    obtain ⟨place', hlater, hplace⟩ := ih
    exact ⟨place', .enter (hgrows.admits hname) hnode' (hkind' ▸ hkind) hlater, hplace⟩
  | through hname hnode _ _ ih =>
    obtain ⟨place', hlater, hplace⟩ := ih
    exact ⟨place', .through (hgrows.admits hname) ((hgrows.link _ _).2 hnode) nofun hlater, hplace⟩
  | link _ _ hend => exact absurd hend he

theorem location?_eq_some_iff : t.location? p = some l ↔
    ∃ place, t.resolve .followed p = .ok place ∧ place.location = l := by
  rw [location?]
  cases t.resolve .followed p with
  | error err => simp [Except.toOption]
  | ok place => simp [Except.toOption]

/-- A path that leads anywhere leads to the same location in a grown tree. -/
theorem Grows.location?_of_resolve (hgrows : Grows t u) (he : e ≠ .itself)
    (h : t.resolve e p = .ok place) : u.location? p = some place.location := by
  obtain ⟨husable, hroute⟩ := resolve_eq_ok_iff.1 h
  obtain ⟨place', hroute', hplace⟩ := hroute.exists_of_grows hgrows he
  rw [← hgrows.current] at hroute'
  exact location?_eq_some_iff.2 ⟨place', resolve_eq_ok_iff.2 ⟨husable, hroute'⟩, hplace⟩

/-- **Paths lead to the same locations in a grown tree.** -/
theorem Grows.location?_eq (hgrows : Grows t u) (h : t.location? p = some l) :
    u.location? p = some l := by
  obtain ⟨place, hresolve, rfl⟩ := location?_eq_some_iff.1 h
  exact hgrows.location?_of_resolve (by decide) hresolve

/-! ### Reading and writing -/

/-- The node that a path leads to is the one at its location. -/
theorem stat_eq_ok_iff : t.stat p = .ok node ↔
    ∃ l, t.location? p = some l ∧ t.node? l = some node := by
  constructor
  · intro h
    obtain ⟨l, hresolve⟩ := statWith_eq_ok h
    exact ⟨l, location?_eq_some_iff.2 ⟨_, hresolve, rfl⟩, node?_of_resolve hresolve⟩
  · rintro ⟨l, hl, hnode⟩
    obtain ⟨place, hresolve, rfl⟩ := location?_eq_some_iff.1 hl
    rw [node?_of_resolve hresolve] at hnode
    rw [stat, statWith, hresolve]
    cases place with
    | found l node' =>
      obtain rfl := Option.some.inj hnode
      rfl
    | free d n => cases hnode

/-- A path leads to something if something is at its location. -/
theorem exists_iff : t.exists p ↔ ∃ l, t.location? p = some l ∧ (t.node? l).isSome := by
  rw [FileTree.exists]
  constructor
  · intro h
    cases hstat : t.stat p with
    | error err =>
      rw [hstat] at h
      exact nomatch h
    | ok node =>
      obtain ⟨l, hl, hnode⟩ := stat_eq_ok_iff.1 hstat
      exact ⟨l, hl, Option.isSome_of_eq_some hnode⟩
  · rintro ⟨l, hl, hsome⟩
    obtain ⟨node, hnode⟩ := Option.isSome_iff_exists.1 hsome
    rw [stat_eq_ok_iff.2 ⟨l, hl, hnode⟩]
    rfl

/-- **Reading a file.** -/
theorem read_eq_ok_iff {content : ByteArray} : t.read p = .ok content ↔ ∃ l mode,
    t.location? p = some l ∧ t.node? l = some (.file content mode) ∧ t.permits readBit mode := by
  constructor
  · intro h
    obtain ⟨node, hstat, h⟩ := exists_of_bind_eq_ok h
    obtain ⟨l, hl, hnode⟩ := stat_eq_ok_iff.1 hstat
    cases node with
    | file content' mode =>
      simp only at h
      split at h
      · next hmode =>
        obtain rfl := Except.ok.inj h
        exact ⟨l, mode, hl, hnode, hmode⟩
      · exact nomatch h
    | directory mode =>
      simp only at h
      split at h <;> exact nomatch h
    | link target => exact nomatch h
  · rintro ⟨l, mode, hl, hnode, hmode⟩
    rw [read, stat_eq_ok_iff.2 ⟨l, hl, hnode⟩]
    simp only [bind, Except.bind, hmode, if_true]
    rfl

/-- **What writing to a path makes of a tree.** The content goes to the location that the path leads
to, into a file that is there or into a new one. -/
theorem exists_of_write {content : ByteArray} (h : t.write p content = .ok u) : ∃ l mode,
    t.location? p = some l ∧ u = t.put l (.file content mode) ∧
      (t.node? l = none ∧ mode = newFileMode ∨ ∃ old, t.node? l = some (.file old mode)) := by
  obtain ⟨place, hresolve, h⟩ := exists_of_bind_eq_ok h
  have hl := (Grows.refl t).location?_of_resolve (by decide) hresolve
  have hnode := node?_of_resolve hresolve
  cases place with
  | free d n =>
    obtain ⟨_, -, h⟩ := exists_of_bind_eq_ok h
    obtain rfl := Except.ok.inj h
    exact ⟨n :: d, newFileMode, hl, rfl, .inl ⟨hnode, rfl⟩⟩
  | found l node =>
    cases node with
    | file old mode =>
      simp only at h
      split at h
      · obtain rfl := Except.ok.inj h
        exact ⟨l, mode, hl, rfl, .inr ⟨old, hnode⟩⟩
      · exact nomatch h
    | directory mode => exact nomatch h
    | link target => exact nomatch h

end FileTree

end Restyle
