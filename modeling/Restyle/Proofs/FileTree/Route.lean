import Restyle.Proofs.FileTree.Frame

/-!
# Routes through a file tree

A route is the way that steps take from a location to a place. It follows from the nodes on the way:
at each name there is nothing, a link, or a file or directory, and the names may be looked up. The
steps of a path that leads anywhere take a route, and no path leads anywhere without one. What holds
of where paths lead, through whatever links, is shown along their routes.

## Main definitions

* `Restyle.Place.node?` — the node at a place.
* `Restyle.FileTree.Admits` — a name may be looked up.
* `Restyle.FileTree.Route` — the way that steps take.

## Main results

* `Restyle.FileTree.followLinks_eq_ok_iff`, `Restyle.FileTree.resolve_eq_ok_iff` — steps lead where
  their route does.
* `Restyle.FileTree.node?_of_resolve` — what stands at the place that a path leads to.
-/

namespace Restyle

/-- The node at a place, if its name is not free. -/
def Place.node? : Place → Option Node
  | .found _ node => some node
  | .free _ _ => none

namespace FileTree

variable {t : FileTree} {e : Ending} {k : Nat} {l : Location} {n : Name} {S cs : List Step}
  {p : Path} {place : Place}

/-- A name may be looked up in the directory at a location: the directory may be searched, the name
is not too long, and it is not that of a directory to be written to. -/
structure Admits (t : FileTree) (e : Ending) (l : Location) (n : Name) (cs : List Step) : Prop where
  isSearchable : t.isSearchable l
  length_le : n.length ≤ nameLimit
  askOnly_eq : e = .writable → Step.askOnly cs = false

/-- Following a name that may be looked up. -/
theorem Admits.follow_eq (h : t.Admits e l n cs)
    {through : Location → List Step → Except SystemError Place} :
    t.follow e through l (.name n :: cs) =
      match t.node? (n :: l) with
      | none => if cs.isEmpty then .ok (.free l n) else .error .noEntry
      | some (.link target) =>
        if cs.isEmpty && e = .itself then .ok (.found (n :: l) (.link target))
        else through l (target.steps ++ cs)
      | some _ => t.follow e through (n :: l) cs := by
  rw [follow_name h.isSearchable h.askOnly_eq]
  exact if_neg (Nat.not_lt.2 h.length_le)

/-- A name is followed only if it may be looked up. -/
theorem admits_of_follow {through : Location → List Step → Except SystemError Place}
    (h : t.follow e through l (.name n :: cs) = .ok place) : t.Admits e l n cs := by
  rw [follow_name_eq] at h
  obtain ⟨hl, h⟩ := isSearchable_of_search_bind h
  split at h
  · exact nomatch h
  · next hask =>
    split at h
    · exact nomatch h
    · next hlong =>
      exact ⟨hl, Nat.le_of_not_lt hlong, fun he => by simpa [he] using hask⟩

/-- The way that steps take from a location to a place, through `k` links at most. -/
inductive Route (t : FileTree) (e : Ending) : Nat → Location → List Step → Place → Prop
  /-- the place is reached -/
  | stop {k : Nat} {l : Location} {node : Node} (hnode : t.node? l = some node) :
      Route t e k l [] (.found l node)
  /-- to the root of everything -/
  | root {k : Nat} {l : Location} {cs : List Step} {place : Place}
    (later : Route t e k [] cs place) :
      Route t e k l (.root :: cs) place
  /-- to the directory itself -/
  | here {k : Nat} {l : Location} {cs : List Step} {place : Place} (hl : t.isSearchable l)
      (later : Route t e k l cs place) : Route t e k l (.here :: cs) place
  /-- to the directory above -/
  | up {k : Nat} {l : Location} {cs : List Step} {place : Place} (hl : t.isSearchable l)
      (later : Route t e k l.tail cs place) : Route t e k l (.up :: cs) place
  /-- no further than a directory -/
  | directory {k mode : Nat} {l : Location} {cs : List Step} {place : Place}
      (hnode : t.node? l = some (.directory mode)) (later : Route t e k l cs place) :
      Route t e k l (.directory :: cs) place
  /-- to a name that is free -/
  | free {k : Nat} {l : Location} {n : Name} (hname : t.Admits e l n [])
      (hnode : t.node? (n :: l) = none) : Route t e k l [.name n] (.free l n)
  /-- to a file or a directory -/
  | enter {k : Nat} {l : Location} {n : Name} {cs : List Step} {place : Place} {node : Node}
      (hname : t.Admits e l n cs) (hnode : t.node? (n :: l) = some node) (hkind : node.kind ≠ .link)
      (later : Route t e k (n :: l) cs place) : Route t e k l (.name n :: cs) place
  /-- through a link -/
  | through {k : Nat} {l : Location} {n : Name} {cs : List Step} {place : Place} {target : Path}
      (hname : t.Admits e l n cs) (hnode : t.node? (n :: l) = some (.link target))
      (hend : cs = [] → e ≠ .itself) (later : Route t e k l (target.steps ++ cs) place) :
      Route t e (k + 1) l (.name n :: cs) place
  /-- to a link that is not followed -/
  | link {k : Nat} {l : Location} {n : Name} {target : Path} (hname : t.Admits e l n [])
      (hnode : t.node? (n :: l) = some (.link target)) (hend : e = .itself) :
      Route t e k l [.name n] (.found (n :: l) (.link target))

/-! ### Steps and their routes -/

/-- Steps that lead anywhere take a route, if what is behind each link does. -/
theorem route_of_follow {through : Location → List Step → Except SystemError Place}
    (hthrough : ∀ l S place, through l S = .ok place → ∃ j, k = j + 1 ∧ t.Route e j l S place) :
    ∀ {S : List Step} {l : Location}, t.follow e through l S = .ok place →
      t.Route e k l S place := by
  intro S
  induction S with
  | nil =>
    intro l h
    rw [follow] at h
    split at h
    · next hnode =>
      obtain rfl := Except.ok.inj h
      exact .stop hnode
    · cases h
  | cons s cs ih =>
    intro l h
    cases s with
    | root => exact .root (ih h)
    | here =>
      obtain ⟨hl, h⟩ := isSearchable_of_search_bind h
      exact .here hl (ih h)
    | up =>
      obtain ⟨hl, h⟩ := isSearchable_of_search_bind h
      exact .up hl (ih h)
    | directory =>
      rw [follow] at h
      split at h
      · next hnode => exact .directory hnode (ih h)
      · cases h
      · cases h
    | name n =>
      have hname := admits_of_follow h
      rw [hname.follow_eq] at h
      cases hnode : t.node? (n :: l) with
      | none =>
        cases cs with
        | nil =>
          obtain rfl : Place.free l n = place := by simpa [hnode] using h
          exact .free hname hnode
        | cons s cs => simp [hnode] at h
      | some node =>
        cases node with
        | link target =>
          by_cases hend : cs = [] ∧ e = .itself
          · obtain ⟨rfl, he⟩ := hend
            obtain rfl : Place.found (n :: l) (.link target) = place := by simpa [hnode, he] using h
            exact .link hname hnode he
          · obtain ⟨j, rfl, hlater⟩ :=
              hthrough l (target.steps ++ cs) place (by simpa [hnode, hend] using h)
            exact .through hname hnode (fun hcs he => hend ⟨hcs, he⟩) hlater
        | file content mode | directory mode =>
          simp only [hnode] at h
          exact .enter hname hnode (by simp [Node.kind]) (ih h)

theorem exists_followLinks_eq (t : FileTree) (e : Ending) (k : Nat) :
    ∃ through, t.followLinks e k = t.follow e through := by
  cases k <;> exact ⟨_, rfl⟩

theorem Route.follow_eq (h : t.Route e k l S place) :
    ∀ {through : Location → List Step → Except SystemError Place},
      t.followLinks e k = t.follow e through → t.follow e through l S = .ok place := by
  induction h with
  | stop hnode =>
    intro through _
    rw [follow, hnode]
  | root _ ih => exact ih
  | here hl _ ih | up hl _ ih =>
    intro through hk
    rw [follow, search_eq_ok_iff.2 hl]
    exact ih hk
  | directory hnode _ ih =>
    intro through hk
    rw [follow, hnode]
    exact ih hk
  | free hname hnode =>
    intro through _
    rw [hname.follow_eq, hnode]
    rfl
  | @enter _ _ _ _ _ node hname hnode hkind _ ih =>
    intro through hk
    rw [hname.follow_eq, hnode]
    cases node with
    | link target => exact absurd rfl hkind
    | file content mode | directory mode => exact ih hk
  | @through k _ _ cs _ _ hname hnode hend _ ih =>
    intro through hk
    obtain ⟨through', hk'⟩ := exists_followLinks_eq t e k
    have hfollow : (cs.isEmpty && decide (e = .itself)) = false := by simpa using hend
    rw [← hk, followLinks, hname.follow_eq, hnode]
    simpa [hfollow, hk'] using ih hk'
  | link hname hnode hend =>
    intro through _
    rw [hname.follow_eq, hnode]
    simp [hend]

/-- **Steps lead where their route does.** -/
theorem followLinks_eq_ok_iff : t.followLinks e k l S = .ok place ↔ t.Route e k l S place := by
  constructor
  · intro h
    induction k generalizing l S place with
    | zero => exact route_of_follow (fun _ _ _ h => by simp at h) h
    | succ k ih => exact route_of_follow (fun _ _ _ h => ⟨k, rfl, ih h⟩) h
  · intro h
    obtain ⟨through, hk⟩ := exists_followLinks_eq t e k
    rw [hk]
    exact h.follow_eq hk

/-- **A path leads where the route of its steps does.** -/
theorem resolve_eq_ok_iff : t.resolve e p = .ok place ↔
    usable p = .ok () ∧ t.Route e linkLimit t.current p.steps place := by
  rw [← followLinks_eq_ok_iff, resolve]
  cases usable p with
  | error err => exact iff_of_false nofun nofun
  | ok => exact (and_iff_right rfl).symm

/-! ### Places of routes -/

/-- What stands at the place that a route leads to. -/
theorem Route.node?_eq (h : t.Route e k l S place) : t.node? place.location = place.node? := by
  induction h with
  | stop hnode => exact hnode
  | free _ hnode => exact hnode
  | link _ hnode => exact hnode
  | root _ ih | here _ _ ih | up _ _ ih | directory _ _ ih | enter _ _ _ _ ih
  | through _ _ _ _ ih =>
    exact ih

/-- **What stands at the place that a path leads to.** -/
theorem node?_of_resolve (h : t.resolve e p = .ok place) : t.node? place.location = place.node? :=
  (resolve_eq_ok_iff.1 h).2.node?_eq

end FileTree

end Restyle
