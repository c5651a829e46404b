import Restyle.Proofs.FileTree.Sound

/-!
# Paths in trees with the same directories

In a tree without links the directory that a path enters depends on the directories of the tree
alone, and where the path leads depends on nothing else but the node of that name in the directory.
Writing a file changes no directory, so it changes only where paths to this file lead.

## Main definitions

* `Restyle.FileTree.LinkFree` — no link stands in a tree.
* `Restyle.FileTree.enter`, `Restyle.FileTree.enterFrom` — the directory that steps enter.
* `Restyle.FileTree.LeadsTo` — a path leads to a name in a directory.
* `Restyle.FileTree.SameFrame` — two trees have the same directories.
* `Restyle.FileTree.Alike` — they have the same nodes at some locations, too.
* `Restyle.FileTree.Keeps` — a tree differs from an earlier one at some locations only.

## Main results

* `Restyle.FileTree.LeadsTo.resolve_eq` — where a path leads that leads to a name in a directory.
* `Restyle.FileTree.LeadsTo.write_eq` — what writing to such a path makes of the tree.
* `Restyle.FileTree.SameFrame.resolve_directory` — where a path leads that leads to a directory.
* `Restyle.FileTree.keeps_put` — putting a file changes no directory.
-/

namespace Restyle

/-- Whether a step leads to a directory of, in or above a directory. -/
def Step.isInner : Step → Bool
  | .here | .up | .name _ => true
  | .root | .directory => false

theorem Step.isInner_of_ofPiece? {q : Name} {s : Step} (h : Step.ofPiece? q = some s) :
    s.isInner := by
  rw [Step.ofPiece?] at h
  split at h
  · cases h
  · split at h
    · obtain rfl := Option.some.inj h
      rfl
    · split at h
      · obtain rfl := Option.some.inj h
        rfl
      · obtain rfl := Option.some.inj h
        rfl

theorem Path.exists_way_eq (p : Path) : ∃ S : List Step, (∀ s ∈ S, s.isInner) ∧
    (p.way = S ∨ p.way = .root :: S) := by
  refine ⟨(pieces p.bytes).filterMap Step.ofPiece?, fun s hs => ?_, ?_⟩
  · obtain ⟨q, -, hq⟩ := List.mem_filterMap.1 hs
    exact Step.isInner_of_ofPiece? hq
  · rw [way]
    split
    · exact .inr rfl
    · exact .inl rfl

namespace FileTree

variable {t t' u : FileTree} {l d : Location} {n : Name} {p : Path} {S cs : List Step} {e : Ending}

/-- No link stands in a tree. -/
def LinkFree (t : FileTree) : Prop := ∀ l target, t.node? l ≠ some (.link target)

theorem linkFree_of_forall (h : ∀ e ∈ t.nodes, e.2.kind ≠ .link) : t.LinkFree := by
  intro l target hnode
  obtain ⟨before, after, hnodes, -⟩ := List.lookup_eq_some_iff.1 hnode
  exact h (l, .link target) (by simp [hnodes]) rfl

/-! ### Directories that steps enter -/

/-- Whether a location is that of a directory in which names may be looked up. -/
def isSearchable (t : FileTree) (l : Location) : Bool :=
  match t.node? l with
  | some (.directory mode) => t.permits searchBit mode
  | _ => false

theorem search_eq_ok_iff : t.search l = .ok () ↔ t.isSearchable l := by
  rw [search, isSearchable]
  cases t.node? l with
  | none => simp
  | some node =>
    cases node with
    | directory mode =>
      by_cases hmode : t.permits searchBit mode <;> simp [hmode]
    | file content mode => simp
    | link target => simp

theorem exists_node?_of_isSearchable (h : t.isSearchable l) :
    ∃ mode, t.node? l = some (.directory mode) := by
  rw [isSearchable] at h
  split at h
  · next mode hnode => exact ⟨mode, hnode⟩
  · exact Bool.noConfusion h

/-- The directory that steps enter from a location, if names may be looked up in it and in every
directory on the way. -/
def enter (t : FileTree) : Location → List Step → Option Location
  | l, [] => if t.isSearchable l then some l else none
  | l, .here :: cs => if t.isSearchable l then enter t l cs else none
  | l, .up :: cs => if t.isSearchable l then enter t l.tail cs else none
  | l, .name n :: cs =>
    if t.isSearchable l && n.length ≤ nameLimit then enter t (n :: l) cs else none
  | _, .root :: _ | _, .directory :: _ => none

/-- The directory that the steps of a path enter. -/
def enterFrom (t : FileTree) : List Step → Option Location
  | .root :: cs => t.enter [] cs
  | cs => t.enter t.current cs

theorem isSearchable_of_enter : ∀ {S : List Step} {l : Location}, t.enter l S = some d →
    t.isSearchable l
  | [], l, h | .here :: _, l, h | .up :: _, l, h => by
    rw [enter] at h
    split at h
    · assumption
    · exact nomatch h
  | .name n :: cs, l, h => by
    rw [enter] at h
    split at h
    · next hl => exact (Bool.and_eq_true_iff.1 hl).1
    · exact nomatch h

theorem isSearchable_of_enter_eq : ∀ {S : List Step} {l : Location}, t.enter l S = some d →
    t.isSearchable d
  | [], l, h => by
    rw [enter] at h
    split at h
    · next hl =>
      obtain rfl := Option.some.inj h
      exact hl
    · exact nomatch h
  | .here :: cs, l, h | .up :: cs, l, h | .name n :: cs, l, h => by
    rw [enter] at h
    split at h
    · exact isSearchable_of_enter_eq h
    · exact nomatch h

/-- Steps from a directory to itself at the end change nothing. -/
theorem enter_append_idle {idle : List Step} (hidle : ∀ s ∈ idle, s = .here) :
    ∀ {S : List Step} {l : Location}, t.enter l (S ++ idle) = t.enter l S
  | [], l => by
    rw [List.nil_append]
    induction idle with
    | nil => rfl
    | cons s idle ih =>
      obtain rfl := hidle s (by simp)
      have hrest : t.enter l idle = t.enter l [] := ih fun s hs => hidle s (by simp [hs])
      simp only [enter] at hrest ⊢
      rw [hrest]
      split <;> rfl
  | .here :: cs, l | .up :: cs, l | .name n :: cs, l => by
    rw [List.cons_append, enter, enter, enter_append_idle hidle]
  | .root :: cs, l | .directory :: cs, l => rfl

theorem enterFrom_append_idle {idle : List Step} (hidle : ∀ s ∈ idle, s = .here) :
    ∀ {S : List Step}, t.enterFrom (S ++ idle) = t.enterFrom S
  | .root :: cs => enter_append_idle (S := cs) hidle
  | [] => by
    have hnil : t.enterFrom idle = t.enter t.current idle := by
      cases idle with
      | nil => rfl
      | cons s idle =>
        obtain rfl := hidle s (by simp)
        rfl
    rw [List.nil_append, hnil]
    exact enter_append_idle (S := []) hidle
  | .here :: cs | .up :: cs | .name n :: cs | .directory :: cs =>
    enter_append_idle (S := _ :: cs) hidle

/-! ### Where paths lead -/

/-- The place of a name in a directory. -/
def placeAt (t : FileTree) (d : Location) (n : Name) : Place :=
  match t.node? (n :: d) with
  | some node => .found (n :: d) node
  | none => .free d n

/-- Whether a path that ends in a name may be used at all. -/
def permit (p : Path) (n : Name) : Except SystemError Unit := do
  usable p
  if nameLimit < n.length then throw .nameTooLong

theorem usable_eq_ok_iff :
    usable p = .ok () ↔ 0 ∉ p.bytes ∧ p.bytes ≠ [] ∧ p.bytes.length < pathLimit := by
  simp only [usable, List.contains_iff_mem, List.isEmpty_iff]
  split
  · next hzero => exact iff_of_false nofun fun h => h.1 hzero
  · next hzero =>
    split
    · next hnil => exact iff_of_false nofun fun h => h.2.1 hnil
    · next hnil =>
      split
      · next hlong => exact iff_of_false nofun fun h => Nat.not_lt.2 hlong h.2.2
      · next hlong => exact iff_of_true rfl ⟨hzero, hnil, Nat.lt_of_not_le hlong⟩

variable {through : Location → List Step → Except SystemError Place}

/-- Following a name in a directory in which names may be looked up. -/
theorem follow_name (hl : t.isSearchable l) (hask : e = .writable → Step.askOnly cs = false) :
    t.follow e through l (.name n :: cs) =
      if nameLimit < n.length then .error .nameTooLong
      else match t.node? (n :: l) with
        | none => if cs.isEmpty then .ok (.free l n) else .error .noEntry
        | some (.link target) =>
          if cs.isEmpty && e = .itself then .ok (.found (n :: l) (.link target))
          else through l (target.steps ++ cs)
        | some _ => t.follow e through (n :: l) cs := by
  have hcheck : (e = .writable && Step.askOnly cs) = false := by
    simpa using hask
  rw [follow_name_eq, search_eq_ok_iff.2 hl, hcheck]
  rfl

/-- Following a name in a directory of a tree without links. -/
theorem follow_name_nil (hlink : t.LinkFree) (hl : t.isSearchable l) :
    t.follow e through l [.name n] =
      if nameLimit < n.length then .error .nameTooLong else .ok (t.placeAt l n) := by
  rw [follow_name hl (fun _ => rfl), placeAt]
  split
  · rfl
  · cases hnode : t.node? (n :: l) with
    | none => rfl
    | some node =>
      cases node with
      | link target => exact absurd hnode (hlink _ _)
      | file content mode => simp [follow, hnode]
      | directory mode => simp [follow, hnode]

/-- Steps that enter a directory are followed to it. -/
theorem follow_append (hask : e = .writable → Step.askOnly cs = false) :
    ∀ {S : List Step} {l : Location}, t.enter l S = some d →
      t.follow e through l (S ++ cs) = t.follow e through d cs
  | [], l, h => by
    rw [enter] at h
    split at h
    · obtain rfl := Option.some.inj h
      rfl
    · cases h
  | .here :: S, l, h | .up :: S, l, h => by
    rw [enter] at h
    split at h
    · next hl =>
      rw [List.cons_append, follow, search_eq_ok_iff.2 hl]
      exact follow_append hask h
    · cases h
  | .name n :: S, l, h => by
    rw [enter] at h
    split at h
    · next hl =>
      obtain ⟨hl, hlong⟩ := Bool.and_eq_true_iff.1 hl
      obtain ⟨mode, hnode⟩ := exists_node?_of_isSearchable (isSearchable_of_enter h)
      have hask' : e = .writable → Step.askOnly (S ++ cs) = false := by
        cases S with
        | nil => exact hask
        | cons s S =>
          cases s with
          | directory => cases h
          | _ => exact fun _ => rfl
      rw [List.cons_append, follow_name hl hask', if_neg (by simpa using hlong), hnode]
      exact follow_append hask h
    · cases h

/-- Names are looked up only in directories in which they may be. -/
theorem isSearchable_of_search_bind {α : Type} {f : Unit → Except SystemError α} {a : α}
    (h : t.search l >>= f = .ok a) : t.isSearchable l ∧ f () = .ok a := by
  cases hsearch : t.search l with
  | error err =>
    rw [hsearch] at h
    exact nomatch h
  | ok =>
    rw [hsearch] at h
    exact ⟨search_eq_ok_iff.1 hsearch, h⟩

theorem askOnly_append_name (n : Name) (cs : List Step) : ∀ S : List Step,
    Step.askOnly (S ++ .name n :: cs) = false
  | [] => rfl
  | [s] => by cases s <;> rfl
  | s :: _ :: _ => by cases s <;> rfl

/-- The steps to a name in a directory are followed only by entering the directory. -/
theorem exists_enter_of_follow (hlink : t.LinkFree) {place : Place} :
    ∀ {S : List Step} {l : Location}, (∀ s ∈ S, s.isInner) →
      t.follow e through l (S ++ .name n :: cs) = .ok place →
        ∃ d, t.enter l S = some d
  | [], l, _, h => by
    have hl : t.isSearchable l := (isSearchable_of_search_bind h).1
    exact ⟨l, by rw [enter, if_pos hl]⟩
  | .here :: S, l, hS, h | .up :: S, l, hS, h => by
    obtain ⟨hl, h⟩ := isSearchable_of_search_bind h
    obtain ⟨d, hd⟩ := exists_enter_of_follow hlink (fun s hs => hS s (List.mem_cons_of_mem _ hs)) h
    exact ⟨d, by rw [enter, if_pos hl, hd]⟩
  | .name m :: S, l, hS, h => by
    have hl : t.isSearchable l := (isSearchable_of_search_bind h).1
    rw [List.cons_append, follow_name hl fun _ => askOnly_append_name n cs S] at h
    split at h
    · exact nomatch h
    · next hlong =>
      have hfollow : t.follow e through (m :: l) (S ++ .name n :: cs) = .ok place := by
        cases hnode : t.node? (m :: l) with
        | none => simp [hnode] at h
        | some node =>
          cases node with
          | link target => exact absurd hnode (hlink _ _)
          | file content mode => simpa [hnode] using h
          | directory mode => simpa [hnode] using h
      obtain ⟨d, hd⟩ :=
        exists_enter_of_follow hlink (fun s hs => hS s (List.mem_cons_of_mem _ hs)) hfollow
      exact ⟨d, by rw [enter, if_pos (by simpa [hl] using hlong), hd]⟩
  | .root :: S, l, hS, h | .directory :: S, l, hS, h => Bool.noConfusion (hS _ List.mem_cons_self)

/-- A path leads to a name in a directory. -/
def LeadsTo (t : FileTree) (p : Path) (d : Location) (n : Name) : Prop :=
  ∃ S, p.steps = S ++ [.name n] ∧ t.enterFrom S = some d

theorem LeadsTo.isSearchable (h : t.LeadsTo p d n) : t.isSearchable d := by
  obtain ⟨S, -, henter⟩ := h
  unfold enterFrom at henter
  split at henter <;> exact isSearchable_of_enter_eq henter

theorem resolve_eq : t.resolve e p =
    (do usable p; t.follow e (t.followLinks e 39) t.current p.steps) := rfl

/-- Steps from the beginning of a path that enter a directory are followed to it. -/
theorem follow_append_of_enterFrom (hask : e = .writable → Step.askOnly cs = false)
    (h : t.enterFrom S = some d) :
    t.follow e through t.current (S ++ cs) = t.follow e through d cs := by
  unfold enterFrom at h
  split at h
  · rw [List.cons_append, follow]
    exact follow_append hask h
  · exact follow_append hask h

/-- The steps to a name are followed from the beginning of a path only by entering the directory. -/
theorem exists_enterFrom_of_follow (hlink : t.LinkFree) {way : List Step} {place : Place}
    (hway : ∃ S : List Step, (∀ s ∈ S, s.isInner) ∧ (way = S ∨ way = .root :: S))
    (h : t.follow e through t.current (way ++ .name n :: cs) = .ok place) :
    ∃ d, t.enterFrom way = some d := by
  obtain ⟨S, hS, rfl | rfl⟩ := hway
  · obtain ⟨d, hd⟩ := exists_enter_of_follow hlink hS h
    refine ⟨d, ?_⟩
    unfold enterFrom
    split
    · exact Bool.noConfusion (hS _ List.mem_cons_self)
    · exact hd
  · exact exists_enter_of_follow hlink hS h

/-- **Where a path leads that leads to a name in a directory.** -/
theorem LeadsTo.resolve_eq (h : t.LeadsTo p d n) (hlink : t.LinkFree) :
    t.resolve e p = (permit p n).map fun _ => t.placeAt d n := by
  have hname : t.follow e (t.followLinks e 39) d [.name n] =
      if nameLimit < n.length then .error .nameTooLong else .ok (t.placeAt d n) :=
    follow_name_nil hlink h.isSearchable
  obtain ⟨S, hsteps, henter⟩ := h
  rw [FileTree.resolve_eq, hsteps, follow_append_of_enterFrom (fun _ => rfl) henter, hname, permit]
  cases usable p with
  | error err => rfl
  | ok =>
    by_cases hlong : nameLimit < n.length
    · simp [hlong]
      rfl
    · simp [hlong]
      rfl

theorem exists_of_map_permit {α : Type} {f : Unit → α} {a : α} (h : (permit p n).map f = .ok a) :
    permit p n = .ok () ∧ f () = a := by
  cases hpermit : permit p n with
  | error err =>
    rw [hpermit] at h
    exact nomatch h
  | ok =>
    rw [hpermit] at h
    exact ⟨rfl, Except.ok.inj h⟩

/-- **A path that ends in a name and leads anywhere leads to this name in a directory.** -/
theorem exists_leadsTo_of_resolve (hlink : t.LinkFree) {way : List Step} {place : Place}
    (hway : ∃ S : List Step, (∀ s ∈ S, s.isInner) ∧ (way = S ∨ way = .root :: S))
    (hsteps : p.steps = way ++ [.name n]) (h : t.resolve e p = .ok place) :
    ∃ d, t.enterFrom way = some d ∧ t.LeadsTo p d n ∧ place = t.placeAt d n := by
  obtain ⟨d, hd⟩ : ∃ d, t.enterFrom way = some d := by
    rw [resolve_eq, hsteps] at h
    obtain ⟨_, -, hfollow⟩ := exists_of_bind_eq_ok h
    exact exists_enterFrom_of_follow hlink hway hfollow
  have hleads : t.LeadsTo p d n := ⟨way, hsteps, hd⟩
  rw [hleads.resolve_eq hlink] at h
  exact ⟨d, hd, hleads, (exists_of_map_permit h).2.symm⟩

/-- The location of the node that a path leads to, or of the one it makes if it is written to. -/
def location? (t : FileTree) (p : Path) : Option Location :=
  (t.resolve .followed p).toOption.map Place.location

theorem LeadsTo.location?_eq (h : t.LeadsTo p d n) (hlink : t.LinkFree) :
    t.location? p = if (permit p n).isOk then some (n :: d) else none := by
  rw [location?, h.resolve_eq hlink, placeAt]
  cases permit p n with
  | error err => rfl
  | ok => cases t.node? (n :: d) <;> rfl

theorem LeadsTo.location?_eq_some (h : t.LeadsTo p d n) (hlink : t.LinkFree)
    (hpermit : permit p n = .ok ()) : t.location? p = some (n :: d) := by
  rw [h.location?_eq hlink, hpermit]
  rfl

/-! ### Trees with the same directories -/

/-- Two trees have the same directories. -/
structure SameFrame (t t' : FileTree) : Prop where
  current : t'.current = t.current
  guarded : t'.guarded = t.guarded
  directory : ∀ l mode, t'.node? l = some (.directory mode) ↔ t.node? l = some (.directory mode)

namespace SameFrame

theorem refl (t : FileTree) : SameFrame t t := ⟨rfl, rfl, fun _ _ => Iff.rfl⟩

theorem symm (h : SameFrame t t') : SameFrame t' t :=
  ⟨h.current.symm, h.guarded.symm, fun l mode => (h.directory l mode).symm⟩

theorem trans (h : SameFrame t t') (h' : SameFrame t' u) : SameFrame t u :=
  ⟨h'.current.trans h.current, h'.guarded.trans h.guarded,
    fun l mode => (h'.directory l mode).trans (h.directory l mode)⟩

theorem permits_eq (h : SameFrame t t') (bit mode : Nat) :
    t'.permits bit mode = t.permits bit mode := by
  rw [permits, permits, h.guarded]

theorem isSearchable_eq (h : SameFrame t t') (l : Location) :
    t'.isSearchable l = t.isSearchable l := by
  have aux {t t' : FileTree} (h : SameFrame t t') (hl : t.isSearchable l) : t'.isSearchable l := by
    obtain ⟨mode, hnode⟩ := exists_node?_of_isSearchable hl
    rw [isSearchable, hnode] at hl
    rw [isSearchable, (h.directory l mode).2 hnode]
    simpa only [h.permits_eq] using hl
  exact Bool.eq_iff_iff.2 ⟨aux h.symm, aux h⟩

theorem enter_eq (h : SameFrame t t') : ∀ (S : List Step) (l : Location), t'.enter l S = t.enter l S
  | [], l => by rw [enter, enter, h.isSearchable_eq]
  | .here :: S, l | .up :: S, l | .name n :: S, l => by
    rw [enter, enter, h.isSearchable_eq, enter_eq h S]
  | .root :: S, l | .directory :: S, l => rfl

theorem enterFrom_eq (h : SameFrame t t') (S : List Step) : t'.enterFrom S = t.enterFrom S := by
  unfold enterFrom
  split
  · exact h.enter_eq _ _
  · rw [h.current, h.enter_eq]

theorem leadsTo (h : SameFrame t t') (hp : t.LeadsTo p d n) : t'.LeadsTo p d n := by
  obtain ⟨S, hsteps, henter⟩ := hp
  exact ⟨S, hsteps, by rw [h.enterFrom_eq, henter]⟩

theorem change_eq (h : SameFrame t t') (hl : t.isSearchable l) : t'.change l = t.change l := by
  obtain ⟨mode, hnode⟩ := exists_node?_of_isSearchable hl
  have hl' : t'.isSearchable l := by rw [h.isSearchable_eq, hl]
  rw [change, change, search_eq_ok_iff.2 hl, search_eq_ok_iff.2 hl', hnode,
    (h.directory l mode).2 hnode]
  simp only [h.permits_eq]

end SameFrame

/-- Steps go nowhere from a file, unless they begin at the root of everything. -/
theorem eq_nil_of_follow_file {content : ByteArray} {mode : Nat} {place : Place}
    (hnode : t.node? l = some (.file content mode)) (hS : ∀ s ∈ S, s ≠ .root)
    (h : t.follow e through l S = .ok place) : S = [] := by
  have hsearch : ¬ t.isSearchable l := by
    rw [isSearchable, hnode]
    exact Bool.false_ne_true
  cases S with
  | nil => rfl
  | cons s S =>
    cases s with
    | root => exact absurd rfl (hS _ List.mem_cons_self)
    | here | up | name n => exact absurd (isSearchable_of_search_bind h).1 hsearch
    | directory =>
      rw [follow, hnode] at h
      cases h

/-- Steps to a directory itself lead nowhere else. -/
theorem eq_of_follow_idle {node : Node} : ∀ {idle : List Step},
    (∀ s ∈ idle, s = .here ∨ s = .directory) → t.follow e through l idle = .ok (.found d node) →
      d = l ∧ t.node? l = some node
  | [], _, h => by
    rw [follow] at h
    split at h
    · next hnode =>
      obtain ⟨rfl, rfl⟩ := Place.found.inj (Except.ok.inj h)
      exact ⟨rfl, hnode⟩
    · cases h
  | s :: idle, hidle, h => by
    obtain ⟨rfl | rfl, hrest⟩ := List.forall_mem_cons.1 hidle
    · exact eq_of_follow_idle hrest (isSearchable_of_search_bind h).2
    · rw [follow] at h
      split at h
      · exact eq_of_follow_idle hrest h
      · cases h
      · cases h

/-- **A path that leads to a file** leads to its last name in a directory. -/
theorem exists_leadsTo_of_resolve_file (hlink : t.LinkFree) (he : e ≠ .writable)
    (hname : p.fileName? = some n) {content : ByteArray} {mode : Nat}
    (h : t.resolve e p = .ok (.found l (.file content mode))) : ∃ d, t.LeadsTo p d n := by
  obtain ⟨-, way, idle, hway, hhere⟩ := Path.exists_way_of_fileName? hname
  have hinner : ∃ S : List Step, (∀ s ∈ S, s.isInner) ∧ (way = S ∨ way = .root :: S) := by
    obtain ⟨S, hS, hp | hp⟩ := p.exists_way_eq
    · exact ⟨way, fun s hs => hS s (by rw [← hp, hway]; exact List.mem_append_left _ hs), .inl rfl⟩
    · rw [hway] at hp
      cases way with
      | nil => exact nomatch hp
      | cons s S' =>
        obtain ⟨rfl, rfl⟩ := List.cons.inj hp
        exact ⟨S', fun s hs => hS s (List.mem_append_left _ hs), .inr rfl⟩
  -- behind the name there are only steps to the directory itself, which a file is not
  obtain ⟨idle', hsteps, hidle⟩ : ∃ idle', p.steps = way ++ .name n :: idle' ∧
      ∀ s ∈ idle', s = .here ∨ s = .directory := by
    rcases p.steps_eq_way_or with hsteps | hsteps
    · exact ⟨idle, by rw [hsteps, hway], fun s hs => .inl (hhere s hs)⟩
    · exact ⟨idle ++ [.directory], by rw [hsteps, hway, List.append_assoc, List.cons_append],
        List.forall_mem_append.2 ⟨fun s hs => .inl (hhere s hs), by simp⟩⟩
  rw [resolve_eq, hsteps] at h
  obtain ⟨_, -, hfollow⟩ := exists_of_bind_eq_ok h
  obtain ⟨d, hd⟩ := exists_enterFrom_of_follow hlink hinner hfollow
  rw [follow_append_of_enterFrom (fun _ => rfl) hd] at hfollow
  suffices hnil : idle' = [] by exact ⟨d, way, by rw [hsteps, hnil], hd⟩
  rw [follow_name (isSearchable_of_search_bind hfollow).1 fun h => absurd h he] at hfollow
  split at hfollow
  · exact nomatch hfollow
  · cases hnode : t.node? (n :: d) with
    | none =>
      simp only [hnode] at hfollow
      split at hfollow <;> exact nomatch hfollow
    | some node =>
      cases node with
      | link target => exact absurd hnode (hlink _ _)
      | directory mode' =>
        rw [hnode] at hfollow
        obtain ⟨-, hsame⟩ := eq_of_follow_idle hidle hfollow
        exact nomatch hnode.symm.trans hsame
      | file content' mode' =>
        rw [hnode] at hfollow
        refine eq_nil_of_follow_file hnode (fun s hs => ?_) hfollow
        rcases hidle s hs with rfl | rfl <;> exact nofun

/-- Steps that lead to a directory lead to it in trees with the same directories. -/
theorem SameFrame.follow_directory (h : SameFrame t t') (hlink : t.LinkFree) {e' : Ending}
    (he : e ≠ .writable) (he' : e' ≠ .writable)
    {through' : Location → List Step → Except SystemError Place} {mode : Nat} :
    ∀ {S : List Step} {l : Location}, (∀ s ∈ S, s ≠ .root) →
      t.follow e through l S = .ok (.found d (.directory mode)) →
        t'.follow e' through' l S = .ok (.found d (.directory mode))
  | [], l, _, hfollow => by
    rw [follow] at hfollow ⊢
    cases hnode : t.node? l with
    | none =>
      rw [hnode] at hfollow
      cases hfollow
    | some node =>
      rw [hnode] at hfollow
      obtain ⟨rfl, rfl⟩ := Place.found.inj (Except.ok.inj hfollow)
      rw [(h.directory l mode).2 hnode]
  | .root :: S, l, hS, _ => absurd rfl (hS _ List.mem_cons_self)
  | .here :: S, l, hS, hfollow | .up :: S, l, hS, hfollow => by
    obtain ⟨hl, hfollow⟩ := isSearchable_of_search_bind hfollow
    rw [follow, search_eq_ok_iff.2 (by rwa [h.isSearchable_eq])]
    exact h.follow_directory hlink he he' (fun s hs => hS s (List.mem_cons_of_mem _ hs)) hfollow
  | .directory :: S, l, hS, hfollow => by
    rw [follow] at hfollow ⊢
    split at hfollow
    · next mode' hnode =>
      rw [(h.directory l mode').2 hnode]
      exact h.follow_directory hlink he he' (fun s hs => hS s (List.mem_cons_of_mem _ hs)) hfollow
    · cases hfollow
    · cases hfollow
  | .name n :: S, l, hS, hfollow => by
    have hl : t.isSearchable l := (isSearchable_of_search_bind hfollow).1
    have hrest : ∀ s ∈ S, s ≠ .root := fun s hs => hS s (List.mem_cons_of_mem _ hs)
    rw [follow_name hl fun h => absurd h he] at hfollow
    rw [follow_name (by rwa [h.isSearchable_eq]) fun h => absurd h he']
    split at hfollow
    · cases hfollow
    · next hlong =>
      rw [if_neg hlong]
      cases hnode : t.node? (n :: l) with
      | none =>
        simp only [hnode] at hfollow
        split at hfollow <;> cases hfollow
      | some node =>
        cases node with
        | link target => exact absurd hnode (hlink _ _)
        | directory mode' =>
          rw [hnode] at hfollow
          rw [(h.directory _ mode').2 hnode]
          exact h.follow_directory hlink he he' hrest hfollow
        | file content mode' =>
          rw [hnode] at hfollow
          have hnil : S = [] := eq_nil_of_follow_file hnode hrest hfollow
          subst hnil
          simp [follow, hnode] at hfollow

/-- **A path that leads to a directory** leads to it in trees with the same directories. -/
theorem SameFrame.resolve_directory (h : SameFrame t t') (hlink : t.LinkFree) {e' : Ending}
    (he : e ≠ .writable) (he' : e' ≠ .writable) {mode : Nat}
    (hresolve : t.resolve e p = .ok (.found d (.directory mode))) :
    t'.resolve e' p = .ok (.found d (.directory mode)) := by
  have hinner : ∃ S : List Step, (∀ s ∈ S, s ≠ .root) ∧ (p.steps = S ∨ p.steps = .root :: S) := by
    have hroot {S : List Step} (hS : ∀ s ∈ S, s.isInner) : ∀ s ∈ S, s ≠ .root := by
      rintro s hs rfl
      exact Bool.noConfusion (hS _ hs)
    have hask {S : List Step} (hS : ∀ s ∈ S, s.isInner) : ∀ s ∈ S ++ [.directory], s ≠ .root :=
      List.forall_mem_append.2 ⟨hroot hS, by simp⟩
    obtain ⟨S, hS, hway | hway⟩ := p.exists_way_eq <;> rcases p.steps_eq_way_or with hsteps | hsteps
    · exact ⟨S, hroot hS, .inl (by rw [hsteps, hway])⟩
    · exact ⟨_, hask hS, .inl (by rw [hsteps, hway])⟩
    · exact ⟨S, hroot hS, .inr (by rw [hsteps, hway])⟩
    · exact ⟨_, hask hS, .inr (by rw [hsteps, hway, List.cons_append])⟩
  rw [FileTree.resolve_eq] at hresolve ⊢
  rw [h.current]
  obtain ⟨_, husable, hfollow⟩ := exists_of_bind_eq_ok hresolve
  rw [husable]
  obtain ⟨S, hS, hsteps | hsteps⟩ := hinner
  · rw [hsteps] at hfollow ⊢
    exact h.follow_directory hlink he he' hS hfollow
  · rw [hsteps] at hfollow ⊢
    exact h.follow_directory (S := S) hlink he he' hS hfollow

/-- Two trees have the same directories and the same nodes at some locations. -/
structure Alike (ls : List Location) (t t' : FileTree) : Prop extends SameFrame t t' where
  node? : ∀ l ∈ ls, t'.node? l = t.node? l

/-- A tree has the directories of an earlier one and differs from it at some locations only. -/
structure Keeps (ls : List Location) (t t' : FileTree) : Prop extends SameFrame t t' where
  linkFree : t.LinkFree → t'.LinkFree
  node? : ∀ l ∉ ls, t'.node? l = t.node? l

namespace Keeps

variable {ls ls' : List Location}

theorem refl (ls : List Location) (t : FileTree) : Keeps ls t t :=
  ⟨.refl t, id, fun _ _ => rfl⟩

theorem trans (h : Keeps ls t t') (h' : Keeps ls' t' u) : Keeps (ls ++ ls') t u where
  toSameFrame := h.toSameFrame.trans h'.toSameFrame
  linkFree := h'.linkFree ∘ h.linkFree
  node? l hl := by
    rw [List.mem_append, not_or] at hl
    rw [h'.node? l hl.2, h.node? l hl.1]

theorem mono (h : Keeps ls t t') (hsub : ls ⊆ ls') : Keeps ls' t t' :=
  ⟨h.toSameFrame, h.linkFree, fun l hl => h.node? l fun hmem => hl (hsub hmem)⟩

end Keeps

/-- **Putting a file where no directory is** changes no directory and nothing elsewhere. -/
theorem keeps_put {l : Location} (h : ∀ mode, t.node? l ≠ some (.directory mode))
    (content : ByteArray) (mode : Nat) : Keeps [l] t (t.put l (.file content mode)) where
  current := rfl
  guarded := rfl
  directory m mode' := by
    rw [node?_put]
    split
    · next hm =>
      subst hm
      simp [h mode']
    · rfl
  linkFree hlink m target := by
    rw [node?_put]
    split
    · simp
    · exact hlink m target
  node? m hm := by
    rw [node?_put, if_neg (by simpa using hm)]

/-! ### Reading and writing -/

/-- The mode of a file after it is written under a name in a directory, by a path. -/
def modeFor (t : FileTree) (p : Path) (d : Location) (n : Name) : Except SystemError Nat := do
  permit p n
  match t.node? (n :: d) with
  | some (.file _ mode) => if t.permits writeBit mode then return mode else throw .accessDenied
  | some (.directory _) => throw .isDirectory
  | some (.link _) => throw .linkLoop
  | none => do
    t.change d
    return newFileMode

/-- The node that a path leads to. -/
theorem LeadsTo.stat_eq (h : t.LeadsTo p d n) (hlink : t.LinkFree) :
    t.stat p = (do permit p n
                   match t.node? (n :: d) with
                   | some node => return node
                   | none => throw .noEntry) := by
  rw [stat, statWith, h.resolve_eq hlink, placeAt]
  cases permit p n with
  | error err => rfl
  | ok => cases t.node? (n :: d) <;> rfl

/-- **What writing to a path makes of the tree.** -/
theorem LeadsTo.write_eq (h : t.LeadsTo p d n) (hlink : t.LinkFree) (content : ByteArray) :
    t.write p content = (t.modeFor p d n).map fun mode => t.put (n :: d) (.file content mode) := by
  rw [write, h.resolve_eq hlink, modeFor, placeAt]
  cases permit p n with
  | error err => rfl
  | ok =>
    cases hnode : t.node? (n :: d) with
    | none =>
      change (t.change d >>= fun _ => _) = Except.map _ (t.change d >>= fun _ => _)
      cases t.change d <;> rfl
    | some node =>
      cases node with
      | file old mode =>
        change (if _ then _ else _) = Except.map _ (if _ then _ else _)
        split <;> rfl
      | directory mode => rfl
      | link target => rfl

theorem permit_of_modeFor {mode : Nat} (h : t.modeFor p d n = .ok mode) : permit p n = .ok () := by
  cases hpermit : permit p n with
  | error err =>
    rw [modeFor, hpermit] at h
    exact nomatch h
  | ok => rfl

theorem not_directory_of_modeFor {mode : Nat} (h : t.modeFor p d n = .ok mode) (mode' : Nat) :
    t.node? (n :: d) ≠ some (.directory mode') := by
  intro hnode
  have hpermit := permit_of_modeFor h
  rw [modeFor, hnode, hpermit] at h
  exact nomatch h

namespace Alike

variable {ls : List Location}

theorem stat_eq (h : Alike ls t t') (hp : t.LeadsTo p d n)
    (hmem : permit p n = .ok () → n :: d ∈ ls)
    (hlink : t.LinkFree) (hlink' : t'.LinkFree) : t'.stat p = t.stat p := by
  rw [hp.stat_eq hlink, (h.toSameFrame.leadsTo hp).stat_eq hlink']
  cases hpermit : permit p n with
  | error err => rfl
  | ok => rw [h.node? _ (hmem hpermit)]

theorem modeFor_eq (h : Alike ls t t') (hd : t.isSearchable d)
    (hmem : permit p n = .ok () → n :: d ∈ ls) : t'.modeFor p d n = t.modeFor p d n := by
  rw [modeFor, modeFor, h.toSameFrame.change_eq hd]
  simp only [h.toSameFrame.permits_eq]
  cases hpermit : permit p n with
  | error err => rfl
  | ok => rw [h.node? _ (hmem hpermit)]

theorem read_eq (h : Alike ls t t') (hp : t.LeadsTo p d n)
    (hmem : permit p n = .ok () → n :: d ∈ ls)
    (hlink : t.LinkFree) (hlink' : t'.LinkFree) : t'.read p = t.read p := by
  rw [read, read, h.stat_eq hp hmem hlink hlink']
  simp only [h.toSameFrame.permits_eq]

/-- The same node put into both trees. -/
theorem put (h : Alike ls t t') (l : Location) (node : Node) :
    Alike ls (t.put l node) (t'.put l node) where
  current := h.current
  guarded := h.guarded
  directory m mode := by
    rw [node?_put, node?_put]
    split
    · rfl
    · exact h.directory m mode
  node? m hm := by
    rw [node?_put, node?_put]
    split
    · rfl
    · exact h.node? m hm

end Alike

end FileTree

end Restyle
