import Restyle.Proofs.FileTree.Route

/-!
# Paths through links

A path that leads to a directory, through however many links, may be continued by a name: what
stands under the name is looked up in the directory that the path has led to. A path that is not
followed through a link at its end leads to the same node as the one that is, or to the link.

## Main results

* `Restyle.FileTree.Route.exists_append` — routes that go on.
* `Restyle.FileTree.exists_route_child` — where a name in a directory is looked up.
* `Restyle.FileTree.resolve_itself_of_resolve` — paths that are not followed through the last link.
-/

namespace Restyle

namespace FileTree

variable {t : FileTree} {l l' : Location} {n : Name} {p dir : Path} {e e' : Ending}
  {cs S : List Step} {node : Node} {place : Place} {k : Nat}

/-- Which names may be looked up depends on what is behind them for writing only. -/
theorem Admits.of_ne {cs' : List Step} (h : t.Admits e l n cs) (he : e' ≠ .writable) :
    t.Admits e' l n cs' :=
  ⟨h.isSearchable, h.length_le, fun h => absurd h he⟩

/-! ### Routes that go on -/

namespace Route

theorem root_iff : t.Route e k l (.root :: cs) place ↔ t.Route e k [] cs place := by
  refine ⟨fun h => ?_, .root⟩
  cases h with
  | root later => exact later

theorem here_iff (hl : t.isSearchable l) :
    t.Route e k l (.here :: cs) place ↔ t.Route e k l cs place := by
  refine ⟨fun h => ?_, .here hl⟩
  cases h with
  | here _ later => exact later

theorem up_iff (hl : t.isSearchable l) :
    t.Route e k l (.up :: cs) place ↔ t.Route e k l.tail cs place := by
  refine ⟨fun h => ?_, .up hl⟩
  cases h with
  | up _ later => exact later

theorem directory_iff {mode : Nat} (hnode : t.node? l = some (.directory mode)) :
    t.Route e k l (.directory :: cs) place ↔ t.Route e k l cs place := by
  refine ⟨fun h => ?_, .directory hnode⟩
  cases h with
  | directory _ later => exact later

/-- A name of a file or directory is entered. -/
theorem enter_iff (hname : t.Admits e l n cs) (hnode : t.node? (n :: l) = some node)
    (hkind : node.kind ≠ .link) :
    t.Route e k l (.name n :: cs) place ↔ t.Route e k (n :: l) cs place := by
  refine ⟨fun h => ?_, .enter hname hnode hkind⟩
  cases h with
  | free _ hfree => simp [hfree] at hnode
  | enter _ _ _ later => exact later
  | through _ hlink | link _ hlink =>
    obtain rfl := Option.some.inj (hlink.symm.trans hnode)
    exact absurd rfl hkind

/-- A link is gone through, unless it is the end and not followed. -/
theorem through_iff {target : Path} (hname : t.Admits e l n cs)
    (hnode : t.node? (n :: l) = some (.link target)) (hend : cs = [] → e ≠ .itself) :
    t.Route e (k + 1) l (.name n :: cs) place ↔ t.Route e k l (target.steps ++ cs) place := by
  refine ⟨fun h => ?_, .through hname hnode hend⟩
  cases h with
  | free _ hfree => simp [hfree] at hnode
  | enter _ hnode' hkind =>
    obtain rfl := Option.some.inj (hnode'.symm.trans hnode)
    exact absurd rfl hkind
  | through _ hlink _ later =>
    obtain rfl := Node.link.inj (Option.some.inj (hlink.symm.trans hnode))
    exact later
  | link _ _ he => exact absurd he (hend rfl)

/-- **Routes that go on.** The steps after those that lead to a node are followed from the node. -/
theorem exists_append (h : t.Route .followed k l S (.found l' node)) :
    ∃ j, ∀ e ≠ .writable, ∀ cs ≠ [], ∀ place,
      t.Route e k l (S ++ cs) place ↔ t.Route e j l' cs place := by
  generalize hplace : Place.found l' node = reached at h
  induction h with
  | @stop k =>
    obtain ⟨rfl, -⟩ := Place.found.inj hplace
    exact ⟨k, fun e he cs hcs place => Iff.rfl⟩
  | free => cases hplace
  | link _ _ he => cases he
  | root _ ih =>
    obtain ⟨j, hj⟩ := ih hplace
    exact ⟨j, fun e he cs hcs place => root_iff.trans (hj e he cs hcs place)⟩
  | here hl _ ih =>
    obtain ⟨j, hj⟩ := ih hplace
    exact ⟨j, fun e he cs hcs place => (here_iff hl).trans (hj e he cs hcs place)⟩
  | up hl _ ih =>
    obtain ⟨j, hj⟩ := ih hplace
    exact ⟨j, fun e he cs hcs place => (up_iff hl).trans (hj e he cs hcs place)⟩
  | directory hnode _ ih =>
    obtain ⟨j, hj⟩ := ih hplace
    exact ⟨j, fun e he cs hcs place => (directory_iff hnode).trans (hj e he cs hcs place)⟩
  | enter hname hnode hkind _ ih =>
    obtain ⟨j, hj⟩ := ih hplace
    exact ⟨j, fun e he cs hcs place =>
      (enter_iff (hname.of_ne he) hnode hkind).trans (hj e he cs hcs place)⟩
  | @through _ _ _ S' _ _ hname hnode _ _ ih =>
    obtain ⟨j, hj⟩ := ih hplace
    refine ⟨j, fun e he cs hcs place => ?_⟩
    have hend : S' ++ cs = [] → e ≠ .itself := fun h => absurd (List.append_eq_nil_iff.1 h).2 hcs
    rw [List.cons_append, through_iff (hname.of_ne he) hnode hend, ← List.append_assoc]
    exact hj e he cs hcs place

/-- Steps that end by asking for a directory lead nowhere else than without asking. -/
theorem of_concat_directory (h : t.Route .followed k l (S ++ [.directory]) place) :
    t.Route .followed k l S place := by
  -- only the last step is taken away, so a step before it is the first one of the rest
  have split {s : Step} {cs S : List Step} (hsteps : s :: cs = S ++ [.directory]) :
      S = [] ∧ s = .directory ∧ cs = [] ∨ ∃ S', S = s :: S' ∧ cs = S' ++ [.directory] := by
    rcases List.cons_eq_append_iff.1 hsteps with ⟨rfl, hlast⟩ | ⟨S', rfl, rfl⟩
    · obtain ⟨rfl, rfl⟩ := List.cons.inj hlast
      exact .inl ⟨rfl, rfl, rfl⟩
    · exact .inr ⟨S', rfl, rfl⟩
  generalize hsteps : S ++ [.directory] = steps at h
  induction h generalizing S with
  | stop => simp at hsteps
  | root _ ih =>
    rcases split hsteps.symm with ⟨-, hs, -⟩ | ⟨S', rfl, hcs⟩
    · cases hs
    · exact .root (ih hcs.symm)
  | here hl _ ih =>
    rcases split hsteps.symm with ⟨-, hs, -⟩ | ⟨S', rfl, hcs⟩
    · cases hs
    · exact .here hl (ih hcs.symm)
  | up hl _ ih =>
    rcases split hsteps.symm with ⟨-, hs, -⟩ | ⟨S', rfl, hcs⟩
    · cases hs
    · exact .up hl (ih hcs.symm)
  | directory hnode later ih =>
    rcases split hsteps.symm with ⟨rfl, -, rfl⟩ | ⟨S', rfl, hcs⟩
    · exact later
    · exact .directory hnode (ih hcs.symm)
  | free | link =>
    rcases split hsteps.symm with ⟨-, hs, -⟩ | ⟨S', -, hcs⟩
    · cases hs
    · simp at hcs
  | enter hname hnode hkind _ ih =>
    rcases split hsteps.symm with ⟨-, hs, -⟩ | ⟨S', rfl, hcs⟩
    · cases hs
    · exact .enter (hname.of_ne (by decide)) hnode hkind (ih hcs.symm)
  | through hname hnode _ _ ih =>
    rcases split hsteps.symm with ⟨-, hs, -⟩ | ⟨S', rfl, rfl⟩
    · cases hs
    · exact .through (hname.of_ne (by decide)) hnode (by simp) (ih (List.append_assoc ..))

end Route

/-! ### Names in a directory -/

/-- **Where a name in a directory is looked up**, the directory being one that a path leads to. -/
theorem exists_route_child (hbytes : dir.bytes ≠ []) (hn : n.IsProper)
    (h : t.resolve .followed dir = .ok (.found l node)) :
    ∃ j, ∀ e ≠ .writable, ∀ place, t.resolve e (dir.child n) = .ok place ↔
      usable (dir.child n) = .ok () ∧ t.Route e j l [.name n] place := by
  have hway : t.Route .followed linkLimit t.current dir.way (.found l node) := by
    have hroute := (resolve_eq_ok_iff.1 h).2
    rcases dir.steps_eq_way_or with hsteps | hsteps
    · rwa [hsteps] at hroute
    · rw [hsteps] at hroute
      exact hroute.of_concat_directory
  obtain ⟨j, hj⟩ := hway.exists_append
  refine ⟨j, fun e he place => ?_⟩
  rw [resolve_eq_ok_iff, Path.steps_child hbytes hn, hj e he _ (by simp)]

/-- Where the path of a name in a directory leads, if it leads anywhere. -/
theorem resolve_child (hbytes : dir.bytes ≠ []) (hn : n.IsProper)
    (hdir : t.resolve .followed dir = .ok (.found l node)) (he : e ≠ .writable)
    (h : t.resolve e (dir.child n) = .ok place) :
    (t.node? (n :: l) = none ∧ place = .free l n) ∨
      (∃ target, t.node? (n :: l) = some (.link target) ∧
        (e = .itself → place = .found (n :: l) (.link target))) ∨
      ∃ node, t.node? (n :: l) = some node ∧ node.kind ≠ .link ∧
        ∀ e' ≠ .writable, t.resolve e' (dir.child n) = .ok (.found (n :: l) node) := by
  obtain ⟨j, hj⟩ := exists_route_child hbytes hn hdir
  obtain ⟨husable, hroute⟩ := (hj e he place).1 h
  cases hroute with
  | free _ hnode => exact .inl ⟨hnode, rfl⟩
  | link _ hnode => exact .inr (.inl ⟨_, hnode, fun _ => rfl⟩)
  | through _ hnode hend => exact .inr (.inl ⟨_, hnode, fun he => absurd he (hend rfl)⟩)
  | enter hname hnode hkind =>
    refine .inr (.inr ⟨_, hnode, hkind, fun e' he' => (hj e' he' _).2 ⟨husable, ?_⟩⟩)
    exact .enter (hname.of_ne he') hnode hkind (.stop hnode)

/-! ### Links at the end -/

/-- Steps that are not followed through a link at their end lead where they lead otherwise, or to
the link. -/
theorem Route.exists_itself (h : t.Route .followed k l S place) :
    ∃ reached, t.Route .itself k l S reached ∧
      (reached = place ∨ ∃ m target, reached = .found m (.link target)) := by
  have hne : Ending.itself ≠ .writable := by decide
  induction h with
  | stop hnode => exact ⟨_, .stop hnode, .inl rfl⟩
  | free hname hnode => exact ⟨_, .free (hname.of_ne hne) hnode, .inl rfl⟩
  | link _ _ he => cases he
  | root _ ih =>
    obtain ⟨reached, hroute, hreached⟩ := ih
    exact ⟨reached, .root hroute, hreached⟩
  | here hl _ ih =>
    obtain ⟨reached, hroute, hreached⟩ := ih
    exact ⟨reached, .here hl hroute, hreached⟩
  | up hl _ ih =>
    obtain ⟨reached, hroute, hreached⟩ := ih
    exact ⟨reached, .up hl hroute, hreached⟩
  | directory hnode _ ih =>
    obtain ⟨reached, hroute, hreached⟩ := ih
    exact ⟨reached, .directory hnode hroute, hreached⟩
  | enter hname hnode hkind _ ih =>
    obtain ⟨reached, hroute, hreached⟩ := ih
    exact ⟨reached, .enter (hname.of_ne hne) hnode hkind hroute, hreached⟩
  | @through _ _ _ S _ target hname hnode _ _ ih =>
    obtain ⟨reached, hroute, hreached⟩ := ih
    by_cases hS : S = []
    · subst hS
      exact ⟨_, .link (hname.of_ne hne) hnode rfl, .inr ⟨_, target, rfl⟩⟩
    · exact ⟨reached, .through (hname.of_ne hne) hnode (fun h => absurd h hS) hroute, hreached⟩

/-- **Paths that are not followed through the last link** lead where they lead otherwise, or to the
link. -/
theorem resolve_itself_of_resolve (h : t.resolve .followed p = .ok place) :
    t.resolve .itself p = .ok place ∨
      ∃ m target, t.resolve .itself p = .ok (.found m (.link target)) := by
  obtain ⟨husable, hroute⟩ := resolve_eq_ok_iff.1 h
  obtain ⟨reached, hroute', rfl | ⟨m, target, rfl⟩⟩ := hroute.exists_itself
  · exact .inl (resolve_eq_ok_iff.2 ⟨husable, hroute'⟩)
  · exact .inr ⟨m, target, resolve_eq_ok_iff.2 ⟨husable, hroute'⟩⟩

end FileTree

end Restyle
