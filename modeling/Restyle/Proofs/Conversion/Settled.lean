import Restyle.Proofs.Conversion.Writing

/-!
# Files that are settled

A file is *settled* if it can be read and the rules change nothing in its text. With rules that
change nothing when they are applied again, a conversion fails exactly if it does not leave the file
settled. After it, under whichever path, the next conversion of the file has nothing to write:
either the file is settled, or what stood in the way of its new text still does.

## Main definitions

* `Restyle.RuleSet.Settles` — the file at a location is settled.
* `Restyle.RuleSet.IsIdle` — the conversion of a file writes nothing.

## Main results

* `Restyle.RuleSet.isError_convert_iff` — which conversions fail.
* `Restyle.RuleSet.isIdle_convert` — a conversion leaves nothing to write.
* `Restyle.RuleSet.settles_convert_iff` — which conversions do not settle a file.
-/

namespace Restyle

open FileTree

variable {rs : RuleSet} {t u v : FileTree} {p q b b' : Path} {d d' l : Location} {n n' m : Name}
  {o o' : Except ConversionError Bool} {ws ws' : List (Path × String)}

/-- The file at a location can be read, and the rules change nothing in its text. -/
def RuleSet.Settles (rs : RuleSet) (t : FileTree) (l : Location) : Prop :=
  ∃ text, t.textAt? l = some text ∧ rs.apply text = text

/-- The conversion of a file writes nothing. -/
def RuleSet.IsIdle (rs : RuleSet) (t : FileTree) (p : Path) : Prop := (rs.convert t p).writes = []

theorem ConversionResult.isError_of_iff : (of p o).isError ↔ ∃ e, o = .error e := by
  cases o <;> simp [of, done, failed, isError]

namespace FileTree

/-- A path may be used or not as another one for the same name. -/
theorem permit_eq_ok_of_usable (hb : usable b = .ok ()) (h : permit b' n = .ok ()) :
    permit b n = .ok () := by
  obtain ⟨_, -, hlong⟩ := exists_of_bind_eq_ok h
  rw [permit, hb]
  exact hlong

end FileTree

namespace BackedUp

variable {old : String}

theorem node?_eq (h : BackedUp t b d m old ws u) (hne : l ≠ m :: d) : u.node? l = t.node? l := by
  cases h with
  | kept => rfl
  | made => rw [node?_put, if_neg hne]

theorem guarded_eq (h : BackedUp t b d m old ws u) : u.guarded = t.guarded := by
  cases h <;> rfl

end BackedUp

/-! ### What a treatment leaves -/

namespace Treatment

/-- **Which treatments fail**: those that do not leave the file settled. -/
theorem exists_error_iff (h : Treatment rs t p b d n m o ws u)
    (hrules : ∀ text, rs.apply (rs.apply text) = rs.apply text) (hne : n :: d ≠ m :: d) :
    (∃ e, o = .error e) ↔ ¬ rs.Settles u (n :: d) := by
  have hunsettled {v : FileTree} {old : String} (htext : v.textAt? (n :: d) = some old)
      (hnew : rs.apply old ≠ old) : ¬ rs.Settles v (n :: d) := by
    rintro ⟨text, htext', hsame⟩
    obtain rfl := Option.some.inj (htext.symm.trans htext')
    exact hnew hsame
  cases h with
  | unread htext =>
    refine iff_of_true ⟨_, rfl⟩ ?_
    rintro ⟨text, htext', -⟩
    exact nomatch htext.symm.trans htext'
  | same htext hsame => exact iff_of_false nofun (not_not.2 ⟨_, htext, hsame⟩)
  | unsaved htext hnew => exact iff_of_true ⟨_, rfl⟩ (hunsettled htext hnew)
  | unwritten htext hnew _ hsave =>
    refine iff_of_true ⟨_, rfl⟩ (hunsettled ?_ hnew)
    rw [textAt?_congr hsave.guarded_eq (hsave.node?_eq hne), htext]
  | done htext hnew _ hsave hnode =>
    obtain ⟨mode, hnode', hread⟩ := exists_of_textAt? htext
    obtain ⟨-, rfl⟩ := Node.file.inj (Option.some.inj (hnode.symm.trans hnode'))
    refine iff_of_false nofun (not_not.2 ⟨_, textAt?_put ?_, hrules _⟩)
    rwa [permits, hsave.guarded_eq]

/-- A treatment that writes nothing leaves the tree as it is. -/
theorem of_nil (h : Treatment rs t p b d n m o [] u) : u = t ∧ o ≠ .ok true := by
  generalize hws : ([] : List (Path × String)) = ws at h
  cases h with
  | unread | same | unsaved => exact ⟨rfl, nofun⟩
  | unwritten _ _ _ hsave =>
    cases hsave with
    | kept => exact ⟨rfl, nofun⟩
    | made => exact nomatch hws
  | done => exact absurd hws.symm (by simp)

/-- There is nothing to write for a file that is settled. -/
theorem eq_nil_of_settles (h : Treatment rs t p b d n m o ws u) (hsettles : rs.Settles t (n :: d)) :
    ws = [] := by
  obtain ⟨text, htext, hsame⟩ := hsettles
  cases h with
  | unread | same | unsaved => rfl
  | unwritten htext' hnew | done htext' hnew =>
    obtain rfl := Option.some.inj (htext.symm.trans htext')
    exact absurd hsame hnew

/-- There is nothing to write for a file whose backup has a path that may not be used. -/
theorem eq_nil_of_permit (h : Treatment rs t p b d n m o ws u) (hb : permit b m ≠ .ok ()) :
    ws = [] := by
  cases h with
  | unread | same | unsaved => rfl
  | unwritten _ _ hpermit | done _ _ hpermit => exact absurd hpermit hb

/-- **After a treatment that writes something** there is nothing to write for the file. -/
theorem eq_nil_after (h : Treatment rs t q b' d n m o ws u) (hws : ws ≠ [])
    (hrules : ∀ text, rs.apply (rs.apply text) = rs.apply text) (hne : n :: d ≠ m :: d)
    (hafter : Treatment rs u p b d n m o' ws' v) : ws' = [] := by
  cases h with
  | unread | same | unsaved => exact absurd rfl hws
  | @unwritten old mode _ _ _ htext hnew hpermit hsave hnode hmode =>
    cases hsave with
    | kept => exact absurd rfl hws
    | made hfree hchange =>
      cases hafter with
      | unread | same | unsaved => rfl
      | unwritten _ _ _ hsave' =>
        cases hsave' with
        | kept => rfl
        | made hfree' =>
          rw [node?_put, if_pos rfl] at hfree'
          exact nomatch hfree'
      | done _ _ _ _ hnode' hmode' =>
        rw [node?_put, if_neg hne, hnode] at hnode'
        obtain ⟨-, rfl⟩ := Node.file.inj (Option.some.inj hnode')
        exact absurd (hmode'.symm.trans hmode) nofun
  | done htext hnew hpermit hsave hnode hmode =>
    refine hafter.eq_nil_of_settles (not_not.1 fun hunsettled => ?_)
    obtain ⟨e, he⟩ :=
      ((Treatment.done (p := q) htext hnew hpermit hsave hnode hmode).exists_error_iff
      hrules hne).2 hunsettled
    exact nomatch he

/-- **A file for which there is nothing to write** under a path whose backup has a path that may be
used is not changed under another path either. -/
theorem node?_eq_of_nil (h : Treatment rs t p b d n m o [] v) (hb : usable b = .ok ())
    (hne : n :: d ≠ m :: d) (hother : Treatment rs t q b' d n m o' ws u) :
    u.node? (n :: d) = t.node? (n :: d) := by
  cases hother with
  | unread | same | unsaved => rfl
  | unwritten _ _ _ hsave => exact hsave.node?_eq hne
  | @done old mode _ _ htext hnew hpermit hsave hnode hmode =>
    -- if the file can be converted under the other path, it can under this one
    exfalso
    generalize hnil : ([] : List (Path × String)) = ws at h
    cases h with
    | unread htext' => exact nomatch htext.symm.trans htext'
    | same htext' hsame =>
      obtain rfl := Option.some.inj (htext.symm.trans htext')
      exact hnew hsame
    | unsaved _ _ hunsaved =>
      rcases hunsaved with hpermit' | ⟨hfree, hchange⟩
      · exact hpermit' (permit_eq_ok_of_usable hb hpermit)
      · cases hsave with
        | kept hnode' =>
          rw [hfree] at hnode'
          exact nomatch hnode'
        | made _ hchange' => exact hchange hchange'
    | unwritten _ _ _ _ hnode' hmode' =>
      obtain ⟨-, rfl⟩ := Node.file.inj (Option.some.inj (hnode.symm.trans hnode'))
      exact absurd (hmode.symm.trans hmode') nofun
    | done => exact absurd hnil.symm (by simp)

end Treatment

/-! ### What a conversion leaves -/

namespace RuleSet

/-- **Which conversions fail**: those that do not leave the file settled. -/
theorem isError_convert_iff (hrules : ∀ text, rs.apply (rs.apply text) = rs.apply text)
    (hp : t.FoundAt p d n) (hlink : t.LinkFree) :
    (rs.convert t p).result.isError ↔ ¬ rs.Settles (rs.convert t p).tree (n :: d) := by
  obtain ⟨b, m, -, hm, -, htreatment⟩ := rs.exists_treatment hp hlink
  rw [result_convert, ConversionResult.isError_of_iff]
  exact htreatment.exists_error_iff hrules (hp.ne_backup hm)

/-- A conversion that writes nothing leaves the tree as it is and reports no change. -/
theorem IsIdle.tree_eq (h : rs.IsIdle t p) (hp : t.FoundAt p d n) (hlink : t.LinkFree) :
    (rs.convert t p).tree = t ∧ (rs.convert t p).result.wasModified = false := by
  obtain ⟨b, m, -, -, -, htreatment⟩ := rs.exists_treatment hp hlink
  rw [h] at htreatment
  obtain ⟨htree, hchange⟩ := htreatment.of_nil
  refine ⟨htree, ?_⟩
  rw [result_convert]
  generalize (rs.edit t p).result = outcome at hchange ⊢
  cases outcome with
  | error => rfl
  | ok modified =>
    cases modified with
    | false => rfl
    | true => exact absurd rfl hchange

/-- **A conversion leaves nothing to write** for its file, nor for another one for which there was
nothing to write before. -/
theorem isIdle_convert (hrules : ∀ text, rs.apply (rs.apply text) = rs.apply text)
    (hp : t.FoundAt p d n) (hq : t.FoundAt q d' n') (hlink : t.LinkFree)
    (h : q = p ∨ rs.IsIdle t p) : rs.IsIdle (rs.convert t q).tree p := by
  by_cases hidle : rs.IsIdle t q
  · rw [(hidle.tree_eq hq hlink).1]
    rcases h with rfl | h
    · exact hidle
    · exact h
  · have hprogress := rs.progress_convert hq hlink
    have hp' := hp.of_preserves hprogress.preserves
    have hlink' := hprogress.preserves.linkFree hlink
    by_cases hsame : n' :: d' = n :: d
    · obtain ⟨rfl, rfl⟩ := List.cons.inj hsame
      obtain ⟨b', m, -, hm, -, htreatment⟩ := rs.exists_treatment hq hlink
      obtain ⟨b, m', -, hm', -, hafter⟩ := rs.exists_treatment hp' hlink'
      obtain rfl := Option.some.inj (hm.symm.trans hm')
      exact htreatment.eq_nil_after hidle hrules (hq.ne_backup hm) hafter
    · rcases h with rfl | h
      · refine absurd (Option.some.inj ?_) hsame
        rw [← hq.location?_eq hlink, ← hp.location?_eq hlink]
      · have hagrees := convert_agrees rs (alike_convert rs hp hq hlink hsame) hlink hlink'
          (hp.touches hlink)
        rw [IsIdle, Stage.writes, hagrees.trace]
        exact h

/-- **Which conversions do not settle a file**: those of other files, and those of a file for which
there is nothing to write under a path whose backup has a path that may be used. -/
theorem settles_convert_iff (hp : t.FoundAt p d n) (hq : t.FoundAt q d' n') (hlink : t.LinkFree)
    (h : n' :: d' ≠ n :: d ∨ rs.IsIdle t p ∧ ∀ b ∈ p.backup?, usable b = .ok ()) :
    rs.Settles (rs.convert t q).tree (n :: d) ↔ rs.Settles t (n :: d) := by
  have hguarded := (rs.progress_convert hq hlink).preserves.guarded
  have hnode : (rs.convert t q).tree.node? (n :: d) = t.node? (n :: d) := by
    by_cases hne : n' :: d' = n :: d
    · obtain ⟨hidle, hbackup⟩ := h.resolve_left (not_not.2 hne)
      obtain ⟨rfl, rfl⟩ := List.cons.inj hne
      obtain ⟨b, m, hb, hm, -, htreatment⟩ := rs.exists_treatment hp hlink
      obtain ⟨b', m', -, hm', -, hother⟩ := rs.exists_treatment hq hlink
      obtain rfl := Option.some.inj (hm.symm.trans hm')
      rw [hidle] at htreatment
      exact htreatment.node?_eq_of_nil (hbackup b hb) (hp.ne_backup hm) hother
    · exact (alike_convert rs hp hq hlink hne).node? _ (hp.mem_places hlink)
  rw [Settles, Settles, textAt?_congr hguarded hnode]

end RuleSet

end Restyle
