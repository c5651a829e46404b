import Restyle.Conversion.Run
import Restyle.Proofs.Conversion.Locality
import Restyle.Proofs.Conversion.Sources
import Restyle.Rule.Table

/-!
# Batches of conversions

The files that a search finds, and their backups, stand at different places: no backup is a source
file, and different source files have different backups. So in a tree without links the conversions
of these files do not meet. Each of them has the outcome that it has on the tree before all of them,
in whatever order they come, and a file that cannot be converted stands in the way of no other one.

## Main definitions

* `Restyle.RuleSet.Spares` — a file does not notice a change of the tree.

## Main results

* `Restyle.FileTree.FoundAt.disjoint_places` — different files have no place in common.
* `Restyle.RuleSet.spares_convert` — the conversion of one file spares the others.
* `Restyle.RuleSet.convertAll_spec` — a batch of conversions, in any order.
* `Restyle.RuleSet.convertDirectory_eq_alone` — the conversion of a directory.
-/

namespace Restyle

namespace FileTree

variable {t u v : FileTree} {l d d' : Location} {n n' : Name} {p q : Path} {ls : List Location}

theorem Alike.trans (h : Alike ls t u) (h' : Alike ls u v) : Alike ls t v :=
  ⟨h.toSameFrame.trans h'.toSameFrame, fun l hl => by rw [h'.node? l hl, h.node? l hl]⟩

/-- What changes at some locations only is the same at others. -/
theorem Keeps.alike {ms : List Location} (h : Keeps ls t u) (hms : ∀ l ∈ ms, l ∉ ls) :
    Alike ms t u :=
  ⟨h.toSameFrame, fun l hl => h.node? l (hms l hl)⟩

namespace FoundAt

theorem touches (h : t.FoundAt p d n) (hlink : t.LinkFree) : t.Touches p (t.places p) := by
  obtain ⟨b, m, hb, -, hleads⟩ := h.exists_backup
  refine touches_places hlink ⟨d, n, h.leadsTo⟩ fun b' hb' => ⟨d, m, ?_⟩
  obtain rfl := Option.some.inj (hb.symm.trans (Option.mem_def.1 hb'))
  exact hleads

theorem mem_places (h : t.FoundAt p d n) (hlink : t.LinkFree) : n :: d ∈ t.places p := by
  rw [places, h.location?_eq hlink]
  exact List.mem_append_left _ (List.mem_singleton_self _)

/-- The places of a source file: its own location and that of its backup. -/
theorem eq_or_of_mem_places (h : t.FoundAt p d n) (hlink : t.LinkFree) (hl : l ∈ t.places p) :
    l = n :: d ∨ ∃ m, n.backup? = some m ∧ l = m :: d := by
  obtain ⟨b, m, hb, hm, hleads⟩ := h.exists_backup
  rw [places, h.location?_eq hlink, hb, Option.bind_some, hleads.location?_eq hlink] at hl
  rcases List.mem_append.1 hl with hl | hl
  · exact .inl (List.mem_singleton.1 hl)
  · split at hl
    · exact .inr ⟨m, hm, List.mem_singleton.1 hl⟩
    · exact absurd hl List.not_mem_nil

/-- **Different files have no place in common.** -/
theorem disjoint_places (hp : t.FoundAt p d n) (hq : t.FoundAt q d' n') (hlink : t.LinkFree)
    (hne : t.location? p ≠ t.location? q) : ∀ l ∈ t.places p, l ∉ t.places q := by
  have hne : n :: d ≠ n' :: d' := by
    rwa [hp.location?_eq hlink, hq.location?_eq hlink, Ne, Option.some.injEq] at hne
  intro l hl hl'
  rcases hp.eq_or_of_mem_places hlink hl with rfl | ⟨m, hm, rfl⟩ <;>
    rcases hq.eq_or_of_mem_places hlink hl' with heq | ⟨m', hm', heq⟩
  · exact hne heq
  · rw [(List.cons.inj heq).1] at hp
    exact Name.not_isSource_of_backup? hm' hp.isSource
  · rw [← (List.cons.inj heq).1] at hq
    exact Name.not_isSource_of_backup? hm hq.isSource
  · obtain ⟨rfl, rfl⟩ := List.cons.inj heq
    rw [Name.backup?_inj hm hm'] at hne
    exact hne rfl

/-- A file and its backup keep their places as long as the directories stay. -/
theorem places_eq (h : t.FoundAt p d n) (hframe : SameFrame t u) (hlink : t.LinkFree)
    (hlink' : u.LinkFree) : u.places p = t.places p := by
  obtain ⟨b, m, hb, -, hleads⟩ := h.exists_backup
  rw [places, places, hb, Option.bind_some, Option.bind_some, h.leadsTo.location?_eq hlink,
    hleads.location?_eq hlink, (hframe.leadsTo h.leadsTo).location?_eq hlink',
    (hframe.leadsTo hleads).location?_eq hlink']

end FoundAt

end FileTree

open FileTree

namespace RuleSet

variable {t : FileTree} {p dir : Path}

/-! ### What is told -/

/-- Nothing is told or written by notes. -/
theorem filterMap_notes {β : Type} {f : Happening → Option β} (hf : ∀ n, f (.note n) = none)
    (notes : List Note) : (notes.map Happening.note).filterMap f = [] := by
  rw [List.filterMap_map]
  exact List.filterMap_eq_nil_iff.2 fun n _ => hf n

theorem events_writeNew (t : FileTree) (p : Path) (text : String) (before : List Happening) :
    (writeNew t p text before).events = before.filterMap Happening.event? := by
  rw [Stage.events, writeNew]
  split
  · rfl
  · rw [List.filterMap_append]
    exact List.append_nil _

theorem events_writeBoth (t : FileTree) (p : Path) (old new : String) (before : List Happening) :
    (writeBoth t p old new before).events = before.filterMap Happening.event? := by
  have hnone (hs : List Happening) (h : hs.filterMap Happening.event? = []) :
      (before ++ hs).filterMap Happening.event? = before.filterMap Happening.event? := by
    rw [List.filterMap_append, h, List.append_nil]
  rw [writeBoth]
  split
  · rw [events_writeNew]
    exact hnone _ rfl
  · split
    · exact events_writeNew t p new before
    · split
      · rfl
      · rw [events_writeNew]
        exact hnone _ rfl

/-- An observer is told that a file is visited, and then the outcome. -/
theorem events_convert (rs : RuleSet) (t : FileTree) (p : Path) :
    (rs.convert t p).events = [.visiting p, .finished (rs.convert t p).result] := by
  have hedit : (rs.edit t p).events = [] := by
    rw [edit]
    split
    · rfl
    · simp only
      split
      · rfl
      · rw [events_writeBoth, List.filterMap_map]
        exact List.filterMap_eq_nil_iff.2 fun _ _ => rfl
  rw [Stage.events] at hedit
  simp only [Stage.events, convert, List.filterMap_append, List.filterMap_cons, hedit]
  cases (rs.edit t p).result <;> rfl

/-! ### Batches -/

/-- A change of the tree spares a file if the file is found as before and its conversion does the
same. -/
structure Spares (rs : RuleSet) (t u : FileTree) (q : Path) : Prop where
  alike : Alike (t.places q) t u
  found : ∃ d n, u.FoundAt q d n
  places : u.places q = t.places q
  location? : u.location? q = t.location? q
  agrees : Stage.Agrees (t.places q) (rs.convert t q) (rs.convert u q)

/-- The conversion of one file does not touch another one. -/
theorem alike_convert (rs : RuleSet) {q : Path} {d d' : Location} {n n' : Name}
    (hp : t.FoundAt p d n) (hq : t.FoundAt q d' n') (hlink : t.LinkFree) (hne : n' :: d' ≠ n :: d) :
    Alike (t.places p) t (rs.convert t q).tree := by
  refine (rs.convert_keeps hlink (hq.touches hlink)).alike (hp.disjoint_places hq hlink ?_)
  rw [hp.location?_eq hlink, hq.location?_eq hlink]
  exact fun h => hne (Option.some.inj h).symm

/-- **The conversion of one file spares the others.** -/
theorem spares_convert (rs : RuleSet) {q : Path} (hp : ∃ d n, t.FoundAt p d n)
    (hq : ∃ d n, t.FoundAt q d n) (hlink : t.LinkFree) (hne : t.location? p ≠ t.location? q) :
    rs.Spares t (rs.convert t p).tree q := by
  obtain ⟨d, n, hp⟩ := hp
  obtain ⟨d', n', hq⟩ := hq
  have halike : Alike (t.places q) t (rs.convert t p).tree := rs.alike_convert hq hp hlink fun h =>
    hne (by rw [hp.location?_eq hlink, hq.location?_eq hlink, h])
  have hlink' := (convert_keeps rs hlink (hp.touches hlink)).linkFree hlink
  have hfound := hq.of_sameFrame halike.toSameFrame
    (by rw [halike.node? _ (hq.mem_places hlink)]; exact hq.exists_file)
  exact
    { alike := halike
      found := ⟨d', n', hfound⟩
      places := hq.places_eq halike.toSameFrame hlink hlink'
      location? := by rw [hfound.location?_eq hlink', hq.location?_eq hlink]
      agrees := convert_agrees rs halike hlink hlink' (hq.touches hlink) }

/-- **A batch of conversions** of different files. Each has the outcome and leaves at its places
what it does on the tree before all of them, and nothing else changes. -/
theorem convertAll_spec (rs : RuleSet) : ∀ {ps : List Path} {t : FileTree}, t.LinkFree →
    (∀ p ∈ ps, ∃ d n, t.FoundAt p d n) → (ps.Pairwise fun p q => t.location? p ≠ t.location? q) →
      (rs.convertAll t ps).result = ps.map (fun p => (rs.convert t p).result) ∧
        (rs.convertAll t ps).trace = ps.flatMap (fun p => (rs.convert t p).trace) ∧
        (∀ p ∈ ps, Alike (t.places p) (rs.convert t p).tree (rs.convertAll t ps).tree) ∧
        Keeps (ps.flatMap t.places) t (rs.convertAll t ps).tree
  | [], t, _, _, _ => ⟨rfl, rfl, by simp, .refl [] t⟩
  | p :: ps, t, hlink, hfound, hapart => by
    obtain ⟨hfirst, hapart⟩ := List.pairwise_cons.1 hapart
    obtain ⟨hp, hfound⟩ := List.forall_mem_cons.1 hfound
    have hspares q (hq : q ∈ ps) : rs.Spares t (rs.convert t p).tree q :=
      rs.spares_convert hp (hfound q hq) hlink (hfirst q hq)
    obtain ⟨d, n, hp⟩ := hp
    have hkeeps : Keeps (t.places p) t (rs.convert t p).tree :=
      convert_keeps rs hlink (hp.touches hlink)
    obtain ⟨hresult, htrace, halike, hlater⟩ := @convertAll_spec rs ps _ (hkeeps.linkFree hlink)
      (fun q hq => (hspares q hq).found)
      (hapart.imp_of_mem fun {a b} ha hb hne => by
        rwa [(hspares a ha).location?, (hspares b hb).location?])
    have hplaces : ps.flatMap (rs.convert t p).tree.places = ps.flatMap t.places :=
      List.flatMap_congr fun q hq => (hspares q hq).places
    rw [hplaces] at hlater
    refine ⟨?_, ?_, List.forall_mem_cons.2 ⟨hlater.alike fun l hl hmem => ?_, fun q hq => ?_⟩,
      hkeeps.trans hlater⟩
    · rw [convertAll, List.map_cons, hresult]
      exact congrArg _ (List.map_congr_left fun q hq => (hspares q hq).agrees.result)
    · rw [convertAll, List.flatMap_cons, htrace]
      exact congrArg ((rs.convert t p).trace ++ ·)
        (List.flatMap_congr fun q hq => (hspares q hq).agrees.trace)
    · obtain ⟨q, hq, hmem⟩ := List.mem_flatMap.1 hmem
      obtain ⟨d', n', hq'⟩ := hfound q hq
      exact hp.disjoint_places hq' hlink (hfirst q hq) l hl hmem
    · exact (hspares q hq).agrees.tree.trans ((hspares q hq).places ▸ halike q hq)

/-- The order of a batch of conversions does not matter. -/
theorem node?_convertAll_of_perm (rs : RuleSet) {ps qs : List Path} (hlink : t.LinkFree)
    (hfound : ∀ p ∈ ps, ∃ d n, t.FoundAt p d n)
    (hapart : ps.Pairwise fun p q => t.location? p ≠ t.location? q) (hperm : qs.Perm ps)
    (l : Location) : (rs.convertAll t qs).tree.node? l = (rs.convertAll t ps).tree.node? l := by
  obtain ⟨-, -, halike, hkeeps⟩ := convertAll_spec rs hlink hfound hapart
  obtain ⟨-, -, halike', hkeeps'⟩ := convertAll_spec rs hlink
    (fun q hq => hfound q (hperm.mem_iff.1 hq)) ((hperm.pairwise_iff Ne.symm).2 hapart)
  by_cases hl : ∃ p ∈ ps, l ∈ t.places p
  · obtain ⟨p, hp, hl⟩ := hl
    rw [(halike p hp).node? l hl, (halike' p (hperm.mem_iff.2 hp)).node? l hl]
  · rw [hkeeps.node? l fun hmem => hl (List.mem_flatMap.1 hmem),
      hkeeps'.node? l fun hmem => hl ?_]
    obtain ⟨q, hq, hmem⟩ := List.mem_flatMap.1 hmem
    exact ⟨q, hperm.mem_iff.1 hq, hmem⟩

/-- A change that is reported is one of the content of the file. -/
theorem wasModified_convert_iff_stat (rs : RuleSet) (hlink : t.LinkFree) {d : Location} {n : Name}
    (hp : t.FoundAt p d n) {u : FileTree} (hu : Alike (t.places p) (rs.convert t p).tree u)
    (hlink' : u.LinkFree) : (rs.convert t p).result.wasModified ↔ u.stat p ≠ t.stat p := by
  obtain ⟨content, mode, hnode⟩ := hp.exists_file
  obtain ⟨b, m, hb, hm, hleads⟩ := hp.exists_backup
  have hkeeps := convert_keeps rs hlink (hp.touches hlink)
  rw [wasModified_convert_iff rs hlink hp.leadsTo
    (fun b' hb' => ⟨d, m, by rwa [← Option.some.inj (hb.symm.trans (Option.mem_def.1 hb'))],
      (hp.ne_backup hm).symm⟩)
    hnode]
  have hframe := hkeeps.toSameFrame.trans hu.toSameFrame
  rw [hp.stat_eq (.refl t) hlink hnode, (hframe.leadsTo hp.leadsTo).stat_eq hlink', hp.permit_eq,
    hu.node? _ (hp.mem_places hlink), hnode]
  cases (rs.convert t p).tree.node? (n :: d) with
  | none => exact iff_of_true (fun h => by cases h) (fun h => by cases h)
  | some node =>
    exact not_congr ⟨fun h => congrArg Except.ok (Option.some.inj h),
      fun h => congrArg some (Except.ok.inj h)⟩

/-- **The conversion of a directory.** Each file that is found has the outcome that its conversion
has alone on the tree before, and the file and its backup are as they are after that. Nothing else
changes, the number of files is that of those that are not what they were, and the order in which
they are converted does not matter. -/
theorem convertDirectory_eq_alone (rs : RuleSet) (ht : t.IsSound) (hlink : t.LinkFree)
    (hdir : t.isDirectory dir) :
    (rs.convertDirectory t dir).events =
        (t.discover dir).flatMap (fun p => [.visiting p, .finished (rs.convert t p).result]) ∧
      (∀ p ∈ t.discover dir, ∀ q, q = p ∨ q ∈ p.backup? →
        (rs.convertDirectory t dir).tree.stat q = (rs.convert t p).tree.stat q) ∧
      (∀ l, (∀ p ∈ t.discover dir, l ∉ t.places p) →
        (rs.convertDirectory t dir).tree.node? l = t.node? l) ∧
      (rs.convertDirectory t dir).result =
        (t.discover dir).countP (fun p => (rs.convertDirectory t dir).tree.stat p ≠ t.stat p) ∧
      ∀ order : List Path, order.Perm (t.discover dir) →
        (rs.convertAll t order).result = order.map (fun p => (rs.convert t p).result) ∧
          ∀ l, (rs.convertAll t order).tree.node? l = (rs.convertDirectory t dir).tree.node? l := by
  have hfound := exists_foundAt ht hlink hdir
  have hapart := pairwise_location?_discover ht hlink hdir
  obtain ⟨hresult, htrace, halike, hkeeps⟩ := convertAll_spec rs hlink hfound hapart
  have hlink' := hkeeps.linkFree hlink
  have hwork : rs.convertDirectory t dir =
      ⟨(rs.convertAll t (t.discover dir)).result.countP (·.wasModified),
        (rs.convertAll t (t.discover dir)).tree, (t.discoveryNotes dir).map .note ++
          (rs.convertAll t (t.discover dir)).trace⟩ := by
    rw [convertDirectory, if_pos hdir]
  rw [hwork]
  refine ⟨?_, fun p hp q hq => ?_, fun l hl => hkeeps.node? l fun hmem => ?_, ?_,
    fun order hperm => ⟨?_, node?_convertAll_of_perm rs hlink hfound hapart hperm⟩⟩
  · have hnotes : ((t.discoveryNotes dir).map Happening.note).filterMap Happening.event? = [] := by
      rw [List.filterMap_map]
      exact List.filterMap_eq_nil_iff.2 fun _ _ => rfl
    simp only [Stage.events, List.filterMap_append, hnotes, List.nil_append, htrace,
      List.filterMap_flatMap]
    exact List.flatMap_congr fun p _ => events_convert rs t p
  · obtain ⟨d, n, hp'⟩ := hfound p hp
    have hfirst := convert_keeps rs hlink (hp'.touches hlink)
    have hleads : ∃ d' n', t.LeadsTo q d' n' ∧ (permit q n' = .ok () → n' :: d' ∈ t.places p) := by
      rcases hq with rfl | hq
      · exact (hp'.touches hlink).file
      · exact (hp'.touches hlink).backup q hq
    obtain ⟨d', n', hleads, hmem⟩ := hleads
    exact (halike p hp).stat_eq (hfirst.toSameFrame.leadsTo hleads) hmem
      (hfirst.linkFree hlink) hlink'
  · obtain ⟨p, hp, hmem⟩ := List.mem_flatMap.1 hmem
    exact hl p hp hmem
  · simp only [hresult, List.countP_map]
    refine List.countP_congr fun p hp => ?_
    obtain ⟨d, n, hp'⟩ := hfound p hp
    simpa using wasModified_convert_iff_stat rs hlink hp' (halike p hp) hlink'
  · obtain ⟨hresult', -⟩ := convertAll_spec rs hlink
      (fun q hq => hfound q (hperm.mem_iff.1 hq)) ((hperm.pairwise_iff Ne.symm).2 hapart)
    exact hresult'

theorem convertDirectory_mixedSources :
    (mixedSources.IsSound ∧ mixedSources.LinkFree ∧
      mixedSources.isDirectory (Path.ofString "src")) ∧
    mixedSources.discover (Path.ofString "src") =
      [Path.ofString "src/a.js", Path.ofString "src/b.jsx", Path.ofString "src/c.js",
        Path.ofString "src/d.js"] ∧
    (bootstrapRules.convertDirectory mixedSources (Path.ofString "src")).events =
      (mixedSources.discover (Path.ofString "src")).flatMap
        (fun p => [.visiting p, .finished (bootstrapRules.convert mixedSources p).result]) :=
  ⟨⟨isSound_mixedSources, linkFree_mixedSources, isDirectory_mixedSources⟩, by decide,
    (convertDirectory_eq_alone bootstrapRules isSound_mixedSources linkFree_mixedSources
      isDirectory_mixedSources).1⟩

end RuleSet

end Restyle
