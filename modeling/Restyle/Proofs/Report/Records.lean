import Mathlib
import Restyle.Report.Summary

/-!
# A summary after many records

A summary that is made of records, one after the other, depends on them in a simple way: the count
of a label is what was recorded for it, the total is all that was recorded, and the labels are those
of the records, each where it came up first.

A record looks for the first entry with its label, and `count` and `total` read the entries on their
own. They fit together because no label has two entries: this holds at the beginning, every record
keeps it, and a summary with distinct labels is determined by its labels and their counts.

The sums are sums of words. They are those of the numbers that are recorded as long as these fit
into a word. With checked additions a record goes through as long as the count of its label fits, so
a series goes through if this holds of what it records for each label in the end.

## Main definitions

* `Restyle.Summary.labels`, `Restyle.Summary.recordAll`, `Restyle.Summary.recordAll?`.
* `Restyle.Summary.recorded`, `Restyle.Summary.recordedInAll` — what is recorded, in numbers.
* `Restyle.Summary.firstPlace`, `Restyle.Summary.SameOrder` — where labels come up first.

## Main results

* `Restyle.Summary.count_recordAll`, `Restyle.Summary.total_recordAll`,
  `Restyle.Summary.labels_recordAll`.
* `Restyle.Summary.nodup_labels_recordAll` — records keep the labels distinct.
* `Restyle.Summary.roots_eq_map_count`, `Restyle.Summary.total_eq_sum_count` — the entries and the
  total of a summary with distinct labels, by its counts.
* `Restyle.Summary.recordAll?_eq_some_iff`, `Restyle.Summary.total?_eq_some_iff` — when checked
  additions go through.
* `Restyle.Summary.recordAll_eq_iff_sameOrder` — which reorderings of records give the same summary.
* `Restyle.Summary.recordAll_exact` — the summary of any series of records.
-/

namespace Restyle.Summary

/-- The labels of a summary, in order. -/
def labels (s : Summary) : List String := s.roots.map (·.1)

/-- A summary with several records more, given by their labels and numbers. -/
def recordAll (s : Summary) (records : List (String × UInt64)) : Summary :=
  records.foldl (fun s r => s.record r.1 r.2) s

@[simp] theorem recordAll_nil (s : Summary) : s.recordAll [] = s := rfl

@[simp] theorem recordAll_cons (s : Summary) (r : String × UInt64)
    (records : List (String × UInt64)) :
    s.recordAll (r :: records) = (s.record r.1 r.2).recordAll records := rfl

theorem recordAll_append (s : Summary) (records later : List (String × UInt64)) :
    s.recordAll (records ++ later) = (s.recordAll records).recordAll later :=
  List.foldl_append

@[simp] theorem count_empty (l : String) : empty.count l = 0 := rfl

/-- The count of a label grows by what is recorded for it. -/
theorem count_recordAll (l : String) : ∀ (records : List (String × UInt64)) (s : Summary),
    (s.recordAll records).count l =
      s.count l + ((records.filter (·.1 = l)).map (·.2)).sum
  | [], s => by simp
  | r :: records, s => by
    have hrecord := count_record s r.1 l r.2
    rw [recordAll_cons, count_recordAll l records, hrecord, List.filter_cons]
    by_cases hl : r.1 = l
    · simp [hl, add_assoc]
    · simp [hl, Ne.symm hl]

/-- The total grows by all that is recorded. -/
theorem total_recordAll : ∀ (records : List (String × UInt64)) (s : Summary),
    (s.recordAll records).total = s.total + (records.map (·.2)).sum
  | [], s => by simp
  | r :: records, s => by
    rw [recordAll_cons, total_recordAll records, total_record, List.map_cons, List.sum_cons,
      add_assoc]

/-! ### Labels -/

theorem map_fst_recordIn (l : String) (n : UInt64) : ∀ rs : List (String × UInt64),
    (recordIn l n rs).map (·.1) =
      if l ∈ rs.map (·.1) then rs.map (·.1) else rs.map (·.1) ++ [l]
  | [] => rfl
  | (k, m) :: rs => by
    have ih := map_fst_recordIn l n rs
    rw [recordIn]
    by_cases hk : k = l
    · simp [hk]
    · rw [if_neg hk, List.map_cons, ih]
      by_cases hmem : l ∈ rs.map (·.1) <;> simp [hmem, Ne.symm hk]

/-- A new label comes last, and another one stays where it is. -/
theorem labels_record (s : Summary) (l : String) (n : UInt64) :
    (s.record l n).labels = if l ∈ s.labels then s.labels else s.labels ++ [l] :=
  map_fst_recordIn l n s.roots

/-- **The new labels** come behind the old ones, each where it came up first. -/
theorem labels_recordAll : ∀ (records : List (String × UInt64)) (s : Summary),
    (s.recordAll records).labels =
      s.labels ++ ((records.map (·.1)).removeAll s.labels).eraseDups
  | [], s => by simp
  | r :: records, s => by
    rw [recordAll_cons, labels_recordAll records, labels_record, List.map_cons, List.cons_removeAll]
    by_cases hmem : r.1 ∈ s.labels
    · simp [hmem]
    · have hfilter : (records.map (·.1)).removeAll (s.labels ++ [r.1]) =
          ((records.map (·.1)).removeAll s.labels).filter fun l => !l == r.1 := by
        simp only [List.removeAll, List.filter_filter]
        exact List.filter_congr fun l _ => Bool.eq_iff_iff.2 (by simp [and_comm])
      simp [hmem, List.eraseDups_cons, hfilter]

theorem mem_labels_recordAll {l : String} {records : List (String × UInt64)} {s : Summary} :
    l ∈ (s.recordAll records).labels ↔ l ∈ s.labels ∨ l ∈ records.map (·.1) := by
  rw [labels_recordAll, List.mem_append, List.mem_eraseDups]
  by_cases hmem : l ∈ s.labels <;> simp [List.removeAll, hmem]

theorem mem_labels_recordAll_empty {l : String} {records : List (String × UInt64)} :
    l ∈ (empty.recordAll records).labels ↔ l ∈ records.map (·.1) :=
  mem_labels_recordAll.trans (or_iff_right List.not_mem_nil)

/-! ### Distinct labels -/

/-- A record keeps the labels distinct: it adds a label only if there is no entry for it. -/
theorem nodup_labels_record {s : Summary} (h : s.labels.Nodup) (l : String) (n : UInt64) :
    (s.record l n).labels.Nodup := by
  rw [labels_record]
  split
  case isTrue => exact h
  case isFalse hnew =>
    rw [← List.concat_eq_append]
    exact h.concat hnew

theorem nodup_labels_recordAll : ∀ (records : List (String × UInt64)) {s : Summary},
    s.labels.Nodup → (s.recordAll records).labels.Nodup
  | [], _, h => h
  | r :: records, _, h => nodup_labels_recordAll records (nodup_labels_record h r.1 r.2)

/-- Where the labels are distinct, `count` reads the number of each entry. -/
theorem count_eq_of_mem {s : Summary} (h : s.labels.Nodup) {l : String} {n : UInt64}
    (hmem : (l, n) ∈ s.roots) : s.count l = n := by
  obtain ⟨first, later, hroots⟩ := List.append_of_mem hmem
  have hnew : l ∉ first.map (·.1) := by
    rw [labels, hroots, List.map_append, List.map_cons, List.nodup_middle] at h
    exact fun hfirst => (List.nodup_cons.1 h).1 (List.mem_append_left _ hfirst)
  have hlookup : s.roots.lookup l = some n := by
    refine List.lookup_eq_some_iff.2 ⟨first, later, hroots, fun r hr => bne_iff_ne.2 ?_⟩
    rintro rfl
    exact hnew (List.mem_map_of_mem hr)
  rw [count, hlookup, Option.getD_some]

/-- **The entries of a summary** with distinct labels are its labels with their counts. -/
theorem roots_eq_map_count {s : Summary} (h : s.labels.Nodup) :
    s.roots = s.labels.map fun l => (l, s.count l) := by
  have hread : s.roots.map (fun r => (r.1, s.count r.1)) = s.roots.map id :=
    List.map_congr_left fun r hr => congrArg (r.1, ·) (count_eq_of_mem h hr)
  rw [labels, List.map_map]
  exact (hread.trans (List.map_id _)).symm

theorem eq_of_labels_eq {s u : Summary} (hs : s.labels.Nodup) (hlabels : s.labels = u.labels)
    (hcount : ∀ l, s.count l = u.count l) : s = u := by
  have hroots : s.roots = u.roots := by
    rw [roots_eq_map_count hs, roots_eq_map_count (hlabels ▸ hs), hlabels]
    simp only [hcount]
  exact congrArg Summary.mk hroots

/-! ### Counts and totals -/

theorem total_eq_sum : ∀ s : Summary, s.total = (s.roots.map (·.2)).sum
  | ⟨[]⟩ => rfl
  | ⟨r :: rs⟩ => by rw [total_cons, total_eq_sum ⟨rs⟩, List.map_cons, List.sum_cons]

/-- **The total is the sum of the counts** if the labels are distinct. With two entries for a label
the total would have both, and the count the first one only. -/
theorem total_eq_sum_count {s : Summary} (h : s.labels.Nodup) :
    s.total = (s.labels.map s.count).sum := by
  rw [total_eq_sum, roots_eq_map_count h, List.map_map]
  rfl

/-! ### Words and numbers -/

/-- What is recorded for a label, as a number. -/
def recorded (records : List (String × UInt64)) (l : String) : Nat :=
  ((records.filter (·.1 = l)).map (·.2.toNat)).sum

/-- All that is recorded, as a number. -/
def recordedInAll (records : List (String × UInt64)) : Nat := (records.map (·.2.toNat)).sum

theorem recorded_cons (r : String × UInt64) (records : List (String × UInt64)) (l : String) :
    recorded (r :: records) l = (if l = r.1 then r.2.toNat else 0) + recorded records l := by
  rw [recorded, List.filter_cons]
  by_cases hl : r.1 = l
  · simp [hl, recorded]
  · simp [hl, Ne.symm hl, recorded]

theorem toNat_sum : ∀ ns : List UInt64, ns.sum.toNat = (ns.map UInt64.toNat).sum % UInt64.size
  | [] => rfl
  | n :: ns => by
    rw [List.sum_cons, UInt64.toNat_add, toNat_sum ns, List.map_cons, List.sum_cons]
    exact Nat.add_mod_mod ..

/-- A sum of words is that of their numbers if this fits into a word. -/
theorem toNat_sum_of_lt {ns : List UInt64} (h : (ns.map UInt64.toNat).sum < UInt64.size) :
    ns.sum.toNat = (ns.map UInt64.toNat).sum := by
  rw [toNat_sum, Nat.mod_eq_of_lt h]

theorem toNat_add_of_lt {m n : UInt64} (h : m.toNat + n.toNat < UInt64.size) :
    (m + n).toNat = m.toNat + n.toNat := by
  rw [UInt64.toNat_add]
  exact Nat.mod_eq_of_lt h

/-! ### Checked additions -/

/-- A summary with several records more, if all counts on the way fit into a word. -/
def recordAll? (s : Summary) (records : List (String × UInt64)) : Option Summary :=
  records.foldlM (fun s r => s.record? r.1 r.2) s

theorem checkedAdd_eq_some_iff {m n k : UInt64} :
    checkedAdd m n = some k ↔ k = m + n ∧ m.toNat + n.toNat < UInt64.size := by
  rw [checkedAdd]
  split <;> simp_all [eq_comm]

theorem recordIn?_eq_some_iff (l : String) (n : UInt64) : ∀ {rs rs' : List (String × UInt64)},
    recordIn? l n rs = some rs' ↔
      rs' = recordIn l n rs ∧ ((rs.lookup l).getD 0).toNat + n.toNat < UInt64.size
  | [], rs' => by
    have hn : n.toNat < UInt64.size := n.toNat_lt
    simp [recordIn?, recordIn, hn, eq_comm]
  | (k, m) :: rs, rs' => by
    rw [recordIn?, recordIn]
    by_cases hk : k = l
    · simp only [hk, if_true, Option.map_eq_some_iff, checkedAdd_eq_some_iff, List.lookup_cons_self,
        Option.getD_some, and_assoc, exists_eq_left]
      rw [and_comm, eq_comm]
    · have hne : (l == k) = false := by simpa using Ne.symm hk
      simp only [hk, if_false, Option.map_eq_some_iff, recordIn?_eq_some_iff l n, List.lookup_cons,
        hne, and_assoc, exists_eq_left]
      rw [and_comm, eq_comm]

/-- **A checked record** goes through if the count of its label fits into a word. -/
theorem record?_eq_some_iff {s u : Summary} {l : String} {n : UInt64} :
    s.record? l n = some u ↔ u = s.record l n ∧ (s.count l).toNat + n.toNat < UInt64.size := by
  simp only [record?, Option.map_eq_some_iff, recordIn?_eq_some_iff, and_assoc, exists_eq_left]
  rw [and_comm, eq_comm]
  rfl

/-- The count of a label after a record that goes through, as a number. -/
theorem toNat_count_record {s : Summary} {k : String} {n : UInt64}
    (h : (s.count k).toNat + n.toNat < UInt64.size) (l : String) :
    ((s.record k n).count l).toNat = (s.count l).toNat + if l = k then n.toNat else 0 := by
  rw [count_record]
  split
  case isTrue hl =>
    subst hl
    exact toNat_add_of_lt h
  case isFalse => rw [add_zero, Nat.add_zero]

/-- **A checked series of records** goes through if all that comes together for each label fits into
a word. -/
theorem recordAll?_eq_some_iff : ∀ {records : List (String × UInt64)} {s u : Summary},
    s.recordAll? records = some u ↔ u = s.recordAll records ∧
      ∀ l, (s.count l).toNat + recorded records l < UInt64.size
  | [], s, u => by
    have hfits : ∀ l, (s.count l).toNat + recorded [] l < UInt64.size := fun l =>
      (s.count l).toNat_lt
    simp [recordAll?, hfits, eq_comm]
  | r :: records, s, u => by
    have hcons : s.recordAll? (r :: records) = (s.record? r.1 r.2).bind (·.recordAll? records) :=
      rfl
    rw [hcons, Option.bind_eq_some_iff]
    simp only [record?_eq_some_iff, recordAll?_eq_some_iff, recordAll_cons]
    constructor
    · rintro ⟨_, ⟨rfl, hfirst⟩, rfl, hfits⟩
      refine ⟨rfl, fun l => ?_⟩
      rw [recorded_cons, ← Nat.add_assoc, ← toNat_count_record hfirst]
      exact hfits l
    · rintro ⟨rfl, hfits⟩
      have hfirst : (s.count r.1).toNat + r.2.toNat < UInt64.size := by
        have h := hfits r.1
        rw [recorded_cons, if_pos rfl] at h
        omega
      refine ⟨_, ⟨rfl, hfirst⟩, rfl, fun l => ?_⟩
      rw [toNat_count_record hfirst, Nat.add_assoc, ← recorded_cons]
      exact hfits l

/-- The numbers of all entries of a summary together. -/
def sumOfCounts (s : Summary) : Nat := (s.roots.map (·.2.toNat)).sum

theorem sum_recordIn (l : String) (n : UInt64) : ∀ {rs : List (String × UInt64)},
    ((rs.lookup l).getD 0).toNat + n.toNat < UInt64.size →
      ((recordIn l n rs).map (·.2.toNat)).sum = (rs.map (·.2.toNat)).sum + n.toNat
  | [], _ => by simp [recordIn]
  | (k, m) :: rs, h => by
    rw [recordIn]
    by_cases hk : k = l
    · rw [hk, List.lookup_cons_self, Option.getD_some] at h
      simp only [hk, if_true, List.map_cons, List.sum_cons, toNat_add_of_lt h]
      omega
    · have hne : (l == k) = false := by simpa using Ne.symm hk
      rw [List.lookup_cons, hne] at h
      simp only [hk, if_false, List.map_cons, List.sum_cons, sum_recordIn l n h]
      omega

theorem sumOfCounts_recordAll : ∀ {records : List (String × UInt64)} {s : Summary},
    (∀ l, (s.count l).toNat + recorded records l < UInt64.size) →
      (s.recordAll records).sumOfCounts = s.sumOfCounts + recordedInAll records
  | [], _, _ => rfl
  | r :: records, s, h => by
    obtain ⟨u, hu, -⟩ := Option.bind_eq_some_iff.1 (recordAll?_eq_some_iff.2 ⟨rfl, h⟩)
    obtain ⟨rfl, hfirst⟩ := record?_eq_some_iff.1 hu
    have hlater : ∀ l, ((s.record r.1 r.2).count l).toNat + recorded records l < UInt64.size := by
      intro l
      rw [toNat_count_record hfirst, Nat.add_assoc, ← recorded_cons]
      exact h l
    have hrecord : (s.record r.1 r.2).sumOfCounts = s.sumOfCounts + r.2.toNat :=
      sum_recordIn r.1 r.2 hfirst
    rw [recordAll_cons, sumOfCounts_recordAll hlater, hrecord, Nat.add_assoc]
    rfl

theorem foldlM_checkedAdd_eq_some_iff : ∀ {rs : List (String × UInt64)} {m n : UInt64},
    rs.foldlM (fun n r => checkedAdd n r.2) m = some n ↔
      n = m + total ⟨rs⟩ ∧ m.toNat + (rs.map (·.2.toNat)).sum < UInt64.size
  | [], m, n => by
    have hm : m.toNat < UInt64.size := m.toNat_lt
    simp [hm, total, eq_comm]
  | r :: rs, m, n => by
    rw [List.foldlM_cons, Option.bind_eq_bind, Option.bind_eq_some_iff]
    simp only [checkedAdd_eq_some_iff, foldlM_checkedAdd_eq_some_iff, total_cons, List.map_cons,
      List.sum_cons, ← add_assoc]
    constructor
    · rintro ⟨_, ⟨rfl, hfirst⟩, rfl, hfits⟩
      rw [toNat_add_of_lt hfirst] at hfits
      exact ⟨rfl, hfits⟩
    · rintro ⟨rfl, hfits⟩
      have hfirst : m.toNat + r.2.toNat < UInt64.size := by omega
      exact ⟨_, ⟨rfl, hfirst⟩, rfl, by rwa [toNat_add_of_lt hfirst]⟩

/-- **A checked total** goes through if the numbers of all entries together fit into a word. -/
theorem total?_eq_some_iff {s : Summary} {n : UInt64} :
    s.total? = some n ↔ n = s.total ∧ s.sumOfCounts < UInt64.size := by
  rw [total?, foldlM_checkedAdd_eq_some_iff, zero_add, UInt64.toNat_zero, Nat.zero_add]
  rfl

/-! ### Where labels come up first -/

/-- The place at which a label comes up first in a series of records. -/
def firstPlace (records : List (String × UInt64)) (l : String) : Nat := (records.map (·.1)).idxOf l

/-- The labels of a series of records come up first in the same order in another series. -/
def SameOrder (records others : List (String × UInt64)) : Prop :=
  ∀ k ∈ records.map (·.1), ∀ l ∈ records.map (·.1),
    (firstPlace records k < firstPlace records l ↔ firstPlace others k < firstPlace others l)

instance (records others : List (String × UInt64)) : Decidable (SameOrder records others) :=
  inferInstanceAs (Decidable (∀ k ∈ _, ∀ l ∈ _, (_ ↔ _)))

/-- A later record does not change where the labels before it came up first. -/
theorem firstPlace_append_of_mem {records : List (String × UInt64)} {l : String}
    (h : l ∈ records.map (·.1)) (later : List (String × UInt64)) :
    firstPlace (records ++ later) l = firstPlace records l := by
  rw [firstPlace, List.map_append, List.idxOf_append_of_mem h, firstPlace]

/-- **The labels stand in the order in which they came up first.** -/
theorem pairwise_labels_recordAll (records : List (String × UInt64)) :
    (empty.recordAll records).labels.Pairwise
      (fun k l => firstPlace records k < firstPlace records l) := by
  -- The newest record is added at the end, where it moves no place that is taken already.
  induction records using List.reverseRecOn with
  | nil => exact .nil
  | append_singleton records r ih =>
    have hmem : ∀ l ∈ (empty.recordAll records).labels, l ∈ records.map (·.1) := fun l =>
      mem_labels_recordAll_empty.1
    have hkept : (empty.recordAll records).labels.Pairwise
        (fun k l => firstPlace (records ++ [r]) k < firstPlace (records ++ [r]) l) :=
      ih.imp_of_mem fun hk hl hlt => by
        rwa [firstPlace_append_of_mem (hmem _ hk), firstPlace_append_of_mem (hmem _ hl)]
    rw [recordAll_append, recordAll_cons, recordAll_nil, labels_record]
    split
    case isTrue => exact hkept
    case isFalse hnew =>
      refine List.pairwise_append.2 ⟨hkept, List.pairwise_singleton _ _, fun k hk l hl => ?_⟩
      obtain rfl := List.mem_singleton.1 hl
      have hnot : r.1 ∉ records.map (·.1) := fun h => hnew (mem_labels_recordAll_empty.2 h)
      have hlast : firstPlace (records ++ [r]) r.1 = records.length := by
        simp [firstPlace, List.idxOf_append_of_notMem hnot]
      rw [hlast, firstPlace_append_of_mem (hmem k hk), firstPlace, ← List.length_map (·.1)]
      exact List.idxOf_lt_length_of_mem (hmem k hk)

/-! ### Reordering records -/

variable {records others : List (String × UInt64)}

/-- Labels come up first in the order in which they stand in the summary. -/
theorem firstPlace_lt_iff {k l : String} (hk : k ∈ (empty.recordAll records).labels)
    (hl : l ∈ (empty.recordAll records).labels) :
    firstPlace records k < firstPlace records l ↔
      (empty.recordAll records).labels.idxOf k < (empty.recordAll records).labels.idxOf l := by
  have hpairs := List.pairwise_iff_getElem.1 (pairwise_labels_recordAll records)
  have hlt : ∀ {k l : String}, k ∈ (empty.recordAll records).labels →
      l ∈ (empty.recordAll records).labels →
      (empty.recordAll records).labels.idxOf k < (empty.recordAll records).labels.idxOf l →
      firstPlace records k < firstPlace records l := fun hk hl h => by
    simpa using hpairs _ _ (List.idxOf_lt_length_of_mem hk) (List.idxOf_lt_length_of_mem hl) h
  refine ⟨fun h => ?_, hlt hk hl⟩
  rcases Nat.lt_trichotomy ((empty.recordAll records).labels.idxOf k)
    ((empty.recordAll records).labels.idxOf l) with hbefore | hsame | hafter
  · exact hbefore
  · rw [(List.idxOf_inj hk).1 hsame] at h
    exact absurd h (Nat.lt_irrefl _)
  · exact absurd (hlt hl hk hafter) (Nat.lt_asymm h)

theorem count_recordAll_of_perm (hperm : records.Perm others) (s : Summary) (l : String) :
    (s.recordAll records).count l = (s.recordAll others).count l := by
  rw [count_recordAll, count_recordAll, ((hperm.filter _).map _).sum_eq]

/-- **Which reorderings give the same summary**: those that keep the order in which the labels come
up first, and no others. -/
theorem recordAll_eq_iff_sameOrder (hperm : records.Perm others) :
    empty.recordAll records = empty.recordAll others ↔ SameOrder records others := by
  have hmem : ∀ l, l ∈ (empty.recordAll records).labels ↔ l ∈ (empty.recordAll others).labels :=
    fun l => by
      rw [mem_labels_recordAll_empty, mem_labels_recordAll_empty, (hperm.map _).mem_iff]
  have hnodup : ∀ series, (empty.recordAll series).labels.Nodup := fun series =>
    nodup_labels_recordAll series List.nodup_nil
  constructor
  · intro heq k hk l hl
    have hk' := mem_labels_recordAll_empty.2 hk
    have hl' := mem_labels_recordAll_empty.2 hl
    rw [firstPlace_lt_iff hk' hl', firstPlace_lt_iff ((hmem k).1 hk') ((hmem l).1 hl'), heq]
  · intro hsame
    have hlabels : (empty.recordAll records).labels = (empty.recordAll others).labels := by
      refine List.Perm.eq_of_pairwise (fun k l _ _ hkl hlk => absurd hlk (Nat.lt_asymm hkl)) ?_
        (pairwise_labels_recordAll others)
        ((List.perm_ext_iff_of_nodup (hnodup records) (hnodup others)).2 hmem)
      exact (pairwise_labels_recordAll records).imp_of_mem fun hk hl =>
        (hsame _ (mem_labels_recordAll_empty.1 hk) _ (mem_labels_recordAll_empty.1 hl)).1
    exact eq_of_labels_eq (hnodup records) hlabels (count_recordAll_of_perm hperm empty)

/-- **The summary of any series of records.** Its labels are distinct, they are those of the
records, and they stand in the order in which they come up first. The count of a label is the sum of
what is recorded for it, and zero if nothing is, and the total is the sum of all that is recorded. A
reordering of the records gives the same summary exactly if it keeps the order in which the labels
come up first.

The sums are sums of words, and those of the numbers that are recorded wherever these fit into a
word. With checked additions the series goes through, with the same summary, exactly if what is
recorded for each label fits into a word, and then the total does exactly if all that is recorded
fits. -/
theorem recordAll_exact (records : List (String × UInt64)) :
    (empty.recordAll records).labels.Nodup ∧
      (∀ l, l ∈ (empty.recordAll records).labels ↔ l ∈ records.map (·.1)) ∧
      (empty.recordAll records).labels.Pairwise
        (fun k l => firstPlace records k < firstPlace records l) ∧
      (∀ l, (empty.recordAll records).count l = ((records.filter (·.1 = l)).map (·.2)).sum) ∧
      (∀ l ∉ records.map (·.1), (empty.recordAll records).count l = 0) ∧
      (empty.recordAll records).total = (records.map (·.2)).sum ∧
      (∀ others, records.Perm others →
        (empty.recordAll records = empty.recordAll others ↔ SameOrder records others)) ∧
      (∀ l, recorded records l < UInt64.size →
        ((empty.recordAll records).count l).toNat = recorded records l) ∧
      (recordedInAll records < UInt64.size →
        (empty.recordAll records).total.toNat = recordedInAll records) ∧
      (∀ s, empty.recordAll? records = some s ↔
        s = empty.recordAll records ∧ ∀ l, recorded records l < UInt64.size) ∧
      ∀ s, empty.recordAll? records = some s → ∀ n, s.total? = some n ↔
        n = s.total ∧ recordedInAll records < UInt64.size := by
  have hcount : ∀ l, (empty.recordAll records).count l =
      ((records.filter (·.1 = l)).map (·.2)).sum := fun l =>
    (count_recordAll l records empty).trans (zero_add _)
  have htotal : (empty.recordAll records).total = (records.map (·.2)).sum :=
    (total_recordAll records empty).trans (zero_add _)
  have hchecked (s : Summary) : empty.recordAll? records = some s ↔
      s = empty.recordAll records ∧ ∀ l, recorded records l < UInt64.size := by
    simp only [recordAll?_eq_some_iff, count_empty, UInt64.toNat_zero, Nat.zero_add]
  refine ⟨nodup_labels_recordAll records List.nodup_nil, fun l => mem_labels_recordAll_empty,
    pairwise_labels_recordAll records, hcount, fun l hl => ?_, htotal,
    fun others hperm => recordAll_eq_iff_sameOrder hperm, fun l hfits => ?_, fun hfits => ?_,
    hchecked, fun s hs n => ?_⟩
  · have hnone : records.filter (·.1 = l) = [] := by
      refine List.filter_eq_nil_iff.2 fun r hr hr' => hl ?_
      exact of_decide_eq_true hr' ▸ List.mem_map_of_mem hr
    rw [hcount, hnone, List.map_nil, List.sum_nil]
  · have hnumbers : recorded records l =
        (((records.filter (·.1 = l)).map (·.2)).map UInt64.toNat).sum := by
      rw [List.map_map]
      rfl
    rw [hcount, hnumbers, toNat_sum_of_lt (hnumbers ▸ hfits)]
  · have hnumbers : recordedInAll records = ((records.map (·.2)).map UInt64.toNat).sum := by
      rw [List.map_map]
      rfl
    rw [htotal, hnumbers, toNat_sum_of_lt (hnumbers ▸ hfits)]
  · obtain ⟨rfl, hfits⟩ := (hchecked s).1 hs
    have hsum : (empty.recordAll records).sumOfCounts = 0 + recordedInAll records :=
      sumOfCounts_recordAll fun l => by
        rw [count_empty, UInt64.toNat_zero, Nat.zero_add]
        exact hfits l
    rw [total?_eq_some_iff, hsum, Nat.zero_add]

/-- Records of two labels, one of which comes up again. -/
def pagesTwice : List (String × UInt64) := [("Pages", 2), ("Components", 5), ("Pages", 1)]

/-- The two records of the pages may change places. With the components in front the counts are the
same, but not the order of the labels. All sums are small. -/
theorem recordAll_pagesTwice :
    ("Hooks" ∉ pagesTwice.map (·.1) ∧ (empty.recordAll pagesTwice).count "Hooks" = 0) ∧
      (pagesTwice.Perm [("Pages", 1), ("Components", 5), ("Pages", 2)] ∧
        empty.recordAll pagesTwice =
          empty.recordAll [("Pages", 1), ("Components", 5), ("Pages", 2)]) ∧
      (pagesTwice.Perm [("Components", 5), ("Pages", 2), ("Pages", 1)] ∧
        empty.recordAll pagesTwice ≠
          empty.recordAll [("Components", 5), ("Pages", 2), ("Pages", 1)]) ∧
      (recorded pagesTwice "Pages" < UInt64.size ∧
        ((empty.recordAll pagesTwice).count "Pages").toNat = 3) ∧
      (recordedInAll pagesTwice < UInt64.size ∧ (empty.recordAll pagesTwice).total.toNat = 8) ∧
      empty.recordAll? pagesTwice = some (empty.recordAll pagesTwice) ∧
        (empty.recordAll pagesTwice).total? = some 8 := by
  obtain ⟨_, _, _, _, hnone, _, hreordered, hcount, htotal, _, hchecked⟩ :=
    recordAll_exact pagesTwice
  have hnot : "Hooks" ∉ pagesTwice.map (·.1) := by decide
  have hkept : pagesTwice.Perm [("Pages", 1), ("Components", 5), ("Pages", 2)] := by decide
  have hmoved : pagesTwice.Perm [("Components", 5), ("Pages", 2), ("Pages", 1)] := by decide
  have hpages : recorded pagesTwice "Pages" < UInt64.size := by decide
  have hall : recordedInAll pagesTwice < UInt64.size := by decide
  have hthrough : empty.recordAll? pagesTwice = some (empty.recordAll pagesTwice) := by decide
  refine ⟨⟨hnot, hnone _ hnot⟩, ⟨hkept, (hreordered _ hkept).2 (by decide)⟩,
    ⟨hmoved, fun h => ?_⟩, ⟨hpages, (hcount _ hpages).trans (by decide)⟩,
    ⟨hall, (htotal hall).trans (by decide)⟩, hthrough,
    (hchecked _ hthrough 8).2 ⟨by decide, hall⟩⟩
  have hsame := (hreordered _ hmoved).1 h
  exact absurd hsame (by decide)

/-- Two records of half a word wrap round, and do not go through if additions are checked. -/
example : (empty.recordAll [("Big", 2 ^ 63), ("Big", 2 ^ 63)]).count "Big" = 0 ∧
    empty.recordAll? [("Big", 2 ^ 63), ("Big", 2 ^ 63)] = none := by
  decide +kernel

end Restyle.Summary
