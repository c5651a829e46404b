import Restyle.Text.Ranges

/-!
# Sets of characters

A set of characters is the increasing list of its ranges of code points, no two of which touch; so
two sets with the same code points are equal. The set operations work on the lists and keep them in
this form.

## Main definitions

* `Restyle.CharSet`, `Restyle.CharSet.contains`.
* `Restyle.CharSet.ofRanges` — the set of the characters in some of the given ranges.
* `Restyle.CharSet.union`, `Restyle.CharSet.compl`, `Restyle.CharSet.inter`,
  `Restyle.CharSet.diff`, `Restyle.CharSet.symmDiff`.

## Main results

* `Restyle.CharSet.contains_union`, `Restyle.CharSet.contains_compl` and the lemmas after them —
  membership after each operation.
-/

namespace Restyle

/-- Whether ranges are increasing, do not touch, and begin at `low` or later. -/
def Increasing (low : Nat) : List (Nat × Nat) → Prop
  | [] => True
  | (a, b) :: rs => low ≤ a ∧ a ≤ b ∧ Increasing (b + 2) rs

theorem Increasing.mono {low low' : Nat} (h : low' ≤ low) :
    ∀ {rs : List (Nat × Nat)}, Increasing low rs → Increasing low' rs
  | [], _ => trivial
  | _ :: _, ⟨ha, hab, hrs⟩ => ⟨Nat.le_trans h ha, hab, hrs⟩

/-- Adds a range to increasing ranges, joining it with those that it touches. -/
def insertRange (lo hi : Nat) : List (Nat × Nat) → List (Nat × Nat)
  | [] => [(lo, hi)]
  | (a, b) :: rs =>
    if hi + 1 < a then (lo, hi) :: (a, b) :: rs
    else if b + 1 < lo then (a, b) :: insertRange lo hi rs
    else insertRange (min lo a) (max hi b) rs

theorem insertRange_increasing {low : Nat} : ∀ {lo hi : Nat} {rs : List (Nat × Nat)},
    low ≤ lo → lo ≤ hi → Increasing low rs → Increasing low (insertRange lo hi rs)
  | lo, hi, [], hlow, hlohi, _ => ⟨hlow, hlohi, trivial⟩
  | lo, hi, (a, b) :: rs, hlow, hlohi, ⟨ha, hab, hrs⟩ => by
    unfold insertRange
    split
    · exact ⟨hlow, hlohi, by omega, hab, hrs⟩
    · split
      · exact ⟨ha, hab, insertRange_increasing (by omega) hlohi hrs⟩
      · exact insertRange_increasing (by omega) (by omega) (hrs.mono (by omega))

theorem inRanges_eq_false_of_lt {n low : Nat} (h : n < low) :
    ∀ {rs : List (Nat × Nat)}, Increasing low rs → Text.inRanges n rs = false
  | [], _ => rfl
  | (a, b) :: rs, ⟨ha, _, _⟩ => by
    rw [Text.inRanges_cons, if_pos (by omega)]

theorem inRanges_insertRange {low n : Nat} : ∀ {lo hi : Nat} {rs : List (Nat × Nat)},
    lo ≤ hi → Increasing low rs →
      Text.inRanges n (insertRange lo hi rs) =
        (decide (lo ≤ n) && decide (n ≤ hi) || Text.inRanges n rs)
  | lo, hi, [], _, _ => by
    simp only [insertRange, Text.inRanges_cons, Text.inRanges_nil, Bool.or_false]
    by_cases h : n < lo
    · rw [if_pos h, decide_eq_false (by omega), Bool.false_and]
    · rw [if_neg h, decide_eq_true (by omega), Bool.true_and]
      by_cases h' : n ≤ hi <;> simp [h']
  | lo, hi, (a, b) :: rs, hlohi, ⟨ha, hab, hrs⟩ => by
    unfold insertRange
    split
    · rw [Text.inRanges_cons]
      by_cases h : n < lo
      · rw [if_pos h, Text.inRanges_cons, if_pos (by omega), decide_eq_false (by omega)]
        rfl
      · rw [if_neg h]
        by_cases h' : n ≤ hi
        · simp [h', Nat.le_of_not_lt h]
        · simp [h']
    · split
      · rw [Text.inRanges_cons, Text.inRanges_cons, inRanges_insertRange hlohi hrs]
        by_cases h : n < a
        · rw [if_pos h, if_pos h, decide_eq_false (show ¬ lo ≤ n by omega)]
          rfl
        · rw [if_neg h, if_neg h]
          by_cases h' : n ≤ b <;> simp [h']
      · rw [inRanges_insertRange (by omega) hrs, Text.inRanges_cons]
        by_cases h : n < a
        · rw [if_pos h, inRanges_eq_false_of_lt (show n < b + 2 by omega) hrs, Bool.or_false,
            Bool.or_false, ← Bool.decide_and, ← Bool.decide_and]
          exact decide_eq_decide.2 (by omega)
        · rw [if_neg h]
          by_cases h' : n ≤ b
          · rw [if_pos h', Bool.or_true, decide_eq_true (by omega), decide_eq_true (by omega)]
            rfl
          · rw [if_neg h', ← Bool.decide_and, ← Bool.decide_and]
            congr 1
            exact decide_eq_decide.2 (by omega)

/-- The largest code point. -/
def lastCodePoint : Nat := 0x10FFFF

/-- The ranges of the code points from `low` on that lie in none of the given increasing ranges. -/
def gaps (low : Nat) : List (Nat × Nat) → List (Nat × Nat)
  | [] => if low ≤ lastCodePoint then [(low, lastCodePoint)] else []
  | (a, b) :: rs => if low < a then (low, a - 1) :: gaps (b + 1) rs else gaps (b + 1) rs

theorem gaps_increasing : ∀ {low : Nat} {rs : List (Nat × Nat)},
    Increasing low rs → Increasing low (gaps low rs)
  | low, [], _ => by
    unfold gaps
    split
    · exact ⟨Nat.le_refl _, by assumption, trivial⟩
    · trivial
  | low, (a, b) :: rs, ⟨ha, hab, hrs⟩ => by
    unfold gaps
    have h := gaps_increasing (hrs.mono (show b + 1 ≤ b + 2 by omega))
    split
    · exact ⟨Nat.le_refl _, by omega, h.mono (by omega)⟩
    · exact h.mono (by omega)

theorem inRanges_gaps {n : Nat} (hn : n ≤ lastCodePoint) : ∀ {low : Nat} {rs : List (Nat × Nat)},
    Increasing low rs →
      Text.inRanges n (gaps low rs) = (decide (low ≤ n) && !Text.inRanges n rs)
  | low, [], _ => by
    unfold gaps
    split
    · by_cases h : n < low
      · rw [Text.inRanges_cons, if_pos h, decide_eq_false (by omega)]
        rfl
      · rw [Text.inRanges_cons, if_neg h, if_pos hn, decide_eq_true (by omega)]
        rfl
    · rw [decide_eq_false (by omega)]
      rfl
  | low, (a, b) :: rs, ⟨ha, hab, hrs⟩ => by
    unfold gaps
    have ih := inRanges_gaps hn (hrs.mono (show b + 1 ≤ b + 2 by omega))
    rw [Text.inRanges_cons n a b rs]
    split
    · rw [Text.inRanges_cons, ih]
      by_cases h : n < low
      · rw [if_pos h, decide_eq_false (by omega)]
        rfl
      · rw [if_neg h, decide_eq_true (show low ≤ n by omega)]
        by_cases h' : n < a
        · rw [if_pos (by omega), if_pos h']
          rfl
        · rw [if_neg (by omega), if_neg h']
          by_cases h'' : n ≤ b
          · rw [if_pos h'', decide_eq_false (by omega)]
            rfl
          · rw [if_neg h'', decide_eq_true (by omega)]
    · rw [ih]
      by_cases h' : n < a
      · rw [if_pos h', decide_eq_false (by omega), decide_eq_false (by omega)]
        rfl
      · rw [if_neg h', decide_eq_true (show low ≤ n by omega)]
        by_cases h'' : n ≤ b
        · rw [if_pos h'', decide_eq_false (by omega)]
          rfl
        · rw [if_neg h'', decide_eq_true (by omega)]

/-- A set of characters, as the increasing list of its ranges of code points. -/
structure CharSet where
  ranges : List (Nat × Nat)
  increasing : Increasing 0 ranges
  deriving DecidableEq

namespace CharSet

/-- Whether a character belongs to a set. -/
def contains (s : CharSet) (c : Char) : Bool := Text.inRanges c.toNat s.ranges

/-- No character. -/
def empty : CharSet := ⟨[], trivial⟩

/-- A set with the code points from `lo` to `hi` added. -/
def insert (s : CharSet) (lo hi : Nat) : CharSet :=
  if h : lo ≤ hi then
    ⟨insertRange lo hi s.ranges, insertRange_increasing (Nat.zero_le lo) h s.increasing⟩
  else s

/-- A set with several ranges added. Adding increasing ranges from the last on looks at few ranges
each time. -/
def insertAll (s : CharSet) (ranges : List (Nat × Nat)) : CharSet :=
  ranges.foldr (fun r s => s.insert r.1 r.2) s

/-- The characters in some of the given ranges. -/
def ofRanges (ranges : List (Nat × Nat)) : CharSet := empty.insertAll ranges

/-- The characters in some of the ranges that a text writes. -/
def written (text : String) : CharSet := ofRanges (Text.readRanges text)

/-- One character. -/
def char (c : Char) : CharSet := empty.insert c.toNat c.toNat

/-- The characters from `low` to `high`. -/
def range (low high : Char) : CharSet := empty.insert low.toNat high.toNat

/-- The characters of either set. -/
def union (a b : CharSet) : CharSet := a.insertAll b.ranges

/-- The characters of some set of a list. -/
def unionAll (sets : List CharSet) : CharSet := sets.foldl union empty

/-- The characters outside a set. -/
def compl (s : CharSet) : CharSet := ⟨gaps 0 s.ranges, gaps_increasing s.increasing⟩

/-- The characters of both sets. -/
def inter (a b : CharSet) : CharSet := (a.compl.union b.compl).compl

/-- The characters of the first set outside the second. -/
def diff (a b : CharSet) : CharSet := (a.compl.union b).compl

/-- The characters of exactly one of two sets. -/
def symmDiff (a b : CharSet) : CharSet := (a.diff b).union (b.diff a)

/-- Every character. -/
def full : CharSet := empty.compl

@[simp] theorem contains_empty (c : Char) : empty.contains c = false := rfl

theorem contains_insert (s : CharSet) {lo hi : Nat} (h : lo ≤ hi) (c : Char) :
    (s.insert lo hi).contains c =
      (decide (lo ≤ c.toNat) && decide (c.toNat ≤ hi) || s.contains c) := by
  rw [insert, dif_pos h]
  exact inRanges_insertRange h s.increasing

theorem contains_insertAll (s : CharSet) (ranges : List (Nat × Nat)) (c : Char) :
    (s.insertAll ranges).contains c =
      (ranges.any (fun r => decide (r.1 ≤ c.toNat) && decide (c.toNat ≤ r.2)) ||
        s.contains c) := by
  induction ranges with
  | nil => rfl
  | cons r rs ih =>
    rw [insertAll, List.foldr_cons, ← insertAll, List.any_cons]
    by_cases h : r.1 ≤ r.2
    · rw [contains_insert _ h, ih, Bool.or_assoc]
    · rw [insert, dif_neg h, ih, ← Bool.decide_and, decide_eq_false (by omega), Bool.false_or]

/-- Whether a code point lies in one of the ranges of a set can be asked of each range alone. -/
theorem any_ranges (s : CharSet) (n : Nat) :
    s.ranges.any (fun r => decide (r.1 ≤ n) && decide (n ≤ r.2)) = Text.inRanges n s.ranges := by
  have aux : ∀ {low : Nat} {rs : List (Nat × Nat)}, Increasing low rs →
      rs.any (fun r => decide (r.1 ≤ n) && decide (n ≤ r.2)) = Text.inRanges n rs := by
    intro low rs
    induction rs generalizing low with
    | nil => intro _; rfl
    | cons r rs ih =>
      obtain ⟨a, b⟩ := r
      rintro ⟨ha, hab, hrs⟩
      rw [List.any_cons, ih hrs, Text.inRanges_cons]
      by_cases h : n < a
      · rw [if_pos h, decide_eq_false (by omega), inRanges_eq_false_of_lt (by omega) hrs]
        rfl
      · rw [if_neg h, decide_eq_true (by omega)]
        by_cases h' : n ≤ b <;> simp [h']
  exact aux s.increasing

@[simp] theorem contains_union (a b : CharSet) (c : Char) :
    (a.union b).contains c = (a.contains c || b.contains c) := by
  rw [union, contains_insertAll, any_ranges, Bool.or_comm]
  rfl

theorem contains_unionAll (sets : List CharSet) (c : Char) :
    (unionAll sets).contains c = sets.any (·.contains c) := by
  have aux : ∀ s : CharSet, (sets.foldl union s).contains c =
      (s.contains c || sets.any (·.contains c)) := by
    induction sets with
    | nil => simp
    | cons a as ih =>
      intro s
      rw [List.foldl_cons, ih, contains_union, List.any_cons, Bool.or_assoc]
  rw [unionAll, aux, contains_empty, Bool.false_or]

@[simp] theorem contains_compl (s : CharSet) (c : Char) :
    s.compl.contains c = !s.contains c := by
  have hc : c.toNat ≤ lastCodePoint := by
    have := c.valid
    simp only [lastCodePoint, Char.toNat]
    rcases this with h | ⟨_, h⟩ <;> omega
  rw [contains, compl, inRanges_gaps hc s.increasing, decide_eq_true (Nat.zero_le _),
    Bool.true_and]
  rfl

@[simp] theorem contains_inter (a b : CharSet) (c : Char) :
    (a.inter b).contains c = (a.contains c && b.contains c) := by
  simp [inter]

@[simp] theorem contains_diff (a b : CharSet) (c : Char) :
    (a.diff b).contains c = (a.contains c && !b.contains c) := by
  simp [diff]

@[simp] theorem contains_symmDiff (a b : CharSet) (c : Char) :
    (a.symmDiff b).contains c = (a.contains c != b.contains c) := by
  rw [symmDiff, contains_union, contains_diff, contains_diff]
  cases a.contains c <;> cases b.contains c <;> rfl

@[simp] theorem contains_full (c : Char) : full.contains c = true := by simp [full]

@[simp] theorem contains_char (a c : Char) : (char a).contains c = (c == a) := by
  rw [char, contains_insert _ (Nat.le_refl _), contains_empty, Bool.or_false, ← Bool.decide_and]
  by_cases h : c = a
  · simp [h]
  · have : c.toNat ≠ a.toNat := fun h' => h (Char.toNat_inj.1 h')
    rw [decide_eq_false (by omega)]
    simp [h]

theorem contains_range {low high : Char} (h : low ≤ high) (c : Char) :
    (range low high).contains c = (decide (low ≤ c) && decide (c ≤ high)) := by
  have h' : low.toNat ≤ high.toNat := h
  rw [range, contains_insert _ h', contains_empty, Bool.or_false]
  rfl

end CharSet

end Restyle
