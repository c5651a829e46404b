/-!
# The summary of a run

The summary counts the converted files of each label, in the order in which the labels came up.
Counts are words of 64 bits. A sum that does not fit into a word wraps round; a program that is
built to check its additions stops there instead.

## Main definitions

* `Restyle.Summary`, `Restyle.Summary.record`, `Restyle.Summary.count`, `Restyle.Summary.total`.
* `Restyle.checkedAdd`, `Restyle.Summary.record?`, `Restyle.Summary.total?` — with checked
  additions.

## Main results

* `Restyle.Summary.count_record`, `Restyle.Summary.total_record`.
-/

namespace Restyle

/-- How many files were converted for each label, in the order in which the labels came up. -/
structure Summary where
  roots : List (String × UInt64)
  deriving DecidableEq

/-- The sum of two counts, if it fits into a word. -/
def checkedAdd (m n : UInt64) : Option UInt64 :=
  if m.toNat + n.toNat < UInt64.size then some (m + n) else none

namespace Summary

/-- The summary of no run. -/
def empty : Summary := ⟨[]⟩

/-- The counts with `n` more for a label, which comes last if it is new. -/
def recordIn (label : String) (n : UInt64) : List (String × UInt64) → List (String × UInt64)
  | [] => [(label, n)]
  | (l, m) :: rest => if l = label then (l, m + n) :: rest else (l, m) :: recordIn label n rest

/-- The summary with `n` more converted files for a label. -/
def record (s : Summary) (label : String) (n : UInt64) : Summary := ⟨recordIn label n s.roots⟩

/-- The number of converted files of a label. -/
def count (s : Summary) (label : String) : UInt64 := (s.roots.lookup label).getD 0

/-- The number of all converted files. -/
def total (s : Summary) : UInt64 := s.roots.foldl (fun n r => n + r.2) 0

/-! ### Checked additions -/

/-- The counts with `n` more for a label, if its count fits into a word. -/
def recordIn? (label : String) (n : UInt64) :
    List (String × UInt64) → Option (List (String × UInt64))
  | [] => some [(label, n)]
  | (l, m) :: rest =>
    if l = label then (checkedAdd m n).map fun sum => (l, sum) :: rest
    else (recordIn? label n rest).map ((l, m) :: ·)

/-- The summary with `n` more converted files for a label, if the count of the label fits into a
word. -/
def record? (s : Summary) (label : String) (n : UInt64) : Option Summary :=
  (recordIn? label n s.roots).map Summary.mk

/-- The number of all converted files, if it fits into a word. -/
def total? (s : Summary) : Option UInt64 := s.roots.foldlM (fun n r => checkedAdd n r.2) 0

/-! ### What a record changes -/

theorem foldl_add (rs : List (String × UInt64)) (n : UInt64) :
    rs.foldl (fun n r => n + r.2) n = n + total ⟨rs⟩ := by
  induction rs generalizing n with
  | nil => exact (UInt64.add_zero n).symm
  | cons r rs ih => rw [total, List.foldl_cons, List.foldl_cons, ih, ih, UInt64.zero_add,
      UInt64.add_assoc]

theorem total_cons (r : String × UInt64) (rs : List (String × UInt64)) :
    total ⟨r :: rs⟩ = r.2 + total ⟨rs⟩ := by
  rw [total, List.foldl_cons, foldl_add, UInt64.zero_add]

theorem total_recordIn (label : String) (n : UInt64) (rs : List (String × UInt64)) :
    total ⟨recordIn label n rs⟩ = total ⟨rs⟩ + n := by
  induction rs with
  | nil => rw [recordIn, total_cons, UInt64.add_comm]
  | cons r rs ih =>
    rw [recordIn]
    split
    · rw [total_cons, total_cons, UInt64.add_assoc, UInt64.add_assoc, UInt64.add_comm n]
    · rw [total_cons, total_cons, ih, UInt64.add_assoc]

/-- A record adds its number to the total. -/
theorem total_record (s : Summary) (label : String) (n : UInt64) :
    (s.record label n).total = s.total + n := total_recordIn label n s.roots

theorem lookup_recordIn (label l : String) (n : UInt64) (rs : List (String × UInt64)) :
    ((recordIn label n rs).lookup l).getD 0 =
      (rs.lookup l).getD 0 + if l = label then n else 0 := by
  induction rs with
  | nil =>
    by_cases h : l = label
    · simp [recordIn, h]
    · have : (l == label) = false := by simpa using h
      simp [recordIn, List.lookup_cons, this, h]
  | cons r rs ih =>
    obtain ⟨k, m⟩ := r
    by_cases hk : k = label
    · subst hk
      by_cases h : l = k
      · simp [recordIn, h]
      · have : (l == k) = false := by simpa using h
        simp [recordIn, List.lookup_cons, this, h]
    · by_cases h : l = k
      · subst h
        simp [recordIn, hk]
      · have : (l == k) = false := by simpa using h
        simp [recordIn, List.lookup_cons, this, hk, ih]

/-- A record adds its number to the count of its label and leaves the other counts alone. -/
theorem count_record (s : Summary) (label l : String) (n : UInt64) :
    (s.record label n).count l = s.count l + if l = label then n else 0 :=
  lookup_recordIn label l n s.roots

end Summary

end Restyle
