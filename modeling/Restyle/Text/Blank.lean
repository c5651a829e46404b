import Restyle.Text.Ranges

/-!
# Blank characters

The characters with the property `White_Space`: the ASCII blanks and line ends, next line,
no-break space, and the spaces and separators of the general punctuation. The zero-width space,
the byte order mark and the Mongolian vowel separator are not blank.

## Main definitions

* `Restyle.Text.blankRanges`, `Restyle.Text.isBlank`.
-/

namespace Restyle.Text

/-- The code points with the property `White_Space`. -/
def blankRanges : List (Nat × Nat) :=
  [(0x9, 0xD), (0x20, 0x20), (0x85, 0x85), (0xA0, 0xA0), (0x1680, 0x1680), (0x2000, 0x200A),
   (0x2028, 0x2029), (0x202F, 0x202F), (0x205F, 0x205F), (0x3000, 0x3000)]

/-- Whether a character is white space. -/
def isBlank (c : Char) : Bool := inRanges c.toNat blankRanges

/-- Every ASCII white-space character is blank. -/
theorem isBlank_of_isWhitespace {c : Char} (h : c.isWhitespace) : isBlank c := by
  simp only [Char.isWhitespace, Bool.or_eq_true, decide_eq_true_eq] at h
  rcases h with ((rfl | rfl) | rfl) | rfl <;> decide

/-- Letters and digits are not blank. -/
theorem not_isBlank_of_isAlphanum {c : Char} (h : c.isAlphanum) : ¬ isBlank c := by
  have hletters : c.isAlphanum =
      (decide (65 ≤ c.val ∧ c.val ≤ 90) || decide (97 ≤ c.val) && decide (c.val ≤ 122) ||
        decide (48 ≤ c.val) && decide (c.val ≤ 57)) := rfl
  have hbounds : 48 ≤ c.toNat ∧ c.toNat ≤ 122 := by
    simp only [hletters, Bool.or_eq_true, Bool.and_eq_true, decide_eq_true_eq,
      UInt32.le_iff_toNat_le] at h
    simp at h
    omega
  simp only [isBlank, blankRanges, inRanges_cons, inRanges_nil]
  grind

end Restyle.Text
