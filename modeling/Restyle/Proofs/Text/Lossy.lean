import Mathlib
import Restyle.Text.Lossy

/-!
# Searching in the text that bytes are shown as

Bytes in ASCII are shown as their characters, and every other stretch as a character outside ASCII,
whether it encodes a character or not. So a word in ASCII stands in the text that bytes are shown as
exactly if its bytes stand in the bytes.

## Main definitions

* `Restyle.Text.asciiChar` — the character of a byte in ASCII.
* `Restyle.Text.Shows` — bytes are shown as a text, stretch by stretch.

## Main results

* `Restyle.Text.shows_lossy` — how bytes are shown.
* `Restyle.Text.infix_lossy_iff` — which words in ASCII stand in the text.
-/

namespace Restyle.Text

variable {a b c d : UInt8} {bytes word : List UInt8} {text : List Char}

/-- The character of a byte in ASCII. -/
def asciiChar (b : UInt8) : Char := Char.ofNat b.toNat

/-- How bytes are shown as a text: those in ASCII as their characters, and every other stretch as a
character that is not in ASCII. -/
inductive Shows : List UInt8 → List Char → Prop
  | nil : Shows [] []
  | ascii {b : UInt8} {rest : List UInt8} {text : List Char} (hb : b < 0x80)
      (later : Shows rest text) : Shows (b :: rest) (asciiChar b :: text)
  | other {b : UInt8} {v rest : List UInt8} {c : Char} {text : List Char}
      (hv : ∀ d ∈ b :: v, 0x80 ≤ d.toNat) (hc : 0x80 ≤ c.toNat) (later : Shows rest text) :
      Shows (b :: (v ++ rest)) (c :: text)

/-! ### Characters of several bytes -/

theorem toNat_ofNat_of_isValidChar {n : Nat} (h : n.isValidChar) : (Char.ofNat n).toNat = n := by
  rw [Char.toNat_ofNat, if_pos h]

theorem toNat_asciiChar (hb : b < 0x80) : (asciiChar b).toNat = b.toNat := by
  have hlt : b.toNat < 0x80 := hb
  exact toNat_ofNat_of_isValidChar (.inl (by omega))

theorem asciiChar_inj (ha : a < 0x80) (hb : b < 0x80) : asciiChar a = asciiChar b ↔ a = b := by
  refine ⟨fun h => UInt8.toNat_inj.1 ?_, fun h => h ▸ rfl⟩
  rw [← toNat_asciiChar ha, ← toNat_asciiChar hb, h]

theorem toNat_of_isContinuation (h : isContinuation b) : 0x80 ≤ b.toNat ∧ b.toNat ≤ 0xBF := by
  simpa [isContinuation, UInt8.le_iff_toNat_le] using h

/-- The second byte of a character continues it, and narrows down the first one. -/
theorem toNat_of_isSecond (h : isSecond a b) : 0x80 ≤ b.toNat ∧ b.toNat ≤ 0xBF ∧
    (a.toNat = 0xE0 → 0xA0 ≤ b.toNat) ∧ (a.toNat = 0xED → b.toNat ≤ 0x9F) ∧
    (a.toNat = 0xF0 → 0x90 ≤ b.toNat) ∧ (a.toNat = 0xF4 → b.toNat ≤ 0x8F) := by
  simp only [isSecond, isContinuation, UInt8.le_iff_toNat_le, beq_iff_eq, ← UInt8.toNat_inj] at h
  split_ifs at h <;> simp at h <;> simp_all <;> omega

/-- The first byte of a character of several bytes. -/
theorem toNat_of_isLead (h : ¬ (a < 0xC2 || 0xF4 < a) = true) :
    0xC2 ≤ a.toNat ∧ a.toNat ≤ 0xF4 := by
  simpa [UInt8.lt_iff_toNat_lt] using h

/-- A character that a first byte and some others make is not in ASCII if their bits make a number
that is not. -/
theorem le_toNat_assemble {lead : UInt8} {continuations : List UInt8} {n : Nat}
    (hlead : lead.toNat ≤ a.toNat)
    (hn : continuations.foldl (fun n b => n * 64 + (b.toNat - 0x80)) (a.toNat - lead.toNat) = n)
    (hvalid : n.isValidChar) (hle : 0x80 ≤ n) :
    0x80 ≤ (assemble (a - lead) continuations).toNat := by
  have hbits : (a - lead).toNat = a.toNat - lead.toNat :=
    UInt8.toNat_sub_of_le _ _ (UInt8.le_iff_toNat_le.2 hlead)
  rw [assemble, hbits, hn, toNat_ofNat_of_isValidChar hvalid]
  exact hle

theorem le_toNat_assemble_two (ha : 0xC2 ≤ a.toNat) (hshort : a.toNat < 0xE0) (hb : isSecond a b) :
    0x80 ≤ (assemble (a - 0xC0) [b]).toNat := by
  have hlead : (0xC0 : UInt8).toNat = 0xC0 := rfl
  have hsecond := toNat_of_isSecond hb
  exact le_toNat_assemble (by omega) rfl (.inl (by simp only [List.foldl, hlead]; omega))
    (by simp only [List.foldl, hlead]; omega)

theorem le_toNat_assemble_three (ha : 0xE0 ≤ a.toNat) (hshort : a.toNat < 0xF0) (hb : isSecond a b)
    (hc : isContinuation c) : 0x80 ≤ (assemble (a - 0xE0) [b, c]).toNat := by
  have hlead : (0xE0 : UInt8).toNat = 0xE0 := rfl
  have hsecond := toNat_of_isSecond hb
  have hthird := toNat_of_isContinuation hc
  -- there are no characters between those with a smaller first byte than 0xEE and the others
  have hvalid : ((a.toNat - 0xE0) * 64 + (b.toNat - 0x80)) * 64 + (c.toNat - 0x80) < 0xD800 ∨
      0xDFFF < ((a.toNat - 0xE0) * 64 + (b.toNat - 0x80)) * 64 + (c.toNat - 0x80) := by omega
  exact le_toNat_assemble (by omega) rfl
    (hvalid.imp id fun h => ⟨h, by simp only [List.foldl, hlead]; omega⟩)
    (by simp only [List.foldl, hlead]; omega)

theorem le_toNat_assemble_four (ha : 0xF0 ≤ a.toNat) (hlast : a.toNat ≤ 0xF4) (hb : isSecond a b)
    (hc : isContinuation c) (hd : isContinuation d) :
    0x80 ≤ (assemble (a - 0xF0) [b, c, d]).toNat := by
  have hlead : (0xF0 : UInt8).toNat = 0xF0 := rfl
  have hsecond := toNat_of_isSecond hb
  have hthird := toNat_of_isContinuation hc
  have hfourth := toNat_of_isContinuation hd
  exact le_toNat_assemble (by omega) rfl
    (.inr ⟨by simp only [List.foldl, hlead]; omega, by simp only [List.foldl, hlead]; omega⟩)
    (by simp only [List.foldl, hlead]; omega)

/-! ### How bytes are shown -/

theorem le_toNat_replacement : 0x80 ≤ '\ufffd'.toNat := by decide

theorem le_toNat_of_not_lt (h : ¬ a < 0x80) : 0x80 ≤ a.toNat := by
  simpa [UInt8.lt_iff_toNat_lt] using h

/-- **How bytes are shown.** -/
theorem shows_decodeParts (bytes : List UInt8) :
    Shows bytes ((decodeParts bytes).map (·.getD '\ufffd')) := by
  fun_induction decodeParts bytes with
  | case1 => exact .nil
  | case2 a rest ha ih => exact .ascii ha ih
  | case3 a rest ha _ ih =>
    exact .other (v := []) (by simpa using le_toNat_of_not_lt ha) le_toNat_replacement ih
  | case4 a ha _ =>
    exact .other (v := []) (by simpa using le_toNat_of_not_lt ha) le_toNat_replacement .nil
  | case5 a ha _ b rest _ ih =>
    exact .other (v := []) (by simpa using le_toNat_of_not_lt ha) le_toNat_replacement ih
  | case6 a ha hlead b rest hb hshort ih =>
    have hfirst := toNat_of_isLead hlead
    have hb : isSecond a b := by simpa using hb
    have hsecond := toNat_of_isSecond hb
    have hshort : a.toNat < 0xE0 := by simpa [UInt8.lt_iff_toNat_lt] using hshort
    rw [List.map_cons, Option.getD_some]
    exact .other (v := [b]) (by simp; omega) (le_toNat_assemble_two hfirst.1 hshort hb) ih
  | case7 a ha _ b hb _ =>
    have hsecond := toNat_of_isSecond (a := a) (b := b) (by simpa using hb)
    have hfirst := le_toNat_of_not_lt ha
    exact .other (v := [b]) (by simp; omega) le_toNat_replacement .nil
  | case8 a ha _ b hb _ c rest _ ih =>
    have hsecond := toNat_of_isSecond (a := a) (b := b) (by simpa using hb)
    have hfirst := le_toNat_of_not_lt ha
    exact .other (v := [b]) (by simp; omega) le_toNat_replacement ih
  | case9 a ha _ b hb hlong c rest hc hshort ih =>
    have hb : isSecond a b := by simpa using hb
    have hc : isContinuation c := by simpa using hc
    have hsecond := toNat_of_isSecond hb
    have hthird := toNat_of_isContinuation hc
    have hfirst : 0xE0 ≤ a.toNat := by simpa [UInt8.lt_iff_toNat_lt] using hlong
    have hshort : a.toNat < 0xF0 := by simpa [UInt8.lt_iff_toNat_lt] using hshort
    rw [List.map_cons, Option.getD_some]
    exact .other (v := [b, c]) (by simp; omega) (le_toNat_assemble_three hfirst hshort hb hc) ih
  | case10 a ha _ b hb _ c hc _ =>
    have hsecond := toNat_of_isSecond (a := a) (b := b) (by simpa using hb)
    have hthird := toNat_of_isContinuation (b := c) (by simpa using hc)
    have hfirst := le_toNat_of_not_lt ha
    exact .other (v := [b, c]) (by simp; omega) le_toNat_replacement .nil
  | case11 a ha _ b hb _ c hc _ d rest _ ih =>
    have hsecond := toNat_of_isSecond (a := a) (b := b) (by simpa using hb)
    have hthird := toNat_of_isContinuation (b := c) (by simpa using hc)
    have hfirst := le_toNat_of_not_lt ha
    exact .other (v := [b, c]) (by simp; omega) le_toNat_replacement ih
  | case12 a ha hlead b hb _ c hc hlong d rest hd ih =>
    have hb : isSecond a b := by simpa using hb
    have hc : isContinuation c := by simpa using hc
    have hd : isContinuation d := by simpa using hd
    have hsecond := toNat_of_isSecond hb
    have hthird := toNat_of_isContinuation hc
    have hfourth := toNat_of_isContinuation hd
    have hfirst : 0xF0 ≤ a.toNat := by simpa [UInt8.lt_iff_toNat_lt] using hlong
    have hlast := (toNat_of_isLead hlead).2
    rw [List.map_cons, Option.getD_some]
    exact .other (v := [b, c, d]) (by simp; omega)
      (le_toNat_assemble_four hfirst hlast hb hc hd) ih

theorem shows_lossy (bytes : List UInt8) : Shows bytes (lossy bytes).toList := by
  rw [lossy, String.toList_ofList]
  exact shows_decodeParts bytes

/-! ### Words in ASCII -/

/-- A word in ASCII stands at the beginning of a text exactly if its bytes do. -/
theorem Shows.prefix_iff (h : Shows bytes text) (hword : ∀ b ∈ word, b < 0x80) :
    word.map asciiChar <+: text ↔ word <+: bytes := by
  induction h generalizing word with
  | nil => simp
  | ascii hb _ ih =>
    cases word with
    | nil => simp
    | cons w word =>
      obtain ⟨hw, hword⟩ := List.forall_mem_cons.1 hword
      rw [List.map_cons, List.cons_prefix_cons, List.cons_prefix_cons, asciiChar_inj hw hb,
        ih hword]
  | @other b v rest c text hv hc _ _ =>
    cases word with
    | nil => simp
    | cons w word =>
      have hw := (List.forall_mem_cons.1 hword).1
      have hlt : w.toNat < 0x80 := hw
      have hle := (List.forall_mem_cons.1 hv).1
      refine iff_of_false (fun hprefix => ?_) (fun hprefix => ?_)
      · obtain ⟨rfl, -⟩ := List.cons_prefix_cons.1 hprefix
        rw [toNat_asciiChar hw] at hc
        omega
      · obtain ⟨rfl, -⟩ := List.cons_prefix_cons.1 hprefix
        omega

/-- A word in ASCII does not begin in a stretch that is not. -/
theorem infix_append_iff {stretch rest : List UInt8} (hstretch : ∀ b ∈ stretch, 0x80 ≤ b.toNat)
    (hne : word ≠ []) (hword : ∀ b ∈ word, b < 0x80) :
    word <:+: stretch ++ rest ↔ word <:+: rest := by
  induction stretch with
  | nil => rfl
  | cons b stretch ih =>
    obtain ⟨hb, hstretch⟩ := List.forall_mem_cons.1 hstretch
    rw [List.cons_append, List.infix_cons_iff, ih hstretch]
    refine or_iff_right fun hprefix => ?_
    obtain ⟨w, word, rfl⟩ := List.exists_cons_of_ne_nil hne
    obtain ⟨rfl, -⟩ := List.cons_prefix_cons.1 hprefix
    have hlt : w.toNat < 0x80 := (List.forall_mem_cons.1 hword).1
    omega

/-- **A word in ASCII stands in a text** that bytes are shown as exactly if its bytes stand in them.
-/
theorem Shows.infix_iff (h : Shows bytes text) (hne : word ≠ []) (hword : ∀ b ∈ word, b < 0x80) :
    word.map asciiChar <:+: text ↔ word <:+: bytes := by
  induction h with
  | nil => simp
  | ascii hb later ih =>
    rw [List.infix_cons_iff, List.infix_cons_iff, ih, (Shows.ascii hb later).prefix_iff hword]
  | @other b v rest c text hv hc later ih =>
    rw [List.infix_cons_iff, ih, ← List.cons_append, infix_append_iff hv hne hword]
    refine or_iff_right fun hprefix => ?_
    -- the character of the stretch is none of the word
    rw [(Shows.other hv hc later).prefix_iff hword] at hprefix
    obtain ⟨w, word, rfl⟩ := List.exists_cons_of_ne_nil hne
    obtain ⟨rfl, -⟩ := List.cons_prefix_cons.1 hprefix
    have hlt : w.toNat < 0x80 := (List.forall_mem_cons.1 hword).1
    have hle := (List.forall_mem_cons.1 hv).1
    omega

theorem infix_lossy_iff (hne : word ≠ []) (hword : ∀ b ∈ word, b < 0x80) :
    word.map asciiChar <:+: (lossy bytes).toList ↔ word <:+: bytes :=
  (shows_lossy bytes).infix_iff hne hword

end Restyle.Text
