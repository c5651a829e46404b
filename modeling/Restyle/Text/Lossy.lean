/-!
# Showing bytes as text

Bytes that should be UTF-8 but need not be are shown with a replacement character for each stretch
that is not: the longest beginning of a well-formed character, or a single byte if it begins none.

## Main definitions

* `Restyle.Text.decodeParts` — the characters and the stretches that are none.
* `Restyle.Text.lossy` — the text that is shown.
-/

namespace Restyle.Text

/-- Whether a byte continues a character. -/
def isContinuation (b : UInt8) : Bool := 0x80 ≤ b && b ≤ 0xBF

/-- Whether a byte may come second after the byte `lead`, which begins a character of several
bytes. The narrower ranges exclude long forms, surrogates and code points that are too large. -/
def isSecond (lead b : UInt8) : Bool :=
  if lead == 0xE0 then 0xA0 ≤ b && b ≤ 0xBF
  else if lead == 0xED then 0x80 ≤ b && b ≤ 0x9F
  else if lead == 0xF0 then 0x90 ≤ b && b ≤ 0xBF
  else if lead == 0xF4 then 0x80 ≤ b && b ≤ 0x8F
  else isContinuation b

/-- The character with the given leading bits and continuation bytes. -/
def assemble (bits : UInt8) (continuations : List UInt8) : Char :=
  Char.ofNat (continuations.foldl (fun n b => n * 64 + (b.toNat - 0x80)) bits.toNat)

/-- The characters that bytes encode, with nothing in place of each stretch that encodes none. -/
def decodeParts : List UInt8 → List (Option Char)
  | [] => []
  | a :: rest =>
    if a < 0x80 then some (Char.ofNat a.toNat) :: decodeParts rest
    else if a < 0xC2 || 0xF4 < a then none :: decodeParts rest
    else
      match rest with
      | [] => [none]
      | b :: rest =>
        if !isSecond a b then none :: decodeParts (b :: rest)
        else if a < 0xE0 then some (assemble (a - 0xC0) [b]) :: decodeParts rest
        else
          match rest with
          | [] => [none]
          | c :: rest =>
            if !isContinuation c then none :: decodeParts (c :: rest)
            else if a < 0xF0 then some (assemble (a - 0xE0) [b, c]) :: decodeParts rest
            else
              match rest with
              | [] => [none]
              | d :: rest =>
                if !isContinuation d then none :: decodeParts (d :: rest)
                else some (assemble (a - 0xF0) [b, c, d]) :: decodeParts rest

/-- The text that bytes are shown as. -/
def lossy (bytes : List UInt8) : String :=
  String.ofList ((decodeParts bytes).map (·.getD '\ufffd'))

end Restyle.Text
