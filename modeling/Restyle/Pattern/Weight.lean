import Restyle.Pattern.Shape

/-!
# The weight of a pattern

A pattern is recognised by two automata, one that reads the encoded text forwards and one that
reads it backwards. The weight of a pattern estimates their size in bytes: thirty-two bytes for a
state, and more for a state with several ways out, a repetition weighing as much as all its rounds
written out. A pattern is refused if one of its automata is too heavy. This is one size check among
others: patterns can be read with any.

The constants are those of version 1.10 of the pattern library, on a machine with words of 64 bits.

A character of a set is recognised by the bytes that encode it. The code points of a range fall
into *blocks*, in each of which every byte runs through a range of its own. Forwards, states that
lead to the end in the same way are one state; backwards, states that are reached from the end in
the same way are.

## Main definitions

* `Restyle.CharSet.blocks` — the ranges of bytes that encode the characters of a set.
* `Restyle.CharSet.weight`, `Restyle.Shape.weight` — the weight of a set, and of a shape.
* `Restyle.SizeCheck` — what tells the shapes that are too large.
* `Restyle.Shape.isTooHeavy` — the size check by weight.
-/

namespace Restyle

/-- A size check, which tells the shapes that are too large. -/
abbrev SizeCheck := Shape → Bool

/-- The direction in which an automaton reads. -/
inductive Direction where
  | forwards
  | backwards
  deriving DecidableEq

/-- Ranges of bytes, one for each byte of the encoding of a character. -/
abbrev Block := List (Nat × Nat)

namespace Block

/-- The blocks of the numbers from `low` to `high`, which are written with a first byte, to which
`lead` is added, and `n` continuation bytes of six bits each. -/
def ofDigits : Nat → Nat → Nat → Nat → List Block
  | 0, lead, low, high => [[(lead + low, lead + high)]]
  | n + 1, lead, low, high =>
    let unit := 64 ^ (n + 1)
    let first := low / unit
    let last := high / unit
    let under (digit low high : Nat) : List Block :=
      (ofDigits n 0x80 low high).map ((lead + digit, lead + digit) :: ·)
    if first = last then under first (low % unit) (high % unit)
    else
      let before := if low % unit = 0 then [] else under first (low % unit) (unit - 1)
      let after := if high % unit = unit - 1 then [] else under last 0 (high % unit)
      let first := if low % unit = 0 then first else first + 1
      let stop := if high % unit = unit - 1 then last + 1 else last
      let middle := if first < stop then
          [(lead + first, lead + stop - 1) :: List.replicate (n + 1) (0x80, 0xBF)]
        else []
      before ++ middle ++ after

/-- The bounds of the code points that are encoded with the same number of bytes, with the number
of continuation bytes and the first byte of the encoding of zero. The code points between the third
and the fourth range are not characters. -/
def lengths : List (Nat × Nat × Nat × Nat) :=
  [(0, 0x7F, 0, 0), (0x80, 0x7FF, 1, 0xC0), (0x800, 0xD7FF, 2, 0xE0), (0xE000, 0xFFFF, 2, 0xE0),
   (0x10000, 0x10FFFF, 3, 0xF0)]

/-- The blocks of the characters in a range of code points. -/
def ofRange (low high : Nat) : List Block :=
  lengths.flatMap fun (least, most, n, lead) =>
    let low := max low least
    let high := min high most
    if low ≤ high then ofDigits n lead low high else []

/-- The blocks of a list with the same first range, grouped, each without that range. Blocks of one
group are neighbours. -/
def groups : List Block → List ((Nat × Nat) × List Block)
  | [] => []
  | [] :: bs => groups bs
  | (r :: b) :: bs =>
    match groups bs with
    | (s, group) :: others =>
      if r = s then (r, b :: group) :: others else (r, [b]) :: (s, group) :: others
    | [] => [(r, [b])]

/-- The lists of blocks that can still follow after one more byte, for each of several lists. -/
def steps (states : List (List Block)) : List (List Block) :=
  (states.flatMap fun bs => (groups bs).map (·.2)).filter (· != [[]])

/-- The weight of the states of an automaton from which one of the given lists of blocks leads to
the end, and of the states after them, for at most `n` more bytes. -/
def weightFrom : Nat → List (List Block) → Nat
  | 0, _ => 0
  | n + 1, states =>
    let states := states.eraseDups
    (states.map fun bs => 32 + 8 * (groups bs).length).sum + weightFrom n (steps states)

/-- The number of different beginnings of blocks, at most `n` bytes long. -/
def beginnings : Nat → List Block → Nat
  | 0, _ => 0
  | n + 1, bs => ((groups bs).map fun (_, rest) => 1 + beginnings n rest).sum

end Block

namespace CharSet

/-- The ranges of bytes that encode the characters of a set. -/
def blocks (s : CharSet) : List Block := s.ranges.flatMap fun (low, high) => Block.ofRange low high

/-- The weight of the part of an automaton that recognises one character of a set. -/
def weight (d : Direction) (s : CharSet) : Nat :=
  if s.ranges.all (·.2 < 0x80) then 64 + 8 * s.ranges.length
  else
    match d with
    | .forwards => 32 + Block.weightFrom 4 [s.blocks]
    | .backwards => 64 + 4 * s.blocks.length + 32 * Block.beginnings 4 s.blocks

end CharSet

namespace Weight

/-- The bytes that encode a text, in the order in which they are read. -/
def bytes (d : Direction) (text : List Char) : List UInt8 :=
  let bytes := (String.ofList text).toUTF8.data.toList
  match d with
  | .forwards => bytes
  | .backwards => bytes.reverse

/-- The texts of a list without an empty text between them, and how often an empty text stands in
the list. Before the first other text it counts once. -/
def chunks (texts : List (List UInt8)) : List (List (List UInt8)) × Nat :=
  texts.foldr (fun t (chunks, ends) =>
    match t, chunks with
    | [], chunks => ([] :: chunks, ends + 1)
    | t, chunk :: chunks => ((t :: chunk) :: chunks, ends)
    | t, [] => ([[t]], ends)) ([[]], 0)

/-- The weight of the states of a tree of texts, of which each begins with `n` bytes at most. The
texts before an empty text of the list are tried before it, and those after it after it. -/
def tree : Nat → List (List UInt8) → Nat
  | 0, _ => 0
  | n + 1, texts =>
    let (chunks, ends) := chunks (texts.dropWhile List.isEmpty)
    let ends := if (texts.head?.any List.isEmpty) then ends + 1 else ends
    let chunks := chunks.filter (!·.isEmpty)
    32 + 4 * (chunks.length + ends) + (chunks.map fun chunk =>
      let leads := (chunk.filterMap List.head?).eraseDups
      (if leads.length = 1 then 32 else 32 + 8 * leads.length) +
        (leads.map fun lead =>
          let tails := chunk.filterMap fun t =>
            match t with
            | b :: bs => if b == lead then some bs else none
            | [] => none
          if tails.all List.isEmpty then 0 else tree n tails).sum).sum

/-- The weight of a choice of texts. -/
def texts (d : Direction) (texts : List (List Char)) : Nat :=
  let texts := texts.map (bytes d)
  32 + tree ((texts.map List.length).foldl max 0 + 1) texts

/-- The weight of a repetition of a body of a given weight. -/
def repetition (body least : Nat) (most : Option Nat) (canBeEmpty : Bool) : Nat :=
  match least, most with
  | 0, some 1 => body + 72
  | 0, none => if canBeEmpty then body + 112 else body + 40
  | least, none => least * body + 40
  | least, some most =>
    let required := if least = 0 then 32 else least * body
    if least = most then required else required + 32 + (most - least) * (body + 40)

end Weight

namespace Shape

/-- The text that is the whole of a shape, if there is one. -/
def text? : Shape → Option (List Char)
  | literal text => some text
  | _ => none

/-- The weight of the part of an automaton that recognises a shape, which may be a link of a
choice. -/
def weightIn (d : Direction) (inChoice : Bool) : Shape → Nat
  | empty | anchor _ => 32 + link
  | literal text => 32 * (text.map Char.utf8Size).sum + link
  | one set => set.weight d + link
  | seq a b => a.weightIn d false + b.weightIn d false + link
  | alt a b =>
    let links := a.weightIn d false + 4 + b.weightIn d true
    if inChoice then links
    else
      match (a :: b.alternatives).mapM text? with
      | some texts => Weight.texts d texts
      | none => 64 + links
  | group _ body => body.weightIn d false + (if d = .forwards then 64 else 0) + link
  | repeated body least most _ =>
    Weight.repetition (body.weightIn d false) least most body.canBeEmpty + link
where
  /-- The weight of the way into a link. -/
  link : Nat := if inChoice then 4 else 0

/-- The weight of the part of an automaton that recognises a shape. -/
def weight (d : Direction) (s : Shape) : Nat := s.weightIn d false

/-- The largest weight that an automaton may have: ten mebibytes. -/
def weightLimit : Nat := 10 * 1024 * 1024

/-- Whether a shape is too heavy. An automaton finds its beginning anywhere and has an end; forwards
it also remembers where a match begins and ends. -/
def isTooHeavy (s : Shape) : Bool :=
  weightLimit < s.weight .forwards + 208 || weightLimit < s.weight .backwards + 144

end Shape

end Restyle
