import Restyle.Pattern.Escape

/-!
# Sets in brackets

A bracket expression lists characters, ranges, escapes, named sets such as `[:alpha:]` and further
bracket expressions; a circumflex at its beginning takes the complement. Two ampersands, hyphens or
tildes stand between two such lists for their intersection, difference or symmetric difference, and
associate to the left. A closing bracket at the very beginning, and hyphens at the beginning or the
end, stand for themselves.

## Main definitions

* `Restyle.BracketLevel` — an open bracket expression.
* `Restyle.readBracket` — reads a bracket expression after its opening bracket.
-/

namespace Restyle

/-- An operation between two lists of a bracket expression. -/
inductive SetOperation where
  | inter
  | diff
  | symmDiff

/-- The set that an operation makes. -/
def SetOperation.apply : SetOperation → CharSet → CharSet → CharSet
  | inter, a, b => a.inter b
  | diff, a, b => a.diff b
  | symmDiff, a, b => a.symmDiff b

/-- A part of a bracket expression: its set, and how deep its own parts are nested. -/
structure BracketPart where
  set : CharSet
  depth : Nat

/-- An open bracket expression: whether it is a complement, the operation that waits for its right
operand with the left one, and the parts listed since, the last first. -/
structure BracketLevel where
  negated : Bool
  pending : Option (SetOperation × BracketPart)
  items : List BracketPart

namespace BracketLevel

/-- Adds a part to the open list. -/
def add (l : BracketLevel) (part : BracketPart) : BracketLevel :=
  { l with items := part :: l.items }

/-- Adds a set without parts of its own to the open list. -/
def addSet (l : BracketLevel) (set : CharSet) : BracketLevel := l.add ⟨set, 0⟩

/-- The open list as one part. Several parts in a list are nested in it. -/
def listed (l : BracketLevel) : BracketPart :=
  match l.items with
  | [part] => part
  | parts =>
    ⟨.unionAll (parts.map (·.set)),
      if parts.isEmpty then 0 else (parts.map (·.depth)).foldl max 0 + 1⟩

/-- The open list, combined with the operand that waits for it. -/
def operand (l : BracketLevel) (f : Flags) : BracketPart :=
  match l.pending with
  | none => l.listed
  | some (op, left) =>
    ⟨op.apply (f.foldCase left.set) (f.foldCase l.listed.set), max left.depth l.listed.depth + 1⟩

/-- Begins the right operand of an operation. -/
def operate (l : BracketLevel) (f : Flags) (op : SetOperation) : BracketLevel :=
  { l with pending := some (op, l.operand f), items := [] }

/-- The part that a bracket expression makes which ends here. Case variants are added before the
complement is taken. -/
def close (l : BracketLevel) (f : Flags) : Except Fault BracketPart := do
  let content := l.operand f
  return ⟨← f.complIf l.negated (f.foldCase content.set), content.depth + 1⟩

end BracketLevel

/-- Reads the hyphens at the beginning of a bracket expression: how many there are, and what
follows. -/
def readHyphens (f : Flags) (inComment : Bool) : List Char → Nat × List Char
  | [] => (0, [])
  | c :: cs =>
    if inComment then readHyphens f (c != '\n') cs
    else if c == '-' then
      let (n, after) := readHyphens f false cs
      (n + 1, after)
    else if f.spaced && (Text.isBlank c || c == '#') then readHyphens f (c == '#') cs
    else (0, c :: cs)

/-- Begins a bracket expression, after its opening bracket. -/
def openBracket (f : Flags) (cs : List Char) : Except Fault (BracketLevel × List Char) :=
  let (negated, cs) :=
    match f.skip cs with
    | '^' :: cs => (true, f.skip cs)
    | cs => (false, cs)
  let (hyphens, cs) := readHyphens f false cs
  let level : BracketLevel := ⟨negated, none, List.replicate hyphens ⟨.char '-', 0⟩⟩
  match hyphens, cs with
  | _, [] => .error .unclosedBracket
  | 0, ']' :: cs => .ok (level.addSet (.char ']'), f.skip cs)
  | _, cs => .ok (level, cs)

/-- Reads the name of a set after the bracket and the colon that open it, up to the colon and the
bracket that close it. A name that is unknown or not closed is none. -/
def readClassName? (cs : List Char) : Option (CharSet × List Char) :=
  match cs.dropWhile (· != ':') with
  | ':' :: ']' :: after =>
    (CharSet.asciiClass? (String.ofList (cs.takeWhile (· != ':')))).map (·, after)
  | _ => none

/-- The named set that follows an opening bracket, such as `:alpha:]`, whether the characters
outside it are meant, and what follows it. -/
def readNamedSet? : List Char → Option (Bool × CharSet × List Char)
  | ':' :: '^' :: cs => (readClassName? cs).map (true, ·)
  | ':' :: cs => (readClassName? cs).map (false, ·)
  | _ => none

/-- A character in a bracket expression. Without Unicode it would be a byte, which is a character in
ASCII only. -/
def member (f : Flags) (c : Char) : Except Fault Char :=
  if f.unicode || c.toNat < 128 then .ok c else .error .notText

/-- Reads a character or an escape. -/
def readAtom (f : Flags) : List Char → Except Fault (Atom × List Char)
  | [] => .error .unclosedBracket
  | '\\' :: cs => readEscape f cs
  | c :: cs => .ok (.char c, cs)

/-- Whether the hyphen that the text begins with, if it does, stands between the ends of a range:
it does not before the closing bracket or before another hyphen. -/
def continuesRange (f : Flags) : List Char → Bool
  | '-' :: cs => f.peek cs != some ']' && f.peek cs != some '-'
  | _ => false

/-- Reads a character, a range or an escape of a bracket expression. -/
def readBracketItem (f : Flags) (cs : List Char) : Except Fault (CharSet × List Char) := do
  let (low, cs) ← readAtom f cs
  let cs := f.skip cs
  if continuesRange f cs then
    let (high, after) ← readAtom f (f.skip (cs.drop 1))
    match low, high with
    | .char a, .char b =>
      if a ≤ b then return (.range (← member f a) (← member f b), after) else throw .badRange
    | _, _ => throw .badRange
  else
    match low with
    | .char a => return (.char (← member f a), cs)
    | .set s => return (s, cs)
    | .anchor _ => throw .anchorInBracket

/-- Reads a bracket expression, and those around it, to the end of the outermost one; with a bound
on the number of parts that is larger than the number of characters left. -/
def readBracketFrom (f : Flags) :
    Nat → BracketLevel → List BracketLevel → List Char → Except Fault (BracketPart × List Char)
  | 0, _, _, _ => .error .unclosedBracket
  | n + 1, level, outer, cs =>
    match f.skip cs with
    | [] => .error .unclosedBracket
    | ']' :: cs => do
      let part ← level.close f
      match outer with
      | [] => return (part, cs)
      | up :: outer => readBracketFrom f n (up.add part) outer cs
    | '[' :: cs =>
      match readNamedSet? cs with
      | some (negated, set, after) => do
        readBracketFrom f n (level.addSet (← f.complIf negated (f.foldCase set))) outer after
      | none => do
        let (inner, after) ← openBracket f cs
        readBracketFrom f n inner (level :: outer) after
    | '&' :: '&' :: cs => readBracketFrom f n (level.operate f .inter) outer cs
    | '-' :: '-' :: cs => readBracketFrom f n (level.operate f .diff) outer cs
    | '~' :: '~' :: cs => readBracketFrom f n (level.operate f .symmDiff) outer cs
    | cs => do
      let (set, after) ← readBracketItem f cs
      readBracketFrom f n (level.addSet set) outer after

/-- Reads a bracket expression after its opening bracket. -/
def readBracket (f : Flags) (cs : List Char) : Except Fault (BracketPart × List Char) := do
  let (level, after) ← openBracket f cs
  readBracketFrom f (after.length + 1) level [] after

end Restyle
