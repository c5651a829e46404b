import Restyle.Pattern.Bracket
import Restyle.Pattern.Weight
import Restyle.Text.Letter

/-!
# Patterns and how they are written

A pattern is read from left to right, keeping the groups that are open. An open group holds the
alternatives that are finished and the parts of the one being read. Circumflex and dollar sign hold
at line ends, and a dot does not match one, unless a flag says otherwise; flags given inside a group
hold to its end.

## Main definitions

* `Restyle.Pattern` — a shape with the names of its groups.
* `Restyle.PatternReader`, `Restyle.PatternReader.step` — the state of reading and one step of it.
* `Restyle.Pattern.readWithin` — the pattern that a text writes, or why it writes none, with any
  size check.
* `Restyle.Pattern.read` — the same with the size check by weight.
-/

namespace Restyle

/-- A pattern: the shape it looks for and the numbers of its named groups. -/
structure Pattern where
  shape : Shape
  names : List (List Char × Nat)

/-- A part of an alternative being read: its shape, or nothing for a change of flags; and how deep
it is nested. -/
structure PatternPart where
  shape : Option Shape
  depth : Nat

/-- An open group: its number if its text is remembered, the flags in force around it, its finished
alternatives and the parts of the open one, the last first. -/
structure GroupLevel where
  index : Option Nat
  outside : Flags
  alternatives : List PatternPart
  parts : List PatternPart

/-- The state of reading a pattern: the text left, the flags in force, the innermost open group,
those around it, the number of the last remembered group, and the names given so far. -/
structure PatternReader where
  rest : List Char
  flags : Flags
  level : GroupLevel
  outer : List GroupLevel
  groups : Nat
  names : List (List Char × Nat)

namespace PatternPart

/-- A character of a set. -/
def one (set : CharSet) : PatternPart := ⟨some (.ofSet set), 0⟩

/-- An anchor. -/
def anchor (a : Anchor) : PatternPart := ⟨some (.anchor a), 0⟩

/-- A change of flags. -/
def flags : PatternPart := ⟨none, 0⟩

/-- One more than the greatest depth of the parts of a list. -/
def depthAround (parts : List PatternPart) : Nat := (parts.map (·.depth)).foldl max 0 + 1

/-- The parts of a list, last first, in sequence. -/
def sequence (parts : List PatternPart) : PatternPart :=
  match parts with
  | [] => ⟨some .empty, 0⟩
  | [part] => part
  | parts => ⟨some (.sequence (parts.reverse.filterMap (·.shape))), depthAround parts⟩

/-- A choice of the parts of a list, last first. -/
def choice (parts : List PatternPart) : PatternPart :=
  match parts with
  | [part] => part
  | parts =>
    ⟨some (.choice (parts.reverse.map fun p => p.shape.getD .empty)), depthAround parts⟩

end PatternPart

namespace GroupLevel

/-- The whole of what a group holds. -/
def content (l : GroupLevel) : PatternPart :=
  .choice (.sequence l.parts :: l.alternatives)

end GroupLevel

/-- Whether a character may stand in the name of a group, at its beginning or later. -/
def isGroupNameChar (first : Bool) (c : Char) : Bool :=
  if first then c == '_' || Text.isLetter c
  else c == '_' || c == '.' || c == '[' || c == ']' || Text.isLetter c || Text.isNumeral c

/-- Reads the name of a group, up to the angle bracket that closes it. -/
def readGroupName (cs : List Char) : Except Fault (List Char × List Char) :=
  match cs.takeWhile (· != '>'), cs.dropWhile (· != '>') with
  | c :: name, _ :: after =>
    if isGroupNameChar true c && name.all (isGroupNameChar false) then .ok (c :: name, after)
    else .error .badGroupName
  | _, _ => .error .badGroupName

/-- Reads flags up to the colon or the closing parenthesis after them: the flags in force then,
whether there were any, and whether a colon ended them. `seen` are the flags that were given,
`negating` tells whether a hyphen stands before, and `dash` whether it stands directly before. -/
def readFlags (f : Flags) (seen : List Flag) (negating dash : Bool) :
    List Char → Except Fault (Flags × Bool × Bool × List Char)
  | [] => .error .unclosedGroup
  | c :: cs =>
    if c == ':' || c == ')' then
      if dash then .error .danglingNegation else .ok (f, !seen.isEmpty, c == ':', cs)
    else if c == '-' then
      if negating then .error .danglingNegation else readFlags f seen true true cs
    else
      match Flag.ofChar? c with
      | none => .error .unknownFlag
      | some flag =>
        if seen.contains flag then .error .repeatedFlag
        else readFlags (f.set flag (!negating)) (flag :: seen) negating false cs

/-- The digits at the beginning of a text, and what follows them. What does not count is left out,
`inComment` telling whether a comment is open. -/
def takeDigits (f : Flags) (inComment : Bool) : List Char → List Char × List Char
  | [] => ([], [])
  | c :: cs =>
    if inComment then takeDigits f (c != '\n') cs
    else if c.isDigit then
      let (digits, after) := takeDigits f false cs
      (c :: digits, after)
    else if f.spaced && (Text.isBlank c || c == '#') then takeDigits f (c == '#') cs
    else ([], c :: cs)

/-- Reads a number with blanks around it. There may be no digits at all. -/
def readCount (f : Flags) (cs : List Char) : Except Fault (Option Nat × List Char) :=
  let (digits, after) := takeDigits f false (cs.dropWhile Text.isBlank)
  let after := after.dropWhile Text.isBlank
  let n := digits.foldl (fun n c => 10 * n + (c.toNat - '0'.toNat)) 0
  if digits.isEmpty then .ok (none, after)
  else if n < UInt32.size then .ok (some n, after)
  else .error .badCount

/-- Reads the bounds of a repetition after its opening brace. -/
def readBounds (f : Flags) (cs : List Char) : Except Fault (Nat × Option Nat × List Char) := do
  match ← readCount f (f.skip cs) with
  | (some n, '\x7d' :: after) => return (n, some n, f.skip after)
  | (some n, ',' :: cs) =>
    match f.skip cs with
    | '\x7d' :: after => return (n, none, f.skip after)
    | cs =>
      match ← readCount f cs with
      | (some m, '\x7d' :: after) =>
        if n ≤ m then return (n, some m, f.skip after) else throw .badCount
      | _ => throw .badCount
  | _ => throw .badCount

namespace PatternReader

/-- The state before a pattern is read. -/
def start (text : List Char) : PatternReader :=
  ⟨text, {}, ⟨none, {}, [], []⟩, [], 0, []⟩

/-- Adds a part to the open alternative, `after` being left to read. -/
def add (r : PatternReader) (part : PatternPart) (after : List Char) : PatternReader :=
  { r with rest := after, level := { r.level with parts := part :: r.level.parts } }

/-- Adds an atom to the open alternative. -/
def addAtom (r : PatternReader) (atom : Atom) (after : List Char) :
    Except Fault PatternReader := do
  match atom with
  | .char c => return r.add (.one (r.flags.foldCase (.char c))) after
  | .set s => return r.add (.one s) after
  | .anchor a => return r.add (.anchor a) after

/-- Opens a group, with flags of its own. -/
def openGroup (r : PatternReader) (index : Option Nat) (inside : Flags) (after : List Char) :
    PatternReader :=
  { r with
    rest := after, flags := inside, level := ⟨index, r.flags, [], []⟩, outer := r.level :: r.outer,
    groups := index.getD r.groups }

/-- Begins the next alternative of the open group. -/
def openAlternative (r : PatternReader) (after : List Char) : PatternReader :=
  let done := PatternPart.sequence r.level.parts
  { r with
    rest := after,
    level := { r.level with alternatives := done :: r.level.alternatives, parts := [] } }

/-- Closes the innermost group. -/
def closeGroup (r : PatternReader) (after : List Char) : Except Fault PatternReader :=
  match r.outer with
  | [] => .error .unopenedGroup
  | up :: outer =>
    let content := r.level.content
    let shape := content.shape.getD .empty
    let shape := match r.level.index with
      | some i => .group i shape
      | none => shape
    .ok ({ r with flags := r.level.outside, level := up, outer := outer }.add
      ⟨some shape, content.depth + 1⟩ after)

/-- Reads what follows an opening parenthesis. -/
def readGroup (r : PatternReader) (cs : List Char) : Except Fault PatternReader :=
  let next := r.groups + 1
  let named (cs : List Char) : Except Fault PatternReader := do
    let (name, after) ← readGroupName cs
    if (r.names.lookup name).isSome then throw .duplicateGroupName
    return { r.openGroup (some next) r.flags after with names := (name, next) :: r.names }
  match r.flags.skip cs with
  | '?' :: '=' :: _ | '?' :: '!' :: _ | '?' :: '<' :: '=' :: _ | '?' :: '<' :: '!' :: _ =>
    .error .lookAround
  | '?' :: 'P' :: '<' :: cs => named cs
  | '?' :: '<' :: cs => named cs
  | '?' :: cs => do
    let (inside, given, colon, after) ← readFlags r.flags [] false false cs
    if colon then return r.openGroup none inside after
    else if given then return { r with flags := inside }.add .flags after
    else throw .nothingToRepeat
  | cs => .ok (r.openGroup (some next) r.flags cs)

/-- Repeats the last part of the open alternative. A question mark after the repetition turns its
preference round. -/
def repeatLast (r : PatternReader) (least : Nat) (most : Option Nat) (after : List Char) :
    Except Fault PatternReader :=
  match r.level.parts with
  | ⟨some shape, depth⟩ :: parts =>
    let (lazy, after) : Bool × List Char :=
      match after with
      | '?' :: cs => (true, cs)
      | cs => (false, cs)
    let shape := shape.repetition least most (r.flags.preference lazy)
    .ok ({ r with level := { r.level with parts := parts } }.add ⟨some shape, depth + 1⟩ after)
  | _ => .error .nothingToRepeat

/-- Reads the next part of a pattern, which begins with the character `c`. -/
def step (r : PatternReader) (c : Char) (cs : List Char) : Except Fault PatternReader :=
  match c with
  | '(' => r.readGroup cs
  | ')' => r.closeGroup cs
  | '|' => .ok (r.openAlternative cs)
  | '[' => do
    let (part, after) ← readBracket r.flags cs
    return r.add { PatternPart.one part.set with depth := part.depth } after
  | '?' => r.repeatLast 0 (some 1) cs
  | '*' => r.repeatLast 0 none cs
  | '+' => r.repeatLast 1 none cs
  | '\x7b' => do
    let (least, most, after) ← readBounds r.flags cs
    r.repeatLast least most after
  | '\\' => do
    let (atom, after) ← readEscape r.flags cs
    r.addAtom atom after
  | '.' => do r.addAtom (.set (← r.flags.dot)) cs
  | '^' => r.addAtom (.anchor r.flags.lineStart) cs
  | '$' => r.addAtom (.anchor r.flags.lineEnd) cs
  | c => r.addAtom (.char c) cs

/-- How deep the parts of a pattern may be nested. -/
def depthLimit : Nat := 250

/-- The pattern that has been read when no text is left. -/
def finish (r : PatternReader) : Except Fault Pattern :=
  if !r.outer.isEmpty then .error .unclosedGroup
  else
    let content := r.level.content
    let shape := content.shape.getD .empty
    if depthLimit < content.depth then .error .tooDeep else .ok ⟨shape, r.names⟩

/-- Reads the rest of a pattern, with a bound on the number of steps that is larger than the number
of characters left. -/
def readFrom : Nat → PatternReader → Except Fault Pattern
  | 0, _ => .error .unclosedGroup
  | n + 1, r =>
    match r.flags.skip r.rest with
    | [] => r.finish
    | c :: cs => do readFrom n (← r.step c cs)

end PatternReader

namespace Pattern

/-- The pattern that a text writes, if it is not too large. -/
def readWithin (tooLarge : SizeCheck) (text : List Char) : Except Fault Pattern := do
  let pattern ← PatternReader.readFrom (text.length + 1) (.start text)
  if tooLarge pattern.shape then throw .tooLarge
  return pattern

/-- The pattern that a text writes, with the size check by weight. -/
def read (text : List Char) : Except Fault Pattern := readWithin Shape.isTooHeavy text

end Pattern

end Restyle
