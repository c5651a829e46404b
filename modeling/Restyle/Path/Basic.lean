import Restyle.Text.Lossy

/-!
# Paths

A path is a sequence of bytes in which slashes separate names. Its *components* leave out what does
not matter for where it leads: repeated slashes, a slash at the end, and dots other than one at the
beginning. A path keeps its bytes, which show how it was written.

## Main definitions

* `Restyle.Name`, `Restyle.Path`, `Restyle.Path.toText`.
* `Restyle.Component`, `Restyle.Path.components`.
* `Restyle.Path.fileName?`, `Restyle.Path.directory` — the last name, and the path before it.
* `Restyle.Path.child` — a path with a name behind it.
* `Restyle.Path.relative` — the part of a path below another one.
-/

namespace Restyle

/-- A name in a directory. -/
abbrev Name := List UInt8

/-- The name that a text spells. -/
def Name.ofString (s : String) : Name := s.toUTF8.data.toList

/-- The text that a name spells, if it is well-formed. -/
def Name.text? (n : Name) : Option String := String.fromUTF8? n.toByteArray

/-- The separator of names in a path. -/
def slash : UInt8 := 0x2f

/-- The name of a directory in itself. -/
def dot : Name := [0x2e]

/-- The name of the directory above a directory in it. -/
def dotDot : Name := [0x2e, 0x2e]

/-- A path. -/
structure Path where
  bytes : List UInt8
  deriving DecidableEq

/-- A part of a path that matters for where it leads. -/
inductive Component where
  /-- the directory at the root of everything -/
  | root
  /-- the directory itself, at the beginning of a path -/
  | here
  /-- the directory above -/
  | up
  /-- a name in the directory -/
  | name (n : Name)
  deriving DecidableEq

/-- The pieces between slashes. There is always at least one piece. -/
def pieces : List UInt8 → List Name
  | [] => [[]]
  | b :: bs =>
    if b = slash then [] :: pieces bs
    else
      match pieces bs with
      | [] => [[b]]
      | p :: ps => (b :: p) :: ps

/-- The pieces with slashes between them. -/
def joinPieces : List Name → List UInt8
  | [] => []
  | [p] => p
  | p :: ps => p ++ slash :: joinPieces ps

/-- Whether a piece after the first does not matter for where a path leads. -/
def isIdle (p : Name) : Bool := p.isEmpty || p == dot

/-- The component of a piece after the first, if it matters. -/
def Component.ofPiece? (p : Name) : Option Component :=
  if isIdle p then none else if p = dotDot then some .up else some (.name p)

/-- Drops pieces from the end of a list as long as they do not matter. -/
def dropIdleEnd (ps : List Name) : List Name := (ps.reverse.dropWhile isIdle).reverse

/-- What follows the first `k` pieces of a list that matter. -/
def dropMattering : Nat → List Name → List Name
  | 0, ps => ps
  | _ + 1, [] => []
  | k + 1, p :: ps => if isIdle p then dropMattering (k + 1) ps else dropMattering k ps

namespace Path

/-- The path that a text writes. -/
def ofString (s : String) : Path := ⟨s.toUTF8.data.toList⟩

/-- The text that a path is shown as. -/
def toText (p : Path) : String := Text.lossy p.bytes

/-- The components of a path. -/
def components (p : Path) : List Component :=
  match pieces p.bytes with
  | [] => []
  | first :: more =>
    let rest := more.filterMap Component.ofPiece?
    if first.isEmpty then
      if more.isEmpty then [] else .root :: rest
    else if first = dot then .here :: rest
    else if first = dotDot then .up :: rest
    else .name first :: rest

/-- The last component of a path, if it is a name. -/
def fileName? (p : Path) : Option Name :=
  match p.components.getLast? with
  | some (.name n) => some n
  | _ => none

/-- The path before the last component of a path that ends in a name. -/
def directory (p : Path) : Path :=
  match pieces p.bytes with
  | [] => ⟨[]⟩
  | first :: more =>
    match dropIdleEnd more with
    | [] => ⟨[]⟩
    | more =>
      match dropIdleEnd more.dropLast with
      | [] => if first.isEmpty then ⟨[slash]⟩ else ⟨first⟩
      | kept => ⟨joinPieces (first :: kept)⟩

/-- The path of a name in the directory that a path leads to. -/
def child (p : Path) (n : Name) : Path :=
  if p.bytes.isEmpty then ⟨n⟩
  else if p.bytes.getLast? = some slash then ⟨p.bytes ++ n⟩
  else ⟨p.bytes ++ slash :: n⟩

/-- The path of another name in the directory of a path that ends in a name. -/
def sibling (p : Path) (n : Name) : Path := p.directory.child n

/-- The part of `p` below `root` as it is written in `p`, without what does not matter at either
end, or all of `p` if it does not lead through `root`. -/
def relative (root p : Path) : Path :=
  if root.components.isPrefixOf p.components then
    match root.components, pieces p.bytes with
    | _ :: cs, _ :: more =>
      ⟨joinPieces (dropIdleEnd ((dropMattering cs.length more).dropWhile isIdle))⟩
    | _, _ => p
  else p

/-- The components of `p` below `root`, or all components of `p` if it does not lead through
`root`. -/
def below (root p : Path) : List Component :=
  if root.components.isPrefixOf p.components then p.components.drop root.components.length
  else p.components

end Path

end Restyle
