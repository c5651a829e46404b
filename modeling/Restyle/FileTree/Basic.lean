import Restyle.Path.Basic

/-!
# File trees

A file tree gives the node at each location: a file with its content, a directory, or a link that
holds a path. Files and directories carry permission bits, which matter only in a *guarded* tree. A
location lists names from the inside out, so that the directory of a location is its tail.

## Main definitions

* `Restyle.SystemError`, `Restyle.SystemError.message`.
* `Restyle.Node`, `Restyle.Location`, `Restyle.FileTree`.
* `Restyle.FileTree.node?`, `Restyle.FileTree.put`, `Restyle.FileTree.drop`.
* `Restyle.FileTree.entriesAt` — the names in a directory, in order.

## Main results

* `Restyle.FileTree.node?_put`, `Restyle.FileTree.node?_drop`.
-/

namespace Restyle

/-- Why an operation on a file is refused. -/
inductive SystemError where
  | noEntry
  | accessDenied
  | alreadyExists
  | notDirectory
  | isDirectory
  | nameTooLong
  | linkLoop
  | zeroByte
  deriving DecidableEq

/-- The wording of a refusal. -/
def SystemError.message : SystemError → String
  | noEntry => "No such file or directory (os error 2)"
  | accessDenied => "Permission denied (os error 13)"
  | alreadyExists => "File exists (os error 17)"
  | notDirectory => "Not a directory (os error 20)"
  | isDirectory => "Is a directory (os error 21)"
  | nameTooLong => "File name too long (os error 36)"
  | linkLoop => "Too many levels of symbolic links (os error 40)"
  | zeroByte => "file name contained an unexpected NUL byte"

/-- Contents are compared byte by byte. -/
instance (priority := 2000) decidableEqContent : DecidableEq ByteArray := ByteArray.instDecidableEq

/-- What stands at a location. -/
inductive Node where
  | file (content : ByteArray) (mode : Nat)
  | directory (mode : Nat)
  | link (target : Path)
  deriving DecidableEq

namespace Node

/-- The kinds of nodes. -/
inductive Kind where
  | file
  | directory
  | link
  deriving DecidableEq

/-- The kind of a node. -/
def kind : Node → Kind
  | file _ _ => .file
  | directory _ => .directory
  | link _ => .link

/-- The permission bits of a node; a link allows everything. -/
def mode : Node → Nat
  | file _ m | directory m => m
  | link _ => 0o777

end Node

/-- A place in a file tree: the names that lead to it, the innermost first. -/
abbrev Location := List Name

/-- A file tree: the node at each location that has one, the location from which relative paths
start, and whether permission bits are enforced. A file stands at one location only: two names for
one file (hard links) are not represented, nor are nodes of other kinds, such as pipes, sockets and
devices. -/
structure FileTree where
  nodes : List (Location × Node)
  current : Location
  guarded : Bool

namespace FileTree

/-- The location of the directory in which work begins. -/
def workplace : Location := [Name.ofString "work"]

/-- The tree of an empty current directory below the root. -/
def start : FileTree :=
  ⟨[([], .directory 0o755), (workplace, .directory 0o755)], workplace, false⟩

/-- The node at a location. -/
def node? (t : FileTree) (l : Location) : Option Node := t.nodes.lookup l

/-- The tree with a node put at a location, in place of the one there before. -/
def put (t : FileTree) (l : Location) (n : Node) : FileTree :=
  { t with nodes := (l, n) :: t.nodes.filter (·.1 != l) }

/-- The tree without the node at a location. -/
def drop (t : FileTree) (l : Location) : FileTree :=
  { t with nodes := t.nodes.filter (·.1 != l) }

theorem lookup_filter_ne (ns : List (Location × Node)) (l m : Location) :
    (ns.filter (·.1 != l)).lookup m = if m = l then none else ns.lookup m := by
  induction ns with
  | nil => simp
  | cons e ns ih =>
    obtain ⟨k, n⟩ := e
    by_cases hk : k = l
    · subst hk
      by_cases hm : m = k
      · subst hm
        simpa using fun a (_ : Node) _ (h : ¬a = m) => Ne.symm h
      · have : (m == k) = false := by simpa using hm
        simp [ih, hm, List.lookup_cons, this]
    · by_cases hm : m = k
      · subst hm
        simp [hk]
      · have : (m == k) = false := by simpa using hm
        simp [hk, List.lookup_cons, this, ih]

theorem node?_put (t : FileTree) (l m : Location) (n : Node) :
    (t.put l n).node? m = if m = l then some n else t.node? m := by
  by_cases h : m = l
  · simp [node?, put, h]
  · have : (m == l) = false := by simpa using h
    simp [node?, put, List.lookup_cons, this, lookup_filter_ne, h]

theorem node?_drop (t : FileTree) (l m : Location) :
    (t.drop l).node? m = if m = l then none else t.node? m := by
  simp [node?, drop, lookup_filter_ne]

/-- Puts an entry in its place in a list of entries in the order of their names. -/
def insertEntry (e : Name × Node) : List (Name × Node) → List (Name × Node)
  | [] => [e]
  | f :: fs => if e.1 < f.1 then e :: f :: fs else f :: insertEntry e fs

/-- The names that stand in the directory at a location, with their nodes, in the order of their
bytes. -/
def entriesAt (t : FileTree) (l : Location) : List (Name × Node) :=
  (t.nodes.filterMap fun
    | (n :: m, node) => if m = l then some (n, node) else none
    | ([], _) => none).foldr insertEntry []

/-- Whether the bit of permissions is set in a mode, or need not be. -/
def permits (t : FileTree) (bit : Nat) (mode : Nat) : Bool :=
  !t.guarded || mode &&& bit != 0

/-- The bit of a mode that allows to read. -/
def readBit : Nat := 0o400

/-- The bit of a mode that allows to write. -/
def writeBit : Nat := 0o200

/-- The bit of a mode that allows to look up names in a directory. -/
def searchBit : Nat := 0o100

end FileTree

end Restyle
