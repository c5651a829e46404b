import Restyle.FileTree.Resolve

/-!
# Reading and writing in a file tree

## Main definitions

* `Restyle.FileTree.stat`, `Restyle.FileTree.linkStat` — the node that a path leads to, through a
  link at its end or not.
* `Restyle.FileTree.exists`, `Restyle.FileTree.isFile`, `Restyle.FileTree.isDirectory`.
* `Restyle.FileTree.read`, `Restyle.FileTree.write`, `Restyle.FileTree.entries`.
-/

namespace Restyle

namespace FileTree

/-- The node that a path leads to. -/
def statWith (t : FileTree) (ending : Ending) (p : Path) : Except SystemError Node := do
  match ← t.resolve ending p with
  | .found _ n => return n
  | .free _ _ => throw .noEntry

/-- The node that a path leads to, through a link at its end. -/
def stat (t : FileTree) (p : Path) : Except SystemError Node := t.statWith .followed p

/-- The node that a path leads to, which may be a link. -/
def linkStat (t : FileTree) (p : Path) : Except SystemError Node := t.statWith .itself p

/-- Whether a path leads to something. -/
def «exists» (t : FileTree) (p : Path) : Bool := (t.stat p).isOk

/-- Whether a path leads to a file. -/
def isFile (t : FileTree) (p : Path) : Bool :=
  match t.stat p with
  | .ok n => n.kind == .file
  | .error _ => false

/-- Whether a path leads to a directory. -/
def isDirectory (t : FileTree) (p : Path) : Bool :=
  match t.stat p with
  | .ok n => n.kind == .directory
  | .error _ => false

/-- The content of the file that a path leads to. -/
def read (t : FileTree) (p : Path) : Except SystemError ByteArray := do
  match ← t.stat p with
  | .file content mode => if t.permits readBit mode then return content else throw .accessDenied
  | .directory mode => if t.permits readBit mode then throw .isDirectory else throw .accessDenied
  | .link _ => throw .linkLoop

/-- The mode of a new file. -/
def newFileMode : Nat := 0o644

/-- The mode of a new directory. -/
def newDirectoryMode : Nat := 0o755

/-- Whether a name may be added to or removed from the directory at a location. -/
def change (t : FileTree) (l : Location) : Except SystemError Unit := do
  t.search l
  match t.node? l with
  | some n => if t.permits writeBit n.mode then return () else throw .accessDenied
  | none => throw .noEntry

/-- Writes the file that a path leads to, or a new one if its name is free. -/
def write (t : FileTree) (p : Path) (content : ByteArray) : Except SystemError FileTree := do
  match ← t.resolve .writable p with
  | .found l (.file _ mode) =>
    if t.permits writeBit mode then return t.put l (.file content mode) else throw .accessDenied
  | .found _ (.directory _) => throw .isDirectory
  | .found _ (.link _) => throw .linkLoop
  | .free dir n => do
    t.change dir
    return t.put (n :: dir) (.file content newFileMode)

/-- The names in the directory that a path leads to, in the order of their bytes. -/
def entries (t : FileTree) (p : Path) : Except SystemError (List (Name × Node)) := do
  match ← t.resolve .followed p with
  | .found l (.directory mode) =>
    if t.permits readBit mode then return t.entriesAt l else throw .accessDenied
  | .found _ _ => throw .notDirectory
  | .free _ _ => throw .noEntry

end FileTree

end Restyle
