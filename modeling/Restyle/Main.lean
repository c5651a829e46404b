import Restyle.CommandLine.Program
import Restyle.FileTree.Arrange

/-!
# The command

The source directories of the project are read into a file tree, the program runs on the tree, and
what it wrote there is then written to disk, in the same order.

## Main definitions

* `Restyle.Disk.loadRoot` — reads a directory, and what leads to it, into a tree.
* `main`.
-/

namespace Restyle

namespace Disk

/-- The mode of a node on disk, as far as it can be told: whether it may be read and written. -/
def modeOf (readable writable : Bool) : Nat :=
  FileTree.searchBit + (if readable then FileTree.readBit else 0) +
    (if writable then FileTree.writeBit else 0)

/-- The location of what a path on disk leads to, through all links. -/
def locationOf (e : IO.FS.DirEntry) : IO Location := do
  let real ← IO.FS.realPath e.path
  return ((pieces (Name.ofString real.toString)).filter fun p => !p.isEmpty).reverse

/-- The tree with a directory at every location above `l` that has no node. -/
def putAbove (t : FileTree) : Location → FileTree
  | [] => t
  | _ :: l =>
    let t := putAbove t l
    if (t.node? l).isNone then t.put l (.directory FileTree.newDirectoryMode) else t

/-- Puts the file at a location into a tree. -/
def loadFile (t : FileTree) (l : Location) (e : IO.FS.DirEntry) : IO FileTree := do
  let content ← (IO.FS.readBinFile e.path).toBaseIO
  let handle ← (IO.FS.Handle.mk e.path .readWrite).toBaseIO
  let mode := modeOf content.isOk handle.isOk
  return (putAbove t l).put l (.file (content.toOption.getD .empty) mode)

/-- Puts the link at a location into a tree, together with the file that it leads to. -/
def loadLink (t : FileTree) (l : Location) (e : IO.FS.DirEntry) : IO FileTree := do
  match ← (IO.FS.realPath e.path).toBaseIO with
  | .error _ => return (putAbove t l).put l (.link (Path.ofString e.fileName))
  | .ok target =>
    let t := (putAbove t l).put l (.link (Path.ofString target.toString))
    if (← e.path.metadata).type == .file then loadFile t (← locationOf e) e else return t

/-- Puts what stands at a location into a tree, and everything below it. -/
partial def loadAll (t : FileTree) (l : Location) (e : IO.FS.DirEntry) : IO FileTree := do
  match (← e.path.symlinkMetadata).type with
  | .symlink => loadLink t l e
  | .dir =>
    match ← e.path.readDir.toBaseIO with
    | .error _ => return (putAbove t l).put l (.directory (modeOf false true))
    | .ok entries =>
      let t := (putAbove t l).put l (.directory (modeOf true true))
      entries.foldlM (fun t inner => loadAll t (Name.ofString inner.fileName :: l) inner) t
  | _ => loadFile t l e

/-- Puts the links on the way to a directory into a tree, and everything below the directory. -/
def loadRoot (here : IO.FS.DirEntry) (t : FileTree) (dir : Path) : IO FileTree := do
  let entry : Path → IO.FS.DirEntry := fun p => ⟨here.path, p.toText⟩
  if !(← (entry dir).path.isDir) then return t
  let parts := pieces dir.bytes
  let mut t := t
  for n in [1:parts.length + 1] do
    let p : Path := ⟨joinPieces (parts.take n)⟩
    if let some name := p.fileName? then
      if (← (entry p).path.symlinkMetadata).type == .symlink then
        t ← loadLink t (name :: (← locationOf (entry p.directory))) (entry p)
  loadAll t (← locationOf (entry dir)) ⟨(← IO.FS.realPath (entry dir).path), ""⟩

/-- The tree of the source directories of a project. -/
def loadProject (project : Path) : IO FileTree := do
  let here : IO.FS.DirEntry := ⟨← IO.currentDir, ""⟩
  let l ← locationOf here
  let start : FileTree := ⟨[], l, true⟩
  let t := (putAbove start l).put l (.directory FileTree.newDirectoryMode)
  (SourceRoot.ofProject project).foldlM (fun t root => loadRoot here t root.dir) t

/-- A line of the log. -/
def noteLine (n : Note) : String :=
  " ".intercalate (n.message :: n.fields.map fun (key, value) => key ++ "=" ++ value)

end Disk

end Restyle

open Restyle in
/-- The command line program. -/
def main (args : List String) : IO UInt32 := do
  let args := args.map Name.ofString
  let t ← match Arguments.read args with
    | .ok a => Disk.loadProject a.projectRoot
    | .error _ => pure .start
  let outcome := Program.run ⟨false, true⟩ t args
  for happening in outcome.trace do
    match happening with
    | .wrote p content => IO.FS.writeFile p.toText content
    | .note n => if n.level == .warn then IO.eprintln (Disk.noteLine n)
    | .event _ => pure ()
  IO.print outcome.shown
  IO.eprint outcome.complaint
  return outcome.exitCode.toUInt32
