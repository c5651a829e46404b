import Restyle.FileTree.Operations

/-!
# Arranging a file tree

Operations that prepare a tree: making directories and links, removing files, changing permissions;
and the outline of a tree, which lists everything in it.

## Main definitions

* `Restyle.Attempt`.
* `Restyle.FileTree.makeDirectories`, `Restyle.FileTree.save`, `Restyle.FileTree.makeLink`,
  `Restyle.FileTree.remove`, `Restyle.FileTree.setMode`.
* `Restyle.FileTree.outline`.
-/

namespace Restyle

namespace Path

/-- The path above a path, if it has a last component that is not the root. -/
def parent? (p : Path) : Option Path :=
  match p.components.getLast? with
  | none | some .root => none
  | some .here => some ⟨[]⟩
  | some (.name _) => some p.directory
  | some .up => some ⟨joinPieces (dropIdleEnd (dropIdleEnd (pieces p.bytes)).dropLast)⟩

end Path

/-- What came of an attempt to arrange a tree. What was done before a refusal stays done. -/
structure Attempt where
  result : Except SystemError Unit
  tree : FileTree

namespace FileTree

/-- Makes the directory that a path leads to, in an existing directory. -/
def makeDirectory (t : FileTree) (p : Path) : Except SystemError FileTree := do
  match ← t.resolve .itself p.withoutEndSlashes with
  | .found _ _ => throw .alreadyExists
  | .free dir n => do
    t.change dir
    return t.put (n :: dir) (.directory newDirectoryMode)

/-- The tree that an operation makes of a tree, or the same tree if the operation is refused. -/
def attempt (t : FileTree) (operation : FileTree → Except SystemError FileTree) : Attempt :=
  match operation t with
  | .ok t => ⟨.ok (), t⟩
  | .error e => ⟨.error e, t⟩

/-- Makes the directory that a path leads to and those above it, `n` levels at most. -/
def makeLevels : Nat → FileTree → Path → Attempt
  | 0, t, p => t.attempt (·.makeDirectory p)
  | n + 1, t, p =>
    if p.bytes.isEmpty then ⟨.ok (), t⟩
    else
      match t.makeDirectory p with
      | .ok t => ⟨.ok (), t⟩
      | .error .noEntry =>
        match p.parent? with
        | none => ⟨.error .noEntry, t⟩
        | some up =>
          let above := makeLevels n t up
          if !above.result.isOk || above.tree.isDirectory p then above
          else above.tree.attempt (·.makeDirectory p)
      | .error e => ⟨if t.isDirectory p then .ok () else .error e, t⟩

/-- Makes the directory that a path leads to and those above it. -/
def makeDirectories (t : FileTree) (p : Path) : Attempt :=
  makeLevels (pieces p.bytes).length t p

/-- Writes a file, making the directories above it. -/
def save (t : FileTree) (p : Path) (content : ByteArray) : Attempt :=
  let above := match p.parent? with
    | some up => t.makeDirectories up
    | none => ⟨.ok (), t⟩
  if above.result.isOk then above.tree.attempt (·.write p content) else above

/-- Makes a link at a path. -/
def makeLink (t : FileTree) (target p : Path) : Except SystemError FileTree := do
  usable target
  match ← t.resolve .itself p.withoutEndSlashes with
  | .found _ _ => throw .alreadyExists
  | .free dir n => do
    if p.bytes.getLast? = some slash then throw .noEntry
    t.change dir
    return t.put (n :: dir) (.link target)

/-- Removes the file or the link at a path. -/
def remove (t : FileTree) (p : Path) : Except SystemError FileTree := do
  let asksDirectory := p.bytes.getLast? = some slash
  match ← t.resolve .itself p.withoutEndSlashes with
  | .free _ _ => throw .noEntry
  | .found l n =>
    if asksDirectory then throw (if n.kind = .directory then .isDirectory else .notDirectory)
    t.change l.tail
    if n.kind = .directory then throw .isDirectory
    return t.drop l

/-- Sets the mode of the node that a path leads to. -/
def setMode (t : FileTree) (p : Path) (mode : Nat) : Except SystemError FileTree := do
  match ← t.resolve .followed p with
  | .found l (.file content _) => return t.put l (.file content mode)
  | .found l (.directory _) => return t.put l (.directory mode)
  | .found _ (.link _) => throw .linkLoop
  | .free _ _ => throw .noEntry

/-- The same tree with permission bits enforced. -/
def guard (t : FileTree) : FileTree := { t with guarded := true }

/-- A line of an outline. -/
inductive OutlineItem where
  | file (p : Path) (content : Option ByteArray)
  | directory (p : Path)
  | link (p : Path) (target : Path)

/-- What stands below the directory at `dir`, shown with paths below `shown`; `n` levels at most. -/
def outlineBelow (t : FileTree) : Nat → Path → Path → List OutlineItem
  | 0, _, _ => []
  | n + 1, dir, shown =>
    match t.entries dir with
    | .error _ => []
    | .ok es => es.flatMap fun (name, node) =>
      let p := dir.child name
      let q := shown.child name
      match node with
      | .file _ _ => [.file q (t.read p).toOption]
      | .directory _ => .directory q :: outlineBelow t n p q
      | .link target => [.link q target]

/-- Everything below the current directory; a directory comes directly before what stands in it. -/
def outline (t : FileTree) : List OutlineItem :=
  t.outlineBelow t.nodes.length ⟨dot⟩ ⟨[]⟩

end FileTree

end Restyle
