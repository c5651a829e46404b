import Restyle.Conversion.Result

/-!
# Finding source files

The search goes through a directory in the order of the names in it, depth first, each directory
before what stands in it. It enters the root through a link but no directory below it, and no
directory that is to be skipped. What cannot be listed is passed over and noted. A source file that
is a link is found if the link leads to a file.

## Main definitions

* `Restyle.Visit` — what the search comes across.
* `Restyle.FileTree.visits` — everything it comes across below a root, in order.
* `Restyle.FileTree.discover` — the source files among them.
* `Restyle.FileTree.discoveryNotes` — what is noted about the others.
-/

namespace Restyle

/-- What the search for source files comes across. -/
inductive Visit where
  | entry (p : Path) (kind : Node.Kind)
  | skipped (dir : Path)
  | unreadable (p : Path) (e : SystemError)

namespace FileTree

/-- What the search comes across in the directory at `dir` below `root`, `n` levels at most. -/
def visitsBelow (t : FileTree) (root : Path) : Nat → Path → List Visit
  | 0, _ => []
  | n + 1, dir =>
    match t.entries dir with
    | .error e => [.unreadable dir e]
    | .ok es => es.flatMap fun (name, node) =>
      let p := dir.child name
      match node.kind with
      | .directory =>
        if Path.isSkipped root p then [.skipped p]
        else .entry p .directory :: visitsBelow t root n p
      | kind => [.entry p kind]

/-- Everything the search comes across from `root` on. No directory is deeper than there are nodes
in the tree. -/
def visits (t : FileTree) (root : Path) : List Visit :=
  let inside := t.visitsBelow root (t.nodes.length + 1) root
  match t.linkStat root with
  | .error e => [.unreadable root e]
  | .ok (.file _ _) => [.entry root .file]
  | .ok (.directory _) => .entry root .directory :: inside
  | .ok (.link _) =>
    match t.stat root with
    | .error e => [.unreadable root e]
    | .ok (.directory _) => .entry root .link :: inside
    | .ok _ => [.entry root .link]

/-- The source file that a visit comes across, if it is one. -/
def foundFile? (t : FileTree) : Visit → Option Path
  | .entry p _ => if p.isSource && t.isFile p then some p else none
  | _ => none

/-- What is noted about a visit. -/
def visitNote? (t : FileTree) (root : Path) : Visit → Option Note
  | .entry p kind =>
    if p.isSource && !t.isFile p && kind == .link then some (.danglingLink p) else none
  | .skipped dir => some (.skippingDirectory dir)
  | .unreadable p e => some (.unreadableEntry root p e)

/-- The source files below `root`, in the order in which the search finds them. -/
def discover (t : FileTree) (root : Path) : List Path :=
  (t.visits root).filterMap t.foundFile?

/-- What is noted in the search below `root`. -/
def discoveryNotes (t : FileTree) (root : Path) : List Note :=
  (t.visits root).filterMap (t.visitNote? root)

end FileTree

end Restyle
