import Restyle.FileTree.Basic

/-!
# Where a path leads

A path is followed piece by piece. Each directory on the way must be a directory that may be
searched; a link on the way is replaced by the path it holds, and so is a link at the end if links
are followed there. No more than forty links are followed.

## Main definitions

* `Restyle.Step`, `Restyle.Path.steps` — the steps of following a path.
* `Restyle.Ending` — what is made of the end of a path.
* `Restyle.Place` — where a path leads.
* `Restyle.FileTree.resolve` — follows a path.
-/

namespace Restyle

/-- A step of following a path. -/
inductive Step where
  /-- to the root of everything -/
  | root
  /-- to the directory itself -/
  | here
  /-- to the directory above -/
  | up
  /-- to a name in the directory -/
  | name (n : Name)
  /-- no further; what has been reached must be a directory -/
  | directory

/-- Whether the steps that are left only ask for a directory. -/
def Step.askOnly : List Step → Bool
  | [.directory] => true
  | _ => false

namespace Path

/-- The steps of following a path. A slash at the end asks for a directory. -/
def steps (p : Path) : List Step :=
  let parts := pieces p.bytes
  let step := fun q : Name =>
    if q.isEmpty then none
    else if q = dot then some Step.here
    else if q = dotDot then some .up
    else some (.name q)
  let inner := parts.filterMap step
  let last := if (parts.getLast?).any List.isEmpty && !inner.isEmpty then [Step.directory] else []
  if p.bytes.head? = some slash then .root :: (inner ++ last) else inner ++ last

/-- A path without the slashes at its end, unless there is nothing else. -/
def withoutEndSlashes (p : Path) : Path :=
  let bytes := (p.bytes.reverse.dropWhile (· == slash)).reverse
  if bytes.isEmpty then p else ⟨bytes⟩

end Path

/-- What is made of the end of a path. -/
inductive Ending where
  /-- a link there is followed -/
  | followed
  /-- a link there is not followed -/
  | itself
  /-- a link there is followed, and it must not be a directory that is asked for -/
  | writable
  deriving DecidableEq

/-- Where a path leads: to a node, or to a name that is free in an existing directory. -/
inductive Place where
  | found (l : Location) (n : Node)
  | free (dir : Location) (n : Name)

namespace FileTree

/-- The greatest length of a name. -/
def nameLimit : Nat := 255

/-- The length that a path does not reach. -/
def pathLimit : Nat := 4096

/-- How many links are followed on the way of one path. -/
def linkLimit : Nat := 40

/-- Whether names may be looked up at a location. -/
def search (t : FileTree) (l : Location) : Except SystemError Unit :=
  match t.node? l with
  | some (.directory mode) => if t.permits searchBit mode then .ok () else .error .accessDenied
  | some _ => .error .notDirectory
  | none => .error .noEntry

/-- Follows steps from a location, `through` going on from the directory of a link with the steps of
its path and those left. -/
def follow (t : FileTree) (ending : Ending)
    (through : Location → List Step → Except SystemError Place) :
    Location → List Step → Except SystemError Place
  | l, [] =>
    match t.node? l with
    | some n => .ok (.found l n)
    | none => .error .noEntry
  | _, .root :: cs => follow t ending through [] cs
  | l, .here :: cs => do t.search l; follow t ending through l cs
  | l, .up :: cs => do t.search l; follow t ending through l.tail cs
  | l, .directory :: cs =>
    match t.node? l with
    | some (.directory _) => follow t ending through l cs
    | some _ => .error .notDirectory
    | none => .error .noEntry
  | l, .name n :: cs => do
    t.search l
    if ending = .writable && Step.askOnly cs then throw .isDirectory
    if nameLimit < n.length then throw .nameTooLong
    match t.node? (n :: l) with
    | none => if cs.isEmpty then return .free l n else throw .noEntry
    | some (.link target) =>
      if cs.isEmpty && ending = .itself then return .found (n :: l) (.link target)
      else through l (target.steps ++ cs)
    | some _ => follow t ending through (n :: l) cs

/-- Follows steps from a location through at most `n` links. -/
def followLinks (t : FileTree) (ending : Ending) :
    Nat → Location → List Step → Except SystemError Place
  | 0 => t.follow ending fun _ _ => .error .linkLoop
  | n + 1 => t.follow ending (followLinks t ending n)

/-- Checks that a path may be used at all: it is not empty, not too long, and without zero bytes. -/
def usable (p : Path) : Except SystemError Unit :=
  if p.bytes.contains 0 then .error .zeroByte
  else if p.bytes.isEmpty then .error .noEntry
  else if pathLimit ≤ p.bytes.length then .error .nameTooLong
  else .ok ()

/-- Where a path leads. -/
def resolve (t : FileTree) (ending : Ending) (p : Path) : Except SystemError Place := do
  usable p
  t.followLinks ending linkLimit t.current p.steps

end FileTree

end Restyle
