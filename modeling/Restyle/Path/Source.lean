import Restyle.Path.Basic

/-!
# Which files are converted, and the names of their backups

A source file is known by the end of its name; a backup carries a marker before that end and is
therefore no source file. Directories that hold installed packages, build results or backups are
skipped, but only for what stands below the root of the search.

## Main definitions

* `Restyle.Path.isSource`, `Restyle.Path.backup?`, `Restyle.Path.isSkipped`.
* `Restyle.SourceRoot`, `Restyle.SourceRoot.ofProject`.
-/

namespace Restyle

/-- The ends of the names of source files. -/
def sourceExtensions : List String := [".js", ".jsx"]

/-- The end of the name of a backup before its extension. -/
def backupStem : String := "_backup"

/-- What the name of a backup has before its extension. -/
def backupMarker : String := "_MUI_backup"

/-- What stands in the name of a directory that is skipped. -/
def skippedMarkers : List String := ["node_modules", "build", "_backup"]

/-- The bytes at which the extension of a name begins. -/
def extensionMarker : Name := Name.ofString ".js"

/-- Whether one list stands in another. -/
def standsIn {α : Type} [BEq α] (part : List α) : List α → Bool
  | [] => part.isEmpty
  | x :: xs => part.isPrefixOf (x :: xs) || standsIn part xs

namespace Name

/-- The parts of a name before and from the last place at which `marker` stands. -/
def cutLast? (marker : Name) : Name → Option (Name × Name)
  | [] => none
  | b :: bs =>
    match cutLast? marker bs with
    | some (before, rest) => some (b :: before, rest)
    | none => if marker.isPrefixOf (b :: bs) then some ([], b :: bs) else none

/-- A name without `ending`, if it ends so. -/
def without? (ending n : Name) : Option Name :=
  if ending.isSuffixOf n then some (n.take (n.length - ending.length)) else none

/-- Whether a name is that of a source file: it ends like one, and what stands before does not end
like the name of a backup. -/
def isSource (n : Name) : Bool :=
  sourceExtensions.any fun e =>
    ((ofString e).without? n).any fun stem => !(ofString backupStem).isSuffixOf stem

/-- The name of the backup of a file. The marker goes before the last place where a source
extension may begin. -/
def backup? (n : Name) : Option Name :=
  (cutLast? extensionMarker n).map fun (before, rest) => before ++ ofString backupMarker ++ rest

/-- Whether a directory of this name is skipped. -/
def isSkipped (n : Name) : Bool := skippedMarkers.any fun m => standsIn (ofString m) n

end Name

namespace Path

/-- Whether a path leads to a source file, by its last name. A name that is not well-formed text is
not that of a source file. -/
def isSource (p : Path) : Bool :=
  p.fileName?.any fun n => n.text?.isSome && n.isSource

/-- The path of the backup of the file at `p`, if its name has a place for the marker. -/
def backup? (p : Path) : Option Path :=
  match p.fileName? with
  | none => none
  | some n => if n.text?.isSome then n.backup?.map p.sibling else none

/-- Whether the directory at `p` is skipped in a search below `root`: whether a marker stands in the
text that the part of `p` below `root` is shown as. -/
def isSkipped (root p : Path) : Bool :=
  let shown := (relative root p).toText.toList
  skippedMarkers.any fun m => standsIn m.toList shown

end Path

/-- A directory to convert, with a label for reports. -/
structure SourceRoot where
  label : String
  dir : Path
  deriving DecidableEq

namespace SourceRoot

/-- The source directories of a project. -/
def ofProject (project : Path) : List SourceRoot :=
  let src := project.child (Name.ofString "src")
  [⟨"Pages", src.child (Name.ofString "pages")⟩,
    ⟨"Components", src.child (Name.ofString "components")⟩]

end SourceRoot

end Restyle
