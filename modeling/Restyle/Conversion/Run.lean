import Restyle.Conversion.Discovery
import Restyle.Conversion.File
import Restyle.Report.Summary

/-!
# Converting directories

The source files below a directory are found first and then converted one after the other, whatever
becomes of any of them. A run goes through its roots in order and counts the files that changed.

## Main definitions

* `Restyle.RuleSet.convertAll`, `Restyle.RuleSet.convertDirectory`, `Restyle.RuleSet.run`.
-/

namespace Restyle

namespace RuleSet

/-- Converts the files at the given paths one after the other. -/
def convertAll (rs : RuleSet) : FileTree → List Path → Stage (List ConversionResult)
  | t, [] => ⟨[], t, []⟩
  | t, p :: ps =>
    let first := rs.convert t p
    let later := convertAll rs first.tree ps
    ⟨first.result :: later.result, later.tree, first.trace ++ later.trace⟩

/-- Converts every source file below a directory and counts those that changed. -/
def convertDirectory (rs : RuleSet) (t : FileTree) (dir : Path) : Stage Nat :=
  if t.isDirectory dir then
    let work := rs.convertAll t (t.discover dir)
    ⟨work.result.countP (·.wasModified), work.tree,
      (t.discoveryNotes dir).map .note ++ work.trace⟩
  else ⟨0, t, [.note (.rootNotFound dir)]⟩

/-- Converts the directories of the given roots in order, adding to a summary. -/
def runFrom (rs : RuleSet) : Summary → FileTree → List SourceRoot → Stage Summary
  | s, t, [] => ⟨s, t, []⟩
  | s, t, root :: roots =>
    let work := rs.convertDirectory t root.dir
    let later := runFrom rs (s.record root.label (.ofNat work.result)) work.tree roots
    ⟨later.result, later.tree, .event (.rootStarted root) :: work.trace ++ later.trace⟩

/-- Converts the directories of the given roots in order and sums up how many files changed. -/
def run (rs : RuleSet) (t : FileTree) (roots : List SourceRoot) : Stage Summary :=
  rs.runFrom .empty t roots

end RuleSet

end Restyle
