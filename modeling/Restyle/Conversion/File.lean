import Restyle.Conversion.Result

/-!
# Converting one file

A file is read, the rules are applied to its text, and if that changes the text, the old text goes
to the backup, unless there is one already, and the new text into the file. The backup is written
first, so that the old text is never lost. A failure is reported and stops nothing else.

## Main definitions

* `Restyle.FileTree.readText`, `Restyle.FileTree.writeText`.
* `Restyle.RuleSet.edit` — the new text of a file, its backup, and what happened.
* `Restyle.RuleSet.convert` — the same with its outcome reported.
-/

namespace Restyle

namespace FileTree

/-- The text of the file that a path leads to. -/
def readText (t : FileTree) (p : Path) : Except ReadFault String :=
  match t.read p with
  | .error e => .error (.system e)
  | .ok content =>
    match String.fromUTF8? content with
    | some text => .ok text
    | none => .error .notText

/-- Writes a text to the file that a path leads to. -/
def writeText (t : FileTree) (p : Path) (text : String) : Except SystemError FileTree :=
  t.write p text.toUTF8

end FileTree

namespace RuleSet

/-- Writes the new text of the file at `p`, after what happened before. -/
def writeNew (t : FileTree) (p : Path) (text : String) (before : List Happening) :
    Stage (Except ConversionError Bool) :=
  match t.writeText p text with
  | .error e => ⟨.error (.write p e), t, before⟩
  | .ok t => ⟨.ok true, t, before ++ [.wrote p text]⟩

/-- Writes the old text of the file at `p` to its backup, unless there is one, and then its new
text to the file. -/
def writeBoth (t : FileTree) (p : Path) (old new : String) (before : List Happening) :
    Stage (Except ConversionError Bool) :=
  match p.backup? with
  | none => writeNew t p new (before ++ [.note (.noBackupName p)])
  | some b =>
    if t.exists b then writeNew t p new before
    else
      match t.writeText b old with
      | .error e => ⟨.error (.write b e), t, before⟩
      | .ok t => writeNew t p new (before ++ [.wrote b old, .note (.backupWritten b)])

/-- Applies the rules to the file at `p`. The result tells whether that changed its text. -/
def edit (rs : RuleSet) (t : FileTree) (p : Path) : Stage (Except ConversionError Bool) :=
  match t.readText p with
  | .error fault => ⟨.error (.read p fault), t, []⟩
  | .ok old =>
    let (new, hits) := rs.report old
    if new = old then ⟨.ok false, t, []⟩
    else writeBoth t p old new (hits.map fun hit => .note (.ruleApplied p hit))

/-- Converts the file at `p` and reports the outcome. -/
def convert (rs : RuleSet) (t : FileTree) (p : Path) : Stage ConversionResult :=
  let work := rs.edit t p
  let result := ConversionResult.of p work.result
  let failure := match work.result with
    | .ok _ => []
    | .error e => [Happening.note (.notConverted p e)]
  ⟨result, work.tree,
    .event (.visiting p) :: work.trace ++ failure ++ [.event (.finished result)]⟩

theorem result_convert (rs : RuleSet) (t : FileTree) (p : Path) :
    (rs.convert t p).result = .of p (rs.edit t p).result := rfl

@[simp] theorem path_convert (rs : RuleSet) (t : FileTree) (p : Path) :
    (rs.convert t p).result.path = p := ConversionResult.path_of ..

end RuleSet

end Restyle
