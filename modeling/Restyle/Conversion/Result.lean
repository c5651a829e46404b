import Restyle.FileTree.Operations
import Restyle.Path.Source
import Restyle.Rule.Basic

/-!
# What a conversion reports

## Main definitions

* `Restyle.ReadFault`, `Restyle.ConversionError`, `Restyle.ConversionError.message`.
* `Restyle.ConversionResult` — the outcome for one file.
* `Restyle.Event` — what an observer of the progress is told.
* `Restyle.Note` — what is written to the log.
* `Restyle.Happening`, `Restyle.Stage` — what happened in a stage of the work, in order, with its
  result and the tree it leaves.
-/

namespace Restyle

/-- Why a file could not be read as text. -/
inductive ReadFault where
  | system (e : SystemError)
  | notText
  deriving DecidableEq

/-- The wording of a fault in reading. -/
def ReadFault.message : ReadFault → String
  | system e => e.message
  | notText => "stream did not contain valid UTF-8"

/-- Why a file was not converted. -/
inductive ConversionError where
  | read (p : Path) (fault : ReadFault)
  | write (p : Path) (e : SystemError)
  deriving DecidableEq

/-- The wording of the reason. -/
def ConversionError.message : ConversionError → String
  | read p fault => "failed to read " ++ p.toText ++ ": " ++ fault.message
  | write p e => "failed to write " ++ p.toText ++ ": " ++ e.message

/-- The outcome for the file at a path: whether its text changed, and why it was not converted if it
was not. -/
structure ConversionResult where
  path : Path
  wasModified : Bool
  error? : Option ConversionError
  deriving DecidableEq

namespace ConversionResult

/-- The outcome for a file that was converted. -/
def done (p : Path) (wasModified : Bool) : ConversionResult := ⟨p, wasModified, none⟩

/-- The outcome for a file that was not converted. -/
def failed (p : Path) (e : ConversionError) : ConversionResult := ⟨p, false, some e⟩

/-- The outcome that work on a file comes to. -/
def of (p : Path) : Except ConversionError Bool → ConversionResult
  | .ok wasModified => done p wasModified
  | .error e => failed p e

@[simp] theorem path_of (p : Path) (outcome : Except ConversionError Bool) :
    (of p outcome).path = p := by
  cases outcome <;> rfl

@[simp] theorem wasModified_of_ok (p : Path) (b : Bool) : (of p (.ok b)).wasModified = b := rfl

/-- Whether the file was not converted. -/
def isError (r : ConversionResult) : Bool := r.error?.isSome

end ConversionResult

/-- What an observer of the progress is told. -/
inductive Event where
  | rootStarted (root : SourceRoot)
  | visiting (p : Path)
  | finished (r : ConversionResult)

/-- What is written to the log. -/
inductive Note where
  | starting (rules roots : Nat)
  | ruleApplied (p : Path) (hit : Hit)
  | backupWritten (backup : Path)
  | noBackupName (p : Path)
  | notConverted (p : Path) (e : ConversionError)
  | rootNotFound (dir : Path)
  | skippingDirectory (dir : Path)
  | danglingLink (p : Path)
  | unreadableEntry (root p : Path) (e : SystemError)

namespace Note

/-- How important a note is. -/
inductive Level where
  | debug
  | info
  | warn
  deriving DecidableEq

/-- How important a note is. -/
def level : Note → Level
  | starting _ _ => .info
  | notConverted _ _ | rootNotFound _ | danglingLink _ | unreadableEntry _ _ _ => .warn
  | ruleApplied _ _ | backupWritten _ | noBackupName _ | skippingDirectory _ => .debug

/-- The wording of a note. -/
def message : Note → String
  | starting _ _ => "starting conversion"
  | ruleApplied _ _ => "rule applied"
  | backupWritten _ => "backup written"
  | noBackupName _ => "no backup name for file"
  | notConverted _ _ => "file not converted"
  | rootNotFound _ => "source directory not found"
  | skippingDirectory _ => "skipping directory"
  | danglingLink _ => "skipping dangling symlink"
  | unreadableEntry _ _ _ => "skipping unreadable entry"

/-- The particulars of a note, by name. -/
def fields : Note → List (String × String)
  | starting rules roots => [("rules", toString rules), ("roots", toString roots)]
  | ruleApplied p hit =>
    [("path", p.toText), ("rule", toString hit.index), ("category", hit.category.name),
      ("matches", toString hit.count)]
  | backupWritten backup => [("backup", backup.toText)]
  | noBackupName p => [("path", p.toText)]
  | notConverted p e => [("path", p.toText), ("error", e.message)]
  | rootNotFound dir => [("dir", dir.toText)]
  | skippingDirectory dir => [("dir", dir.toText)]
  | danglingLink p => [("path", p.toText)]
  | unreadableEntry root p e =>
    [("root", root.toText),
      ("error", "IO error for operation on " ++ p.toText ++ ": " ++ e.message)]

end Note

/-- Something that happens in the course of the work: an observer is told, a note goes to the log,
or a file is written. -/
inductive Happening where
  | event (e : Event)
  | note (n : Note)
  | wrote (p : Path) (content : String)

namespace Happening

/-- What an observer is told, if it is that. -/
def event? : Happening → Option Event
  | event e => some e
  | _ => none

/-- What goes to the log, if it is that. -/
def note? : Happening → Option Note
  | note n => some n
  | _ => none

/-- What is written where, if it is that. -/
def wrote? : Happening → Option (Path × String)
  | wrote p content => some (p, content)
  | _ => none

end Happening

/-- A stage of the work: its result, the tree it leaves, and what happened in it, in order. -/
structure Stage (α : Type) where
  result : α
  tree : FileTree
  trace : List Happening

namespace Stage

variable {α : Type}

/-- What an observer is told in a stage. -/
def events (s : Stage α) : List Event := s.trace.filterMap Happening.event?

/-- What goes to the log in a stage. -/
def notes (s : Stage α) : List Note := s.trace.filterMap Happening.note?

/-- What is written in a stage. -/
def writes (s : Stage α) : List (Path × String) := s.trace.filterMap Happening.wrote?

end Stage

end Restyle
