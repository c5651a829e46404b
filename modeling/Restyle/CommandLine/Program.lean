import Restyle.CommandLine.Arguments
import Restyle.Conversion.Run
import Restyle.Report.Observer
import Restyle.Rule.Table

/-!
# The program

The program reads its arguments, converts the source directories of the project, and shows a
banner, its progress, the summary and the names of the backups.

## Main definitions

* `Restyle.Program.session` — a conversion of roots with the rules of the table.
* `Restyle.Program.shown` — what a session shows.
* `Restyle.Program.run` — the program as a whole.
-/

namespace Restyle

namespace Program

/-- The name of the program. -/
def name : String := "mui2bs"

/-- The version of the program. -/
def version : String := "1.0.0"

/-- The help text. -/
def helpText : String :=
  String.intercalate "\n" [
    "mui2bs: A CLI tool for converting Material-UI markup in React sources to Bootstrap classes",
    "",
    "Usage: mui2bs [OPTIONS]",
    "",
    "Options:",
    "  -p, --project-root <PROJECT_ROOT>  Project directory containing src/pages and " ++
      "src/components [default: .]",
    "  -h, --help                         Print help",
    "  -V, --version                      Print version",
    ""]

/-- The text with which the program answers a refusal on its standard output. Complaints about the
arguments do not go there. -/
def answer : Refusal → String
  | .help => helpText
  | .version => name ++ " " ++ version ++ "\n"
  | _ => ""

/-- The option that gives the project root, as it is shown. -/
def rootOption : String := "'--project-root <PROJECT_ROOT>'"

/-- What is wrong with the arguments, if they are refused for that. -/
def reason? : Refusal → Option String
  | .help | .version => none
  | .unknownArgument => some "unexpected argument found"
  | .noValue => some ("a value is required for " ++ rootOption ++ " but none was supplied")
  | .repeatedOption => some ("the argument " ++ rootOption ++ " cannot be used multiple times")
  | .unexpectedValue => some "unexpected value for an argument found; no more were expected"

/-- The complaint about the arguments with which the program answers a refusal, apart from its
standard output. -/
def complaint (r : Refusal) : String :=
  match reason? r with
  | none => ""
  | some reason =>
    "error: " ++ reason ++ "\n\nUsage: " ++ name ++
      " [OPTIONS]\n\nFor more information, try '--help'.\n"

/-- A conversion of the given roots with the rules of the table. -/
def session (t : FileTree) (roots : List SourceRoot) : Stage Summary :=
  let work := bootstrapRules.run t roots
  { work with
    trace := .note (.starting bootstrapRules.length roots.length) :: work.trace }

/-- What a session shows, given what is shown of its progress. -/
def shown (c : Console) (progress : String) (summary : Summary) : String :=
  c.banner version ++ progress ++ c.summary summary ++ c.backupNotice backupMarker ++ c.completion

/-- How the program ends: its exit code, what it has shown, what it complains of, and what happened
with the tree it leaves. -/
structure Outcome where
  exitCode : Nat
  shown : String
  complaint : String
  trace : List Happening
  tree : FileTree

/-- The program with its arguments, on a console and a tree. -/
def run (c : Console) (t : FileTree) (args : List Name) : Outcome :=
  match Arguments.read args with
  | .error refusal => ⟨refusal.exitCode, answer refusal, complaint refusal, [], t⟩
  | .ok a =>
    let work := session t (SourceRoot.ofProject a.projectRoot)
    ⟨0, shown c (work.observed (.printer c)) work.result, "", work.trace, work.tree⟩

end Program

end Restyle
