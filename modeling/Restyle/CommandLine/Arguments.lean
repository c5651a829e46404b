import Restyle.Path.Source

/-!
# The arguments of the command line

There is one option, which gives the root of the project, by a letter or by its full name; its value
may stand in the same argument, behind the letter or behind an equals sign, or in the next one. Two
further options ask for the help text and for the version. Two hyphens end the options, and nothing
may come after them.

A value that stands in an argument of its own is taken note of when it is read but judged only when
the next option is complete or the arguments end; a word that is refused outright comes before that.

## Main definitions

* `Restyle.Arguments`, `Restyle.Refusal`.
* `Restyle.ArgumentReader.step` — reads one argument.
* `Restyle.Arguments.read` — reads the arguments, or tells why the program does not start.
-/

namespace Restyle

/-- What the command line asks for. -/
structure Arguments where
  projectRoot : Path
  deriving DecidableEq

/-- Why the program does not start: the help text or the version is asked for, or the arguments
are not well-formed. -/
inductive Refusal where
  | help
  | version
  | unknownArgument
  | noValue
  | repeatedOption
  | unexpectedValue
  deriving DecidableEq

/-- The exit code that goes with a refusal. -/
def Refusal.exitCode : Refusal → Nat
  | help | version => 0
  | _ => 2

/-- The state of reading arguments: the project root if it has been judged; the option whose value
has not been judged, with its value if that has been read; and whether the options have ended. -/
structure ArgumentReader where
  root : Option Path
  pending : Option (Option Name)
  ended : Bool

/-- A word of the command line, by its form. -/
inductive Word where
  /-- two hyphens -/
  | endOfOptions
  /-- a full name, with the value behind the equals sign if there is one -/
  | long (name : Name) (value : Option Name)
  /-- a letter, with what stands behind it -/
  | short (letter : UInt8) (behind : Name)
  /-- anything else, a single hyphen among it -/
  | plain (text : Name)

/-- The sign between the name of an option and its value. -/
def equalsSign : UInt8 := 0x3d

/-- The sign before the name of an option. -/
def hyphen : UInt8 := 0x2d

/-- The form of a word. -/
def Word.ofArgument (arg : Name) : Word :=
  match arg with
  | a :: b :: rest =>
    if a != hyphen then .plain arg
    else if b != hyphen then .short b rest
    else if rest.isEmpty then .endOfOptions
    else
      match rest.dropWhile (· != equalsSign) with
      | [] => .long rest none
      | _ :: value => .long (rest.takeWhile (· != equalsSign)) (some value)
  | _ => .plain arg

namespace ArgumentReader

/-- The state before any argument is read. -/
def start : ArgumentReader := ⟨none, none, false⟩

/-- Sets the project root, which must not be empty, unless it has been set before. -/
def assign (r : ArgumentReader) (value : Name) : Except Refusal ArgumentReader :=
  if r.root.isSome then .error .repeatedOption
  else if value.isEmpty then .error .noValue
  else .ok { r with root := some ⟨value⟩ }

/-- Judges the value of the pending option. -/
def settle (r : ArgumentReader) : Except Refusal ArgumentReader :=
  match r.pending with
  | none => .ok r
  | some none => .error .noValue
  | some (some value) => { r with pending := none }.assign value

/-- Reads the option of the project root, with its value if that stands in the same argument. -/
def option (r : ArgumentReader) (value : Option Name) : Except Refusal ArgumentReader := do
  let r ← r.settle
  match value with
  | some value => r.assign value
  | none => return { r with pending := some none }

/-- Reads an option that asks for something to be shown. -/
def ask (r : ArgumentReader) (what : Refusal) : Except Refusal ArgumentReader := do
  let _ ← r.settle
  throw what

/-- Reads one argument. -/
def step (r : ArgumentReader) (arg : Name) : Except Refusal ArgumentReader :=
  if r.ended then .error .unknownArgument
  else
    match Word.ofArgument arg with
    | .endOfOptions => .ok { r with ended := true }
    | .long name value =>
      if name = Name.ofString "project-root" then r.option value
      else if name = Name.ofString "help" then
        if value.isSome then .error .unexpectedValue else r.ask .help
      else if name = Name.ofString "version" then
        if value.isSome then .error .unexpectedValue else r.ask .version
      else .error .unknownArgument
    | .short letter behind =>
      if [letter] = Name.ofString "p" then
        match behind with
        | [] => r.option none
        | b :: rest => r.option (some (if b = equalsSign then rest else behind))
      else if [letter] = Name.ofString "h" then r.ask .help
      else if [letter] = Name.ofString "V" then r.ask .version
      else .error .unknownArgument
    | .plain text =>
      match r.pending with
      | some none => .ok { r with pending := some (some text) }
      | _ => .error .unknownArgument

end ArgumentReader

/-- What the arguments ask for. The project root is the current directory unless it is given. -/
def Arguments.read (args : List Name) : Except Refusal Arguments := do
  let r ← args.foldlM ArgumentReader.step .start
  let r ← r.settle
  return ⟨r.root.getD ⟨dot⟩⟩

end Restyle
