import Restyle.CharSet.Case
import Restyle.CharSet.Class
import Restyle.Pattern.Shape

/-!
# Faults in a pattern, and the flags in force

## Main definitions

* `Restyle.Fault` — the reasons for which a text is not a pattern.
* `Restyle.Flag`, `Restyle.Flags` — the switches that a pattern can turn on and off for the rest of
  a group.
* `Restyle.Flags.dot`, `Restyle.Flags.lineStart`, `Restyle.Flags.foldCase` and the other meanings
  that depend on the flags.
-/

namespace Restyle

/-- Why a text is not a pattern. -/
inductive Fault where
  | unopenedGroup
  | unclosedGroup
  | lookAround
  | badGroupName
  | duplicateGroupName
  | unknownFlag
  | repeatedFlag
  | danglingNegation
  | nothingToRepeat
  | badCount
  | unclosedBracket
  | badRange
  | anchorInBracket
  | unfinishedEscape
  | unknownEscape
  | backreference
  | badCodePoint
  | unknownProperty
  | notText
  | tooDeep
  | tooLarge
  deriving DecidableEq

/-- A switch of a pattern. -/
inductive Flag where
  | ignoreCase
  | multiLine
  | dotAll
  | swapGreed
  | unicode
  | returns
  | spaced
  deriving DecidableEq

/-- The switch that a letter stands for. -/
def Flag.ofChar? : Char → Option Flag
  | 'i' => some .ignoreCase
  | 'm' => some .multiLine
  | 's' => some .dotAll
  | 'U' => some .swapGreed
  | 'u' => some .unicode
  | 'R' => some .returns
  | 'x' => some .spaced
  | _ => none

/-- The switches that are on. A pattern starts with lines and Unicode on and all else off. -/
structure Flags where
  ignoreCase : Bool := false
  multiLine : Bool := true
  dotAll : Bool := false
  swapGreed : Bool := false
  unicode : Bool := true
  returns : Bool := false
  spaced : Bool := false

/-- Drops white space and comments; a comment runs from a number sign to the end of the line. -/
def skipBlanks : Bool → List Char → List Char
  | _, [] => []
  | true, c :: cs => skipBlanks (c != '\n') cs
  | false, c :: cs =>
    if Text.isBlank c then skipBlanks false cs
    else if c == '#' then skipBlanks true cs
    else c :: cs

namespace Flags

/-- Turns a switch on or off. -/
def set (f : Flags) (flag : Flag) (on : Bool) : Flags :=
  match flag with
  | .ignoreCase => { f with ignoreCase := on }
  | .multiLine => { f with multiLine := on }
  | .dotAll => { f with dotAll := on }
  | .swapGreed => { f with swapGreed := on }
  | .unicode => { f with unicode := on }
  | .returns => { f with returns := on }
  | .spaced => { f with spaced := on }

/-- Drops what does not count at the beginning of a text: blanks and comments if the pattern is
written with spaces, and nothing otherwise. -/
def skip (f : Flags) (cs : List Char) : List Char :=
  if f.spaced then skipBlanks false cs else cs

/-- The text after the contents of a pair of braces, and before it those contents, if the braces
are closed. What does not count is left out, `inComment` telling whether a comment is open. -/
def inBraces? (f : Flags) (inComment : Bool) : List Char → Option (List Char × List Char)
  | [] => none
  | c :: cs =>
    if inComment then f.inBraces? (c != '\n') cs
    else if c == '\x7d' then some ([], cs)
    else if f.spaced && (Text.isBlank c || c == '#') then f.inBraces? (c == '#') cs
    else (f.inBraces? false cs).map fun (contents, after) => (c :: contents, after)

/-- The next character after the first one that counts. A number sign before it is passed over
like a blank, but what follows the number sign counts. -/
def peek (f : Flags) (cs : List Char) : Option Char :=
  if !f.spaced then cs.head?
  else
    match cs.dropWhile Text.isBlank with
    | '#' :: after => (after.dropWhile Text.isBlank).head? <|> cs.head?
    | c :: _ => some c
    | [] => cs.head?

/-- The set with all case variants added if case is ignored; without Unicode, only those in
ASCII. -/
def foldCase (f : Flags) (set : CharSet) : CharSet :=
  if !f.ignoreCase then set else if f.unicode then set.anyCase else set.anyAsciiCase

/-- The characters outside a set. Without Unicode they would be bytes, of which some are no
characters. -/
def compl (f : Flags) (set : CharSet) : Except Fault CharSet :=
  if f.unicode then .ok set.compl else .error .notText

/-- The set itself, or the characters outside it. -/
def complIf (f : Flags) (negated : Bool) (set : CharSet) : Except Fault CharSet :=
  if negated then f.compl set else .ok set

/-- Decimal digits. -/
def digit (f : Flags) : CharSet := if f.unicode then .digit else .asciiDigit

/-- White space. -/
def blank (f : Flags) : CharSet := if f.unicode then .blank else .asciiBlank

/-- Word characters. -/
def word (f : Flags) : CharSet := if f.unicode then .word else .asciiWord

/-- What a dot stands for: any character, or any that does not end a line. -/
def dot (f : Flags) : Except Fault CharSet :=
  f.compl (if f.dotAll then .empty
    else if f.returns then (CharSet.char '\n').union (.char '\r')
    else .newline)

/-- What a circumflex stands for. -/
def lineStart (f : Flags) : Anchor :=
  if !f.multiLine then .textStart else if f.returns then .returnLineStart else .lineStart

/-- What a dollar sign stands for. -/
def lineEnd (f : Flags) : Anchor :=
  if !f.multiLine then .textEnd else if f.returns then .returnLineEnd else .lineEnd

/-- The preference of a repetition, `lazy` telling whether a question mark follows it. -/
def preference (f : Flags) (lazy : Bool) : Preference :=
  if lazy == f.swapGreed then .more else .fewer

end Flags

end Restyle
