import Restyle.CharSet.Basic

/-!
# Anchors

An anchor is a condition on a place in a text: on the character before it and on the text after it.
It takes no text.

## Main definitions

* `Restyle.Anchor`, `Restyle.Anchor.holds`.
* `Restyle.WordEdge` — the kinds of edges of words.
-/

namespace Restyle

/-- Which edges of words an anchor stands for. -/
inductive WordEdge where
  /-- between a word character and something else, either way round -/
  | either
  /-- inside a word or outside of all words -/
  | neither
  /-- where a word begins -/
  | start
  /-- where a word ends -/
  | finish
  /-- not after a word character -/
  | noWordBefore
  /-- not before a word character -/
  | noWordAfter
  deriving DecidableEq

/-- A condition on a place in a text. -/
inductive Anchor where
  | textStart
  | textEnd
  | lineStart
  | lineEnd
  /-- the beginning of a line, where a line may also end in a carriage return -/
  | returnLineStart
  /-- the end of a line, where a line may also end in a carriage return -/
  | returnLineEnd
  | edge (kind : WordEdge) (word : CharSet)
  deriving DecidableEq

namespace WordEdge

/-- Whether a place is such an edge, given whether word characters stand before and after it. -/
def holds : WordEdge → Bool → Bool → Bool
  | either, before, after => before != after
  | neither, before, after => before == after
  | start, before, after => !before && after
  | finish, before, after => before && !after
  | noWordBefore, before, _ => !before
  | noWordAfter, _, after => !after

end WordEdge

namespace Anchor

/-- Whether an anchor holds between the character `before`, if there is one, and the text `rest`. -/
def holds (before : Option Char) (rest : List Char) : Anchor → Bool
  | textStart => before.isNone
  | textEnd => rest.isEmpty
  | lineStart => before.all (· == '\n')
  | lineEnd => rest.head?.all (· == '\n')
  | returnLineStart =>
    before.all fun c => c == '\n' || (c == '\r' && rest.head? != some '\n')
  | returnLineEnd =>
    rest.head?.all fun c => c == '\r' || (c == '\n' && before != some '\r')
  | edge kind word => kind.holds (before.any word.contains) (rest.head?.any word.contains)

@[simp] theorem holds_lineStart_none (rest : List Char) : lineStart.holds none rest = true := rfl

@[simp] theorem holds_lineStart_some (c : Char) (rest : List Char) :
    lineStart.holds (some c) rest = (c == '\n') := rfl

@[simp] theorem holds_lineEnd_nil (before : Option Char) : lineEnd.holds before [] = true := rfl

@[simp] theorem holds_lineEnd_cons (before : Option Char) (c : Char) (rest : List Char) :
    lineEnd.holds before (c :: rest) = (c == '\n') := rfl

end Anchor

end Restyle
