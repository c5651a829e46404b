import Restyle.Pattern.Basic
import Restyle.Pattern.Template

/-!
# Rules

A rule replaces every match of a pattern by the text that a template gives for it. A set of rules is
applied in order, each rule to what the rules before it have made of the text.

## Main definitions

* `Restyle.Category`, `Restyle.Rule`, `Restyle.RuleSet`.
* `Restyle.Rule.readWithin` — the rule that a pattern and a replacement write, if the pattern is
  one, with any size check.
* `Restyle.Rule.read` — the same with the size check by weight.
* `Restyle.Rule.apply`, `Restyle.RuleSet.apply` — a text with every match replaced.
* `Restyle.RuleSet.report` — the same text together with the rules that matched.
-/

namespace Restyle

/-- What a rule is for. -/
inductive Category where
  /-- removes an import that is no longer needed -/
  | importElision
  /-- gives an opening tag a new name and classes -/
  | retag
  /-- gives a closing tag a new name -/
  | closingTag
  /-- turns an attribute into a class -/
  | attributeToClass
  /-- replaces an element without content -/
  | selfClosing
  /-- turns a layout element into a plain one -/
  | container
  deriving DecidableEq

namespace Category

/-- All categories. -/
def all : List Category :=
  [importElision, retag, closingTag, attributeToClass, selfClosing, container]

/-- The name of a category. -/
def name : Category → String
  | importElision => "import elision"
  | retag => "retag"
  | closingTag => "closing tag"
  | attributeToClass => "attribute to class"
  | selfClosing => "self-closing"
  | container => "container"

/-- The category of a name. -/
def ofName? (name : String) : Option Category := all.find? (·.name == name)

theorem ofName?_name (c : Category) : ofName? c.name = some c := by cases c <;> decide

end Category

/-- A rule: the texts of its pattern and its replacement, and what they write. -/
structure Rule where
  category : Category
  source : String
  replacement : String
  pattern : Pattern
  template : Template

/-- The refusal of a rule whose pattern cannot be read. -/
structure InvalidPattern where
  source : String
  fault : Fault

/-- The message of a refusal, up to the explanation of the fault. -/
def InvalidPattern.message (e : InvalidPattern) : String :=
  "invalid rule pattern '" ++ e.source ++ "': "

namespace Rule

/-- The rule that a pattern and a replacement write, if the pattern is not too large. -/
def readWithin (tooLarge : SizeCheck) (category : Category) (source replacement : String) :
    Except InvalidPattern Rule :=
  match Pattern.readWithin tooLarge source.toList with
  | .ok pattern => .ok ⟨category, source, replacement, pattern, .read replacement.toList⟩
  | .error fault => .error ⟨source, fault⟩

/-- The rule that a pattern and a replacement write, with the size check by weight. -/
def read (category : Category) (source replacement : String) : Except InvalidPattern Rule :=
  readWithin Shape.isTooHeavy category source replacement

/-- The rule of a pattern that is known to be one. -/
def ofReadable (category : Category) (source replacement : String)
    (readable : (Pattern.read source.toList).isOk := by decide +kernel) : Rule :=
  match h : Pattern.read source.toList with
  | .ok pattern => ⟨category, source, replacement, pattern, .read replacement.toList⟩
  | .error _ => False.elim (by rw [h] at readable; cases readable)

/-- The parts of a text that a rule tells apart. -/
def segments (r : Rule) (text : List Char) : List Segment := r.pattern.shape.segments text

/-- The text that takes the place of a match. -/
def expand (r : Rule) (m : Match) : List Char := r.template.expand r.pattern.names m

/-- A text with every match of the rule replaced. -/
def apply (r : Rule) (text : List Char) : List Char :=
  r.pattern.shape.replaceAll r.expand text

end Rule

/-- Rules in the order in which they are applied. -/
abbrev RuleSet := List Rule

/-- A rule that matched: its place in the rule set, its category and how many matches it had. -/
structure Hit where
  index : Nat
  category : Category
  count : Nat
  deriving DecidableEq

namespace RuleSet

/-- The rules of a list of categories, patterns and replacements, or the first of the patterns that
cannot be read. -/
def read (rules : List (Category × String × String)) : Except InvalidPattern RuleSet :=
  rules.mapM fun (category, source, replacement) => Rule.read category source replacement

/-- A text after all rules, given as characters. -/
def applyChars (rs : RuleSet) (text : List Char) : List Char :=
  rs.foldl (fun t r => r.apply t) text

/-- A text after all rules. -/
def apply (rs : RuleSet) (text : String) : String :=
  String.ofList (rs.applyChars text.toList)

/-- A text after the rules of a list, of which the first has the number `index`, and the rules that
matched. A rule without a match is passed over. -/
def reportFrom (index : Nat) : RuleSet → List Char → List Char × List Hit
  | [], text => (text, [])
  | r :: rs, text =>
    let segments := r.segments text
    match segments.countP (·.match?.isSome) with
    | 0 => reportFrom (index + 1) rs text
    | count =>
      let (result, hits) :=
        reportFrom (index + 1) rs (segments.flatMap (·.replaced r.expand))
      (result, ⟨index, r.category, count⟩ :: hits)

/-- A text after all rules, and the rules that matched. -/
def report (rs : RuleSet) (text : String) : String × List Hit :=
  let (result, hits) := reportFrom 0 rs text.toList
  (String.ofList result, hits)

/-- The texts after each rule that changes the text it is applied to, with the number of the rule;
the first rule of the list has the number `index`. -/
def changesFrom (index : Nat) : RuleSet → List Char → List (Nat × List Char)
  | [], _ => []
  | r :: rs, text =>
    let next := r.apply text
    let later := changesFrom (index + 1) rs next
    if next = text then later else (index, next) :: later

/-- The texts after each rule that changes the text, with the number of the rule. -/
def changes (rs : RuleSet) (text : String) : List (Nat × String) :=
  (changesFrom 0 rs text.toList).map fun (index, t) => (index, String.ofList t)

end RuleSet

end Restyle
