import Restyle.CharSet.Class
import Restyle.Pattern.Template

/-!
# The forms of the rules of the table

The rules of the table come in a few forms, which differ in the texts that they look for and put in.
Three forms remove imports. The others stand for an element, of which the attributes are kept, for a
text field, or for one text in place of another.

## Main definitions

* `Restyle.Form`, `Restyle.Form.shape`, `Restyle.Form.template` — the forms, with what they look for
  and what they put in.
* `Restyle.importForms`, `Restyle.tagForms`, `Restyle.attributeForms`, `Restyle.bootstrapForms` —
  the forms of the rules of the table, in order.
-/

namespace Restyle

/-! ### Members

What holds of all members is found out by going through them, and not through everything that might
be one, as all characters. -/

instance (priority := 2000) decidableForallMemList {α : Type} (p : α → Prop) [DecidablePred p]
    (l : List α) :
    Decidable (∀ x ∈ l, p x) := List.decidableBAll p l

instance (priority := 2000) decidableForallMemOption {α : Type} (p : α → Prop) [DecidablePred p]
    (o : Option α) :
    Decidable (∀ x ∈ o, p x) := Option.decidableForallMem o

/-! ### The forms -/

/-- The characters other than one. -/
def otherThan (c : Char) : CharSet := (CharSet.char c).compl

/-- The quotation marks. -/
def quotes : CharSet := .unionAll [.char '\'', .char '"']

/-- The text of a string as a template. -/
def Template.ofText (s : String) : Template := s.toList.map .char

namespace Shape

/-- The text of a string. -/
def text (s : String) : Shape := literal s.toList

/-- Any number of characters of a set, as many as possible. -/
def many (set : CharSet) : Shape := repeated (one set) 0 none .more

/-- Any number of characters of a set, as few as possible. -/
def few (set : CharSet) : Shape := repeated (one set) 0 none .fewer

/-- White space, as much as possible. -/
def blanks : Shape := repeated (one .blank) 1 none .more

end Shape

/-- The forms of the rules of the table. -/
inductive Form where
  /-- removes the import of a name, among others, from the component library -/
  | namedImport (name : String)
  /-- removes an import from the component library -/
  | packageImport
  /-- removes an import from one of the styling packages -/
  | styleImport
  /-- puts `new` in place of the beginning of a button of the given variant -/
  | variant (value new : String)
  /-- puts `new` in place of the beginning `tag` of an element and `finish` in place of its end -/
  | element (tag ending new finish : String)
  /-- turns a text field of several lines into a text area -/
  | longField
  /-- turns a text field into an input -/
  | field
  /-- puts one text in place of another -/
  | words (old new : String)
  deriving DecidableEq

namespace Form

open Shape Template

/-- The end of an import statement, `package` giving what stands between the quotation marks. -/
def fromPackage (package : List Shape) : List Shape :=
  [text "from", blanks, one quotes] ++ package ++
    [one quotes, repeated (text ";") 0 (some 1) .more]

/-- What stands before a text field: its name and white space. -/
def fieldStart : List Shape := [text "<TextField", blanks]

/-- What a rule of a form looks for. -/
def shape : Form → Shape
  | namedImport name =>
    ofParts ([text "import", blanks, text "\x7b", many (otherThan '\x7d'), text name,
      many (otherThan '\x7d'), text "\x7d", blanks] ++ fromPackage [text "@mui/material"])
  | packageImport =>
    ofParts ([text "import", blanks, many (otherThan '\n')] ++ fromPackage [text "@mui/material"])
  | styleImport =>
    ofParts ([text "import", blanks, many (otherThan '\n')] ++
      fromPackage [text "@emotion/", repeated (one quotes.compl) 1 none .more])
  | variant value _ =>
    ofParts [text "<Button", blanks, text ("variant=\"" ++ value ++ "\""),
      group 1 (many (otherThan '>')), text ">"]
  | element tag ending _ _ => ofParts [text tag, group 1 (many (otherThan '>')), text ending]
  | longField =>
    ofParts (fieldStart ++ [group 1 (few (otherThan '/')), text "multiline",
      group 2 (few (otherThan '/')), text "/>"])
  | field => ofParts (fieldStart ++ [group 1 (few (otherThan '/')), text "/>"])
  | words old _ => text old

/-- What a rule of a form puts in. -/
def template : Form → Template
  | namedImport _ | packageImport | styleImport => []
  | variant _ new => ofText new ++ .group 1 :: ofText ">"
  | element _ _ new finish => ofText new ++ .group 1 :: ofText finish
  | longField =>
    ofText "<textarea className=\"form-control\" " ++ .group 1 :: ofText " " ++
      .group 2 :: ofText "></textarea>"
  | field => ofText "<input className=\"form-control\" " ++ .group 1 :: ofText " />"
  | words _ new => ofText new

/-- What a rule of a form puts in, as a text. -/
def replacement : Form → String
  | namedImport _ | packageImport | styleImport => ""
  | variant _ new => new ++ "$\x7b1\x7d" ++ ">"
  | element _ _ new finish => new ++ "$\x7b1\x7d" ++ finish
  | longField => "<textarea className=\"form-control\" $\x7b1\x7d $\x7b2\x7d></textarea>"
  | field => "<input className=\"form-control\" " ++ "$\x7b1\x7d" ++ " />"
  | words _ new => new

/-- Whether the texts of a form hold no dollar sign, which would begin a reference. -/
def isVerbatim : Form → Bool
  | variant _ new | words _ new => !new.toList.contains '$'
  | element _ _ new finish => !new.toList.contains '$' && !finish.toList.contains '$'
  | _ => true

/-- An opening tag. -/
def opening (tag new : String) : Form := element ("<" ++ tag) ">" new ">"

/-- An element without content. -/
def selfClosing (tag new finish : String) : Form := element ("<" ++ tag) "/>" new finish

/-- A closing tag. -/
def closing (tag new : String) : Form := words ("</" ++ tag ++ ">") ("</" ++ new ++ ">")

/-- An attribute that becomes a class. -/
def toClass (old name : String) : Form := words old ("className=\"" ++ name ++ "\"")

end Form

open Form

/-- The forms of the rules that remove imports. -/
def importForms : List Form :=
  [namedImport "Button", namedImport "TextField", namedImport "Select", packageImport, styleImport]

/-- The forms of the rules for tags. -/
def tagForms : List Form := [
  variant "contained" "<button className=\"btn btn-primary\"",
  variant "outlined" "<button className=\"btn btn-outline-primary\"",
  variant "text" "<button className=\"btn btn-link\"",
  opening "Button" "<button className=\"btn btn-primary\"",
  closing "Button" "button",
  longField,
  field,
  opening "Select" "<select className=\"form-select\"",
  closing "Select" "select",
  opening "MenuItem" "<option",
  closing "MenuItem" "option",
  opening "FormControl" "<div className=\"mb-3\"",
  closing "FormControl" "div",
  opening "InputLabel" "<label className=\"form-label\"",
  closing "InputLabel" "label",
  selfClosing "Checkbox" "<input type=\"checkbox\" className=\"form-check-input\"" " />",
  opening "FormControlLabel" "<div className=\"form-check\"",
  closing "FormControlLabel" "div",
  selfClosing "Radio" "<input type=\"radio\" className=\"form-check-input\"" " />",
  opening "RadioGroup" "<div",
  closing "RadioGroup" "div",
  opening "Box" "<div",
  closing "Box" "div",
  selfClosing "Chip" "<span className=\"badge bg-secondary\"" "></span>"]

/-- The forms of the rules for attributes. -/
def attributeForms : List Form := [
  toClass "color=\"primary\"" "text-primary",
  toClass "color=\"secondary\"" "text-secondary",
  toClass "color=\"error\"" "text-danger",
  toClass "color=\"success\"" "text-success",
  toClass "color=\"warning\"" "text-warning",
  toClass "size=\"small\"" "btn-sm",
  toClass "size=\"large\"" "btn-lg",
  toClass "fullWidth" "w-100"]

/-- The forms of the rules of the table. -/
def bootstrapForms : List Form := importForms ++ tagForms ++ attributeForms

theorem mem_bootstrapForms_iff {x : Form} :
    x ∈ bootstrapForms ↔ x ∈ importForms ∨ x ∈ tagForms ++ attributeForms := by
  rw [bootstrapForms, List.append_assoc, List.mem_append]

end Restyle
