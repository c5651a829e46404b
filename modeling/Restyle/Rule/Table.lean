import Restyle.Rule.Basic

/-!
# The rules that turn Material-UI markup into Bootstrap markup

The table has a part for each component, in the order of application, and ends with the attributes
that become classes. An opening tag is found by its name alone, so that a rule also applies to the
longer names that begin with the same letters.

## Main definitions

* `Restyle.bootstrapRules` — the table.
-/

namespace Restyle

/-- Removes the imports of the component library and of its styling packages. The rules that name a
component stand before those that look at the package only. -/
def importRules : RuleSet := [
  .ofReadable .importElision
    "import\\s+\\\x7b[^\x7d]*Button[^\x7d]*\\\x7d\\s+from\\s+['\"]@mui/material['\"];?" "",
  .ofReadable .importElision
    "import\\s+\\\x7b[^\x7d]*TextField[^\x7d]*\\\x7d\\s+from\\s+['\"]@mui/material['\"];?" "",
  .ofReadable .importElision
    "import\\s+\\\x7b[^\x7d]*Select[^\x7d]*\\\x7d\\s+from\\s+['\"]@mui/material['\"];?" "",
  .ofReadable .importElision "import\\s+.*from\\s+['\"]@mui/material['\"];?" "",
  .ofReadable .importElision "import\\s+.*from\\s+['\"]@emotion/[^'\"]+['\"];?" ""]

/-- Buttons: the variants before the button without one. -/
def buttonRules : RuleSet := [
  .ofReadable .retag "<Button\\s+variant=\"contained\"([^>]*)>"
    "<button className=\"btn btn-primary\"$\x7b1\x7d>",
  .ofReadable .retag "<Button\\s+variant=\"outlined\"([^>]*)>"
    "<button className=\"btn btn-outline-primary\"$\x7b1\x7d>",
  .ofReadable .retag "<Button\\s+variant=\"text\"([^>]*)>"
    "<button className=\"btn btn-link\"$\x7b1\x7d>",
  .ofReadable .retag "<Button([^>]*)>" "<button className=\"btn btn-primary\"$\x7b1\x7d>",
  .ofReadable .closingTag "</Button>" "</button>"]

/-- Text fields: those of several lines before the others. -/
def textFieldRules : RuleSet := [
  .ofReadable .selfClosing "<TextField\\s+([^/]*?)multiline([^/]*?)/>"
    "<textarea className=\"form-control\" $\x7b1\x7d $\x7b2\x7d></textarea>",
  .ofReadable .selfClosing "<TextField\\s+([^/]*?)/>"
    "<input className=\"form-control\" $\x7b1\x7d />"]

/-- Selections and their items. -/
def selectRules : RuleSet := [
  .ofReadable .retag "<Select([^>]*)>" "<select className=\"form-select\"$\x7b1\x7d>",
  .ofReadable .closingTag "</Select>" "</select>",
  .ofReadable .retag "<MenuItem([^>]*)>" "<option$\x7b1\x7d>",
  .ofReadable .closingTag "</MenuItem>" "</option>"]

/-- Form controls. -/
def formControlRules : RuleSet := [
  .ofReadable .retag "<FormControl([^>]*)>" "<div className=\"mb-3\"$\x7b1\x7d>",
  .ofReadable .closingTag "</FormControl>" "</div>"]

/-- Labels of inputs. -/
def inputLabelRules : RuleSet := [
  .ofReadable .retag "<InputLabel([^>]*)>" "<label className=\"form-label\"$\x7b1\x7d>",
  .ofReadable .closingTag "</InputLabel>" "</label>"]

/-- Check boxes and the labelled controls around them. -/
def checkboxRules : RuleSet := [
  .ofReadable .selfClosing "<Checkbox([^>]*)/>"
    "<input type=\"checkbox\" className=\"form-check-input\"$\x7b1\x7d />",
  .ofReadable .retag "<FormControlLabel([^>]*)>" "<div className=\"form-check\"$\x7b1\x7d>",
  .ofReadable .closingTag "</FormControlLabel>" "</div>"]

/-- Radio buttons and groups of them. -/
def radioRules : RuleSet := [
  .ofReadable .selfClosing "<Radio([^>]*)/>"
    "<input type=\"radio\" className=\"form-check-input\"$\x7b1\x7d />",
  .ofReadable .container "<RadioGroup([^>]*)>" "<div$\x7b1\x7d>",
  .ofReadable .closingTag "</RadioGroup>" "</div>"]

/-- Boxes. -/
def boxRules : RuleSet := [
  .ofReadable .container "<Box([^>]*)>" "<div$\x7b1\x7d>",
  .ofReadable .closingTag "</Box>" "</div>"]

/-- Chips. -/
def chipRules : RuleSet := [
  .ofReadable .selfClosing "<Chip([^>]*)/>"
    "<span className=\"badge bg-secondary\"$\x7b1\x7d></span>"]

/-- Attributes for colours, sizes and widths. -/
def attributeRules : RuleSet := [
  .ofReadable .attributeToClass "color=\"primary\"" "className=\"text-primary\"",
  .ofReadable .attributeToClass "color=\"secondary\"" "className=\"text-secondary\"",
  .ofReadable .attributeToClass "color=\"error\"" "className=\"text-danger\"",
  .ofReadable .attributeToClass "color=\"success\"" "className=\"text-success\"",
  .ofReadable .attributeToClass "color=\"warning\"" "className=\"text-warning\"",
  .ofReadable .attributeToClass "size=\"small\"" "className=\"btn-sm\"",
  .ofReadable .attributeToClass "size=\"large\"" "className=\"btn-lg\"",
  .ofReadable .attributeToClass "fullWidth" "className=\"w-100\""]

/-- The table, in the order of application. -/
def bootstrapRules : RuleSet :=
  importRules ++ buttonRules ++ textFieldRules ++ selectRules ++ formControlRules ++
    inputLabelRules ++ checkboxRules ++ radioRules ++ boxRules ++ chipRules ++ attributeRules

@[simp] theorem length_bootstrapRules : bootstrapRules.length = 37 := rfl

end Restyle
