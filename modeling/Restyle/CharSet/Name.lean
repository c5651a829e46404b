import Restyle.CharSet.Age
import Restyle.CharSet.Break
import Restyle.CharSet.Script
import Restyle.Text.Cut

/-!
# Sets of characters by name

A set of characters can be named by a property, a general category or a script, or by one of the
characteristics of characters together with a value, as in `Script=Greek`. An exclamation mark
before the equals sign asks for the characters without that value. Case, blanks, hyphens and
underscores do not count in a name, nor does what is not ASCII, nor a syllable `is` at the
beginning.

## Main definitions

* `Restyle.CharSet.plainName` — a name without what does not count.
* `Restyle.CharSet.ofName?` — the characters with a property, category or script.
* `Restyle.CharSet.ofValue?` — the characters with a value of a characteristic.
* `Restyle.CharSet.described?` — the set that a description names.
-/

namespace Restyle.CharSet

/-- A name in small letters without what does not count in it, but for a syllable at its
beginning. -/
def smallName (name : List Char) : List Char :=
  (name.filter fun c => c.toNat < 128 && c != ' ' && c != '_' && c != '-').map Char.toLower

/-- A name in small letters without what does not count in it. The name `isc` has no syllable that
does not count. -/
def plainName (name : List Char) : String :=
  match name with
  | i :: s :: rest =>
    if i.toLower == 'i' && s.toLower == 's' then
      match smallName rest with
      | ['c'] => "isc"
      | rest => String.ofList rest
    else String.ofList (smallName name)
  | name => String.ofList (smallName name)

/-- The characters with the property, the general category or the script of a plain name. The names
of three categories are also short names of characteristics and never name a property. -/
def ofName? (name : String) : Option CharSet :=
  if ["cf", "lc", "sc"].contains name then category? name
  else property? name <|> category? name <|> script? name

/-- The characters for which a characteristic has a given value, both with plain names. -/
def ofValue? (characteristic value : String) : Option CharSet :=
  match characteristic with
  | "gc" | "category" | "generalcategory" => category? value
  | "sc" | "script" => script? value
  | "scx" | "scriptextensions" => scriptExtensions? value
  | "age" => age? value
  | "gcb" | "graphemeclusterbreak" => graphemeBreak? value
  | "wb" | "wordbreak" => wordBreak? value
  | "sb" | "sentencebreak" => sentenceBreak? value
  | _ => none

/-- The set that a description names, and whether the characters outside it are meant. -/
def described? (text : List Char) : Option (CharSet × Bool) :=
  match Text.cutAt? ['!', '='] text with
  | some (name, value) => (ofValue? (plainName name) (plainName value)).map (·, true)
  | none =>
    match Text.cutAt? [':'] text <|> Text.cutAt? ['='] text with
    | some (name, value) => (ofValue? (plainName name) (plainName value)).map (·, false)
    | none => (ofName? (plainName text)).map (·, false)

end Restyle.CharSet
