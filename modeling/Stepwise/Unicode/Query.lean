import Stepwise.Unicode.Age
import Stepwise.Unicode.Break
import Stepwise.Unicode.Script

/-!
# Classes by name

A class of characters is asked for by the name of a property, or of one of its
values, or of both. Case, blanks, hyphens and low lines make no difference to a
name, and neither does an `is` in front of it.
-/

namespace Stepwise.Unicode

/-- A name as classes are looked up by it: small letters, without blanks,
hyphens, low lines and a leading `is`. The short name of a comment, which would
lose its first letters, keeps them. -/
def looseName (name : String) : String :=
  let lower := name.toList.map Char.toLower
  let (dropped, body) :=
    match lower with
    | 'i' :: 's' :: rest => (true, rest)
    | _ => (false, lower)
  let kept := body.filter fun c =>
    !(c == ' ' || c == '_' || c == '-') && decide (c.toNat < 0x80)
  if dropped && kept == ['c'] then "isc" else String.ofList kept

/-- The class of a name that stands alone: a property with two values, a general
category or a script. Three short names stand for categories, and not for the
properties that have them too. -/
def named? (name : String) : Option CharSet :=
  let name := looseName name
  let own := if ["cf", "sc", "lc"].contains name then none else property? name
  match own with
  | some s => some s
  | none =>
    match category? name with
    | some s => some s
    | none => script? name

/-- The class of a value of a property. -/
def valued? (name value : String) : Option CharSet :=
  let name := looseName name
  let value := looseName value
  if ["gc", "generalcategory"].contains name then category? value
  else if ["sc", "script"].contains name then script? value
  else if ["scx", "scriptextensions"].contains name then scriptExtensions? value
  else if name == "age" then age? value
  else if ["gcb", "graphemeclusterbreak"].contains name then graphemeBreak? value
  else if ["wb", "wordbreak"].contains name then wordBreak? value
  else if ["sb", "sentencebreak"].contains name then sentenceBreak? value
  else none

end Stepwise.Unicode
