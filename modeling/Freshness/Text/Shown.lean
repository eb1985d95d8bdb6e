/-!
# The layout of diagnostics

* `shownBool`, `shownOption` : truth values and optional values;
* `shownTuple` : a name with one value in brackets;
* `shownRecord` : a name with named values in braces.
-/

namespace Freshness.Text

def shownBool : Bool → String
  | true => "true"
  | false => "false"

def shownTuple (name value : String) : String := name ++ "(" ++ value ++ ")"

def shownOption {α : Type} (f : α → String) : Option α → String
  | none => "None"
  | some a => shownTuple "Some" (f a)

def shownRecord (name : String) (fields : List (String × String)) : String :=
  name ++ " \x7b " ++ ", ".intercalate (fields.map fun f => f.1 ++ ": " ++ f.2) ++ " \x7d"

end Freshness.Text
