/-!
# JSON values

* `Json` : a value as it was read. Integers are exact; any other number is kept as it was written.
  An object keeps its members in order, repeated ones included. A text that names half of a
  surrogate pair is well formed but stands for no characters: `Json.unreadable`, and as a member's
  name `none`;
* `Json.field?` and the like : views on a value.
-/

namespace Freshness

inductive Json where
  | null
  | bool (b : Bool)
  | int (n : Int)
  | real (written : String)
  | str (s : String)
  | unreadable
  | arr (items : List Json)
  | obj (members : List (Option String × Json))
deriving Repr, Inhabited

namespace Json

/-- The first member of that name; a missing one and `null` are the same. -/
def field? (j : Json) (name : String) : Option Json :=
  match j with
  | obj members =>
    match members.find? (·.1 == some name) with
    | some (_, null) | none => none
    | some (_, v) => some v
  | _ => none

def str? : Json → Option String
  | str s => some s
  | _ => none

def bool? : Json → Option Bool
  | bool b => some b
  | _ => none

def int? : Json → Option Int
  | int n => some n
  | _ => none

/-- An integer that is not negative and below `bound`. -/
def natBelow? (bound : Nat) : Json → Option Nat
  | int (.ofNat n) => if n < bound then some n else none
  | _ => none

def items? : Json → Option (List Json)
  | arr xs => some xs
  | _ => none

def ofFields (fields : List (String × Json)) : Json := obj (fields.map fun f => (some f.1, f.2))

def ofNat (n : Nat) : Json := int n

def ofOption {α : Type} (f : α → Json) : Option α → Json
  | none => null
  | some a => f a

end Json

end Freshness
