/-!
# TOML values

* `Toml.Scalar` : a value without parts. Numbers with a fraction or an exponent, dates and times are
  kept as they were written;
* `Toml` : a scalar, an array, or a table;
* `Toml.integerFits` : the range of integers, which is that of signed words of 64 bits;
* `Toml.text?`, `Toml.boolean?`, `Toml.natural?` : views on a value.
-/

namespace Freshness

inductive Toml.Scalar where
  | text (s : String)
  | integer (n : Int)
  | real (written : String)
  | boolean (b : Bool)
  | moment (written : String)
deriving DecidableEq, Repr, Inhabited

inductive Toml where
  | scalar (s : Toml.Scalar)
  | array (items : List Toml)
  | table (entries : List (String × Toml))
deriving Repr, Inhabited

namespace Toml

def integerFits (n : Int) : Bool := -0x8000000000000000 ≤ n && n < 0x8000000000000000

def text? : Toml → Option String
  | scalar (.text s) => some s
  | _ => none

def boolean? : Toml → Option Bool
  | scalar (.boolean b) => some b
  | _ => none

def natural? : Toml → Option Nat
  | scalar (.integer (.ofNat n)) => some n
  | _ => none

end Toml

end Freshness
