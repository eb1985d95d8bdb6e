/-!
# Values a source may bring

The coordinator works for values of any type with a test for sameness. `Payload` is the type for
values that arrive as structured text.

* `Special` : the floating-point values that differ in how they compare;
* `Payload`, `Payload.same` : sameness goes by kind and content. As for floating point in general,
  not-a-number differs from itself, so a list with one in it does too, and the two zeros agree.
-/

namespace Freshness

/-- A floating-point value, one of each way to compare. -/
inductive Special where
  | zero
  | negZero
  | one
  | nan
  | inf
  | negInf
deriving DecidableEq, Repr, Inhabited

namespace Special

def all : List Special := [zero, negZero, one, nan, inf, negInf]

def text : Special → String
  | zero => "0.0"
  | negZero => "-0.0"
  | one => "1.0"
  | nan => "NaN"
  | inf => "inf"
  | negInf => "-inf"

def ofText? (s : String) : Option Special := all.find? (·.text == s)

theorem ofText?_text (x : Special) : ofText? x.text = some x := by cases x <;> decide

def same : Special → Special → Bool
  | nan, _ | _, nan => false
  | zero, negZero | negZero, zero => true
  | x, y => x == y

end Special

inductive Payload where
  | null
  | int (n : Int)
  | text (s : String)
  | real (x : Special)
  | list (xs : List Payload)
deriving Repr, Inhabited

namespace Payload

mutual

def same : Payload → Payload → Bool
  | null, null => true
  | int m, int n => m == n
  | text s, text t => s == t
  | real x, real y => x.same y
  | list xs, list ys => sameItems xs ys
  | _, _ => false

def sameItems : List Payload → List Payload → Bool
  | [], [] => true
  | x :: xs, y :: ys => same x y && sameItems xs ys
  | _, _ => false

end

instance : BEq Payload := ⟨same⟩

end Payload

end Freshness
