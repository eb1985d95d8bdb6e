/-!
# Sets of code points by where they flip

A property of characters is kept as the increasing list of code points at which it starts and
stops to hold: the first entry is its first member, the second the first non-member after it, and
so on.

`flipped` is membership, the parity of the entries passed.
-/

namespace Freshness.Text

def flipped (flips : List Nat) (n : Nat) : Bool :=
  (flips.takeWhile (· ≤ n)).length % 2 == 1

end Freshness.Text
