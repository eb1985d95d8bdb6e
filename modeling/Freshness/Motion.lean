/-!
# Systems in motion

* `Motion.run?` : steps until a goal is reached or no step is possible; `none` if the fuel does not
  last;
* `Motion.patience` : the fuel that runs are given.
-/

namespace Freshness.Motion

variable {σ : Type}

def run? (step? : σ → Option σ) (goal : σ → Bool) : (fuel : Nat) → σ → Option σ
  | 0, _ => none
  | fuel + 1, s =>
    if goal s then some s
    else match step? s with
      | none => some s
      | some t => run? step? goal fuel t

/-- The steps that a run is given. A coordinator that polls at most once a second stays far below
it for weeks on end; one whose timer fires in the past would go on for ever. -/
def patience : Nat := 5000000

end Freshness.Motion
