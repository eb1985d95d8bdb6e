import Freshness.Report

/-!
# What is known of the source

* `Standing` : the last value, whether the last update succeeded, the last fault, and when the
  last value came; a new one is healthy and empty;
* `Standing.apply` : the result of a fetch, by `Standing.succeed` or `Standing.fail`;
* `Standing.injectFault`, `Standing.injectData` : the same without a fetch. The first says whether
  it opened an episode of failure, the only case that is logged and announced.
-/

namespace Freshness

/-- The record of a source of values of type `α`. -/
structure Standing (α : Type) where
  data : Option α := none
  lastUpdateSuccess : Bool := true
  lastFault : Option Fault := none
  /-- When the value came, in milliseconds since 1970. -/
  lastSuccessTime : Option Int := none
deriving Repr, Inhabited

namespace Standing

variable {α : Type}

/-- A failed fetch. A fetch that is not implemented says nothing about the source, so the health
flag keeps its value. -/
def fail (s : Standing α) (f : Fault) : Standing α × Report :=
  let success := s.lastUpdateSuccess && f.kind.isFatal
  ({ s with lastUpdateSuccess := success, lastFault := some f },
    { previousSuccess := s.lastUpdateSuccess, success, dataChanged := false,
      failure := some f.kind })

/-- A fault told from outside; the flag says that it opened an episode of failure. -/
def injectFault (s : Standing α) (f : Fault) : Standing α × Bool :=
  ({ s with lastUpdateSuccess := false, lastFault := some f }, s.lastUpdateSuccess)

def injectData (_ : Standing α) (a : α) (now : Int) : Standing α :=
  { data := some a, lastUpdateSuccess := true, lastFault := none, lastSuccessTime := some now }

/-- A fetch that brought a value. It changed the data if there was none or another one. -/
def succeed [BEq α] (s : Standing α) (a : α) (now : Int) : Standing α × Report :=
  (s.injectData a now,
    { previousSuccess := s.lastUpdateSuccess, success := true,
      dataChanged := !s.data.any (· == a), failure := none })

def apply [BEq α] (s : Standing α) (result : Except Fault α) (now : Int) : Standing α × Report :=
  match result with
  | .ok a => s.succeed a now
  | .error f => s.fail f

end Standing

end Freshness
