/-!
# Who waits for a call

* `Caller` : the driving task, which numbers its calls, or a task of its own, known by its label.
-/

namespace Freshness

inductive Caller where
  | main (number : Nat)
  | task (label : String)
deriving DecidableEq, Repr, Inhabited

/-- The driving task waits. -/
def Caller.isMain : Caller → Bool
  | main _ => true
  | task _ => false

end Freshness
