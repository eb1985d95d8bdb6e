import Freshness.Duration

/-!
# Timers in virtual time

* `clockEnd` : where the clock ends;
* `Timers` : what is to run and when, with the time in microseconds since the start. Jobs are data
  of type `ω`; a world that has timers performs them. A job runs at its deadline to the microsecond,
  also where a wheel that turns once a millisecond would run it up to one later;
* `Timers.schedule` : a job for a deadline; one that lies in the past is due now. The handle cancels
  the job; a table that nothing drives gives a detached handle and keeps nothing;
* `Timers.cancel` : the job will not run, unless it has started before;
* `Timers.takeDue?` : the job that runs next, if it is due by a given time. Time moves to its
  deadline and never back. The earliest deadline goes first, of equal ones the older job;
* `Timers.drain`, `Timers.elapse` : all that is due by a limit or while time passes, for jobs that
  enter no others.
-/

namespace Freshness

/-- The first time that is too late for the clock, in microseconds. The clock counts seconds below
`2 ^ 63`, and it stands at one or later when time starts here. -/
def clockEnd : Nat := 0x7fffffffffffffff * 1000000

structure TimerId where
  number : Nat
deriving DecidableEq, Repr, Inhabited

structure Timer (ω : Type) where
  id : TimerId
  deadline : Nat
  job : ω
deriving Repr

/-- What can cancel a job; a detached handle has nothing behind it. -/
structure TimerHandle where
  timer : Option TimerId
deriving DecidableEq, Repr, Inhabited

namespace TimerHandle

def detached : TimerHandle := ⟨none⟩

def isCancellable (h : TimerHandle) : Bool := h.timer.isSome

def shown (h : TimerHandle) : String :=
  Text.shownRecord "TimerHandle" [("cancellable", Text.shownBool h.isCancellable)]

end TimerHandle

structure Timers (ω : Type) where
  now : Nat := 0
  nextId : Nat := 0
  waiting : List (Timer ω) := []
  /-- Something runs the jobs when their time comes. -/
  driven : Bool := true
deriving Repr

namespace Timers

variable {ω : Type}

def schedule (t : Timers ω) (deadline : Nat) (job : ω) : TimerHandle × Timers ω :=
  if t.driven then
    (⟨some ⟨t.nextId⟩⟩,
      { t with nextId := t.nextId + 1
               waiting := t.waiting ++ [⟨⟨t.nextId⟩, max t.now deadline, job⟩] })
  else (.detached, t)

def spawn (t : Timers ω) (deadline : Nat) (job : ω) : Timers ω := (t.schedule deadline job).2

def cancel (t : Timers ω) (h : TimerHandle) : Timers ω :=
  match h.timer with
  | none => t
  | some id => { t with waiting := t.waiting.filter (·.id != id) }

/-- The job among `ts` with the earliest deadline, the first of equal ones. -/
def earliest? : List (Timer ω) → Option (Timer ω)
  | [] => none
  | t :: ts =>
    match earliest? ts with
    | none => some t
    | some u => if u.deadline < t.deadline then some u else some t

/-- The job that runs next, if its deadline is at `limit` or before, and the table without it, at
the time it runs. Without a limit every job is due in the end. -/
def takeDue? (t : Timers ω) (limit : Option Nat) : Option (ω × Timers ω) :=
  match earliest? t.waiting with
  | none => none
  | some u =>
    if limit.all (u.deadline ≤ ·) then
      some (u.job, { t with now := max t.now u.deadline
                            waiting := t.waiting.filter (·.id != u.id) })
    else none

def moveTo (t : Timers ω) (time : Nat) : Timers ω := { t with now := max t.now time }

/-! ## Draining -/

theorem mem_of_earliest? {ts : List (Timer ω)} {u : Timer ω} (h : earliest? ts = some u) :
    u ∈ ts := by
  induction ts generalizing u with
  | nil => simp [earliest?] at h
  | cons t ts ih =>
    simp only [earliest?] at h
    split at h
    · simp_all
    · next v hv =>
      split at h
      · obtain rfl := Option.some.inj h
        exact List.mem_cons_of_mem _ (ih hv)
      · simp_all

theorem length_takeDue?_lt {t t' : Timers ω} {limit : Option Nat} {job : ω}
    (h : t.takeDue? limit = some (job, t')) : t'.waiting.length < t.waiting.length := by
  simp only [takeDue?] at h
  split at h
  · simp at h
  · next u hu =>
    split at h
    · obtain ⟨_, rfl⟩ := Prod.mk.inj (Option.some.inj h)
      refine List.length_filter_lt_length_iff_exists.2 ⟨u, mem_of_earliest? hu, ?_⟩
      simp
    · simp at h

/-- The jobs due by a limit, in the order in which they run, each with the time at which it does. -/
def drain (t : Timers ω) (limit : Nat) : List (Nat × ω) × Timers ω :=
  match _h : t.takeDue? (some limit) with
  | none => ([], t)
  | some (job, t) =>
    let (jobs, rest) := t.drain limit
    ((t.now, job) :: jobs, rest)
termination_by t.waiting.length
decreasing_by exact length_takeDue?_lt _h

def elapse (t : Timers ω) (span : Duration) : List (Nat × ω) × Timers ω :=
  let limit := t.now + span.micros
  let (jobs, t) := t.drain limit
  (jobs, t.moveTo limit)

end Timers

end Freshness
