/-
This file models `timer_queue.c` for an arbitrary set of timers.

A timer is named by an identifier, which stands for the pointer to its `struct timer`;
the store gives every identifier the fields of its timer. The queue `TQ` and the batch
`expTQ` that `timer_timeout` collects are lists of identifiers, in list order. A timer
that is detached keeps its fields, as in the source.
-/

import Aodvd.Params

namespace Aodvd

/-- `struct timer` without its list links and its argument, which the identifier names. -/
structure Timer (Handler : Type) where
  used : Bool
  timeout : Timeval
  handler : Option Handler

/-- The timers of a program: their fields, the queue `TQ` and the batch `expTQ`. -/
structure Timers (Id Handler : Type) where
  timer : Id → Timer Handler
  tq : List Id
  expTq : List Id

variable {Id Handler : Type} [DecidableEq Id]

/-- No timer has been used yet. -/
def Timers.empty : Timers Id Handler where
  timer _ := ⟨false, timevalZero, none⟩
  tq := []
  expTq := []

/-- Overwrite the fields of one timer. -/
def Timers.write (timers : Timers Id Handler) (id : Id) (timer : Timer Handler) :
    Timers Id Handler :=
  { timers with timer := fun other => if other = id then timer else timers.timer other }

/-- `timer_init` of a newly allocated timer. -/
def timerInit (id : Id) (handler : Handler) (timers : Timers Id Handler) : Timers Id Handler :=
  timers.write id ⟨false, timevalZero, some handler⟩

/-- Assignment to the `handler` field. -/
def timerSetHandler (id : Id) (handler : Handler) (timers : Timers Id Handler) :
    Timers Id Handler :=
  timers.write id { timers.timer id with handler := some handler }

/-- `timer_remove`: detach the timer from whichever list it is linked into. -/
def timerRemove (id : Id) (timers : Timers Id Handler) : Timers Id Handler :=
  { timers.write id { timers.timer id with used := false } with
    tq := timers.tq.erase id
    expTq := timers.expTq.erase id }

/-- The insertion loop of `timer_add`: before the first timer that ends later. -/
def timerInsert (timeoutOf : Id → Timeval) (id : Id) : List Id → List Id
  | [] => [id]
  | current :: rest =>
    if timevalDiff (timeoutOf id) (timeoutOf current) < 0 then id :: current :: rest
    else current :: timerInsert timeoutOf id rest

/-- `timer_add`. -/
def timerAdd (id : Id) (timers : Timers Id Handler) : Timers Id Handler :=
  let detached := if (timers.timer id).used then timerRemove id timers else timers
  let linked := detached.write id { detached.timer id with used := true }
  { linked with tq := timerInsert (fun other => (linked.timer other).timeout) id linked.tq }

/-- `timer_set_timeout`. -/
def timerSetTimeout (now : Timeval) (id : Id) (msec : Int) (timers : Timers Id Handler) :
    Timers Id Handler :=
  let detached := if (timers.timer id).used then timerRemove id timers else timers
  timerAdd id
    (detached.write id { detached.timer id with timeout := timevalDeadline now msec })

/-- The collecting loop of `timer_timeout`: the expired timers at the front of the queue. -/
def timerCollect (now : Timeval) (timers : Timers Id Handler) : Timers Id Handler :=
  let expired := fun id => decide (timevalDiff (timers.timer id).timeout now ≤ 0)
  { timers with
    tq := timers.tq.dropWhile expired
    expTq := timers.tq.takeWhile expired }

/-- Detach the first timer of the batch, as the executing loop of `timer_timeout` does. -/
def timerPop (id : Id) (rest : List Id) (timers : Timers Id Handler) : Timers Id Handler :=
  { timers.write id { timers.timer id with used := false } with expTq := rest }

end Aodvd
