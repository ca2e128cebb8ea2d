/-
This file proves that the timer queue of `timer_queue.c` is in order and that no overdue
timer stays behind.

`timer_add` compares two deadlines by `timeval_diff`, which truncates to milliseconds, so
the queue is not sorted: a timer may stand before one that ends up to a millisecond
earlier. It is sorted up to that millisecond, which every operation keeps, and which is
enough for the collecting loop of `timer_timeout` to stop at the first timer that is not
due. The steps considered are the calls of `timer_set_timeout` and `timer_remove` and the
two loops of `timer_timeout`: the handlers of the second loop make their calls between
its iterations, and none of them calls `timer_timeout`.
-/

import Mathlib
import Aodvd.Library.NearlySorted
import Aodvd.TimerLinks

namespace Aodvd

/-! ### Microseconds -/

/-- A time in microseconds. -/
def micros (time : Timeval) : Int := time.sec * 1000000 + time.usec

theorem timevalDiff_eq (first second : Timeval) :
    timevalDiff first second = (micros first - micros second).tdiv 1000 := by
  unfold timevalDiff micros
  congr 1
  omega

/-- A difference truncated to milliseconds is positive from a whole millisecond on. -/
theorem tdiv_thousand_pos (value : Int) : 0 < value.tdiv 1000 ↔ 1000 ≤ value := by
  rcases Int.le_total 0 value with nonneg | nonpos
  · rw [Int.tdiv_eq_ediv_of_nonneg nonneg]
    omega
  · have opposite : 0 ≤ (-value).tdiv 1000 := Int.tdiv_nonneg (by omega) (by omega)
    rw [Int.neg_tdiv] at opposite
    omega

theorem timevalDiff_pos (first second : Timeval) :
    0 < timevalDiff first second ↔ micros second + 1000 ≤ micros first := by
  rw [timevalDiff_eq, tdiv_thousand_pos]
  omega

theorem timevalDiff_neg (first second : Timeval) :
    timevalDiff first second < 0 ↔ micros first + 1000 ≤ micros second := by
  have opposite := tdiv_thousand_pos (micros second - micros first)
  rw [show micros second - micros first = -(micros first - micros second) by omega, Int.neg_tdiv,
    ← timevalDiff_eq] at opposite
  omega

theorem micros_timevalDeadline (time : Timeval) (msec : Int) :
    micros (timevalDeadline time msec) = micros time + msec * 1000 := by
  have parts := Int.mul_tdiv_add_tmod (time.usec + msec * 1000) 1000000
  unfold micros timevalDeadline
  dsimp only
  omega

/-! ### Queues sorted up to a millisecond -/

variable {Id Handler : Type} [DecidableEq Id]

/-- When a timer ends, in microseconds. -/
def Timers.due (timers : Timers Id Handler) (id : Id) : Int := micros (timers.timer id).timeout

/-- A timer in the queue ends less than a millisecond after those behind it. -/
def Timers.Ordered (timers : Timers Id Handler) : Prop :=
  NearlySorted.Ordered timers.due 1000 timers.tq

omit [DecidableEq Id] in
/-- The insertion loop splits the queue before the first timer that ends later. -/
theorem timerInsert_eq (timeoutOf : Id → Timeval) (id : Id) (queue : List Id) :
    timerInsert timeoutOf id queue =
      queue.takeWhile (fun other => !decide (timevalDiff (timeoutOf id) (timeoutOf other) < 0)) ++
        id :: queue.dropWhile
          (fun other => !decide (timevalDiff (timeoutOf id) (timeoutOf other) < 0)) := by
  induction queue with
  | nil => rfl
  | cons current rest inductionHypothesis =>
    rw [timerInsert, inductionHypothesis]
    by_cases later : timevalDiff (timeoutOf id) (timeoutOf current) < 0
    · simp [later]
    · simp [later]

omit [DecidableEq Id] in
theorem ordered_timerInsert {timeoutOf : Id → Timeval} {queue : List Id}
    (ordered : NearlySorted.Ordered (fun id => micros (timeoutOf id)) 1000 queue) (id : Id) :
    NearlySorted.Ordered (fun id => micros (timeoutOf id)) 1000
      (timerInsert timeoutOf id queue) := by
  rw [timerInsert_eq]
  refine ordered.insert (by decide) (fun other _ passes => ?_) (fun other _ stops => ?_)
  · simp only [Bool.not_eq_true', decide_eq_false_iff_not, timevalDiff_neg] at passes
    omega
  · simp only [Bool.not_eq_false', decide_eq_true_eq, timevalDiff_neg] at stops
    exact stops

theorem Timers.Ordered.timerRemove {timers : Timers Id Handler} (ordered : timers.Ordered) (id : Id) :
    (Aodvd.timerRemove id timers).Ordered := by
  refine NearlySorted.Ordered.congr (ordered.sublist List.erase_sublist) fun other _ => ?_
  rw [due, due, timer_timerRemove]
  split
  · rename_i same
    rw [same]
  · rfl

/-- The queue in which `timer_set_timeout` looks for a place no longer holds the timer. -/
theorem not_mem_timerDetached {timers : Timers Id Handler} (linked : timers.Linked) (now : Timeval)
    (id : Id) (msec : Int) : id ∉ (timerDetached now id msec timers).tq := by
  intro member
  have used := (linked_timerDetached linked now id msec).used id
  rw [timer_timerDetached, if_pos rfl] at used
  exact Bool.false_ne_true (used.mpr (List.mem_append_left _ member))

theorem ordered_timerDetached {timers : Timers Id Handler} (linked : timers.Linked)
    (ordered : timers.Ordered) (now : Timeval) (id : Id) (msec : Int) :
    (timerDetached now id msec timers).Ordered := by
  have detached : NearlySorted.Ordered timers.due 1000 (timerDetached now id msec timers).tq := by
    show NearlySorted.Ordered timers.due 1000
      (if (timers.timer id).used then Aodvd.timerRemove id timers else timers).tq
    split
    · exact ordered.sublist List.erase_sublist
    · exact ordered
  refine detached.congr fun other member => ?_
  have different : other ≠ id := fun same =>
    not_mem_timerDetached linked now id msec (same ▸ member)
  rw [Timers.due, Timers.due, timer_timerDetached, if_neg different]

theorem Timers.Ordered.timerSetTimeout {timers : Timers Id Handler} (ordered : timers.Ordered)
    (linked : timers.Linked) (now : Timeval) (id : Id) (msec : Int) :
    (Aodvd.timerSetTimeout now id msec timers).Ordered := by
  have detached := ordered_timerDetached linked ordered now id msec
  rw [timerSetTimeout_eq]
  refine ordered_timerInsert (detached.congr fun other member => ?_) id
  have different : other ≠ id := fun same =>
    not_mem_timerDetached linked now id msec (same ▸ member)
  dsimp only
  rw [Timers.timer_write, if_neg different, Timers.due]

omit [DecidableEq Id] in
theorem Timers.Ordered.timerCollect {timers : Timers Id Handler} (ordered : timers.Ordered)
    (now : Timeval) : (Aodvd.timerCollect now timers).Ordered :=
  NearlySorted.Ordered.sublist ordered (List.dropWhile_sublist _)

theorem Timers.Ordered.timerPop {timers : Timers Id Handler} (ordered : timers.Ordered) (id : Id)
    (rest : List Id) : (Aodvd.timerPop id rest timers).Ordered := by
  refine NearlySorted.Ordered.congr ordered fun other _ => ?_
  rw [due, due, timer_timerPop]
  split
  · rename_i same
    rw [same]
  · rfl

/-! ### The collecting loop -/

omit [DecidableEq Id] in
/-- The loop stops at a timer that is not due; none of those behind it is. -/
theorem lt_due_of_mem_tq {timers : Timers Id Handler} (ordered : timers.Ordered) {now : Timeval}
    {id : Id} (left : id ∈ (timerCollect now timers).tq) : micros now < timers.due id := by
  refine NearlySorted.Ordered.lt_of_mem_dropWhile ordered (by decide) (fun other _ stops => ?_) left
  rw [decide_eq_false_iff_not, Int.not_le, timevalDiff_pos] at stops
  exact stops

omit [DecidableEq Id] in
/-- A timer is collected less than a millisecond early. -/
theorem due_lt_of_mem_expTq {timers : Timers Id Handler} {now : Timeval} {id : Id}
    (collected : id ∈ (timerCollect now timers).expTq) : timers.due id < micros now + 1000 := by
  have expired : timevalDiff (timers.timer id).timeout now ≤ 0 := by
    simpa using List.mem_takeWhile_imp collected
  rw [← Int.not_lt, timevalDiff_pos, Int.not_le] at expired
  exact expired

/-! ### Runs of the queue -/

/-- The timers have been initialised and none has been armed yet. -/
structure Timers.Fresh (timers : Timers Id Handler) : Prop where
  tq : timers.tq = []
  expTq : timers.expTq = []
  unused : ∀ id, (timers.timer id).used = false

/-- One call, or one iteration of the executing loop of `timer_timeout` up to its handler. -/
inductive QueueStep : Timers Id Handler → Timers Id Handler → Prop
  | setTimeout (timers : Timers Id Handler) (now : Timeval) (id : Id) (msec : Int) :
      QueueStep timers (timerSetTimeout now id msec timers)
  | remove (timers : Timers Id Handler) (id : Id) : QueueStep timers (timerRemove id timers)
  | collect (timers : Timers Id Handler) (now : Timeval) (done : timers.expTq = []) :
      QueueStep timers (timerCollect now timers)
  | execute (timers : Timers Id Handler) (id : Id) (rest : List Id)
      (batch : timers.expTq = id :: rest) : QueueStep timers (timerPop id rest timers)

/-- The queue is consistent and sorted up to a millisecond. -/
structure Timers.InOrder (timers : Timers Id Handler) : Prop where
  linked : timers.Linked
  ordered : timers.Ordered

omit [DecidableEq Id] in
theorem Timers.Fresh.inOrder {timers : Timers Id Handler} (fresh : timers.Fresh) :
    timers.InOrder where
  linked :=
    { nodup := by
        rw [fresh.tq, fresh.expTq]
        exact List.nodup_nil
      used := fun id => by simp [fresh.unused id, fresh.tq, fresh.expTq] }
  ordered := by
    rw [Timers.Ordered, fresh.tq]
    exact NearlySorted.ordered_nil

theorem QueueStep.inOrder {before after : Timers Id Handler} (queueStep : QueueStep before after)
    (inOrder : before.InOrder) : after.InOrder := by
  cases queueStep with
  | setTimeout now id msec =>
    exact ⟨inOrder.linked.timerSetTimeout now id msec,
      inOrder.ordered.timerSetTimeout inOrder.linked now id msec⟩
  | remove id => exact ⟨inOrder.linked.timerRemove id, inOrder.ordered.timerRemove id⟩
  | collect now done =>
    exact ⟨inOrder.linked.timerCollect done now, inOrder.ordered.timerCollect now⟩
  | execute id rest batch =>
    exact ⟨inOrder.linked.timerPop batch, inOrder.ordered.timerPop id rest⟩

theorem inOrder_queueSteps {start timers : Timers Id Handler} (fresh : start.Fresh)
    (steps : Relation.ReflTransGen QueueStep start timers) : timers.InOrder := by
  induction steps with
  | refl => exact fresh.inOrder
  | tail _ last inductionHypothesis => exact last.inOrder inductionHypothesis

/-- After any sequence of calls a timer in `TQ` ends less than a millisecond after those behind
it, every timer is linked at most once and in use exactly while it is linked, and whatever the
time is when `timer_timeout` is called next, its collecting loop leaves only timers that are not
due and takes none a millisecond early. -/
theorem queueSteps_inOrder {start timers : Timers Id Handler} (fresh : start.Fresh)
    (steps : Relation.ReflTransGen QueueStep start timers) :
    timers.tq.Pairwise (fun early late => timers.due early < timers.due late + 1000) ∧
      (timers.tq ++ timers.expTq).Nodup ∧
      (∀ id, (timers.timer id).used = true ↔ id ∈ timers.tq ∨ id ∈ timers.expTq) ∧
      ∀ now, (∀ id ∈ (timerCollect now timers).tq, micros now < timers.due id) ∧
        ∀ id ∈ (timerCollect now timers).expTq, timers.due id < micros now + 1000 := by
  have inOrder := inOrder_queueSteps fresh steps
  refine ⟨inOrder.ordered, inOrder.linked.nodup, fun id => ?_, fun now => ⟨?_, ?_⟩⟩
  · rw [inOrder.linked.used, List.mem_append]
  · exact fun id left => lt_due_of_mem_tq inOrder.ordered left
  · exact fun id collected => due_lt_of_mem_expTq collected

/-- Two timers armed within one millisecond, the later one first. -/
def twoTimers : Timers Bool Unit :=
  timerSetTimeout ⟨0, 0⟩ true 1 (timerSetTimeout ⟨0, 999⟩ false 1 Timers.empty)

theorem queueSteps_inOrder_twoTimers :
    twoTimers.tq = [false, true] ∧ twoTimers.due false = 1999 ∧ twoTimers.due true = 1000 ∧
      twoTimers.tq.Pairwise (fun early late => twoTimers.due early < twoTimers.due late + 1000) := by
  refine ⟨by decide, by decide, by decide, ?_⟩
  have fresh : (Timers.empty : Timers Bool Unit).Fresh := ⟨rfl, rfl, fun _ => rfl⟩
  exact (queueSteps_inOrder fresh
    (.tail (.single (.setTimeout _ ⟨0, 999⟩ false 1)) (.setTimeout _ ⟨0, 0⟩ true 1))).1

end Aodvd
