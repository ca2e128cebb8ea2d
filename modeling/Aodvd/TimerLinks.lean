/-
This file proves what the operations of `timer_queue.c` do to the fields of a timer and
to the two lists it can be linked into.

The queue is consistent when a timer is in use exactly while it is linked into `TQ` or
into the batch `expTQ`, and then only once. Arming and removing keep consistency;
initialising does for a timer that is not in use, and collecting a batch does when the
last batch is done. No operation but collecting ever adds to the batch.
-/

import Mathlib
import Aodvd.TimerQueue

namespace Aodvd

variable {Id Handler : Type} [DecidableEq Id]
variable (id other : Id) (handler : Handler) (timers : Timers Id Handler)

/-! ### Fields -/

theorem Timers.timer_write (id other : Id) (timer : Timer Handler) :
    (timers.write id timer).timer other = if other = id then timer else timers.timer other :=
  rfl

theorem timer_timerRemove :
    (timerRemove id timers).timer other =
      if other = id then { timers.timer id with used := false } else timers.timer other :=
  rfl

theorem timer_timerInit :
    (timerInit id handler timers).timer other =
      if other = id then ⟨false, timevalZero, some handler⟩ else timers.timer other :=
  rfl

theorem timer_timerSetHandler :
    (timerSetHandler id handler timers).timer other =
      if other = id then { timers.timer id with handler := some handler }
      else timers.timer other :=
  rfl

theorem timer_timerPop (rest : List Id) (timers : Timers Id Handler) :
    (timerPop id rest timers).timer other =
      if other = id then { timers.timer id with used := false } else timers.timer other :=
  rfl

/-- The state in which `timer_set_timeout` hands a timer to `timer_add`. -/
def timerDetached (now : Timeval) (id : Id) (msec : Int) (timers : Timers Id Handler) :
    Timers Id Handler :=
  let detached := if (timers.timer id).used then timerRemove id timers else timers
  detached.write id { detached.timer id with timeout := timevalDeadline now msec }

theorem timer_timerDetached (now : Timeval) (id other : Id) (msec : Int)
    (timers : Timers Id Handler) :
    (timerDetached now id msec timers).timer other =
      if other = id then ⟨false, timevalDeadline now msec, (timers.timer id).handler⟩
      else timers.timer other := by
  unfold timerDetached
  dsimp only
  rw [Timers.timer_write]
  by_cases same : other = id
  · rw [if_pos same, if_pos same]
    cases used : (timers.timer id).used
    · simp only [Bool.false_eq_true, if_false, used]
    · simp only [if_true, timer_timerRemove]
  · rw [if_neg same, if_neg same]
    split
    · rw [timer_timerRemove, if_neg same]
    · rfl

/-- `timer_set_timeout` links the detached timer once. -/
theorem timerSetTimeout_eq (now : Timeval) (id : Id) (msec : Int) (timers : Timers Id Handler) :
    timerSetTimeout now id msec timers =
      let linked := (timerDetached now id msec timers).write id
        ⟨true, timevalDeadline now msec, (timers.timer id).handler⟩
      { linked with
        tq := timerInsert (fun other => (linked.timer other).timeout) id
          (timerDetached now id msec timers).tq } := by
  have unused : ((timerDetached now id msec timers).timer id) =
      ⟨false, timevalDeadline now msec, (timers.timer id).handler⟩ := by
    rw [timer_timerDetached, if_pos rfl]
  show timerAdd id (timerDetached now id msec timers) = _
  unfold timerAdd
  simp only [unused, Bool.false_eq_true, if_false]
  rfl

theorem timer_timerSetTimeout (now : Timeval) (id other : Id) (msec : Int)
    (timers : Timers Id Handler) :
    (timerSetTimeout now id msec timers).timer other =
      if other = id then ⟨true, timevalDeadline now msec, (timers.timer id).handler⟩
      else timers.timer other := by
  rw [timerSetTimeout_eq]
  dsimp only
  rw [Timers.timer_write, timer_timerDetached]
  split <;> rfl

/-! ### Consistent queues -/

/-- A timer is in use exactly while it is linked, and it is linked at most once. -/
structure Timers.Linked (timers : Timers Id Handler) : Prop where
  nodup : (timers.tq ++ timers.expTq).Nodup
  used : ∀ id, (timers.timer id).used = true ↔ id ∈ timers.tq ++ timers.expTq

omit [DecidableEq Id] in
theorem linked_empty : (Timers.empty : Timers Id Handler).Linked where
  nodup := List.nodup_nil
  used id := by
    constructor
    · intro used
      exact absurd used Bool.false_ne_true
    · intro member
      exact absurd member List.not_mem_nil

/-- Erasing from both lists of a duplicate-free pair takes the element out of both. -/
theorem mem_erase_append_erase {first second : List Id} (nodup : (first ++ second).Nodup)
    (id other : Id) :
    other ∈ first.erase id ++ second.erase id ↔ other ≠ id ∧ other ∈ first ++ second := by
  rw [List.mem_append, List.mem_append, (List.nodup_append.mp nodup).1.mem_erase_iff,
    (List.nodup_append.mp nodup).2.1.mem_erase_iff, ← and_or_left]

omit [DecidableEq Id] in
theorem nodup_append_sublist {first second first' second' : List Id}
    (nodup : (first ++ second).Nodup) (firstSub : first'.Sublist first)
    (secondSub : second'.Sublist second) : (first' ++ second').Nodup :=
  nodup.sublist (firstSub.append secondSub)

theorem Timers.Linked.timerRemove {timers : Timers Id Handler} (linked : timers.Linked) (id : Id) :
    (Aodvd.timerRemove id timers).Linked where
  nodup := nodup_append_sublist linked.nodup List.erase_sublist List.erase_sublist
  used other := by
    have members := mem_erase_append_erase linked.nodup id other
    rw [timer_timerRemove]
    refine Iff.trans ?_ members.symm
    by_cases same : other = id
    · simp [same]
    · rw [if_neg same, linked.used]
      simp only [ne_eq, same, not_false_eq_true, true_and]

theorem Timers.Linked.timerSetHandler {timers : Timers Id Handler} (linked : timers.Linked) (id : Id)
    (handler : Handler) : (Aodvd.timerSetHandler id handler timers).Linked where
  nodup := linked.nodup
  used other := by
    rw [timer_timerSetHandler]
    refine Iff.trans ?_ (linked.used other)
    split
    · rename_i same
      rw [same]
    · rfl

theorem Timers.Linked.timerInit {timers : Timers Id Handler} (linked : timers.Linked) {id : Id}
    (unused : (timers.timer id).used = false) (handler : Handler) :
    (Aodvd.timerInit id handler timers).Linked where
  nodup := linked.nodup
  used other := by
    rw [timer_timerInit]
    refine Iff.trans ?_ (linked.used other)
    split
    · rename_i same
      rw [same, unused]
    · rfl

omit [DecidableEq Id] in
theorem timerInsert_perm (timeoutOf : Id → Timeval) (id : Id) (queue : List Id) :
    (timerInsert timeoutOf id queue).Perm (id :: queue) := by
  induction queue with
  | nil => exact .refl _
  | cons current rest inductionHypothesis =>
    unfold timerInsert
    split
    · exact .refl _
    · exact (inductionHypothesis.cons current).trans (List.Perm.swap id current rest)

theorem linked_timerDetached {timers : Timers Id Handler} (linked : timers.Linked) (now : Timeval)
    (id : Id) (msec : Int) : (timerDetached now id msec timers).Linked := by
  have detachedLinked : (if (timers.timer id).used then timerRemove id timers else timers).Linked := by
    split
    · exact linked.timerRemove id
    · exact linked
  refine ⟨detachedLinked.nodup, fun other => ?_⟩
  refine Iff.trans ?_ (detachedLinked.used other)
  unfold timerDetached
  dsimp only
  rw [Timers.timer_write]
  split
  · rename_i same
    rw [same]
  · rfl

theorem Timers.Linked.timerSetTimeout {timers : Timers Id Handler} (linked : timers.Linked)
    (now : Timeval) (id : Id) (msec : Int) : (Aodvd.timerSetTimeout now id msec timers).Linked := by
  have detached := linked_timerDetached linked now id msec
  have absent : id ∉ (timerDetached now id msec timers).tq ++
      (timerDetached now id msec timers).expTq := by
    rw [← detached.used, timer_timerDetached, if_pos rfl]
    exact Bool.false_ne_true
  have perm : ((Aodvd.timerSetTimeout now id msec timers).tq ++
      (Aodvd.timerSetTimeout now id msec timers).expTq).Perm
      (id :: ((timerDetached now id msec timers).tq ++ (timerDetached now id msec timers).expTq)) := by
    rw [timerSetTimeout_eq]
    exact (timerInsert_perm _ id _).append_right _
  refine ⟨perm.nodup_iff.mpr (List.nodup_cons.mpr ⟨absent, detached.nodup⟩), fun other => ?_⟩
  rw [timer_timerSetTimeout, perm.mem_iff, List.mem_cons, ← detached.used, timer_timerDetached]
  by_cases same : other = id
  · simp [same]
  · simp only [same, if_false, false_or]

omit [DecidableEq Id] in
theorem Timers.Linked.timerCollect {timers : Timers Id Handler} (linked : timers.Linked)
    (done : timers.expTq = []) (now : Timeval) : (Aodvd.timerCollect now timers).Linked := by
  have perm : ((Aodvd.timerCollect now timers).tq ++ (Aodvd.timerCollect now timers).expTq).Perm
      (timers.tq ++ timers.expTq) := by
    rw [done, List.append_nil]
    refine List.perm_append_comm.trans ?_
    unfold Aodvd.timerCollect
    dsimp only
    rw [List.takeWhile_append_dropWhile]
  exact ⟨perm.nodup_iff.mpr linked.nodup, fun id => (linked.used id).trans perm.mem_iff.symm⟩

theorem Timers.Linked.timerPop {timers : Timers Id Handler} (linked : timers.Linked) {id : Id}
    {rest : List Id} (batch : timers.expTq = id :: rest) :
    (Aodvd.timerPop id rest timers).Linked := by
  have nodup := linked.nodup
  have perm : (timers.tq ++ timers.expTq).Perm (id :: (timers.tq ++ rest)) := by
    rw [batch]
    exact List.perm_middle
  obtain ⟨absent, restNodup⟩ := List.nodup_cons.mp (perm.nodup_iff.mp nodup)
  refine ⟨restNodup, fun other => ?_⟩
  rw [timer_timerPop]
  show _ ↔ other ∈ timers.tq ++ rest
  by_cases same : other = id
  · rw [if_pos same, same]
    simp only [Bool.false_eq_true, false_iff]
    exact absent
  · rw [if_neg same, linked.used, perm.mem_iff, List.mem_cons]
    simp only [same, false_or]

/-- The first timer of the batch is detached as `timer_remove` would do it. -/
theorem timerPop_eq_timerRemove {timers : Timers Id Handler} (linked : timers.Linked) {id : Id}
    {rest : List Id} (batch : timers.expTq = id :: rest) :
    timerPop id rest timers = timerRemove id timers := by
  have nodup := linked.nodup
  rw [batch] at nodup
  have absent : id ∉ timers.tq := fun member =>
    (List.nodup_append.mp nodup).2.2 id member id List.mem_cons_self rfl
  unfold timerPop timerRemove
  rw [batch, List.erase_cons_head, List.erase_of_not_mem absent]
  rfl

theorem timerSetTimeout_timerRemove (now : Timeval) {id : Id} (msec : Int)
    {timers : Timers Id Handler} (used : (timers.timer id).used = true) :
    timerSetTimeout now id msec (timerRemove id timers) = timerSetTimeout now id msec timers := by
  have unused : ((timerRemove id timers).timer id).used = false := by
    rw [timer_timerRemove, if_pos rfl]
  unfold timerSetTimeout
  rw [used, unused]
  rfl

theorem timerRemove_of_unused {timers : Timers Id Handler} (linked : timers.Linked) {id : Id}
    (unused : (timers.timer id).used = false) : timerRemove id timers = timers := by
  have absent : id ∉ timers.tq ++ timers.expTq := by
    rw [← linked.used, unused]
    exact Bool.false_ne_true
  rw [List.mem_append, not_or] at absent
  have fields : (timerRemove id timers).timer = timers.timer := by
    funext other
    rw [timer_timerRemove]
    split
    · rename_i same
      rw [same, ← unused]
    · rfl
  show Timers.mk (timerRemove id timers).timer (timers.tq.erase id) (timers.expTq.erase id) = timers
  rw [fields, List.erase_of_not_mem absent.1, List.erase_of_not_mem absent.2]

/-! ### The batch -/

theorem expTq_timerRemove : ((timerRemove id timers).expTq).Sublist timers.expTq :=
  List.erase_sublist

theorem expTq_timerSetTimeout (now : Timeval) (id : Id) (msec : Int) (timers : Timers Id Handler) :
    ((timerSetTimeout now id msec timers).expTq).Sublist timers.expTq := by
  rw [timerSetTimeout_eq]
  show (timerDetached now id msec timers).expTq.Sublist _
  unfold timerDetached
  dsimp only
  show (if (timers.timer id).used then timerRemove id timers else timers).expTq.Sublist _
  split
  · exact expTq_timerRemove id timers
  · exact .refl _

end Aodvd
