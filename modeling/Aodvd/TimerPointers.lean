/-
This file models the links of `timer_queue.c` and `list.c`.

A `struct timer` starts with the two pointers by which it is linked into the queue `TQ` or, while
`timer_timeout` runs, into the list `expTQ` on its stack. `timer_remove` detaches a timer by these
pointers without knowing the list. The loops carry a bound on their rounds, and a result is missing
where a null pointer or a foreign list element would be read, or where `timer_add` ends the program.
The operations do to the links what the operations of the list model do to its two lists.
-/

import Aodvd.Library.Rings
import Aodvd.TimerOrder

namespace Aodvd

open Rings

/-- The list elements that are linked: the heads of the two lists and the timers. -/
inductive TimerNode (Id : Type)
  | tq
  | expTq
  | timer (id : Id)
  deriving DecidableEq

theorem TimerNode.timer_injective {Id : Type} :
    Function.Injective (TimerNode.timer : Id → TimerNode Id) :=
  fun _ _ same => TimerNode.timer.inj same

/-- The timers of a program with their links. -/
structure TimerStore (Id Handler : Type) where
  timer : Id → Timer Handler
  links : Links (TimerNode Id)

namespace TimerStore

variable {Id Handler : Type} [DecidableEq Id]

/-- Overwrite the fields of one timer. -/
def write (store : TimerStore Id Handler) (id : Id) (timer : Timer Handler) :
    TimerStore Id Handler :=
  { store with timer := fun other => if other = id then timer else store.timer other }

/-- `timer_remove`. -/
def timerRemove (id : Id) (store : TimerStore Id Handler) : Option (TimerStore Id Handler) :=
  let unused := store.write id { store.timer id with used := false }
  if store.links.next (.timer id) = none ∧ store.links.prev (.timer id) = none then some unused
  else (store.links.detach (.timer id)).map fun links => { unused with links := links }

/-- The loop of `timer_add`: the first timer from `pos` on that ends later, or the head. -/
def timerSeek (store : TimerStore Id Handler) (timeout : Timeval) :
    Nat → TimerNode Id → Option (TimerNode Id)
  | 0, _ => none
  | _ + 1, .tq => some .tq
  | _ + 1, .expTq => none
  | limit + 1, .timer id =>
    if timevalDiff timeout (store.timer id).timeout < 0 then some (.timer id)
    else (store.links.next (.timer id)).bind (timerSeek store timeout limit)

/-- The element behind which `timer_add` puts a timer. -/
def timerPlace (limit : Nat) (timeout : Timeval) (store : TimerStore Id Handler) :
    Option (TimerNode Id) :=
  (store.links.next .tq).bind fun first =>
    if first = .tq then some .tq
    else (store.timerSeek timeout limit first).bind store.links.prev

/-- `timer_add`; a timer without a handler ends the program. -/
def timerAdd (limit : Nat) (id : Id) (store : TimerStore Id Handler) :
    Option (TimerStore Id Handler) :=
  if (store.timer id).handler.isNone then none
  else
    (if (store.timer id).used then store.timerRemove id else some store).bind fun store =>
      let store := store.write id { store.timer id with used := true }
      (store.timerPlace limit (store.timer id).timeout).bind fun place =>
        (store.links.addAfter place (.timer id)).map fun links => { store with links := links }

/-- `timer_set_timeout`. -/
def timerSetTimeout (limit : Nat) (now : Timeval) (id : Id) (msec : Int)
    (store : TimerStore Id Handler) : Option (TimerStore Id Handler) :=
  (if (store.timer id).used then store.timerRemove id else some store).bind fun store =>
    timerAdd limit id (store.write id { store.timer id with timeout := timevalDeadline now msec })

/-- The collecting loop of `timer_timeout` from `pos` on. -/
def timerCollect (now : Timeval) :
    Nat → TimerNode Id → TimerStore Id Handler → Option (TimerStore Id Handler)
  | 0, _, _ => none
  | _ + 1, .tq, store => some store
  | _ + 1, .expTq, _ => none
  | limit + 1, .timer id, store =>
    if 0 < timevalDiff (store.timer id).timeout now then some store
    else
      (store.links.next (.timer id)).bind fun tmp =>
        (store.links.detach (.timer id)).bind fun links =>
          (links.addBefore .expTq (.timer id)).bind fun links =>
            timerCollect now limit tmp { store with links := links }

end TimerStore

/-! ### The lists in the links -/

section

variable {Id : Type} {links changed : Links (TimerNode Id)} {queue batch first last : List Id}
  {id : Id}

/-- The links hold the queue and the batch, and a timer outside is unattached. -/
structure TimerLists (links : Links (TimerNode Id)) (queue batch : List Id) : Prop where
  tq : Ring links .tq (queue.map .timer)
  expTq : Ring links .expTq (batch.map .timer)
  loose : ∀ id ∉ queue ++ batch,
    links.next (.timer id) = none ∧ links.prev (.timer id) = none
  distinct : (queue ++ batch).Nodup

theorem mem_map_timer : TimerNode.timer id ∈ queue.map TimerNode.timer ↔ id ∈ queue :=
  List.mem_map_of_injective TimerNode.timer_injective

theorem timer_mem_cons_tq :
    TimerNode.timer id ∈ TimerNode.tq :: queue.map TimerNode.timer ↔ id ∈ queue := by
  rw [List.mem_cons, or_iff_right nofun, mem_map_timer]

theorem timer_mem_cons_expTq :
    TimerNode.timer id ∈ TimerNode.expTq :: batch.map TimerNode.timer ↔ id ∈ batch := by
  rw [List.mem_cons, or_iff_right nofun, mem_map_timer]

/-- The elements of two lists without a common timer. -/
theorem not_mem_cons_tq (distinct : (queue ++ batch).Nodup) :
    ∀ node ∈ TimerNode.expTq :: batch.map .timer, node ∉ TimerNode.tq :: queue.map .timer := by
  intro node here there
  obtain rfl | member := List.mem_cons.mp here
  · simp at there
  · obtain ⟨id, waits, rfl⟩ := List.mem_map.mp member
    exact (List.nodup_append.mp distinct).2.2 id (timer_mem_cons_tq.mp there) id waits rfl

theorem not_mem_cons_expTq (distinct : (queue ++ batch).Nodup) :
    ∀ node ∈ TimerNode.tq :: queue.map .timer, node ∉ TimerNode.expTq :: batch.map .timer :=
  fun node here there => not_mem_cons_tq distinct node there here

/-- A timer in a list is attached. -/
theorem attached_of_mem {head : TimerNode Id} (ring : Ring links head (queue.map .timer))
    (member : id ∈ queue) :
    ¬(links.next (.timer id) = none ∧ links.prev (.timer id) = none) := by
  obtain ⟨first, last, rfl⟩ := List.append_of_mem member
  rw [List.map_append, List.map_cons] at ring
  rw [ring.next_node]
  exact fun null => absurd null.1 (Option.some_ne_none _)

variable [DecidableEq Id]

/-- A timer is taken out of the list it is in. -/
theorem ring_detach_timer {head : TimerNode Id} (ring : Ring links head (queue.map .timer))
    (member : id ∈ queue) :
    ∃ changed, links.detach (.timer id) = some changed ∧
      Ring changed head ((queue.erase id).map .timer) ∧
      changed.next (.timer id) = none ∧ changed.prev (.timer id) = none ∧
      links.AgreeOutside (head :: queue.map .timer) changed := by
  obtain ⟨first, last, -, split, erased⟩ := List.exists_erase_eq member
  rw [split, List.map_append, List.map_cons] at ring
  rw [erased, split, List.map_append, List.map_append, List.map_cons]
  exact ring.detach

theorem TimerLists.detach_queue (lists : TimerLists links queue batch) (queued : id ∈ queue) :
    ∃ changed, links.detach (.timer id) = some changed ∧
      TimerLists changed (queue.erase id) batch := by
  obtain ⟨changed, detached, ring, next, prev, agree⟩ := ring_detach_timer lists.tq queued
  refine ⟨changed, detached, ring, lists.expTq.of_agree agree (not_mem_cons_tq lists.distinct),
    fun other outside => ?_, lists.distinct.sublist (List.erase_sublist.append_right batch)⟩
  by_cases same : other = id
  · exact same ▸ ⟨next, prev⟩
  · have absent : other ∉ queue ++ batch := fun member => outside (by
      rwa [List.mem_append, List.mem_erase_of_ne same, ← List.mem_append])
    have elsewhere := agree (.timer other) fun member =>
      absent (List.mem_append_left batch (timer_mem_cons_tq.mp member))
    rw [elsewhere.1, elsewhere.2]
    exact lists.loose other absent

theorem TimerLists.detach_batch (lists : TimerLists links queue batch) (waits : id ∈ batch) :
    ∃ changed, links.detach (.timer id) = some changed ∧
      TimerLists changed queue (batch.erase id) := by
  obtain ⟨changed, detached, ring, next, prev, agree⟩ := ring_detach_timer lists.expTq waits
  refine ⟨changed, detached, lists.tq.of_agree agree (not_mem_cons_expTq lists.distinct), ring,
    fun other outside => ?_, lists.distinct.sublist (List.erase_sublist.append_left queue)⟩
  by_cases same : other = id
  · exact same ▸ ⟨next, prev⟩
  · have absent : other ∉ queue ++ batch := fun member => outside (by
      rwa [List.mem_append, List.mem_erase_of_ne same, ← List.mem_append])
    have elsewhere := agree (.timer other) fun member =>
      absent (List.mem_append_right queue (timer_mem_cons_expTq.mp member))
    rw [elsewhere.1, elsewhere.2]
    exact lists.loose other absent

/-- A timer is put into the queue behind the first ones. -/
theorem TimerLists.insert_queue (lists : TimerLists links (first ++ last) batch)
    (fresh : id ∉ (first ++ last) ++ batch) :
    ∃ changed, links.addAfter ((first.map .timer).getLastD .tq) (.timer id) = some changed ∧
      TimerLists changed (first ++ id :: last) batch := by
  have ring := lists.tq
  rw [List.map_append] at ring
  have absent : TimerNode.timer id ∉ TimerNode.tq :: (first.map .timer ++ last.map .timer) := by
    rw [← List.map_append, timer_mem_cons_tq]
    exact fun member => fresh (List.mem_append_left batch member)
  obtain ⟨longer, agree⟩ := ring.insert absent
  rw [← List.map_cons, ← List.map_append] at longer agree
  have perm : ((first ++ id :: last) ++ batch).Perm (id :: ((first ++ last) ++ batch)) :=
    List.perm_middle.append_right batch
  have distinct := perm.nodup_iff.mpr (List.nodup_cons.mpr ⟨fresh, lists.distinct⟩)
  refine ⟨_, by rw [Links.addAfter, ring.next_between, Option.map_some], longer,
    lists.expTq.of_agree agree (not_mem_cons_tq distinct), fun other outside => ?_, distinct⟩
  rw [perm.mem_iff, List.mem_cons, not_or] at outside
  have elsewhere := agree (.timer other) fun member => outside.2 (by
    have listed := timer_mem_cons_tq.mp member
    rw [List.mem_append, List.mem_cons, or_left_comm, or_iff_right outside.1,
      ← List.mem_append] at listed
    exact List.mem_append_left batch listed)
  rw [elsewhere.1, elsewhere.2]
  exact lists.loose other outside.2

/-- A timer is put at the end of the batch. -/
theorem TimerLists.append_batch (lists : TimerLists links queue batch)
    (fresh : id ∉ queue ++ batch) :
    ∃ changed, links.addBefore .expTq (.timer id) = some changed ∧
      TimerLists changed queue (batch ++ [id]) := by
  have ring := lists.expTq
  rw [← List.append_nil batch, List.map_append] at ring
  have absent : TimerNode.timer id ∉
      TimerNode.expTq :: (batch.map .timer ++ ([] : List Id).map .timer) := by
    rw [← List.map_append, List.append_nil, timer_mem_cons_expTq]
    exact fun member => fresh (List.mem_append_right queue member)
  obtain ⟨longer, agree⟩ := ring.insert absent
  rw [← List.map_cons, ← List.map_append] at longer agree
  have perm : (queue ++ (batch ++ [id])).Perm (id :: (queue ++ batch)) := by
    rw [← List.append_assoc]
    exact List.perm_append_singleton id (queue ++ batch)
  have distinct := perm.nodup_iff.mpr (List.nodup_cons.mpr ⟨fresh, lists.distinct⟩)
  refine ⟨_, by rw [Links.addBefore, lists.expTq.prev_head, Option.map_some]; rfl,
    lists.tq.of_agree agree (not_mem_cons_expTq distinct), longer, fun other outside => ?_,
    distinct⟩
  rw [perm.mem_iff, List.mem_cons, not_or] at outside
  have elsewhere := agree (.timer other) fun member => outside.2 (by
    have listed := timer_mem_cons_expTq.mp member
    rw [List.mem_append, List.mem_singleton, or_iff_left outside.1] at listed
    exact List.mem_append_right queue listed)
  rw [elsewhere.1, elsewhere.2]
  exact lists.loose other outside.2

end

/-! ### The operations on the links and on the lists -/

namespace TimerStore

variable {Id Handler : Type} [DecidableEq Id] {store : TimerStore Id Handler}
  {timers : Timers Id Handler}

/-- The store holds the timers of the list model. -/
structure Holds (store : TimerStore Id Handler) (timers : Timers Id Handler) : Prop where
  timer : store.timer = timers.timer
  lists : TimerLists store.links timers.tq timers.expTq
  linked : timers.Linked

theorem timer_write (same : store.timer = timers.timer) (id : Id) (timer : Timer Handler) :
    (store.write id timer).timer = (timers.write id timer).timer := by
  unfold write Timers.write
  rw [same]

/-- `timer_remove`. -/
theorem Holds.timerRemove (holds : store.Holds timers) (id : Id) :
    ∃ changed, store.timerRemove id = some changed ∧
      changed.Holds (Aodvd.timerRemove id timers) := by
  have distinct := List.nodup_append.mp holds.lists.distinct
  have fields : (store.write id { store.timer id with used := false }).timer =
      (Aodvd.timerRemove id timers).timer := by
    rw [timer_write holds.timer, holds.timer]
    rfl
  have linked := holds.linked.timerRemove id
  unfold TimerStore.timerRemove
  by_cases queued : id ∈ timers.tq
  · obtain ⟨changed, detached, lists⟩ := holds.lists.detach_queue queued
    have absent : id ∉ timers.expTq := fun waits => distinct.2.2 id queued id waits rfl
    rw [if_neg (attached_of_mem holds.lists.tq queued), detached]
    refine ⟨_, rfl, fields, ?_, linked⟩
    rwa [Aodvd.timerRemove, List.erase_of_not_mem absent]
  · by_cases waits : id ∈ timers.expTq
    · obtain ⟨changed, detached, lists⟩ := holds.lists.detach_batch waits
      rw [if_neg (attached_of_mem holds.lists.expTq waits), detached]
      refine ⟨_, rfl, fields, ?_, linked⟩
      rwa [Aodvd.timerRemove, List.erase_of_not_mem queued]
    · have absent : id ∉ timers.tq ++ timers.expTq := by
        rw [List.mem_append, not_or]
        exact ⟨queued, waits⟩
      rw [if_pos (holds.lists.loose id absent)]
      refine ⟨_, rfl, fields, ?_, linked⟩
      rw [Aodvd.timerRemove, List.erase_of_not_mem queued, List.erase_of_not_mem waits]
      exact holds.lists

omit [DecidableEq Id] in
/-- The loop of `timer_add` stops where the list model inserts. -/
theorem timerSeek_eq (store : TimerStore Id Handler) (timeout : Timeval) {start : TimerNode Id}
    {queue : List Id} (path : Path store.links.next start (queue.map .timer) .tq) {limit : Nat}
    (room : queue.length < limit) :
    store.timerSeek timeout limit ((queue.map .timer).headD .tq) =
      some (((queue.dropWhile fun other =>
        !decide (timevalDiff timeout (store.timer other).timeout < 0)).map .timer).headD .tq) := by
  induction queue generalizing start limit with
  | nil =>
    obtain ⟨limit, rfl⟩ := Nat.exists_eq_succ_of_ne_zero (Nat.ne_zero_of_lt room)
    rfl
  | cons id queue inductionHypothesis =>
    obtain ⟨limit, rfl⟩ := Nat.exists_eq_succ_of_ne_zero (Nat.ne_zero_of_lt room)
    have next : store.links.next (.timer id) = some ((queue.map .timer).headD .tq) :=
      path.2.start_eq
    have later := inductionHypothesis path.2 (Nat.lt_of_succ_lt_succ room)
    rw [List.map_cons, List.headD_cons, timerSeek, next, Option.bind_some, later]
    by_cases stops : timevalDiff timeout (store.timer id).timeout < 0
    · rw [if_pos stops, List.dropWhile_cons_of_neg (by simp [stops])]
      rfl
    · rw [if_neg stops, List.dropWhile_cons_of_pos (by simp [stops])]

/-- `timer_add` puts a timer behind those that do not end later. -/
theorem timerPlace_eq {queue batch : List Id}
    (lists : TimerLists store.links queue batch) (timeout : Timeval) {limit : Nat}
    (room : queue.length < limit) :
    store.timerPlace limit timeout =
      some (((queue.takeWhile fun other =>
        !decide (timevalDiff timeout (store.timer other).timeout < 0)).map .timer).getLastD
          .tq) := by
  have ring := lists.tq
  rw [timerPlace, ring.next_head, Option.bind_some]
  by_cases empty : queue = []
  · rw [empty]
    rfl
  · have some : (queue.map TimerNode.timer).headD .tq ≠ .tq := fun same =>
      empty (List.map_eq_nil_iff.mp (ring.next_head_eq_iff.mp (ring.next_head.trans
        (congrArg Option.some same))))
    rw [if_neg some, timerSeek_eq store timeout ring.forward room, Option.bind_some]
    rw [← List.takeWhile_append_dropWhile (l := queue) (p := fun other =>
      !decide (timevalDiff timeout (store.timer other).timeout < 0)), List.map_append] at ring
    exact ring.prev_between

/-- `timer_add` of an unused timer. -/
theorem Holds.timerAdd (holds : store.Holds timers) {id : Id}
    (handled : (store.timer id).handler.isNone = false)
    (unused : (timers.timer id).used = false) :
    ∃ changed, (∀ limit, timers.tq.length < limit → store.timerAdd limit id = some changed) ∧
      changed.timer = (Aodvd.timerAdd id timers).timer ∧
      TimerLists changed.links (Aodvd.timerAdd id timers).tq (Aodvd.timerAdd id timers).expTq := by
  have absent : id ∉ timers.tq ++ timers.expTq := by
    rw [← holds.linked.used, unused]
    exact Bool.false_ne_true
  have fields : (store.write id { store.timer id with used := true }).timer =
      (timers.write id { timers.timer id with used := true }).timer := by
    rw [timer_write holds.timer, holds.timer]
  have added : Aodvd.timerAdd id timers =
      let linked := timers.write id { timers.timer id with used := true }
      { linked with
        tq := timerInsert (fun other => (linked.timer other).timeout) id linked.tq } := by
    unfold Aodvd.timerAdd
    rw [unused]
    rfl
  have free : (store.timer id).used = false := by rwa [holds.timer]
  simp only [TimerStore.timerAdd, handled, free, added, Bool.false_eq_true, if_false,
    Option.bind_some]
  set linked := timers.write id { timers.timer id with used := true }
  set stored := store.write id { store.timer id with used := true }
  have lists : TimerLists stored.links timers.tq timers.expTq := holds.lists
  have split := lists
  rw [← List.takeWhile_append_dropWhile (l := timers.tq) (p := fun other =>
    !decide (timevalDiff (stored.timer id).timeout (stored.timer other).timeout < 0))] at split
  obtain ⟨changed, placed, inserted⟩ := split.insert_queue (by
    rwa [List.takeWhile_append_dropWhile])
  refine ⟨{ stored with links := changed }, fun limit room => ?_, fields, ?_⟩
  · rw [timerPlace_eq lists _ room, Option.bind_some, placed]
    rfl
  · rw [timerInsert_eq]
    rw [fields] at inserted
    exact inserted

theorem Holds.write_timeout (holds : store.Holds timers) (id : Id) (timeout : Timeval) :
    (store.write id { store.timer id with timeout := timeout }).Holds
      (timers.write id { timers.timer id with timeout := timeout }) := by
  refine ⟨?_, holds.lists, holds.linked.nodup, fun other => ?_⟩
  · rw [timer_write holds.timer, holds.timer]
  · refine Iff.trans ?_ (holds.linked.used other)
    rw [Timers.timer_write]
    split
    · rename_i same
      rw [same]
    · rfl

/-- Both operations that arm a timer first detach it if it is in use. -/
theorem Holds.unlink (holds : store.Holds timers) (id : Id) :
    ∃ changed, (if (store.timer id).used then store.timerRemove id else some store) = some changed ∧
      changed.Holds (if (timers.timer id).used then Aodvd.timerRemove id timers else timers) := by
  rw [holds.timer]
  split
  · exact holds.timerRemove id
  · exact ⟨store, rfl, holds⟩

/-- `timer_set_timeout`. -/
theorem Holds.timerSetTimeout (holds : store.Holds timers) (now : Timeval) (msec : Int) {id : Id}
    (handled : (timers.timer id).handler.isNone = false) :
    ∃ changed, (∀ limit, timers.tq.length < limit →
        store.timerSetTimeout limit now id msec = some changed) ∧
      changed.Holds (Aodvd.timerSetTimeout now id msec timers) := by
  obtain ⟨detached, removed, loose⟩ := holds.unlink id
  have armed := loose.write_timeout id (timevalDeadline now msec)
  have fields := timer_timerDetached now id id msec timers
  rw [if_pos rfl] at fields
  have shorter : (timerDetached now id msec timers).tq.length ≤ timers.tq.length := by
    show (if (timers.timer id).used then Aodvd.timerRemove id timers else timers).tq.length ≤ _
    split
    · exact List.erase_sublist.length_le
    · exact le_rfl
  obtain ⟨changed, added, timer, lists⟩ := armed.timerAdd
    (by rw [armed.timer]; exact (congrArg (fun timer => timer.handler.isNone) fields).trans handled)
    (congrArg Timer.used fields)
  refine ⟨changed, fun limit room => ?_, timer, lists, holds.linked.timerSetTimeout now id msec⟩
  rw [TimerStore.timerSetTimeout, removed]
  exact added limit (shorter.trans_lt room)

/-- The collecting loop of `timer_timeout`. -/
theorem timerCollect_lists (store : TimerStore Id Handler) {queue batch : List Id} (now : Timeval)
    (lists : TimerLists store.links queue batch) :
    ∃ links, (∀ limit, queue.length < limit →
        TimerStore.timerCollect now limit ((queue.map .timer).headD .tq) store =
          some { store with links := links }) ∧
      TimerLists links
        (queue.dropWhile fun id => decide (timevalDiff (store.timer id).timeout now ≤ 0))
        (batch ++ queue.takeWhile fun id =>
          decide (timevalDiff (store.timer id).timeout now ≤ 0)) := by
  induction queue generalizing batch store with
  | nil =>
    refine ⟨store.links, fun limit room => ?_, ?_⟩
    · obtain ⟨limit, rfl⟩ := Nat.exists_eq_succ_of_ne_zero (Nat.ne_zero_of_lt room)
      rfl
    · rwa [List.takeWhile_nil, List.append_nil]
  | cons id queue inductionHypothesis =>
    by_cases later : 0 < timevalDiff (store.timer id).timeout now
    · refine ⟨store.links, fun limit room => ?_, ?_⟩
      · obtain ⟨limit, rfl⟩ := Nat.exists_eq_succ_of_ne_zero (Nat.ne_zero_of_lt room)
        exact if_pos later
      · rw [List.dropWhile_cons_of_neg (by simpa using later),
          List.takeWhile_cons_of_neg (by simpa using later), List.append_nil]
        exact lists
    · have next : store.links.next (.timer id) = some ((queue.map .timer).headD .tq) :=
        lists.tq.forward.2.start_eq
      have fresh : id ∉ queue ++ batch := (List.nodup_cons.mp lists.distinct).1
      obtain ⟨detachedLinks, detached, shorter⟩ := lists.detach_queue List.mem_cons_self
      rw [List.erase_cons_head] at shorter
      obtain ⟨movedLinks, moved, longer⟩ := shorter.append_batch fresh
      obtain ⟨links, collected, result⟩ :=
        inductionHypothesis { store with links := movedLinks } longer
      refine ⟨links, fun limit room => ?_, ?_⟩
      · obtain ⟨limit, rfl⟩ := Nat.exists_eq_succ_of_ne_zero (Nat.ne_zero_of_lt room)
        rw [List.map_cons, List.headD_cons, TimerStore.timerCollect, if_neg later, next,
          Option.bind_some, detached, Option.bind_some, moved, Option.bind_some,
          collected limit (Nat.lt_of_succ_lt_succ room)]
      · rw [List.append_assoc] at result
        rw [List.dropWhile_cons_of_pos (by simpa using later),
          List.takeWhile_cons_of_pos (by simpa using later)]
        exact result

end TimerStore

end Aodvd
