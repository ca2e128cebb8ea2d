/-
This file follows the entries that a batch of timers leaves in the routing table.

An entry is deleted only by the handler of its own timer, and only if the timer was already in
the batch with that handler when the batch was collected: a handler that runs earlier in the same
batch may install `route_delete_timeout` on another route, but it arms the timer again and so
takes it out of the batch.
-/

import Aodvd.Adverts
import Aodvd.Lifetimes

namespace Aodvd

/-! ### Spared entries -/

/-- The entry is there, and its timer is not about to delete it. -/
structure Spared (state : State) (dest : Addr) : Prop where
  present : (entryAt state dest).isSome = true
  safe : .rtTimer dest ∈ state.timers.expTq → rtHandler state dest ≠ some .routeDeleteTimeout

/-- A timer that is armed leaves the batch. -/
theorem not_mem_expTq_setTimeout {state : State} (linked : state.timers.Linked) (id : TimerId)
    (msec : Int) : id ∉ (setTimeout id msec state).timers.expTq := by
  have armed := linked.timerSetTimeout state.now id msec
  have queued : id ∈ (timerSetTimeout state.now id msec state.timers).tq := by
    rw [timerSetTimeout_eq]
    exact (timerInsert_perm ..).mem_iff.mpr List.mem_cons_self
  exact List.disjoint_of_nodup_append armed.nodup queued

section

variable {config : Config} {before after state : State} {dest : Addr} {rest : List TimerId}

theorem Spared.kept (spared : Spared before dest) (kept : Kept before after dest)
    (batch : after.timers.expTq.Sublist before.timers.expTq) : Spared after dest where
  present := kept.entry ▸ spared.present
  safe expired := kept.handler ▸ spared.safe (batch.subset expired)

/-- An entry is written; no timer is. -/
theorem Spared.setEntry {change : RtEntry → RtEntry}
    (keepsDest : ∀ rt, (change rt).destAddr = rt.destAddr) (spared : Spared state dest)
    (other : Addr) : Spared (setEntry other change state) dest where
  present := (isSome_setEntry keepsDest ..).trans spared.present
  safe := spared.safe

theorem Spared.rtTableInvalidate (clocked : Clocked state) (spared : Spared state dest)
    (config : Config) (retired : Addr) : Spared (rtTableInvalidate config retired state) dest := by
  by_cases same : dest = retired
  · subst same
    by_cases valid : ValidAt state dest
    · obtain ⟨rt, found, isValid⟩ := valid
      refine ⟨?_, fun expired => absurd expired ?_⟩
      · rw [entryAt_rtTableInvalidate, if_pos rfl, found]
        rfl
      · obtain ⟨handler, msec, _, result⟩ := rtTableInvalidate_rearms config found isValid
        rw [result]
        refine not_mem_expTq_setTimeout (Timers.Linked.timerSetHandler ?_ _ _) _ _
        have removed := (tableRule_clockStep config state).removeEntryTimers (.refl _) dest
        exact (removed.clocked clocked).linked
    · rwa [rtTableInvalidate_of_not_valid config fun rt found isValid => valid ⟨rt, found, isValid⟩]
  · exact spared.kept (kept_rtTableInvalidate config same state)
      ((tableRule_clockStep config state).rtTableInvalidate (.refl _) retired).batch

theorem BreakActs.spared (acts : BreakActs config before after) (clocked : Clocked before)
    (spared : Spared before dest) : Spared after dest := by
  induction acts with
  | refl => exact spared
  | tail early last inductionHypothesis =>
    cases last with
    | report act =>
      exact inductionHypothesis.kept (act.aside.keeps dest) (act.aside.timers ▸ List.Sublist.refl _)
    | rewrite other cosmetic _ => exact inductionHypothesis.setEntry cosmetic.dest other
    | invalidate other =>
      exact inductionHypothesis.rtTableInvalidate
        (((tableRule_clockStep config _).breakActs (.refl _) early).clocked clocked) config other

/-! ### The handlers -/

/-- The first timer of the batch is detached, and is not in the rest of the batch. -/
theorem Spared.popTimer {id : TimerId} (clocked : Clocked state)
    (batch : state.timers.expTq = id :: rest) (spared : Spared state dest) :
    Spared (popTimer id rest state) dest := by
  refine ⟨spared.present, fun expired => ?_⟩
  have expiring : TimerId.rtTimer dest ∈ rest := expired
  have nodup := (List.nodup_append.mp clocked.linked.nodup).2.1
  rw [batch] at nodup
  have different : TimerId.rtTimer dest ≠ id := by
    rintro rfl
    exact (List.nodup_cons.mp nodup).1 expiring
  have handler : rtHandler (Aodvd.popTimer id rest state) dest = rtHandler state dest := by
    show ((timerPop id rest state.timers).timer _).handler = _
    rw [timer_timerPop, if_neg different]
    rfl
  rw [handler]
  exact spared.safe (batch ▸ List.mem_cons_of_mem _ expiring)

/-- What keeps the entries once the timer is detached spares them. -/
theorem Spared.fires {id : TimerId} {final : State} (clocked : Clocked state)
    (batch : state.timers.expTq = id :: rest)
    (fires : Fires config .timers state state rest final)
    (keeps : Keeps (Aodvd.popTimer id rest state) final) (spared : Spared state dest) :
    Spared final dest := by
  obtain ⟨first, _, sublist, later⟩ := fires
  exact (spared.popTimer clocked batch).kept (keeps dest) (later.clockStep.batch.trans sublist)

/-- A repair that failed arms the timer of the route again. -/
theorem Spared.localRepairTimeout (clocked : Clocked state) (spared : Spared state dest)
    (config : Config) (repaired : Addr) :
    Spared (localRepairTimeout config repaired state) dest := by
  cases found : entryAt state repaired with
  | none =>
    have unchanged : Aodvd.localRepairTimeout config repaired state = state := by
      rw [Aodvd.localRepairTimeout, found]
    rwa [unchanged]
  | some rt =>
    by_cases same : dest = repaired
    · subst same
      obtain ⟨reported, aside, result⟩ := localRepairTimeout_of_some config found
      have linked : reported.timers.Linked := by
        rw [aside.timers]
        exact clocked.linked
      refine ⟨?_, fun expired => absurd expired ?_⟩
      · rw [result]
        refine (isSome_setEntry gentle_precursorListDestroy.dest ..).trans ?_
        rw [aside.entryAt]
        exact (spared.setEntry cosmetic_unmarkRepair.dest dest).present
      · rw [result]
        exact not_mem_expTq_setTimeout (linked.timerSetHandler _ _) _ _
    · exact spared.kept (kept_localRepairTimeout config same state)
        ((tableRule_clockStep config state).localRepairTimeout (.refl _) (.inr trivial)).batch

theorem Spared.discoveryGiveUp {entry : SeekEntry} (clocked : Clocked state)
    (batch : state.timers.expTq = .seekTimer entry.destAddr :: rest)
    (spared : Spared state dest) :
    Spared (discoveryGiveUp config entry (Aodvd.popTimer (.seekTimer entry.destAddr) rest state))
      dest := by
  have popped := spared.popTimer clocked batch
  have gaveUp := clockStep_giveUp batch
  have removed : Spared (seekListRemove entry.destAddr (packetQueueDrop entry.destAddr
      (Aodvd.popTimer (.seekTimer entry.destAddr) rest state))) dest :=
    ⟨popped.present, fun expired => spared.safe (gaveUp.batch.subset expired)⟩
  unfold Aodvd.discoveryGiveUp
  dsimp only
  split
  · exact removed
  · split
    · exact removed.localRepairTimeout (gaveUp.clocked clocked) config _
    · exact removed

/-- The handler of an expired timer deletes no entry but that of its own route. -/
theorem spared_runsHandler {id : TimerId} {handler : Handler} {final : State}
    (spared : Spared state dest) (regular : Regular config state) (clocked : Clocked state)
    (batch : state.timers.expTq = id :: rest)
    (installed : (state.timers.timer id).handler = some handler)
    (runs : RunsHandler config (popTimer id rest state) id handler final) : Spared final dest := by
  have popped := spared.popTimer clocked batch
  have ticking : handler ≠ .routeDiscoveryTimeout → Clocked (popTimer id rest state) :=
    fun other => (clockStep_popTimer batch (clocked.calm fun same =>
      other (Option.some.inj (installed.symm.trans same)))).clocked clocked
  have kept : Keeps (popTimer id rest state) final → Spared final dest :=
    spared.fires clocked batch (runs.fires regular clocked batch installed)
  cases runs with
  | expire expired => exact (routeExpireTimeout_breaks ..).spared (ticking (by simp)) popped
  | delete deleted =>
    have different : dest ≠ deleted := by
      rintro rfl
      exact spared.safe (batch ▸ List.mem_cons_self) installed
    exact popped.kept (kept_rtTableDelete different _)
      ((tableRule_clockStep config _).rtTableDelete (.refl _) deleted).batch
  | repair repaired => exact popped.localRepairTimeout (ticking (by simp)) config repaired
  | blacklist silent => exact kept (keeps_rreqBlacklistInsert silent _)
  | hello silent => exact (helloTimeout_breaks ..).spared (ticking (by simp)) popped
  | discovery sought =>
    unfold routeDiscoveryTimeout
    split
    · exact popped
    · rename_i entry found
      obtain ⟨_, rfl⟩ := seekListFind_some found
      split
      · exact spared.fires clocked batch (discoveryRetry_fires batch found)
          (keeps_discoveryRetry config entry _)
      · exact spared.discoveryGiveUp clocked batch
  | collect => exact kept ((keeps_detachPackets _ _ _ _).trans (keeps_setTimeout _ _ _))
  | greet => exact kept (keeps_helloSend config _)
  | log => exact kept (keeps_setTimeout _ _ _)
  | idle => exact popped
  | _ => exact kept fun _ => ⟨rfl, rfl, id, id⟩

/-! ### The batch -/

/-- A batch of timers keeps every entry that is not doomed when the batch is collected. -/
theorem entryAt_timerTimeout_ne_none (atRest : AtRest config state)
    (there : entryAt state dest ≠ none) (safe : ¬ Doomed state dest) :
    entryAt (timerTimeout config state) dest ≠ none := by
  have collected : Spared (gather state) dest :=
    ⟨Option.isSome_iff_ne_none.mpr there, fun expired deletes => safe ⟨expired, deletes⟩⟩
  have regular : Regular config (gather state) := atRest.toRegular.of_rtTbl rfl
  have kept : Spared (timerTimeout config state) dest :=
    runBatch_invariant (motive := (Spared · dest)) (fun regular clocked batch spared =>
      runTimer_cases (motive := (Spared · dest)) (fun _ => spared.popTimer clocked batch)
        fun _ _ installed runs => spared_runsHandler spared regular clocked batch installed runs)
      _ regular atRest.gather collected
  exact Option.isSome_iff_ne_none.mp kept.present

end

end Aodvd
