/-
This file says once what the operations on the routing tables write.

Each of them is a chain of a few kinds of writes: an entry is changed in place or goes, a timer of
an entry is armed, removed or gets another handler, a discovery ends. A property that every such
write keeps is kept by all operations. The writes come with what is known where they happen: a
route becomes valid only where its timer expires it, and the timer of a valid route gets no other
handler, except when a local repair has failed.
-/

import Aodvd.Daemon
import Aodvd.RouteViews
import Aodvd.TimerLinks

namespace Aodvd

/-- The handler of the timer of a route. -/
def rtHandler (state : State) (dest : Addr) : Option Handler :=
  (state.timers.timer (.rtTimer dest)).handler

/-- The entry of a destination is there and valid. -/
def ValidAt (state : State) (dest : Addr) : Prop :=
  ∃ rt, entryAt state dest = some rt ∧ rt.state = .valid

theorem rtHandler_setTimeout (id : TimerId) (msec : Int) (state : State) (dest : Addr) :
    rtHandler (setTimeout id msec state) dest = rtHandler state dest := by
  show ((timerSetTimeout _ _ _ _).timer _).handler = _
  rw [timer_timerSetTimeout]
  split
  · rename_i same
    rw [rtHandler, same]
  · rfl

theorem rtHandler_setHandler (dest other : Addr) (handler : Handler) (state : State) :
    rtHandler (setHandler (.rtTimer dest) handler state) other =
      if other = dest then some handler else rtHandler state other := by
  show ((timerSetHandler _ _ _).timer _).handler = _
  rw [timer_timerSetHandler]
  by_cases same : other = dest
  · subst same
    rw [if_pos rfl, if_pos rfl]
  · have different : TimerId.rtTimer other ≠ .rtTimer dest :=
      fun equal => same (TimerId.rtTimer.inj equal)
    rw [if_neg same, if_neg different]
    rfl

theorem rtHandler_rtTableUpdateTimeout (dest : Addr) (lifetime : Nat) (state : State)
    (other : Addr) :
    rtHandler (rtTableUpdateTimeout dest lifetime state) other = rtHandler state other := by
  unfold rtTableUpdateTimeout
  split
  · rfl
  · split
    · split
      · exact rtHandler_setTimeout ..
      · rfl
    · exact rtHandler_setTimeout ..

theorem isSome_setEntry {change : RtEntry → RtEntry}
    (keepsKey : ∀ rt, (change rt).destAddr = rt.destAddr) (dest other : Addr) (state : State) :
    (entryAt (setEntry dest change state) other).isSome = (entryAt state other).isSome := by
  rw [entryAt_setEntry keepsKey]
  split
  · rename_i same
    rw [Option.isSome_map, same]
  · rfl

/-- A write in place makes no route valid if it makes no entry valid. -/
theorem validAt_setEntry {change : RtEntry → RtEntry}
    (keepsDest : ∀ rt, (change rt).destAddr = rt.destAddr)
    (keepsState : ∀ rt, (change rt).state = .valid → rt.state = .valid) {dest other : Addr}
    {state : State} (valid : ValidAt (setEntry dest change state) other) : ValidAt state other := by
  obtain ⟨rt, found, isValid⟩ := valid
  rw [entryAt_setEntry keepsDest] at found
  split at found
  · rename_i same
    obtain ⟨old, oldFound, rfl⟩ := Option.map_eq_some_iff.mp found
    exact ⟨old, same ▸ oldFound, keepsState old isValid⟩
  · exact ⟨rt, found, isValid⟩

theorem timers_rtTableDelete {dest : Addr} {state : State} {rt : RtEntry}
    (found : entryAt state dest = some rt) :
    (rtTableDelete dest state).timers = (removeEntryTimers dest state).timers := by
  unfold rtTableDelete
  rw [found]
  dsimp only
  split <;> rfl

theorem timerUsed_removeTimer (id other : TimerId) (state : State) :
    timerUsed (removeTimer id state) other = true ↔ other ≠ id ∧ timerUsed state other = true := by
  show ((timerRemove id state.timers).timer other).used = true ↔ _
  rw [timer_timerRemove]
  split
  · rename_i same
    simp [same]
  · rename_i different
    exact ⟨fun used => ⟨different, used⟩, fun both => both.2⟩

/-- A timer that is in use after those of an entry have been removed is another one. -/
theorem timerUsed_removeEntryTimers (dest : Addr) (id : TimerId) (state : State) :
    timerUsed (removeEntryTimers dest state) id = true ↔
      id ≠ .ackTimer dest ∧ id ≠ .helloTimer dest ∧ id ≠ .rtTimer dest ∧
        timerUsed state id = true := by
  unfold removeEntryTimers
  rw [timerUsed_removeTimer, timerUsed_removeTimer, timerUsed_removeTimer]

/-- What `rt_table_invalidate` does to a valid route: it is retired and its timer armed. -/
theorem rtTableInvalidate_rearms (config : Config) {dest : Addr} {state : State} {rt : RtEntry}
    (found : entryAt state dest = some rt) (valid : rt.state = .valid) :
    ∃ (handler : Handler) (msec : Nat),
      (handler = .routeDeleteTimeout ∨ handler = .localRepairTimeout) ∧
      rtTableInvalidate config dest state =
        setTimeout (.rtTimer dest) msec (setHandler (.rtTimer dest) handler
          (nlSendDelRouteMsg rt.destAddr rt.nextHop rt.hcnt
            (decrActive (setEntry dest RtEntry.invalidated (removeEntryTimers dest state))))) := by
  unfold rtTableInvalidate
  rw [found]
  dsimp only
  rw [if_neg (by rw [valid]; simp)]
  split
  · exact ⟨_, _, .inr rfl, rfl⟩
  · exact ⟨_, _, .inl rfl, rfl⟩

/-- The entry of an offer with its three timers, before the route is announced. -/
def newEntry (offer : Offer) (state : State) : State :=
  attachEntry offer.entry (initTimer (.helloTimer offer.dest) .helloTimeout
    (initTimer (.ackTimer offer.dest) .rrepAckTimeout
      (initTimer (.rtTimer offer.dest) .routeExpireTimeout state)))

theorem entryAt_newEntry (offer : Offer) (state : State) (dest : Addr) :
    entryAt (newEntry offer state) dest =
      if offer.dest = dest then some offer.entry else entryAt state dest :=
  entryAt_attachEntry ..

theorem timer_newEntry {offer : Offer} {state : State} {id : TimerId} (notRt : id ≠ .rtTimer offer.dest)
    (notAck : id ≠ .ackTimer offer.dest) (notHello : id ≠ .helloTimer offer.dest) :
    (newEntry offer state).timers.timer id = state.timers.timer id := by
  show (timerInit _ _ (timerInit _ _ (timerInit _ _ _))).timer _ = _
  rw [timer_timerInit, if_neg notHello, timer_timerInit, if_neg notAck, timer_timerInit, if_neg notRt]

/-! ### Writes in place and failed repairs -/

theorem cosmetic_markUnidir : Cosmetic RtEntry.markUnidir :=
  ⟨.of_same (fun _ => rfl) (fun _ => rfl) (fun _ => rfl) (fun _ => rfl),
    fun _ => rfl, fun _ => rfl, fun _ => rfl, fun _ => rfl, fun _ => rfl⟩

theorem gentle_setSeqno (seqno : Seqno) : Gentle (RtEntry.setSeqno seqno) :=
  .of_same (fun _ => rfl) (fun _ => rfl) (fun _ => rfl) (fun _ => rfl)

theorem cosmetic_unmarkRepair : Cosmetic RtEntry.unmarkRepair :=
  ⟨.of_same (fun _ => rfl) (fun _ => rfl) (fun _ => rfl) (fun _ => rfl),
    fun _ => rfl, fun _ => rfl, fun _ => rfl, fun _ => rfl, fun _ => rfl⟩

theorem repairReport_reports (config : Config) (rt : RtEntry) (state : State) :
    ReportActs config state (repairReport config rt state) := by
  unfold repairReport
  split
  · exact .refl
  · have drafted : ReportActs config state (rerrCreate false rt.destAddr rt.destSeqno state) :=
      .single (.draft state _ rfl)
    dsimp only
    split
    · exact drafted.tail (.send _ _ _ _ _ (listed_devIfindex config _) ⟨_, rfl, rfl⟩)
    · exact drafted.trans (sendOnAll_reports ⟨_, rfl, rfl⟩)

/-- The entry of a failed repair loses its mark and its precursors, its kernel route goes, and
it is deleted later. -/
theorem localRepairTimeout_reports (config : Config) {dest : Addr} {state : State} {rt : RtEntry}
    (found : entryAt state dest = some rt) :
    ∃ reported, ReportActs config (nlSendDelRouteMsg dest rt.nextHop rt.hcnt
        (setEntry dest RtEntry.unmarkRepair state)) reported ∧
      localRepairTimeout config dest state =
        setTimeout (.rtTimer dest) deletePeriod (setHandler (.rtTimer dest) .routeDeleteTimeout
          (precursorListDestroy dest reported)) := by
  refine ⟨repairReport config rt (nlSendDelRouteMsg dest rt.nextHop rt.hcnt
    (setEntry dest RtEntry.unmarkRepair state)), repairReport_reports .., ?_⟩
  unfold localRepairTimeout
  rw [found]
  dsimp only
  rw [entryAt_destAddr found]

theorem localRepairTimeout_of_some (config : Config) {dest : Addr} {state : State} {rt : RtEntry}
    (found : entryAt state dest = some rt) :
    ∃ reported, Aside (nlSendDelRouteMsg dest rt.nextHop rt.hcnt
        (setEntry dest RtEntry.unmarkRepair state)) reported ∧
      localRepairTimeout config dest state =
        setTimeout (.rtTimer dest) deletePeriod (setHandler (.rtTimer dest) .routeDeleteTimeout
          (precursorListDestroy dest reported)) := by
  obtain ⟨reported, acts, result⟩ := localRepairTimeout_reports config found
  exact ⟨reported, acts.aside, result⟩

theorem routeExpireTimeout_breaks (config : Config) (dest : Addr) (state : State) :
    BreakActs config state (routeExpireTimeout config dest state) := by
  unfold routeExpireTimeout
  split
  · exact .refl
  · split
    · exact neighborLinkBreak_acts config dest state
    · exact .tail (.single (.invalidate state dest))
        (.rewrite _ dest cosmetic_precursorListDestroy (fun _ => .inl rfl) fun _ _ => .inl rfl)

/-- A silent neighbour is marked for repair only while it is valid. -/
theorem helloTimeout_breaks (config : Config) (dest : Addr) (state : State) :
    BreakActs config state (helloTimeout config dest state) := by
  unfold helloTimeout
  split
  · exact .refl
  · rename_i rt found
    split
    · rename_i lost
      refine .trans ?_ (neighborLinkBreak_acts config dest _)
      split
      · refine .single (.rewrite _ dest cosmetic_markRepair (fun _ => .inr rfl) fun _ there => ?_)
        obtain rfl := Option.some.inj (found.symm.trans there)
        exact .inr lost.1
      · exact .refl
    · exact .refl

/-! ### Rules -/

/-- The states agree on the clock, the seek list, the packet queue and the records. -/
structure RoutesOnly (before after : State) : Prop where
  now : after.now = before.now
  jitter : after.jitter = before.jitter
  seekhead : after.seekhead = before.seekhead
  pq : after.pq = before.pq
  rreqRecords : after.rreqRecords = before.rreqRecords
  rreqBlacklist : after.rreqBlacklist = before.rreqBlacklist
  history : after.history = before.history

theorem RoutesOnly.refl (state : State) : RoutesOnly state state :=
  ⟨rfl, rfl, rfl, rfl, rfl, rfl, rfl⟩

theorem RoutesOnly.trans {first second third : State} (early : RoutesOnly first second)
    (late : RoutesOnly second third) : RoutesOnly first third :=
  ⟨late.now.trans early.now, late.jitter.trans early.jitter, late.seekhead.trans early.seekhead,
    late.pq.trans early.pq, late.rreqRecords.trans early.rreqRecords,
    late.rreqBlacklist.trans early.rreqBlacklist, late.history.trans early.history⟩

theorem Aside.routesOnly {before after : State} (aside : Aside before after) :
    RoutesOnly before after :=
  ⟨aside.now, aside.jitter, aside.seekhead, aside.pq, aside.rreqRecords, aside.rreqBlacklist,
    aside.history⟩

theorem TimerActs.routesOnly {before after : State} (acts : TimerActs before after) :
    RoutesOnly before after := by
  obtain ⟨timers, rfl⟩ := acts.same
  constructor <;> rfl

/-- The entry of a destination goes, after its timers have been removed. -/
structure Detaches (dest : Addr) (before after : State) : Prop where
  only : ∃ rtTbl kernel, after = { before with rtTbl := rtTbl, kernel := kernel }
  entries : ∀ other, entryAt after other = if other = dest then none else entryAt before other
  unused : ∀ id, timerUsed before id = true →
    id ≠ .ackTimer dest ∧ id ≠ .helloTimer dest ∧ id ≠ .rtTimer dest

/-- A property that the writes of the operations on the routing tables keep: to the kernel and the
count of active routes, of reports, to entries and to their timers. A bold one is also kept when the
timer of a valid route gets a handler that does not expire it. -/
structure TableRule (config : Config) (bold : Prop) (property : State → Prop) : Prop where
  books : ∀ {state : State}, property state → ∀ active kernel,
    property { state with rtTbl := { state.rtTbl with numActive := active }, kernel := kernel }
  report : ∀ {before after : State}, property before → ReportAct config before after → property after
  rewrite : ∀ {state : State}, property state → ∀ (dest : Addr) {change : RtEntry → RtEntry},
    Gentle change → (∀ rt, entryAt state dest = some rt → (change rt).state = .valid →
      rt.state = .valid ∨ rtHandler state dest = some .routeExpireTimeout) →
    property (setEntry dest change state)
  detach : ∀ {before after : State}, property before → ∀ dest, Detaches dest before after →
    property after
  timer : ∀ {before after : State}, property before → TimerAct before after → property after
  remove : ∀ {state : State}, property state → ∀ dest, property (removeTimer (.rtTimer dest) state)
  install : ∀ {state : State}, property state → ∀ dest handler,
    handler = .routeExpireTimeout ∨ ¬ ValidAt state dest ∨ bold →
    property (setHandler (.rtTimer dest) handler state)

/-- The same for the release of buffered packets, which ends a discovery. -/
structure ReleaseRule (config : Config) (bold : Prop) (property : State → Prop) : Prop
    extends TableRule config bold property where
  unseek : ∀ {state : State}, property state → ∀ dest, property (seekListRemove dest state)
  flush : ∀ {state : State}, property state → ∀ chosen verdict cause,
    property (detachPackets chosen verdict cause state)

namespace TableRule

variable {bold : Prop} {property : State → Prop} {config : Config} {before after state : State}
  {dest : Addr} {rt : RtEntry} {offer : Offer}

theorem timerActs (rule : TableRule config bold property) (holds : property before)
    (acts : TimerActs before after) : property after := by
  induction acts with
  | refl => exact holds
  | tail _ last inductionHypothesis => exact rule.timer inductionHypothesis last

theorem reportActs (rule : TableRule config bold property) (holds : property before)
    (acts : ReportActs config before after) : property after := by
  induction acts with
  | refl => exact holds
  | tail _ last inductionHypothesis => exact rule.report inductionHypothesis last

/-- A write that leaves the state of a route alone. -/
theorem cosmetic (rule : TableRule config bold property) (holds : property state) (dest : Addr)
    {change : RtEntry → RtEntry} (cosmetic : Cosmetic change) :
    property (setEntry dest change state) :=
  rule.rewrite holds dest cosmetic.toGentle
    fun rt _ valid => .inl ((cosmetic.state rt).symm.trans valid)

theorem removeEntryTimers (rule : TableRule config bold property) (holds : property state)
    (dest : Addr) : property (removeEntryTimers dest state) :=
  rule.timer (rule.timer (rule.remove holds dest) (.remove _ (.helloTimer dest) trivial))
    (.remove _ (.ackTimer dest) trivial)

/-- The timer of an entry is armed with another handler. -/
theorem rearm (rule : TableRule config bold property) (holds : property state)
    (there : (entryAt state dest).isSome = true) (handler : Handler)
    (allowed : ¬ ValidAt state dest ∨ bold) (msec : Nat) :
    property (setTimeout (.rtTimer dest) msec (setHandler (.rtTimer dest) handler state)) :=
  rule.timer (rule.install holds dest handler (.inr allowed))
    (.arm _ (.rtTimer dest) msec trivial there (timely_natCast _ _))

theorem rtTableInvalidate (rule : TableRule config bold property) (holds : property state)
    (dest : Addr) : property (rtTableInvalidate config dest state) := by
  by_cases active : ValidAt state dest
  · obtain ⟨rt, found, valid⟩ := active
    obtain ⟨handler, msec, _, result⟩ := rtTableInvalidate_rearms config found valid
    have written := entryAt_setEntry gentle_invalidated.dest dest dest
      (Aodvd.removeEntryTimers dest state)
    rw [if_pos rfl, show entryAt (Aodvd.removeEntryTimers dest state) dest = _ from found] at written
    have retired := rule.rewrite (rule.removeEntryTimers holds dest) dest gentle_invalidated
      fun _ _ valid => RouteState.noConfusion valid
    rw [result]
    refine rule.rearm (rule.books retired _ _) ?_ handler (.inl ?_) msec
    · exact Option.isSome_of_eq_some written
    · rintro ⟨new, newFound, newValid⟩
      obtain rfl := Option.some.inj (written.symm.trans newFound)
      exact RouteState.noConfusion newValid
  · rwa [rtTableInvalidate_of_not_valid config fun rt found valid => active ⟨rt, found, valid⟩]

theorem breakActs (rule : TableRule config bold property) (holds : property before)
    (acts : BreakActs config before after) : property after := by
  induction acts with
  | refl => exact holds
  | tail _ last inductionHypothesis =>
    cases last with
    | report act => exact rule.report inductionHypothesis act
    | rewrite dest cosmetic => exact rule.cosmetic inductionHypothesis dest cosmetic
    | invalidate dest => exact rule.rtTableInvalidate inductionHypothesis dest

theorem neighborLinkBreak (rule : TableRule config bold property) (holds : property state)
    (dest : Addr) : property (neighborLinkBreak config dest state) :=
  rule.breakActs holds (neighborLinkBreak_acts config dest state)

theorem helloTimeout (rule : TableRule config bold property) (holds : property state) (dest : Addr) :
    property (helloTimeout config dest state) :=
  rule.breakActs holds (helloTimeout_breaks config dest state)

theorem rerrInvalidate (rule : TableRule config bold property) (holds : property state)
    (noDelete : Bool) (dest : Addr) (seqno : Seqno) :
    property (rerrInvalidate config noDelete dest seqno state) := by
  refine rule.rewrite ?_ dest (gentle_setSeqno seqno) fun _ _ => .inl
  split
  · exact holds
  · exact rule.rtTableInvalidate holds dest

/-- A local repair has failed, on a route that is not valid if the rule is not bold. -/
theorem localRepairTimeout (rule : TableRule config bold property) (holds : property state)
    (allowed : ¬ ValidAt state dest ∨ bold) : property (localRepairTimeout config dest state) := by
  cases found : entryAt state dest with
  | none =>
    unfold Aodvd.localRepairTimeout
    rwa [found]
  | some rt =>
    obtain ⟨reported, acts, result⟩ := localRepairTimeout_reports config found
    have aside := acts.aside
    have emptied := rule.cosmetic (rule.reportActs (rule.books (rule.cosmetic holds dest
      cosmetic_unmarkRepair) _ _) acts) dest cosmetic_precursorListDestroy
    rw [result]
    refine rule.rearm emptied ?_ _ (allowed.imp_left fun invalid valid => invalid ?_) _
    · refine (isSome_setEntry cosmetic_precursorListDestroy.dest ..).trans ?_
      rw [aside.entryAt]
      exact (isSome_setEntry cosmetic_unmarkRepair.dest ..).trans (Option.isSome_of_eq_some found)
    · have reportedValid := validAt_setEntry cosmetic_precursorListDestroy.dest (fun _ => id) valid
      rw [ValidAt, aside.entryAt] at reportedValid
      exact validAt_setEntry cosmetic_unmarkRepair.dest (fun _ => id) reportedValid

/-- A new entry is announced if it is valid, and otherwise only waits to be deleted. -/
theorem insertRoute (rule : TableRule config bold property)
    (attached : property (newEntry offer state)) :
    property (insertRoute config offer state) := by
  have here : entryAt (newEntry offer state) offer.dest = some offer.entry :=
    (entryAt_newEntry ..).trans (if_pos rfl)
  have there := Option.isSome_of_eq_some here
  unfold Aodvd.insertRoute
  dsimp only
  split
  · rename_i invalid
    have waits : ¬ ValidAt (newEntry offer state) offer.dest := by
      rintro ⟨rt, found, valid⟩
      obtain rfl := Option.some.inj (here.symm.trans found)
      exact RouteState.noConfusion (invalid.symm.trans valid)
    split
    · exact rule.rearm attached there _ (.inl waits) _
    · exact rule.rearm attached there _ (.inl waits) _
  · have told : property (nlSendAddRouteMsg offer.dest offer.next offer.hcnt offer.ifindex
        (incrActive (newEntry offer state))) := rule.books attached _ _
    split
    · exact told
    · exact rule.timer told (.arm _ (.rtTimer offer.dest) _ trivial there (timely_natCast _ _))

theorem updateLinkBreak (rule : TableRule config bold property) (holds : property state) (rt : RtEntry)
    (offer : Offer) : property (updateLinkBreak config rt offer state) := by
  unfold Aodvd.updateLinkBreak
  split
  · exact rule.neighborLinkBreak (rule.timer (rule.cosmetic holds _ cosmetic_forgetHellos)
      (.remove _ (.helloTimer rt.destAddr) trivial)) _
  · exact holds

/-- The part of an update after the link break: the updated route expires. -/
theorem adopt (rule : TableRule config bold property)
    (holds : property (Aodvd.updateLinkBreak config rt offer (updateKernel rt offer state))) :
    property (updateRoute config rt offer state) := by
  have adopted := rule.install (rule.rewrite holds rt.destAddr
    (gentle_adopt (updateFlags rt offer) offer) fun _ _ => .inl)
    rt.destAddr .routeExpireTimeout (.inl rfl)
  have handler := rtHandler_setHandler rt.destAddr rt.destAddr .routeExpireTimeout
    (setEntry rt.destAddr (RtEntry.adopt (updateFlags rt offer) offer)
      (Aodvd.updateLinkBreak config rt offer (updateKernel rt offer state)))
  rw [if_pos rfl] at handler
  unfold updateRoute
  dsimp only
  split
  · exact rule.rewrite adopted _ (gentle_setState offer.state) fun _ _ _ => .inr handler
  · refine rule.rewrite (rule.timerActs adopted (rtTableUpdateTimeout_acts ..)) _
      (gentle_setState offer.state) fun _ _ _ => .inr ?_
    rw [rtHandler_rtTableUpdateTimeout]
    exact handler

theorem updateRoute (rule : TableRule config bold property) (holds : property state) (rt : RtEntry)
    (offer : Offer) : property (updateRoute config rt offer state) := by
  refine rule.adopt (rule.updateLinkBreak ?_ rt offer)
  unfold updateKernel
  split
  · exact rule.books holds _ _
  · split
    · exact rule.books holds _ _
    · exact holds

theorem rtTableDelete (rule : TableRule config bold property) (holds : property state) (dest : Addr) :
    property (rtTableDelete dest state) := by
  cases found : entryAt state dest with
  | none =>
    unfold Aodvd.rtTableDelete
    rwa [found]
  | some rt =>
    refine rule.detach (rule.removeEntryTimers holds dest) dest
      ⟨?_, fun other => entryAt_rtTableDelete dest other state, fun id used => ?_⟩
    · unfold Aodvd.rtTableDelete
      rw [found]
      dsimp only
      split <;> exact ⟨_, _, rfl⟩
    obtain ⟨notAck, notHello, notRt, _⟩ := (timerUsed_removeEntryTimers dest id state).mp used
    exact ⟨notAck, notHello, notRt⟩

end TableRule

namespace ReleaseRule

variable {config : Config} {bold : Prop} {property : State → Prop} {state : State} {offer : Offer}

theorem releaseBuffered (rule : ReleaseRule config bold property) (holds : property state)
    (dest : Addr) : property (releaseBuffered config dest state) := by
  unfold Aodvd.releaseBuffered
  split
  · exact holds
  · have removed := rule.unseek holds dest
    cases found : rtTableFind (seekListRemove dest state) dest with
    | none =>
      unfold packetQueueSend
      rwa [found]
    | some rt =>
      exact rule.timerActs (rule.flush removed _ _ _) (packetQueueSend_acts config found)

theorem rtTableInsert (rule : ReleaseRule config bold property)
    (attached : property (newEntry offer state)) (fresh : entryAt state offer.dest = none) :
    property (rtTableInsert config offer state).1 := by
  rw [rtTableInsert_of_none config offer fresh]
  dsimp only
  split
  · exact rule.releaseBuffered (rule.insertRoute attached) _
  · exact rule.insertRoute attached

theorem rtTableUpdate (rule : ReleaseRule config bold property) (holds : property state)
    (offer : Offer) : property (rtTableUpdate config offer state) := by
  unfold Aodvd.rtTableUpdate
  split
  · exact holds
  · dsimp only
    split
    · exact rule.releaseBuffered (rule.updateRoute holds ..) _
    · exact rule.updateRoute holds ..

end ReleaseRule

/-! ### What the operations on the routing tables leave alone -/

section

variable {config : Config} {property : State → Prop}

/-- A property that does not depend on the tables and the timers is kept if reports keep it. -/
theorem TableRule.of_ignored
    (ignores : ∀ {state : State} rtTbl kernel timers, property state →
      property { state with rtTbl := rtTbl, kernel := kernel, timers := timers })
    (report : ∀ {before after : State}, property before → ReportAct config before after →
      property after) : TableRule config True property where
  books holds _ _ := ignores _ _ _ holds
  report := report
  rewrite holds _ _ _ _ := ignores _ _ _ holds
  detach holds _ detaches := by
    obtain ⟨_, _, rfl⟩ := detaches.only
    exact ignores _ _ _ holds
  timer holds act := by
    obtain ⟨_, rfl⟩ := act.same
    exact ignores _ _ _ holds
  remove holds _ := ignores _ _ _ holds
  install holds _ _ _ := ignores _ _ _ holds

/-- The same if it depends on the discoveries and the buffered packets neither. -/
theorem ReleaseRule.of_ignored
    (ignores : ∀ (state : State) rtTbl kernel timers seekhead pq history, property state →
      property { state with
        rtTbl := rtTbl, kernel := kernel, timers := timers, seekhead := seekhead, pq := pq,
        history := history })
    (report : ∀ {before after : State}, property before → ReportAct config before after →
      property after) : ReleaseRule config True property where
  toTableRule := .of_ignored (fun _ _ _ holds => ignores _ _ _ _ _ _ _ holds) report
  unseek {state} holds _ := ignores state _ _ _ _ _ _ holds
  flush {state} holds _ _ _ := ignores state _ _ _ _ _ _ holds

/-- An insertion, whether or not there is an entry. -/
theorem ReleaseRule.rtTableInsert_of_new (rule : ReleaseRule config True property) {state : State}
    (holds : property state) {offer : Offer} (attached : property (newEntry offer state)) :
    property (Aodvd.rtTableInsert config offer state).1 := by
  cases found : entryAt state offer.dest with
  | some rt => rwa [rtTableInsert_of_some config offer found]
  | none => exact rule.rtTableInsert attached found

end

theorem tableRule_routesOnly (config : Config) (start : State) :
    TableRule config True (RoutesOnly start) :=
  .of_ignored (fun _ _ _ only => ⟨only.now, only.jitter, only.seekhead, only.pq, only.rreqRecords,
    only.rreqBlacklist, only.history⟩) fun only act => only.trans act.aside.routesOnly

theorem routesOnly_neighborLinkBreak (config : Config) (dest : Addr) (state : State) :
    RoutesOnly state (neighborLinkBreak config dest state) :=
  (tableRule_routesOnly config state).neighborLinkBreak (.refl _) dest

/-- The states agree on the clock, the records and the blacklist. -/
structure SameRecords (before after : State) : Prop where
  rreqRecords : after.rreqRecords = before.rreqRecords
  rreqBlacklist : after.rreqBlacklist = before.rreqBlacklist
  now : after.now = before.now

theorem sameRecords_ruled (config : Config) (start : State) :
    ReleaseRule config True (SameRecords start) :=
  .of_ignored (fun _ _ _ _ _ _ _ same => ⟨same.rreqRecords, same.rreqBlacklist, same.now⟩)
    fun same act => ⟨act.aside.rreqRecords.trans same.rreqRecords,
      act.aside.rreqBlacklist.trans same.rreqBlacklist, act.aside.now.trans same.now⟩

theorem sameRecords_rtTableInsert (config : Config) (offer : Offer) (state : State) :
    SameRecords state (rtTableInsert config offer state).1 :=
  (sameRecords_ruled config state).rtTableInsert_of_new ⟨rfl, rfl, rfl⟩ ⟨rfl, rfl, rfl⟩

end Aodvd
