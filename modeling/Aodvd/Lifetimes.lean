/-
This file proves that routes are not immortal.

A valid route should wait in the timer queue for `route_expire_timeout`, and an invalid one
for its deletion or for the end of a repair. The invariant behind this also says when the
timer of an invalid route may be unarmed: its handler is then `route_expire_timeout`, which
does nothing to an invalid route, the route is marked for repair, and a discovery for it is
running, which arms the timer again whichever way it ends.

Two things break it. A new route with a lifetime of zero gets no timer at all. And when the
discovery of a route under repair is given up while the route is valid, the route keeps the
handler that deletes it.
-/

import Aodvd.RouteClocks

namespace Aodvd

variable {first second third : State} {rt : RtEntry} {id : TimerId} {other : Addr} {offer : Offer}

/-! ### Timed routes -/

/-- The timer of a route is armed, or the route is invalid, under repair and sought. -/
structure Timed (state : State) (dest : Addr) (rt : RtEntry) : Prop where
  inland : rt.flags.inetDest = false
  installed : rtHandler state dest = some .routeExpireTimeout ∨
    rtHandler state dest = some .routeDeleteTimeout ∨
    rtHandler state dest = some .localRepairTimeout
  expires : rt.state = .valid → rtHandler state dest = some .routeExpireTimeout
  armed : rt.state = .valid ∨ rtHandler state dest ≠ some .routeExpireTimeout →
    timerUsed state (.rtTimer dest) = true
  repaired : rt.state = .invalid → rtHandler state dest = some .routeExpireTimeout →
    rt.flags.repair = true ∧ Sought state dest

/-- The entry of a destination is timed, if there is one. -/
def TimedAt (state : State) (dest : Addr) : Prop :=
  ∀ rt, entryAt state dest = some rt → Timed state dest rt

/-- Between two states the entry of a destination and its timer stay. -/
structure Kept (before after : State) (dest : Addr) : Prop where
  entry : entryAt after dest = entryAt before dest
  handler : rtHandler after dest = rtHandler before dest
  used : timerUsed before (.rtTimer dest) = true → timerUsed after (.rtTimer dest) = true
  sought : Sought before dest → Sought after dest

theorem Kept.refl (state : State) (dest : Addr) : Kept state state dest := ⟨rfl, rfl, id, id⟩

theorem Kept.trans {dest : Addr} (early : Kept first second dest) (late : Kept second third dest) :
    Kept first third dest :=
  ⟨late.entry.trans early.entry, late.handler.trans early.handler,
    fun used => late.used (early.used used), fun sought => late.sought (early.sought sought)⟩

theorem Timed.kept {before after : State} {dest : Addr} (timed : Timed before dest rt)
    (kept : Kept before after dest) : Timed after dest rt where
  inland := timed.inland
  installed := kept.handler ▸ timed.installed
  expires valid := kept.handler ▸ timed.expires valid
  armed cause := kept.used (timed.armed (kept.handler ▸ cause))
  repaired invalid expires := by
    obtain ⟨marked, sought⟩ := timed.repaired invalid (kept.handler ▸ expires)
    exact ⟨marked, kept.sought sought⟩

theorem TimedAt.kept {before after : State} {dest : Addr} (timed : TimedAt before dest)
    (kept : Kept before after dest) : TimedAt after dest :=
  fun rt found => (timed rt (kept.entry ▸ found)).kept kept

/-- Every entry and its timer stay. -/
def Keeps (before after : State) : Prop := ∀ dest, Kept before after dest

theorem Keeps.refl (state : State) : Keeps state state := Kept.refl state

theorem Keeps.trans (early : Keeps first second) (late : Keeps second third) : Keeps first third :=
  fun dest => (early dest).trans (late dest)

/-! ### What keeps entries and their timers -/

theorem keeps_of_same {before after : State} (tbl : after.rtTbl.tbl = before.rtTbl.tbl)
    (timers : after.timers = before.timers) (seekhead : after.seekhead = before.seekhead) :
    Keeps before after := by
  intro dest
  refine ⟨by rw [entryAt, entryAt, tbl], by rw [rtHandler, rtHandler, timers], fun used => ?_,
    fun sought => ?_⟩
  · rwa [timerUsed, timers]
  · rwa [Sought, seekhead]

theorem Aside.keeps {before after : State} (aside : Aside before after) : Keeps before after :=
  keeps_of_same (congrArg RoutingTable.tbl aside.rtTbl) aside.timers aside.seekhead

/-- The timers are written, and that of the route keeps its handler and stays in use. -/
theorem kept_of_timer {state : State} {timers : Timers TimerId Handler} {dest : Addr}
    (handler : (timers.timer (.rtTimer dest)).handler = rtHandler state dest)
    (used : timerUsed state (.rtTimer dest) = true → (timers.timer (.rtTimer dest)).used = true) :
    Kept state { state with timers := timers } dest := ⟨rfl, handler, used, id⟩

theorem kept_of_same_timer {state : State} {timers : Timers TimerId Handler} {dest : Addr}
    (same : timers.timer (.rtTimer dest) = state.timers.timer (.rtTimer dest)) :
    Kept state { state with timers := timers } dest :=
  kept_of_timer (congrArg Timer.handler same) fun used => (congrArg Timer.used same).trans used

theorem keeps_setTimeout (id : TimerId) (msec : Int) (state : State) :
    Keeps state (setTimeout id msec state) := by
  refine fun dest => kept_of_timer (rtHandler_setTimeout id msec state dest) fun used => ?_
  rw [timer_timerSetTimeout]
  split
  · rfl
  · exact used

/-- The timer is not that of a route. -/
def TimerId.Routeless (id : TimerId) : Prop := ∀ dest, TimerId.rtTimer dest ≠ id

theorem routeless_seekTimer (dest : Addr) : (TimerId.seekTimer dest).Routeless :=
  fun _ => TimerId.noConfusion

theorem routeless_ackTimer (dest : Addr) : (TimerId.ackTimer dest).Routeless :=
  fun _ => TimerId.noConfusion

theorem routeless_helloTimer (dest : Addr) : (TimerId.helloTimer dest).Routeless :=
  fun _ => TimerId.noConfusion

theorem keeps_removeTimer (routeless : id.Routeless) (state : State) :
    Keeps state (removeTimer id state) :=
  fun dest => kept_of_same_timer ((timer_timerRemove ..).trans (if_neg (routeless dest)))

theorem kept_popTimer {dest : Addr} (different : TimerId.rtTimer dest ≠ id) (rest : List TimerId)
    (state : State) : Kept state (popTimer id rest state) dest :=
  kept_of_same_timer ((timer_timerPop ..).trans (if_neg different))

theorem keeps_initTimer (routeless : id.Routeless) (handler : Handler) (state : State) :
    Keeps state (initTimer id handler state) :=
  fun dest => kept_of_same_timer ((timer_timerInit ..).trans (if_neg (routeless dest)))

theorem TimerAct.keeps {before after : State} (act : TimerAct before after) :
    Keeps before after := by
  cases act with
  | arm id msec => exact keeps_setTimeout id msec before
  | remove id loose =>
    refine keeps_removeTimer (fun dest same => ?_) before
    subst same
    exact loose
  | restart id handler static =>
    refine keeps_initTimer (fun dest same => ?_) handler before
    subst same
    exact static

theorem TimerActs.keeps {before after : State} (acts : TimerActs before after) :
    Keeps before after := by
  induction acts with
  | refl => exact .refl _
  | tail _ last inductionHypothesis => exact inductionHypothesis.trans last.keeps

theorem keeps_detachPackets (chosen : QPkt → Bool) (verdict : NfVerdict) (cause : VerdictCause)
    (state : State) : Keeps state (detachPackets chosen verdict cause state) :=
  keeps_of_same rfl rfl rfl

theorem keeps_packetQueueAdd (packetId : BitVec 32) (dest : Addr) (state : State) :
    Keeps state (packetQueueAdd packetId dest state) := by
  obtain ⟨_, _, added⟩ := packetQueueAdd_eq packetId dest state
  rw [added]
  exact keeps_of_same rfl rfl rfl

theorem keeps_rreqRecordInsert (origAddr : Addr) (rreqId : BitVec 32) (state : State) :
    Keeps state (rreqRecordInsert origAddr rreqId state) := by
  unfold rreqRecordInsert
  split
  · exact .refl _
  · refine .trans ?_ (keeps_setTimeout _ _ _)
    refine .trans ?_ (keeps_initTimer (fun _ => TimerId.noConfusion) _ _)
    exact keeps_of_same rfl rfl rfl

theorem keeps_rreqBlacklistInsert (dest : Addr) (state : State) :
    Keeps state (rreqBlacklistInsert dest state) := by
  unfold rreqBlacklistInsert
  split
  · exact .refl _
  · refine .trans ?_ (keeps_setTimeout _ _ _)
    refine .trans ?_ (keeps_initTimer (fun _ => TimerId.noConfusion) _ _)
    exact keeps_of_same rfl rfl rfl

theorem keeps_seek (dest : Addr) (destSeqno : Seqno) (ttl : Nat) (flags : RreqFlags) (msec : Int)
    (state : State) :
    Keeps state (setTimeout (.seekTimer dest) msec
      (seekListInsert dest destSeqno ttl flags state)) := by
  refine .trans ?_ (keeps_setTimeout _ _ _)
  refine .trans (keeps_initTimer (routeless_seekTimer dest) .routeDiscoveryTimeout state) ?_
  refine fun other => ⟨rfl, rfl, id, fun sought => ?_⟩
  obtain ⟨entry, member, same⟩ := sought
  exact ⟨entry, List.mem_cons_of_mem _ member, same⟩

theorem keeps_setSeekEntry {change : SeekEntry → SeekEntry}
    (keepsDest : ∀ entry, (change entry).destAddr = entry.destAddr) (dest : Addr) (state : State) :
    Keeps state (setSeekEntry dest change state) := by
  refine fun other => ⟨rfl, rfl, id, fun sought => sought_iff.mpr ?_⟩
  rw [seekhead_setSeekEntry keepsDest]
  exact sought_iff.mp sought

/-- A discovery ends: the other ones go on. -/
theorem kept_seekListRemove {dest : Addr} (different : other ≠ dest) (state : State) :
    Kept state (seekListRemove dest state) other := by
  refine .trans ?_ (keeps_removeTimer (routeless_seekTimer dest) _ other)
  refine ⟨rfl, rfl, id, fun sought => ?_⟩
  obtain ⟨entry, member, same⟩ := sought
  refine ⟨entry, (List.mem_eraseP_of_neg ?_).mpr member, same⟩
  rw [decide_eq_true_iff, same]
  exact different

/-! ### Steady steps -/

/-- What is timed before is timed afterwards. -/
def Steady (before after : State) : Prop := ∀ dest, TimedAt before dest → TimedAt after dest

theorem Steady.refl (state : State) : Steady state state := fun _ => id

theorem Steady.trans (early : Steady first second) (late : Steady second third) :
    Steady first third :=
  fun dest timed => late dest (early dest timed)

theorem Keeps.steady {before after : State} (keeps : Keeps before after) : Steady before after :=
  fun dest timed => timed.kept (keeps dest)

theorem kept_setEntry {change : RtEntry → RtEntry}
    (keepsDest : ∀ rt, (change rt).destAddr = rt.destAddr) {dest : Addr}
    (different : other ≠ dest) (state : State) : Kept state (setEntry dest change state) other :=
  ⟨by rw [entryAt_setEntry keepsDest, if_neg different], rfl, id, id⟩

/-- A write that neither changes the state of a route nor takes a repair mark away. -/
theorem steady_setEntry {change : RtEntry → RtEntry} (cosmetic : Cosmetic change)
    (inland : ∀ rt, (change rt).flags.inetDest = rt.flags.inetDest)
    (marked : ∀ rt, rt.flags.repair = true → (change rt).flags.repair = true) (dest : Addr)
    (state : State) : Steady state (setEntry dest change state) := by
  intro other timed
  by_cases same : other = dest
  · subst same
    intro rt found
    rw [entryAt_setEntry cosmetic.dest, if_pos rfl] at found
    obtain ⟨old, oldFound, rfl⟩ := Option.map_eq_some_iff.mp found
    have oldTimed := timed old oldFound
    refine ⟨(inland old).trans oldTimed.inland, oldTimed.installed, fun valid => ?_, fun cause => ?_,
      fun invalid expires => ?_⟩
    · exact oldTimed.expires (cosmetic.state old ▸ valid)
    · exact oldTimed.armed (cosmetic.state old ▸ cause)
    · obtain ⟨repair, sought⟩ := oldTimed.repaired (cosmetic.state old ▸ invalid) expires
      exact ⟨marked old repair, sought⟩
  · exact timed.kept (kept_setEntry cosmetic.dest same state)

theorem Touch.steady {change : RtEntry → RtEntry} (touch : Touch change) (dest : Addr)
    (state : State) : Steady state (setEntry dest change state) :=
  steady_setEntry touch.toCosmetic (fun rt => by rw [touch.flags])
    (fun rt repair => by rwa [touch.flags]) dest state

/-- An entry whose timer has just been armed with another handler than the one that expires. -/
theorem timed_of_rearmed {state : State} {dest : Addr} {handler : Handler} {msec : Int}
    (inland : rt.flags.inetDest = false) (invalid : rt.state = .invalid)
    (known : handler = .routeDeleteTimeout ∨ handler = .localRepairTimeout) :
    Timed (setTimeout (.rtTimer dest) msec (setHandler (.rtTimer dest) handler state)) dest rt := by
  have installed : rtHandler (setTimeout (.rtTimer dest) msec
      (setHandler (.rtTimer dest) handler state)) dest = some handler := by
    rw [rtHandler_setTimeout, rtHandler_setHandler, if_pos rfl]
  have other : some handler ≠ some Handler.routeExpireTimeout := by
    rcases known with rfl | rfl <;> simp
  refine ⟨inland, ?_, fun valid => ?_, fun _ => ?_, fun _ expires => ?_⟩
  · rw [installed]
    exact .inr (known.imp (congrArg some) (congrArg some))
  · exact RouteState.noConfusion (invalid.symm.trans valid)
  · show ((timerSetTimeout _ _ _ _).timer _).used = true
    rw [timer_timerSetTimeout, if_pos rfl]
  · exact absurd (installed.symm.trans expires) other

theorem rtTimer_ne {dest : Addr} (different : other ≠ dest) :
    TimerId.rtTimer other ≠ .rtTimer dest := fun same => different (TimerId.rtTimer.inj same)

theorem kept_setHandler {dest : Addr} (different : other ≠ dest) (handler : Handler)
    (state : State) : Kept state (setHandler (.rtTimer dest) handler state) other :=
  kept_of_same_timer ((timer_timerSetHandler ..).trans (if_neg (rtTimer_ne different)))

theorem kept_removeEntryTimers {dest : Addr} (different : other ≠ dest) (state : State) :
    Kept state (removeEntryTimers dest state) other := by
  have removed : Kept state (removeTimer (.rtTimer dest) state) other :=
    kept_of_same_timer ((timer_timerRemove ..).trans (if_neg (rtTimer_ne different)))
  exact (removed.trans (keeps_removeTimer (fun _ => TimerId.noConfusion) _ other)).trans
    (keeps_removeTimer (fun _ => TimerId.noConfusion) _ other)

theorem kept_rearm {dest : Addr} (different : other ≠ dest) (handler : Handler) (msec : Int)
    (state : State) :
    Kept state (setTimeout (.rtTimer dest) msec (setHandler (.rtTimer dest) handler state)) other :=
  (kept_setHandler different handler state).trans (keeps_setTimeout _ _ _ other)

/-- A valid route that is invalidated is timed, whether its timer was armed or not. -/
theorem timedAt_rtTableInvalidate_self (config : Config) {dest : Addr} {state : State}
    (found : entryAt state dest = some rt) (valid : rt.state = .valid)
    (inland : rt.flags.inetDest = false) : TimedAt (rtTableInvalidate config dest state) dest := by
  intro new newFound
  rw [entryAt_rtTableInvalidate, if_pos rfl, found, Option.map_some] at newFound
  have retired : rt.retired = rt.invalidated := if_pos valid
  obtain rfl := Option.some.inj newFound
  obtain ⟨handler, msec, known, result⟩ := rtTableInvalidate_rearms config found valid
  rw [result, retired]
  exact timed_of_rearmed inland rfl known

theorem kept_rtTableInvalidate (config : Config) {dest : Addr} (different : other ≠ dest)
    (state : State) : Kept state (rtTableInvalidate config dest state) other := by
  by_cases valid : ValidAt state dest
  · obtain ⟨rt, found, isValid⟩ := valid
    obtain ⟨handler, msec, _, result⟩ := rtTableInvalidate_rearms config found isValid
    have retired := (kept_removeEntryTimers different state).trans
      (kept_setEntry gentle_invalidated.dest different _)
    have told : Kept (setEntry dest RtEntry.invalidated (removeEntryTimers dest state))
        (nlSendDelRouteMsg rt.destAddr rt.nextHop rt.hcnt
          (decrActive (setEntry dest RtEntry.invalidated (removeEntryTimers dest state)))) other :=
      ⟨rfl, rfl, id, id⟩
    rw [result]
    exact (retired.trans told).trans (kept_rearm different handler msec _)
  · rw [rtTableInvalidate_of_not_valid config fun rt found isValid => valid ⟨rt, found, isValid⟩]
    exact .refl _ _

theorem steady_rtTableInvalidate (config : Config) (dest : Addr) (state : State) :
    Steady state (rtTableInvalidate config dest state) := by
  intro other timed
  by_cases same : other = dest
  · subst same
    by_cases valid : ValidAt state other
    · obtain ⟨rt, found, isValid⟩ := valid
      exact timedAt_rtTableInvalidate_self config found isValid (timed rt found).inland
    · rwa [rtTableInvalidate_of_not_valid config fun rt found isValid => valid ⟨rt, found, isValid⟩]
  · exact timed.kept (kept_rtTableInvalidate config same state)

theorem BreakActs.steady {config : Config} {before after : State}
    (acts : BreakActs config before after) : Steady before after := by
  induction acts with
  | refl => exact .refl _
  | tail _ last inductionHypothesis =>
    refine inductionHypothesis.trans ?_
    cases last with
    | report act => exact act.aside.keeps.steady
    | rewrite dest cosmetic flags =>
      refine steady_setEntry cosmetic (fun rt => ?_) (fun rt repair => ?_) dest _
      · rcases flags rt with same | marked
        · rw [same]
        · rw [marked]
      · rcases flags rt with same | marked
        · rwa [same]
        · rw [marked]
    | invalidate dest => exact steady_rtTableInvalidate config dest _

theorem steady_rerrInvalidate (config : Config) (noDelete : Bool) (dest : Addr) (seqno : Seqno)
    (state : State) : Steady state (rerrInvalidate config noDelete dest seqno state) := by
  have retired : Steady state (if noDelete then state else rtTableInvalidate config dest state) := by
    split
    · exact .refl _
    · exact steady_rtTableInvalidate config dest state
  refine retired.trans fun other timed => ?_
  by_cases same : other = dest
  · subst same
    intro rt found
    rw [rerrInvalidate, entryAt_setEntry (gentle_setSeqno seqno).dest, if_pos rfl] at found
    obtain ⟨old, oldFound, rfl⟩ := Option.map_eq_some_iff.mp found
    have kept : Timed _ other old := timed old oldFound
    exact ⟨kept.inland, kept.installed, kept.expires, kept.armed, kept.repaired⟩
  · exact timed.kept (kept_setEntry (gentle_setSeqno seqno).dest same _)

theorem kept_rtTableDelete {dest : Addr} (different : other ≠ dest) (state : State) :
    Kept state (rtTableDelete dest state) other := by
  cases found : entryAt state dest with
  | none =>
    have unchanged : rtTableDelete dest state = state := by
      rw [rtTableDelete, found]
    rw [unchanged]
    exact .refl _ _
  | some rt =>
    have timers := timers_rtTableDelete found
    have removed := kept_removeEntryTimers different state
    refine ⟨by rw [entryAt_rtTableDelete, if_neg different], ?_, fun used => ?_, fun sought => ?_⟩
    · rw [rtHandler, timers]
      exact removed.handler
    · rw [timerUsed, timers]
      exact removed.used used
    · obtain ⟨_, result⟩ := rtTableDelete_of_some found
      rw [result]
      exact sought

theorem steady_rtTableDelete (dest : Addr) (state : State) :
    Steady state (rtTableDelete dest state) := by
  intro other timed
  by_cases same : other = dest
  · subst same
    intro rt found
    rw [entryAt_rtTableDelete, if_pos rfl] at found
    exact absurd found (by simp)
  · exact timed.kept (kept_rtTableDelete same state)

theorem kept_localRepairTimeout (config : Config) {dest : Addr} (different : other ≠ dest)
    (state : State) : Kept state (localRepairTimeout config dest state) other := by
  cases found : entryAt state dest with
  | none =>
    have unchanged : localRepairTimeout config dest state = state := by
      rw [localRepairTimeout, found]
    rw [unchanged]
    exact .refl _ _
  | some rt =>
    obtain ⟨reported, aside, result⟩ := localRepairTimeout_of_some config found
    have unmarked := kept_setEntry cosmetic_unmarkRepair.dest different state
    have told : Kept (setEntry dest RtEntry.unmarkRepair state) (nlSendDelRouteMsg dest rt.nextHop
        rt.hcnt (setEntry dest RtEntry.unmarkRepair state)) other := ⟨rfl, rfl, id, id⟩
    rw [result]
    exact (((unmarked.trans told).trans (aside.keeps other)).trans
      (kept_setEntry cosmetic_precursorListDestroy.dest different _)).trans
      (kept_rearm different _ _ _)

/-- A repair that failed arms the timer, and the route is timed unless it is valid. -/
theorem timedAt_localRepairTimeout_self (config : Config) {dest : Addr} {state : State}
    (inland : ∀ rt, entryAt state dest = some rt → rt.flags.inetDest = false)
    (invalid : ¬ ValidAt state dest) : TimedAt (localRepairTimeout config dest state) dest := by
  cases found : entryAt state dest with
  | none =>
    have unchanged : localRepairTimeout config dest state = state := by
      rw [localRepairTimeout, found]
    intro rt rtFound
    rw [unchanged, found] at rtFound
    exact absurd rtFound (by simp)
  | some rt =>
    have isInvalid : rt.state = .invalid := by
      cases routeState : rt.state with
      | invalid => rfl
      | valid => exact absurd ⟨rt, found, routeState⟩ invalid
    obtain ⟨reported, aside, result⟩ := localRepairTimeout_of_some config found
    have marked : entryAt reported dest = some rt.unmarkRepair := by
      rw [aside.entryAt]
      show entryAt (setEntry dest RtEntry.unmarkRepair state) dest = _
      rw [entryAt_setEntry cosmetic_unmarkRepair.dest, if_pos rfl, found, Option.map_some]
    intro new newFound
    rw [result] at newFound ⊢
    have written : entryAt (precursorListDestroy dest reported) dest =
        some rt.unmarkRepair.precursorListDestroy := by
      rw [precursorListDestroy, entryAt_setEntry gentle_precursorListDestroy.dest, if_pos rfl,
        marked, Option.map_some]
    obtain rfl := Option.some.inj (written.symm.trans newFound)
    exact timed_of_rearmed (inland rt found) isInvalid (.inl rfl)

/-! ### Inserting and updating -/

/-- A discovery may end for a route that is valid or not under repair. -/
theorem TimedAt.seekListRemove {state : State} {dest : Addr} (timed : TimedAt state other)
    (free : ∀ rt, entryAt state dest = some rt → rt.state = .valid ∨ rt.flags.repair = false) :
    TimedAt (Aodvd.seekListRemove dest state) other := by
  by_cases same : other = dest
  · subst same
    intro rt found
    have before := timed rt found
    have timer : (Aodvd.seekListRemove other state).timers.timer (.rtTimer other) =
        state.timers.timer (.rtTimer other) := (timer_timerRemove ..).trans (if_neg (by simp))
    have handler : rtHandler (Aodvd.seekListRemove other state) other = rtHandler state other := by
      rw [rtHandler, timer, rtHandler]
    refine ⟨before.inland, handler ▸ before.installed, handler ▸ before.expires, fun cause => ?_,
      fun invalid expires => ?_⟩
    · rw [timerUsed, timer]
      exact before.armed (handler ▸ cause)
    · have marked := (before.repaired invalid (handler ▸ expires)).1
      rcases free rt found with valid | unmarked
      · exact RouteState.noConfusion (valid.symm.trans invalid)
      · exact absurd (unmarked.symm.trans marked) Bool.false_ne_true
  · exact timed.kept (kept_seekListRemove same state)

/-- Released packets end a discovery, which a valid route does not need. -/
theorem steady_releaseBuffered (config : Config) {dest : Addr} {state : State}
    (found : entryAt state dest = some rt) (valid : rt.state = .valid) :
    Steady state (releaseBuffered config dest state) := by
  have removed : Steady state (seekListRemove dest state) := fun other timed => by
    refine timed.seekListRemove fun stored storedFound => .inl ?_
    obtain rfl := Option.some.inj (found.symm.trans storedFound)
    exact valid
  unfold releaseBuffered
  split
  · exact .refl _
  · cases sendFound : rtTableFind (seekListRemove dest state) dest with
    | none =>
      rw [packetQueueSend, sendFound]
      exact removed
    | some _ =>
      refine removed.trans
        (.trans (Keeps.steady ?_) (packetQueueSend_acts config sendFound).keeps.steady)
      exact keeps_detachPackets _ _ _ _

theorem keeps_comeUp (dest nextHop : Addr) (metric ifindex : Nat) (state : State) :
    Keeps state (nlSendAddRouteMsg dest nextHop metric ifindex (incrActive state)) :=
  fun _ => ⟨rfl, rfl, id, id⟩

theorem kept_attachEntry (different : other ≠ offer.dest) (state : State) :
    Kept state (attachEntry offer.entry state) other :=
  ⟨(entryAt_attachEntry ..).trans (if_neg (Ne.symm different)), rfl, id, id⟩

/-- The entry and the timers of another destination are not touched by an insertion. -/
theorem kept_insertRoute (config : Config) (different : other ≠ offer.dest) (state : State) :
    Kept state (insertRoute config offer state) other := by
  have field : (initTimer (.rtTimer offer.dest) .routeExpireTimeout state).timers.timer
      (.rtTimer other) = state.timers.timer (.rtTimer other) :=
    (timer_timerInit ..).trans (if_neg fun same => different (TimerId.rtTimer.inj same))
  have first : Kept state (initTimer (.rtTimer offer.dest) .routeExpireTimeout state) other := by
    refine ⟨rfl, by rw [rtHandler, field, rtHandler], fun used => ?_, id⟩
    rwa [timerUsed, field]
  have initialised := (first.trans
    (keeps_initTimer (routeless_ackTimer offer.dest) .rrepAckTimeout _ other)).trans
    (keeps_initTimer (routeless_helloTimer offer.dest) .helloTimeout _ other)
  have attached := initialised.trans (kept_attachEntry different _)
  unfold insertRoute
  dsimp only
  split
  · split
    · exact attached.trans (kept_rearm different _ _ _)
    · exact attached.trans (kept_rearm different _ _ _)
  · have told := attached.trans (keeps_comeUp offer.dest offer.next offer.hcnt offer.ifindex _ other)
    split
    · exact told
    · exact told.trans (keeps_setTimeout _ _ _ other)

/-- An entry whose timer is armed to expire it. -/
theorem timed_of_armed {state : State} {dest : Addr} (inland : rt.flags.inetDest = false)
    (valid : rt.state = .valid) (expires : rtHandler state dest = some .routeExpireTimeout)
    (used : timerUsed state (.rtTimer dest) = true) : Timed state dest rt :=
  ⟨inland, .inl expires, fun _ => expires, fun _ => used,
    fun invalid => RouteState.noConfusion (valid.symm.trans invalid)⟩

/-- A new route is timed unless it is valid and has no time to live. -/
theorem timed_insertRoute_self (config : Config) (offer : Offer) (state : State)
    (inland : offer.flags.inetDest = false) (lives : offer.state = .valid → offer.life ≠ 0) :
    Timed (insertRoute config offer state) offer.dest offer.entry := by
  unfold insertRoute
  dsimp only
  split
  · rename_i invalid
    split
    · exact timed_of_rearmed inland invalid (.inr rfl)
    · exact timed_of_rearmed inland invalid (.inl rfl)
  · rename_i notInvalid
    have valid : offer.state = .valid := by
      cases routeState : offer.state with
      | valid => rfl
      | invalid => exact absurd routeState notInvalid
    have expires : rtHandler (initTimer (.helloTimer offer.dest) .helloTimeout
        (initTimer (.ackTimer offer.dest) .rrepAckTimeout
          (initTimer (.rtTimer offer.dest) .routeExpireTimeout state))) offer.dest =
        some .routeExpireTimeout := by
      rw [rtHandler_initTimer, rtHandler_initTimer, rtHandler_initTimer, if_neg (by simp),
        if_neg (by simp), if_pos rfl]
    rw [if_neg (lives valid)]
    exact timed_of_armed inland valid ((rtHandler_setTimeout ..).trans expires)
      (timerUsed_setTimeout_self ..)

theorem entryAt_insertRoute_self (config : Config) (offer : Offer) (state : State) :
    entryAt (insertRoute config offer state) offer.dest = some offer.entry := by
  obtain ⟨timers, result⟩ := insertRoute_eq config offer state
  rw [entryAt, result]
  exact (entryAt_attachEntry offer.entry offer.dest state).trans (if_pos rfl)

theorem steady_rtTableInsert (config : Config) {state : State}
    (fresh : entryAt state offer.dest = none) (inland : offer.flags.inetDest = false)
    (lives : offer.state = .valid → offer.life ≠ 0) :
    Steady state (rtTableInsert config offer state).1 := by
  have here := entryAt_insertRoute_self config offer state
  have inserted : Steady state (insertRoute config offer state) := by
    intro other timed
    by_cases same : other = offer.dest
    · subst same
      intro rt found
      obtain rfl := Option.some.inj (here.symm.trans found)
      exact timed_insertRoute_self config offer state inland lives
    · exact timed.kept (kept_insertRoute config same state)
  rw [rtTableInsert_of_none config offer fresh]
  dsimp only
  split
  · rename_i valid
    exact inserted.trans (steady_releaseBuffered config here valid)
  · exact inserted

theorem timerUsed_rtTableUpdateTimeout {dest : Addr} {state : State}
    (found : entryAt state dest = some rt)
    (used : rt.state = .valid → timerUsed state (.rtTimer dest) = true) (lifetime : Nat) :
    timerUsed (rtTableUpdateTimeout dest lifetime state) (.rtTimer dest) = true := by
  unfold rtTableUpdateTimeout
  rw [found]
  dsimp only
  split
  · rename_i valid
    split
    · exact timerUsed_setTimeout_self ..
    · exact used valid
  · exact timerUsed_setTimeout_self ..

theorem steady_updateLinkBreak (config : Config) (rt : RtEntry) (offer : Offer) (state : State) :
    Steady state (updateLinkBreak config rt offer state) := by
  unfold updateLinkBreak
  split
  · refine .trans ?_ (neighborLinkBreak_acts config rt.destAddr _).steady
    refine .trans ?_ (keeps_removeTimer (routeless_helloTimer rt.destAddr) _).steady
    exact steady_setEntry cosmetic_forgetHellos (fun _ => rfl) (fun _ => id) rt.destAddr state
  · exact .refl _

theorem keeps_updateKernel (rt : RtEntry) (offer : Offer) (state : State) :
    Keeps state (updateKernel rt offer state) := by
  unfold updateKernel
  split
  · exact keeps_comeUp _ _ _ _ _
  · split
    · exact fun _ => ⟨rfl, rfl, id, id⟩
    · exact .refl _

theorem updateFlags_inetDest (rt : RtEntry) (offer : Offer) :
    (updateFlags rt offer).inetDest = offer.flags.inetDest := by
  unfold updateFlags
  split <;> rfl

/-- An update makes a route valid and arms its timer: a valid route whose deadline is later than
the new one keeps it, and any other deadline is written. -/
theorem steady_updateRoute (config : Config) {state : State}
    (found : entryAt state offer.dest = some rt) (valid : offer.state = .valid)
    (inland : offer.flags.inetDest = false) : Steady state (updateRoute config rt offer state) := by
  have broken := (keeps_updateKernel rt offer state).steady.trans
    (steady_updateLinkBreak config rt offer _)
  have flags : (updateFlags rt offer).inetDest = false := (updateFlags_inetDest rt offer).trans inland
  have adoptDest := (gentle_adopt (updateFlags rt offer) offer).dest
  have stateDest := (gentle_setState offer.state).dest
  intro other timed
  have current := broken other timed
  unfold updateRoute
  rw [entryAt_destAddr found]
  dsimp only
  rw [flags, if_neg Bool.false_ne_true]
  by_cases same : other = offer.dest
  · subst same
    intro new newFound
    rw [entryAt_setEntry stateDest, if_pos rfl] at newFound
    obtain ⟨adopted, adoptedFound, rfl⟩ := Option.map_eq_some_iff.mp newFound
    rw [entryAt, (rtTableUpdateTimeout_acts ..).rtTbl] at adoptedFound
    have written := entryAt_setEntry adoptDest offer.dest offer.dest
      (updateLinkBreak config rt offer (updateKernel rt offer state))
    rw [if_pos rfl] at written
    obtain ⟨old, oldFound, rfl⟩ := Option.map_eq_some_iff.mp (written.symm.trans adoptedFound)
    have used : timerUsed (rtTableUpdateTimeout offer.dest offer.life
        (setHandler (.rtTimer offer.dest) .routeExpireTimeout
          (setEntry offer.dest (RtEntry.adopt (updateFlags rt offer) offer)
            (updateLinkBreak config rt offer (updateKernel rt offer state)))))
        (.rtTimer offer.dest) = true := by
      refine timerUsed_rtTableUpdateTimeout adoptedFound (fun wasValid => ?_) offer.life
      have usedBefore := (current old oldFound).armed (.inl wasValid)
      show ((timerSetHandler _ _ _).timer _).used = true
      rw [timer_timerSetHandler, if_pos rfl]
      exact usedBefore
    refine timed_of_armed flags valid ?_ used
    show rtHandler (rtTableUpdateTimeout _ _ _) _ = _
    rw [rtHandler_rtTableUpdateTimeout, rtHandler_setHandler, if_pos rfl]
  · refine current.kept (.trans ?_ (kept_setEntry stateDest same _))
    refine .trans ?_ ((rtTableUpdateTimeout_acts ..).keeps other)
    exact (kept_setEntry adoptDest same _).trans (kept_setHandler same _ _)

theorem steady_rtTableUpdate (config : Config) {state : State} (sound : state.rtTbl.Sound)
    (found : entryAt state offer.dest = some rt) (valid : offer.state = .valid)
    (inland : offer.flags.inetDest = false) : Steady state (rtTableUpdate config offer state) := by
  have updated := steady_updateRoute config found valid inland
  obtain ⟨base, here, _⟩ := entryAt_rtTableUpdate_self config offer sound found
  rw [entryAt, rtTbl_rtTableUpdate config offer found] at here
  unfold rtTableUpdate
  rw [found]
  dsimp only
  rw [if_pos valid]
  exact updated.trans (steady_releaseBuffered config here valid)

/-! ### Actions of a control message -/

section

variable {config : Config} {event : Event} {origin before after : State}

/-- No route is inserted that is valid and has no time to live. -/
def InsertsLive (config : Config) (state : State) (event : Event) : Prop :=
  ∀ offer ∈ insertsOf config state event, offer.state = .valid → offer.life ≠ 0

instance (config : Config) (state : State) (event : Event) :
    Decidable (InsertsLive config state event) :=
  inferInstanceAs (Decidable (∀ offer ∈ _, _))

theorem RouteAct.timed (act : RouteAct config event origin before after)
    (sound : before.rtTbl.Sound) (other : event ≠ .timers) (live : InsertsLive config origin event)
    (timed : ∀ dest, TimedAt before dest) : ∀ dest, TimedAt after dest := by
  cases act with
  | touch dest touch => exact fun dest' => touch.steady dest before dest' (timed dest')
  | insert offer fresh cause =>
    exact fun dest => steady_rtTableInsert config fresh cause.offered.inetDest
      (live offer cause.listed) dest
      (timed dest)
  | update offer rt found cause =>
    have inland := cause.offered.inetDest.trans (timed offer.dest rt found).inland
    exact fun dest => steady_rtTableUpdate config sound found cause.valid inland dest (timed dest)
  | linkBreak dest =>
    exact fun other => (neighborLinkBreak_acts config dest before).steady other (timed other)
  | unidirBreak dest =>
    have marked : Steady before (setEntry dest RtEntry.markUnidir before) :=
      steady_setEntry cosmetic_markUnidir (fun _ => rfl) (fun _ => id) dest before
    exact fun dest' => marked.trans ((neighborLinkBreak_acts config dest _)).steady dest' (timed dest')
  | error received message dest seqno =>
    exact fun dest' => steady_rerrInvalidate config message.noDelete dest seqno before dest'
      (timed dest')
  | helloBreak dest rest batch due => exact absurd due other
  | expire dest rt found far due => exact absurd due other
  | delete dest handler due => exact absurd due other
  | repair dest rt found cause due => exact absurd due other

/-- A control message keeps routes timed if it inserts none without a time to live. -/
theorem Act.timed {received : Received}
    (act : Act config (.message received) origin before after) (sound : before.rtTbl.Sound)
    (live : InsertsLive config origin (.message received)) (timed : ∀ dest, TimedAt before dest) :
    ∀ dest, TimedAt after dest := by
  have keeps : Keeps before after → ∀ dest, TimedAt after dest :=
    fun keeps dest => keeps.steady dest (timed dest)
  cases act with
  | aside aside => exact keeps aside.keeps
  | timer act => exact keeps act.keeps
  | pop id rest batch calm due => exact Event.noConfusion due
  | record origAddr rreqId => exact keeps (keeps_rreqRecordInsert origAddr rreqId before)
  | forget => exact keeps (keeps_of_same rfl rfl rfl)
  | blacklist dest => exact keeps (keeps_rreqBlacklistInsert dest before)
  | pardon => exact keeps (keeps_of_same rfl rfl rfl)
  | send => exact keeps (aside_aodvSocketSend ..).keeps
  | route act => exact act.timed sound (by simp) live timed
  | undertake dest quiet => exact quiet.elim
  | hear dest msec => exact keeps (keeps_setTimeout _ msec before)
  | seek dest destSeqno ttl flags msec => exact keeps (keeps_seek dest destSeqno ttl flags msec before)
  | retry entry rest msec batch found due => exact Event.noConfusion due
  | giveUp entry rest batch found due => exact Event.noConfusion due
  | collect => exact keeps (keeps_detachPackets _ _ _ before)
  | log => exact keeps (keeps_setTimeout _ _ before)

end

/-! ### Data packets -/

theorem keeps_rreqSend (config : Config) (dest : Addr) (destSeqno : Seqno) (ttl : Nat)
    (flags : RreqFlags) (state : State) :
    Keeps state (rreqSend config dest destSeqno ttl flags state) :=
  (rreqSend_acts config (show Event.timers.Local from trivial) state dest destSeqno ttl flags
    state).2.keeps

theorem keeps_rreqRouteDiscovery (config : Config) (dest : Addr) (flags : RreqFlags)
    (state : State) : Keeps state (rreqRouteDiscovery config dest flags state) := by
  unfold rreqRouteDiscovery
  split
  · exact .refl _
  · dsimp only
    refine .trans ?_ (keeps_seek _ _ _ _ _ _)
    refine .trans ?_ (keeps_rreqSend _ _ _ _ _ _)
    split
    · exact .refl _
    · exact (keepForDiscovery_acts ..).keeps

/-- A route under repair may wait for its expiry once a discovery for it is running. -/
theorem timed_of_undertaken {state final : State} (found : entryAt state rt.destAddr = some rt)
    (repair : rt.flags.repair = true)
    (later : Keeps (setHandler (.rtTimer rt.destAddr) .routeExpireTimeout state) final)
    (sought : Sought final rt.destAddr) (timed : ∀ dest, TimedAt state dest) :
    ∀ dest, TimedAt final dest := by
  intro dest
  by_cases same : dest = rt.destAddr
  · subst same
    have handler := rtHandler_setHandler rt.destAddr rt.destAddr .routeExpireTimeout state
    rw [if_pos rfl] at handler
    have kept := later rt.destAddr
    have expires := kept.handler.trans handler
    have before := timed rt.destAddr rt found
    intro stored storedFound
    rw [kept.entry] at storedFound
    obtain rfl := Option.some.inj (found.symm.trans storedFound)
    refine ⟨before.inland, .inl expires, fun _ => expires, fun cause => kept.used ?_,
      fun _ _ => ⟨repair, sought⟩⟩
    show ((timerSetHandler _ _ _).timer _).used = true
    rw [timer_timerSetHandler, if_pos rfl]
    exact before.armed (.inl (cause.resolve_right fun other => other expires))
  · exact ((timed dest).kept (kept_setHandler same _ _)).kept (later dest)

/-- A repair takes the handler of the route over and starts a discovery. -/
theorem timed_rreqLocalRepair (config : Config) {state : State}
    (found : entryAt state rt.destAddr = some rt) (srcAddr : Addr)
    (timed : ∀ dest, TimedAt state dest) :
    ∀ dest, TimedAt (rreqLocalRepair config rt srcAddr state) dest := by
  unfold rreqLocalRepair
  split
  · exact timed
  · split
    · rename_i repair
      refine timed_of_undertaken found repair ?_ ⟨_, List.mem_cons_self, rfl⟩ timed
      exact ((keepForDiscovery_acts ..).keeps.trans (keeps_rreqSend _ _ _ _ _ _)).trans
        (keeps_seek _ _ _ _ _ _)
    · exact timed

theorem keeps_sendRerrForUnknownDest (config : Config) (destAddr : Addr)
    (fwdRt revRt : Option RtEntry) (ifindex : Nat) (state : State) :
    Keeps state (sendRerrForUnknownDest config destAddr fwdRt revRt ifindex state) := by
  obtain ⟨created, dst, timed, waits⟩ :=
    sendRerrForUnknownDest_eq config destAddr fwdRt revRt ifindex state
  refine .trans (.trans (.trans ?_ timed.keeps) (aside_aodvSocketSend ..).keeps) waits.keeps
  exact fun _ => ⟨rfl, rfl, id, id⟩

theorem timed_packetInputRoute (config : Config) (packet : NfPacket) (ip : IpPacket) {state : State}
    (sound : state.rtTbl.Sound) (timed : ∀ dest, TimedAt state dest) :
    ∀ dest, TimedAt (packetInputRoute config packet ip state).1 dest := by
  have refreshed := (rtTableUpdateRouteTimeouts_acts config (rtTableFind state ip.daddr)
    (rtTableFind state ip.saddr) state)
  have current : ∀ dest, TimedAt _ dest := fun dest => refreshed.keeps.steady dest (timed dest)
  unfold packetInputRoute
  dsimp only
  split
  · split
    · exact fun dest => (keeps_sendRerrForUnknownDest _ _ _ _ _ _).steady dest (current dest)
    · have buffered : ∀ dest, TimedAt (packetQueueAdd packet.packetId ip.daddr
          (rtTableUpdateRouteTimeouts config (rtTableFind state ip.daddr)
            (rtTableFind state ip.saddr) state)) dest := fun dest =>
        (keeps_packetQueueAdd _ _ _).steady dest (current dest)
      unfold seekRoute
      split
      · rename_i rt fwdFound
        split
        · refine timed_rreqLocalRepair config ?_ ip.saddr buffered
          rw [rtTableFind_eq_entryAt sound] at fwdFound
          rw [entryAt, rtTbl_packetQueueAdd, refreshed.rtTbl, entryAt_destAddr fwdFound]
          exact fwdFound
        · exact fun dest => (keeps_rreqRouteDiscovery _ _ _ _).steady dest (buffered dest)
      · exact fun dest => (keeps_rreqRouteDiscovery _ _ _ _).steady dest (buffered dest)
  · exact current

theorem kept_nfqueueSetPacketVerdict (packetId : BitVec 32) (verdict : NfVerdict)
    (cause : VerdictCause) (state : State) (dest : Addr) :
    Kept state (nfqueueSetPacketVerdict packetId verdict cause state) dest :=
  ⟨rfl, rfl, id, id⟩

theorem timed_nfqueuePacketCb (config : Config) (packet : NfPacket) {state : State}
    (sound : state.rtTbl.Sound) (timed : ∀ dest, TimedAt state dest) :
    ∀ dest, TimedAt (nfqueuePacketCb config packet state) dest := by
  have delivered : ∀ dest, TimedAt (deliver packet state) dest := fun dest =>
    (keeps_of_same rfl rfl rfl : Keeps state (deliver packet state)).steady dest (timed dest)
  refine nfqueuePacketCb_of_handled (motive := fun state => ∀ dest, TimedAt state dest) ?_
    fun _ _ _ handled dest => (handled dest).kept (kept_nfqueueSetPacketVerdict ..)
  exact packetInputHandlePacket_cases (motive := fun state => ∀ dest, TimedAt state dest) delivered
    fun ip => timed_packetInputRoute config packet ip
      (show (deliver packet state).rtTbl.Sound from sound) delivered

/-! ### Expired timers -/

theorem keeps_helloSend (config : Config) (state : State) :
    Keeps state (helloSend config state) := by
  unfold helloSend
  split
  · exact keeps_removeTimer (fun _ => TimerId.noConfusion) state
  · dsimp only
    split
    · exact (aside_helloSendAll config state).keeps.trans (keeps_setTimeout _ _ _)
    · split
      · exact keeps_setTimeout _ _ _
      · exact keeps_setTimeout _ _ _

section

variable {config : Config} {state : State} {dest : Addr} {rest : List TimerId}

/-- The route whose timer has expired is invalidated, or it was invalid and is being sought. -/
theorem timed_expired (config : Config) (timed : ∀ dest, TimedAt state dest)
    (expires : rtHandler state dest = some .routeExpireTimeout) (rest : List TimerId) :
    ∀ other, TimedAt (rtTableInvalidate config dest (popTimer (.rtTimer dest) rest state)) other := by
  intro other
  by_cases same : other = dest
  · subst same
    by_cases valid : ValidAt state other
    · obtain ⟨rt, found, isValid⟩ := valid
      exact timedAt_rtTableInvalidate_self config found isValid (timed other rt found).inland
    · have unchanged : rtTableInvalidate config other (popTimer (.rtTimer other) rest state) =
          popTimer (.rtTimer other) rest state :=
        rtTableInvalidate_of_not_valid config fun rt found isValid => valid ⟨rt, found, isValid⟩
      have handler : rtHandler (popTimer (.rtTimer other) rest state) other =
          some .routeExpireTimeout := by
        show ((timerPop _ _ _).timer _).handler = _
        rw [timer_timerPop, if_pos rfl]
        exact expires
      intro rt found
      rw [unchanged] at found ⊢
      have before := timed other rt found
      have invalid : rt.state ≠ .valid := fun isValid => valid ⟨rt, found, isValid⟩
      refine ⟨before.inland, .inl handler, fun _ => handler, fun cause => ?_,
        fun isInvalid _ => before.repaired isInvalid expires⟩
      rcases cause with isValid | different
      · exact absurd isValid invalid
      · exact absurd handler different
  · exact ((timed other).kept (kept_popTimer (rtTimer_ne same) rest state)).kept
      (kept_rtTableInvalidate config same _)

theorem timed_routeExpireTimeout (timed : ∀ dest, TimedAt state dest)
    (expires : rtHandler state dest = some .routeExpireTimeout) (rest : List TimerId) :
    ∀ other, TimedAt (routeExpireTimeout config dest (popTimer (.rtTimer dest) rest state)) other := by
  have invalidated := timed_expired config timed expires rest
  unfold routeExpireTimeout
  split
  · rename_i missing
    have unchanged : rtTableInvalidate config dest (popTimer (.rtTimer dest) rest state) =
        popTimer (.rtTimer dest) rest state :=
      rtTableInvalidate_of_not_valid config fun rt found =>
        absurd (missing.symm.trans found) (by simp)
    rwa [unchanged] at invalidated
  · rename_i rt found
    split
    · rename_i near
      exact fun other => (neighborLinkBreak_acts_of_near config found near).steady other
        (invalidated other)
    · exact fun other => touch_precursorListDestroy.steady dest _ other (invalidated other)

theorem timed_routeDeleteTimeout (timed : ∀ dest, TimedAt state dest) (rest : List TimerId) :
    ∀ other, TimedAt (rtTableDelete dest (popTimer (.rtTimer dest) rest state)) other := by
  intro other
  by_cases same : other = dest
  · subst same
    intro rt found
    rw [entryAt_rtTableDelete, if_pos rfl] at found
    exact absurd found (by simp)
  · exact steady_rtTableDelete dest _ other
      ((timed other).kept (kept_popTimer (rtTimer_ne same) rest state))

theorem timed_localRepairTimeout (timed : ∀ dest, TimedAt state dest)
    (handler : rtHandler state dest = some .localRepairTimeout) (rest : List TimerId) :
    ∀ other, TimedAt (localRepairTimeout config dest (popTimer (.rtTimer dest) rest state)) other := by
  intro other
  by_cases same : other = dest
  · subst same
    refine timedAt_localRepairTimeout_self config (fun rt found => (timed other rt found).inland) ?_
    rintro ⟨rt, found, valid⟩
    have expires := (timed other rt found).expires valid
    exact Handler.noConfusion (Option.some.inj (expires.symm.trans handler))
  · exact ((timed other).kept (kept_popTimer (rtTimer_ne same) rest state)).kept
      (kept_localRepairTimeout config same _)

/-- A discovery that is given up leaves a route that is deleted. -/
theorem timed_discoveryGiveUp (sound : state.rtTbl.Sound) {entry : SeekEntry}
    (timed : ∀ dest, TimedAt state dest)
    (unmarked : ∀ rt, entryAt state entry.destAddr = some rt → rt.state = .valid →
      rt.flags.repair = false) :
    ∀ other, TimedAt (discoveryGiveUp config entry state) other := by
  have dropped : ∀ other, TimedAt (packetQueueDrop entry.destAddr state) other := fun other =>
    (keeps_detachPackets _ _ _ _ : Keeps state (packetQueueDrop entry.destAddr state)).steady other
      (timed other)
  have dropSound : (packetQueueDrop entry.destAddr state).rtTbl.Sound := sound
  unfold discoveryGiveUp
  dsimp only
  rw [rtTableFind_eq_entryAt dropSound]
  split
  · rename_i missing
    exact fun other => (dropped other).seekListRemove fun rt found =>
      absurd (missing.symm.trans found) (by simp)
  · rename_i rt found
    have here : entryAt state entry.destAddr = some rt := found
    rw [entryAt_destAddr here]
    split
    · rename_i repair
      intro other
      by_cases same : other = entry.destAddr
      · subst same
        refine timedAt_localRepairTimeout_self config (fun rt found => ?_) ?_
        · exact (timed entry.destAddr rt found).inland
        · rintro ⟨stored, storedFound, valid⟩
          obtain rfl := Option.some.inj (here.symm.trans storedFound)
          exact absurd (repair.symm.trans (unmarked rt here valid)) (by simp)
      · exact ((dropped other).kept (kept_seekListRemove same _)).kept
          (kept_localRepairTimeout config same _)
    · rename_i notRepair
      refine fun other => (dropped other).seekListRemove fun stored storedFound => .inr ?_
      obtain rfl := Option.some.inj (found.symm.trans storedFound)
      exact Bool.eq_false_iff.mpr notRepair

theorem keeps_discoveryRetry (config : Config) (entry : SeekEntry) (state : State) :
    Keeps state (discoveryRetry config entry state) := by
  have retried : Keeps state (setTimeout (.seekTimer entry.destAddr)
      (seekWait config (seekRetry config entry))
      (setSeekEntry entry.destAddr (seekRetry config) state)) :=
    (keeps_setSeekEntry (seekRetry_destAddr config) entry.destAddr state).trans
      (keeps_setTimeout _ _ _)
  unfold discoveryRetry
  dsimp only
  refine .trans ?_ (keeps_rreqSend _ _ _ _ _ _)
  split
  · exact retried
  · exact retried.trans (keepForDiscovery_acts ..).keeps

/-- The handler of an expired timer keeps routes timed, unless it gives up the discovery of a
valid route that is marked for repair. -/
theorem RunsHandler.timed {final : State} (sound : state.rtTbl.Sound) {handler : Handler}
    (runs : RunsHandler config (popTimer id rest state) id handler final)
    (timed : ∀ dest, TimedAt state dest)
    (installed : (state.timers.timer id).handler = some handler)
    (unmarked : ∀ dest rt, id = .seekTimer dest → entryAt state dest = some rt →
      rt.state = .valid → rt.flags.repair = false) :
    ∀ other, TimedAt final other := by
  have popped : id.Routeless → ∀ other, TimedAt (popTimer id rest state) other :=
    fun routeless other => (timed other).kept (kept_popTimer (routeless other) rest state)
  have after : id.Routeless → ∀ final, Steady (popTimer id rest state) final →
      ∀ other, TimedAt final other :=
    fun routeless _ steady other => steady other (popped routeless other)
  cases runs with
  | expire dest => exact timed_routeExpireTimeout timed installed rest
  | delete dest => exact timed_routeDeleteTimeout timed rest
  | repair dest => exact timed_localRepairTimeout timed installed rest
  | blacklist dest =>
    exact after (routeless_ackTimer dest) _ (keeps_rreqBlacklistInsert dest _).steady
  | hello dest => exact after (routeless_helloTimer dest) _ (helloTimeout_breaks config dest _).steady
  | discovery dest =>
    have routeless := routeless_seekTimer dest
    unfold routeDiscoveryTimeout
    split
    · exact popped routeless
    · rename_i entry found
      split
      · exact after routeless _ (keeps_discoveryRetry config entry _).steady
      · have poppedSound : (popTimer (.seekTimer dest) rest state).rtTbl.Sound := sound
        refine timed_discoveryGiveUp poppedSound (popped routeless) fun rt rtFound valid => ?_
        rw [(seekListFind_some found).2] at rtFound
        exact unmarked dest rt rfl rtFound valid
  | collect =>
    exact after (fun _ => TimerId.noConfusion) _
      ((keeps_detachPackets _ _ _ _).trans (keeps_setTimeout _ _ _)).steady
  | greet => exact after (fun _ => TimerId.noConfusion) _ (keeps_helloSend config _).steady
  | log => exact after (fun _ => TimerId.noConfusion) _ (keeps_setTimeout _ _ _).steady
  | idle _ _ unrouted =>
    intro other
    by_cases routed : id = .rtTimer other
    · subst routed
      intro rt found
      have known : rtHandler state other = _ ∨ rtHandler state other = _ ∨
        rtHandler state other = _ := (timed other rt found).installed
      rw [rtHandler, installed] at known
      simp [unrouted other rfl] at known
    · exact (timed other).kept (kept_popTimer (Ne.symm routed) rest state)
  | _ => exact after (fun _ => TimerId.noConfusion) _ (Keeps.steady fun _ => ⟨rfl, rfl, id, id⟩)

end

/-- The event may give up the discovery of a valid route that is marked for repair, or whose
HELLO timer expires in the same batch so that it may be marked first. -/
def AbandonsValid (config : Config) (state : State) (event : Event) : Prop :=
  event = .timers ∧ ∃ rt ∈ rtEntries state, rt.state = .valid ∧
    .seekTimer rt.destAddr ∈ (gather state).timers.expTq ∧
    (rt.flags.repair = true ∨
      config.localRepair = true ∧ .helloTimer rt.destAddr ∈ (gather state).timers.expTq)

instance (config : Config) (state : State) (event : Event) :
    Decidable (AbandonsValid config state event) :=
  inferInstanceAs (Decidable (_ ∧ _))

/-- Within a batch, a valid route was valid when the batch was collected, and it is marked for
repair since then or because its HELLO timer has expired. -/
structure Aging (config : Config) (origin state : State) : Prop where
  expired : state.timers.expTq.Sublist (gather origin).timers.expTq
  marks : ∀ dest rt, entryAt state dest = some rt → rt.state = .valid →
    ∃ old, entryAt origin dest = some old ∧ old.state = .valid ∧
      (rt.flags.repair = true → old.flags.repair = true ∨
        config.localRepair = true ∧ .helloTimer dest ∈ (gather origin).timers.expTq)

section

variable {config : Config} {origin state before after : State}

theorem Act.aging (act : Act config .timers origin before after) (sound : before.rtTbl.Sound)
    (aging : Aging config origin before) : Aging config origin after := by
  refine ⟨act.clockStep.batch.trans aging.expired, fun dest rt found valid => ?_⟩
  have change := act.entryChange sound dest
  rw [found] at change
  generalize entry : entryAt before dest = old at change
  cases change with
  | keep same =>
    obtain ⟨first, firstFound, firstValid, marks⟩ := aging.marks dest _ entry (same.state ▸ valid)
    exact ⟨first, firstFound, firstValid, fun repair => marks (same.flags ▸ repair)⟩
  | mark same _ repair =>
    obtain ⟨first, firstFound, firstValid, marks⟩ := aging.marks dest _ entry (same.state ▸ valid)
    refine ⟨first, firstFound, firstValid, fun marked => ?_⟩
    rcases repair marked with earlier | lost
    · exact marks earlier
    · obtain ⟨rest, batch⟩ := lost.batch
      exact .inr ⟨lost.repairs, aging.expired.subset (batch ▸ List.mem_cons_self)⟩
  | insert offer _ cause =>
    obtain ⟨received, arrives⟩ := cause.offered.arrives
    exact Event.noConfusion arrives.event
  | update offer _ cause =>
    obtain ⟨received, arrives⟩ := cause.offered.arrives
    exact Event.noConfusion arrives.event
  | retire retired _ => exact RouteState.noConfusion (retired.invalid.symm.trans valid)
  | error received message seqno handles => exact Event.noConfusion handles.event

theorem aging_gather (origin : State) : Aging config origin (gather origin) where
  expired := List.Sublist.refl _
  marks _ rt found valid := ⟨rt, found, valid, .inl⟩

theorem timed_runTimer {rest : List TimerId} (sound : origin.rtTbl.Sound)
    (regular : Regular config state) (batch : state.timers.expTq = id :: rest)
    (safe : ¬ AbandonsValid config origin .timers) (aging : Aging config origin state)
    (timed : ∀ dest, TimedAt state dest) : ∀ dest, TimedAt (runTimer config id rest state) dest := by
  refine runTimer_cases (motive := fun final => ∀ dest, TimedAt final dest) (fun missing dest => ?_)
    fun handler final installed runs => ?_
  · by_cases same : id = .rtTimer dest
    · subst same
      intro rt found
      have known := (timed dest rt found).installed
      rw [rtHandler, missing] at known
      simp at known
    · exact (timed dest).kept (kept_popTimer (Ne.symm same) rest state)
  · refine runs.timed regular.sound timed installed fun dest rt is found valid => ?_
    refine Bool.eq_false_iff.mpr fun repair => safe ⟨rfl, ?_⟩
    obtain ⟨old, oldFound, oldValid, marks⟩ := aging.marks dest rt found valid
    obtain ⟨member, rfl⟩ := sound.entryAt_eq_some_iff.mp oldFound
    refine ⟨old, member, oldValid, aging.expired.subset ?_, marks repair⟩
    rw [batch, is]
    exact List.mem_cons_self

theorem timed_runBatch (sound : origin.rtTbl.Sound) (safe : ¬ AbandonsValid config origin .timers)
    (fuel : Nat) (regular : Regular config state) (clocked : Clocked state)
    (aging : Aging config origin state) (timed : ∀ dest, TimedAt state dest) :
    ∀ dest, TimedAt (runBatch config fuel state) dest := by
  refine (runBatch_invariant (motive := fun state =>
    Aging config origin state ∧ ∀ dest, TimedAt state dest) ?_ fuel regular clocked ⟨aging, timed⟩).2
  rintro state id rest regular clocked batch ⟨aging, timed⟩
  have acts : Acts config .timers origin state (runTimer config id rest state) :=
    (runTimer_fires regular clocked batch).acts
  exact ⟨acts.invariant (Aging config origin) regular
    (fun _ _ regular act => act.aging regular.sound) aging,
    timed_runTimer sound regular batch safe aging timed⟩

end

/-! ### Runs -/

/-- The event inserts no valid route without a time to live, and does not give up the discovery
of a valid route under repair. -/
def KeepsTimed (config : Config) (state : State) (input : Input) : Prop :=
  InsertsLive config (arrive input state) input.event ∧
    ¬ AbandonsValid config (arrive input state) input.event

instance (config : Config) (state : State) (input : Input) :
    Decidable (KeepsTimed config state input) :=
  inferInstanceAs (Decidable (_ ∧ _))

theorem timed_step {config : Config} {state : State} (atRest : AtRest config state) (input : Input)
    (keeps : KeepsTimed config state input) (timed : ∀ dest, TimedAt state dest) :
    ∀ dest, TimedAt (step config state input) dest := by
  have arrived : ∀ dest, TimedAt (arrive input state) dest :=
    fun dest => (timed dest).kept ⟨rfl, rfl, id, id⟩
  have resting := atRest.arrive input
  obtain ⟨live, safe⟩ := keeps
  have handled := step_handled atRest input
  show ∀ dest, TimedAt (handleEvent config input.event (arrive input state)) dest
  change Handled config (arrive input state) input.event
    (handleEvent config input.event (arrive input state)) at handled
  generalize input.event = event at live safe handled ⊢
  cases event with
  | timers =>
    exact timed_runBatch resting.sound safe _ (resting.toRegular.of_rtTbl rfl) resting.gather
      (aging_gather _) fun dest => (arrived dest).kept ⟨rfl, rfl, id, id⟩
  | message received =>
    cases handled with
    | message _ acts =>
      exact acts.invariant (fun current => ∀ dest, TimedAt current dest) resting.toRegular
        (fun _ _ regular act timed => act.timed regular.sound live timed) arrived
  | packet packet => exact timed_nfqueuePacketCb config packet resting.sound arrived
  | txDrop ip =>
    rw [handleEvent]
    split
    · exact arrived
    · exact fun dest => (neighborLinkBreak_acts config _ _).steady dest (arrived dest)

/-- In every run that inserts no valid route with a lifetime of zero and never gives up the
discovery of a valid route under repair, every valid route waits in the timer queue for its
expiry, and every invalid one waits there or is being sought. -/
theorem run_timed (config : Config) (now : Timeval) (jitter : Int) (inputs : List Input)
    (meets : Runs.Meets (step config) (KeepsTimed config) (boot config now jitter) inputs) :
    ∀ rt ∈ rtEntries (run config now jitter inputs),
      (rt.state = .valid →
        .rtTimer rt.destAddr ∈ (run config now jitter inputs).timers.tq ∧
        rtHandler (run config now jitter inputs) rt.destAddr = some .routeExpireTimeout) ∧
      (rt.state = .invalid →
        .rtTimer rt.destAddr ∈ (run config now jitter inputs).timers.tq ∨
        Sought (run config now jitter inputs) rt.destAddr) := by
  have timed : ∀ dest, TimedAt (run config now jitter inputs) dest :=
    run_invariant (fun state => ∀ dest, TimedAt state dest)
      (fun dest rt found => absurd ((entryAt_boot ..).symm.trans found) (by simp))
      (fun _ input atRest keeps => timed_step atRest input keeps) meets
  have atRest := atRest_run config now jitter inputs
  intro rt member
  have found := atRest.sound.entryAt_eq_some_iff.mpr ⟨member, rfl⟩
  have here := timed rt.destAddr rt found
  have queued : timerUsed (run config now jitter inputs) (.rtTimer rt.destAddr) = true →
      .rtTimer rt.destAddr ∈ (run config now jitter inputs).timers.tq := by
    intro used
    have linked := (atRest.clocked.linked.used _).mp used
    rwa [atRest.idle, List.append_nil] at linked
  refine ⟨fun valid => ⟨queued (here.armed (.inl valid)), here.expires valid⟩, fun invalid => ?_⟩
  by_cases expires : rtHandler (run config now jitter inputs) rt.destAddr =
      some .routeExpireTimeout
  · exact .inr (here.repaired invalid expires).2
  · exact .inl (queued (here.armed (.inr expires)))

/-- A neighbour answers about 5, and its own entry then expires, which breaks the route over
it. -/
def answeredRoute : List Input :=
  [inputAt 16000 (rrepFrom 2#32 5#32 1#32 1), inputAt 20000 .timers]

theorem run_timed_answered :
    ((rtEntries (run loneConfig timevalZero 0 answeredRoute)).map RtEntry.destAddr).Perm
        [2#32, 5#32] ∧
      ∀ rt ∈ rtEntries (run loneConfig timevalZero 0 answeredRoute),
        (rt.state = .valid →
          .rtTimer rt.destAddr ∈ (run loneConfig timevalZero 0 answeredRoute).timers.tq ∧
          rtHandler (run loneConfig timevalZero 0 answeredRoute) rt.destAddr =
            some .routeExpireTimeout) ∧
        (rt.state = .invalid →
          .rtTimer rt.destAddr ∈ (run loneConfig timevalZero 0 answeredRoute).timers.tq ∨
          Sought (run loneConfig timevalZero 0 answeredRoute) rt.destAddr) :=
  ⟨by decide +kernel, run_timed loneConfig timevalZero 0 answeredRoute (by decide +kernel)⟩

/-- A RREP about 5 whose lifetime is zero. -/
def lifelessReply : Event :=
  .message ⟨.rrep ⟨false, false, 1, 5#32, 1#32, 1#32, 0, []⟩, rrepSize, 2#32, 1#32, 5, 1⟩

/-- Both options that mark routes are on. -/
def repairConfig : Config := { loneConfig with unidirHack := true, localRepair := true }

/-- The neighbour 2 becomes a route of several hops and is marked for repair when its HELLO timer
expires; it is a neighbour again, behind a link that is unidirectional, so a packet starts a
discovery for it, which finds nothing. -/
def abandonedRepair : List Input :=
  [inputAt 16000 (.message ⟨.rerr ⟨false, 0, []⟩, 4, 2#32, 1#32, 1, 1⟩),
    inputAt 16100 (rreqFrom 4#32 2#32 10#32 2 9#32), inputAt 16200 (helloFrom 2#32 5#32),
    inputAt 18300 .timers, inputAt 18400 (.message ⟨.rerr ⟨false, 0, []⟩, 4, 2#32, 1#32, 1, 1⟩),
    inputAt 18500 (helloFrom 2#32 5#32), inputAt 18600 (packetTo 3#32 2#32)] ++
  (List.range 20).map fun round => inputAt (18700 + 900 * round) .timers

/-- A valid route without a timer, and a valid route that waits for its deletion. -/
theorem run_untimed :
    (∃ rt ∈ rtEntries (run loneConfig timevalZero 0 [inputAt 16000 lifelessReply]),
      rt.state = .valid ∧
      .rtTimer rt.destAddr ∉ (run loneConfig timevalZero 0 [inputAt 16000 lifelessReply]).timers.tq) ∧
    ∃ rt ∈ rtEntries (run repairConfig timevalZero 0 abandonedRepair), rt.state = .valid ∧
      rtHandler (run repairConfig timevalZero 0 abandonedRepair) rt.destAddr =
        some .routeDeleteTimeout := by
  constructor <;> decide +kernel

end Aodvd
