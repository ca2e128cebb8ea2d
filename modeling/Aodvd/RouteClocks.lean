/-
This file follows the timers of routes.

A valid route expires: the handler of its timer is `route_expire_timeout`, or was left
alone since the route became valid. And only a HELLO takes a HELLO timer into use. Both
are kept by the operations on the routing tables, except that a failed local repair has
the route deleted later, whatever its state is.
-/

import Aodvd.EntryChanges

namespace Aodvd

variable {first second : State} {offer : Offer} {rt : RtEntry} (state : State) (id : TimerId)
  (dest : Addr)

/-- Every route that is valid afterwards expires, or was valid before and keeps its handler; and
no HELLO timer is taken into use. -/
structure RouteClock (before after : State) : Prop where
  expires : ∀ dest, ValidAt after dest → rtHandler after dest = some .routeExpireTimeout ∨
    ValidAt before dest ∧ rtHandler after dest = rtHandler before dest
  heard : ∀ dest, timerUsed after (.helloTimer dest) = true →
    timerUsed before (.helloTimer dest) = true

theorem RouteClock.refl : RouteClock state state :=
  ⟨fun _ valid => .inr ⟨valid, rfl⟩, fun _ => id⟩

theorem RouteClock.trans {third : State} (early : RouteClock first second)
    (late : RouteClock second third) : RouteClock first third := by
  refine ⟨fun dest valid => ?_, fun dest used => early.heard dest (late.heard dest used)⟩
  rcases late.expires dest valid with expires | ⟨validBefore, same⟩
  · exact .inl expires
  · rcases early.expires dest validBefore with expires | ⟨validFirst, sameFirst⟩
    · exact .inl (same.trans expires)
    · exact .inr ⟨validFirst, same.trans sameFirst⟩

/-! ### Steps -/

/-- The timers stay, and a route becomes valid only where it expires. -/
theorem routeClock_of_timers {before after : State} (timers : after.timers = before.timers)
    (valid : ∀ dest, ValidAt after dest →
      rtHandler before dest = some .routeExpireTimeout ∨ ValidAt before dest) :
    RouteClock before after := by
  have handlers : rtHandler after = rtHandler before := by
    funext dest
    rw [rtHandler, rtHandler, timers]
  refine ⟨fun dest validAfter => ?_, fun dest used => ?_⟩
  · rw [handlers]
    exact (valid dest validAfter).imp_right fun validBefore => ⟨validBefore, rfl⟩
  · rwa [timerUsed, ← timers]

theorem routeClock_of_same {before after : State} (timers : after.timers = before.timers)
    (tbl : after.rtTbl.tbl = before.rtTbl.tbl) : RouteClock before after :=
  routeClock_of_timers timers fun dest valid => .inr (by rwa [ValidAt, entryAt, ← tbl])

theorem Aside.routeClock {before after : State} (aside : Aside before after) :
    RouteClock before after :=
  routeClock_of_same aside.timers (congrArg RoutingTable.tbl aside.rtTbl)

theorem routeClock_setTimeout (notHello : ∀ dest, id ≠ .helloTimer dest) (msec : Int) :
    RouteClock state (setTimeout id msec state) := by
  refine ⟨fun dest valid => .inr ⟨valid, rtHandler_setTimeout ..⟩, fun dest used => ?_⟩
  · have field : (setTimeout id msec state).timers.timer (.helloTimer dest) =
        state.timers.timer (.helloTimer dest) :=
      (timer_timerSetTimeout ..).trans (if_neg (Ne.symm (notHello dest)))
    rwa [timerUsed, field] at used

theorem routeClock_removeTimer : RouteClock state (removeTimer id state) := by
  refine ⟨fun dest valid => .inr ⟨valid, ?_⟩, fun dest used => ?_⟩
  · show ((timerRemove _ _).timer _).handler = _
    rw [timer_timerRemove]
    split
    · rename_i same
      rw [rtHandler, same]
    · rfl
  · exact ((timerUsed_removeTimer id (.helloTimer dest) state).mp used).2

theorem routeClock_popTimer (rest : List TimerId) : RouteClock state (popTimer id rest state) := by
  refine ⟨fun dest valid => .inr ⟨valid, ?_⟩, fun dest used => ?_⟩
  · show ((timerPop _ _ _).timer _).handler = _
    rw [timer_timerPop]
    split
    · rename_i same
      rw [rtHandler, same]
    · rfl
  · have field := timer_timerPop id (.helloTimer dest) rest state.timers
    rw [timerUsed, show (popTimer id rest state).timers.timer _ = _ from field] at used
    split at used
    · exact absurd used Bool.false_ne_true
    · exact used

/-- The timer of a route gets a handler: the one that expires it, or the route is not valid. -/
theorem routeClock_setHandler {handler : Handler}
    (allowed : handler = .routeExpireTimeout ∨ ¬ ValidAt state dest) :
    RouteClock state (setHandler (.rtTimer dest) handler state) := by
  refine ⟨fun other valid => ?_, fun other used => ?_⟩
  · rw [rtHandler_setHandler]
    by_cases same : other = dest
    · rw [if_pos same]
      rcases allowed with expires | invalid
      · exact .inl (congrArg some expires)
      · exact absurd (same ▸ valid) invalid
    · rw [if_neg same]
      exact .inr ⟨valid, rfl⟩
  · have field : (setHandler (.rtTimer dest) handler state).timers.timer (.helloTimer other) =
        state.timers.timer (.helloTimer other) :=
      (timer_timerSetHandler ..).trans (if_neg (by simp))
    rwa [timerUsed, field] at used

theorem rtHandler_initTimer (handler : Handler) (state : State) (dest : Addr) :
    rtHandler (initTimer id handler state) dest =
      if .rtTimer dest = id then some handler else rtHandler state dest := by
  show ((timerInit _ _ _).timer _).handler = _
  rw [timer_timerInit]
  split <;> rfl

/-- The timer of a route is initialised only to expire it. -/
theorem routeClock_initTimer (handler : Handler)
    (expires : ∀ dest, id = .rtTimer dest → handler = .routeExpireTimeout) :
    RouteClock state (initTimer id handler state) := by
  refine ⟨fun dest valid => ?_, fun dest used => ?_⟩
  · rw [rtHandler_initTimer]
    split
    · rename_i same
      exact .inl (congrArg some (expires dest same.symm))
    · exact .inr ⟨valid, rfl⟩
  · have field := timer_timerInit id (.helloTimer dest) handler state.timers
    rw [timerUsed, show (initTimer id handler state).timers.timer _ = _ from field] at used
    split at used
    · exact absurd used Bool.false_ne_true
    · exact used

theorem TimerAct.routeClock {before after : State} (act : TimerAct before after) :
    RouteClock before after := by
  cases act with
  | arm id msec plain =>
    refine routeClock_setTimeout before id (fun dest same => ?_) msec
    subst same
    exact plain
  | remove id => exact routeClock_removeTimer before id
  | restart id handler static =>
    refine routeClock_initTimer before id handler fun dest same => ?_
    subst same
    exact static.elim

/-! ### Operations on the routing table -/

/-- A write in place makes a route valid only if its timer expires it. -/
theorem routeClock_setEntry {change : RtEntry → RtEntry}
    (keepsDest : ∀ rt, (change rt).destAddr = rt.destAddr) {dest : Addr} {state : State}
    (revives : ∀ rt, entryAt state dest = some rt → (change rt).state = .valid →
      rt.state = .valid ∨ rtHandler state dest = some .routeExpireTimeout) :
    RouteClock state (setEntry dest change state) := by
  refine routeClock_of_timers rfl fun other valid => ?_
  obtain ⟨rt, found, isValid⟩ := valid
  rw [entryAt_setEntry keepsDest] at found
  split at found
  · rename_i same
    obtain ⟨old, oldFound, rfl⟩ := Option.map_eq_some_iff.mp found
    rcases revives old oldFound isValid with wasValid | expires
    · exact .inr ⟨old, same ▸ oldFound, wasValid⟩
    · exact .inl (same ▸ expires)
  · exact .inr ⟨rt, found, isValid⟩

theorem Detaches.routeClock {dest : Addr} {before after : State}
    (detaches : Detaches dest before after) : RouteClock before after := by
  obtain ⟨⟨_, _, rfl⟩, entries, _⟩ := detaches
  refine routeClock_of_timers rfl fun other valid => .inr ?_
  obtain ⟨rt, found, isValid⟩ := valid
  rw [entries] at found
  split at found
  · exact absurd found (by simp)
  · exact ⟨rt, found, isValid⟩

/-- The timer of a new route expires it. -/
theorem routeClock_newEntry (offer : Offer) (state : State) :
    RouteClock state (newEntry offer state) := by
  refine .trans (.trans (.trans (routeClock_initTimer state _ _ fun _ _ => rfl)
    (routeClock_initTimer _ (.ackTimer offer.dest) .rrepAckTimeout fun _ => TimerId.noConfusion))
    (routeClock_initTimer _ (.helloTimer offer.dest) .helloTimeout fun _ => TimerId.noConfusion))
    (routeClock_of_timers rfl fun dest valid => ?_)
  obtain ⟨rt, found, isValid⟩ := valid
  rw [entryAt_newEntry] at found
  split at found
  · rename_i same
    refine .inl ?_
    rw [rtHandler_initTimer, rtHandler_initTimer, rtHandler_initTimer, if_neg (by simp),
      if_neg (by simp), if_pos (by rw [same])]
  · exact .inr ⟨rt, found, isValid⟩

theorem routeClock_seekListRemove (state : State) : RouteClock state (seekListRemove dest state) :=
  (routeClock_removeTimer state (.seekTimer dest)).trans (routeClock_of_same rfl rfl)

theorem tableRule_routeClock {config : Config} (start : State) :
    ReleaseRule config False (RouteClock start) where
  books clock _ _ := clock.trans (routeClock_of_same rfl rfl)
  report clock act := clock.trans act.aside.routeClock
  rewrite clock _ _ gentle revives := clock.trans (routeClock_setEntry gentle.dest revives)
  detach clock _ detaches := clock.trans detaches.routeClock
  timer clock act := clock.trans act.routeClock
  remove clock dest := clock.trans (routeClock_removeTimer _ (.rtTimer dest))
  install clock dest _ allowed := clock.trans
    (routeClock_setHandler _ dest (allowed.imp_right fun either => either.resolve_right id))
  unseek clock dest := clock.trans (routeClock_seekListRemove dest _)
  flush clock _ _ _ := clock.trans (routeClock_of_same rfl rfl)

/-- A neighbour that becomes a route of several hops has no HELLO timer in use. -/
theorem timerUsed_rtTableUpdate_of_breaks (config : Config) {state : State}
    (found : entryAt state offer.dest = some rt) (breaks : offer.Breaks rt) :
    timerUsed (rtTableUpdate config offer state) (.helloTimer offer.dest) = false := by
  refine Bool.eq_false_iff.mpr fun used => ?_
  unfold rtTableUpdate at used
  rw [found] at used
  dsimp only at used
  have updated : timerUsed (updateRoute config rt offer state) (.helloTimer offer.dest) = true := by
    split at used
    · exact ((tableRule_routeClock _).releaseBuffered (.refl _) _).heard _ used
    · exact used
  have broken := ((tableRule_routeClock _).adopt (.refl _)).heard _ updated
  rw [updateLinkBreak, if_pos (show 1 < offer.hcnt ∧ rt.hcnt = 1 from breaks)] at broken
  have removed := ((tableRule_routeClock _).neighborLinkBreak (.refl _) _).heard _ broken
  rw [entryAt_destAddr found, timerUsed_removeTimer] at removed
  exact removed.1 rfl

/-! ### Sober states -/

/-- A valid route is not under repair, and its timer expires it. -/
structure Sober (state : State) : Prop where
  unmarked : ∀ dest rt, entryAt state dest = some rt → rt.state = .valid → rt.flags.repair = false
  expires : ∀ dest, ValidAt state dest → rtHandler state dest = some .routeExpireTimeout

theorem Sober.of_routeClock {before after : State} (sober : Sober before)
    (routeClock : RouteClock before after)
    (unmarked : ∀ dest rt, entryAt after dest = some rt → rt.state = .valid →
      rt.flags.repair = false) : Sober after where
  unmarked := unmarked
  expires dest valid := by
    rcases routeClock.expires dest valid with expires | ⟨validBefore, same⟩
    · exact expires
    · exact same.trans (sober.expires dest validBefore)

/-- A route whose repair fails is not valid. -/
theorem Sober.not_validAt_of_repair {state : State} (sober : Sober state) {dest : Addr}
    (found : entryAt state dest = some rt)
    (cause : rt.flags.repair = true ∨
      (state.timers.timer (.rtTimer dest)).handler = some .localRepairTimeout) :
    ¬ ValidAt state dest := by
  intro valid
  have expires := sober.expires dest valid
  obtain ⟨other, otherFound, isValid⟩ := valid
  obtain rfl := Option.some.inj (found.symm.trans otherFound)
  rcases cause with marked | handler
  · exact absurd ((sober.unmarked dest rt found isValid).symm.trans marked) Bool.false_ne_true
  · exact Handler.noConfusion (Option.some.inj (expires.symm.trans handler))

section

variable {config : Config} {event : Event} {origin before after : State}

theorem RouteAct.routeClock (act : RouteAct config event origin before after)
    (sober : Sober before) : RouteClock before after :=
  (tableRule_routeClock before).routeAct act (.refl _) (fun offer _ => routeClock_newEntry offer _)
    (fun _ _ rest _ => routeClock_popTimer before _ rest)
    fun _ _ found cause => .inl (sober.not_validAt_of_repair found cause)

/-- An operation on the routing tables keeps a state sober unless it is the loss of a route of
several hops. -/
theorem RouteAct.sober (act : RouteAct config event origin before after)
    (sound : before.rtTbl.Sound) (sober : Sober before)
    (near : ∀ dest rt, entryAt before dest = some rt → ¬ LostFar config before dest rt) :
    Sober after := by
  refine sober.of_routeClock (act.routeClock sober) fun dest new newFound valid => ?_
  have change := act.entryChange sound dest
  rw [newFound] at change
  generalize found : entryAt before dest = entry at change
  cases change with
  | keep same => exact same.flags ▸ sober.unmarked dest _ found (same.state ▸ valid)
  | mark same _ repair =>
    refine Bool.eq_false_iff.mpr fun marked => ?_
    rcases repair marked with before | lost
    · exact absurd ((sober.unmarked dest _ found (same.state ▸ valid)).symm.trans before)
        Bool.false_ne_true
    · exact near dest _ found lost
  | insert offer _ cause => exact cause.offered.repair
  | @update old _ offer _ cause adopted =>
    rw [adopted.flags]
    unfold updateFlags
    split
    · rfl
    · rename_i notRepaired
      rw [cause.offered.repair]
      show old.flags.repair = false
      cases state : old.state with
      | valid => exact sober.unmarked dest old found state
      | invalid => exact Bool.eq_false_iff.mpr fun marked => notRepaired ⟨state, cause.valid, marked⟩
  | retire retired _ => exact RouteState.noConfusion (retired.invalid.symm.trans valid)
  | error received message seqno _ _ wasValid _ _ flags =>
    exact flags ▸ sober.unmarked dest _ found wasValid

theorem routeClock_rreqRecordInsert (origAddr : Addr) (rreqId : BitVec 32) (state : State) :
    RouteClock state (rreqRecordInsert origAddr rreqId state) := by
  unfold rreqRecordInsert
  split
  · exact .refl _
  · refine .trans ?_ (routeClock_setTimeout _ _ (fun _ => TimerId.noConfusion) _)
    refine .trans ?_ (routeClock_initTimer _ _ _ fun _ => TimerId.noConfusion)
    exact routeClock_of_same rfl rfl

theorem routeClock_rreqBlacklistInsert (state : State) :
    RouteClock state (rreqBlacklistInsert dest state) := by
  unfold rreqBlacklistInsert
  split
  · exact .refl _
  · refine .trans ?_ (routeClock_setTimeout _ _ (fun _ => TimerId.noConfusion) _)
    refine .trans ?_ (routeClock_initTimer _ _ _ fun _ => TimerId.noConfusion)
    exact routeClock_of_same rfl rfl

/-- A HELLO timer is armed for a neighbour that was heard. -/
structure Hears (config : Config) (event : Event) (before after : State) (dest : Addr) : Prop where
  heard : event ≠ .timers
  armed : ∃ msec, after = setTimeout (.helloTimer dest) msec before
  near : ∃ rt, entryAt before dest = some rt ∧ (rt.hcnt = 1 ∨ config.unidirHack = true)

/-- Every action keeps the timers of routes, except that a HELLO timer may be armed. -/
theorem Act.routeClock_or_hears (act : Act config event origin before after)
    (sober : Sober before) :
    RouteClock before after ∨ ∃ dest, Hears config event before after dest := by
  cases act with
  | aside aside => exact .inl aside.routeClock
  | timer act => exact .inl act.routeClock
  | pop id rest => exact .inl (routeClock_popTimer ..)
  | record origAddr rreqId => exact .inl (routeClock_rreqRecordInsert ..)
  | forget origAddr rreqId => exact .inl (routeClock_of_same rfl rfl)
  | blacklist dest => exact .inl (routeClock_rreqBlacklistInsert ..)
  | pardon dest => exact .inl (routeClock_of_same rfl rfl)
  | send => exact .inl (aside_aodvSocketSend ..).routeClock
  | route act => exact .inl (act.routeClock sober)
  | undertake dest => exact .inl (routeClock_setHandler before dest (.inl rfl))
  | hear dest msec heard rt found near => exact .inr ⟨dest, heard, ⟨msec, rfl⟩, rt, found, near⟩
  | seek dest =>
    refine .inl (.trans ?_ (routeClock_setTimeout _ _ (fun _ => TimerId.noConfusion) _))
    exact .trans (routeClock_initTimer before (.seekTimer dest) .routeDiscoveryTimeout
      fun _ => TimerId.noConfusion) (routeClock_of_same rfl rfl)
  | retry entry rest msec =>
    refine .inl (.trans ?_ (routeClock_setTimeout _ _ (fun _ => TimerId.noConfusion) _))
    refine .trans (routeClock_popTimer before (.seekTimer entry.destAddr) rest) ?_
    exact routeClock_of_same rfl rfl
  | giveUp entry rest =>
    refine .inl (.trans ?_ (routeClock_seekListRemove entry.destAddr _))
    refine .trans (routeClock_popTimer before (.seekTimer entry.destAddr) rest) ?_
    exact routeClock_of_same rfl rfl
  | collect => exact .inl (routeClock_of_same rfl rfl)
  | log => exact .inl (routeClock_setTimeout _ _ (fun _ => TimerId.noConfusion) _)

theorem Act.sober (act : Act config event origin before after) (sound : before.rtTbl.Sound)
    (sober : Sober before)
    (near : ∀ dest rt, entryAt before dest = some rt → ¬ LostFar config before dest rt) :
    Sober after := by
  rcases act.route_or_same with act | ⟨rtTbl, _⟩
  · exact act.sober sound sober near
  · have entries : entryAt after = entryAt before := by
      funext dest
      rw [entryAt, entryAt, rtTbl]
    rcases act.routeClock_or_hears sober with routeClock | ⟨dest, hears⟩
    · exact sober.of_routeClock routeClock (entries ▸ sober.unmarked)
    · obtain ⟨msec, rfl⟩ := hears.armed
      refine ⟨sober.unmarked, fun other valid => ?_⟩
      rw [rtHandler_setTimeout]
      exact sober.expires other valid

/-! ### Events -/

/-- A valid route of several hops over links that are not unidirectional. -/
def RtEntry.Far (rt : RtEntry) : Prop :=
  rt.state = .valid ∧ rt.flags.unidir = false ∧ rt.hcnt ≠ 1

instance (rt : RtEntry) : Decidable rt.Far := inferInstanceAs (Decidable (_ ∧ _ ∧ _))

/-- The event detaches the HELLO timer of a valid route of several hops while routes are
repaired. -/
def LosesFar (config : Config) (state : State) (event : Event) : Prop :=
  event = .timers ∧ config.localRepair = true ∧
    ∃ rt ∈ rtEntries state, rt.Far ∧ .helloTimer rt.destAddr ∈ (gather state).timers.expTq

instance (config : Config) (state : State) (event : Event) :
    Decidable (LosesFar config state event) :=
  inferInstanceAs (Decidable (_ ∧ _ ∧ _))

/-- What every state within an event has to do with its start: timers expire only in the batch
of the event, and no route becomes a valid one of several hops meanwhile. -/
structure Batched (event : Event) (origin state : State) : Prop where
  idle : event ≠ .timers → state.timers.expTq = []
  expired : state.timers.expTq.Sublist (gather origin).timers.expTq
  far : event = .timers → ∀ dest rt, entryAt state dest = some rt → rt.Far →
    ∃ old, entryAt origin dest = some old ∧ old.Far

theorem Batched.not_lostFar {state : State} (batched : Batched event origin state)
    (sound : origin.rtTbl.Sound) (kept : ¬ LosesFar config origin event) (dest : Addr)
    (rt : RtEntry) (found : entryAt state dest = some rt) : ¬ LostFar config state dest rt := by
  intro lost
  obtain ⟨rest, batch⟩ := lost.batch
  by_cases timers : event = .timers
  · obtain ⟨old, oldFound, far⟩ := batched.far timers dest rt found
      ⟨lost.valid, lost.bidirectional, lost.far⟩
    obtain ⟨member, rfl⟩ := sound.entryAt_eq_some_iff.mp oldFound
    have expired := batched.expired.subset (batch ▸ List.mem_cons_self)
    exact kept ⟨timers, lost.repairs, old, member, far, expired⟩
  · exact absurd (batch.symm.trans (batched.idle timers)) (by simp)

/-- While timers expire, a valid route of several hops was one before. -/
theorem RouteAct.far_of_timers (act : RouteAct config .timers origin before after)
    (sound : before.rtTbl.Sound) {dest : Addr} (found : entryAt after dest = some rt)
    (far : rt.Far) : ∃ old, entryAt before dest = some old ∧ old.Far := by
  have change := act.entryChange sound dest
  rw [found] at change
  generalize entryAt before dest = entry at change
  obtain ⟨valid, bidirectional, hops⟩ := far
  cases change with
  | keep same =>
    exact ⟨_, rfl, same.state ▸ valid, same.flags ▸ bidirectional, same.hcnt ▸ hops⟩
  | mark same unidir =>
    refine ⟨_, rfl, same.state ▸ valid, Bool.eq_false_iff.mpr fun marked => ?_, same.hcnt ▸ hops⟩
    exact absurd (bidirectional.symm.trans (unidir marked)) Bool.false_ne_true
  | insert offer _ cause =>
    obtain ⟨received, arrives⟩ := cause.offered.arrives
    exact Event.noConfusion arrives.event
  | update offer _ cause =>
    obtain ⟨received, arrives⟩ := cause.offered.arrives
    exact Event.noConfusion arrives.event
  | retire retired _ => exact RouteState.noConfusion (retired.invalid.symm.trans valid)
  | error received message seqno handles => exact Event.noConfusion handles.event

theorem Act.batched (act : Act config event origin before after) (sound : before.rtTbl.Sound)
    (batched : Batched event origin before) : Batched event origin after := by
  have batch := act.clockStep.batch
  refine ⟨fun other => ?_, batch.trans batched.expired, fun timers dest rt found far => ?_⟩
  · exact List.sublist_nil.mp (batched.idle other ▸ batch)
  · subst timers
    rcases act.route_or_same with act | ⟨rtTbl, _⟩
    · obtain ⟨old, oldFound, oldFar⟩ := act.far_of_timers sound found far
      exact batched.far rfl dest old oldFound oldFar
    · rw [entryAt, rtTbl] at found
      exact batched.far rfl dest rt found far

theorem Batched.of_same (batched : Batched event origin first)
    (timers : second.timers = first.timers) (rtTbl : second.rtTbl = first.rtTbl) :
    Batched event origin second where
  idle other := (congrArg Timers.expTq timers).trans (batched.idle other)
  expired := congrArg Timers.expTq timers ▸ batched.expired
  far timers dest rt found far := by
    rw [entryAt, rtTbl] at found
    exact batched.far timers dest rt found far

theorem AtRest.batched (atRest : AtRest config origin) (event : Event) :
    Batched event origin origin where
  idle _ := atRest.idle
  expired := atRest.idle ▸ List.nil_sublist _
  far _ _ rt found far := ⟨rt, found, far⟩

theorem Batched.gather (batched : Batched .timers origin origin) :
    Batched .timers origin (Aodvd.gather origin) where
  idle other := absurd rfl other
  expired := List.Sublist.refl _
  far timers := batched.far timers

theorem Sober.of_same (sober : Sober first) (timers : second.timers = first.timers)
    (rtTbl : second.rtTbl = first.rtTbl) : Sober second := by
  refine sober.of_routeClock (routeClock_of_same timers (congrArg RoutingTable.tbl rtTbl)) ?_
  intro dest rt found
  rw [entryAt, rtTbl] at found
  exact sober.unmarked dest rt found

theorem timers_packetQueueAdd (packetId : BitVec 32) (dest : Addr) (state : State) :
    (packetQueueAdd packetId dest state).timers = state.timers := by
  obtain ⟨_, _, added⟩ := packetQueueAdd_eq packetId dest state
  rw [added]

theorem kernel_packetQueueAdd (packetId : BitVec 32) (dest : Addr) (state : State) :
    (packetQueueAdd packetId dest state).kernel = state.kernel := by
  obtain ⟨_, _, added⟩ := packetQueueAdd_eq packetId dest state
  rw [added]

/-- What every action keeps from sober states on, an event keeps that loses no route of several
hops, and the states stay sober. -/
theorem Handled.invariant_of_sober {final : State}
    (handled : Handled config origin event final) (property : State → Prop)
    (atRest : AtRest config origin) (safe : ¬ LosesFar config origin event) (sober : Sober origin)
    (kept : ∀ first second, Regular config first → Sober first →
      Act config event origin first second → property first → property second)
    (gathers : event = .timers → property origin → property (gather origin))
    (delivers : ∀ packet, property origin → property (deliver packet origin))
    (verdicts : ∀ packetId verdict state, property state →
      property (nfqueueSetPacketVerdict packetId verdict .immediate state))
    (buffers : ∀ packetId dest state, property state → property (packetQueueAdd packetId dest state))
    (initial : property origin) : Sober final ∧ property final := by
  have result : Batched event origin final ∧ Sober final ∧ property final := by
    refine handled.invariant
      (fun state => Batched event origin state ∧ Sober state ∧ property state) atRest.toRegular
      ?_ ?_ ?_ ?_ ?_ ?_
    · rintro first second regular act ⟨batched, sober, current⟩
      exact ⟨act.batched regular.sound batched,
        act.sober regular.sound sober (batched.not_lostFar atRest.sound safe),
        kept first second regular sober act current⟩
    · rintro rfl ⟨batched, sober, current⟩
      exact ⟨batched.gather, ⟨sober.unmarked, sober.expires⟩, gathers rfl current⟩
    · rintro packet ⟨batched, sober, current⟩
      exact ⟨batched.of_same rfl rfl, sober.of_same rfl rfl, delivers packet current⟩
    · rintro packetId verdict state ⟨batched, sober, current⟩
      exact ⟨batched.of_same rfl rfl, sober.of_same rfl rfl, verdicts packetId verdict state current⟩
    · rintro packetId dest state ⟨batched, sober, current⟩
      have timers := timers_packetQueueAdd packetId dest state
      have rtTbl := rtTbl_packetQueueAdd packetId dest state
      exact ⟨batched.of_same timers rtTbl, sober.of_same timers rtTbl,
        buffers packetId dest state current⟩
    · exact ⟨atRest.batched event, sober, initial⟩
  exact result.2

/-- While timers expire, no route appears. -/
theorem Act.stays_empty (act : Act config .timers origin before after) (sound : before.rtTbl.Sound)
    (empty : ∀ dest, entryAt before dest = none) (dest : Addr) : entryAt after dest = none := by
  rcases act.route_or_same with act | ⟨rtTbl, _⟩
  · have change := act.entryChange sound dest
    rw [empty dest] at change
    generalize entryAt after dest = entry at change
    cases change with
    | absent => rfl
    | insert offer _ cause =>
      obtain ⟨received, arrives⟩ := cause.offered.arrives
      exact Event.noConfusion arrives.event
  · rw [entryAt, rtTbl]
    exact empty dest

/-- The daemon starts without routes. -/
theorem entryAt_boot (config : Config) (now : Timeval) (jitter : Int) (dest : Addr) :
    entryAt (boot config now jitter) dest = none :=
  (boot_acts config .timers (zeroState now jitter) now jitter).invariant
    (fun state => ∀ dest, entryAt state dest = none) (regular_zeroState config now jitter)
    (fun _ _ regular act empty => act.stays_empty regular.sound empty) (fun _ => rfl) dest

theorem sober_of_empty {state : State} (empty : ∀ dest, entryAt state dest = none) : Sober state where
  unmarked dest rt found := absurd ((empty dest).symm.trans found) (by simp)
  expires dest := fun ⟨rt, found, _⟩ => absurd ((empty dest).symm.trans found) (by simp)

end

end Aodvd
