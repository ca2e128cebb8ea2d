/-
This file proves that the daemon's timers are in order.

A timer is linked into one of the two lists exactly while it is in use; it is in use only
while what it belongs to is there; and the timer of every discovery is in use and runs
`route_discovery_timeout`. Every action keeps this, and no action adds to the batch of
expired timers that is being executed. The seek timers need care: an expired one is
detached before its handler runs, and the handler arms it again or ends the discovery.
-/

import Aodvd.Actions

namespace Aodvd

variable {state before after origin : State} {id : TimerId} {dest : Addr} {rest : List TimerId}
  {event : Event} (config : Config)

/-! ### Timers in order -/

structure Clocked (state : State) : Prop where
  linked : state.timers.Linked
  owned : ∀ id, timerUsed state id = true → id.Owned state
  armed : ∀ dest, Sought state dest → timerUsed state (.seekTimer dest) = true ∧
    (state.timers.timer (.seekTimer dest)).handler = some .routeDiscoveryTimeout
  distinct : (state.seekhead.map SeekEntry.destAddr).Nodup

/-- A timer whose owner is not there is not in use. -/
theorem Clocked.unused (clocked : Clocked state) (ownerless : ¬ id.Owned state) :
    timerUsed state id = false :=
  Bool.eq_false_iff.mpr fun used => ownerless (clocked.owned id used)

theorem sought_iff :
    Sought state dest ↔ dest ∈ state.seekhead.map SeekEntry.destAddr := List.mem_map.symm

/-- A change that keeps the timers in order and does not add to the batch. -/
structure ClockStep (before after : State) : Prop where
  clocked : Clocked before → Clocked after
  batch : after.timers.expTq.Sublist before.timers.expTq

theorem ClockStep.refl (state : State) : ClockStep state state := ⟨id, .refl _⟩

theorem ClockStep.trans {first second third : State} (early : ClockStep first second)
    (late : ClockStep second third) : ClockStep first third :=
  ⟨fun clocked => late.clocked (early.clocked clocked), late.batch.trans early.batch⟩

/-- The timers and the discoveries stay, and so do the owners of the timers in use. -/
theorem clockStep_of_owners (timers : after.timers = before.timers)
    (seeks : after.seekhead.map SeekEntry.destAddr = before.seekhead.map SeekEntry.destAddr)
    (owners : ∀ id, timerUsed before id = true → id.Owned before → id.Owned after) :
    ClockStep before after := by
  have used : ∀ id, timerUsed after id = timerUsed before id := by
    intro id
    rw [timerUsed, timerUsed, timers]
  refine ⟨fun clocked => ⟨timers ▸ clocked.linked, fun id inUse => ?_, fun dest wanted => ?_,
    seeks ▸ clocked.distinct⟩, timers ▸ .refl _⟩
  · have before := (used id).symm.trans inUse
    exact owners id before (clocked.owned id before)
  · rw [used, timers]
    rw [sought_iff, seeks] at wanted
    exact clocked.armed dest (sought_iff.mpr wanted)

/-- Nothing but entries of the routing table is changed, and none is lost. -/
theorem clockStep_of_same (timers : after.timers = before.timers)
    (seekhead : after.seekhead = before.seekhead)
    (entries : ∀ dest, (entryAt before dest).isSome = true → (entryAt after dest).isSome = true)
    (records : after.rreqRecords = before.rreqRecords)
    (blacklist : after.rreqBlacklist = before.rreqBlacklist) : ClockStep before after := by
  refine clockStep_of_owners timers (congrArg _ seekhead) fun id _ owned => ?_
  cases id with
  | rtTimer dest => exact entries dest owned
  | ackTimer dest => exact entries dest owned
  | helloTimer dest => exact entries dest owned
  | seekTimer dest => exact show ∃ entry ∈ after.seekhead, _ from seekhead ▸ owned
  | recTimer origAddr rreqId => exact show _ ∈ after.rreqRecords from records ▸ owned
  | blTimer dest => exact show _ ∈ after.rreqBlacklist from blacklist ▸ owned
  | _ => trivial

theorem Aside.clockStep (aside : Aside before after) : ClockStep before after :=
  clockStep_of_same aside.timers aside.seekhead (fun dest found => by rwa [aside.entryAt])
    aside.rreqRecords aside.rreqBlacklist

theorem clockStep_setEntry {change : RtEntry → RtEntry}
    (keepsKey : ∀ rt, (change rt).destAddr = rt.destAddr) (dest : Addr) (state : State) :
    ClockStep state (setEntry dest change state) := by
  refine clockStep_of_same rfl rfl (fun other found => ?_) rfl rfl
  rw [entryAt_setEntry keepsKey]
  split
  · rename_i same
    subst same
    rwa [Option.isSome_map]
  · exact found

/-! ### Operations on one timer -/

theorem TimerId.Owned.setTimers (owned : id.Owned state) (timers : Timers TimerId Handler) :
    id.Owned { state with timers := timers } := by
  cases id <;> exact owned

theorem clockStep_setTimeout (state : State) (id : TimerId) (owned : id.Owned state)
    (msec : Int) : ClockStep state (setTimeout id msec state) := by
  refine ⟨fun clocked => ⟨clocked.linked.timerSetTimeout .., fun other used => ?_,
    fun dest wanted => ?_, clocked.distinct⟩, expTq_timerSetTimeout ..⟩
  · refine TimerId.Owned.setTimers ?_ _
    by_cases same : other = id
    · exact same ▸ owned
    · refine clocked.owned other ?_
      have field : (setTimeout id msec state).timers.timer other = state.timers.timer other :=
        (timer_timerSetTimeout ..).trans (if_neg same)
      rwa [timerUsed, field] at used
  · have old := clocked.armed dest wanted
    show ((timerSetTimeout _ _ _ _).timer _).used = true ∧
      ((timerSetTimeout _ _ _ _).timer _).handler = _
    rw [timer_timerSetTimeout]
    split
    · rename_i same
      exact ⟨rfl, same ▸ old.2⟩
    · exact old

/-- A change of the timers that takes none into use and leaves the seek timers alone. -/
theorem clockStep_of_timers {timers : Timers TimerId Handler}
    (linked : Clocked state → timers.Linked)
    (used : ∀ id, (timers.timer id).used = true → timerUsed state id = true)
    (seeks : ∀ dest, Sought state dest →
      timers.timer (.seekTimer dest) = state.timers.timer (.seekTimer dest))
    (batch : timers.expTq.Sublist state.timers.expTq) :
    ClockStep state { state with timers := timers } := by
  refine ⟨fun clocked => ⟨linked clocked, fun id nowUsed => ?_, fun dest wanted => ?_,
    clocked.distinct⟩, batch⟩
  · exact TimerId.Owned.setTimers (clocked.owned id (used id nowUsed)) _
  · show (timers.timer _).used = true ∧ (timers.timer _).handler = _
    rw [seeks dest wanted]
    exact clocked.armed dest wanted

theorem TimerId.Steady.ne_seekTimer (steady : id.Steady) (dest : Addr) :
    TimerId.seekTimer dest ≠ id := by
  intro same
  subst same
  exact steady

theorem clockStep_removeTimer (state : State) (id : TimerId) (steady : id.Steady) :
    ClockStep state (removeTimer id state) := by
  refine clockStep_of_timers (fun clocked => clocked.linked.timerRemove id) (fun other used => ?_)
    (fun dest _ => ?_) (expTq_timerRemove ..)
  · rw [timer_timerRemove] at used
    split at used
    · exact absurd used Bool.false_ne_true
    · exact used
  · rw [timer_timerRemove, if_neg (steady.ne_seekTimer dest)]

theorem clockStep_setHandler (state : State) (id : TimerId) (steady : id.Steady)
    (handler : Handler) : ClockStep state (setHandler id handler state) := by
  refine clockStep_of_timers (fun clocked => clocked.linked.timerSetHandler id handler)
    (fun other used => ?_) (fun dest _ => ?_) (.refl _)
  · rw [timer_timerSetHandler] at used
    split at used
    · rename_i same
      exact same ▸ used
    · exact used
  · rw [timer_timerSetHandler, if_neg (steady.ne_seekTimer dest)]

/-- Initialising a timer that is not in use. -/
theorem clockStep_initTimer (state : State) (id : TimerId) (steady : id.Steady)
    (unused : Clocked state → timerUsed state id = false) (handler : Handler) :
    ClockStep state (initTimer id handler state) := by
  refine clockStep_of_timers (fun clocked => clocked.linked.timerInit (unused clocked) handler)
    (fun other used => ?_) (fun dest _ => ?_) (.refl _)
  · rw [timer_timerInit] at used
    split at used
    · exact absurd used Bool.false_ne_true
    · exact used
  · rw [timer_timerInit, if_neg (steady.ne_seekTimer dest)]

theorem clockStep_popTimer (batch : state.timers.expTq = id :: rest) (calm : id.Calm state) :
    ClockStep state (popTimer id rest state) := by
  refine clockStep_of_timers (fun clocked => clocked.linked.timerPop batch) (fun other used => ?_)
    (fun dest wanted => ?_) (batch ▸ List.sublist_cons_self ..)
  · rw [timer_timerPop] at used
    split at used
    · exact absurd used Bool.false_ne_true
    · exact used
  · have different : TimerId.seekTimer dest ≠ id := by
      intro same
      subst same
      exact calm wanted
    rw [timer_timerPop, if_neg different]

theorem TimerAct.clockStep (act : TimerAct before after) : ClockStep before after := by
  cases act with
  | arm id msec plain owned => exact clockStep_setTimeout before id owned msec
  | remove id loose =>
    have steady : id.Steady := by
      cases id <;> first | exact loose | trivial
    exact clockStep_removeTimer before id steady
  | restart id handler static unused =>
    have steady : id.Steady := by
      cases id <;> first | exact static | trivial
    exact clockStep_initTimer before id steady (fun _ => unused) handler

/-! ### Operations on the routing table -/

theorem clockStep_attachEntry (rt : RtEntry) (state : State) :
    ClockStep state (attachEntry rt state) := by
  refine clockStep_of_same rfl rfl (fun other found => ?_) rfl rfl
  rw [entryAt_attachEntry]
  split
  · rfl
  · exact found

theorem timerUsed_setTimeout_self (id : TimerId) (msec : Int) (state : State) :
    timerUsed (setTimeout id msec state) id = true := by
  show ((timerSetTimeout _ _ _ _).timer _).used = true
  rw [timer_timerSetTimeout, if_pos rfl]

theorem timerUsed_setTimeout_other {other : TimerId} (different : other ≠ id) (msec : Int)
    (state : State) : timerUsed (setTimeout id msec state) other = timerUsed state other :=
  congrArg Timer.used ((timer_timerSetTimeout ..).trans (if_neg different))

/-- An entry goes after its three timers. -/
theorem Detaches.clockStep (detaches : Detaches dest before after) : ClockStep before after := by
  obtain ⟨⟨rtTbl, kernel, rfl⟩, entries, unused⟩ := detaches
  have kept : ∀ other, other ≠ dest → (entryAt before other).isSome = true →
      (entryAt { before with rtTbl := rtTbl, kernel := kernel } other).isSome = true := by
    intro other different there
    rwa [entries, if_neg different]
  refine clockStep_of_owners rfl rfl fun id used owned => ?_
  obtain ⟨notAck, notHello, notRt⟩ := unused id used
  cases id with
  | rtTimer other => exact kept other (fun same => notRt (same ▸ rfl)) owned
  | ackTimer other => exact kept other (fun same => notAck (same ▸ rfl)) owned
  | helloTimer other => exact kept other (fun same => notHello (same ▸ rfl)) owned
  | _ => exact owned

/-- A new entry gets three new timers. -/
theorem clockStep_newEntry {offer : Offer} (fresh : entryAt state offer.dest = none) :
    ClockStep state (newEntry offer state) := by
  have ownerless : (entryAt state offer.dest).isSome ≠ true := by
    rw [fresh]
    exact Bool.false_ne_true
  refine .trans (.trans (.trans (clockStep_initTimer state (.rtTimer offer.dest) trivial ?_ _)
    (clockStep_initTimer _ (.ackTimer offer.dest) trivial ?_ _))
    (clockStep_initTimer _ (.helloTimer offer.dest) trivial ?_ _)) (clockStep_attachEntry ..)
  all_goals exact fun clocked => clocked.unused ownerless

/-! ### Discoveries and records -/

/-- The destinations that are still sought after one discovery has ended. -/
theorem seekhead_seekListRemove (dest : Addr) (state : State) :
    (seekListRemove dest state).seekhead.map SeekEntry.destAddr =
      (state.seekhead.map SeekEntry.destAddr).erase dest := by
  have condition : (fun entry : SeekEntry => decide (entry.destAddr = dest)) =
      (fun addr => dest == addr) ∘ SeekEntry.destAddr := by
    funext entry
    rw [Function.comp_apply, beq_eq_decide]
    exact decide_eq_decide.mpr eq_comm
  rw [List.erase_eq_eraseP, List.eraseP_map]
  show (state.seekhead.eraseP fun entry => decide (entry.destAddr = dest)).map _ = _
  rw [condition]

theorem not_sought_seekListRemove (distinct : (state.seekhead.map SeekEntry.destAddr).Nodup)
    (dest : Addr) : ¬ Sought (seekListRemove dest state) dest := by
  rw [sought_iff, seekhead_seekListRemove]
  exact distinct.not_mem_erase

theorem sought_seekListRemove {other : Addr} (different : other ≠ dest) :
    Sought (seekListRemove dest state) other ↔ Sought state other := by
  rw [sought_iff, seekhead_seekListRemove, List.mem_erase_of_ne different, sought_iff]

/-- A discovery ends together with its timer. -/
theorem clockStep_seekListRemove (dest : Addr) (state : State) :
    ClockStep state (seekListRemove dest state) := by
  refine ⟨fun clocked => ?_, expTq_timerRemove ..⟩
  have gone := not_sought_seekListRemove clocked.distinct dest
  refine ⟨clocked.linked.timerRemove _, fun id used => ?_, fun other wanted => ?_, ?_⟩
  · obtain ⟨different, before⟩ := (timerUsed_removeTimer (.seekTimer dest) id _).mp used
    have owned := clocked.owned id before
    cases id with
    | seekTimer other =>
      have other : other ≠ dest := fun same => different (congrArg TimerId.seekTimer same)
      exact (sought_seekListRemove other).mpr owned
    | _ => exact owned
  · have different : other ≠ dest := fun same => gone (same ▸ wanted)
    show ((timerRemove _ _).timer _).used = true ∧ ((timerRemove _ _).timer _).handler = _
    rw [timer_timerRemove, if_neg fun same => different (TimerId.seekTimer.inj same)]
    exact clocked.armed other ((sought_seekListRemove different).mp wanted)
  · rw [seekhead_seekListRemove]
    exact clocked.distinct.erase dest

theorem clockStep_detachPackets (chosen : QPkt → Bool) (verdict : NfVerdict) (cause : VerdictCause)
    (state : State) : ClockStep state (detachPackets chosen verdict cause state) :=
  clockStep_of_same rfl rfl (fun _ => id) rfl rfl

theorem tableRule_clockStep (start : State) : ReleaseRule config True (ClockStep start) where
  books step _ _ := step.trans (clockStep_of_same rfl rfl (fun _ => id) rfl rfl)
  report step act := step.trans act.aside.clockStep
  rewrite step dest _ gentle _ := step.trans (clockStep_setEntry gentle.dest dest _)
  detach step _ detaches := step.trans detaches.clockStep
  timer step act := step.trans act.clockStep
  remove step dest := step.trans (clockStep_removeTimer _ (.rtTimer dest) trivial)
  install step dest handler _ := step.trans (clockStep_setHandler _ (.rtTimer dest) trivial handler)
  unseek step dest := step.trans (clockStep_seekListRemove dest _)
  flush step chosen verdict cause := step.trans (clockStep_detachPackets chosen verdict cause _)

theorem RouteAct.clockStep {config : Config} (act : RouteAct config event origin before after) :
    ClockStep before after :=
  (tableRule_clockStep config before).routeAct act (.refl _) (fun _ => clockStep_newEntry)
    (fun _ _ _ batch => clockStep_popTimer batch trivial) fun _ _ _ _ => .inr trivial

/-- A new discovery comes with an armed timer. -/
theorem clockStep_seek (fresh : ¬ Sought state dest) (destSeqno : Seqno) (ttl : Nat)
    (flags : RreqFlags) (msec : Int) :
    ClockStep state
      (setTimeout (.seekTimer dest) msec (seekListInsert dest destSeqno ttl flags state)) := by
  refine ⟨fun clocked => ?_, expTq_timerSetTimeout ..⟩
  have unused : timerUsed state (.seekTimer dest) = false := clocked.unused fresh
  have field : ∀ id, (setTimeout (.seekTimer dest) msec
      (seekListInsert dest destSeqno ttl flags state)).timers.timer id =
      if id = .seekTimer dest then
        ⟨true, timevalDeadline state.now msec, some .routeDiscoveryTimeout⟩
      else state.timers.timer id := by
    intro id
    refine (timer_timerSetTimeout ..).trans ?_
    split
    · show Timer.mk _ _ ((timerInit _ _ _).timer _).handler = _
      rw [timer_timerInit, if_pos rfl]
      rfl
    · rename_i different
      exact (timer_timerInit ..).trans (if_neg different)
  refine ⟨(clocked.linked.timerInit unused _).timerSetTimeout .., fun id used => ?_,
    fun other wanted => ?_, ?_⟩
  · by_cases same : id = .seekTimer dest
    · subst same
      exact ⟨_, List.mem_cons_self, rfl⟩
    · rw [timerUsed, field, if_neg same] at used
      have owned := clocked.owned id used
      cases id with
      | seekTimer other =>
        obtain ⟨entry, member, isOther⟩ := owned
        exact ⟨entry, List.mem_cons_of_mem _ member, isOther⟩
      | _ => exact owned
  · rw [timerUsed, field]
    split
    · exact ⟨rfl, rfl⟩
    · rename_i different
      refine clocked.armed other ?_
      obtain ⟨entry, member, isOther⟩ := wanted
      rcases List.mem_cons.mp member with rfl | old
      · exact absurd (congrArg TimerId.seekTimer isOther.symm) different
      · exact ⟨entry, old, isOther⟩
  · show (dest :: state.seekhead.map SeekEntry.destAddr).Nodup
    exact List.nodup_cons.mpr ⟨fun member => fresh (sought_iff.mpr member), clocked.distinct⟩

theorem seekRetry_destAddr (entry : SeekEntry) :
    (seekRetry config entry).destAddr = entry.destAddr := by
  unfold seekRetry
  split
  · split <;> rfl
  · rfl

theorem seekhead_setSeekEntry {change : SeekEntry → SeekEntry}
    (keepsDest : ∀ entry, (change entry).destAddr = entry.destAddr) (dest : Addr) (state : State) :
    (setSeekEntry dest change state).seekhead.map SeekEntry.destAddr =
      state.seekhead.map SeekEntry.destAddr := by
  show (state.seekhead.map _).map _ = _
  rw [List.map_map]
  refine List.map_congr_left fun entry _ => ?_
  rw [Function.comp_apply]
  split
  · exact keepsDest entry
  · rfl

/-- An expired discovery is tried again: its timer is armed again. -/
theorem clockStep_retry (wanted : Sought state dest)
    (batch : state.timers.expTq = .seekTimer dest :: rest) (msec : Int) :
    ClockStep state (setTimeout (.seekTimer dest) msec
      (setSeekEntry dest (seekRetry config) (popTimer (.seekTimer dest) rest state))) := by
  have rewritten : ClockStep state (setSeekEntry dest (seekRetry config) state) := by
    refine clockStep_of_owners rfl (seekhead_setSeekEntry (seekRetry_destAddr config) dest state)
      fun id _ owned => ?_
    cases id with
    | seekTimer other =>
      refine sought_iff.mpr ?_
      rw [seekhead_setSeekEntry (seekRetry_destAddr config)]
      exact sought_iff.mp owned
    | _ => exact owned
  have owned : (TimerId.seekTimer dest).Owned (setSeekEntry dest (seekRetry config) state) := by
    refine sought_iff.mpr ?_
    rw [seekhead_setSeekEntry (seekRetry_destAddr config)]
    exact sought_iff.mp wanted
  have armed := rewritten.trans (clockStep_setTimeout _ _ owned msec)
  refine ⟨fun clocked => ?_, (expTq_timerSetTimeout ..).trans (batch ▸ List.sublist_cons_self ..)⟩
  have same : setTimeout (.seekTimer dest) msec
      (setSeekEntry dest (seekRetry config) (popTimer (.seekTimer dest) rest state)) =
      setTimeout (.seekTimer dest) msec (setSeekEntry dest (seekRetry config) state) := by
    unfold setTimeout setSeekEntry popTimer
    dsimp only
    rw [timerPop_eq_timerRemove clocked.linked batch,
      timerSetTimeout_timerRemove _ _ (clocked.armed dest wanted).1]
  rw [same]
  exact armed.clocked clocked

/-- An expired discovery is given up. -/
theorem clockStep_giveUp (batch : state.timers.expTq = .seekTimer dest :: rest) :
    ClockStep state (seekListRemove dest
      (packetQueueDrop dest (popTimer (.seekTimer dest) rest state))) := by
  have removed : ClockStep state (seekListRemove dest (packetQueueDrop dest state)) :=
    (clockStep_detachPackets ..).trans (clockStep_seekListRemove ..)
  refine ⟨fun clocked => ?_, (expTq_timerRemove ..).trans (batch ▸ List.sublist_cons_self ..)⟩
  have unused : ((timerRemove (.seekTimer dest) state.timers).timer (.seekTimer dest)).used =
      false := by
    rw [timer_timerRemove, if_pos rfl]
  have same : seekListRemove dest (packetQueueDrop dest (popTimer (.seekTimer dest) rest state)) =
      seekListRemove dest (packetQueueDrop dest state) := by
    unfold seekListRemove removeTimer packetQueueDrop detachPackets popTimer
    dsimp only
    rw [timerPop_eq_timerRemove clocked.linked batch,
      timerRemove_of_unused (clocked.linked.timerRemove _) unused]
  rw [same]
  exact removed.clocked clocked

theorem clockStep_rreqRecordInsert (origAddr : Addr) (rreqId : BitVec 32) (state : State) :
    ClockStep state (rreqRecordInsert origAddr rreqId state) := by
  unfold rreqRecordInsert
  split
  · exact .refl _
  · rename_i unseen
    have ownerless : (origAddr, rreqId) ∉ state.rreqRecords := by
      simpa [rreqRecordFind] using unseen
    refine .trans (.trans (clockStep_initTimer state (.recTimer origAddr rreqId) trivial
      (fun clocked => clocked.unused ownerless) .rreqRecordTimeout) ?_)
      (clockStep_setTimeout _ (.recTimer origAddr rreqId) ?_ _)
    · refine clockStep_of_owners rfl rfl fun id _ owned => ?_
      cases id with
      | recTimer other otherId => exact List.mem_cons_of_mem _ owned
      | _ => exact owned
    · exact List.mem_cons_self

theorem clockStep_rreqRecordTimeout {origAddr : Addr} {rreqId : BitVec 32}
    (unused : timerUsed state (.recTimer origAddr rreqId) = false) :
    ClockStep state (rreqRecordTimeout origAddr rreqId state) := by
  refine clockStep_of_owners rfl rfl fun id used owned => ?_
  cases id with
  | recTimer other otherId =>
    refine (List.mem_erase_of_ne fun same => ?_).mpr owned
    obtain ⟨rfl, rfl⟩ := Prod.mk.inj same
    exact absurd (used.symm.trans unused) (by simp)
  | _ => exact owned

theorem clockStep_rreqBlacklistInsert (dest : Addr) (state : State) :
    ClockStep state (rreqBlacklistInsert dest state) := by
  unfold rreqBlacklistInsert
  split
  · exact .refl _
  · rename_i unlisted
    have ownerless : dest ∉ state.rreqBlacklist := by
      simpa [rreqBlacklistFind] using unlisted
    refine .trans (.trans (clockStep_initTimer state (.blTimer dest) trivial
      (fun clocked => clocked.unused ownerless) .rreqBlacklistTimeout) ?_)
      (clockStep_setTimeout _ (.blTimer dest) ?_ _)
    · refine clockStep_of_owners rfl rfl fun id _ owned => ?_
      cases id with
      | blTimer other => exact List.mem_cons_of_mem _ owned
      | _ => exact owned
    · exact List.mem_cons_self

theorem clockStep_rreqBlacklistTimeout (unused : timerUsed state (.blTimer dest) = false) :
    ClockStep state (rreqBlacklistTimeout dest state) := by
  refine clockStep_of_owners rfl rfl fun id used owned => ?_
  cases id with
  | blTimer other =>
    refine (List.mem_erase_of_ne fun same => ?_).mpr owned
    subst same
    exact absurd (used.symm.trans unused) (by simp)
  | _ => exact owned

/-! ### Actions -/

theorem not_sought_of_find (none : seekListFind state dest = none) : ¬ Sought state dest := by
  rintro ⟨entry, member, same⟩
  exact absurd (decide_eq_true same) (List.find?_eq_none.mp none entry member)

theorem seekListFind_some {entry : SeekEntry} (found : seekListFind state dest = some entry) :
    entry ∈ state.seekhead ∧ entry.destAddr = dest :=
  ⟨List.mem_of_find?_eq_some found, by simpa using List.find?_some found⟩

theorem Act.clockStep {config : Config} (act : Act config event origin before after) :
    ClockStep before after := by
  cases act with
  | aside aside => exact aside.clockStep
  | timer act => exact act.clockStep
  | pop id rest batch calm => exact clockStep_popTimer batch calm
  | record origAddr rreqId => exact clockStep_rreqRecordInsert ..
  | forget origAddr rreqId unused => exact clockStep_rreqRecordTimeout unused
  | blacklist dest => exact clockStep_rreqBlacklistInsert ..
  | pardon dest unused => exact clockStep_rreqBlacklistTimeout unused
  | send => exact (aside_aodvSocketSend ..).clockStep
  | route act => exact act.clockStep
  | undertake dest => exact clockStep_setHandler before (.rtTimer dest) trivial _
  | hear dest msec heard rt found =>
    exact clockStep_setTimeout before (.helloTimer dest) (Option.isSome_of_eq_some found) msec
  | seek dest destSeqno ttl flags msec fresh => exact clockStep_seek (not_sought_of_find fresh) ..
  | retry entry rest msec batch found =>
    exact clockStep_retry config ⟨entry, (seekListFind_some found).1, rfl⟩ batch msec
  | giveUp entry rest batch => exact clockStep_giveUp batch
  | collect => exact clockStep_detachPackets ..
  | log => exact clockStep_setTimeout before .rtLogTimer trivial _

theorem Acts.clockStep {config : Config} (acts : Acts config event origin before after) :
    ClockStep before after := by
  induction acts with
  | refl => exact .refl _
  | tail _ last inductionHypothesis => exact inductionHypothesis.trans last.clockStep

end Aodvd
