/-
This file shows that the main loop always gets a timeout it can wait for.

`timer_age_queue` returns what remains until the first timer of the queue, and `main` uses it
without a look. Two things make that safe. The timer of the packet queue is never removed and arms
itself again whenever it fires, so the queue is never empty. And every timer that is left in the
queue is not due: those that were there when the expired ones were collected, because the queue is
sorted up to the slack of its comparison, and those armed since, because no caller asks for a
negative time. The one exception is the log of the routing table: `main` takes its interval from
the command line as it is, and with a negative one the timer is armed in the past.

What an operation on one timer keeps, the functions of the daemon keep; the rule is stated once and
used for the order of the queue, for the times in it and for the timer of the packet queue.
-/

import Aodvd.Reachable
import Aodvd.TimerOrder

namespace Aodvd

variable {event : Event} {origin : State} {now : Timeval} {id : TimerId}
  {timers : Timers TimerId Handler} {rest : List TimerId} {jitter : Int}

/-! ### What operations on timers keep -/

/-- A property that every operation on one timer keeps. Only the timer of the packet queue is never
removed and never gets another handler. -/
structure TimerRule (property : State → Prop) : Prop where
  same : ∀ {before after : State}, property before → after.timers = before.timers →
    after.now = before.now → after.jitter = before.jitter → property after
  arm : ∀ {state : State}, property state → ∀ id msec, Timely state msec →
    property (setTimeout id msec state)
  remove : ∀ {state : State}, property state → ∀ id, id ≠ .garbageCollectTimer →
    property (removeTimer id state)
  install : ∀ {state : State}, property state → ∀ id handler, id ≠ .garbageCollectTimer →
    property (setHandler id handler state)
  start : ∀ {state : State}, property state → ∀ id handler, timerUsed state id = false →
    property (initTimer id handler state)

section

variable {property : State → Prop} {config : Config} {before after state : State}

theorem TimerRule.aside (rule : TimerRule property) (holds : property before)
    (aside : Aside before after) : property after :=
  rule.same holds aside.timers aside.now aside.jitter

theorem TimerRule.seekListRemove (rule : TimerRule property) (holds : property state)
    (dest : Addr) : property (seekListRemove dest state) := by
  have erased : property { state with
      seekhead := state.seekhead.eraseP fun entry => decide (entry.destAddr = dest) } :=
    rule.same holds rfl rfl rfl
  exact rule.remove erased _ (by simp)

theorem TimerRule.table (rule : TimerRule property) (config : Config) :
    ReleaseRule config True property where
  books holds _ _ := rule.same holds rfl rfl rfl
  report holds act := rule.same holds act.aside.timers act.aside.now act.aside.jitter
  rewrite holds _ _ _ _ := rule.same holds rfl rfl rfl
  detach holds _ detaches := by
    obtain ⟨_, _, rfl⟩ := detaches.only
    exact rule.same holds rfl rfl rfl
  timer holds act := by
    cases act with
    | arm id msec _ _ timely => exact rule.arm holds id msec timely
    | remove id loose =>
      refine rule.remove holds id ?_
      rintro rfl
      exact loose
    | restart id handler _ unused => exact rule.start holds id handler unused
  remove holds _ := rule.remove holds _ (by simp)
  install holds _ _ _ := rule.install holds _ _ (by simp)
  unseek holds dest := rule.seekListRemove holds dest
  flush holds _ _ _ := rule.same holds rfl rfl rfl

/-- A new entry gets three new timers. -/
theorem TimerRule.newEntry (rule : TimerRule property) (holds : property state)
    (clocked : Clocked state) {offer : Offer} (fresh : entryAt state offer.dest = none) :
    property (newEntry offer state) := by
  have ownerless : (entryAt state offer.dest).isSome ≠ true := by
    rw [fresh]
    exact Bool.false_ne_true
  have expires := rule.start holds (.rtTimer offer.dest) .routeExpireTimeout (clocked.unused ownerless)
  have acknowledges := rule.start expires (.ackTimer offer.dest) .rrepAckTimeout (by
    show ((timerInit _ _ _).timer _).used = false
    rw [timer_timerInit, if_neg (by simp)]
    exact clocked.unused ownerless)
  have greets := rule.start acknowledges (.helloTimer offer.dest) .helloTimeout (by
    show ((timerInit _ _ (timerInit _ _ _)).timer _).used = false
    rw [timer_timerInit, if_neg (by simp), timer_timerInit, if_neg (by simp)]
    exact clocked.unused ownerless)
  exact rule.same greets rfl rfl rfl

theorem TimerRule.rreqRecordInsert (rule : TimerRule property) (holds : property state)
    (clocked : Clocked state) (origAddr : Addr) (rreqId : BitVec 32) :
    property (rreqRecordInsert origAddr rreqId state) := by
  unfold Aodvd.rreqRecordInsert
  split
  · exact holds
  · rename_i unseen
    have ownerless : (origAddr, rreqId) ∉ state.rreqRecords := by
      simpa [rreqRecordFind] using unseen
    have recorded : property { state with rreqRecords := (origAddr, rreqId) :: state.rreqRecords } :=
      rule.same holds rfl rfl rfl
    have unused : timerUsed state (.recTimer origAddr rreqId) = false := clocked.unused ownerless
    exact rule.arm (rule.start recorded _ _ unused) _ _ (timely_natCast _ _)

theorem TimerRule.rreqBlacklistInsert (rule : TimerRule property) (holds : property state)
    (dest : Addr) (unused : dest ∉ state.rreqBlacklist → timerUsed state (.blTimer dest) = false) :
    property (rreqBlacklistInsert dest state) := by
  unfold Aodvd.rreqBlacklistInsert
  split
  · exact holds
  · rename_i unlisted
    have absent : dest ∉ state.rreqBlacklist := by
      simpa [rreqBlacklistFind] using unlisted
    have listed : property { state with rreqBlacklist := dest :: state.rreqBlacklist } :=
      rule.same holds rfl rfl rfl
    exact rule.arm (rule.start listed _ _ (unused absent)) _ _ (timely_natCast _ _)

/-- An action keeps what the operations on timers keep. It detaches an expired timer only when
timers are due. -/
theorem TimerRule.act (rule : TimerRule property)
    (pop : event = .timers → ∀ {state id rest}, state.timers.expTq = id :: rest →
      property state → property (popTimer id rest state))
    (logs : 0 ≤ config.rtLogInterval) (clocked : Clocked before)
    (act : Act config event origin before after) (holds : property before) : property after := by
  cases act with
  | aside aside => exact rule.aside holds aside
  | timer act => exact (rule.table config).timer holds act
  | pop id rest batch _ due => exact pop due batch holds
  | record origAddr rreqId => exact rule.rreqRecordInsert holds clocked origAddr rreqId
  | forget => exact rule.same holds rfl rfl rfl
  | blacklist dest => exact rule.rreqBlacklistInsert holds dest fun absent => clocked.unused absent
  | pardon => exact rule.same holds rfl rfl rfl
  | send => exact rule.aside holds (aside_aodvSocketSend ..)
  | route act =>
    exact (rule.table config).routeAct act holds (fun _ fresh => rule.newEntry holds clocked fresh)
      (fun due _ _ batch => pop due batch holds) fun _ _ _ _ => .inr trivial
  | undertake dest => exact rule.install holds _ _ (by simp)
  | hear dest msec _ _ _ _ timely => exact rule.arm holds _ msec timely
  | seek dest destSeqno ttl flags msec fresh _ timely =>
    have unused : timerUsed before (.seekTimer dest) = false :=
      clocked.unused (not_sought_of_find fresh)
    have inserted : property (seekListInsert dest destSeqno ttl flags before) :=
      rule.same (rule.start holds _ _ unused) rfl rfl rfl
    exact rule.arm inserted _ msec timely
  | retry entry rest msec batch _ due timely =>
    refine rule.arm ?_ _ msec timely
    exact rule.same (pop due batch holds) rfl rfl rfl
  | giveUp entry rest batch _ due =>
    refine rule.seekListRemove ?_ entry.destAddr
    exact rule.same (pop due batch holds) rfl rfl rfl
  | collect => exact rule.same holds rfl rfl rfl
  | log => exact rule.arm holds _ _ fun _ => logs

theorem TimerRule.acts (rule : TimerRule property)
    (pop : event = .timers → ∀ {state id rest}, state.timers.expTq = id :: rest →
      property state → property (popTimer id rest state))
    (logs : 0 ≤ config.rtLogInterval) (clocked : Clocked before)
    (acts : Acts config event origin before after) (holds : property before) : property after := by
  induction acts with
  | refl => exact holds
  | tail early last inductionHypothesis =>
    exact rule.act pop logs ((Acts.clockStep early).clocked clocked) last inductionHypothesis

end

/-! ### Times in the queue -/

/-- A time as the clock gives it: its microseconds are less than a second. -/
def Timeval.Normal (time : Timeval) : Prop := 0 ≤ time.usec ∧ time.usec < 1000000

theorem normal_timevalDeadline {time : Timeval} (normal : time.Normal) {msec : Int}
    (future : 0 ≤ msec) : (timevalDeadline time msec).Normal := by
  have nonneg : 0 ≤ time.usec + msec * 1000 := by
    have := normal.1
    omega
  exact ⟨Int.tmod_nonneg _ nonneg, Int.tmod_lt_of_pos _ (by omega)⟩

/-- The queue is in order, and its timers end at times with a property. -/
structure Queued (now : Timeval) (ends : Timeval → Prop) (state : State) : Prop where
  now : state.now = now
  jitter : -(helloInterval : Int) ≤ state.jitter
  inOrder : state.timers.InOrder
  ends : ∀ id ∈ state.timers.tq, ends (timerTimeoutOf state id)

theorem mem_tq_timerSetTimeout {other : TimerId} {msec : Int}
    (member : other ∈ (timerSetTimeout now id msec timers).tq) : other = id ∨ other ∈ timers.tq := by
  rw [timerSetTimeout_eq] at member
  rcases List.mem_cons.mp ((timerInsert_perm ..).mem_iff.mp member) with same | detached
  · exact .inl same
  · refine .inr ?_
    unfold timerDetached at detached
    split at detached
    · exact List.mem_of_mem_erase detached
    · exact detached

theorem Timers.InOrder.setHandler (inOrder : timers.InOrder) (id : TimerId) (handler : Handler) :
    (timerSetHandler id handler timers).InOrder := by
  refine ⟨inOrder.linked.timerSetHandler id handler, inOrder.ordered.congr fun other _ => ?_⟩
  rw [Timers.due, Timers.due, timer_timerSetHandler]
  split
  · rename_i same
    rw [same]
  · rfl

theorem not_mem_tq_of_unused (linked : timers.Linked) (unused : (timers.timer id).used = false) :
    id ∉ timers.tq := by
  intro member
  have used := (linked.used id).mpr (List.mem_append_left _ member)
  exact absurd (unused.symm.trans used) Bool.false_ne_true

theorem Timers.InOrder.init (inOrder : timers.InOrder) (unused : (timers.timer id).used = false)
    (handler : Handler) : (timerInit id handler timers).InOrder := by
  refine ⟨inOrder.linked.timerInit unused handler, inOrder.ordered.congr fun other member => ?_⟩
  have different : other ≠ id := fun same =>
    not_mem_tq_of_unused inOrder.linked unused (same ▸ member)
  rw [Timers.due, Timers.due, timer_timerInit, if_neg different]

theorem timerRule_queued {ends : Timeval → Prop}
    (armed : ∀ msec, 0 ≤ msec → ends (timevalDeadline now msec)) : TimerRule (Queued now ends) where
  same holds timers clock jitter := by
    refine ⟨clock.trans holds.now, jitter ▸ holds.jitter, timers ▸ holds.inOrder, ?_⟩
    unfold timerTimeoutOf
    rw [timers]
    exact holds.ends
  arm := by
    intro state holds id msec timely
    refine ⟨holds.now, holds.jitter, (QueueStep.setTimeout ..).inOrder holds.inOrder, ?_⟩
    intro other member
    show ends ((timerSetTimeout _ _ _ _).timer other).timeout
    rw [timer_timerSetTimeout]
    split
    · rw [holds.now]
      exact armed msec (timely holds.jitter)
    · rename_i different
      exact holds.ends other ((mem_tq_timerSetTimeout member).resolve_left different)
  remove := by
    intro state holds id _
    refine ⟨holds.now, holds.jitter, (QueueStep.remove ..).inOrder holds.inOrder, ?_⟩
    intro other member
    show ends ((timerRemove _ _).timer other).timeout
    have old := holds.ends other (List.mem_of_mem_erase member)
    rw [timer_timerRemove]
    split
    · rename_i same
      exact same ▸ old
    · exact old
  install := by
    intro state holds id handler _
    refine ⟨holds.now, holds.jitter, holds.inOrder.setHandler id handler, ?_⟩
    intro other member
    show ends ((timerSetHandler _ _ _).timer other).timeout
    have old := holds.ends other member
    rw [timer_timerSetHandler]
    split
    · rename_i same
      exact same ▸ old
    · exact old
  start := by
    intro state holds id handler unused
    refine ⟨holds.now, holds.jitter, holds.inOrder.init unused handler, ?_⟩
    intro other member
    have different : other ≠ id := fun same =>
      not_mem_tq_of_unused holds.inOrder.linked unused (same ▸ member)
    show ends ((timerInit _ _ _).timer other).timeout
    rw [timer_timerInit, if_neg different]
    exact holds.ends other member

theorem Queued.popTimer {ends : Timeval → Prop} {state : State} (queued : Queued now ends state)
    (batch : state.timers.expTq = id :: rest) : Queued now ends (popTimer id rest state) := by
  refine ⟨queued.now, queued.jitter, (QueueStep.execute _ id rest batch).inOrder queued.inOrder, ?_⟩
  intro other member
  show ends ((timerPop id rest state.timers).timer other).timeout
  have old := queued.ends other member
  rw [timer_timerPop]
  split
  · rename_i same
    exact same ▸ old
  · exact old

/-! ### The timer of the packet queue -/

/-- The timer of the packet queue is armed and runs its own handler. -/
structure Guarded (state : State) : Prop where
  linked : state.timers.Linked
  used : timerUsed state .garbageCollectTimer = true
  handler : (state.timers.timer .garbageCollectTimer).handler = some .packetQueueTimeout

/-- The fields of the timer of the packet queue stay. -/
theorem Guarded.of_timer {before after : State} (guarded : Guarded before)
    (linked : after.timers.Linked)
    (same : after.timers.timer .garbageCollectTimer = before.timers.timer .garbageCollectTimer) :
    Guarded after :=
  ⟨linked, (congrArg Timer.used same).trans guarded.used,
    (congrArg Timer.handler same).trans guarded.handler⟩

theorem timerRule_guarded : TimerRule Guarded where
  same holds timers _ _ := holds.of_timer (timers ▸ holds.linked) (by rw [timers])
  arm := by
    intro state holds id msec _
    have linked := holds.linked.timerSetTimeout state.now id msec
    by_cases same : TimerId.garbageCollectTimer = id
    · have timer := (timer_timerSetTimeout state.now id .garbageCollectTimer msec
        state.timers).trans (if_pos same)
      refine ⟨linked, congrArg Timer.used timer, (congrArg Timer.handler timer).trans ?_⟩
      exact same ▸ holds.handler
    · exact holds.of_timer linked ((timer_timerSetTimeout ..).trans (if_neg same))
  remove := by
    intro state holds id other
    exact holds.of_timer (holds.linked.timerRemove id)
      ((timer_timerRemove ..).trans (if_neg other.symm))
  install := by
    intro state holds id handler other
    exact holds.of_timer (holds.linked.timerSetHandler id handler)
      ((timer_timerSetHandler ..).trans (if_neg other.symm))
  start := by
    intro state holds id handler unused
    have other : TimerId.garbageCollectTimer ≠ id := by
      rintro rfl
      exact absurd (unused.symm.trans holds.used) Bool.false_ne_true
    exact holds.of_timer (holds.linked.timerInit unused handler)
      ((timer_timerInit ..).trans (if_neg other))

theorem Guarded.popTimer {state : State} (guarded : Guarded state)
    (batch : state.timers.expTq = id :: rest) (other : id ≠ .garbageCollectTimer) :
    Guarded (popTimer id rest state) :=
  guarded.of_timer (guarded.linked.timerPop batch)
    ((timer_timerPop ..).trans (if_neg other.symm))

/-! ### Handlers -/

section

variable {property : State → Prop} {config : Config} {state : State}

theorem TimerRule.helloSend (rule : TimerRule property) (holds : property state) :
    property (helloSend config state) := by
  unfold Aodvd.helloSend
  split
  · exact rule.remove holds _ (by simp)
  · dsimp only
    split
    · have sent : property (helloSendAll config state) :=
        rule.aside holds (aside_helloSendAll config state)
      refine rule.arm sent _ _ fun bounded => ?_
      rw [(aside_helloSendAll config state).jitter] at bounded
      have := helloJitter_bounded config bounded
      omega
    · split
      · exact rule.arm holds _ _ fun _ => by omega
      · exact rule.arm holds _ _ fun _ => by omega

theorem TimerRule.routeDiscoveryTimeout (rule : TimerRule property) (holds : property state)
    (dest : Addr) : property (routeDiscoveryTimeout config dest state) := by
  unfold Aodvd.routeDiscoveryTimeout
  split
  · exact holds
  · rename_i entry _
    split
    · have retried : property (setTimeout (.seekTimer entry.destAddr)
          (seekWait config (seekRetry config entry))
          (setSeekEntry entry.destAddr (seekRetry config) state)) := by
        refine rule.arm ?_ _ _ (timely_natCast _ _)
        exact rule.same holds rfl rfl rfl
      unfold discoveryRetry
      dsimp only
      refine rule.aside ?_ (rreqSend_acts config (show Event.timers.Local from trivial) state ..).2
      split
      · exact retried
      · exact (rule.table config).timerActs retried (keepForDiscovery_acts ..)
    · have gaveUp : property (Aodvd.seekListRemove entry.destAddr
          (packetQueueDrop entry.destAddr state)) := by
        refine rule.seekListRemove ?_ entry.destAddr
        exact rule.same holds rfl rfl rfl
      unfold discoveryGiveUp
      dsimp only
      split
      · exact gaveUp
      · split
        · exact (rule.table config).localRepairTimeout gaveUp (.inr trivial)
        · exact gaveUp

/-- A handler keeps what the operations on timers keep. -/
theorem TimerRule.runsHandler {final : State} {handler : Handler} (rule : TimerRule property)
    (logs : 0 ≤ config.rtLogInterval) (holds : property state)
    (unlisted : ∀ dest, dest ∉ state.rreqBlacklist → timerUsed state (.blTimer dest) = false)
    (runs : RunsHandler config state id handler final) : property final := by
  cases runs with
  | expire dest =>
    unfold routeExpireTimeout
    split
    · exact holds
    · split
      · exact (rule.table config).neighborLinkBreak holds dest
      · exact rule.same ((rule.table config).rtTableInvalidate holds dest) rfl rfl rfl
  | delete dest => exact (rule.table config).rtTableDelete holds dest
  | repair dest => exact (rule.table config).localRepairTimeout holds (.inr trivial)
  | blacklist dest => exact rule.rreqBlacklistInsert holds dest (unlisted dest)
  | hello dest => exact (rule.table config).helloTimeout holds dest
  | discovery dest => exact rule.routeDiscoveryTimeout holds dest
  | collect =>
    refine rule.arm ?_ _ _ (timely_natCast _ _)
    exact rule.same holds rfl rfl rfl
  | greet => exact rule.helloSend holds
  | log => exact rule.arm holds _ _ fun _ => logs
  | _ => exact rule.same holds rfl rfl rfl

/-- The timer of the packet queue arms itself again when it fires, and the others leave it alone. -/
theorem Guarded.runTimer (logs : 0 ≤ config.rtLogInterval) (guarded : Guarded state)
    (clocked : Clocked state) (batch : state.timers.expTq = id :: rest) :
    Guarded (runTimer config id rest state) := by
  by_cases own : id = .garbageCollectTimer
  · subst own
    have handler : ((timerPop .garbageCollectTimer rest state.timers).timer
        .garbageCollectTimer).handler = some .packetQueueTimeout := by
      rw [timer_timerPop, if_pos rfl]
      exact guarded.handler
    have timer := timer_timerSetTimeout state.now .garbageCollectTimer .garbageCollectTimer
      garbageCollectTime (timerPop .garbageCollectTimer rest state.timers)
    rw [if_pos rfl] at timer
    rw [runTimer_eq, guarded.handler]
    exact ⟨(guarded.linked.timerPop batch).timerSetTimeout .., congrArg Timer.used timer,
      (congrArg Timer.handler timer).trans handler⟩
  · have popped := guarded.popTimer batch own
    refine runTimer_cases (fun _ => popped) fun _ _ _ runs =>
      timerRule_guarded.runsHandler logs popped (fun dest absent => ?_) runs
    show ((timerPop id rest state.timers).timer _).used = false
    rw [timer_timerPop]
    split
    · rfl
    · exact clocked.unused absent

theorem sameTimers_packetQueueAdd (packetId : BitVec 32) (dest : Addr) (state : State) :
    (packetQueueAdd packetId dest state).timers = state.timers ∧
      (packetQueueAdd packetId dest state).now = state.now ∧
      (packetQueueAdd packetId dest state).jitter = state.jitter := by
  obtain ⟨_, _, added⟩ := packetQueueAdd_eq packetId dest state
  rw [added]
  exact ⟨rfl, rfl, rfl⟩

/-- An event other than timers keeps what the operations on timers keep. -/
theorem TimerRule.handled {final : State} (rule : TimerRule property)
    (logs : 0 ≤ config.rtLogInterval) (atRest : AtRest config origin)
    (handled : Handled config origin event final) (other : event ≠ .timers)
    (holds : property origin) : property final := by
  have acts {before after : State} (clocked : Clocked before) (holds : property before)
      (acts : Acts config event origin before after) : property after :=
    rule.acts (fun due => absurd due other) logs clocked acts holds
  cases handled with
  | timers => exact absurd rfl other
  | message received chain => exact acts atRest.clocked holds chain
  | txDrop ip chain => exact acts atRest.clocked holds chain
  | verdict packet verdict chain =>
    have delivered : ClockStep origin (deliver packet origin) :=
      clockStep_of_same rfl rfl (fun _ => id) rfl rfl
    have handed : property (deliver packet origin) := rule.same holds rfl rfl rfl
    exact rule.same (acts (delivered.clocked atRest.clocked) handed chain) rfl rfl rfl
  | buffer packet dest chain later =>
    have delivered : ClockStep origin (deliver packet origin) :=
      clockStep_of_same rfl rfl (fun _ => id) rfl rfl
    have handed : property (deliver packet origin) := rule.same holds rfl rfl rfl
    have reached := delivered.trans (Acts.clockStep chain)
    have queued := reached.trans (clockStep_packetQueueAdd packet.packetId dest _)
    have current := acts (delivered.clocked atRest.clocked) handed chain
    refine acts (queued.clocked atRest.clocked) ?_ later
    have same := sameTimers_packetQueueAdd packet.packetId dest
    exact rule.same current (same _).1 (same _).2.1 (same _).2.2

/-! ### Runs -/

/-- What the clock and the random numbers give: a normal time, and a jitter of at most half of
`JITTER_INTERVAL`. -/
structure Measured (now : Timeval) (jitter : Int) : Prop where
  normal : now.Normal
  least : -(jitterInterval / 2 : Int) ≤ jitter
  most : jitter ≤ (jitterInterval / 2 : Int)

theorem Measured.bounded (measured : Measured now jitter) : -(helloInterval : Int) ≤ jitter := by
  have least := measured.least
  unfold jitterInterval at least
  unfold helloInterval
  omega

/-- Between two events the queue is in order, its times are normal and the timer of the packet queue
is in it. -/
structure Waiting (state : State) : Prop where
  inOrder : state.timers.InOrder
  normal : ∀ id ∈ state.timers.tq, (timerTimeoutOf state id).Normal
  guarded : Guarded state

theorem Waiting.arrive (waiting : Waiting state) (input : Input)
    (measured : Measured input.now input.jitter) :
    Queued input.now Timeval.Normal (arrive input state) ∧ Guarded (arrive input state) :=
  ⟨⟨rfl, measured.bounded, waiting.inOrder, waiting.normal⟩,
    waiting.guarded.of_timer waiting.guarded.linked rfl⟩

/-- A timer that `timer_timeout` leaves in the queue is not due. -/
theorem queued_timerTimeout (logs : 0 ≤ config.rtLogInterval) (atRest : AtRest config state)
    (normal : now.Normal) (queued : Queued now Timeval.Normal state) :
    Queued now (fun time => time.Normal ∧ micros now ≤ micros time)
      (timerTimeout config state) := by
  have gathered : Queued now (fun time => time.Normal ∧ micros now ≤ micros time)
      (gather state) := by
    refine ⟨queued.now, queued.jitter, (QueueStep.collect _ _ atRest.idle).inOrder queued.inOrder,
      fun id left => ⟨queued.ends id (List.dropWhile_sublist _ |>.subset left), ?_⟩⟩
    have later := lt_due_of_mem_tq queued.inOrder.ordered left
    rw [queued.now] at later
    exact Int.le_of_lt later
  have armed : ∀ msec, 0 ≤ msec → (timevalDeadline now msec).Normal ∧
      micros now ≤ micros (timevalDeadline now msec) := by
    intro msec future
    refine ⟨normal_timevalDeadline normal future, ?_⟩
    rw [micros_timevalDeadline]
    omega
  have regular : Regular config (gather state) := atRest.toRegular.of_rtTbl rfl
  have acts : Acts config .timers state (gather state) (timerTimeout config state) :=
    (runBatch_acts regular atRest.gather (Nat.le_refl _)).1
  exact (timerRule_queued armed).acts (fun _ _ _ _ batch holds => holds.popTimer batch)
    logs atRest.gather acts gathered

theorem Waiting.step (logs : 0 ≤ config.rtLogInterval) (atRest : AtRest config state)
    (waiting : Waiting state) {input : Input} (measured : Measured input.now input.jitter) :
    Waiting (step config state input) := by
  obtain ⟨queued, guarded⟩ := waiting.arrive input measured
  have resting := atRest.arrive input
  have handled := step_handled atRest input
  by_cases due : input.event = .timers
  · have aged : Aodvd.step config state input = timerTimeout config (Aodvd.arrive input state) := by
      show handleEvent config input.event _ = _
      rw [due]
      rfl
    rw [aged]
    have kept := queued_timerTimeout logs resting measured.normal queued
    refine ⟨kept.inOrder, fun id member => (kept.ends id member).1, ?_⟩
    exact runBatch_invariant (fun _ clocked batch guarded => guarded.runTimer logs clocked batch) _
      (resting.toRegular.of_rtTbl rfl) resting.gather (guarded.of_timer resting.gather.linked rfl)
  · have armed : ∀ msec, 0 ≤ msec → (timevalDeadline input.now msec).Normal :=
      fun _ future => normal_timevalDeadline measured.normal future
    have kept := (timerRule_queued armed).handled logs resting handled due queued
    exact ⟨kept.inOrder, kept.ends, timerRule_guarded.handled logs resting handled due guarded⟩

theorem Guarded.tq_ne_nil (guarded : Guarded state) (idle : state.timers.expTq = []) :
    state.timers.tq ≠ [] := by
  have member := (guarded.linked.used .garbageCollectTimer).mp guarded.used
  rw [idle, List.append_nil] at member
  exact List.ne_nil_of_mem member

theorem waiting_boot (logs : 0 ≤ config.rtLogInterval) (measured : Measured now jitter) :
    Waiting (boot config now jitter) := by
  have fresh : (zeroState now jitter).timers.Fresh := ⟨rfl, rfl, fun _ => rfl⟩
  have zero : Queued now Timeval.Normal (zeroState now jitter) :=
    ⟨rfl, measured.bounded, fresh.inOrder, fun _ member => absurd member List.not_mem_nil⟩
  have rule : TimerRule (Queued now Timeval.Normal) :=
    timerRule_queued fun _ future => normal_timevalDeadline measured.normal future
  have queued : Queued now Timeval.Normal (packetQueueInit (rtTableInit (zeroState now jitter))) :=
    rule.arm (rule.start zero .garbageCollectTimer .packetQueueTimeout rfl) _ _
      (timely_natCast _ _)
  have guarded : Guarded (packetQueueInit (rtTableInit (zeroState now jitter))) := by
    have timer := timer_timerSetTimeout now .garbageCollectTimer .garbageCollectTimer
      garbageCollectTime (timerInit .garbageCollectTimer .packetQueueTimeout
        (zeroState now jitter).timers)
    rw [if_pos rfl] at timer
    refine ⟨queued.inOrder.linked, congrArg Timer.used timer,
      (congrArg Timer.handler timer).trans ?_⟩
    exact congrArg Timer.handler ((timer_timerInit ..).trans (if_pos rfl))
  have clocked : Clocked (packetQueueInit (rtTableInit (zeroState now jitter))) :=
    (queueInit_acts config (.txDrop 0#32) (zeroState now jitter) now jitter).clockStep.clocked
      (atRest_zeroState config now jitter).clocked
  have acts := started_acts config (.txDrop 0#32) (zeroState now jitter) now jitter
  have started := rule.acts (fun due => absurd due (by simp)) logs clocked acts queued
  exact ⟨started.inOrder, started.ends,
    timerRule_guarded.acts (fun due => absurd due (by simp)) logs clocked acts guarded⟩

theorem waiting_run (logs : 0 ≤ config.rtLogInterval) {inputs : List Input}
    (start : Measured now jitter) (measured : ∀ input ∈ inputs, Measured input.now input.jitter) :
    Waiting (run config now jitter inputs) := by
  induction inputs using List.reverseRecOn with
  | nil => exact waiting_boot logs start
  | append_singleton inputs input inductionHypothesis =>
    have stepped : run config now jitter (inputs ++ [input]) =
        step config (run config now jitter inputs) input := List.foldl_concat ..
    rw [stepped]
    have earlier := inductionHypothesis fun other member =>
      measured other (List.mem_append_left _ member)
    exact earlier.step logs (atRest_run config now jitter inputs)
      (measured input (List.mem_append_right _ (List.mem_singleton.mpr rfl)))

/-- What remains until a time that is not over is a time to wait for. -/
theorem timevalRemaining_usable {timeout : Timeval} (normal : timeout.Normal)
    (reading : now.Normal) (later : micros now ≤ micros timeout) :
    0 ≤ (timevalRemaining timeout now).sec ∧ (timevalRemaining timeout now).Normal := by
  obtain ⟨least, most⟩ := normal
  obtain ⟨nowLeast, nowMost⟩ := reading
  unfold micros at later
  unfold timevalRemaining Timeval.Normal
  split
  · dsimp only
    omega
  · dsimp only
    omega

/-- The interval that the last `-r` with a number gives for the routing table log, in milliseconds,
is one that an `int` holds. -/
def LogFits (config : Config) : Prop :=
  ∀ arg, (config.rtLogArgs.filter RtLogArg.isDigit).getLast? = some arg → arg.msec < 2 ^ 31

theorem intOfDouble_nonneg_iff (value : Nat) : 0 ≤ intOfDouble value ↔ value < 2 ^ 31 := by
  unfold intOfDouble
  split
  · omega
  · omega

theorem rtLogInterval_nonneg_iff : 0 ≤ config.rtLogInterval ↔ LogFits config := by
  unfold Config.rtLogInterval LogFits
  induction config.rtLogArgs using List.reverseRecOn with
  | nil => simp
  | append_singleton args last inductionHypothesis =>
    rw [List.foldl_concat, List.filter_append]
    cases digit : last.isDigit with
    | true => simp [digit, intOfDouble_nonneg_iff]
    | false => simp [digit, inductionHypothesis]

/-- The main loop always gets a timeout it can wait for: whatever has happened since the start and
whatever the handlers of the expired timers do, `timer_age_queue` returns a time, and it is not
negative and normal, provided the interval of the routing table log fits. -/
theorem timerAgeQueue_usable (config : Config) (fits : LogFits config)
    (now : Timeval) (jitter : Int) (inputs : List Input) (start : Measured now jitter)
    (measured : ∀ input ∈ inputs, Measured input.now input.jitter) (reading : Timeval)
    (shake : Int) (measuredNow : Measured reading shake) :
    ∃ remaining, timerAgeQueue config
        (arrive ⟨reading, shake, .timers⟩ (run config now jitter inputs)) =
        (run config now jitter (inputs ++ [⟨reading, shake, .timers⟩]), some remaining) ∧
      0 ≤ remaining.sec ∧ 0 ≤ remaining.usec ∧ remaining.usec < 1000000 := by
  have logs := rtLogInterval_nonneg_iff.mpr fits
  have stepped : run config now jitter (inputs ++ [⟨reading, shake, .timers⟩]) =
      timerTimeout config (arrive ⟨reading, shake, .timers⟩ (run config now jitter inputs)) :=
    List.foldl_concat ..
  have resting := (atRest_run config now jitter inputs).arrive ⟨reading, shake, .timers⟩
  have all : ∀ input ∈ inputs ++ [⟨reading, shake, .timers⟩], Measured input.now input.jitter := by
    intro input member
    rcases List.mem_append.mp member with earlier | last
    · exact measured input earlier
    · rw [List.mem_singleton.mp last]
      exact measuredNow
  have aged := waiting_run logs start all
  have agedRest := atRest_run config now jitter (inputs ++ [⟨reading, shake, .timers⟩])
  obtain ⟨queued, guarded⟩ :=
    (waiting_run logs start measured).arrive ⟨reading, shake, .timers⟩ measuredNow
  have kept := queued_timerTimeout logs resting measuredNow.normal queued
  rw [← stepped] at kept
  rw [timerAgeQueue, if_neg (guarded.tq_ne_nil resting.idle), ← stepped]
  cases queue : (run config now jitter (inputs ++ [⟨reading, shake, .timers⟩])).timers.tq with
  | nil => exact absurd queue (aged.guarded.tq_ne_nil agedRest.idle)
  | cons first rest =>
    obtain ⟨normal, later⟩ := kept.ends first (queue ▸ List.mem_cons_self)
    exact ⟨_, by dsimp only; rw [queue]; rfl,
      timevalRemaining_usable normal measuredNow.normal later⟩

end

/-- A HELLO, and a RREP with the longest lifetime that its field can hold. -/
def longLived : List Input :=
  [inputAt 16000 (helloFrom 2#32 5#32),
    inputAt 16100 (.message ⟨.rrep ⟨false, false, 1, 9#32, 7#32, 1#32, 4294967295, []⟩, rrepSize, 2#32,
      1#32, 5, 1⟩)]

theorem timerAgeQueue_usable_longLived :
    ∃ remaining, timerAgeQueue loneConfig
        (arrive ⟨⟨16, 300000⟩, 0, .timers⟩ (run loneConfig ⟨0, 0⟩ 0 longLived)) =
        (run loneConfig ⟨0, 0⟩ 0 (longLived ++ [⟨⟨16, 300000⟩, 0, .timers⟩]), some remaining) ∧
      0 ≤ remaining.sec ∧ 0 ≤ remaining.usec ∧ remaining.usec < 1000000 :=
  timerAgeQueue_usable loneConfig (rtLogInterval_nonneg_iff.mp (by decide)) ⟨0, 0⟩ 0 longLived
    ⟨⟨by decide, by decide⟩, by decide, by decide⟩
    (fun input member => by
      rcases List.mem_cons.mp member with rfl | later
      · exact ⟨⟨by decide, by decide⟩, by decide, by decide⟩
      · rw [List.mem_singleton.mp later]
        exact ⟨⟨by decide, by decide⟩, by decide, by decide⟩)
    ⟨16, 300000⟩ 0 ⟨⟨by decide, by decide⟩, by decide, by decide⟩

/-- With `-r 2147484` the interval is the least `int`, the timer of the log ends almost 25 days
before it is armed, and `pselect` is to wait for a negative time. -/
theorem timerAgeQueue_negative :
    (timerAgeQueue { loneConfig with rtLogArgs := [⟨true, 2147484000⟩] }
      (arrive ⟨⟨16, 300000⟩, 0, .timers⟩
        (run { loneConfig with rtLogArgs := [⟨true, 2147484000⟩] } ⟨16, 0⟩ 0 []))).2 =
      some ⟨-2147484, 352000⟩ := by
  decide +kernel

end Aodvd
