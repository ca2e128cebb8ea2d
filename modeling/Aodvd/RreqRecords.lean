/-
This file proves that a RREQ is processed once.

`rreq_process` records the originator and the identifier of every RREQ it goes on with,
and drops the RREQs it finds recorded. A record goes only when its own timer runs out,
and the timer queue does not run a timer a millisecond early. So for the time of a path
discovery less a millisecond every further copy changes nothing.
-/

import Aodvd.Reachable
import Aodvd.TimerOrder

namespace Aodvd

variable {before after origin : State} {id : TimerId} {config : Config} {event : Event}
  {input : Input} {rreq : Rreq} (dest : Addr) (state : State)

/-! ### What leaves the records alone -/

/-- The clock, the records and the timers of records stay. -/
structure RecordsKept (before after : State) : Prop where
  now : after.now = before.now
  rreqRecords : after.rreqRecords = before.rreqRecords
  timer : ∀ origAddr rreqId, after.timers.timer (.recTimer origAddr rreqId) =
    before.timers.timer (.recTimer origAddr rreqId)

theorem RecordsKept.refl : RecordsKept state state := ⟨rfl, rfl, fun _ _ => rfl⟩

theorem RecordsKept.trans {first second third : State} (early : RecordsKept first second)
    (late : RecordsKept second third) : RecordsKept first third :=
  ⟨late.now.trans early.now, late.rreqRecords.trans early.rreqRecords,
    fun origAddr rreqId => (late.timer origAddr rreqId).trans (early.timer origAddr rreqId)⟩

theorem recordsKept_of_timers (now : after.now = before.now)
    (rreqRecords : after.rreqRecords = before.rreqRecords) (timers : after.timers = before.timers) :
    RecordsKept before after :=
  ⟨now, rreqRecords, fun _ _ => by rw [timers]⟩

theorem Aside.recordsKept (aside : Aside before after) : RecordsKept before after :=
  recordsKept_of_timers aside.now aside.rreqRecords aside.timers

/-- The timer is not one of a record. -/
def TimerId.Unrecorded (id : TimerId) : Prop :=
  ∀ origAddr rreqId, TimerId.recTimer origAddr rreqId ≠ id

theorem unrecorded_rtTimer : (TimerId.rtTimer dest).Unrecorded :=
  fun _ _ => TimerId.noConfusion

theorem unrecorded_helloTimer : (TimerId.helloTimer dest).Unrecorded :=
  fun _ _ => TimerId.noConfusion

theorem unrecorded_seekTimer : (TimerId.seekTimer dest).Unrecorded :=
  fun _ _ => TimerId.noConfusion

theorem unrecorded_blTimer : (TimerId.blTimer dest).Unrecorded :=
  fun _ _ => TimerId.noConfusion

theorem TimerId.Loose.unrecorded (loose : id.Loose) : id.Unrecorded := by
  intro origAddr rreqId same
  subst same
  exact loose

theorem TimerId.Plain.unrecorded (plain : id.Plain) : id.Unrecorded := by
  intro origAddr rreqId same
  subst same
  exact plain

theorem recordsKept_setTimeout (unrecorded : id.Unrecorded) (msec : Int) (state : State) :
    RecordsKept state (setTimeout id msec state) :=
  ⟨rfl, rfl, fun origAddr rreqId =>
    (timer_timerSetTimeout ..).trans (if_neg (unrecorded origAddr rreqId))⟩

theorem recordsKept_removeTimer (unrecorded : id.Unrecorded) (state : State) :
    RecordsKept state (removeTimer id state) :=
  ⟨rfl, rfl, fun origAddr rreqId =>
    (timer_timerRemove ..).trans (if_neg (unrecorded origAddr rreqId))⟩

theorem recordsKept_setHandler (unrecorded : id.Unrecorded) (handler : Handler) (state : State) :
    RecordsKept state (setHandler id handler state) :=
  ⟨rfl, rfl, fun origAddr rreqId =>
    (timer_timerSetHandler ..).trans (if_neg (unrecorded origAddr rreqId))⟩

theorem recordsKept_initTimer (unrecorded : id.Unrecorded) (handler : Handler) (state : State) :
    RecordsKept state (initTimer id handler state) :=
  ⟨rfl, rfl, fun origAddr rreqId =>
    (timer_timerInit ..).trans (if_neg (unrecorded origAddr rreqId))⟩

theorem recordsKept_popTimer (unrecorded : id.Unrecorded) (rest : List TimerId) (state : State) :
    RecordsKept state (popTimer id rest state) :=
  ⟨rfl, rfl, fun origAddr rreqId =>
    (timer_timerPop ..).trans (if_neg (unrecorded origAddr rreqId))⟩

theorem TimerAct.recordsKept (act : TimerAct before after) : RecordsKept before after := by
  cases act with
  | arm id msec plain => exact recordsKept_setTimeout plain.unrecorded msec before
  | remove id loose => exact recordsKept_removeTimer loose.unrecorded before
  | restart id handler static =>
    have plain : id.Plain := by
      cases id <;> first | exact static | trivial
    exact recordsKept_initTimer plain.unrecorded handler before

/-! ### Operations on the routing table -/

theorem recordsKept_seekListRemove : RecordsKept state (seekListRemove dest state) :=
  ⟨rfl, rfl, (recordsKept_removeTimer (unrecorded_seekTimer dest) state).timer⟩

theorem tableRule_recordsKept (start : State) : ReleaseRule config True (RecordsKept start) where
  books kept _ _ := kept.trans (recordsKept_of_timers rfl rfl rfl)
  report kept act := kept.trans
    (recordsKept_of_timers act.aside.now act.aside.rreqRecords act.aside.timers)
  rewrite kept _ _ _ _ := kept.trans (recordsKept_of_timers rfl rfl rfl)
  detach kept _ detaches := by
    obtain ⟨_, _, rfl⟩ := detaches.only
    exact kept.trans (recordsKept_of_timers rfl rfl rfl)
  timer kept act := kept.trans act.recordsKept
  remove kept dest := kept.trans (recordsKept_removeTimer (unrecorded_rtTimer dest) _)
  install kept dest handler _ := kept.trans
    (recordsKept_setHandler (unrecorded_rtTimer dest) handler _)
  unseek kept dest := kept.trans (recordsKept_seekListRemove dest _)
  flush kept _ _ _ := kept.trans (recordsKept_of_timers rfl rfl rfl)

theorem RouteAct.recordsKept (act : RouteAct config event origin before after) :
    RecordsKept before after :=
  (tableRule_recordsKept before).routeAct act (.refl _) (fun _ _ => ⟨rfl, rfl, fun _ _ =>
    timer_newEntry TimerId.noConfusion TimerId.noConfusion TimerId.noConfusion⟩)
    (fun _ dest rest _ => recordsKept_popTimer (unrecorded_helloTimer dest) rest before)
    fun _ _ _ _ => .inr trivial

/-! ### What an action does to the records -/

/-- An action leaves the records alone, detaches the timer of one, makes one or drops one whose
timer is not in use. -/
inductive RecordChange : State → State → Prop
  | kept {before after : State} (kept : RecordsKept before after) : RecordChange before after
  | pop (state : State) (origAddr : Addr) (rreqId : BitVec 32) (rest : List TimerId)
      (batch : state.timers.expTq = .recTimer origAddr rreqId :: rest) :
      RecordChange state (popTimer (.recTimer origAddr rreqId) rest state)
  | record (state : State) (origAddr : Addr) (rreqId : BitVec 32) :
      RecordChange state (rreqRecordInsert origAddr rreqId state)
  | forget (state : State) (origAddr : Addr) (rreqId : BitVec 32)
      (unused : timerUsed state (.recTimer origAddr rreqId) = false) :
      RecordChange state (rreqRecordTimeout origAddr rreqId state)

theorem recordsKept_rreqBlacklistInsert : RecordsKept state (rreqBlacklistInsert dest state) := by
  unfold rreqBlacklistInsert
  split
  · exact .refl _
  · have listed : RecordsKept state { state with rreqBlacklist := dest :: state.rreqBlacklist } :=
      recordsKept_of_timers rfl rfl rfl
    exact (listed.trans (recordsKept_initTimer (unrecorded_blTimer dest) _ _)).trans
      (recordsKept_setTimeout (unrecorded_blTimer dest) _ _)

theorem Act.recordChange (act : Act config event origin before after) :
    RecordChange before after := by
  cases act with
  | aside aside => exact .kept aside.recordsKept
  | timer act => exact .kept act.recordsKept
  | pop id rest batch =>
    cases id with
    | recTimer origAddr rreqId => exact .pop before origAddr rreqId rest batch
    | _ =>
      refine .kept (recordsKept_popTimer (fun origAddr rreqId => ?_) rest before)
      simp
  | record origAddr rreqId => exact .record before origAddr rreqId
  | forget origAddr rreqId unused => exact .forget before origAddr rreqId unused
  | blacklist dest => exact .kept (recordsKept_rreqBlacklistInsert ..)
  | pardon dest => exact .kept (recordsKept_of_timers rfl rfl rfl)
  | send => exact .kept (aside_aodvSocketSend ..).recordsKept
  | route act => exact .kept act.recordsKept
  | undertake dest => exact .kept (recordsKept_setHandler (unrecorded_rtTimer dest) _ before)
  | hear dest msec => exact .kept (recordsKept_setTimeout (unrecorded_helloTimer dest) msec before)
  | seek dest destSeqno ttl flags msec =>
    have inserted : RecordsKept before (seekListInsert dest destSeqno ttl flags before) :=
      ⟨rfl, rfl, (recordsKept_initTimer (unrecorded_seekTimer dest) _ before).timer⟩
    exact .kept (inserted.trans (recordsKept_setTimeout (unrecorded_seekTimer dest) msec _))
  | retry entry rest msec =>
    refine .kept (.trans ?_ (recordsKept_setTimeout (unrecorded_seekTimer entry.destAddr) msec _))
    refine (recordsKept_popTimer (unrecorded_seekTimer entry.destAddr) rest before).trans ?_
    exact recordsKept_of_timers rfl rfl rfl
  | giveUp entry rest =>
    refine .kept (.trans ?_ (recordsKept_seekListRemove entry.destAddr _))
    refine (recordsKept_popTimer (unrecorded_seekTimer entry.destAddr) rest before).trans ?_
    exact recordsKept_of_timers rfl rfl rfl
  | collect => exact .kept (recordsKept_of_timers rfl rfl rfl)
  | log =>
    have plain : TimerId.rtLogTimer.Plain := trivial
    exact .kept (recordsKept_setTimeout plain.unrecorded _ before)

/-! ### No RREQ is recorded twice -/

theorem RecordChange.nodup (change : RecordChange before after) (nodup : before.rreqRecords.Nodup) :
    after.rreqRecords.Nodup := by
  cases change with
  | kept kept => rwa [kept.rreqRecords]
  | pop => exact nodup
  | record origAddr rreqId =>
    unfold rreqRecordInsert
    split
    · exact nodup
    · rename_i unseen
      have fresh : (origAddr, rreqId) ∉ before.rreqRecords := by
        simpa [rreqRecordFind] using unseen
      exact List.nodup_cons.mpr ⟨fresh, nodup⟩
  | forget => exact nodup.erase _

theorem step_rreqRecords_nodup {state : State} (atRest : AtRest config state) (input : Input)
    (nodup : state.rreqRecords.Nodup) : (step config state input).rreqRecords.Nodup :=
  (step_handled atRest input).invariant_of_ignored (fun state => state.rreqRecords.Nodup)
    (atRest.toRegular.arrive input) (fun _ _ _ act => act.recordChange.nodup) (fun _ => id)
    (fun _ _ _ => id) nodup

theorem rreqRecords_boot (config : Config) (now : Timeval) (jitter : Int) :
    (boot config now jitter).rreqRecords.Nodup := by
  have acts := boot_acts config .timers (zeroState now jitter) now jitter
  exact acts.invariant (fun state => state.rreqRecords.Nodup) (regular_zeroState config now jitter)
    (fun _ _ _ act => act.recordChange.nodup) List.nodup_nil

/-! ### A record stays until its time -/

/-- A RREQ is recorded, and its record goes at the deadline. -/
structure Recorded (origAddr : Addr) (rreqId : BitVec 32) (deadline : Timeval) (state : State) :
    Prop where
  member : (origAddr, rreqId) ∈ state.rreqRecords
  used : timerUsed state (.recTimer origAddr rreqId) = true
  timeout : timerTimeoutOf state (.recTimer origAddr rreqId) = deadline
  pending : .recTimer origAddr rreqId ∉ state.timers.expTq

variable {origAddr : Addr} {rreqId : BitVec 32} {deadline : Timeval}

theorem Recorded.of_timer (recorded : Recorded origAddr rreqId deadline before)
    (member : (origAddr, rreqId) ∈ after.rreqRecords)
    (timer : after.timers.timer (.recTimer origAddr rreqId) =
      before.timers.timer (.recTimer origAddr rreqId))
    (batch : after.timers.expTq.Sublist before.timers.expTq) :
    Recorded origAddr rreqId deadline after where
  member := member
  used := by rw [timerUsed, timer]; exact recorded.used
  timeout := by rw [timerTimeoutOf, timer]; exact recorded.timeout
  pending collected := recorded.pending (batch.subset collected)

theorem Recorded.of_kept (recorded : Recorded origAddr rreqId deadline before)
    (kept : RecordsKept before after) (batch : after.timers.expTq.Sublist before.timers.expTq) :
    Recorded origAddr rreqId deadline after :=
  recorded.of_timer (kept.rreqRecords.symm ▸ recorded.member) (kept.timer origAddr rreqId) batch

theorem timer_rreqRecordInsert {origAddr : Addr} {rreqId : BitVec 32} {state : State}
    (unseen : rreqRecordFind state origAddr rreqId = false) (id : TimerId) :
    (rreqRecordInsert origAddr rreqId state).timers.timer id =
      if id = .recTimer origAddr rreqId then
        ⟨true, timevalDeadline state.now pathDiscoveryTime, some .rreqRecordTimeout⟩
      else state.timers.timer id := by
  unfold rreqRecordInsert
  rw [if_neg (Bool.eq_false_iff.mp unseen)]
  refine (timer_timerSetTimeout ..).trans ?_
  split
  · refine congrArg (Timer.mk true _) ?_
    show ((timerInit _ _ _).timer _).handler = _
    rw [timer_timerInit, if_pos rfl]
  · rename_i different
    exact (timer_timerInit ..).trans (if_neg different)

theorem Act.recorded (act : Act config event origin before after)
    (recorded : Recorded origAddr rreqId deadline before) :
    Recorded origAddr rreqId deadline after := by
  have batch := act.clockStep.batch
  have change := act.recordChange
  clear act
  cases change with
  | kept kept => exact recorded.of_kept kept batch
  | pop otherAddr otherId rest expired =>
    have different : TimerId.recTimer origAddr rreqId ≠ .recTimer otherAddr otherId := fun same =>
      recorded.pending (expired ▸ same ▸ List.mem_cons_self)
    exact recorded.of_timer recorded.member ((timer_timerPop ..).trans (if_neg different)) batch
  | record otherAddr otherId =>
    by_cases seen : rreqRecordFind before otherAddr otherId = true
    · rw [rreqRecordInsert, if_pos seen]
      exact recorded
    · have unseen := Bool.eq_false_iff.mpr seen
      have different : TimerId.recTimer origAddr rreqId ≠ .recTimer otherAddr otherId := by
        intro same
        obtain ⟨rfl, rfl⟩ := TimerId.recTimer.inj same
        exact seen (decide_eq_true recorded.member)
      refine recorded.of_timer ?_ ((timer_rreqRecordInsert unseen _).trans (if_neg different)) batch
      rw [rreqRecordInsert, if_neg seen]
      exact List.mem_cons_of_mem _ recorded.member
  | forget otherAddr otherId unused =>
    have different : (origAddr, rreqId) ≠ (otherAddr, otherId) := by
      intro same
      obtain ⟨rfl, rfl⟩ := Prod.mk.inj same
      exact absurd (recorded.used.symm.trans unused) (by simp)
    exact recorded.of_timer ((List.mem_erase_of_ne different).mpr recorded.member) rfl batch

theorem Acts.recorded (acts : Acts config event origin before after)
    (recorded : Recorded origAddr rreqId deadline before) :
    Recorded origAddr rreqId deadline after := by
  induction acts with
  | refl => exact recorded
  | tail _ last inductionHypothesis => exact last.recorded inductionHypothesis

/-- A batch collected a millisecond before the deadline does not hold the timer of the record. -/
theorem Recorded.gather {state : State} (recorded : Recorded origAddr rreqId deadline state)
    (early : micros state.now + 1000 ≤ micros deadline) :
    Recorded origAddr rreqId deadline (Aodvd.gather state) where
  member := recorded.member
  used := recorded.used
  timeout := recorded.timeout
  pending collected := by
    have due := due_lt_of_mem_expTq collected
    have timeout : (state.timers.timer (.recTimer origAddr rreqId)).timeout = deadline :=
      recorded.timeout
    rw [Timers.due, timeout] at due
    omega

/-- An event a millisecond before the deadline leaves the record in place. -/
theorem step_recorded {state : State} (atRest : AtRest config state)
    (early : micros input.now + 1000 ≤ micros deadline)
    (recorded : Recorded origAddr rreqId deadline state) :
    Recorded origAddr rreqId deadline (step config state input) :=
  (step_handled atRest input).invariant_of_ignored (Recorded origAddr rreqId deadline)
    (atRest.toRegular.arrive input) (fun _ _ _ act => act.recorded)
    (fun _ recorded => recorded.gather early)
    (fun _ _ _ recorded => recorded.of_kept (recordsKept_of_timers rfl rfl rfl) (.refl _))
    (recorded.of_timer recorded.member rfl (.refl _))

theorem runFrom_recorded {state : State} (atRest : AtRest config state) {inputs : List Input}
    (early : ∀ input ∈ inputs, micros input.now + 1000 ≤ micros deadline)
    (recorded : Recorded origAddr rreqId deadline state) :
    Recorded origAddr rreqId deadline (runFrom config state inputs) := by
  have both : AtRest config (runFrom config state inputs) ∧
      Recorded origAddr rreqId deadline (runFrom config state inputs) :=
    Runs.invariant
      (fun state => AtRest config state ∧ Recorded origAddr rreqId deadline state)
      (fun state input current early =>
        ⟨current.1.step input, step_recorded current.1 early current.2⟩)
      ⟨atRest, recorded⟩ (Runs.meets_of_forall early state)
  exact both.2

/-! ### A RREQ is processed once -/

theorem RecordChange.now (change : RecordChange before after) : after.now = before.now := by
  cases change with
  | kept kept => exact kept.now
  | pop => rfl
  | record origAddr rreqId =>
    unfold rreqRecordInsert
    split <;> rfl
  | forget => rfl

theorem Acts.now (acts : Acts config event origin before after) : after.now = before.now := by
  induction acts with
  | refl => rfl
  | tail _ last inductionHypothesis => exact last.recordChange.now.trans inductionHypothesis

theorem step_of_handlesRreq {state : State} {received : Received} (atRest : AtRest config state)
    (handles : HandlesRreq config input.event (arrive input state) received rreq) :
    ∃ met, Introduced config (arrive input state) received met ∧
      step config state input = rreqContinue config rreq received.len received.ttl received.ifindex
        (rreqReverse config rreq received.src received.ifindex
          (rreqRecordInsert rreq.origAddr rreq.rreqId met)) := by
  have notHello := Received.hello_eq_none_of_rreq handles.isRreq
  have introduced := neighborAdd_introduced (atRest.toRegular.arrive input)
    (show Arrives config (.message received) received from ⟨rfl, handles.foreign⟩) notHello
  refine ⟨_, introduced, ?_⟩
  have unlisted : rreqBlacklistFind (neighborAdd config received.src received.ifindex
      (arrive input state)) received.src = false := by
    rw [rreqBlacklistFind, introduced.records.rreqBlacklist]
    exact handles.unlisted
  have unseen : rreqRecordFind (neighborAdd config received.src received.ifindex
      (arrive input state)) rreq.origAddr rreq.rreqId = false := by
    rw [rreqRecordFind, introduced.records.rreqRecords]
    exact handles.unseen
  show handleEvent config input.event (arrive input state) = _
  rw [handles.event]
  show aodvSocketRead config received (arrive input state) = _
  rw [aodvSocketRead, if_neg handles.foreign, aodvSocketProcessPacket, notHello]
  dsimp only
  rw [processMsg, handles.isRreq]
  dsimp only
  rw [rreqProcess, if_neg handles.notOwn, if_neg (Nat.not_lt.mpr handles.long),
    if_neg (Bool.eq_false_iff.mp unlisted), if_neg (Bool.eq_false_iff.mp unseen)]

/-- A RREQ that passes the checks is recorded for the time of a path discovery. -/
theorem step_records {state : State} {received : Received} (atRest : AtRest config state)
    (handles : HandlesRreq config input.event (arrive input state) received rreq) :
    Recorded rreq.origAddr rreq.rreqId (timevalDeadline input.now pathDiscoveryTime)
      (step config state input) := by
  obtain ⟨met, introduced, result⟩ := step_of_handlesRreq atRest handles
  have arrives : HandlesRreq config (.message received) (arrive input state) received rreq :=
    handles.event ▸ handles
  have unseen : rreqRecordFind met rreq.origAddr rreq.rreqId = false := by
    rw [rreqRecordFind, introduced.records.rreqRecords]
    exact handles.unseen
  have timer := timer_rreqRecordInsert unseen (.recTimer rreq.origAddr rreq.rreqId)
  rw [if_pos rfl, introduced.acts.now] at timer
  have made : Act config (.message received) (arrive input state) met
      (rreqRecordInsert rreq.origAddr rreq.rreqId met) := .record met _ _
  have idle : (rreqRecordInsert rreq.origAddr rreq.rreqId met).timers.expTq = [] := by
    have batch := made.clockStep.batch.trans introduced.acts.clockStep.batch
    rw [show (arrive input state).timers.expTq = [] from atRest.idle] at batch
    exact List.sublist_nil.mp batch
  have recorded : Recorded rreq.origAddr rreq.rreqId (timevalDeadline input.now pathDiscoveryTime)
      (rreqRecordInsert rreq.origAddr rreq.rreqId met) := by
    refine ⟨?_, by rw [timerUsed, timer], by rw [timerTimeoutOf, timer]; rfl, ?_⟩
    · rw [rreqRecordInsert, if_neg (Bool.eq_false_iff.mp unseen)]
      exact List.mem_cons_self
    · rw [idle]
      exact List.not_mem_nil
  obtain ⟨reverse, rt, found, reversed⟩ := rreqReversed_acts introduced arrives
  have continued := rreqContinue_acts (reverse.regular (made.regular introduced.regular)) arrives
    found reversed
  rw [result]
  exact continued.recorded (reverse.recorded recorded)

theorem rreqProcess_of_recorded {len : Nat} {ipSrc : Addr} {ipTtl : Int} {ifindex : Nat}
    {state : State} (member : (rreq.origAddr, rreq.rreqId) ∈ state.rreqRecords) :
    rreqProcess config rreq len ipSrc ipTtl ifindex state = state := by
  have seen : rreqRecordFind state rreq.origAddr rreq.rreqId = true := decide_eq_true member
  unfold rreqProcess
  simp only [seen, if_true, ite_self]

/-- No two records of a run are of one RREQ. And once a RREQ has passed the checks of
`rreq_process`, a further copy that a later event brings, a millisecond before the time of a path
discovery is over, leaves the daemon as `neighbor_add` left it: `rreq_process` does nothing. -/
theorem run_rreq_once (config : Config) (now : Timeval) (jitter : Int) (inputs : List Input) :
    (run config now jitter inputs).rreqRecords.Nodup ∧
      ∀ (first again : Input) (later : List Input) (received copy : Received) (rreq request : Rreq),
        HandlesRreq config first.event (arrive first (run config now jitter inputs)) received rreq →
        Arrives config again.event copy → copy.msg = .rreq request →
        request.origAddr = rreq.origAddr → request.rreqId = rreq.rreqId →
        ((first :: later ++ [again]).map fun input => micros input.now).Pairwise (· ≤ ·) →
        micros again.now < micros first.now + (pathDiscoveryTime - 1) * 1000 →
        let met := neighborAdd config copy.src copy.ifindex
          (arrive again (run config now jitter (inputs ++ first :: later)))
        rreqProcess config request copy.len copy.src copy.ttl copy.ifindex met = met := by
  refine ⟨run_invariant_of_step (fun state => state.rreqRecords.Nodup)
    (rreqRecords_boot config now jitter) (fun _ input atRest => step_rreqRecords_nodup atRest input)
    inputs, ?_⟩
  intro first again later received copy rreq request handles arrives isRreq sameAddr sameId clock soon
  have atRest := atRest_run config now jitter inputs
  have recorded := step_records atRest handles
  have early : ∀ input ∈ later, micros input.now + 1000 ≤
      micros (timevalDeadline first.now pathDiscoveryTime) := by
    intro input member
    have order : micros input.now ≤ micros again.now := by
      rw [List.map_append] at clock
      exact (List.pairwise_append.mp clock).2.2 _
        (List.mem_map_of_mem (List.mem_cons_of_mem _ member)) _ (List.mem_singleton.mpr rfl)
    rw [micros_timevalDeadline]
    omega
  have still := runFrom_recorded (atRest.step first) early recorded
  have same : run config now jitter (inputs ++ first :: later) =
      runFrom config (step config (run config now jitter inputs) first) later := by
    rw [run, runFrom, List.foldl_append]
    rfl
  rw [← same] at still
  have introduced := neighborAdd_introduced
    ((atRest_run config now jitter (inputs ++ first :: later)).toRegular.arrive again)
    (show Arrives config (.message copy) copy from ⟨rfl, arrives.foreign⟩)
    (Received.hello_eq_none_of_rreq isRreq)
  refine rreqProcess_of_recorded ?_
  rw [introduced.records.rreqRecords, sameAddr, sameId]
  exact still.member

/-- A RREQ and, after a timeout, its copy from another neighbour. -/
def requestedTwice : List Input :=
  [inputAt 1000 (rreqFrom 2#32 3#32 5#32 1 9#32), inputAt 1500 .timers,
    inputAt 2000 (rreqFrom 4#32 3#32 6#32 0 8#32)]

theorem run_rreq_once_copy :
    let met := neighborAdd loneConfig 4#32 1 (arrive (inputAt 2000 (rreqFrom 4#32 3#32 6#32 0 8#32))
      (run loneConfig timevalZero 0 (requestedTwice.take 2)))
    rreqProcess loneConfig ⟨.none, 0, 0#32, 8#32, 0#32, 3#32, 6#32, []⟩ rreqSize 4#32 5 1 met = met :=
  (run_rreq_once loneConfig timevalZero 0 []).2 (inputAt 1000 (rreqFrom 2#32 3#32 5#32 1 9#32))
    (inputAt 2000 (rreqFrom 4#32 3#32 6#32 0 8#32)) [inputAt 1500 .timers] _ _ _ _
    ⟨⟨rfl, by decide⟩, rfl, by decide, by decide, by decide +kernel, by decide +kernel⟩
    ⟨rfl, by decide⟩ rfl rfl rfl (by decide) (by decide)

end Aodvd
