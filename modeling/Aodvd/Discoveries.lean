/-
This file proves that no buffered packet is orphaned.

A packet is buffered together with a discovery for its destination. The discovery ends at
two places: when the destination becomes valid, and then its packets are released, and
when it is given up, and then they are dropped. Between its start and its end its timer is
armed, so one of the two comes.
-/

import Aodvd.Reachable

namespace Aodvd

variable {before after state origin : State} {dest : Addr} {config : Config} {event : Event}

/-! ### Buffered packets are followed -/

/-- A discovery is running for the destination of every buffered packet, some exempted. -/
def Followed (exempt : Addr → Prop) (state : State) : Prop :=
  ∀ qp ∈ state.pq.head, exempt qp.destAddr ∨ Sought state qp.destAddr

variable {exempt : Addr → Prop}

theorem Followed.of_same (followed : Followed exempt before) (pq : after.pq = before.pq)
    (seeks : ∀ dest, Sought before dest → Sought after dest) : Followed exempt after := by
  intro qp member
  rw [pq] at member
  exact (followed qp member).imp_right (seeks _)

theorem Sought.of_seekhead (seekhead : after.seekhead = before.seekhead)
    (sought : Sought before dest) : Sought after dest := by
  rwa [Sought, seekhead]

/-- Packets may leave the queue. -/
theorem Followed.detachPackets (followed : Followed exempt state) (chosen : QPkt → Bool)
    (verdict : NfVerdict) (cause : VerdictCause) :
    Followed exempt (Aodvd.detachPackets chosen verdict cause state) :=
  fun qp member => followed qp (List.mem_of_mem_filter member)

/-- A discovery may end when no packet waits for its destination. -/
theorem Followed.seekListRemove (followed : Followed exempt state)
    (flushed : ∀ qp ∈ state.pq.head, qp.destAddr ≠ dest) :
    Followed exempt (Aodvd.seekListRemove dest state) := by
  intro qp member
  exact (followed qp member).imp_right (sought_seekListRemove (flushed qp member)).mpr

/-- No packet of a destination is left after all of them have been detached. -/
theorem flushed_detachPackets (dest : Addr) (verdict : NfVerdict) (cause : VerdictCause)
    (state : State) :
    ∀ qp ∈ (detachPackets (fun qp => decide (qp.destAddr = dest)) verdict cause state).pq.head,
      qp.destAddr ≠ dest := by
  intro qp member
  have kept := List.of_mem_filter member
  simpa using kept

/-- A discovery whose destination has an entry ends with the release of its packets. -/
theorem Followed.releaseBuffered (followed : Followed exempt state) (config : Config)
    (sound : state.rtTbl.Sound) {rt : RtEntry} (there : entryAt state dest = some rt) :
    Followed exempt (Aodvd.releaseBuffered config dest state) := by
  unfold Aodvd.releaseBuffered
  split
  · exact followed
  · have removed : (Aodvd.seekListRemove dest state).rtTbl.Sound := sound
    have found : rtTableFind (Aodvd.seekListRemove dest state) dest = some rt :=
      (rtTableFind_eq_entryAt removed dest).trans there
    have only := (packetQueueSend_acts config found).routesOnly
    -- removing the seek entry and detaching the packets commute
    have released : Followed exempt (Aodvd.seekListRemove dest (Aodvd.detachPackets
        (fun qp => decide (qp.destAddr = dest)) .accept (.released dest state.rtTbl state.kernel)
        state)) :=
      (followed.detachPackets _ _ _).seekListRemove (flushed_detachPackets _ _ _ _)
    exact released.of_same only.pq fun _ sought => sought.of_seekhead only.seekhead

theorem Act.followed (act : Act config event origin before after) (sound : before.rtTbl.Sound)
    (followed : Followed exempt before) : Followed exempt after := by
  cases act with
  | aside aside => exact followed.of_same aside.pq fun _ sought => sought.of_seekhead aside.seekhead
  | timer act =>
    obtain ⟨timers, rfl⟩ := act.same
    exact followed
  | pop => exact followed
  | record origAddr rreqId =>
    unfold rreqRecordInsert
    split <;> exact followed
  | forget => exact followed
  | blacklist dest =>
    unfold rreqBlacklistInsert
    split <;> exact followed
  | pardon => exact followed
  | send =>
    have aside := aside_aodvSocketSend config
    exact followed.of_same (aside ..).pq fun _ sought => sought.of_seekhead (aside ..).seekhead
  | route act =>
    rcases act.routesOnly_or_releases sound with
      only | ⟨_, _, _, _, routed, rt, only, routedSound, there, _, rfl⟩
    · exact followed.of_same only.pq fun _ sought => sought.of_seekhead only.seekhead
    · have current := followed.of_same only.pq fun _ sought => sought.of_seekhead only.seekhead
      exact current.releaseBuffered config routedSound there
  | undertake => exact followed
  | hear => exact followed
  | seek dest =>
    refine followed.of_same rfl fun other sought => ?_
    obtain ⟨entry, member, same⟩ := sought
    exact ⟨entry, List.mem_cons_of_mem _ member, same⟩
  | retry entry rest =>
    refine followed.of_same rfl fun other sought => sought_iff.mpr ?_
    show other ∈ (setSeekEntry _ _ _).seekhead.map SeekEntry.destAddr
    rw [seekhead_setSeekEntry (seekRetry_destAddr config)]
    exact sought_iff.mp sought
  | giveUp entry rest =>
    have popped : Followed exempt (popTimer (.seekTimer entry.destAddr) rest before) := followed
    exact (popped.detachPackets _ _ _).seekListRemove (flushed_detachPackets _ _ _ _)
  | collect => exact followed.detachPackets _ _ _
  | log => exact followed

theorem Acts.followed (acts : Acts config event origin before after)
    (regular : Regular config before) (followed : Followed exempt before) : Followed exempt after :=
  acts.invariant (Followed exempt) regular (fun _ _ current act => act.followed current.sound) followed

theorem pq_packetQueueAdd_mem {packetId : BitVec 32} {qp : QPkt}
    (member : qp ∈ (packetQueueAdd packetId dest state).pq.head) :
    qp ∈ state.pq.head ∨ qp.destAddr = dest := by
  have kept : ∀ qp ∈ (evictOldest state).pq.head, qp ∈ state.pq.head := by
    intro qp old
    unfold evictOldest at old
    split at old
    · exact old
    · rename_i oldest rest queue
      split at old
      · rw [queue]
        exact List.mem_cons_of_mem _ old
      · exact old
  rcases List.mem_append.mp member with old | new
  · exact .inl (kept qp old)
  · rw [List.mem_singleton.mp new]
    exact .inr rfl

/-- A packet is buffered while its discovery is not running yet. -/
theorem Followed.packetQueueAdd (followed : Followed exempt state) (packetId : BitVec 32)
    (dest : Addr) :
    Followed (fun addr => exempt addr ∨ addr = dest) (Aodvd.packetQueueAdd packetId dest state) := by
  have seekhead : (Aodvd.packetQueueAdd packetId dest state).seekhead = state.seekhead := by
    unfold Aodvd.packetQueueAdd evictOldest
    dsimp only
    split
    · rfl
    · split <;> rfl
  intro qp member
  rcases pq_packetQueueAdd_mem member with old | new
  · exact (followed qp old).imp .inl fun sought => sought.of_seekhead seekhead
  · exact .inl (.inr new)

theorem Handled.followed {final : State} (handled : Handled config origin event final)
    (regular : Regular config origin) (followed : Followed (fun _ => False) origin) :
    Followed (fun _ => False) final := by
  have delivered : ∀ packet, Regular config (deliver packet origin) :=
    fun _ => regular.of_rtTbl rfl
  cases handled with
  | timers acts _ => exact acts.followed (regular.of_rtTbl rfl) followed
  | message received acts => exact acts.followed regular followed
  | txDrop ip acts => exact acts.followed regular followed
  | verdict packet verdict acts =>
    have current : Followed (fun _ => False) (deliver packet origin) := followed
    exact acts.followed (delivered packet) current
  | buffer packet dest acts later sought =>
    have looked : Followed (fun _ => False) (deliver packet origin) := followed
    have current := acts.followed (delivered packet) looked
    have currentRegular := acts.regular (delivered packet)
    have ended := later.followed (currentRegular.of_rtTbl (rtTbl_packetQueueAdd ..))
      (current.packetQueueAdd packet.packetId dest)
    intro qp member
    rcases ended qp member with (impossible | same) | following
    · exact impossible.elim
    · exact .inr (same ▸ sought)
    · exact .inr following

theorem followed_run (config : Config) (now : Timeval) (jitter : Int) (inputs : List Input) :
    Followed (fun _ => False) (run config now jitter inputs) := by
  have initial : Followed (fun _ => False) (zeroState now jitter) :=
    fun _ member => absurd member List.not_mem_nil
  have booted := (boot_acts config .timers (zeroState now jitter) now jitter).followed
    (regular_zeroState config now jitter) initial
  refine run_invariant_of_step (Followed fun _ => False) booted ?_ inputs
  intro state input atRest followed
  exact (step_handled atRest input).followed (atRest.toRegular.arrive input) followed

/-! ### No packet is orphaned -/

/-- Every buffered packet belongs to a discovery, there is at most one discovery for a
destination, and the timer of each is armed in the timer queue. -/
structure NoOrphan (state : State) : Prop where
  sought : ∀ qp ∈ state.pq.head, ∃ entry ∈ state.seekhead, entry.destAddr = qp.destAddr
  distinct : (state.seekhead.map SeekEntry.destAddr).Nodup
  armed : ∀ entry ∈ state.seekhead, timerUsed state (.seekTimer entry.destAddr) = true ∧
    TimerId.seekTimer entry.destAddr ∈ state.timers.tq

theorem run_noOrphan (config : Config) (now : Timeval) (jitter : Int) (inputs : List Input) :
    NoOrphan (run config now jitter inputs) := by
  have atRest := atRest_run config now jitter inputs
  refine ⟨fun qp member => ?_, atRest.clocked.distinct, fun entry member => ?_⟩
  · exact (followed_run config now jitter inputs qp member).elim False.elim id
  · have used := (atRest.clocked.armed entry.destAddr ⟨entry, member, rfl⟩).1
    have linked := (atRest.clocked.linked.used _).mp used
    rw [atRest.idle, List.append_nil] at linked
    exact ⟨used, linked⟩

end Aodvd
