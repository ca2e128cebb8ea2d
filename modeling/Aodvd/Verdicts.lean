/-
This file is about the verdicts on queued packets.

The history of the queue is read as a ledger: the kernel opens a packet id when it hands
the packet over, and the daemon settles it with a verdict. A verdict is issued at six
places: immediately, when a full queue evicts its oldest packet, when a route comes up,
when a discovery is given up, when packets are collected for their age, and when the queue
is destroyed. At each of them the packet leaves the queue together with its verdict, so
the queue always holds the outstanding packets, in the order in which they came.
-/

import Aodvd.Library.Ledger
import Aodvd.Reachable

namespace Aodvd

variable {before after state origin : State} {config : Config} {event : Event}
  {handed : List (BitVec 32)}

/-! ### The ledger of the queue -/

/-- What the ledger notes about a verdict: the destination of a release. -/
def VerdictCause.note : VerdictCause → Option Addr
  | .released destAddr _ _ => some destAddr
  | _ => none

def QueueEvent.entry : QueueEvent → Ledger.Entry (BitVec 32) (Option Addr)
  | .delivered packetId => .opened packetId
  | .verdict packetId _ cause => .settled packetId cause.note

/-- The history of the queue as a ledger of packet ids. -/
def ledger (state : State) : List (Ledger.Entry (BitVec 32) (Option Addr)) :=
  state.history.map QueueEvent.entry

/-- The ids in the queue. -/
def queuedIds (state : State) : List (BitVec 32) := state.pq.head.map QPkt.packetId

/-- The ids in the queue that wait for a destination. -/
def queuedFor (dest : Addr) (state : State) : List (BitVec 32) :=
  (state.pq.head.filter fun qp => decide (qp.destAddr = dest)).map QPkt.packetId

/-- The verdicts issued by `packet_queue_set_verdict` for a destination. -/
def releasedFor (dest : Addr) (note : Option Addr) : Bool := decide (note = some dest)

/-- The ledger opens with what was handed over, and the queue accounts for it, together with the
packet that is being looked at. -/
structure Tallied (handed pending : List (BitVec 32)) (state : State) : Prop where
  openings : Ledger.openings (ledger state) = handed
  accounted : Ledger.Accounted (ledger state) (queuedIds state ++ pending)
  arrived : Ledger.InOrder (fun _ => false) (ledger state) (queuedIds state ++ pending)
  released : ∀ dest, Ledger.InOrder (releasedFor dest) (ledger state) (queuedFor dest state ++ pending)
  len : state.pq.len = state.pq.head.length
  short : state.pq.head.length ≤ maxQueueLength

theorem Tallied.of_same {pending : List (BitVec 32)} (tallied : Tallied handed pending before)
    (pq : after.pq = before.pq) (history : after.history = before.history) :
    Tallied handed pending after := by
  have sameLedger : ledger after = ledger before :=
    congrArg (List.map QueueEvent.entry) history
  have sameIds : queuedIds after = queuedIds before := by rw [queuedIds, queuedIds, pq]
  have sameFor : ∀ dest, queuedFor dest after = queuedFor dest before := by
    intro dest
    rw [queuedFor, queuedFor, pq]
  refine ⟨sameLedger ▸ tallied.openings, ?_, ?_, fun dest => ?_, ?_, ?_⟩
  · rw [sameLedger, sameIds]
    exact tallied.accounted
  · rw [sameLedger, sameIds]
    exact tallied.arrived
  · rw [sameLedger, sameFor]
    exact tallied.released dest
  · rw [pq]
    exact tallied.len
  · rw [pq]
    exact tallied.short

theorem tallied_zeroState (now : Timeval) (jitter : Int) : Tallied [] [] (zeroState now jitter) :=
  ⟨rfl, Ledger.accounted_nil, Ledger.inOrder_nil, fun _ => Ledger.inOrder_nil, rfl, Nat.zero_le _⟩

/-! ### Detaching packets -/

theorem ledger_detachPackets (chosen : QPkt → Bool) (verdict : NfVerdict) (cause : VerdictCause)
    (state : State) :
    ledger (detachPackets chosen verdict cause state) = ledger state ++
      ((state.pq.head.filter chosen).map QPkt.packetId).map fun id => .settled id cause.note := by
  show List.map _ (_ ++ List.map _ _) = _
  rw [List.map_append, List.map_map, List.map_map]
  rfl

theorem uintSub_of_le {value amount : Nat} (le : amount ≤ value) :
    uintSub value amount = value - amount := if_pos le

/-- The chosen packets leave the queue with a verdict. A release takes all packets of its
destination. -/
theorem Tallied.detachPackets {pending : List (BitVec 32)} (tallied : Tallied handed pending state)
    (chosen : QPkt → Bool) (verdict : NfVerdict) {cause : VerdictCause}
    (grouped : ∀ dest, cause.note = some dest → ∀ qp, chosen qp = decide (qp.destAddr = dest)) :
    Tallied handed pending (Aodvd.detachPackets chosen verdict cause state) := by
  have split := List.filter_append_perm chosen state.pq.head
  have shorter : ((state.pq.head.filter fun qp => !chosen qp).map QPkt.packetId).Sublist
      (queuedIds state) := List.filter_sublist.map _
  refine ⟨?_, ?_, ?_, fun dest => ?_, ?_, ?_⟩
  · rw [ledger_detachPackets, Ledger.openings_settledAll, tallied.openings]
  · rw [ledger_detachPackets]
    refine Ledger.Accounted.settledAll (tallied.accounted.perm ?_) _
    rw [← List.append_assoc]
    refine List.Perm.append_right pending ?_
    have ids := (split.map QPkt.packetId).symm
    rwa [List.map_append] at ids
  · rw [ledger_detachPackets]
    exact (tallied.arrived.settledOthers _ rfl).sublist (shorter.append_right pending)
  · rw [ledger_detachPackets]
    by_cases ours : cause.note = some dest
    · have gone : queuedFor dest (Aodvd.detachPackets chosen verdict cause state) = [] := by
        show List.map _ ((state.pq.head.filter _).filter _) = []
        rw [List.filter_filter, List.filter_eq_nil_iff.mpr, List.map_nil]
        intro qp _
        rw [grouped dest ours qp]
        simp only [Bool.and_not_self, Bool.false_eq_true, not_false_eq_true]
      have all : state.pq.head.filter chosen =
          state.pq.head.filter fun qp => decide (qp.destAddr = dest) :=
        List.filter_congr fun qp _ => grouped dest ours qp
      rw [gone, all]
      exact (tallied.released dest).settledAll (decide_eq_true ours)
    · refine ((tallied.released dest).settledOthers _ (decide_eq_false ours)).sublist ?_
      exact ((List.filter_sublist.filter _).map _).append_right pending
  · have lengths := split.length_eq
    rw [List.length_append] at lengths
    show uintSub state.pq.len _ = (state.pq.head.filter _).length
    rw [tallied.len, uintSub_of_le (by omega)]
    omega
  · exact Nat.le_trans (List.length_filter_le ..) tallied.short

theorem Tallied.packetQueueDrop {pending : List (BitVec 32)} (tallied : Tallied handed pending state)
    (dest : Addr) : Tallied handed pending (Aodvd.packetQueueDrop dest state) :=
  tallied.detachPackets _ _ fun _ same _ => by rw [← Option.some.inj same]

theorem Tallied.packetQueueGarbageCollect {pending : List (BitVec 32)}
    (tallied : Tallied handed pending state) :
    Tallied handed pending (Aodvd.packetQueueGarbageCollect state) :=
  tallied.detachPackets _ _ fun _ same => absurd same (by simp [VerdictCause.note])

theorem Tallied.releaseBuffered {pending : List (BitVec 32)} (tallied : Tallied handed pending state)
    (config : Config) (dest : Addr) :
    Tallied handed pending (Aodvd.releaseBuffered config dest state) := by
  unfold Aodvd.releaseBuffered
  split
  · exact tallied
  · have removed : Tallied handed pending (seekListRemove dest state) := tallied.of_same rfl rfl
    cases found : rtTableFind (seekListRemove dest state) dest with
    | none =>
      unfold packetQueueSend
      rw [found]
      exact removed
    | some rt =>
      have only := (packetQueueSend_acts config found).routesOnly
      refine Tallied.of_same (removed.detachPackets _ _ ?_) only.pq only.history
      exact fun _ same _ => by rw [← Option.some.inj same]

/-! ### The packet that is being looked at -/

theorem Tallied.deliver (tallied : Tallied handed [] state) {packet : NfPacket}
    (free : Ledger.outstanding packet.packetId (ledger state) = false) :
    Tallied (handed ++ [packet.packetId]) [packet.packetId] (Aodvd.deliver packet state) := by
  have same : ledger (Aodvd.deliver packet state) = ledger state ++ [.opened packet.packetId] :=
    List.map_append
  have absent : packet.packetId ∉ queuedIds state := fun queued =>
    absurd (((tallied.accounted.mem _).mp (List.mem_append_left _ queued)).symm.trans free) (by simp)
  have accounted := tallied.accounted
  have arrived := tallied.arrived
  rw [List.append_nil] at accounted arrived
  refine ⟨?_, same ▸ accounted.opened free, same ▸ arrived.opened absent, fun dest => ?_, tallied.len,
    tallied.short⟩
  · rw [same, Ledger.openings, List.filterMap_append, ← Ledger.openings, tallied.openings]
    rfl
  have released := tallied.released dest
  rw [List.append_nil] at released
  refine same ▸ released.opened fun member => absent ?_
  exact (List.filter_sublist.map QPkt.packetId).subset member

theorem Tallied.verdict {packetId : BitVec 32} (tallied : Tallied handed [packetId] state)
    (verdict : NfVerdict) :
    Tallied handed [] (nfqueueSetPacketVerdict packetId verdict .immediate state) := by
  have same : ledger (nfqueueSetPacketVerdict packetId verdict .immediate state) =
      ledger state ++ [.settled packetId none] := List.map_append
  refine ⟨?_, ?_, ?_, fun dest => ?_, tallied.len, tallied.short⟩
  · exact same ▸ (Ledger.openings_settledAll [packetId] none).trans tallied.openings
  · rw [same, List.append_nil]
    refine Ledger.Accounted.settled (tallied.accounted.perm ?_) none
    exact List.perm_append_singleton packetId (queuedIds state)
  · rw [same, List.append_nil]
    exact (tallied.arrived.settledOther packetId rfl).sublist (List.sublist_append_left ..)
  · rw [same, List.append_nil]
    exact ((tallied.released dest).settledOther packetId rfl).sublist (List.sublist_append_left ..)

/-- A full queue loses its oldest packet, so there is room for one more. -/
theorem Tallied.evictOldest {pending : List (BitVec 32)} (tallied : Tallied handed pending state) :
    Tallied handed pending (Aodvd.evictOldest state) ∧
      (Aodvd.evictOldest state).pq.head.length < maxQueueLength := by
  have len := tallied.len
  unfold Aodvd.evictOldest
  cases queue : state.pq.head with
  | nil =>
    dsimp only
    rw [queue]
    exact ⟨tallied, by decide⟩
  | cons oldest rest =>
    rw [queue, List.length_cons] at len
    dsimp only
    split
    · have same : ledger (nfqueueSetPacketVerdict oldest.packetId .drop .evicted
          { state with pq := ⟨rest, uintSub state.pq.len 1⟩ }) =
          ledger state ++ [.settled oldest.packetId none] := List.map_append
      have ids : queuedIds state = oldest.packetId :: rest.map QPkt.packetId := by
        rw [queuedIds, queue, List.map_cons]
      have short := tallied.short
      rw [queue, List.length_cons] at short
      have accounted := tallied.accounted
      have arrived := tallied.arrived
      rw [ids] at accounted arrived
      have openings : Ledger.openings (ledger state ++ [.settled oldest.packetId none]) = _ :=
        Ledger.openings_settledAll [oldest.packetId] none
      refine ⟨⟨same ▸ openings.trans tallied.openings, same ▸ accounted.settled none, ?_,
        fun dest => ?_, ?_, ?_⟩, ?_⟩
      · exact same ▸ (arrived.settledOther oldest.packetId rfl).sublist (List.sublist_cons_self ..)
      · refine same ▸ ((tallied.released dest).settledOther oldest.packetId rfl).sublist ?_
        refine List.Sublist.append_right (List.Sublist.map _ ?_) pending
        rw [queue]
        exact (List.sublist_cons_self oldest rest).filter _
      · show uintSub state.pq.len 1 = rest.length
        rw [len, uintSub_of_le (by omega), Nat.add_sub_cancel]
      · show rest.length ≤ maxQueueLength
        omega
      · show rest.length < maxQueueLength
        omega
    · rename_i room
      rw [len] at room
      refine ⟨tallied, ?_⟩
      rw [queue, List.length_cons]
      omega

theorem Tallied.packetQueueAdd {packetId : BitVec 32} (tallied : Tallied handed [packetId] state)
    (dest : Addr) : Tallied handed [] (Aodvd.packetQueueAdd packetId dest state) := by
  obtain ⟨evicted, room⟩ := tallied.evictOldest
  have ids : queuedIds (Aodvd.packetQueueAdd packetId dest state) =
      queuedIds (Aodvd.evictOldest state) ++ [packetId] := List.map_append
  refine ⟨evicted.openings, ?_, ?_, fun other => ?_, ?_, ?_⟩
  · rw [List.append_nil, ids]
    exact evicted.accounted
  · rw [List.append_nil, ids]
    exact evicted.arrived
  · refine (evicted.released other).sublist ?_
    rw [List.append_nil]
    show ((_ ++ [_]).filter _ |>.map _).Sublist _
    rw [List.filter_append, List.map_append]
    refine List.Sublist.append_left ?_ _
    exact List.filter_sublist.map QPkt.packetId
  · show _ + 1 = (_ ++ [_]).length
    rw [List.length_append, List.length_singleton, evicted.len]
  · show (_ ++ [_]).length ≤ _
    rw [List.length_append, List.length_singleton]
    exact room

/-! ### Runs -/

theorem Act.tallied (act : Act config event origin before after) (sound : before.rtTbl.Sound)
    {pending : List (BitVec 32)} (tallied : Tallied handed pending before) :
    Tallied handed pending after := by
  cases act with
  | aside aside => exact tallied.of_same aside.pq aside.history
  | timer act =>
    obtain ⟨timers, rfl⟩ := act.same
    exact tallied.of_same rfl rfl
  | pop => exact tallied.of_same rfl rfl
  | record origAddr rreqId =>
    unfold rreqRecordInsert
    split <;> exact tallied.of_same rfl rfl
  | forget => exact tallied.of_same rfl rfl
  | blacklist dest =>
    unfold rreqBlacklistInsert
    split <;> exact tallied.of_same rfl rfl
  | pardon => exact tallied.of_same rfl rfl
  | send =>
    have aside := aside_aodvSocketSend config
    exact tallied.of_same (aside ..).pq (aside ..).history
  | route act =>
    rcases act.routesOnly_or_releases sound with
      only | ⟨_, offer, _, _, routed, rt, only, _, _, _, rfl⟩
    · exact tallied.of_same only.pq only.history
    · exact (tallied.of_same only.pq only.history).releaseBuffered config offer.dest
  | undertake => exact tallied.of_same rfl rfl
  | hear => exact tallied.of_same rfl rfl
  | seek => exact tallied.of_same rfl rfl
  | retry => exact tallied.of_same rfl rfl
  | giveUp entry rest =>
    have popped : Tallied handed pending (popTimer (.seekTimer entry.destAddr) rest before) :=
      tallied.of_same rfl rfl
    exact (popped.packetQueueDrop entry.destAddr).of_same rfl rfl
  | collect => exact tallied.packetQueueGarbageCollect
  | log => exact tallied.of_same rfl rfl

theorem Acts.tallied (acts : Acts config event origin before after)
    (regular : Regular config before) {pending : List (BitVec 32)}
    (tallied : Tallied handed pending before) : Tallied handed pending after :=
  acts.invariant (Tallied handed pending) regular
    (fun _ _ current act => act.tallied current.sound) tallied

/-- The id of the packet that an event hands over. -/
def Event.packetIds : Event → List (BitVec 32)
  | .packet delivered => [delivered.packetId]
  | _ => []

/-- The kernel does not hand over an id that is still outstanding. -/
def EventFree (state : State) : Event → Prop
  | .packet packet => Ledger.outstanding packet.packetId (ledger state) = false
  | _ => True

def IdFree (state : State) (input : Input) : Prop := EventFree state input.event

instance (state : State) (input : Input) : Decidable (IdFree state input) :=
  match h : input.event with
  | .packet packet => decidable_of_iff (Ledger.outstanding packet.packetId (ledger state) = false)
      (by rw [IdFree, h, EventFree])
  | .timers | .message _ | .txDrop _ => .isTrue (by rw [IdFree, h]; trivial)

theorem Handled.tallied {final : State} (handled : Handled config origin event final)
    (regular : Regular config origin) (tallied : Tallied handed [] origin)
    (free : EventFree origin event) : Tallied (handed ++ event.packetIds) [] final := by
  have delivered : ∀ packet, Regular config (deliver packet origin) :=
    fun _ => regular.of_rtTbl rfl
  cases handled with
  | timers acts _ =>
    show Tallied (handed ++ []) [] final
    rw [List.append_nil]
    exact acts.tallied (regular.of_rtTbl rfl) (tallied.of_same rfl rfl)
  | message received acts =>
    show Tallied (handed ++ []) [] final
    rw [List.append_nil]
    exact acts.tallied regular tallied
  | txDrop ip acts =>
    show Tallied (handed ++ []) [] final
    rw [List.append_nil]
    exact acts.tallied regular tallied
  | verdict packet verdict acts =>
    exact (acts.tallied (delivered packet) (tallied.deliver free)).verdict verdict
  | buffer packet dest acts later =>
    have looked := acts.tallied (delivered packet) (tallied.deliver free)
    have lookedRegular := acts.regular (delivered packet)
    exact later.tallied (lookedRegular.of_rtTbl (rtTbl_packetQueueAdd ..)) (looked.packetQueueAdd dest)

theorem Tallied.step (tallied : Tallied handed [] state) (atRest : AtRest config state) {input : Input}
    (free : IdFree state input) :
    Tallied (handed ++ input.event.packetIds) [] (Aodvd.step config state input) :=
  (step_handled atRest input).tallied (atRest.toRegular.arrive input) (tallied.of_same rfl rfl) free

/-- The ids that a run of inputs hands over. -/
def packetIds (inputs : List Input) : List (BitVec 32) :=
  inputs.flatMap fun input => input.event.packetIds

theorem tallied_run {now : Timeval} {jitter : Int} {inputs : List Input}
    (free : Runs.Meets (step config) IdFree (boot config now jitter) inputs) :
    Tallied (packetIds inputs) [] (run config now jitter inputs) := by
  induction inputs using List.reverseRecOn with
  | nil =>
    exact (boot_acts config .timers (zeroState now jitter) now jitter).tallied
      (regular_zeroState config now jitter) (tallied_zeroState now jitter)
  | append_singleton inputs input inductionHypothesis =>
    obtain ⟨earlier, last⟩ := Runs.meets_concat.mp free
    have stepped : run config now jitter (inputs ++ [input]) =
        step config (run config now jitter inputs) input := List.foldl_concat ..
    rw [stepped, packetIds, List.flatMap_append, List.flatMap_singleton]
    exact (inductionHypothesis earlier).step (atRest_run config now jitter inputs) last

/-! ### The end of the daemon -/

theorem routesOnly_rtTableDestroy (state : State) : RoutesOnly state (rtTableDestroy state) := by
  unfold rtTableDestroy
  generalize rtEntries state = entries
  induction entries generalizing state with
  | nil => exact .refl _
  | cons rt rest inductionHypothesis =>
    refine RoutesOnly.trans ?_ (inductionHypothesis (rtTableDelete rt.destAddr state))
    cases found : entryAt state rt.destAddr with
    | none =>
      rw [rtTableDelete, found]
      exact .refl _
    | some entry =>
      obtain ⟨timers, result⟩ := rtTableDelete_of_some found
      rw [result]
      constructor <;> rfl

theorem Tallied.cleanup (tallied : Tallied handed [] state) :
    Tallied handed [] (Aodvd.cleanup state) ∧ queuedIds (Aodvd.cleanup state) = [] := by
  have only := routesOnly_rtTableDestroy state
  have kept : Tallied handed [] (rtTableDestroy state) := tallied.of_same only.pq only.history
  have destroyed : Tallied handed []
      (Aodvd.detachPackets (fun _ => true) .drop .destroyed (rtTableDestroy state)) :=
    kept.detachPackets _ _ fun _ same => absurd same (by simp [VerdictCause.note])
  have empty : (rtTableDestroy state).pq.head.filter (fun _ => !true) = [] :=
    List.filter_eq_nil_iff.mpr fun _ _ => by simp
  refine ⟨⟨destroyed.openings, destroyed.accounted, destroyed.arrived, destroyed.released, ?_,
    destroyed.short⟩, ?_⟩
  · show 0 = ((rtTableDestroy state).pq.head.filter fun _ => !true).length
    rw [empty]
    rfl
  · show ((rtTableDestroy state).pq.head.filter fun _ => !true).map _ = []
    rw [empty]
    rfl

/-! ### Exactly one verdict -/

/-- Every packet that was handed over is either in the queue once and has no verdict, or is not
in the queue and has one verdict; an id that was handed over again had one verdict in between.
The queue counts its packets, is bounded and keeps the order of arrival, and the packets of one
destination are released in the order of arrival. -/
structure OneVerdict (state : State) : Prop where
  each : ∀ early id later, ledger state = early ++ .opened id :: later →
    (Ledger.settlements id later = 0 ∧ Ledger.Entry.opened id ∉ later ∧
        (queuedIds state).count id = 1) ∨
      (Ledger.settlements id later = 1 ∧ (Ledger.Entry.opened id ∈ later ∨ id ∉ queuedIds state))
  len : state.pq.len = state.pq.head.length
  short : state.pq.len ≤ maxQueueLength
  arrived : ((queuedIds state).map fun id => Ledger.arrival id (ledger state)).Pairwise (· < ·)
  released : ∀ dest, (Ledger.settledNumbers (releasedFor dest) (ledger state)).Pairwise (· < ·)

theorem Tallied.oneVerdict (tallied : Tallied handed [] state) : OneVerdict state := by
  have accounted := tallied.accounted
  have arrived := tallied.arrived
  rw [List.append_nil] at accounted arrived
  refine ⟨fun early id later split => ?_, tallied.len, tallied.len ▸ tallied.short, arrived.waiting,
    fun dest => (tallied.released dest).past⟩
  rcases accounted.once early id later split with ⟨none, last, member⟩ | settled
  · exact .inl ⟨none, last, List.count_eq_one_of_mem accounted.nodup member⟩
  · exact .inr settled

/-- In a run in which the kernel reuses no outstanding id, the packets that are handed over are
opened, every one has exactly one verdict or waits in the queue, and after the final cleanup every
packet has exactly one verdict. -/
theorem run_oneVerdict (config : Config) (now : Timeval) (jitter : Int) (inputs : List Input)
    (free : Runs.Meets (step config) IdFree (boot config now jitter) inputs) :
    Ledger.openings (ledger (run config now jitter inputs)) = packetIds inputs ∧
      OneVerdict (run config now jitter inputs) ∧
      Ledger.openings (ledger (cleanup (run config now jitter inputs))) = packetIds inputs ∧
      ∀ early id later,
        ledger (cleanup (run config now jitter inputs)) = early ++ .opened id :: later →
        Ledger.settlements id later = 1 := by
  have tallied := tallied_run free
  obtain ⟨cleaned, empty⟩ := tallied.cleanup
  refine ⟨tallied.openings, tallied.oneVerdict, cleaned.openings, fun early id later split => ?_⟩
  rcases cleaned.oneVerdict.each early id later split with ⟨_, _, queued⟩ | ⟨once, _⟩
  · rw [empty] at queued
    exact absurd queued (by simp)
  · exact once

/-- Two packets wait for a route, the reply releases them, and an id is used again. -/
def reusedId : List Input :=
  [inputAt 100 (packetTo 7#32 9#32), inputAt 110 (packetTo 8#32 9#32),
    inputAt 200 (rrepFrom 2#32 9#32 5#32 1), inputAt 300 (packetTo 7#32 6#32)]

theorem run_oneVerdict_reusedId :
    Runs.Meets (step loneConfig) IdFree (boot loneConfig timevalZero 0) reusedId ∧
      Ledger.openings (ledger (run loneConfig timevalZero 0 reusedId)) = [7#32, 8#32, 7#32] ∧
      OneVerdict (run loneConfig timevalZero 0 reusedId) := by
  have free : Runs.Meets (step loneConfig) IdFree (boot loneConfig timevalZero 0) reusedId := by
    decide +kernel
  obtain ⟨openings, oneVerdict, -⟩ := run_oneVerdict loneConfig timevalZero 0 reusedId free
  exact ⟨free, openings, oneVerdict⟩

example : ledger (run loneConfig timevalZero 0 reusedId) =
    [.opened 7#32, .opened 8#32, .settled 7#32 (some 9#32), .settled 8#32 (some 9#32),
      .opened 7#32] := by
  decide +kernel

end Aodvd
