/-
This file compares the two versions of `packet_queue_set_verdict`.

The daemon looks for the route before it touches the queue. The version for the simulator looks at
what it has found only inside its loop, after it has detached a packet. If there is no route then,
it returns with an error; the packet is in no list any more, it was neither sent nor dropped, and
the length still counts it. Without a packet for the destination the loop never gets there. In all
other cases both versions release the same packets and keep the same queue.
-/

import Aodvd.Daemon
import Aodvd.Frames

namespace Aodvd

/-- `PQ_DROP`, `PQ_SEND` and `PQ_ENC_SEND`. -/
inductive PqVerdict
  | drop
  | send
  | encSend
  deriving DecidableEq, Repr

/-! ### The version of the daemon -/

/-- The packets that wait for a destination, the oldest first. -/
def waiting (destAddr : Addr) (state : State) : List QPkt :=
  state.pq.head.filter fun qp => decide (qp.destAddr = destAddr)

/-- `packet_queue_set_verdict` of the daemon, with what it returns. -/
def packetQueueSetVerdict (config : Config) (destAddr : Addr) (verdict : PqVerdict)
    (state : State) : Int × State :=
  match verdict with
  | .drop => ((waiting destAddr state).length, packetQueueDrop destAddr state)
  | _ =>
    let inetRt := if verdict = .encSend then rtTableFind state destAddr else none
    let rt :=
      match rtTableFind state destAddr with
      | some rt => some rt
      | none => inetRt.bind fun inetRt => rtTableFind state inetRt.nextHop
    match rt with
    | none => (-1, state)
    | some rt => ((waiting destAddr state).length,
      refreshReleased config rt
        (detachPackets (fun qp => decide (qp.destAddr = destAddr)) .accept
          (.released destAddr state.rtTbl state.kernel) state))

/-- The state after a release is the one that `packetQueueSend` gives. -/
theorem packetQueueSetVerdict_eq (config : Config) (destAddr : Addr) {verdict : PqVerdict}
    (sends : verdict ≠ .drop) (state : State) :
    packetQueueSetVerdict config destAddr verdict state =
      (if rtTableFind state destAddr = none then -1 else ((waiting destAddr state).length : Int),
        packetQueueSend config destAddr state) := by
  unfold packetQueueSetVerdict packetQueueSend
  cases found : rtTableFind state destAddr with
  | none =>
    cases verdict with
    | drop => exact absurd rfl sends
    | send => rfl
    | encSend => rfl
  | some rt =>
    cases verdict with
    | drop => exact absurd rfl sends
    | send => rfl
    | encSend => rfl

/-! ### The version of the simulator -/

/-- What the simulator does with a packet: it is handed to `sendPacket`, encapsulated for a gateway
or as it is, for a next hop and after a delay in milliseconds, or to `drop`. -/
inductive SimAct
  | sendPacket (packetId : BitVec 32) (gateway : Option Addr) (nextHop : Addr) (delay : Nat)
  | drop (packetId : BitVec 32)
  deriving DecidableEq

/-- `ARP_DELAY`. -/
def arpDelay : Nat := 5

/-- What the loop leaves: the queue, its length, what was done and the count, if it came to its
end. -/
structure SimLoop where
  head : List QPkt
  len : Nat
  acts : List SimAct
  count : Option Nat

/-- The loop of `packet_queue_set_verdict`, from a position in the queue on. -/
def verdictLoop (destAddr : Addr) (verdict : PqVerdict) (rt : Option RtEntry)
    (gateway : Option Addr) : List QPkt → (len count delay : Nat) → SimLoop
  | [], len, count, _ => ⟨[], len, [], some count⟩
  | qp :: rest, len, count, delay =>
    if qp.destAddr = destAddr then
      match verdict, rt with
      | .drop, _ =>
        let after := verdictLoop destAddr verdict rt gateway rest (uintSub len 1) (count + 1) delay
        { after with acts := .drop qp.packetId :: after.acts }
      | .send, some route =>
        let after := verdictLoop destAddr verdict rt gateway rest (uintSub len 1) (count + 1)
          (delay + arpDelay)
        { after with acts := .sendPacket qp.packetId none route.nextHop delay :: after.acts }
      | .encSend, some route =>
        let after := verdictLoop destAddr verdict rt gateway rest (uintSub len 1) (count + 1)
          (delay + arpDelay)
        { after with acts := .sendPacket qp.packetId gateway route.nextHop delay :: after.acts }
      -- the packet has been detached
      | _, none => ⟨rest, len, [], none⟩
    else
      let after := verdictLoop destAddr verdict rt gateway rest len count delay
      { after with head := qp :: after.head }

/-- The timeouts that a release of the simulator refreshes. -/
def simRefresh (config : Config) (destAddr : Addr) (rt inetRt : Option RtEntry) (state : State) :
    State :=
  match rt with
  | none => state
  | some rt =>
    if rt.state = .valid ∧ destAddr ≠ ipaddrOf config rt.ifindex then
      let state :=
        match inetRt with
        | some inetRt => rtTableUpdateTimeout inetRt.destAddr (activeRouteTimeout config) state
        | none => state
      refreshReleased config rt state
    else state

/-- What `packet_queue_set_verdict` of the simulator returns, does and leaves. -/
structure SimVerdict where
  result : Int
  acts : List SimAct
  state : State

/-- The part of `packet_queue_set_verdict` after the loop, which may have returned an error. -/
def simReturn (config : Config) (destAddr : Addr) (verdict : PqVerdict)
    (rt inetRt : Option RtEntry) (loop : SimLoop) (state : State) : SimVerdict :=
  let after := { state with pq := ⟨loop.head, loop.len⟩ }
  match loop.count with
  | none => ⟨-1, loop.acts, after⟩
  | some count => ⟨count, loop.acts,
    if verdict = .drop then after else simRefresh config destAddr rt inetRt after⟩

/-- The part of `packet_queue_set_verdict` after the routes have been looked up. -/
def simRelease (config : Config) (destAddr : Addr) (verdict : PqVerdict)
    (rt inetRt : Option RtEntry) (state : State) : SimVerdict :=
  let loop := verdictLoop destAddr verdict rt (inetRt.map RtEntry.nextHop) state.pq.head
    state.pq.len 0 0
  simReturn config destAddr verdict rt inetRt loop state

/-- `packet_queue_set_verdict` of the simulator, which is built with `CONFIG_GATEWAY`. -/
def simSetVerdict (config : Config) (destAddr : Addr) (verdict : PqVerdict) (state : State) :
    SimVerdict :=
  if verdict = .encSend then
    match rtTableFind state destAddr with
    | none => ⟨-1, [], state⟩
    | some inetRt =>
      simRelease config destAddr verdict (rtTableFind state inetRt.nextHop) (some inetRt) state
  else simRelease config destAddr verdict (rtTableFind state destAddr) none state

/-! ### The same verdicts -/

/-- What becomes of a packet. -/
def SimAct.settles : SimAct → BitVec 32 × NfVerdict
  | .sendPacket packetId _ _ _ => (packetId, .accept)
  | .drop packetId => (packetId, .drop)

def PqVerdict.nfVerdict : PqVerdict → NfVerdict
  | .drop => .drop
  | _ => .accept

/-- The verdict of an event of the queue. -/
def QueueEvent.settles : QueueEvent → Option (BitVec 32 × NfVerdict)
  | .delivered _ => none
  | .verdict packetId issued _ => some (packetId, issued)

/-- The verdicts that the daemon has issued in a history and not in an earlier one. -/
def settledSince (earlier history : List QueueEvent) : List (BitVec 32 × NfVerdict) :=
  (history.drop earlier.length).filterMap QueueEvent.settles

/-- A version that fails leaves the queue as it was and does nothing with a packet; where both
succeed they settle the same packets in the same order and keep the same queue, of which the length
is counted if it was before. -/
structure VerdictsAgree (state : State) (sim : SimVerdict) (daemon : Int × State) : Prop where
  simFailed : sim.result = -1 → sim.state.pq = state.pq ∧ sim.acts = []
  daemonFailed : daemon.1 = -1 →
    daemon.2.pq = state.pq ∧ settledSince state.history daemon.2.history = []
  released : sim.result ≠ -1 → daemon.1 ≠ -1 →
    sim.acts.map SimAct.settles = settledSince state.history daemon.2.history
  kept : sim.result ≠ -1 → daemon.1 ≠ -1 → sim.state.pq.head = daemon.2.pq.head
  counted : sim.result ≠ -1 → daemon.1 ≠ -1 → state.pq.len = state.pq.head.length →
    sim.state.pq.len = sim.state.pq.head.length ∧ daemon.2.pq.len = daemon.2.pq.head.length

/-- The version of the simulator has no route to send by, and finds out in its loop. -/
def Unrouted (destAddr : Addr) (state : State) : PqVerdict → Prop
  | .drop => False
  | .send => rtTableFind state destAddr = none
  | .encSend => ∃ inetRt, rtTableFind state destAddr = some inetRt ∧
    rtTableFind state inetRt.nextHop = none

/-! ### The loop -/

section

variable {destAddr : Addr} {verdict : PqVerdict} {rt : Option RtEntry} {gateway : Option Addr}
  {queue : List QPkt} {len count delay : Nat} {loop : SimLoop} {qp : QPkt}

/-- A loop has settled every packet for the destination and kept the others. -/
structure ReleasesPackets (destAddr : Addr) (verdict : PqVerdict) (queue : List QPkt) (len count : Nat)
    (loop : SimLoop) : Prop where
  head : loop.head = queue.filter fun qp => !decide (qp.destAddr = destAddr)
  acts : loop.acts.map SimAct.settles =
    (queue.filter fun qp => decide (qp.destAddr = destAddr)).map
      fun qp => (qp.packetId, verdict.nfVerdict)
  count : loop.count =
    some (count + (queue.filter fun qp => decide (qp.destAddr = destAddr)).length)
  len : (queue.filter fun qp => decide (qp.destAddr = destAddr)).length ≤ len →
    loop.len + (queue.filter fun qp => decide (qp.destAddr = destAddr)).length = len

theorem ReleasesPackets.keep (releases : ReleasesPackets destAddr verdict queue len count loop)
    (other : qp.destAddr ≠ destAddr) :
    ReleasesPackets destAddr verdict (qp :: queue) len count { loop with head := qp :: loop.head } := by
  have settled : (qp :: queue).filter (fun qp => decide (qp.destAddr = destAddr)) =
      queue.filter fun qp => decide (qp.destAddr = destAddr) :=
    List.filter_cons_of_neg (by rwa [decide_eq_true_eq])
  have kept : (qp :: queue).filter (fun qp => !decide (qp.destAddr = destAddr)) =
      qp :: queue.filter fun qp => !decide (qp.destAddr = destAddr) :=
    List.filter_cons_of_pos (by rw [decide_eq_false other, Bool.not_false])
  refine ⟨?_, ?_, ?_, ?_⟩
  · rw [kept, ← releases.head]
  · rw [settled]
    exact releases.acts
  · rw [settled]
    exact releases.count
  · rw [settled]
    exact releases.len

theorem ReleasesPackets.settle
    (releases : ReleasesPackets destAddr verdict queue (uintSub len 1) (count + 1) loop)
    (ours : qp.destAddr = destAddr) {act : SimAct}
    (settles : act.settles = (qp.packetId, verdict.nfVerdict)) :
    ReleasesPackets destAddr verdict (qp :: queue) len count
      { loop with acts := act :: loop.acts } := by
  have settled : (qp :: queue).filter (fun qp => decide (qp.destAddr = destAddr)) =
      qp :: queue.filter fun qp => decide (qp.destAddr = destAddr) :=
    List.filter_cons_of_pos (decide_eq_true ours)
  have kept : (qp :: queue).filter (fun qp => !decide (qp.destAddr = destAddr)) =
      queue.filter fun qp => !decide (qp.destAddr = destAddr) :=
    List.filter_cons_of_neg (by
      rw [decide_eq_true ours, Bool.not_true]
      exact Bool.false_ne_true)
  refine ⟨?_, ?_, ?_, ?_⟩
  · rw [kept]
    exact releases.head
  · rw [settled, List.map_cons, List.map_cons, settles, releases.acts]
  · rw [settled, List.length_cons]
    show loop.count = _
    rw [releases.count, Nat.add_assoc, Nat.add_comm 1]
  · rw [settled, List.length_cons]
    intro enough
    have one : uintSub len 1 = len - 1 := if_pos (by omega)
    have rest := releases.len (by omega)
    show loop.len + _ = len
    omega

/-- Where there is a route, or none is needed, the loop settles every packet. -/
theorem releases_verdictLoop {queue : List QPkt} (len count delay : Nat)
    (routed : (∃ qp ∈ queue, qp.destAddr = destAddr) → verdict = .drop ∨ rt ≠ none) :
    ReleasesPackets destAddr verdict queue len count
      (verdictLoop destAddr verdict rt gateway queue len count delay) := by
  induction queue generalizing len count delay with
  | nil => exact ⟨rfl, rfl, rfl, fun _ => rfl⟩
  | cons qp rest inductionHypothesis =>
    have later : (∃ qp ∈ rest, qp.destAddr = destAddr) → verdict = .drop ∨ rt ≠ none := by
      rintro ⟨found, member, same⟩
      exact routed ⟨found, List.mem_cons_of_mem _ member, same⟩
    unfold verdictLoop
    by_cases ours : qp.destAddr = destAddr
    · have routed := routed ⟨qp, List.mem_cons_self, ours⟩
      rw [if_pos ours]
      cases verdict with
      | drop => exact (inductionHypothesis _ _ _ later).settle ours rfl
      | send =>
        cases rt with
        | none => exact absurd rfl (routed.resolve_left nofun)
        | some route => exact (inductionHypothesis _ _ _ later).settle ours rfl
      | encSend =>
        cases rt with
        | none => exact absurd rfl (routed.resolve_left nofun)
        | some route => exact (inductionHypothesis _ _ _ later).settle ours rfl
    · rw [if_neg ours]
      exact (inductionHypothesis _ _ _ later).keep ours

/-- A loop has lost a packet. -/
structure LosesPackets (queue : List QPkt) (loop : SimLoop) : Prop where
  shorter : loop.head.length < queue.length
  failed : loop.count = none

/-- Without a route the loop loses the first packet for the destination. -/
theorem loses_verdictLoop (sends : verdict ≠ .drop) (gateway : Option Addr) {queue : List QPkt}
    (len count delay : Nat) (waits : ∃ qp ∈ queue, qp.destAddr = destAddr) :
    LosesPackets queue (verdictLoop destAddr verdict none gateway queue len count delay) := by
  induction queue generalizing len count delay with
  | nil =>
    obtain ⟨_, member, _⟩ := waits
    exact nomatch member
  | cons qp rest inductionHypothesis =>
    unfold verdictLoop
    by_cases ours : qp.destAddr = destAddr
    · rw [if_pos ours]
      cases verdict with
      | drop => exact absurd rfl sends
      | send => exact ⟨Nat.lt_succ_self _, rfl⟩
      | encSend => exact ⟨Nat.lt_succ_self _, rfl⟩
    · rw [if_neg ours]
      obtain ⟨found, member, same⟩ := waits
      have later : ∃ qp ∈ rest, qp.destAddr = destAddr := by
        refine ⟨found, (List.mem_cons.mp member).resolve_left ?_, same⟩
        rintro rfl
        exact ours same
      have lost := inductionHypothesis len count delay later
      exact ⟨Nat.succ_lt_succ lost.shorter, lost.failed⟩

end

/-! ### Both versions -/

section

variable (config : Config) (destAddr : Addr) {verdict : PqVerdict} (state : State)

/-- The packets for a destination have been settled, and the others are the queue. -/
structure Settles (destAddr : Addr) (verdict : PqVerdict) (state : State)
    (settled : List (BitVec 32 × NfVerdict)) (after : PacketQueue) : Prop where
  settled : settled = (waiting destAddr state).map fun qp => (qp.packetId, verdict.nfVerdict)
  head : after.head = state.pq.head.filter fun qp => !decide (qp.destAddr = destAddr)
  len : state.pq.len = state.pq.head.length → after.len = after.head.length

theorem length_filter_add (destAddr : Addr) (queue : List QPkt) :
    (queue.filter fun qp => decide (qp.destAddr = destAddr)).length +
      (queue.filter fun qp => !decide (qp.destAddr = destAddr)).length = queue.length := by
  rw [← List.length_append]
  exact (List.filter_append_perm (fun qp => decide (qp.destAddr = destAddr)) queue).length_eq

theorem settledSince_append (history events : List QueueEvent) :
    settledSince history (history ++ events) = events.filterMap QueueEvent.settles := by
  unfold settledSince
  rw [List.drop_left]

theorem settles_detachPackets (verdict : PqVerdict) (cause : VerdictCause) :
    Settles destAddr verdict state
      (settledSince state.history (detachPackets (fun qp => decide (qp.destAddr = destAddr))
        verdict.nfVerdict cause state).history)
      (detachPackets (fun qp => decide (qp.destAddr = destAddr)) verdict.nfVerdict cause
        state).pq := by
  refine ⟨?_, rfl, fun counted => ?_⟩
  · show settledSince state.history (state.history ++ _) = _
    rw [settledSince_append, List.filterMap_map]
    exact congrFun List.filterMap_eq_map (waiting destAddr state)
  · have lengths := length_filter_add destAddr state.pq.head
    show uintSub state.pq.len (state.pq.head.filter fun qp =>
      decide (qp.destAddr = destAddr)).length =
        (state.pq.head.filter fun qp => !decide (qp.destAddr = destAddr)).length
    rw [counted]
    exact (if_pos (by omega)).trans (by omega)

theorem settles_packetQueueSetVerdict
    (succeeds : (packetQueueSetVerdict config destAddr verdict state).1 ≠ -1) :
    Settles destAddr verdict state
      (settledSince state.history
        (packetQueueSetVerdict config destAddr verdict state).2.history)
      (packetQueueSetVerdict config destAddr verdict state).2.pq := by
  by_cases drops : verdict = .drop
  · subst drops
    exact settles_detachPackets destAddr state .drop _
  · rw [packetQueueSetVerdict_eq config destAddr drops] at succeeds ⊢
    have accepts : verdict.nfVerdict = .accept := by
      cases verdict with
      | drop => exact absurd rfl drops
      | send => rfl
      | encSend => rfl
    unfold packetQueueSend
    cases found : rtTableFind state destAddr with
    | none =>
      rw [if_pos found] at succeeds
      exact absurd rfl succeeds
    | some rt =>
      have settles := settles_detachPackets destAddr state verdict
        (.released destAddr state.rtTbl state.kernel)
      rw [accepts] at settles
      obtain ⟨timers, same⟩ := (refreshReleased_acts config rt (detachPackets
        (fun qp => decide (qp.destAddr = destAddr)) .accept
        (.released destAddr state.rtTbl state.kernel) state)).same
      dsimp only
      rw [same]
      exact settles

theorem simRefresh_pq (rt inetRt : Option RtEntry) :
    (simRefresh config destAddr rt inetRt state).pq = state.pq := by
  have updated : ∀ dest state,
      (rtTableUpdateTimeout dest (activeRouteTimeout config) state).pq = state.pq := by
    intro dest state
    obtain ⟨_, same⟩ := (rtTableUpdateTimeout_acts dest (activeRouteTimeout config) state).same
    rw [same]
  have refreshed : ∀ rt state, (refreshReleased config rt state).pq = state.pq := by
    intro rt state
    obtain ⟨_, same⟩ := (refreshReleased_acts config rt state).same
    rw [same]
  unfold simRefresh
  split
  · rfl
  · split
    · dsimp only
      rw [refreshed]
      split
      · exact updated _ _
      · rfl
    · rfl

theorem simReturn_of_count (rt inetRt : Option RtEntry) {loop : SimLoop} {count : Nat}
    (ended : loop.count = some count) :
    (simReturn config destAddr verdict rt inetRt loop state).result = count ∧
      (simReturn config destAddr verdict rt inetRt loop state).acts = loop.acts ∧
      (simReturn config destAddr verdict rt inetRt loop state).state.pq =
        ⟨loop.head, loop.len⟩ := by
  unfold simReturn
  simp only [ended]
  refine ⟨trivial, trivial, ?_⟩
  split
  · rfl
  · rw [simRefresh_pq]

theorem simReturn_of_none (rt inetRt : Option RtEntry) {loop : SimLoop}
    (failed : loop.count = none) :
    simReturn config destAddr verdict rt inetRt loop state =
      ⟨-1, loop.acts, { state with pq := ⟨loop.head, loop.len⟩ }⟩ := by
  unfold simReturn
  simp only [failed]

theorem waiting_ne_nil_iff :
    waiting destAddr state ≠ [] ↔ ∃ qp ∈ state.pq.head, qp.destAddr = destAddr := by
  unfold waiting
  rw [Ne, List.filter_eq_nil_iff]
  simp only [decide_eq_true_eq, not_forall, not_not, exists_prop]

theorem settles_simRelease (rt inetRt : Option RtEntry)
    (routed : waiting destAddr state ≠ [] → verdict = .drop ∨ rt ≠ none) :
    (simRelease config destAddr verdict rt inetRt state).result ≠ -1 ∧
      Settles destAddr verdict state
        ((simRelease config destAddr verdict rt inetRt state).acts.map SimAct.settles)
        (simRelease config destAddr verdict rt inetRt state).state.pq := by
  have releases : ReleasesPackets destAddr verdict state.pq.head state.pq.len 0
      (verdictLoop destAddr verdict rt (inetRt.map RtEntry.nextHop) state.pq.head state.pq.len
        0 0) :=
    releases_verdictLoop _ _ _ fun waits => routed ((waiting_ne_nil_iff destAddr state).mpr waits)
  obtain ⟨result, acts, pq⟩ :=
    simReturn_of_count config destAddr state rt inetRt releases.count
  have lengths := length_filter_add destAddr state.pq.head
  unfold simRelease
  dsimp only
  rw [result, acts, pq]
  refine ⟨by omega, releases.acts, releases.head, fun counted => ?_⟩
  have left := releases.len (by omega)
  show SimLoop.len _ = (SimLoop.head _).length
  rw [releases.head]
  omega

theorem simRelease_loses (rt inetRt : Option RtEntry) (sends : verdict ≠ .drop)
    (missing : rt = none) (waits : waiting destAddr state ≠ []) :
    (simRelease config destAddr verdict rt inetRt state).result = -1 ∧
      (simRelease config destAddr verdict rt inetRt state).state.pq.head.length <
        state.pq.head.length := by
  subst missing
  have lost := loses_verdictLoop sends (inetRt.map RtEntry.nextHop) state.pq.len 0 0
    ((waiting_ne_nil_iff destAddr state).mp waits)
  unfold simRelease
  dsimp only
  rw [simReturn_of_none config destAddr state none inetRt lost.failed]
  exact ⟨rfl, lost.shorter⟩

/-- The daemon checks before it does anything. -/
theorem packetQueueSetVerdict_refuses
    (fails : (packetQueueSetVerdict config destAddr verdict state).1 = -1) :
    (packetQueueSetVerdict config destAddr verdict state).2 = state := by
  by_cases drops : verdict = .drop
  · subst drops
    have counted : ((waiting destAddr state).length : Int) = -1 := fails
    omega
  · rw [packetQueueSetVerdict_eq config destAddr drops] at fails ⊢
    unfold packetQueueSend
    cases found : rtTableFind state destAddr with
    | none => rfl
    | some rt =>
      rw [if_neg (found ▸ nofun)] at fails
      omega

theorem daemonFailed_of_refuses
    (fails : (packetQueueSetVerdict config destAddr verdict state).1 = -1) :
    (packetQueueSetVerdict config destAddr verdict state).2.pq = state.pq ∧
      settledSince state.history
        (packetQueueSetVerdict config destAddr verdict state).2.history = [] := by
  rw [packetQueueSetVerdict_refuses config destAddr state fails]
  unfold settledSince
  rw [List.drop_length]
  exact ⟨rfl, rfl⟩

/-- Where the loop of the simulator settles every packet, the versions agree. -/
theorem verdictsAgree_of_settles {sim : SimVerdict} (succeeds : sim.result ≠ -1)
    (settles : Settles destAddr verdict state (sim.acts.map SimAct.settles) sim.state.pq) :
    VerdictsAgree state sim (packetQueueSetVerdict config destAddr verdict state) := by
  have daemon (passes : (packetQueueSetVerdict config destAddr verdict state).1 ≠ -1) :=
    settles_packetQueueSetVerdict config destAddr state passes
  refine ⟨fun fails => absurd fails succeeds, daemonFailed_of_refuses config destAddr state,
    fun _ passes => ?_, fun _ passes => ?_, fun _ passes counted => ?_⟩
  · rw [settles.settled, (daemon passes).settled]
  · rw [settles.head, (daemon passes).head]
  · exact ⟨settles.len counted, (daemon passes).len counted⟩

theorem verdictsAgree_simRelease_iff (rt inetRt : Option RtEntry) (sends : verdict ≠ .drop) :
    VerdictsAgree state (simRelease config destAddr verdict rt inetRt state)
        (packetQueueSetVerdict config destAddr verdict state) ↔
      ¬ (rt = none ∧ waiting destAddr state ≠ []) := by
  constructor
  · rintro agree ⟨missing, waits⟩
    obtain ⟨result, shorter⟩ :=
      simRelease_loses config destAddr state rt inetRt sends missing waits
    rw [(agree.simFailed result).1] at shorter
    exact Nat.lt_irrefl _ shorter
  · intro routed
    obtain ⟨succeeds, settles⟩ := settles_simRelease config destAddr state rt inetRt
      fun waits => .inr fun missing => routed ⟨missing, waits⟩
    exact verdictsAgree_of_settles config destAddr state succeeds settles

/-- The two versions agree exactly if the simulator has a route to send by or no packet waits. -/
theorem verdictsAgree_iff (verdict : PqVerdict) :
    VerdictsAgree state (simSetVerdict config destAddr verdict state)
        (packetQueueSetVerdict config destAddr verdict state) ↔
      ¬ (Unrouted destAddr state verdict ∧ waiting destAddr state ≠ []) := by
  cases verdict with
  | drop =>
    refine iff_of_true ?_ fun both => both.1
    obtain ⟨succeeds, settles⟩ := settles_simRelease config destAddr state
      (rtTableFind state destAddr) none fun _ => .inl rfl
    exact verdictsAgree_of_settles config destAddr state succeeds settles
  | send => exact verdictsAgree_simRelease_iff config destAddr state _ none nofun
  | encSend =>
    unfold simSetVerdict
    rw [if_pos rfl]
    cases found : rtTableFind state destAddr with
    | none =>
      refine iff_of_true ?_ ?_
      · exact ⟨fun _ => ⟨rfl, rfl⟩, daemonFailed_of_refuses config destAddr state,
          fun succeeds => absurd rfl succeeds, fun succeeds => absurd rfl succeeds,
          fun succeeds => absurd rfl succeeds⟩
      · rintro ⟨⟨_, routed, _⟩, _⟩
        exact nomatch found.symm.trans routed
    | some inetRt =>
      have sends : PqVerdict.encSend ≠ .drop := nofun
      refine (verdictsAgree_simRelease_iff config destAddr state _ (some inetRt) sends).trans ?_
      refine not_congr (and_congr_left fun _ => ?_)
      constructor
      · exact fun missing => ⟨inetRt, found, missing⟩
      · rintro ⟨_, routed, missing⟩
        obtain rfl := Option.some.inj (found.symm.trans routed)
        exact missing

end

/-- Two packets wait for node 9, and the routing table is empty. -/
def twoWaiting : State :=
  { zeroState ⟨100, 0⟩ 0 with pq := ⟨[⟨9#32, ⟨99, 0⟩, 1#32⟩, ⟨9#32, ⟨99, 0⟩, 2#32⟩], 2⟩ }

/-- The simulator returns an error, has lost the first packet and still counts it. -/
theorem twoWaiting_loses :
    (simSetVerdict (defaultConfig []) 9#32 .send twoWaiting).result = -1 ∧
      (simSetVerdict (defaultConfig []) 9#32 .send twoWaiting).state.pq.head =
        [⟨9#32, ⟨99, 0⟩, 2#32⟩] ∧
      (simSetVerdict (defaultConfig []) 9#32 .send twoWaiting).state.pq.len = 2 ∧
      (simSetVerdict (defaultConfig []) 9#32 .send twoWaiting).acts = [] ∧
      ¬ VerdictsAgree twoWaiting (simSetVerdict (defaultConfig []) 9#32 .send twoWaiting)
        (packetQueueSetVerdict (defaultConfig []) 9#32 .send twoWaiting) := by
  refine ⟨rfl, rfl, rfl, rfl, fun agree => ?_⟩
  have kept := congrArg (fun queue => queue.head.length) (agree.simFailed rfl).1
  exact absurd kept (by decide)

end Aodvd
