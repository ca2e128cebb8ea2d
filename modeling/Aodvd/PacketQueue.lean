/-
This file models `packet_queue.c`, the buffer of packets that wait for a verdict, and
`seek_list.c`, the list of destinations a route discovery is running for.

Every verdict goes through `nfqueue_set_packet_verdict`, which the model records in the
history of the queue; the kernel is assumed to take it.
-/

import Aodvd.RoutingTable

namespace Aodvd

def maxQueueLength : Nat := 512
def maxQueueTime : Nat := 10000
def garbageCollectTime : Nat := 1000

/-! ### Verdicts -/

/-- `nfqueue_set_packet_verdict`. -/
def nfqueueSetPacketVerdict (packetId : BitVec 32) (verdict : NfVerdict) (cause : VerdictCause)
    (state : State) : State :=
  { state with history := state.history ++ [.verdict packetId verdict cause] }

/-- The loop that detaches the chosen packets of the queue and issues one verdict for each,
in queue order. -/
def detachPackets (chosen : QPkt → Bool) (verdict : NfVerdict) (cause : VerdictCause)
    (state : State) : State :=
  let detached := state.pq.head.filter chosen
  { state with
    pq := ⟨state.pq.head.filter fun qp => !chosen qp, uintSub state.pq.len detached.length⟩
    history := state.history ++ detached.map fun qp => .verdict qp.packetId verdict cause }

/-- `packet_queue_init`. -/
def packetQueueInit (state : State) : State :=
  setTimeout .garbageCollectTimer garbageCollectTime
    (initTimer .garbageCollectTimer .packetQueueTimeout { state with pq := ⟨[], 0⟩ })

/-- `packet_queue_destroy`. -/
def packetQueueDestroy (state : State) : State :=
  let state := detachPackets (fun _ => true) .drop .destroyed state
  { state with pq := { state.pq with len := 0 } }

/-- The head of `packet_queue_add`: a full queue loses its oldest packet. -/
def evictOldest (state : State) : State :=
  match state.pq.head with
  | [] => state
  | oldest :: rest =>
    if maxQueueLength ≤ state.pq.len then
      nfqueueSetPacketVerdict oldest.packetId .drop .evicted
        { state with pq := ⟨rest, uintSub state.pq.len 1⟩ }
    else state

/-- `packet_queue_add`. -/
def packetQueueAdd (packetId : BitVec 32) (destAddr : Addr) (state : State) : State :=
  let state := evictOldest state
  { state with pq := ⟨state.pq.head ++ [⟨destAddr, state.now, packetId⟩], state.pq.len + 1⟩ }

/-- `packet_queue_set_verdict` with `PQ_DROP`. -/
def packetQueueDrop (destAddr : Addr) (state : State) : State :=
  detachPackets (fun qp => decide (qp.destAddr = destAddr)) .drop
    (.released destAddr state.rtTbl state.kernel) state

/-- The timeouts a release refreshes: the route itself and its next hop. -/
def refreshReleased (config : Config) (rt : RtEntry) (state : State) : State :=
  if rt.state = .valid then
    let state := rtTableUpdateTimeout rt.destAddr (activeRouteTimeout config) state
    match rtTableFind state rt.nextHop with
    | none => state
    | some nextHopRt =>
      if nextHopRt.state = .valid ∧ nextHopRt.destAddr ≠ rt.destAddr then
        rtTableUpdateTimeout nextHopRt.destAddr (activeRouteTimeout config) state
      else state
  else state

/-- `packet_queue_set_verdict` with `PQ_SEND` or `PQ_ENC_SEND`. Both look the destination up
first, and without an entry for it nothing is released. -/
def packetQueueSend (config : Config) (destAddr : Addr) (state : State) : State :=
  match rtTableFind state destAddr with
  | none => state
  | some rt =>
    refreshReleased config rt
      (detachPackets (fun qp => decide (qp.destAddr = destAddr)) .accept
        (.released destAddr state.rtTbl state.kernel) state)

/-- `packet_queue_garbage_collect`. -/
def packetQueueGarbageCollect (state : State) : State :=
  detachPackets (fun qp => decide ((maxQueueTime : Int) < timevalDiff state.now qp.qTime))
    .drop .collected state

/-! ### The seek list -/

/-- `seek_list_find`. -/
def seekListFind (state : State) (destAddr : Addr) : Option SeekEntry :=
  state.seekhead.find? fun entry => decide (entry.destAddr = destAddr)

/-- `seek_list_insert`. -/
def seekListInsert (destAddr : Addr) (destSeqno : Seqno) (ttl : Nat) (flags : RreqFlags)
    (state : State) : State :=
  let state := initTimer (.seekTimer destAddr) .routeDiscoveryTimeout state
  { state with seekhead := ⟨destAddr, destSeqno, flags, 0, ttl⟩ :: state.seekhead }

/-- `seek_list_remove` of an entry that is in the list. -/
def seekListRemove (destAddr : Addr) (state : State) : State :=
  removeTimer (.seekTimer destAddr)
    { state with seekhead := state.seekhead.eraseP fun entry => decide (entry.destAddr = destAddr) }

/-- The end of `rt_table_insert` and `rt_table_update`: packets buffered for a destination
that is being sought leave on the new route. -/
def releaseBuffered (config : Config) (destAddr : Addr) (state : State) : State :=
  match seekListFind state destAddr with
  | none => state
  | some _ => packetQueueSend config destAddr (seekListRemove destAddr state)

end Aodvd
