/-
This file collects the state of one running daemon: the globals of its modules, the
kernel routing table it feeds over rtnetlink, the datagrams it has handed to the
sockets and the history of the packets queued to it.

A pointer to a routing table entry, a seek list entry or a timer is modelled by the key
of what it points to. The daemon never holds two entries of one key, which is proved of
the routing table and of the seek list, so the key names the object.
-/

import Aodvd.Library.ChainedTable
import Aodvd.Messages
import Aodvd.TimerQueue

namespace Aodvd

/-! ### Timers -/

/-- The `struct timer` objects of the daemon. -/
inductive TimerId
  | rtTimer (destAddr : Addr)
  | ackTimer (destAddr : Addr)
  | helloTimer (destAddr : Addr)
  | seekTimer (destAddr : Addr)
  | recTimer (origAddr : Addr) (rreqId : BitVec 32)
  | blTimer (destAddr : Addr)
  | garbageCollectTimer
  | worbTimer
  | helloSendTimer
  | rtLogTimer
  deriving DecidableEq, Repr

/-- The timeout functions that `timer_init` and the routing table install. -/
inductive Handler
  | routeExpireTimeout
  | routeDeleteTimeout
  | localRepairTimeout
  | rrepAckTimeout
  | helloTimeout
  | routeDiscoveryTimeout
  | rreqRecordTimeout
  | rreqBlacklistTimeout
  | packetQueueTimeout
  | waitOnRebootTimeout
  | helloSend
  | printRtTable
  deriving DecidableEq, Repr

/-! ### The routing table -/

/-- `VALID` and `INVALID`. -/
inductive RouteState
  | valid
  | invalid
  deriving DecidableEq, Repr

/-- The route entry flags the default build reads. -/
structure RtFlags where
  unidir : Bool
  repair : Bool
  inetDest : Bool
  deriving DecidableEq, Repr

def RtFlags.none : RtFlags := ⟨false, false, false⟩

/-- `struct rt_table`; its three timers live in the timer store. -/
structure RtEntry where
  destAddr : Addr
  destSeqno : Seqno
  ifindex : Nat
  nextHop : Addr
  hcnt : Nat
  flags : RtFlags
  state : RouteState
  lastHelloTime : Timeval
  helloCnt : Nat
  hash : BitVec 32
  nprec : Int
  precursors : List Addr
  deriving DecidableEq, Repr

def rtTableSize : Nat := 64
def rtTableMask : BitVec 32 := 63#32

theorem and_rtTableMask_lt (hash : BitVec 32) : (hash &&& rtTableMask).toNat < rtTableSize := by
  rw [BitVec.toNat_and]
  exact Nat.lt_of_le_of_lt Nat.and_le_right (by decide)

/-- `hashing`: the hash value of an address and its bucket. -/
def hashing (addr : Addr) : BitVec 32 × Fin rtTableSize :=
  (addr, ⟨(addr &&& rtTableMask).toNat, and_rtTableMask_lt addr⟩)

/-- The chained table of entries by destination address. -/
def rtScheme : ChainedTable.Scheme Addr RtEntry rtTableSize where
  key := RtEntry.destAddr
  slot addr := (hashing addr).2

/-- `struct routing_table`. -/
structure RoutingTable where
  numEntries : Nat
  numActive : Nat
  tbl : ChainedTable.Buckets RtEntry rtTableSize

/-! ### The kernel routing table -/

/-- A route the daemon has installed in the kernel. -/
structure KernelRoute where
  gateway : Addr
  ifindex : Nat
  deriving DecidableEq, Repr

/-- The daemon's routes in the kernel, keyed by destination and metric. -/
abbrev KernelTable := Addr → Nat → Option KernelRoute

/-- `RTM_NEWROUTE` with `NLM_F_CREATE | NLM_F_REPLACE`. -/
def KernelTable.newRoute (kernel : KernelTable) (dest : Addr) (metric : Nat) (route : KernelRoute) :
    KernelTable :=
  fun addr other => if addr = dest ∧ other = metric then some route else kernel addr other

/-- `RTM_DELROUTE`: the route of the key goes if its gateway is the given one. -/
def KernelTable.delRoute (kernel : KernelTable) (dest : Addr) (metric : Nat) (gateway : Addr) :
    KernelTable :=
  fun addr other =>
    if addr = dest ∧ other = metric ∧ (kernel addr other).map KernelRoute.gateway = some gateway
    then none else kernel addr other

/-! ### The seek list and the packet queue -/

/-- `struct seek_list`. -/
structure SeekEntry where
  destAddr : Addr
  destSeqno : Seqno
  flags : RreqFlags
  reqs : Nat
  ttl : Nat
  deriving DecidableEq, Repr

/-- `struct q_pkt`. -/
structure QPkt where
  destAddr : Addr
  qTime : Timeval
  packetId : BitVec 32
  deriving DecidableEq, Repr

/-- `struct packet_queue` without its timer. -/
structure PacketQueue where
  head : List QPkt
  len : Nat

/-- `NF_DROP` and `NF_ACCEPT`. -/
inductive NfVerdict
  | drop
  | accept
  deriving DecidableEq, Repr

/-- Why a verdict was issued. A release records the destination and both routing tables at
that moment. -/
inductive VerdictCause
  | immediate
  | evicted
  | released (destAddr : Addr) (rtTbl : RoutingTable) (kernel : KernelTable)
  | collected
  | destroyed

/-- The history of a queued packet: the kernel hands it over, the daemon issues a verdict. -/
inductive QueueEvent
  | delivered (packetId : BitVec 32)
  | verdict (packetId : BitVec 32) (verdict : NfVerdict) (cause : VerdictCause)

/-! ### The daemon -/

/-- The state of the daemon and what it has done to its environment. The clock and the
HELLO jitter are inputs: every event sets them before its handler runs. -/
structure State where
  now : Timeval
  jitter : Int
  seqno : Seqno
  rreqId : BitVec 32
  bcastTime : Timeval
  fwdTime : Timeval
  rtTbl : RoutingTable
  kernel : KernelTable
  seekhead : List SeekEntry
  pq : PacketQueue
  rreqRecords : List (Addr × BitVec 32)
  rreqBlacklist : List Addr
  timers : Timers TimerId Handler
  sendBuf : AodvMsg
  rreqRatel : List Timeval
  rerrRatel : List Timeval
  waitOnReboot : Bool
  out : List Datagram
  history : List QueueEvent

/-- `timer_set_timeout` on one of the daemon's timers. -/
def setTimeout (id : TimerId) (msec : Int) (state : State) : State :=
  { state with timers := timerSetTimeout state.now id msec state.timers }

/-- `timer_remove` on one of the daemon's timers. -/
def removeTimer (id : TimerId) (state : State) : State :=
  { state with timers := timerRemove id state.timers }

/-- `timer_init` on one of the daemon's timers. -/
def initTimer (id : TimerId) (handler : Handler) (state : State) : State :=
  { state with timers := timerInit id handler state.timers }

/-- Assignment to the `handler` field of one of the daemon's timers. -/
def setHandler (id : TimerId) (handler : Handler) (state : State) : State :=
  { state with timers := timerSetHandler id handler state.timers }

/-- The `used` field of one of the daemon's timers. -/
def timerUsed (state : State) (id : TimerId) : Bool := (state.timers.timer id).used

/-- The `timeout` field of one of the daemon's timers. -/
def timerTimeoutOf (state : State) (id : TimerId) : Timeval := (state.timers.timer id).timeout

/-- Reading through a pointer to the entry of a destination. -/
def entryAt (state : State) (dest : Addr) : Option RtEntry :=
  ChainedTable.lookup rtScheme state.rtTbl.tbl dest

/-- Writing through a pointer to the entry of a destination. -/
def setEntry (dest : Addr) (change : RtEntry → RtEntry) (state : State) : State :=
  { state with rtTbl := { state.rtTbl with
      tbl := ChainedTable.modify rtScheme state.rtTbl.tbl dest change } }

end Aodvd
