/-
This file models the daemon as a whole: `packet_input_handle_packet` and the NFQUEUE
callback, the dispatch of received control messages, the initialisation of `main`, and
a run as a sequence of events.

An event is one entry of the main loop into a module: the expired timers, a control
message, a queued packet, or a transmission failure reported by the link layer feedback
of `llf.c`. The clock is read once per event.
-/

import Aodvd.Timeout

namespace Aodvd

/-! ### Data packets -/

/-- The hooks of netfilter that the daemon tells apart. -/
inductive Hook
  | forward
  | other
  deriving DecidableEq, Repr

/-- The parts of a queued IP packet that `packet_input.c` reads: its length as reported by
NFQUEUE, the header fields and the UDP ports behind the header. -/
structure IpPacket where
  len : Nat
  ihl : Nat
  protocol : Nat
  saddr : Addr
  daddr : Addr
  udpSource : Nat
  udpDest : Nat
  deriving DecidableEq, Repr

/-- A packet handed over by NFQUEUE; the payload may be missing. -/
structure NfPacket where
  packetId : BitVec 32
  payload : Option IpPacket
  hook : Hook
  indev : Nat
  outdev : Nat
  deriving DecidableEq, Repr

def ipHeaderSize : Nat := 20
def udpHeaderSize : Nat := 8
def ipprotoTcp : Nat := 6
def ipprotoUdp : Nat := 17
def aodvPort : Nat := 654

/-- `packet_is_aodv_control`. -/
def packetIsAodvControl (packet : IpPacket) : Bool :=
  decide (packet.protocol = ipprotoUdp) && decide (packet.ihl * 4 + udpHeaderSize ≤ packet.len) &&
    (decide (packet.udpSource = aodvPort) || decide (packet.udpDest = aodvPort))

/-- `packet_is_broadcast`. -/
def packetIsBroadcast (config : Config) (destAddr : Addr) (ifindex : Nat) : Bool :=
  decide (destAddr = aodvBroadcast) ||
    (decide (0 < ifindex) &&
      (devIfindex config ifindex).any fun dev => decide (destAddr = dev.broadcast))

/-- `packet_is_direct_subnet`. -/
def packetIsDirectSubnet (config : Config) (destAddr : Addr) (ifindex : Nat) : Bool :=
  decide (ifindex ≠ 0) &&
    (devIfindex config ifindex).any fun dev =>
      decide (destAddr &&& dev.netmask = dev.ipaddr &&& dev.netmask)

/-- `packet_is_local_address`. -/
def packetIsLocalAddress (config : Config) (destAddr : Addr) : Bool :=
  decide (destAddr ∈ ownAddrs config)

/-- `send_rerr_for_unknown_dest`. -/
def sendRerrForUnknownDest (config : Config) (destAddr : Addr) (fwdRt revRt : Option RtEntry)
    (ifindex : Nat) (state : State) : State :=
  let state := match fwdRt with
    | some rt => rtTableUpdateTimeout rt.destAddr deletePeriod
        (rerrCreate false rt.destAddr rt.destSeqno state)
    | none => rerrCreate false destAddr 0#32 state
  let rerrDest := match revRt with
    | some rt => if rt.state = .valid then rt.nextHop else aodvBroadcast
    | none => aodvBroadcast
  let state := aodvSocketSend config rerrDest (rerrCalcSize 1) 1 (devIfindex config ifindex) state
  if state.waitOnReboot then setTimeout .worbTimer deletePeriod state else state

/-- No route, an invalid one, or a neighbour behind a unidirectional link. -/
def unroutable (fwdRt : Option RtEntry) : Bool :=
  match fwdRt with
  | none => true
  | some rt => decide (rt.state = .invalid) || (decide (rt.hcnt = 1) && rt.flags.unidir)

def inRepair (fwdRt : Option RtEntry) : Bool :=
  match fwdRt with
  | none => false
  | some rt => rt.flags.repair

/-- The discovery or the repair that a buffered packet starts. -/
def seekRoute (config : Config) (packet : IpPacket) (fwdRt : Option RtEntry) (state : State) :
    State :=
  match fwdRt with
  | some rt =>
    if rt.flags.repair then rreqLocalRepair config rt packet.saddr state
    else rreqRouteDiscovery config packet.daddr
      { RreqFlags.none with gratuitous := decide (packet.protocol = ipprotoTcp) } state
  | none => rreqRouteDiscovery config packet.daddr
      { RreqFlags.none with gratuitous := decide (packet.protocol = ipprotoTcp) } state

/-- What `packet_input_handle_packet` decides: a verdict, or `PACKET_INPUT_QUEUED`. -/
inductive InputAction
  | verdict (verdict : NfVerdict)
  | queued
  deriving DecidableEq, Repr

/-- `packet_input_handle_packet` for a packet that is to be routed by AODV. -/
def packetInputRoute (config : Config) (packet : NfPacket) (ip : IpPacket) (state : State) :
    State × InputAction :=
  let ifindex := if packet.hook = .forward then packet.indev else packet.outdev
  let revRt := rtTableFind state ip.saddr
  let fwdRt := rtTableFind state ip.daddr
  let state := rtTableUpdateRouteTimeouts config fwdRt revRt state
  if unroutable fwdRt then
    if inRepair fwdRt = false ∧ packet.hook = .forward then
      (sendRerrForUnknownDest config ip.daddr fwdRt revRt ifindex state, .verdict .drop)
    else
      (seekRoute config ip fwdRt (packetQueueAdd packet.packetId ip.daddr state), .queued)
  else (state, .verdict .accept)

/-- `packet_input_handle_packet`. -/
def packetInputHandlePacket (config : Config) (packet : NfPacket) (state : State) :
    State × InputAction :=
  match packet.payload with
  | none => (state, .verdict .accept)
  | some ip =>
    let ifindex := if packet.hook = .forward then packet.indev else packet.outdev
    if ip.len < ipHeaderSize ∨ ip.len < ip.ihl * 4 then (state, .verdict .accept)
    else if packetIsLocalAddress config ip.daddr || packetIsBroadcast config ip.daddr ifindex ||
        packetIsDirectSubnet config ip.daddr packet.outdev || packetIsAodvControl ip then
      (state, .verdict .accept)
    else packetInputRoute config packet ip state

/-- `nfqueue_packet_cb` for a packet with a header. -/
def nfqueuePacketCb (config : Config) (packet : NfPacket) (state : State) : State :=
  let handled := packetInputHandlePacket config packet
    { state with history := state.history ++ [.delivered packet.packetId] }
  match handled.2 with
  | .verdict verdict => nfqueueSetPacketVerdict packet.packetId verdict .immediate handled.1
  | .queued => handled.1

/-! ### Control messages -/

/-- A received datagram as `aodv_socket_process_packet` gets it. -/
structure Received where
  msg : AodvMsg
  len : Nat
  src : Addr
  dst : Addr
  ttl : Nat
  ifindex : Nat
  deriving DecidableEq, Repr

/-- The datagram is a HELLO: a RREP of TTL one to the broadcast address. -/
def Received.hello (received : Received) : Option Rrep :=
  match received.msg with
  | .rrep rrep => if received.ttl = 1 ∧ received.dst = aodvBroadcast then some rrep else none
  | _ => none

/-- The switch of `aodv_socket_process_packet` over the message type. -/
def processMsg (config : Config) (received : Received) (state : State) : State :=
  match received.msg with
  | .rreq rreq =>
    rreqProcess config rreq received.len received.src received.ttl received.ifindex state
  | .rrep rrep =>
    rrepProcess config rrep received.len received.src received.ttl received.ifindex state
  | .rerr rerr => rerrProcess config rerr received.len received.src state
  | .rrepAck => rrepAckProcess received.src state
  | .other _ => state

/-- `aodv_socket_process_packet`. -/
def aodvSocketProcessPacket (config : Config) (received : Received) (state : State) : State :=
  match received.hello with
  | some hello => helloProcess config hello received.len received.ifindex state
  | none => processMsg config received
      (neighborAdd config received.src received.ifindex state)

/-- `aodv_socket_read` after the datagram has been received: locally generated messages are
ignored. -/
def aodvSocketRead (config : Config) (received : Received) (state : State) : State :=
  if received.src ∈ ownAddrs config then state else aodvSocketProcessPacket config received state

/-! ### Runs -/

/-- What wakes the main loop up. -/
inductive Event
  | timers
  | message (received : Received)
  | packet (packet : NfPacket)
  | txDrop (ip : Addr)
  deriving DecidableEq, Repr

/-- An event at its time, with the jitter that `random` yields during it. -/
structure Input where
  now : Timeval
  jitter : Int
  event : Event
  deriving DecidableEq, Repr

/-- The handler of an event. -/
def handleEvent (config : Config) (event : Event) (state : State) : State :=
  match event with
  | .timers => timerTimeout config state
  | .message received => aodvSocketRead config received state
  | .packet packet => nfqueuePacketCb config packet state
  | .txDrop ip =>
    match rtTableFind state ip with
    | none => state
    | some rt => neighborLinkBreak config rt.destAddr state

/-- One event of the daemon. The datagrams of earlier events have left. -/
def step (config : Config) (state : State) (input : Input) : State :=
  handleEvent config input.event { state with now := input.now, jitter := input.jitter, out := [] }

/-- The zeroed globals before `main` initialises them. -/
def zeroState (now : Timeval) (jitter : Int) : State where
  now := now
  jitter := jitter
  seqno := 1#32
  rreqId := 0#32
  bcastTime := now
  fwdTime := timevalZero
  rtTbl := ⟨0, 0, fun _ => []⟩
  kernel := fun _ _ => none
  seekhead := []
  pq := ⟨[], 0⟩
  rreqRecords := []
  rreqBlacklist := []
  timers := .empty
  sendBuf := .other 0
  rreqRatel := []
  rerrRatel := []
  waitOnReboot := false
  out := []
  history := []

/-- The wait on reboot that `main` starts. -/
def bootWait (config : Config) (state : State) : State :=
  if config.waitOnReboot then
    setTimeout .worbTimer deletePeriod
      (initTimer .worbTimer .waitOnRebootTimeout { state with waitOnReboot := true })
  else state

/-- The first HELLO and the routing table log that `main` schedules. -/
def bootHello (config : Config) (state : State) : State :=
  let state := if config.optimizedHellos = false ∧ config.llfeedback = false then
    helloStart config state else state
  if config.rtLogInterval = 0 then state
  else setTimeout .rtLogTimer config.rtLogInterval (initTimer .rtLogTimer .printRtTable state)

/-- The state in which `main` enters its loop. -/
def boot (config : Config) (now : Timeval) (jitter : Int) : State :=
  bootHello config (bootWait config (packetQueueInit (rtTableInit (zeroState now jitter))))

/-- A run of the daemon from a state. -/
def runFrom (config : Config) (state : State) (inputs : List Input) : State :=
  inputs.foldl (step config) state

/-- A run of the daemon from its start. -/
def run (config : Config) (now : Timeval) (jitter : Int) (inputs : List Input) : State :=
  runFrom config (boot config now jitter) inputs

/-- `cleanup`, as far as the model goes. -/
def cleanup (state : State) : State := packetQueueDestroy (rtTableDestroy state)

end Aodvd
