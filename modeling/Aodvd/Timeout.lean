/-
This file models `aodv_timeout.c`, the functions that run when a timer expires, and the
executing loop of `timer_timeout` that calls them.
-/

import Aodvd.Rreq

namespace Aodvd

/-! ### Routes -/

def RtEntry.unmarkRepair (rt : RtEntry) : RtEntry :=
  { rt with flags := { rt.flags with repair := false } }

/-- The RERR of a failed repair: to the only precursor, or on all interfaces. -/
def repairReport (config : Config) (rt : RtEntry) (state : State) : State :=
  if rt.nprec = 0 then state
  else
    let state := rerrCreate false rt.destAddr rt.destSeqno state
    if rt.nprec = 1 then
      aodvSocketSend config (rt.precursors.headD 0#32) (rerrCalcSize 1) 1
        (devIfindex config rt.ifindex) state
    else sendOnAll config (rerrCalcSize 1) 1 state

/-- `local_repair_timeout`. -/
def localRepairTimeout (config : Config) (dest : Addr) (state : State) : State :=
  match entryAt state dest with
  | none => state
  | some rt =>
    let state := setEntry dest RtEntry.unmarkRepair state
    let state := nlSendDelRouteMsg rt.destAddr rt.nextHop rt.hcnt state
    let state := repairReport config rt state
    let state := precursorListDestroy dest state
    setTimeout (.rtTimer dest) deletePeriod (setHandler (.rtTimer dest) .routeDeleteTimeout state)

/-- `route_expire_timeout`. -/
def routeExpireTimeout (config : Config) (dest : Addr) (state : State) : State :=
  match entryAt state dest with
  | none => state
  | some rt =>
    if rt.hcnt = 1 then neighborLinkBreak config dest state
    else precursorListDestroy dest (rtTableInvalidate config dest state)

/-- `hello_timeout`. -/
def helloTimeout (config : Config) (dest : Addr) (state : State) : State :=
  match entryAt state dest with
  | none => state
  | some rt =>
    if rt.state = .valid ∧ rt.flags.unidir = false then
      neighborLinkBreak config dest
        (if config.localRepair = true ∧ rt.hcnt ≤ maxRepairTtl then
          setEntry dest RtEntry.markRepair state else state)
    else state

/-! ### Route discovery -/

/-- The next round of a route discovery: the radius grows up to the threshold and then is the
network diameter. -/
def seekRetry (config : Config) (entry : SeekEntry) : SeekEntry :=
  if config.expandingRingSearch then
    if entry.ttl < ttlThreshold then { entry with ttl := entry.ttl + ttlIncrement }
    else { entry with ttl := netDiameter, reqs := entry.reqs + 1 }
  else { entry with reqs := entry.reqs + 1 }

/-- How long the next round of a route discovery waits. -/
def seekWait (config : Config) (entry : SeekEntry) : Nat :=
  if config.expandingRingSearch then ringTraversalTime entry.ttl
  else entry.reqs * 2 * netTraversalTime

/-- Writing through a pointer to a seek list entry. -/
def setSeekEntry (destAddr : Addr) (change : SeekEntry → SeekEntry) (state : State) : State :=
  { state with seekhead := state.seekhead.map fun entry =>
      if entry.destAddr = destAddr then change entry else entry }

/-- The branch of `route_discovery_timeout` that tries again. -/
def discoveryRetry (config : Config) (entry : SeekEntry) (state : State) : State :=
  let next := seekRetry config entry
  let state := setTimeout (.seekTimer entry.destAddr) (seekWait config next)
    (setSeekEntry entry.destAddr (seekRetry config) state)
  let state := match rtTableFind state entry.destAddr with
    | none => state
    | some rt => keepForDiscovery rt state
  rreqSend config entry.destAddr entry.destSeqno next.ttl entry.flags state

/-- The branch of `route_discovery_timeout` that gives up. -/
def discoveryGiveUp (config : Config) (entry : SeekEntry) (state : State) : State :=
  let state := packetQueueDrop entry.destAddr state
  let repairRt := rtTableFind state entry.destAddr
  let state := seekListRemove entry.destAddr state
  match repairRt with
  | none => state
  | some rt => if rt.flags.repair then localRepairTimeout config rt.destAddr state else state

/-- `route_discovery_timeout`. -/
def routeDiscoveryTimeout (config : Config) (dest : Addr) (state : State) : State :=
  match seekListFind state dest with
  | none => state
  | some entry =>
    if entry.reqs < rreqRetries then discoveryRetry config entry state
    else discoveryGiveUp config entry state

/-! ### The executing loop -/

/-- `packet_queue_timeout`. -/
def packetQueueTimeout (state : State) : State :=
  setTimeout .garbageCollectTimer garbageCollectTime (packetQueueGarbageCollect state)

/-- `wait_on_reboot_timeout`. -/
def waitOnRebootTimeout (state : State) : State := { state with waitOnReboot := false }

/-- `print_rt_table` as far as the daemon's state goes: it arms its timer again. -/
def printRtTable (config : Config) (state : State) : State :=
  setTimeout .rtLogTimer config.rtLogInterval state

/-- The call `t->handler(t->data)`; the identifier of a timer is its data. -/
def runHandler (config : Config) (id : TimerId) (handler : Handler) (state : State) : State :=
  match handler, id with
  | .routeExpireTimeout, .rtTimer dest => routeExpireTimeout config dest state
  | .routeDeleteTimeout, .rtTimer dest => rtTableDelete dest state
  | .localRepairTimeout, .rtTimer dest => localRepairTimeout config dest state
  | .rrepAckTimeout, .ackTimer dest => rreqBlacklistInsert dest state
  | .helloTimeout, .helloTimer dest => helloTimeout config dest state
  | .routeDiscoveryTimeout, .seekTimer dest => routeDiscoveryTimeout config dest state
  | .rreqRecordTimeout, .recTimer origAddr rreqId => rreqRecordTimeout origAddr rreqId state
  | .rreqBlacklistTimeout, .blTimer dest => rreqBlacklistTimeout dest state
  | .packetQueueTimeout, .garbageCollectTimer => packetQueueTimeout state
  | .waitOnRebootTimeout, .worbTimer => waitOnRebootTimeout state
  | .helloSend, .helloSendTimer => helloSend config state
  | .printRtTable, .rtLogTimer => printRtTable config state
  | _, _ => state

/-- One round of the executing loop: detach the first timer of the batch and run it. -/
def runTimer (config : Config) (id : TimerId) (rest : List TimerId) (state : State) : State :=
  let state := { state with timers := timerPop id rest state.timers }
  match (state.timers.timer id).handler with
  | none => state
  | some handler => runHandler config id handler state

/-- The executing loop of `timer_timeout`. Handlers never extend the batch, so its length is
fuel enough. -/
def runBatch (config : Config) : Nat → State → State
  | 0, state => state
  | fuel + 1, state =>
    match state.timers.expTq with
    | [] => state
    | id :: rest => runBatch config fuel (runTimer config id rest state)

/-- `timer_timeout`. -/
def timerTimeout (config : Config) (state : State) : State :=
  let state := { state with timers := timerCollect state.now state.timers }
  runBatch config state.timers.expTq.length state

/-- What remains until a timeout, with the borrow that `timer_age_queue` makes. -/
def timevalRemaining (timeout now : Timeval) : Timeval :=
  if timeout.usec - now.usec < 0 then
    ⟨timeout.sec - now.sec - 1, timeout.usec - now.usec + 1000000⟩
  else ⟨timeout.sec - now.sec, timeout.usec - now.usec⟩

/-- `timer_age_queue`: the expired timers run, and the time until the first one left is returned. -/
def timerAgeQueue (config : Config) (state : State) : State × Option Timeval :=
  if state.timers.tq = [] then (state, none)
  else
    let aged := timerTimeout config state
    (aged, aged.timers.tq.head?.map fun first =>
      timevalRemaining (timerTimeoutOf aged first) state.now)

end Aodvd
