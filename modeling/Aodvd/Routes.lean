/-
This file models how routes come and go: `rt_table_insert`, `rt_table_update`,
`rt_table_invalidate` and `rt_table_delete` of `routing_table.c`, the cascade of
`neighbor_link_break` in `aodv_neighbor.c`, and what the cascade needs of
`aodv_socket_send` and of the RERR assembly in `aodv_rerr.c`.

The send buffer is one static buffer: a message under construction lives in it, and
`aodv_socket_send` transmits whatever it holds.
-/

import Aodvd.PacketQueue

namespace Aodvd

/-! ### Sending -/

/-- One rate limiter of `aodv_socket_send`: the times of the last nine messages of a type.
Nothing is returned when the message has to be dropped. -/
def ratelimitPass (limit : Nat) (now : Timeval) (times : List Timeval) : Option (List Timeval) :=
  match times with
  | [] => some [now]
  | oldest :: rest =>
    if times.length = limit - 1 then
      if timevalDiff now oldest < 1000 then none else some (rest ++ [now])
    else some (times ++ [now])

/-- The rate limiting of `aodv_socket_send`, by the type of the message in the buffer. -/
def ratelimitSend (config : Config) (state : State) : Option State :=
  if config.ratelimit then
    match state.sendBuf with
    | .rreq _ => (ratelimitPass rreqRatelimit state.now state.rreqRatel).map fun times =>
        { state with rreqRatel := times }
    | .rerr _ => (ratelimitPass rerrRatelimit state.now state.rerrRatel).map fun times =>
        { state with rerrRatel := times }
    | _ => some state
  else some state

/-- No RREP leaves during the wait on reboot. -/
def heldOnReboot (state : State) : Bool :=
  match state.sendBuf with
  | .rrep _ => state.waitOnReboot
  | _ => false

/-- `aodv_socket_send` on an interface; the error slot of `devs` has no socket, and a TTL of
zero is refused by `setsockopt`. -/
def aodvSocketSend (config : Config) (dst : Addr) (len : Nat) (ttl : Int) (dev : Option Dev)
    (state : State) : State :=
  match dev with
  | none => state
  | some dev =>
    if heldOnReboot state = true ∨ ttl % 256 = 0 then state
    else
      match ratelimitSend config state with
      | none => state
      | some state =>
        { state with
          bcastTime := if dst = aodvBroadcast then state.now else state.bcastTime
          out := state.out ++ [⟨dev.ipaddr, dst, (ttl % 256).toNat, len, state.sendBuf⟩] }

/-- The loops that send the buffer on every enabled interface. -/
def sendOnAll (config : Config) (len : Nat) (ttl : Int) (state : State) : State :=
  config.devs.foldl
    (fun state dev => aodvSocketSend config aodvBroadcast len ttl (some dev) state) state

/-! ### Assembling a RERR -/

/-- `rerr_create`. -/
def rerrCreate (noDelete : Bool) (destAddr : Addr) (destSeqno : Seqno) (state : State) : State :=
  { state with sendBuf := .rerr ⟨noDelete, 1, [(destAddr, destSeqno)]⟩ }

/-- `rerr_add_udest`: the pair is written at the place the 8-bit count names. -/
def rerrAddUdest (udest : Addr) (udestSeqno : Seqno) (state : State) : State :=
  match state.sendBuf with
  | .rerr rerr =>
    let written :=
      if rerr.destCount < rerr.udest.length then rerr.udest.set rerr.destCount (udest, udestSeqno)
      else rerr.udest ++ [(udest, udestSeqno)]
    { state with sendBuf := .rerr ⟨rerr.noDelete, (rerr.destCount + 1) % 256, written⟩ }
  | _ => state

/-- The local variables of a loop that assembles a RERR: whether one has been created, and
`rerr_unicast_dest`. -/
structure RerrDraft where
  created : Bool
  unicastDest : Addr

def RerrDraft.none : RerrDraft := ⟨false, 0#32⟩

/-- Adding an unreachable destination: the first one creates the RERR, and a later one can
make it a broadcast. -/
def rerrInclude (noDelete : Bool) (rt : RtEntry) (draft : RerrDraft) (state : State) :
    State × RerrDraft :=
  if draft.created then
    (rerrAddUdest rt.destAddr rt.destSeqno state,
      ⟨true, if rt.precursors.any fun addr => decide (addr ≠ draft.unicastDest) then 0#32
        else draft.unicastDest⟩)
  else
    (rerrCreate noDelete rt.destAddr rt.destSeqno state,
      ⟨true, if rt.nprec = 1 then rt.precursors.headD 0#32 else draft.unicastDest⟩)

/-- Sending the assembled RERR: to its one precursor, or on all interfaces. -/
def rerrSend (config : Config) (draft : RerrDraft) (state : State) : State :=
  match draft.created, state.sendBuf with
  | true, .rerr rerr =>
    let size := rerrCalcSize rerr.destCount
    match rtTableFind state draft.unicastDest with
    | some rt =>
      if rerr.destCount = 1 ∧ draft.unicastDest ≠ 0#32 then
        aodvSocketSend config draft.unicastDest size 1 (devIfindex config rt.ifindex) state
      else if 0 < rerr.destCount then sendOnAll config size 1 state else state
    | none => if 0 < rerr.destCount then sendOnAll config size 1 state else state
  | _, _ => state

/-! ### Invalidating and deleting -/

/-- What `rt_table_invalidate` writes into a valid entry. -/
def RtEntry.invalidated (rt : RtEntry) : RtEntry :=
  { rt with
    state := .invalid
    helloCnt := 0
    destSeqno := seqnoIncr rt.destSeqno
    lastHelloTime := timevalZero }

/-- `num_active--`. -/
def decrActive (state : State) : State :=
  { state with rtTbl := { state.rtTbl with numActive := uintSub state.rtTbl.numActive 1 } }

/-- `num_active++`. -/
def incrActive (state : State) : State :=
  { state with rtTbl := { state.rtTbl with numActive := state.rtTbl.numActive + 1 } }

/-- Removing the three timers of an entry. -/
def removeEntryTimers (dest : Addr) (state : State) : State :=
  removeTimer (.ackTimer dest) (removeTimer (.helloTimer dest) (removeTimer (.rtTimer dest) state))

/-- `rt_table_invalidate`. -/
def rtTableInvalidate (config : Config) (dest : Addr) (state : State) : State :=
  match entryAt state dest with
  | none => state
  | some rt =>
    if rt.state = .invalid then state
    else
      let state := decrActive (setEntry dest RtEntry.invalidated (removeEntryTimers dest state))
      let state := nlSendDelRouteMsg rt.destAddr rt.nextHop rt.hcnt state
      if rt.flags.repair then
        setTimeout (.rtTimer dest) (activeRouteTimeout config)
          (setHandler (.rtTimer dest) .localRepairTimeout state)
      else
        setTimeout (.rtTimer dest) deletePeriod
          (setHandler (.rtTimer dest) .routeDeleteTimeout state)

/-- `list_detach` of an entry together with `num_entries--`. -/
def detachEntry (dest : Addr) (state : State) : State :=
  { state with rtTbl := { state.rtTbl with
      numEntries := uintSub state.rtTbl.numEntries 1
      tbl := ChainedTable.remove rtScheme state.rtTbl.tbl dest } }

/-- `rt_table_delete`. -/
def rtTableDelete (dest : Addr) (state : State) : State :=
  match entryAt state dest with
  | none => state
  | some rt =>
    let state := detachEntry dest state
    let state :=
      if rt.state = .valid then
        decrActive (nlSendDelRouteMsg rt.destAddr rt.nextHop rt.hcnt state)
      else state
    removeEntryTimers dest state

/-- `rt_table_destroy`. -/
def rtTableDestroy (state : State) : State :=
  (rtEntries state).foldl (fun state rt => rtTableDelete rt.destAddr state) state

/-! ### Link breaks -/

/-- The flag assignment `flags |= RT_REPAIR`. -/
def RtEntry.markRepair (rt : RtEntry) : RtEntry :=
  { rt with flags := { rt.flags with repair := true } }

/-- The body of the loop of `neighbor_link_break` for one entry of the table. -/
def linkBreakVisit (config : Config) (broken visited : Addr) (loop : State × RerrDraft) :
    State × RerrDraft :=
  match entryAt loop.1 broken, entryAt loop.1 visited with
  | some rt, some rtU =>
    if rtU.state = .valid ∧ rtU.nextHop = rt.destAddr ∧ rtU.destAddr ≠ rt.destAddr then
      if rt.flags.repair = true ∧ rtU.hcnt ≤ maxRepairTtl then
        (rtTableInvalidate config visited (setEntry visited RtEntry.markRepair loop.1), loop.2)
      else
        let state := rtTableInvalidate config visited loop.1
        let included :=
          match entryAt state visited with
          | some rtU => if rtU.nprec = 0 then (state, loop.2)
              else rerrInclude false rtU loop.2 state
          | none => (state, loop.2)
        (precursorListDestroy visited included.1, included.2)
    else loop
  | _, _ => loop

/-- The part of `neighbor_link_break` before its loop: the broken link itself. -/
def linkBreakSelf (config : Config) (dest : Addr) (state : State) : State × RerrDraft :=
  let state := rtTableInvalidate config dest state
  match entryAt state dest with
  | none => (state, .none)
  | some rt =>
    if rt.flags.repair then (state, .none)
    else
      let included := if rt.nprec = 0 then (state, RerrDraft.none)
        else rerrInclude false rt .none state
      (precursorListDestroy dest included.1, included.2)

/-- `neighbor_link_break`. -/
def neighborLinkBreak (config : Config) (dest : Addr) (state : State) : State :=
  match entryAt state dest with
  | none => state
  | some rt =>
    if rt.hcnt = 1 then
      let loop := ((rtEntries state).map RtEntry.destAddr).foldl
        (fun loop visited => linkBreakVisit config dest visited loop) (linkBreakSelf config dest state)
      rerrSend config loop.2 loop.1
    else state

/-! ### Inserting and updating -/

/-- A route as a message or a neighbour offers it to the table: the arguments of
`rt_table_insert` and `rt_table_update`, with the hop count still a `u_int32_t`. -/
structure Offer where
  dest : Addr
  next : Addr
  hops : Nat
  seqno : Seqno
  life : Nat
  state : RouteState
  flags : RtFlags
  ifindex : Nat

/-- The hop count as the `u_int8_t` parameter receives it. -/
def Offer.hcnt (offer : Offer) : Nat := offer.hops % 256

/-- The entry `rt_table_insert` allocates. -/
def Offer.entry (offer : Offer) : RtEntry where
  destAddr := offer.dest
  destSeqno := offer.seqno
  ifindex := offer.ifindex
  nextHop := offer.next
  hcnt := offer.hcnt
  flags := offer.flags
  state := offer.state
  lastHelloTime := timevalZero
  helloCnt := 0
  hash := (hashing offer.dest).1
  nprec := 0
  precursors := []

/-- Linking a new entry first in its bucket together with `num_entries++`. -/
def attachEntry (rt : RtEntry) (state : State) : State :=
  { state with rtTbl := { state.rtTbl with
      numEntries := state.rtTbl.numEntries + 1
      tbl := ChainedTable.add rtScheme state.rtTbl.tbl rt } }

/-- The part of `rt_table_insert` before the buffered packets are released. -/
def insertRoute (config : Config) (offer : Offer) (state : State) : State :=
  let state := initTimer (.helloTimer offer.dest) .helloTimeout
    (initTimer (.ackTimer offer.dest) .rrepAckTimeout
      (initTimer (.rtTimer offer.dest) .routeExpireTimeout state))
  let state := attachEntry offer.entry state
  if offer.state = .invalid then
    if offer.flags.repair then
      setTimeout (.rtTimer offer.dest) (activeRouteTimeout config)
        (setHandler (.rtTimer offer.dest) .localRepairTimeout state)
    else
      setTimeout (.rtTimer offer.dest) deletePeriod
        (setHandler (.rtTimer offer.dest) .routeDeleteTimeout state)
  else
    let state := nlSendAddRouteMsg offer.dest offer.next offer.hcnt offer.ifindex (incrActive state)
    if offer.life = 0 then state else setTimeout (.rtTimer offer.dest) offer.life state

/-- `rt_table_insert`; the result is the pointer it returns. -/
def rtTableInsert (config : Config) (offer : Offer) (state : State) : State × Option Addr :=
  if (state.rtTbl.tbl (hashing offer.dest).2).any fun rt => decide (rt.destAddr = offer.dest) then
    (state, none)
  else
    let state := insertRoute config offer state
    (if offer.state = .valid then releaseBuffered config offer.dest state else state,
      some offer.dest)

/-- The kernel update at the head of `rt_table_update`. -/
def updateKernel (rt : RtEntry) (offer : Offer) (state : State) : State :=
  if rt.state = .invalid ∧ offer.state = .valid then
    nlSendAddRouteMsg rt.destAddr offer.next offer.hcnt rt.ifindex (incrActive state)
  else if rt.nextHop ≠ 0#32 ∧ rt.nextHop ≠ offer.next then
    nlSendAddRouteMsg rt.destAddr offer.next offer.hcnt rt.ifindex state
  else state

/-- The flags `rt_table_update` stores: a repaired route loses its repair flag. -/
def updateFlags (rt : RtEntry) (offer : Offer) : RtFlags :=
  if rt.state = .invalid ∧ offer.state = .valid ∧ rt.flags.repair = true then
    { offer.flags with repair := false }
  else offer.flags

/-- Forgetting the HELLOs of a neighbour that is a neighbour no longer. -/
def RtEntry.forgetHellos (rt : RtEntry) : RtEntry :=
  { rt with lastHelloTime := timevalZero, helloCnt := 0 }

/-- A direct neighbour that becomes several hops away is a broken link for the routes over
it. -/
def updateLinkBreak (config : Config) (rt : RtEntry) (offer : Offer) (state : State) : State :=
  if 1 < offer.hcnt ∧ rt.hcnt = 1 then
    neighborLinkBreak config rt.destAddr
      (removeTimer (.helloTimer rt.destAddr) (setEntry rt.destAddr RtEntry.forgetHellos state))
  else state

/-- The fields `rt_table_update` takes over from an offer. -/
def RtEntry.adopt (flags : RtFlags) (offer : Offer) (rt : RtEntry) : RtEntry :=
  { rt with flags := flags, destSeqno := offer.seqno, nextHop := offer.next, hcnt := offer.hcnt }

def RtEntry.setState (state : RouteState) (rt : RtEntry) : RtEntry := { rt with state := state }

/-- The part of `rt_table_update` before the buffered packets are released. The timeout is
updated while the old state is still in place. -/
def updateRoute (config : Config) (rt : RtEntry) (offer : Offer) (state : State) : State :=
  let state := updateLinkBreak config rt offer (updateKernel rt offer state)
  let state := setEntry rt.destAddr (RtEntry.adopt (updateFlags rt offer) offer) state
  let state := setHandler (.rtTimer rt.destAddr) .routeExpireTimeout state
  let state := if (updateFlags rt offer).inetDest then state
    else rtTableUpdateTimeout rt.destAddr offer.life state
  setEntry rt.destAddr (RtEntry.setState offer.state) state

/-- `rt_table_update` of the entry an offer is about. -/
def rtTableUpdate (config : Config) (offer : Offer) (state : State) : State :=
  match entryAt state offer.dest with
  | none => state
  | some rt =>
    let state := updateRoute config rt offer state
    if offer.state = .valid then releaseBuffered config offer.dest state else state

end Aodvd
