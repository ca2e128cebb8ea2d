/-
This file models `aodv_rreq.c`: originating, processing and forwarding route requests,
the records of requests already seen and the blacklist. The loop over the extensions of
a RREQ only logs and is left out.
-/

import Aodvd.Rrep

namespace Aodvd

/-! ### Originating -/

/-- `rreq_create`. -/
def rreqCreate (flags : RreqFlags) (destAddr : Addr) (destSeqno : Seqno) (origAddr : Addr)
    (state : State) : State :=
  let seqno := seqnoIncr state.seqno
  { state with
    sendBuf := .rreq ⟨flags, 0, state.rreqId, destAddr, destSeqno, origAddr, seqno, []⟩
    rreqId := state.rreqId + 1#32
    seqno := seqno }

/-- `rreq_send`. -/
def rreqSend (config : Config) (destAddr : Addr) (destSeqno : Seqno) (ttl : Nat)
    (flags : RreqFlags) (state : State) : State :=
  let flags := if config.rreqGratuitous then { flags with gratuitous := true } else flags
  config.devs.foldl
    (fun state dev => aodvSocketSend config aodvBroadcast rreqSize ttl (some dev)
      (rreqCreate flags destAddr destSeqno dev.ipaddr state)) state

/-- The guard that keeps a routing entry waiting for a RREP from being expunged. -/
def keepForDiscovery (rt : RtEntry) (state : State) : State :=
  if timevalDiff (timerTimeoutOf state (.rtTimer rt.destAddr)) state.now < (2 * netTraversalTime : Nat)
  then rtTableUpdateTimeout rt.destAddr (2 * netTraversalTime) state
  else state

/-- `rreq_route_discovery`. -/
def rreqRouteDiscovery (config : Config) (destAddr : Addr) (flags : RreqFlags) (state : State) :
    State :=
  match seekListFind state destAddr with
  | some _ => state
  | none =>
    let found := rtTableFind state destAddr
    let destSeqno := (found.map RtEntry.destSeqno).getD 0#32
    let ttl := if config.expandingRingSearch then
        (found.map fun rt => rt.hcnt + ttlIncrement).getD ttlStart
      else netDiameter
    let state := match found with
      | none => state
      | some rt => keepForDiscovery rt state
    let state := rreqSend config destAddr destSeqno ttl flags state
    let state := seekListInsert destAddr destSeqno ttl flags state
    setTimeout (.seekTimer destAddr)
      (if config.expandingRingSearch then ringTraversalTime ttl else netTraversalTime : Nat) state

/-- The initial radius of a local repair: the C code takes the larger of the hop count and
half the hop count to the source as a `double` and truncates. -/
def repairTtl (rt : RtEntry) (srcEntry : Option RtEntry) : Nat :=
  match srcEntry with
  | none => rt.hcnt + localAddTtl
  | some src => max rt.hcnt (src.hcnt / 2) + localAddTtl

/-- `rreq_local_repair`. -/
def rreqLocalRepair (config : Config) (rt : RtEntry) (srcAddr : Addr) (state : State) : State :=
  match seekListFind state rt.destAddr with
  | some _ => state
  | none =>
    if rt.flags.repair then
      let ttl := repairTtl rt (rtTableFind state srcAddr)
      let state := setHandler (.rtTimer rt.destAddr) .routeExpireTimeout state
      let state := keepForDiscovery rt state
      let state := rreqSend config rt.destAddr rt.destSeqno ttl .none state
      let state := seekListInsert rt.destAddr rt.destSeqno ttl .none state
      setTimeout (.seekTimer rt.destAddr)
        (if config.expandingRingSearch then 2 * ttl * nodeTraversalTime else netTraversalTime : Nat)
        state
    else state

/-! ### Records and blacklist -/

/-- `rreq_record_find`. -/
def rreqRecordFind (state : State) (origAddr : Addr) (rreqId : BitVec 32) : Bool :=
  decide ((origAddr, rreqId) ∈ state.rreqRecords)

/-- `rreq_record_insert`. -/
def rreqRecordInsert (origAddr : Addr) (rreqId : BitVec 32) (state : State) : State :=
  if rreqRecordFind state origAddr rreqId then state
  else
    setTimeout (.recTimer origAddr rreqId) pathDiscoveryTime
      (initTimer (.recTimer origAddr rreqId) .rreqRecordTimeout
        { state with rreqRecords := (origAddr, rreqId) :: state.rreqRecords })

/-- `rreq_record_timeout`. -/
def rreqRecordTimeout (origAddr : Addr) (rreqId : BitVec 32) (state : State) : State :=
  { state with rreqRecords := state.rreqRecords.erase (origAddr, rreqId) }

/-- `rreq_blacklist_find`. -/
def rreqBlacklistFind (state : State) (destAddr : Addr) : Bool :=
  decide (destAddr ∈ state.rreqBlacklist)

/-- `rreq_blacklist_insert`. -/
def rreqBlacklistInsert (destAddr : Addr) (state : State) : State :=
  if rreqBlacklistFind state destAddr then state
  else
    setTimeout (.blTimer destAddr) blacklistTimeout
      (initTimer (.blTimer destAddr) .rreqBlacklistTimeout
        { state with rreqBlacklist := destAddr :: state.rreqBlacklist })

/-- `rreq_blacklist_timeout`. -/
def rreqBlacklistTimeout (destAddr : Addr) (state : State) : State :=
  { state with rreqBlacklist := state.rreqBlacklist.erase destAddr }

/-! ### Processing a RREQ -/

/-- The lifetime of a reverse route, in the 32-bit arithmetic of `rreq_process`. -/
def reverseLife (newHcnt : Nat) : Nat :=
  ((pathDiscoveryTime - 2 * newHcnt * nodeTraversalTime : Int) % 2 ^ 32).toNat

/-- The reverse route a RREQ received from a neighbour offers. -/
def rreqOffer (rreq : Rreq) (ipSrc : Addr) (ifindex : Nat) (flags : RtFlags) : Offer where
  dest := rreq.origAddr
  next := ipSrc
  hops := rreq.hcnt + 1
  seqno := rreq.origSeqno
  life := reverseLife (rreq.hcnt + 1)
  state := .valid
  flags := flags
  ifindex := ifindex

/-- The test of `rreq_process` for taking a RREQ over into an existing reverse entry. -/
def rreqAccepts (rreq : Rreq) (rt : RtEntry) : Bool :=
  decide (rt.destSeqno = 0#32) || decide (signed rt.destSeqno < signed rreq.origSeqno) ||
    (decide (rreq.origSeqno = rt.destSeqno) &&
      (decide (rt.state = .invalid) || decide (rreq.hcnt + 1 < rt.hcnt)))

/-- The reverse route of a RREQ is created or updated. -/
def rreqReverse (config : Config) (rreq : Rreq) (ipSrc : Addr) (ifindex : Nat) (state : State) :
    State :=
  match rtTableFind state rreq.origAddr with
  | none => (rtTableInsert config (rreqOffer rreq ipSrc ifindex .none) state).1
  | some revRt =>
    if rreqAccepts rreq revRt then
      rtTableUpdate config (rreqOffer rreq ipSrc ifindex revRt.flags) state
    else state

/-- The node's own sequence number after it was asked for with a number. -/
def answerSeqno (own requested : Seqno) : Seqno :=
  if requested = 0#32 then own
  else if signed own < signed requested then requested
  else if own = requested then seqnoIncr own
  else own

/-- The reply of the destination of a RREQ. -/
def rreqAnswer (config : Config) (rreq : Rreq) (state : State) : State :=
  match entryAt state rreq.origAddr with
  | none => state
  | some revRt =>
    let state := { state with seqno := answerSeqno state.seqno rreq.destSeqno }
    rrepSend config rreq.origAddr none rrepSize
      (rrepCreate 0 (ipaddrOf config revRt.ifindex) state.seqno revRt.destAddr
        (2 * activeRouteTimeout config) state)

/-- A difference of times as the `u_int32_t` lifetime of a RREP. -/
def remainingLife (state : State) (dest : Addr) : Nat :=
  (timevalDiff (timerTimeoutOf state (.rtTimer dest)) state.now % 2 ^ 32).toNat

/-- The gratuitous reply to the destination, about the originator. -/
def rreqGratuitousReply (config : Config) (rreq : Rreq) (lifetime : Nat) (state : State) : State :=
  match entryAt state rreq.origAddr, entryAt state rreq.destAddr with
  | some revRt, some fwdRt =>
    rrepSend config rreq.destAddr (some rreq.origAddr) rrepSize
      (rrepCreate revRt.hcnt revRt.destAddr revRt.destSeqno fwdRt.destAddr lifetime state)
  | _, _ => state

/-- The reply of an intermediate node with a fresh enough route. -/
def rreqReply (config : Config) (rreq : Rreq) (fwdRt : RtEntry) (state : State) : State :=
  let lifetime := remainingLife state fwdRt.destAddr
  let state := rrepSend config rreq.origAddr (some fwdRt.destAddr) rrepSize
    (rrepCreate fwdRt.hcnt fwdRt.destAddr fwdRt.destSeqno rreq.origAddr lifetime state)
  if rreq.flags.gratuitous then rreqGratuitousReply config rreq lifetime state else state

/-- `rreq_forward`. -/
def rreqForward (config : Config) (rreq : Rreq) (size : Nat) (ttl : Int) (state : State) : State :=
  sendOnAll config size ttl
    { state with sendBuf := .rreq { rreq with hcnt := (rreq.hcnt + 1) % 256 } }

/-- The sequence number a forwarded RREQ asks for: the larger of its own and the known one. -/
def forwardSeqno (rreq : Rreq) (fwdRt : Option RtEntry) : Seqno :=
  match fwdRt with
  | none => rreq.destSeqno
  | some rt =>
    if rt.flags.inetDest = false ∧ signed rreq.destSeqno < signed rt.destSeqno then rt.destSeqno
    else rreq.destSeqno

/-- The label `forward` of `rreq_process`. -/
def rreqPassOn (config : Config) (rreq : Rreq) (len : Nat) (ipTtl : Int) (fwdRt : Option RtEntry)
    (state : State) : State :=
  if 1 < ipTtl then
    rreqForward config { rreq with destSeqno := forwardSeqno rreq fwdRt } len (ipTtl - 1) state
  else state

/-- The intermediate node answers when its route is valid, the RREQ allows it and the known
sequence number is fresh enough. -/
def rreqMayReply (rreq : Rreq) (rt : RtEntry) : Bool :=
  decide (rt.state = .valid) && !rreq.flags.destOnly && decide (rt.destSeqno ≠ 0#32) &&
    decide (signed rreq.destSeqno ≤ signed rt.destSeqno)

/-- `rreq_process` after the reverse route has been made. -/
def rreqContinue (config : Config) (rreq : Rreq) (len : Nat) (ipTtl : Int) (ifindex : Nat)
    (state : State) : State :=
  if rreq.destAddr = ipaddrOf config ifindex then rreqAnswer config rreq state
  else
    match rtTableFind state rreq.destAddr with
    | none => rreqPassOn config rreq len ipTtl none state
    | some fwdRt =>
      if rreqMayReply rreq fwdRt then rreqReply config rreq fwdRt state
      else rreqPassOn config rreq len ipTtl (some fwdRt) state

/-- `rreq_process`. -/
def rreqProcess (config : Config) (rreq : Rreq) (len : Nat) (ipSrc : Addr) (ipTtl : Int)
    (ifindex : Nat) (state : State) : State :=
  if rreq.origAddr = ipaddrOf config ifindex then state
  else if len < rreqSize then state
  else if rreqBlacklistFind state ipSrc then state
  else if rreqRecordFind state rreq.origAddr rreq.rreqId then state
  else
    rreqContinue config rreq len ipTtl ifindex
      (rreqReverse config rreq ipSrc ifindex
        (rreqRecordInsert rreq.origAddr rreq.rreqId state))

end Aodvd
