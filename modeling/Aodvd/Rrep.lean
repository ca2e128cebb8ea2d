/-
This file models `aodv_rrep.c` and `rerr_process` of `aodv_rerr.c`. The loop over the
extensions of a RREP only logs in the default build and is left out.
-/

import Aodvd.Hello

namespace Aodvd

/-! ### Sending a RREP -/

/-- The flag assignment `flags |= RT_UNIDIR`. -/
def RtEntry.markUnidir (rt : RtEntry) : RtEntry :=
  { rt with flags := { rt.flags with unidir := true } }

/-- The check of `rrep_send` for a unidirectional link. The RREP is already in the send
buffer, where the link break may assemble a RERR over it. -/
def rrepRequestAck (config : Config) (revRt : RtEntry) (state : State) : State :=
  if (revRt.state = .valid ∧ revRt.flags.unidir = true) ∨
      (revRt.hcnt = 1 ∧ config.unidirHack = true) then
    match rtTableFind state revRt.nextHop with
    | none => state
    | some neighbor =>
      if neighbor.state = .valid ∧ timerUsed state (.ackTimer neighbor.destAddr) = false then
        setTimeout (.ackTimer neighbor.destAddr) nextHopWait
          (neighborLinkBreak config neighbor.destAddr
            (removeTimer (.helloTimer neighbor.destAddr)
              (setEntry neighbor.destAddr RtEntry.markUnidir state)))
      else state
  else state

/-- The precursors a RREP adds to the two routes it connects. -/
def updatePrecursors (fwdDest revDest : Addr) (state : State) : State :=
  match entryAt state fwdDest, entryAt state revDest with
  | some fwdRt, some revRt =>
    precursorAdd revDest fwdRt.nextHop (precursorAdd fwdDest revRt.nextHop state)
  | _, _ => state

/-- Sending the buffer to the next hop of a route. -/
def sendAlong (config : Config) (revDest : Addr) (size : Nat) (ttl : Int) (state : State) : State :=
  match entryAt state revDest with
  | none => state
  | some revRt =>
    aodvSocketSend config revRt.nextHop size ttl (devIfindex config revRt.ifindex) state

/-- `rrep_send`. -/
def rrepSend (config : Config) (revDest : Addr) (fwdDest : Option Addr) (size : Nat)
    (state : State) : State :=
  match entryAt state revDest with
  | none => state
  | some revRt =>
    let state := sendAlong config revDest size maxTtl (rrepRequestAck config revRt state)
    let state := match fwdDest with
      | none => state
      | some fwdDest => updatePrecursors fwdDest revDest state
    helloOnDemand config state

/-! ### Processing a RREP -/

/-- `rrep_forward`. -/
def rrepForward (config : Config) (rrep : Rrep) (size : Nat) (revDest fwdDest : Addr) (ttl : Int)
    (state : State) : State :=
  match entryAt state fwdDest with
  | none => state
  | some fwdRt =>
    let state := { state with sendBuf := .rrep { rrep with hcnt := fwdRt.hcnt } }
    let state := sendAlong config revDest size ttl state
    let state := updatePrecursors fwdDest revDest state
    rtTableUpdateTimeout revDest (activeRouteTimeout config) state

/-- The route a RREP received from a neighbour offers. -/
def rrepOffer (rrep : Rrep) (ipSrc : Addr) (ifindex : Nat) (flags : RtFlags) : Offer where
  dest := rrep.destAddr
  next := ipSrc
  hops := rrep.hcnt + 1
  seqno := rrep.destSeqno
  life := rrep.lifetime
  state := .valid
  flags := flags
  ifindex := ifindex

/-- The test of `rrep_process` for taking a RREP over into an existing entry. -/
def rrepAccepts (rrep : Rrep) (rt : RtEntry) : Bool :=
  decide (rt.destSeqno = 0#32) || decide (signed rt.destSeqno < signed rrep.destSeqno) ||
    (decide (rrep.destSeqno = rt.destSeqno) &&
      (decide (rt.state = .invalid) || rt.flags.unidir || decide (rrep.hcnt + 1 < rt.hcnt)))

/-- The acknowledgement a RREP asks for; its length is `NEXT_HOP_WAIT`, as in the source. -/
def rrepAcknowledge (config : Config) (rrep : Rrep) (state : State) : State :=
  if rrep.ack then
    sendAlong config rrep.destAddr nextHopWait maxTtl { state with sendBuf := .rrepAck }
  else state

/-- The RERR about a repaired route that has become longer. -/
def rrepReportRepair (config : Config) (rrep : Rrep) (before : Option RtEntry) (state : State) :
    State :=
  match before, entryAt state rrep.destAddr with
  | some old, some fwdRt =>
    if old.flags.repair = true ∧ old.hcnt < fwdRt.hcnt then
      let state := rerrCreate true fwdRt.destAddr fwdRt.destSeqno state
      if fwdRt.nprec = 0 then state
      else aodvSocketSend config aodvBroadcast (rerrCalcSize 1) 1 (devIfindex config fwdRt.ifindex)
        state
    else state
  | _, _ => state

/-- A RREP for another node goes on along the reverse route, if `rev_rt` was found before the
forward route was made and is valid now. -/
def rrepPassOn (config : Config) (rrep : Rrep) (len : Nat) (ipTtl : Int) (revRt : Option RtEntry)
    (state : State) : State :=
  match revRt, entryAt state rrep.origAddr with
  | some _, some revRt =>
    if revRt.state = .valid then
      rrepForward config { rrep with ack := false } len rrep.origAddr rrep.destAddr (ipTtl - 1) state
    else state
  | _, _ => state

/-- `rrep_process` after the forward route has been made; `fwdRt` is the forward entry as it
was before and `revRt` the reverse entry found before. -/
def rrepContinue (config : Config) (rrep : Rrep) (len : Nat) (ipTtl : Int) (ifindex : Nat)
    (fwdRt revRt : Option RtEntry) (state : State) : State :=
  let state := rrepAcknowledge config rrep state
  let state :=
    if rrep.origAddr = ipaddrOf config ifindex then rrepReportRepair config rrep fwdRt state
    else rrepPassOn config rrep len ipTtl revRt state
  helloOnDemand config state

/-- `rrep_process`. -/
def rrepProcess (config : Config) (rrep : Rrep) (len : Nat) (ipSrc : Addr) (ipTtl : Int)
    (ifindex : Nat) (state : State) : State :=
  if len < rrepSize then state
  else if rrep.destAddr = ipaddrOf config ifindex then state
  else
    let revRt := rtTableFind state rrep.origAddr
    match rtTableFind state rrep.destAddr with
    | none =>
      rrepContinue config rrep len ipTtl ifindex none revRt
        (rtTableInsert config (rrepOffer rrep ipSrc ifindex .none) state).1
    | some fwdRt =>
      if rrepAccepts rrep fwdRt then
        rrepContinue config rrep len ipTtl ifindex (some fwdRt) revRt
          (rtTableUpdate config (rrepOffer rrep ipSrc ifindex fwdRt.flags) state)
      else state

/-- `rrep_ack_process`. -/
def rrepAckProcess (ipSrc : Addr) (state : State) : State :=
  match rtTableFind state ipSrc with
  | none => state
  | some rt => removeTimer (.ackTimer rt.destAddr) state

/-! ### Processing a RERR -/

def RtEntry.setSeqno (seqno : Seqno) (rt : RtEntry) : RtEntry := { rt with destSeqno := seqno }

/-- The entry of a listed destination after `rerr_process` has invalidated it, unless the
`N` flag keeps it, and has copied the sequence number of the message. -/
def rerrInvalidate (config : Config) (noDelete : Bool) (dest : Addr) (seqno : Seqno)
    (state : State) : State :=
  setEntry dest (RtEntry.setSeqno seqno)
    (if noDelete then state else rtTableInvalidate config dest state)

/-- The body of the loop of `rerr_process` for one unreachable destination. -/
def rerrVisit (config : Config) (noDelete : Bool) (ipSrc : Addr) (loop : State × RerrDraft)
    (udest : Addr × Seqno) : State × RerrDraft :=
  match rtTableFind loop.1 udest.1 with
  | none => loop
  | some rt =>
    if rt.state = .valid ∧ rt.nextHop = ipSrc then
      let state := rerrInvalidate config noDelete rt.destAddr udest.2 loop.1
      match entryAt state rt.destAddr with
      | none => (state, loop.2)
      | some rt =>
        let included := if rt.nprec = 0 ∨ rt.flags.repair = true then (state, loop.2)
          else rerrInclude noDelete rt loop.2 state
        (if rt.state = .invalid then precursorListDestroy rt.destAddr included.1 else included.1,
          included.2)
    else loop

/-- `rerr_process`. -/
def rerrProcess (config : Config) (rerr : Rerr) (len : Nat) (ipSrc : Addr) (state : State) : State :=
  if len < rerrCalcSize rerr.destCount then state
  else
    let loop := (rerr.udest.take rerr.destCount).foldl (rerrVisit config rerr.noDelete ipSrc)
      (state, .none)
    rerrSend config loop.2 loop.1

end Aodvd
