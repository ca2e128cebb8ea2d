/-
This file models `aodv_hello.c` and `neighbor_add` of `aodv_neighbor.c`: sending and
receiving HELLOs, and the neighbour entry that every other control message refreshes.
-/

import Aodvd.Routes

namespace Aodvd

/-! ### Sending HELLOs -/

/-- `rrep_create`. -/
def rrepCreate (hcnt : Nat) (destAddr : Addr) (destSeqno : Seqno) (origAddr : Addr)
    (life : Nat) (state : State) : State :=
  { state with sendBuf := .rrep ⟨false, false, hcnt, destAddr, destSeqno, origAddr, life, []⟩ }

/-- `hello_jitter`. -/
def helloJitter (config : Config) (state : State) : Int :=
  if config.helloJittering then state.jitter else 0

/-- `hello_stop`. -/
def helloStop (state : State) : State := removeTimer .helloSendTimer state

/-- The neighbours whose HELLO timer is in use, in table order. -/
def heardNeighbors (state : State) : List Addr :=
  ((rtEntries state).map RtEntry.destAddr).filter fun dest => timerUsed state (.helloTimer dest)

/-- The length byte of the neighbour set extension. -/
def neighborSetLength (state : State) : Nat := (4 * (heardNeighbors state).length) % 256

/-- The bytes `hello_send` writes after the header on its interface of a number. The extension
pointer advances over the cleared buffer by one extension header for every interface, and
each neighbour is copied to the same place. -/
def neighborSetExt (state : State) (number : Nat) : List (BitVec 8) :=
  List.replicate (aodvExtHdrSize * number) 0#8 ++
    [BitVec.ofNat 8 rrepHelloNeighborSetExt, BitVec.ofNat 8 (neighborSetLength state)] ++
    ((heardNeighbors state).getLast?.map addrBytes).getD []

/-- The HELLO of one interface in the send buffer. -/
def helloCreate (config : Config) (number : Nat) (dev : Dev) (state : State) : State :=
  { state with sendBuf := .rrep ⟨false, false, 0, dev.ipaddr, state.seqno, dev.ipaddr,
      allowedHelloLoss * helloInterval,
      if config.unidirHack then neighborSetExt state number else []⟩ }

/-- The size `hello_send` passes to `aodv_socket_send`. -/
def helloSize (config : Config) (state : State) : Nat :=
  if config.unidirHack = true ∧ neighborSetLength state ≠ 0 then
    rrepSize + aodvExtHdrSize + neighborSetLength state
  else rrepSize

/-- The loop of `hello_send` over the interfaces. -/
def helloSendAll (config : Config) (state : State) : State :=
  config.devs.zipIdx.foldl
    (fun state numbered => aodvSocketSend config aodvBroadcast (helloSize config state) 1
      (some numbered.1) (helloCreate config numbered.2 numbered.1 state)) state

/-- `hello_send`. -/
def helloSend (config : Config) (state : State) : State :=
  if config.optimizedHellos = true ∧
      (activeRouteTimeout config : Int) < timevalDiff state.now state.fwdTime then
    helloStop state
  else
    let timeDiff := timevalDiff state.now state.bcastTime
    let jitter := helloJitter config state
    if (helloInterval : Int) ≤ timeDiff then
      setTimeout .helloSendTimer (helloInterval + jitter) (helloSendAll config state)
    else if helloInterval - timeDiff + jitter < 0 then
      setTimeout .helloSendTimer (helloInterval - timeDiff - jitter) state
    else setTimeout .helloSendTimer (helloInterval - timeDiff + jitter) state

/-- `hello_start`. -/
def helloStart (config : Config) (state : State) : State :=
  if timerUsed state .helloSendTimer then state
  else helloSend config
    (initTimer .helloSendTimer .helloSend { state with fwdTime := state.now })

/-- The call of `hello_start` that answers forwarded traffic. -/
def helloOnDemand (config : Config) (state : State) : State :=
  if config.llfeedback = false ∧ config.optimizedHellos = true then helloStart config state else state

/-! ### Receiving HELLOs -/

/-- The entry fields `hello_update_timeout` and a counted HELLO write. -/
def RtEntry.heardAt (time : Timeval) (rt : RtEntry) : RtEntry := { rt with lastHelloTime := time }

def RtEntry.setHelloCnt (count : Nat) (rt : RtEntry) : RtEntry := { rt with helloCnt := count }

/-- `hello_update_timeout`. -/
def helloUpdateTimeout (dest : Addr) (time : Nat) (state : State) : State :=
  setEntry dest (RtEntry.heardAt state.now)
    (setTimeout (.helloTimer dest) (time + helloDelay) state)

/-- The loop over a neighbour set extension: this node is heard by the sender. -/
def neighborSetNames (own : Addr) (bytes : List (BitVec 8)) (length : Nat) : Bool :=
  (List.range ((length + 3) / 4)).any fun index =>
    decide (addrAt bytes (aodvExtHdrSize + 4 * index) = own)

/-- The extension loop of `hello_process`, which ends at the first unknown extension. The
result is the flags and the advertised interval; each round consumes at least the two
bytes of an extension header, so the length is fuel enough. -/
def helloExtensions (own : Addr) :
    Nat → Nat → List (BitVec 8) → RtFlags × BitVec 32 → RtFlags × BitVec 32
  | 0, _, _, found => found
  | fuel + 1, remaining, bytes, found =>
    if remaining ≤ rrepSize then found
    else
      let length := (byteAt bytes 1).toNat
      let continued := helloExtensions own fuel (remaining - (aodvExtHdrSize + length))
        (bytes.drop (aodvExtHdrSize + length))
      if (byteAt bytes 0).toNat = rrepHelloIntervalExt then
        continued (if length = 4 then (found.1, networkWordAt bytes aodvExtHdrSize) else found)
      else if (byteAt bytes 0).toNat = rrepHelloNeighborSetExt then
        continued (if neighborSetNames own bytes length then
          ({ found.1 with unidir := false }, found.2) else found)
      else found

/-- The flags and the interval `hello_process` works with. -/
def helloRead (config : Config) (hello : Rrep) (len ifindex : Nat) (found : Option RtEntry) :
    RtFlags × BitVec 32 :=
  let flags := (found.map RtEntry.flags).getD .none
  helloExtensions (ipaddrOf config ifindex) len len hello.ext
    (if config.unidirHack then { flags with unidir := true } else flags, BitVec.ofNat 32 helloInterval)

/-- The lifetime a HELLO gives the neighbour entry, in 32-bit arithmetic. -/
def helloLifetime (interval : BitVec 32) : Nat :=
  (allowedHelloLoss * interval.toNat + routeTimeoutSlack) % 2 ^ 32

/-- The time without HELLOs after which the link is broken, in 32-bit arithmetic. -/
def helloAllowance (interval : BitVec 32) : Nat := (allowedHelloLoss * interval.toNat) % 2 ^ 32

/-- The neighbour entry a HELLO offers. -/
def helloOffer (hello : Rrep) (read : RtFlags × BitVec 32) (state : RouteState) (ifindex : Nat) :
    Offer where
  dest := hello.destAddr
  next := hello.destAddr
  hops := 1
  seqno := hello.destSeqno
  life := helloLifetime read.2
  state := state
  flags := read.1
  ifindex := ifindex

/-- A HELLO that comes in time counts; a late one starts the count again. -/
def helloCount (interval : BitVec 32) (now : Timeval) (rt : RtEntry) : Nat :=
  if timevalDiff now rt.lastHelloTime < ((interval.toNat + interval.toNat / 2) % 2 ^ 32 : Nat) then
    (rt.helloCnt + 1) % 256
  else 1

/-- `hello_process`. -/
def helloProcess (config : Config) (hello : Rrep) (len ifindex : Nat) (state : State) : State :=
  let found := rtTableFind state hello.destAddr
  let read := helloRead config hello len ifindex found
  let heard := helloUpdateTimeout hello.destAddr (helloAllowance read.2)
  match found with
  | none =>
    let newState := if config.receiveNHellos ≠ 0 then RouteState.invalid else .valid
    heard (setEntry hello.destAddr (RtEntry.setHelloCnt 1)
      (rtTableInsert config (helloOffer hello read newState ifindex) state).1)
  | some rt =>
    if read.1.unidir = true ∧ rt.state = .valid ∧ 1 < rt.hcnt then heard state
    else if config.receiveNHellos ≠ 0 ∧ rt.helloCnt + 1 < config.receiveNHellos then
      setEntry hello.destAddr (RtEntry.heardAt state.now)
        (setEntry hello.destAddr (RtEntry.setHelloCnt (helloCount read.2 state.now rt)) state)
    else heard (rtTableUpdate config (helloOffer hello read .valid ifindex) state)

/-! ### Neighbours from other messages -/

/-- The neighbour entry that a control message from a source offers. -/
def neighborOffer (config : Config) (source : Addr) (ifindex : Nat) (seqno : Seqno)
    (flags : RtFlags) : Offer where
  dest := source
  next := source
  hops := 1
  seqno := seqno
  life := activeRouteTimeout config
  state := .valid
  flags := flags
  ifindex := ifindex

/-- The end of `neighbor_add`: a neighbour that sends HELLOs has been heard again. -/
def neighborHeard (config : Config) (source : Addr) (state : State) : State :=
  if config.llfeedback = false ∧ timerUsed state (.helloTimer source) = true then
    helloUpdateTimeout source (allowedHelloLoss * helloInterval) state
  else state

/-- `neighbor_add`. -/
def neighborAdd (config : Config) (source : Addr) (ifindex : Nat) (state : State) : State :=
  match rtTableFind state source with
  | none =>
    neighborHeard config source
      (rtTableInsert config (neighborOffer config source ifindex 0#32 .none) state).1
  | some rt =>
    if rt.flags.unidir then state
    else neighborHeard config source
      (rtTableUpdate config (neighborOffer config source ifindex rt.destSeqno rt.flags) state)

end Aodvd
