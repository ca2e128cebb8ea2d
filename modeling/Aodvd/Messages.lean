/-
This file models the AODV messages of `aodv_rreq.h`, `aodv_rrep.h` and `aodv_rerr.h`.

A message is the view of the receive or send buffer under the header its type selects:
the header fields in host order, and the bytes that follow a RREQ or RREP header. The
length of a datagram is kept beside the message, since the handlers compare it with the
header sizes themselves; a datagram shorter than its header leaves stale field values,
which the view may hold.
-/

import Aodvd.Params

namespace Aodvd

/-- The RREQ flags `J`, `R`, `G` and `D`. -/
structure RreqFlags where
  join : Bool
  repair : Bool
  gratuitous : Bool
  destOnly : Bool
  deriving DecidableEq, Repr

def RreqFlags.none : RreqFlags := ⟨false, false, false, false⟩

/-- A route request. -/
structure Rreq where
  flags : RreqFlags
  hcnt : Nat
  rreqId : BitVec 32
  destAddr : Addr
  destSeqno : Seqno
  origAddr : Addr
  origSeqno : Seqno
  ext : List (BitVec 8)
  deriving DecidableEq, Repr

/-- A route reply; a HELLO is one too. -/
structure Rrep where
  repair : Bool
  ack : Bool
  hcnt : Nat
  destAddr : Addr
  destSeqno : Seqno
  origAddr : Addr
  lifetime : Nat
  ext : List (BitVec 8)
  deriving DecidableEq, Repr

/-- A route error: the `N` flag, the 8-bit count and the destinations written after it. -/
structure Rerr where
  noDelete : Bool
  destCount : Nat
  udest : List (Addr × Seqno)
  deriving DecidableEq, Repr

/-- The message types; any other type byte is kept as it is. -/
inductive AodvMsg
  | rreq (message : Rreq)
  | rrep (message : Rrep)
  | rerr (message : Rerr)
  | rrepAck
  | other (type : Nat)
  deriving DecidableEq, Repr

def rreqSize : Nat := 24
def rrepSize : Nat := 20
def aodvExtHdrSize : Nat := 2
def rrepHelloIntervalExt : Nat := 2
def rrepHelloNeighborSetExt : Nat := 3

/-- `RERR_CALC_SIZE` for a count of unreachable destinations. -/
def rerrCalcSize (destCount : Nat) : Nat := 4 + 8 * destCount

/-- A datagram handed to `sendto`: the address of the sending interface, the destination
address, the TTL set on the socket, the length, and the contents of the send buffer. -/
structure Datagram where
  src : Addr
  dst : Addr
  ttl : Nat
  len : Nat
  msg : AodvMsg
  deriving DecidableEq, Repr

/-! ### Bytes of an extension -/

/-- The byte at an offset; the buffer is zeroed past what has been written. -/
def byteAt (bytes : List (BitVec 8)) (offset : Nat) : BitVec 8 := bytes.getD offset 0#8

/-- Four bytes in network order, as `memcpy` and `ntohl` read them. -/
def networkWordAt (bytes : List (BitVec 8)) (offset : Nat) : BitVec 32 :=
  byteAt bytes offset ++ byteAt bytes (offset + 1) ++ byteAt bytes (offset + 2) ++
    byteAt bytes (offset + 3)

/-- Four bytes read as an `in_addr_t` of a little-endian host. -/
def addrAt (bytes : List (BitVec 8)) (offset : Nat) : Addr :=
  byteAt bytes (offset + 3) ++ byteAt bytes (offset + 2) ++ byteAt bytes (offset + 1) ++
    byteAt bytes offset

/-- The bytes of an address in the memory of a little-endian host. -/
def addrBytes (addr : Addr) : List (BitVec 8) :=
  [addr.extractLsb' 0 8, addr.extractLsb' 8 8, addr.extractLsb' 16 8, addr.extractLsb' 24 8]

end Aodvd
