/-
This file models the receive buffer of `aodv_socket.c` byte by byte.

`aodv_socket_process_packet` gets a pointer into the buffer and the length of the datagram. It
reads the header under the type in the first byte, and the handlers follow extensions by the
length bytes they find. Nothing ties these reads to the datagram: bytes behind it are left from
earlier datagrams, and a walk over extensions may leave the buffer. What is read inside the
datagram is the same in all contents of the buffer that agree on it.
-/

import Aodvd.Daemon

namespace Aodvd

/-- `RECV_BUF_SIZE`: a RERR with a hundred further destinations. -/
def recvBufSize : Nat := rerrCalcSize 1 + 100 * 8

/-- The contents of `recv_buf`. -/
structure RecvBuf where
  bytes : List (BitVec 8)
  full : bytes.length = recvBufSize

/-- Two contents of the buffer agree on the bytes of a datagram. -/
def RecvBuf.Agrees (len : Nat) (first second : RecvBuf) : Prop :=
  first.bytes.take len = second.bytes.take len

/-! ### Headers -/

/-- A RERR as its header shows it, with as many destinations as it counts. -/
def rerrView (bytes : List (BitVec 8)) : Rerr where
  noDelete := (byteAt bytes 1).getLsbD 7
  destCount := (byteAt bytes 3).toNat
  udest := (List.range (byteAt bytes 3).toNat).map fun index =>
    (addrAt bytes (4 + 8 * index), networkWordAt bytes (8 + 8 * index))

/-! ### Bytes -/

theorem byteAt_drop (bytes : List (BitVec 8)) (offset index : Nat) :
    byteAt (bytes.drop offset) index = byteAt bytes (offset + index) := by
  simp only [byteAt, List.getD_eq_getElem?_getD, List.getElem?_drop]

theorem byteAt_take {bytes : List (BitVec 8)} {len index : Nat} (received : index < len) :
    byteAt (bytes.take len) index = byteAt bytes index := by
  simp only [byteAt, List.getD_eq_getElem?_getD, List.getElem?_take_of_lt received]

theorem RecvBuf.Agrees.byteAt {len index : Nat} {first second : RecvBuf}
    (agrees : first.Agrees len second) (received : index < len) :
    Aodvd.byteAt first.bytes index = Aodvd.byteAt second.bytes index := by
  rw [← byteAt_take received, agrees, byteAt_take received]

theorem addrAt_drop (bytes : List (BitVec 8)) (offset position : Nat) :
    addrAt (bytes.drop offset) position = addrAt bytes (offset + position) := by
  simp only [addrAt, byteAt_drop, Nat.add_assoc]

theorem networkWordAt_drop (bytes : List (BitVec 8)) (offset position : Nat) :
    networkWordAt (bytes.drop offset) position = networkWordAt bytes (offset + position) := by
  simp only [networkWordAt, byteAt_drop, Nat.add_assoc]

section

variable {buffer other : RecvBuf} {len : Nat}

theorem RecvBuf.Agrees.addrAt {position : Nat} (agrees : buffer.Agrees len other)
    (received : position + 3 < len) :
    Aodvd.addrAt buffer.bytes position = Aodvd.addrAt other.bytes position := by
  simp only [Aodvd.addrAt, agrees.byteAt received, agrees.byteAt (show position + 2 < len by omega),
    agrees.byteAt (show position + 1 < len by omega), agrees.byteAt (show position < len by omega)]

theorem RecvBuf.Agrees.networkWordAt {position : Nat} (agrees : buffer.Agrees len other)
    (received : position + 3 < len) :
    Aodvd.networkWordAt buffer.bytes position = Aodvd.networkWordAt other.bytes position := by
  simp only [Aodvd.networkWordAt, agrees.byteAt received,
    agrees.byteAt (show position + 2 < len by omega),
    agrees.byteAt (show position + 1 < len by omega), agrees.byteAt (show position < len by omega)]

end

section

variable {config : Config} {buffer other : RecvBuf} {len : Nat}

theorem RecvBuf.Agrees.rerrView (agrees : buffer.Agrees len other)
    (whole : rerrCalcSize (Aodvd.byteAt buffer.bytes 3).toNat ≤ len) :
    Aodvd.rerrView other.bytes = Aodvd.rerrView buffer.bytes := by
  rw [rerrCalcSize] at whole
  unfold Aodvd.rerrView
  rw [agrees.byteAt (show 1 < len by omega)]
  rw [agrees.byteAt (show 3 < len by omega)] at whole ⊢
  congr 1
  refine List.map_congr_left fun index listed => ?_
  have counted := List.mem_range.mp listed
  rw [agrees.addrAt (by omega), agrees.networkWordAt (by omega)]

end

end Aodvd
