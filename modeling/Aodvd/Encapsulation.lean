/-
This file models the minimal encapsulation of IP packets in the kernel module (`kaodv-ipenc.c`) and
shows that decapsulation undoes it.

A packet that leaves for a gateway gets eight bytes more between its header and its data. They keep
the protocol and the destination of the packet, and the header then has those of the tunnel. Options
and data are moved by copies whose offsets depend on the length of the header, and the saved fields
are read back before a copy overwrites them.

The buffer of the new packet is memory of unknown content. `ip_send_check` and `ip_select_ident` are
functions of the kernel: the first writes some checksum of the header with a checksum of zero, and
the second some identification.
-/

import Aodvd.Params
import Aodvd.Library.Bytes

namespace Aodvd.Kaodv

open Bytes

/-! ### Packets -/

/-- The fields of `struct sk_buff` that matter: the memory from `data` on, its length, and the
offset of the network header. -/
structure Skb where
  bytes : Memory
  len : Nat
  nh : Nat

def ipprotoMipe : Byte := 55#8

/-- `sizeof(struct min_ipenc_hdr)`: protocol, reserved bits, checksum and destination. -/
def minIpencHdrSize : Nat := 8

/-- `iph->ihl << 2` of a header at a position. -/
def headerLength (memory : Memory) (iph : Nat) : Nat := 4 * ((memory iph).toNat % 16)

/-- `ntohs(iph->tot_len)`. -/
def totLen (memory : Memory) (iph : Nat) : Nat := ofBytes (load memory (iph + 2) 2).reverse

/-- `iph->tot_len = htons(value)`. -/
def setTotLen (memory : Memory) (iph value : Nat) : Memory :=
  store memory (iph + 2) (toBytes 2 value).reverse

/-- `iph->id`. -/
def ident (memory : Memory) (iph : Nat) : Nat := ofBytes (load memory (iph + 4) 2)

/-- `iph->daddr`. -/
def headerDaddr (memory : Memory) (iph : Nat) : Addr :=
  BitVec.ofNat 32 (ofBytes (load memory (iph + 16) 4))

/-! ### Checksums -/

/-- `ip_csum`. -/
def ipCsum (memory : Memory) (buf nshorts : Nat) : Nat :=
  let sum := (List.range nshorts).foldl
    (fun sum index => (sum + ofBytes (load memory (buf + 2 * index) 2)) % 2 ^ 32) 0
  let sum := sum / 2 ^ 16 + sum % 2 ^ 16
  let sum := (sum + sum / 2 ^ 16) % 2 ^ 32
  (2 ^ 32 - 1 - sum) % 2 ^ 16

/-- The memory with a checksum of zero in the header. -/
def withoutCheck (memory : Memory) (iph : Nat) : Memory := store memory (iph + 10) [0#8, 0#8]

/-- `ip_send_check`, with the kernel's checksum of a header. -/
def ipSendCheck (fastCsum : List Byte → Nat) (memory : Memory) (iph : Nat) : Memory :=
  store (withoutCheck memory iph) (iph + 10)
    (toBytes 2 (fastCsum (load (withoutCheck memory iph) iph (headerLength memory iph))))

/-! ### Encapsulation -/

/-- `skb_copy_expand` and the two calls of `memcpy`. -/
def spread (room : Memory) (skb : Skb) : Memory :=
  let header := headerLength skb.bytes skb.nh
  let copied := copy room skb.bytes 0 0 skb.len
  let moved := copy copied skb.bytes 0 0 header
  copy moved skb.bytes (header + minIpencHdrSize) header (uintSub skb.len header)

/-- The encapsulation header is filled in; its bit fields `s` and `res` share one byte. -/
def saveFields (memory : Memory) (ipe : Nat) : Memory :=
  let memory := store memory ipe (load memory 9 1)
  let memory := store memory (ipe + 1) [0#8]
  let memory := store memory (ipe + 2) [0#8, 0#8]
  store memory (ipe + 4) (load memory 16 4)

/-- The header is addressed to the gateway. -/
def readdress (memory : Memory) (dest : Addr) : Memory :=
  let memory := store memory 16 (toBytes 4 dest.toNat)
  let memory := store memory 9 [ipprotoMipe]
  setTotLen memory 0 (totLen memory 0 + minIpencHdrSize)

/-- The new packet, up to its checksums. -/
def tunnelBytes (fastCsum : List Byte → Nat) (room : Memory) (skb : Skb) (dest : Addr) : Memory :=
  let memory := spread room skb
  let ipe := headerLength memory 0
  let memory := readdress (saveFields memory ipe) dest
  let memory := store memory (ipe + 2) (toBytes 2 (ipCsum memory ipe 4))
  ipSendCheck fastCsum memory 0

/-- `ip_pkt_encapsulate`. `skb_copy_expand` gives memory, or none. -/
def ipPktEncapsulate (fastCsum : List Byte → Nat) (selectIdent : Memory → Nat)
    (room : Option Memory) (skb : Skb) (dest : Addr) : Option Skb :=
  room.map fun room =>
    let memory := tunnelBytes fastCsum room skb dest
    let memory :=
      if ident memory 0 = 0 then store memory 4 (toBytes 2 (selectIdent memory)) else memory
    ⟨memory, skb.len + minIpencHdrSize, 0⟩

/-! ### Decapsulation -/

/-- The saved fields are written back. -/
def restoreFields (memory : Memory) (iph : Nat) : Memory :=
  let ipe := iph + headerLength memory iph
  let memory := store memory (iph + 9) (load memory ipe 1)
  store memory (iph + 16) (load memory (ipe + 4) 4)

/-- Subtraction of a `size_t`, which wraps below zero. -/
def sizeSub (value amount : Nat) : Nat :=
  if amount ≤ value then value - amount else value + 2 ^ 64 - amount

/-- `ip_pkt_decapsulate`. The size of the encapsulation header is a `size_t`, and so are the
differences it is subtracted in. -/
def ipPktDecapsulate (fastCsum : List Byte → Nat) (skb : Skb) : Skb :=
  let memory := restoreFields skb.bytes skb.nh
  let header := headerLength memory skb.nh
  let memory := copy memory memory header (header + minIpencHdrSize)
    (sizeSub (uintSub skb.len header) minIpencHdrSize)
  let memory := setTotLen memory 0 (totLen memory 0 + 2 ^ 64 - minIpencHdrSize)
  ⟨ipSendCheck fastCsum memory 0, min skb.len (uintSub skb.len minIpencHdrSize), 0⟩

/-! ### What is expected -/

/-- An IPv4 packet whose data starts at its header and that has room for eight bytes more. -/
structure Packet (skb : Skb) : Prop where
  start : skb.nh = 0
  header : 20 ≤ headerLength skb.bytes 0
  length : skb.len = totLen skb.bytes 0
  whole : headerLength skb.bytes 0 ≤ totLen skb.bytes 0
  room : totLen skb.bytes 0 + minIpencHdrSize ≤ 65535
  ident : ident skb.bytes 0 ≠ 0

/-- The positions in the header that encapsulation rewrites: total length, protocol, checksum and
destination. -/
def Rewritten (position : Nat) : Prop :=
  (2 ≤ position ∧ position < 4) ∨ (9 ≤ position ∧ position < 12) ∨
    (16 ≤ position ∧ position < 20)

/-- A packet has been encapsulated for a gateway. -/
structure Encapsulated (skb : Skb) (dest : Addr) (tunneled : Skb) : Prop where
  start : tunneled.nh = 0
  length : tunneled.len = skb.len + 8
  addressed : headerDaddr tunneled.bytes 0 = dest
  protocol : tunneled.bytes 9 = ipprotoMipe
  totLen : totLen tunneled.bytes 0 = Kaodv.totLen skb.bytes 0 + 8
  header : ∀ position < headerLength skb.bytes 0, ¬Rewritten position →
    tunneled.bytes position = skb.bytes position
  savedProtocol : tunneled.bytes (headerLength skb.bytes 0) = skb.bytes 9
  savedDaddr : load tunneled.bytes (headerLength skb.bytes 0 + 4) 4 = load skb.bytes 16 4
  data : ∀ position, headerLength skb.bytes 0 ≤ position → position < skb.len →
    tunneled.bytes (position + 8) = skb.bytes position

/-- A packet is the original one, with the checksum that `ip_send_check` gives to that. -/
structure Restored (fastCsum : List Byte → Nat) (skb restored : Skb) : Prop where
  start : restored.nh = 0
  length : restored.len = skb.len
  bytes : ∀ position < skb.len, position ≠ 10 → position ≠ 11 →
    restored.bytes position = skb.bytes position
  check : load restored.bytes 10 2 = load (ipSendCheck fastCsum skb.bytes 0) 10 2

/-! ### Field by field -/

section

variable {memory other : Memory} {position iph ipe value : Nat} {dest : Addr}
  {fastCsum : List Byte → Nat} {skb : Skb}

theorem headerLength_congr (same : memory iph = other iph) :
    headerLength memory iph = headerLength other iph := by
  unfold headerLength
  rw [same]

theorem totLen_congr (same : ∀ position, iph + 2 ≤ position → position < iph + 4 →
    memory position = other position) : totLen memory iph = totLen other iph := by
  unfold totLen
  rw [load_congr fun index below => same (iph + 2 + index) (by omega) (by omega)]

theorem setTotLen_of_outside (outside : position < iph + 2 ∨ iph + 4 ≤ position) :
    setTotLen memory iph value position = memory position :=
  store_of_outside (by rw [List.length_reverse, length_toBytes]; exact outside)

/-- The bytes of a total length that is written. -/
theorem load_setTotLen :
    load (setTotLen memory iph value) (iph + 2) 2 = (toBytes 2 value).reverse := by
  have same := load_store memory (iph + 2) (toBytes 2 value).reverse
  rwa [List.length_reverse, length_toBytes] at same

theorem totLen_setTotLen : totLen (setTotLen memory iph value) iph = value % 65536 := by
  rw [totLen, load_setTotLen, List.reverse_reverse, ofBytes_toBytes]
  rfl

/-- Writing the total length back, after whole turns of sixteen bits, gives its bytes. -/
theorem toBytes_totLen (memory : Memory) (iph turns : Nat) :
    (toBytes 2 (totLen memory iph + turns * 65536)).reverse = load memory (iph + 2) 2 := by
  have same := toBytes_ofBytes (load memory (iph + 2) 2).reverse
  rw [List.length_reverse, length_load] at same
  rw [← toBytes_mod, show 256 ^ 2 = 65536 from rfl, Nat.add_mul_mod_self_right,
    show 65536 = 256 ^ 2 from rfl, toBytes_mod]
  unfold totLen
  rw [same, List.reverse_reverse]

theorem setTotLen_totLen (memory other : Memory) (iph turns : Nat) (above : iph + 2 ≤ position)
    (below : position < iph + 4) :
    setTotLen memory iph (totLen other iph + turns * 65536) position = other position := by
  have written : load (setTotLen memory iph (totLen other iph + turns * 65536)) (iph + 2) 2 =
      load other (iph + 2) 2 := load_setTotLen.trans (toBytes_totLen other iph turns)
  exact eq_of_load_eq written above below

theorem withoutCheck_of_outside (outside : position < iph + 10 ∨ iph + 12 ≤ position) :
    withoutCheck memory iph position = memory position :=
  store_of_outside outside

theorem ipSendCheck_of_outside (outside : position < iph + 10 ∨ iph + 12 ≤ position) :
    ipSendCheck fastCsum memory iph position = memory position := by
  unfold ipSendCheck
  rw [store_of_outside (by rw [length_toBytes]; exact outside), withoutCheck_of_outside outside]

theorem load_ipSendCheck :
    load (ipSendCheck fastCsum memory iph) (iph + 10) 2 =
      toBytes 2 (fastCsum (load (withoutCheck memory iph) iph (headerLength memory iph))) := by
  have same := load_store (withoutCheck memory iph) (iph + 10)
    (toBytes 2 (fastCsum (load (withoutCheck memory iph) iph (headerLength memory iph))))
  rwa [length_toBytes] at same

/-- The checksum depends on the header without its checksum alone. -/
theorem load_ipSendCheck_congr
    (header : 20 ≤ headerLength other 0)
    (same : ∀ position < headerLength other 0, position ≠ 10 → position ≠ 11 →
      memory position = other position) :
    load (ipSendCheck fastCsum memory 0) 10 2 = load (ipSendCheck fastCsum other 0) 10 2 := by
  have length : headerLength memory 0 = headerLength other 0 :=
    headerLength_congr (same 0 (by omega) (by omega) (by omega))
  have zeroed : load (withoutCheck memory 0) 0 (headerLength other 0) =
      load (withoutCheck other 0) 0 (headerLength other 0) := by
    refine load_congr fun index below => ?_
    rw [Nat.zero_add]
    by_cases check : index = 10 ∨ index = 11
    · have stored : load (withoutCheck memory 0) 10 2 = load (withoutCheck other 0) 10 2 :=
        (load_store memory 10 [0#8, 0#8]).trans (load_store other 10 [0#8, 0#8]).symm
      exact eq_of_load_eq stored (by omega) (by omega)
    · rw [withoutCheck_of_outside (by omega), withoutCheck_of_outside (by omega)]
      exact same index below (by omega) (by omega)
  show load _ (0 + 10) 2 = load _ (0 + 10) 2
  rw [load_ipSendCheck, load_ipSendCheck, length, zeroed]

/-! ### The stages of encapsulation -/

theorem spread_header (packet : Packet skb) (room : Memory)
    (below : position < headerLength skb.bytes 0) :
    spread room skb position = skb.bytes position := by
  unfold spread
  rw [packet.start, copy_of_outside (.inl (by omega)), copy_of_inside (Nat.zero_le _) (by omega),
    Nat.zero_add, Nat.sub_zero]

theorem spread_data (packet : Packet skb) (room : Memory)
    (above : headerLength skb.bytes 0 ≤ position) (below : position < skb.len) :
    spread room skb (position + 8) = skb.bytes position := by
  have whole := packet.whole
  rw [← packet.length] at whole
  unfold spread minIpencHdrSize
  rw [packet.start, uintSub, if_pos whole, copy_of_inside (by omega) (by omega)]
  exact congrArg skb.bytes (by omega)

theorem saveFields_of_outside (outside : position < ipe ∨ ipe + 8 ≤ position) :
    saveFields memory ipe position = memory position := by
  unfold saveFields
  rw [store_of_outside (by rw [length_load]; omega),
    store_of_outside (by simp only [List.length_cons, List.length_nil]; omega),
    store_of_outside (by simp only [List.length_cons, List.length_nil]; omega),
    store_of_outside (by rw [length_load]; omega)]

theorem readdress_of_not_rewritten (kept : ¬Rewritten position) :
    readdress memory dest position = memory position := by
  unfold Rewritten at kept
  unfold readdress
  rw [setTotLen_of_outside (by omega),
    store_of_outside (by simp only [List.length_cons, List.length_nil]; omega),
    store_of_outside (by rw [length_toBytes]; omega)]

theorem saveFields_protocol : saveFields memory ipe ipe = memory 9 := by
  unfold saveFields
  rw [store_of_outside (.inl (by omega)), store_of_outside (.inl (by omega)),
    store_of_outside (.inl (by omega))]
  have stored := load_store memory ipe (load memory 9 1)
  rw [length_load] at stored
  exact List.head_eq_of_cons_eq stored

theorem load_saveFields_daddr (apart : 20 ≤ ipe) :
    load (saveFields memory ipe) (ipe + 4) 4 = load memory 16 4 := by
  unfold saveFields
  have stored := load_store (store (store (store memory ipe (load memory 9 1)) (ipe + 1) [0#8])
    (ipe + 2) [0#8, 0#8]) (ipe + 4) (load (store (store (store memory ipe (load memory 9 1))
    (ipe + 1) [0#8]) (ipe + 2) [0#8, 0#8]) 16 4)
  rw [length_load] at stored
  rw [stored, load_store_of_outside (.inl (by omega)), load_store_of_outside (.inl (by omega)),
    load_store_of_outside (.inl (by omega))]

theorem load_readdress_daddr : load (readdress memory dest) 16 4 = toBytes 4 dest.toNat := by
  unfold readdress setTotLen
  rw [load_store_of_outside (.inr (by rw [List.length_reverse, length_toBytes]; omega)),
    load_store_of_outside (.inr (by simp only [List.length_cons, List.length_nil]; omega))]
  have stored := load_store memory 16 (toBytes 4 dest.toNat)
  rwa [length_toBytes] at stored

theorem readdress_protocol : readdress memory dest 9 = ipprotoMipe := by
  unfold readdress
  rw [setTotLen_of_outside (by omega)]
  rfl

theorem totLen_readdress : totLen (readdress memory dest) 0 = (totLen memory 0 + 8) % 65536 := by
  unfold readdress
  rw [totLen_setTotLen]
  unfold totLen
  rw [load_store_of_outside (.inl (by omega)), load_store_of_outside (.inl (by omega))]
  rfl

/-- The checksums touch neither the rest of the header nor the saved fields nor the data. -/
theorem tunnelBytes_eq (packet : Packet skb) (room : Memory)
    (outside : position < 10 ∨ 12 ≤ position)
    (apart : position < headerLength skb.bytes 0 + 2 ∨ headerLength skb.bytes 0 + 4 ≤ position) :
    tunnelBytes fastCsum room skb dest position =
      readdress (saveFields (spread room skb) (headerLength skb.bytes 0)) dest position := by
  have header := packet.header
  have length : headerLength (spread room skb) 0 = headerLength skb.bytes 0 :=
    headerLength_congr (spread_header packet room (by omega))
  unfold tunnelBytes
  rw [ipSendCheck_of_outside (by omega), length,
    store_of_outside (by rw [length_toBytes]; omega)]

/-- The header is the old one where encapsulation does not rewrite it. -/
theorem tunnelBytes_header (packet : Packet skb) (room : Memory)
    (below : position < headerLength skb.bytes 0) (kept : ¬Rewritten position) :
    tunnelBytes fastCsum room skb dest position = skb.bytes position := by
  have outside : position < 10 ∨ 12 ≤ position := by
    unfold Rewritten at kept
    omega
  rw [tunnelBytes_eq packet room outside (.inl (by omega)), readdress_of_not_rewritten kept,
    saveFields_of_outside (.inl below), spread_header packet room below]

theorem encapsulated_tunnelBytes (packet : Packet skb) (room : Memory) :
    Encapsulated skb dest ⟨tunnelBytes fastCsum room skb dest, skb.len + minIpencHdrSize, 0⟩ where
  start := rfl
  length := rfl
  addressed := by
    have header := packet.header
    have loaded : load (tunnelBytes fastCsum room skb dest) (0 + 16) 4 = toBytes 4 dest.toNat := by
      rw [← load_readdress_daddr]
      exact load_congr fun index below =>
        tunnelBytes_eq packet room (by omega) (.inl (by omega))
    unfold headerDaddr
    rw [loaded, ofBytes_toBytes, Nat.mod_eq_of_lt (show dest.toNat < 256 ^ 4 from dest.isLt),
      BitVec.ofNat_toNat, BitVec.setWidth_eq]
  protocol := by
    have header := packet.header
    show tunnelBytes fastCsum room skb dest 9 = ipprotoMipe
    rw [tunnelBytes_eq packet room (by omega) (.inl (by omega)), readdress_protocol]
  totLen := by
    have header := packet.header
    have bounded := packet.room
    unfold minIpencHdrSize at bounded
    calc totLen (tunnelBytes fastCsum room skb dest) 0
        = totLen (readdress (saveFields (spread room skb) (headerLength skb.bytes 0)) dest) 0 :=
          totLen_congr fun position above below =>
            tunnelBytes_eq packet room (by omega) (.inl (by omega))
      _ = (totLen (saveFields (spread room skb) (headerLength skb.bytes 0)) 0 + 8) % 65536 :=
          totLen_readdress
      _ = (totLen skb.bytes 0 + 8) % 65536 := by
          rw [totLen_congr fun position above below => (saveFields_of_outside
            (.inl (by omega))).trans (spread_header packet room (by omega))]
      _ = totLen skb.bytes 0 + 8 := Nat.mod_eq_of_lt (by omega)
  header := fun position below kept => tunnelBytes_header packet room below kept
  savedProtocol := by
    have header := packet.header
    have kept : ¬Rewritten (headerLength skb.bytes 0) := by
      unfold Rewritten
      omega
    show tunnelBytes fastCsum room skb dest (headerLength skb.bytes 0) = _
    rw [tunnelBytes_eq packet room (.inr (by omega)) (.inl (by omega)),
      readdress_of_not_rewritten kept, saveFields_protocol,
      spread_header packet room (by omega)]
  savedDaddr := by
    have header := packet.header
    rw [show load skb.bytes 16 4 = load (spread room skb) 16 4 from load_congr fun index below =>
      (spread_header packet room (by omega)).symm, ← load_saveFields_daddr header]
    refine load_congr fun index below => ?_
    have kept : ¬Rewritten (headerLength skb.bytes 0 + 4 + index) := by
      unfold Rewritten
      omega
    exact (tunnelBytes_eq packet room (.inr (by omega)) (.inr (by omega))).trans
      (readdress_of_not_rewritten kept)
  data := by
    intro position above below
    have header := packet.header
    have kept : ¬Rewritten (position + 8) := by
      unfold Rewritten
      omega
    show tunnelBytes fastCsum room skb dest (position + 8) = _
    rw [tunnelBytes_eq packet room (.inr (by omega)) (.inr (by omega)),
      readdress_of_not_rewritten kept, saveFields_of_outside (.inr (by omega)),
      spread_data packet room above below]

/-! ### Decapsulation undoes it -/

/-- After the saved fields are written back, the header is the old one but for the total length and
the checksum, and the data are still eight bytes further. -/
theorem restoreFields_header {tunneled : Skb} (packet : Packet skb)
    (encapsulated : Encapsulated skb dest tunneled)
    (below : position < headerLength skb.bytes 0)
    (kept : position < 2 ∨ (4 ≤ position ∧ position < 10) ∨ 12 ≤ position) :
    restoreFields tunneled.bytes 0 position = skb.bytes position := by
  have header := packet.header
  have length : headerLength tunneled.bytes 0 = headerLength skb.bytes 0 :=
    headerLength_congr (encapsulated.header 0 (by omega) (by unfold Rewritten; omega))
  unfold restoreFields
  rw [Nat.zero_add, Nat.zero_add, Nat.zero_add, length]
  by_cases daddr : 16 ≤ position ∧ position < 20
  · have source : load (store tunneled.bytes 9 (load tunneled.bytes (headerLength skb.bytes 0) 1))
        (headerLength skb.bytes 0 + 4) 4 = load skb.bytes 16 4 := by
      rw [load_store_of_outside (.inr (by rw [length_load]; omega)), encapsulated.savedDaddr]
    rw [source]
    have stored := load_store (store tunneled.bytes 9 (load tunneled.bytes
      (headerLength skb.bytes 0) 1)) 16 (load skb.bytes 16 4)
    rw [length_load] at stored
    exact eq_of_load_eq stored daddr.1 daddr.2
  · rw [store_of_outside (by rw [length_load]; omega)]
    by_cases protocol : position = 9
    · subst protocol
      have stored := load_store tunneled.bytes 9 (load tunneled.bytes (headerLength skb.bytes 0) 1)
      rw [length_load] at stored
      exact (List.head_eq_of_cons_eq stored).trans encapsulated.savedProtocol
    · rw [store_of_outside (by rw [length_load]; omega)]
      exact encapsulated.header position below (by unfold Rewritten; omega)

theorem restoreFields_of_outside
    (outside : position < 9 ∨ (9 < position ∧ position < 16) ∨ 20 ≤ position) :
    restoreFields memory 0 position = memory position := by
  unfold restoreFields
  rw [store_of_outside (by rw [length_load]; omega), store_of_outside (by rw [length_load]; omega)]

/-- The bytes after the data have been moved back. -/
theorem restored_moved {tunneled : Skb} {count : Nat} (packet : Packet skb)
    (encapsulated : Encapsulated skb dest tunneled)
    (enough : count = skb.len - headerLength skb.bytes 0) (below : position < skb.len)
    (kept : position < 2 ∨ (4 ≤ position ∧ position < 10) ∨ 12 ≤ position) :
    copy (restoreFields tunneled.bytes 0) (restoreFields tunneled.bytes 0)
      (headerLength skb.bytes 0) (headerLength skb.bytes 0 + 8) count position =
        skb.bytes position := by
  have header := packet.header
  by_cases before : position < headerLength skb.bytes 0
  · rw [copy_of_outside (.inl before)]
    exact restoreFields_header packet encapsulated before kept
  · rw [copy_of_inside (by omega) (by omega), restoreFields_of_outside (by omega),
      ← encapsulated.data position (by omega) below]
    exact congrArg tunneled.bytes (by omega)

/-- The memory before the checksum of the decapsulated packet is written. -/
def movedBack (skb tunneled : Skb) : Memory :=
  let memory := copy (restoreFields tunneled.bytes 0) (restoreFields tunneled.bytes 0)
    (headerLength skb.bytes 0) (headerLength skb.bytes 0 + 8)
    (skb.len - headerLength skb.bytes 0)
  setTotLen memory 0 (totLen memory 0 + 2 ^ 64 - 8)

theorem movedBack_eq {tunneled : Skb} (packet : Packet skb)
    (encapsulated : Encapsulated skb dest tunneled) (below : position < skb.len)
    (notLow : position ≠ 10) (notHigh : position ≠ 11) :
    movedBack skb tunneled position = skb.bytes position := by
  have header := packet.header
  unfold movedBack
  by_cases length : 2 ≤ position ∧ position < 4
  · -- The total length was eight more, and the subtraction takes whole turns of sixteen bits.
    have total : totLen (copy (restoreFields tunneled.bytes 0) (restoreFields tunneled.bytes 0)
        (headerLength skb.bytes 0) (headerLength skb.bytes 0 + 8)
        (skb.len - headerLength skb.bytes 0)) 0 = totLen skb.bytes 0 + 8 := by
      rw [← encapsulated.totLen]
      refine totLen_congr fun position above below => ?_
      rw [copy_of_outside (.inl (by omega)), restoreFields_of_outside (by omega)]
    have turns : totLen skb.bytes 0 + 8 + 2 ^ 64 - 8 = totLen skb.bytes 0 + 2 ^ 48 * 65536 := by
      omega
    rw [total, turns]
    exact setTotLen_totLen _ _ _ _ (by omega) (by omega)
  · rw [setTotLen_of_outside (by omega)]
    exact restored_moved packet encapsulated rfl below (by omega)

theorem restored_ipPktDecapsulate {tunneled : Skb} (packet : Packet skb)
    (encapsulated : Encapsulated skb dest tunneled) :
    Restored fastCsum skb (ipPktDecapsulate fastCsum tunneled) := by
  have header := packet.header
  have whole := packet.whole
  rw [← packet.length] at whole
  have lengthened := encapsulated.length
  have length : headerLength (restoreFields tunneled.bytes 0) 0 = headerLength skb.bytes 0 :=
    headerLength_congr (restoreFields_header packet encapsulated (by omega) (by omega))
  have moves : sizeSub (uintSub tunneled.len (headerLength skb.bytes 0)) 8 =
      skb.len - headerLength skb.bytes 0 := by
    have first : uintSub tunneled.len (headerLength skb.bytes 0) =
        skb.len - headerLength skb.bytes 0 + 8 := by
      rw [uintSub, if_pos (by omega)]
      omega
    rw [first, sizeSub, if_pos (by omega), Nat.add_sub_cancel]
  have shorter : min tunneled.len (uintSub tunneled.len minIpencHdrSize) = skb.len := by
    unfold minIpencHdrSize
    rw [uintSub, if_pos (by omega)]
    omega
  have memory : (ipPktDecapsulate fastCsum tunneled).bytes =
      ipSendCheck fastCsum (movedBack skb tunneled) 0 := by
    simp only [ipPktDecapsulate, movedBack, minIpencHdrSize, encapsulated.start, length, moves]
  refine ⟨rfl, shorter, fun position below notLow notHigh => ?_, ?_⟩
  · rw [memory, ipSendCheck_of_outside (by omega)]
    exact movedBack_eq packet encapsulated below notLow notHigh
  · rw [memory]
    exact load_ipSendCheck_congr header fun position below notLow notHigh =>
      movedBack_eq packet encapsulated (by omega) notLow notHigh

end

/-- For every packet, every gateway and every memory that the new packet is given, the packet comes
out of encapsulation addressed to the gateway, and decapsulation gives the packet back with its
checksum computed anew. -/
theorem decapsulate_encapsulate (fastCsum : List Byte → Nat) (selectIdent : Memory → Nat)
    (room : Memory) (skb : Skb) (dest : Addr) (packet : Packet skb) :
    ∃ tunneled, ipPktEncapsulate fastCsum selectIdent (some room) skb dest = some tunneled ∧
      Encapsulated skb dest tunneled ∧
      Restored fastCsum skb (ipPktDecapsulate fastCsum tunneled) := by
  have header := packet.header
  have encapsulated : Encapsulated skb dest
      ⟨tunnelBytes fastCsum room skb dest, skb.len + minIpencHdrSize, 0⟩ :=
    encapsulated_tunnelBytes packet room
  have same : ident (tunnelBytes fastCsum room skb dest) 0 = ident skb.bytes 0 :=
    congrArg ofBytes (load_congr fun index below =>
      tunnelBytes_header packet room (by omega) (by unfold Rewritten; omega))
  refine ⟨_, congrArg some ?_, encapsulated, restored_ipPktDecapsulate packet encapsulated⟩
  show Skb.mk (if ident (tunnelBytes fastCsum room skb dest) 0 = 0 then _ else _) _ _ = _
  rw [if_neg (same ▸ packet.ident)]

/-- A packet with four bytes of options and four of data. -/
def packetWithOptions : Skb where
  bytes := fun position =>
    [0x46#8, 0#8, 0#8, 28#8, 0#8, 7#8, 0#8, 0#8, 64#8, 17#8, 0#8, 0#8, 10#8, 0#8, 0#8, 1#8, 8#8,
      8#8, 8#8, 8#8, 1#8, 1#8, 1#8, 0#8, 0xDE#8, 0xAD#8, 0xBE#8, 0xEF#8].getD position 0#8
  len := 28
  nh := 0

theorem decapsulate_encapsulate_withOptions :
    ∃ tunneled, ipPktEncapsulate (fun _ => 0) (fun _ => 0) (some fun _ => 0xFF#8)
        packetWithOptions 0x0100000A#32 = some tunneled ∧
      Encapsulated packetWithOptions 0x0100000A#32 tunneled ∧
      Restored (fun _ => 0) packetWithOptions (ipPktDecapsulate (fun _ => 0) tunneled) :=
  decapsulate_encapsulate (fun _ => 0) (fun _ => 0) (fun _ => 0xFF#8) packetWithOptions
    0x0100000A#32 ⟨rfl, by decide, by decide, by decide, by decide, by decide⟩

end Aodvd.Kaodv
