/-
This file follows the loops of `rreq_process` and `rrep_process` over the extensions of a message,
through the datagram and through whatever lies behind it.

The condition `len - extlen > size` compares an `unsigned int`. It ends the loop as long as
`extlen` does not exceed the length of the datagram; behind that the difference is close to 2^32
and the loop goes on for as long as there is memory. So the loop is safe exactly if no extension
header is cut off and none of the extensions ends that far behind the datagram.
-/

import Aodvd.NeighborSets
import Aodvd.RecvBuffer
import Aodvd.TimerOrder

namespace Aodvd

/-! ### The loop -/

/-- The loops over the extensions of a RREQ and a RREP: the offsets, from the start of the message,
of the headers they look at. `memory` is what lies there, received or not. -/
def extHeaders (memory : Nat → BitVec 8) (size len : Nat) :
    Nat → BitVec 32 → Nat → Option (List Nat)
  | 0, _, _ => none
  | fuel + 1, extlen, ext =>
    if (BitVec.ofNat 32 len - extlen).toNat ≤ size then some []
    else
      let extSize := aodvExtHdrSize + (memory (ext + 1)).toNat
      (extHeaders memory size len fuel (extlen + BitVec.ofNat 32 extSize) (ext + extSize)).map
        (ext :: ·)

/-- A round reads the type and the length of an extension. -/
def extReads (headers : List Nat) : List Nat := headers.flatMap fun ext => [ext, ext + 1]

/-- What a datagram and the memory behind it look like from the start of the datagram. -/
def recvMemory (data : List (BitVec 8)) (behind : Nat → BitVec 8) (index : Nat) : BitVec 8 :=
  if index < data.length then byteAt data index else behind index

/-- The walk over the extensions of a message of a header size ends before an extension header is
cut off by the end of the datagram, or an extension ends more than a header size behind it. -/
def walkDetermined (data : List (BitVec 8)) (size : Nat) : Nat → Nat → Bool
  | 0, _ => false
  | fuel + 1, extlen =>
    if data.length ≤ size + extlen then true
    else
      let next := extlen + (aodvExtHdrSize + (byteAt data (size + extlen + 1)).toNat)
      decide (size + extlen + 1 < data.length) && decide (next ≤ data.length) &&
        walkDetermined data size fuel next

theorem extReads_lt_iff {headers : List Nat} {len : Nat} :
    (∀ offset ∈ extReads headers, offset < len) ↔ ∀ ext ∈ headers, ext + 1 < len := by
  constructor
  · intro within ext member
    exact within _ (List.mem_flatMap.mpr ⟨ext, member, by simp⟩)
  · intro within offset member
    obtain ⟨ext, header, read⟩ := List.mem_flatMap.mp member
    have inside := within ext header
    rcases List.mem_pair.mp read with rfl | rfl
    · exact Nat.lt_of_succ_lt inside
    · exact inside

/-- The loop ends: the difference is computed modulo 2^32. -/
theorem extEnds_iff (size len extlen : Nat) :
    (BitVec.ofNat 32 len - BitVec.ofNat 32 extlen).toNat ≤ size ↔
      ((len - extlen : Int) % 2 ^ 32) ≤ size := by
  rw [BitVec.toNat_sub, BitVec.toNat_ofNat, BitVec.toNat_ofNat]
  omega

section

variable {memory : Nat → BitVec 8} {size len fuel extlen : Nat}

theorem extHeaders_ended (ended : ((len - extlen : Int) % 2 ^ 32) ≤ size) (ext : Nat) :
    extHeaders memory size len (fuel + 1) (BitVec.ofNat 32 extlen) ext = some [] := by
  rw [extHeaders, if_pos ((extEnds_iff ..).mpr ended)]

theorem extHeaders_goes (goes : ¬ ((len - extlen : Int) % 2 ^ 32) ≤ size) :
    extHeaders memory size len (fuel + 1) (BitVec.ofNat 32 extlen) (size + extlen) =
      (extHeaders memory size len fuel
        (BitVec.ofNat 32 (extlen + (aodvExtHdrSize + (memory (size + extlen + 1)).toNat)))
        (size + (extlen + (aodvExtHdrSize + (memory (size + extlen + 1)).toNat)))).map
        ((size + extlen) :: ·) := by
  rw [extHeaders, if_neg (mt (extEnds_iff ..).mp goes), BitVec.ofNat_add extlen,
    ← Nat.add_assoc size]

end

/-! ### Safe walks -/

section

variable {data : List (BitVec 8)} {behind : Nat → BitVec 8} {size : Nat}

/-- A determined walk passes at least two bytes of the datagram in each round. -/
theorem extHeaders_of_determined (most : data.length ≤ recvBufSize) (header : size ≤ rreqSize)
    (fuel extlen : Nat) (within : extlen ≤ data.length)
    (determined : walkDetermined data size fuel extlen = true) :
    ∃ headers, extHeaders (recvMemory data behind) size data.length fuel (BitVec.ofNat 32 extlen)
        (size + extlen) = some headers ∧
      2 * headers.length ≤ data.length - (size + extlen) + 1 ∧
      ∀ ext ∈ headers, ext + 1 < data.length := by
  have small : recvBufSize + rreqSize < 2 ^ 32 := by decide
  induction fuel generalizing extlen with
  | zero => exact absurd determined Bool.false_ne_true
  | succ fuel inductionHypothesis =>
    rw [walkDetermined] at determined
    by_cases ended : data.length ≤ size + extlen
    · exact ⟨[], extHeaders_ended (by omega) _, Nat.zero_le _,
        fun _ member => absurd member List.not_mem_nil⟩
    rw [if_neg ended] at determined
    simp only [Bool.and_eq_true, decide_eq_true_eq] at determined
    obtain ⟨⟨received, inside⟩, rest⟩ := determined
    obtain ⟨headers, found, few, reads⟩ := inductionHypothesis _ inside rest
    have length : recvMemory data behind (size + extlen + 1) = byteAt data (size + extlen + 1) :=
      if_pos received
    refine ⟨(size + extlen) :: headers, ?_, ?_, ?_⟩
    · rw [extHeaders_goes (by omega), length, found]
      rfl
    · rw [List.length_cons]
      rw [aodvExtHdrSize] at few
      omega
    · intro ext member
      rcases List.mem_cons.mp member with rfl | later
      · exact received
      · exact reads ext later

/-- A walk that reads inside the datagram is determined: an extension that ends too far behind it
would let the loop go on there. -/
theorem determined_of_extHeaders (most : data.length ≤ recvBufSize) (header : size ≤ rreqSize)
    (fuel extlen : Nat) (within : extlen ≤ data.length) {headers : List Nat}
    (found : extHeaders (recvMemory data behind) size data.length fuel (BitVec.ofNat 32 extlen)
      (size + extlen) = some headers)
    (reads : ∀ ext ∈ headers, ext + 1 < data.length) :
    walkDetermined data size fuel extlen = true := by
  have small : recvBufSize + rreqSize + 257 < 2 ^ 32 := by decide
  induction fuel generalizing extlen headers with
  | zero =>
    rw [extHeaders] at found
    cases found
  | succ fuel inductionHypothesis =>
    rw [walkDetermined]
    by_cases ended : data.length ≤ size + extlen
    · rw [if_pos ended]
    rw [extHeaders_goes (by omega)] at found
    obtain ⟨later, rest, rfl⟩ := Option.map_eq_some_iff.mp found
    have received : size + extlen + 1 < data.length := reads _ List.mem_cons_self
    have laterReads : ∀ ext ∈ later, ext + 1 < data.length :=
      fun ext member => reads ext (List.mem_cons_of_mem _ member)
    have length : recvMemory data behind (size + extlen + 1) = byteAt data (size + extlen + 1) :=
      if_pos received
    have byte := (byteAt data (size + extlen + 1)).isLt
    rw [length] at rest
    rw [if_neg ended]
    dsimp only
    by_cases inside :
        extlen + (aodvExtHdrSize + (byteAt data (size + extlen + 1)).toNat) ≤ data.length
    · rw [decide_eq_true received, decide_eq_true inside, inductionHypothesis _ inside rest laterReads]
      rfl
    · refine absurd rest ?_
      cases fuel with
      | zero =>
        rw [extHeaders]
        exact (Option.some_ne_none _).symm
      | succ fuel =>
        rw [extHeaders_goes (by rw [aodvExtHdrSize] at inside ⊢; omega)]
        intro runaway
        obtain ⟨_, _, rfl⟩ := Option.map_eq_some_iff.mp runaway
        have outside := laterReads _ List.mem_cons_self
        omega

/-- The length of the datagram is fuel enough. -/
theorem walkDetermined_of_fuel {fuel more extlen : Nat}
    (determined : walkDetermined data size fuel extlen = true)
    (positive : 0 < more) (enough : data.length < size + extlen + more) :
    walkDetermined data size more extlen = true := by
  induction fuel generalizing more extlen with
  | zero => exact absurd determined Bool.false_ne_true
  | succ fuel inductionHypothesis =>
    obtain ⟨more, rfl⟩ := Nat.exists_eq_add_of_le' positive
    by_cases ended : data.length ≤ size + extlen
    · rw [walkDetermined, if_pos ended]
    · rw [walkDetermined, if_neg ended] at determined ⊢
      simp only [Bool.and_eq_true, decide_eq_true_eq] at determined ⊢
      refine ⟨determined.1, inductionHypothesis determined.2 (by omega) ?_⟩
      rw [aodvExtHdrSize]
      omega

/-- The loop ends in the number of rounds that the length allows and stays in the datagram. -/
def ExtensionsSafe (data : List (BitVec 8)) (behind : Nat → BitVec 8) (size : Nat) : Prop :=
  ∃ fuel headers, extHeaders (recvMemory data behind) size data.length fuel 0 size = some headers ∧
    headers.length ≤ (data.length - size + 1) / 2 ∧
    ∀ offset ∈ extReads headers, offset < data.length

/-- The loop over the extensions of a RREQ or RREP is safe exactly if the datagram holds both
bytes of every extension header that begins in it, and no extension ends more than the size of the
message header behind it. -/
theorem extensionsSafe_iff (data : List (BitVec 8)) (behind : Nat → BitVec 8) (size : Nat)
    (header : size = rreqSize ∨ size = rrepSize) (least : size ≤ data.length)
    (most : data.length ≤ recvBufSize) :
    ExtensionsSafe data behind size ↔ walkDetermined data size data.length 0 = true := by
  have small : 0 < size ∧ size ≤ rreqSize := by
    rcases header with rfl | rfl <;> decide
  constructor
  · rintro ⟨fuel, headers, found, _, reads⟩
    have determined := determined_of_extHeaders most small.2 fuel 0 (Nat.zero_le _) found
      (extReads_lt_iff.mp reads)
    exact walkDetermined_of_fuel determined (by omega) (by omega)
  · intro determined
    obtain ⟨headers, found, few, reads⟩ :=
      extHeaders_of_determined most small.2 data.length 0 (Nat.zero_le _) determined
    exact ⟨data.length, headers, found, by omega, extReads_lt_iff.mpr reads⟩

end

/-- A RREQ with one extension of two bytes of data. -/
def extendedRreq : List (BitVec 8) := List.replicate rreqSize 0#8 ++ [1#8, 2#8, 7#8, 7#8]

theorem extensionsSafe_iff_extendedRreq :
    ExtensionsSafe extendedRreq (fun _ => 0#8) rreqSize ∧
      walkDetermined extendedRreq rreqSize extendedRreq.length 0 = true := by
  have determined : walkDetermined extendedRreq rreqSize extendedRreq.length 0 = true := by decide
  exact ⟨(extensionsSafe_iff extendedRreq (fun _ => 0#8) rreqSize (.inl rfl) (by decide)
    (by decide)).mpr determined, determined⟩

/-- An extension that claims 255 bytes leads the loop out of a datagram of 26 bytes. -/
theorem not_extensionsSafe :
    ¬ ExtensionsSafe (List.replicate rreqSize 0#8 ++ [1#8, 255#8]) (fun _ => 0#8) rreqSize := by
  rintro ⟨fuel, headers, found, _, reads⟩
  have determined := determined_of_extHeaders (by decide) (Nat.le_refl _) fuel 0 (Nat.zero_le _)
    found (extReads_lt_iff.mp reads)
  have runaway : walkDetermined (List.replicate rreqSize 0#8 ++ [1#8, 255#8]) rreqSize 26 0 =
      false := by decide
  exact absurd (walkDetermined_of_fuel determined (by decide) (by decide))
    (Bool.not_eq_true _ ▸ runaway)

end Aodvd
