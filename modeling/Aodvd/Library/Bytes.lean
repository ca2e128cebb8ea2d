/-
This file is a small library about bytes in memory.

A memory gives a byte to every position. A list of bytes is stored at a position and loaded from
it; a range is copied from a memory to another one, or within one memory, where the copy reads what
was there before it. Numbers are written with the least byte first.
-/

import Mathlib

namespace Bytes

abbrev Byte := BitVec 8

/-- A byte at every position. -/
abbrev Memory := Nat → Byte

/-! ### Storing and loading -/

/-- The bytes are stored from a position on. -/
def store (memory : Memory) (offset : Nat) (values : List Byte) : Memory := fun position =>
  if offset ≤ position then values.getD (position - offset) (memory position)
  else memory position

/-- As many bytes from a position on. -/
def load (memory : Memory) (offset count : Nat) : List Byte :=
  (List.range count).map fun index => memory (offset + index)

/-- The range is copied from the source. -/
def copy (target source : Memory) (place start count : Nat) : Memory := fun position =>
  if place ≤ position ∧ position < place + count then source (start + (position - place))
  else target position

variable {memory other target source : Memory} {offset position count : Nat} {values : List Byte}

theorem store_of_outside (outside : position < offset ∨ offset + values.length ≤ position) :
    store memory offset values position = memory position := by
  unfold store
  by_cases before : offset ≤ position
  · rw [if_pos before, List.getD_eq_default _ _ (by omega)]
  · rw [if_neg before]

@[simp]
theorem length_load : (load memory offset count).length = count := by
  rw [load, List.length_map, List.length_range]

theorem getElem_load {index : Nat} (below : index < (load memory offset count).length) :
    (load memory offset count)[index] = memory (offset + index) := by
  simp only [load, List.getElem_map, List.getElem_range]

theorem load_congr
    (same : ∀ index < count, memory (offset + index) = other (offset + index)) :
    load memory offset count = load other offset count :=
  List.map_congr_left fun index member => same index (List.mem_range.mp member)

/-- What is stored is loaded. -/
theorem load_store (memory : Memory) (offset : Nat) (values : List Byte) :
    load (store memory offset values) offset values.length = values := by
  refine List.ext_getElem length_load fun index _ below => ?_
  rw [getElem_load]
  unfold store
  rw [if_pos (Nat.le_add_right _ _), Nat.add_sub_cancel_left, List.getD_eq_getElem _ _ below]

/-- What is loaded elsewhere stays. -/
theorem load_store_of_outside
    (outside : position + count ≤ offset ∨ offset + values.length ≤ position) :
    load (store memory offset values) position count = load memory position count :=
  load_congr fun index below => store_of_outside (by omega)

/-- Two memories that agree on a list of positions loaded agree at each of them. -/
theorem eq_of_load_eq (same : load memory offset count = load other offset count)
    (above : offset ≤ position) (below : position < offset + count) :
    memory position = other position := by
  obtain ⟨index, rfl⟩ := Nat.exists_eq_add_of_le above
  have inside : index < (load memory offset count).length := by
    rw [length_load]
    omega
  calc memory (offset + index) = (load memory offset count)[index] := (getElem_load inside).symm
    _ = (load other offset count).get ⟨index, same ▸ inside⟩ := List.getElem_of_eq same inside
    _ = other (offset + index) := getElem_load _

theorem copy_of_inside {place start : Nat} (above : place ≤ position)
    (below : position < place + count) :
    copy target source place start count position = source (start + (position - place)) :=
  if_pos ⟨above, below⟩

theorem copy_of_outside {place start : Nat}
    (outside : position < place ∨ place + count ≤ position) :
    copy target source place start count position = target position :=
  if_neg (by omega)

/-! ### Numbers -/

/-- The lowest bytes of a number. -/
def toBytes : Nat → Nat → List Byte
  | 0, _ => []
  | count + 1, value => BitVec.ofNat 8 value :: toBytes count (value / 256)

/-- The number that the bytes write. -/
def ofBytes : List Byte → Nat
  | [] => 0
  | byte :: rest => byte.toNat + 256 * ofBytes rest

@[simp]
theorem length_toBytes (count value : Nat) : (toBytes count value).length = count := by
  induction count generalizing value with
  | zero => rfl
  | succ count inductionHypothesis => exact congrArg (· + 1) (inductionHypothesis _)

theorem ofBytes_toBytes (count value : Nat) :
    ofBytes (toBytes count value) = value % 256 ^ count := by
  induction count generalizing value with
  | zero => exact (Nat.mod_one value).symm
  | succ count inductionHypothesis =>
    have whole : value % 256 ^ (count + 1) = value % 256 + 256 * (value / 256 % 256 ^ count) := by
      rw [Nat.pow_succ', Nat.mod_mul]
    show (BitVec.ofNat 8 value).toNat + 256 * ofBytes (toBytes count (value / 256)) = _
    rw [inductionHypothesis, BitVec.toNat_ofNat, whole]

theorem toBytes_ofBytes (bytes : List Byte) : toBytes bytes.length (ofBytes bytes) = bytes := by
  induction bytes with
  | nil => rfl
  | cons byte rest inductionHypothesis =>
    have small := byte.isLt
    have lowest : BitVec.ofNat 8 (byte.toNat + 256 * ofBytes rest) = byte := by
      apply BitVec.eq_of_toNat_eq
      rw [BitVec.toNat_ofNat]
      omega
    have others : (byte.toNat + 256 * ofBytes rest) / 256 = ofBytes rest := by omega
    show BitVec.ofNat 8 (byte.toNat + 256 * ofBytes rest) ::
      toBytes rest.length ((byte.toNat + 256 * ofBytes rest) / 256) = _
    rw [lowest, others, inductionHypothesis]

/-- Only the lowest bytes of a number are written. -/
theorem toBytes_mod (count value : Nat) :
    toBytes count (value % 256 ^ count) = toBytes count value := by
  have same := toBytes_ofBytes (toBytes count value)
  rwa [length_toBytes, ofBytes_toBytes] at same

end Bytes
