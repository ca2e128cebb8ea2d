/-
This file follows the writes of `neighbor_link_break` into the send buffer.

The RERR is written destination by destination into a buffer of fixed size, at the place that a
count of eight bits names. The loop looks at neither, so it stays in the buffer exactly if at most
101 destinations are reported. A neighbour can have more: each RREP that passes through may add
one, and 102 of them are enough.
-/

import Aodvd.LinkBreaks
import Aodvd.Reachable
import Aodvd.RecvBuffer

namespace Aodvd

/-! ### Writes into the send buffer -/

/-- `SEND_BUF_SIZE`. -/
def sendBufSize : Nat := recvBufSize

/-- The writes of `neighbor_link_break` into the send buffer. -/
def neighborLinkBreakWrites (config : Config) (dest : Addr) (state : State) : List BufWrite :=
  match entryAt state dest with
  | none => []
  | some rt =>
    if rt.hcnt = 1 then
      (((rtEntries state).map RtEntry.destAddr).foldl (linkBreakTrace config dest)
        (linkBreakSelf config dest state, linkBreakSelfWrites config dest state)).2
    else []

/-- The writes of a link break are those for the number of entries it reports. -/
theorem neighborLinkBreakWrites_eq (config : Config) {state : State} {rt : RtEntry}
    (sound : state.rtTbl.Sound) (found : entryAt state rt.destAddr = some rt) (near : rt.hcnt = 1) :
    neighborLinkBreakWrites config rt.destAddr state =
      writesFor (linkBreakListed rt state).length := by
  unfold neighborLinkBreakWrites
  rw [found]
  exact (if_pos near).trans (linkBreakLoop_traces config sound found).writes

/-- The RERR of a link break is written inside the send buffer, and counts all destinations. -/
structure RerrFits (config : Config) (dest : Addr) (state : State) : Prop where
  inside : ∀ write ∈ neighborLinkBreakWrites config dest state,
    write.offset + write.size ≤ sendBufSize
  counted : neighborLinkBreakWrites config dest state ≠ [] →
    ∃ rerr, (neighborLinkBreak config dest state).sendBuf = .rerr rerr ∧
      rerr.destCount = (neighborLinkBreakWrites config dest state).length

theorem writesFor_inside_iff (count : Nat) :
    (∀ write ∈ writesFor count, write.offset + write.size ≤ sendBufSize) ↔ count ≤ 101 := by
  constructor
  · intro inside
    by_contra many
    have write : writeAfter 101 ∈ writesFor count :=
      List.mem_map.mpr ⟨101, List.mem_range.mpr (by omega), rfl⟩
    have outside : ¬ (writeAfter 101).offset + (writeAfter 101).size ≤ sendBufSize := by decide
    exact outside (inside _ write)
  · intro few write member
    obtain ⟨index, below, rfl⟩ := List.mem_map.mp member
    have bound := List.mem_range.mp below
    have size : sendBufSize = 812 := rfl
    unfold writeAfter
    split
    · decide
    · show rerrCalcSize (index % 256) + 8 ≤ sendBufSize
      unfold rerrCalcSize
      omega

/-- The RERR of a link break fits exactly if at most 101 destinations are reported. -/
theorem rerrFits_iff (config : Config) (state : State) (sound : state.rtTbl.Sound) (rt : RtEntry)
    (found : entryAt state rt.destAddr = some rt) (near : rt.hcnt = 1) :
    RerrFits config rt.destAddr state ↔
      ((rtEntries state).countP fun entry => decide (rt.ReportedWith entry)) ≤ 101 := by
  have writes := neighborLinkBreakWrites_eq config sound found near
  rw [← length_linkBreakListed sound found]
  constructor
  · intro fits
    exact (writesFor_inside_iff _).mp (writes ▸ fits.inside)
  · intro few
    refine ⟨writes ▸ (writesFor_inside_iff _).mpr few, fun some => ?_⟩
    have listed : linkBreakListed rt state ≠ [] := by
      intro none
      rw [writes, none] at some
      exact some rfl
    obtain ⟨udest, message, _⟩ := rerrOf_eq false (linkBreakListed rt state)
    refine ⟨⟨false, (linkBreakListed rt state).length % 256, udest⟩, ?_, ?_⟩
    · rw [sendBuf_neighborLinkBreak config sound found near, if_neg listed, message]
    · rw [writes, writesFor, List.length_map, List.length_range]
      exact Nat.mod_eq_of_lt (by omega)

/-! ### Many routes over one neighbour -/

/-- The destinations that RREPs are about. -/
def crowdDest (index : Nat) : Addr := BitVec.ofNat 32 (1000 + index)

/-- A RREP of the neighbour 2 to the node 9. -/
def crowdRrep (index : Nat) : Rrep := ⟨false, false, 1, crowdDest index, 7#32, 9#32, 6000, []⟩

def crowdInput (index : Nat) : Input :=
  inputAt 16000 (.message ⟨.rrep (crowdRrep index), rrepSize, 2#32, 1#32, 5, 1⟩)

/-- The node 9 has a route through this node, and the neighbour 2 sends RREPs to it. -/
def crowdInputs (count : Nat) : List Input :=
  [inputAt 15500 (helloFrom 2#32 5#32), inputAt 15600 (rreqFrom 3#32 9#32 5#32 1 50#32)] ++
    (List.range count).map crowdInput

/-- The neighbour 2 with the number of destinations that its link break reports. -/
theorem exists_reported {count reported : Nat}
    (seen : (entryAt (run loneConfig timevalZero 0 (crowdInputs count)) 2#32).any (fun rt =>
      decide (rt.hcnt = 1 ∧ (rtEntries (run loneConfig timevalZero 0 (crowdInputs count))).countP
        (fun entry => decide (rt.ReportedWith entry)) = reported)) = true) :
    ∃ rt, entryAt (run loneConfig timevalZero 0 (crowdInputs count)) rt.destAddr = some rt ∧
      rt.destAddr = 2#32 ∧ rt.hcnt = 1 ∧
      (rtEntries (run loneConfig timevalZero 0 (crowdInputs count))).countP
        (fun entry => decide (rt.ReportedWith entry)) = reported := by
  obtain ⟨rt, found, facts⟩ := (Option.any_eq_true ..).mp seen
  have own := entryAt_destAddr found
  rw [← own] at found
  exact ⟨rt, found, own, of_decide_eq_true facts⟩

theorem rerrFits_iff_twoRoutes :
    ∃ rt, entryAt (run loneConfig timevalZero 0 (crowdInputs 2)) rt.destAddr = some rt ∧
      rt.hcnt = 1 ∧ RerrFits loneConfig rt.destAddr (run loneConfig timevalZero 0 (crowdInputs 2)) := by
  have seen : (entryAt (run loneConfig timevalZero 0 (crowdInputs 2)) 2#32).any (fun rt =>
      decide (rt.hcnt = 1 ∧ (rtEntries (run loneConfig timevalZero 0 (crowdInputs 2))).countP
        (fun entry => decide (rt.ReportedWith entry)) = 2)) = true := by decide +kernel
  obtain ⟨rt, found, _, near, two⟩ := exists_reported seen
  have sound := (atRest_run loneConfig timevalZero 0 (crowdInputs 2)).sound
  exact ⟨rt, found, near, (rerrFits_iff loneConfig _ sound rt found near).mpr (by omega)⟩

/-- After 102 RREPs the link break of the neighbour writes outside of the send buffer. -/
theorem not_rerrFits :
    ∃ rt, entryAt (run loneConfig timevalZero 0 (crowdInputs 102)) 2#32 = some rt ∧ rt.hcnt = 1 ∧
      ¬ RerrFits loneConfig 2#32 (run loneConfig timevalZero 0 (crowdInputs 102)) := by
  have seen : (entryAt (run loneConfig timevalZero 0 (crowdInputs 102)) 2#32).any (fun rt =>
      decide (rt.hcnt = 1 ∧ (rtEntries (run loneConfig timevalZero 0 (crowdInputs 102))).countP
        (fun entry => decide (rt.ReportedWith entry)) = 102)) = true := by decide +kernel
  obtain ⟨rt, found, own, near, many⟩ := exists_reported seen
  have sound := (atRest_run loneConfig timevalZero 0 (crowdInputs 102)).sound
  refine ⟨rt, own ▸ found, near, fun fits => ?_⟩
  have inside := fits.inside
  rw [← own, neighborLinkBreakWrites_eq loneConfig sound found near, writesFor_inside_iff,
    length_linkBreakListed sound found] at inside
  omega

end Aodvd
