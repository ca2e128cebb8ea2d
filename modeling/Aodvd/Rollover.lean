/-
This file compares the freshness tests of the daemon with the order on sequence numbers that wraps
around.

RFC 3561 compares two sequence numbers by subtracting them and reading the difference as a signed
number. The daemon casts both numbers to signed ones and compares those. The two ways agree as long
as the signed numbers are less than `2^31` apart and disagree beyond: a number just past `2^31` is
then taken for an old one. Each decision of the daemon that rests on such a test is described by
what it does to the state, and agrees with the wrapping order exactly on the pairs that are near.
-/

import Aodvd.Voices

namespace Aodvd

/-! ### The two orders -/

/-- The first number is newer than the second: their difference modulo `2^32`, read as a signed
number, is positive. -/
def Newer (first second : Seqno) : Prop := 0 < (first - second).toInt

instance (first second : Seqno) : Decidable (Newer first second) :=
  inferInstanceAs (Decidable (_ < _))

theorem signed_bounds (seqno : Seqno) : -2 ^ 31 ≤ signed seqno ∧ signed seqno < 2 ^ 31 :=
  ⟨BitVec.le_toInt seqno, BitVec.toInt_lt⟩

/-- The wrapping order in terms of the signed numbers. -/
theorem newer_iff (first second : Seqno) :
    Newer first second ↔
      (signed second < signed first ∧ signed first - signed second < 2 ^ 31) ∨
        signed first - signed second < -2 ^ 31 := by
  have firstBounds := signed_bounds first
  have secondBounds := signed_bounds second
  unfold Newer
  rw [BitVec.toInt_sub, Int.bmod_eq_emod]
  unfold signed at *
  split <;> omega

/-- Two different numbers are compared alike when the signed ones are near. -/
theorem signed_lt_iff_newer_iff (received stored : Seqno) :
    (signed stored < signed received ↔ Newer received stored) ↔
      -2 ^ 31 ≤ signed received - signed stored ∧ signed received - signed stored < 2 ^ 31 := by
  rw [newer_iff]
  omega

theorem not_newer_self (seqno : Seqno) : ¬ Newer seqno seqno := by
  rw [newer_iff]
  omega

theorem not_newer_seqnoIncr (seqno : Seqno) : ¬ Newer seqno (seqnoIncr seqno) := by
  unfold seqnoIncr
  split
  · rename_i zero
    rw [zero]
    decide
  · split
    · rename_i top
      rw [top]
      decide
    · unfold Newer
      have step : seqno - (seqno + 1#32) = -1#32 := by bv_omega
      rw [step]
      decide

/-! ### Updates of existing routes -/

section

variable {config : Config} {state : State}

/-- The sequence number of the entry of a destination. -/
def seqnoAt (state : State) (dest : Addr) : Option Seqno :=
  (entryAt state dest).map RtEntry.destSeqno

/-- After the forward route has been made, a RREP changes no sequence number. -/
theorem seqnoAt_rrepContinue (config : Config) (rrep : Rrep) (len : Nat) (ipTtl : Int)
    (ifindex : Nat) (fwdRt revRt : Option RtEntry) (state : State) (dest : Addr) :
    seqnoAt (rrepContinue config rrep len ipTtl ifindex fwdRt revRt state) dest =
      seqnoAt state dest := by
  refine (forwardRule_entry (fun entry => entry.map RtEntry.destSeqno = seqnoAt state dest)
    fun addr entry same => ?_).rrepContinue rfl rrep len ipTtl ifindex fwdRt revRt
  rw [Option.map_map, ← same]
  exact congrArg (Option.map · entry) (funext (touch_precursorAdd addr).destSeqno)

/-- An update writes the sequence number it is offered. -/
theorem seqnoAt_rtTableUpdate (config : Config) (offer : Offer) {rt : RtEntry}
    (sound : state.rtTbl.Sound) (found : entryAt state offer.dest = some rt) :
    seqnoAt (rtTableUpdate config offer state) offer.dest = some offer.seqno := by
  obtain ⟨base, updated, _⟩ := entryAt_rtTableUpdate_self config offer sound found
  rw [seqnoAt, updated]
  rfl

/-- An existing reverse route with another number takes the number of a RREQ over exactly if it is
larger as a signed number. -/
theorem seqnoAt_rreqReverse_iff (config : Config) (rreq : Rreq) (ipSrc : Addr) (ifindex : Nat)
    {rt : RtEntry} (sound : state.rtTbl.Sound) (found : entryAt state rreq.origAddr = some rt)
    (known : rt.destSeqno ≠ 0#32) (different : rt.destSeqno ≠ rreq.origSeqno) :
    seqnoAt (rreqReverse config rreq ipSrc ifindex state) rreq.origAddr = some rreq.origSeqno ↔
      signed rt.destSeqno < signed rreq.origSeqno := by
  unfold rreqReverse
  rw [rtTableFind_eq_entryAt sound, found]
  have accepts : rreqAccepts rreq rt = true ↔ signed rt.destSeqno < signed rreq.origSeqno := by
    simp only [rreqAccepts, Bool.or_eq_true, Bool.and_eq_true, decide_eq_true_iff, known,
      different.symm, false_and, or_false, false_or]
  dsimp only
  split
  · rename_i accepted
    exact iff_of_true (seqnoAt_rtTableUpdate config (rreqOffer rreq ipSrc ifindex rt.flags) sound
      found) (accepts.mp accepted)
  · rename_i rejected
    rw [seqnoAt, found]
    exact iff_of_false (fun same => different (Option.some.inj same)) (mt accepts.mpr rejected)

/-- An existing forward route with another number takes the number of a RREP over exactly if it is
larger as a signed number. -/
theorem seqnoAt_rrepProcess_iff (config : Config) {rrep : Rrep} {len ifindex : Nat} (ipSrc : Addr)
    (ipTtl : Int) {rt : RtEntry} (sound : state.rtTbl.Sound) (whole : rrepSize ≤ len)
    (foreign : rrep.destAddr ≠ ipaddrOf config ifindex)
    (found : entryAt state rrep.destAddr = some rt) (known : rt.destSeqno ≠ 0#32)
    (different : rt.destSeqno ≠ rrep.destSeqno) :
    seqnoAt (rrepProcess config rrep len ipSrc ipTtl ifindex state) rrep.destAddr =
        some rrep.destSeqno ↔
      signed rt.destSeqno < signed rrep.destSeqno := by
  unfold rrepProcess
  rw [if_neg (by omega), if_neg foreign, rtTableFind_eq_entryAt sound rrep.destAddr, found]
  have accepts : rrepAccepts rrep rt = true ↔ signed rt.destSeqno < signed rrep.destSeqno := by
    simp only [rrepAccepts, Bool.or_eq_true, Bool.and_eq_true, decide_eq_true_iff, known,
      different.symm, false_and, or_false, false_or]
  dsimp only
  split
  · rename_i accepted
    rw [seqnoAt_rrepContinue]
    exact iff_of_true (seqnoAt_rtTableUpdate config (rrepOffer rrep ipSrc ifindex rt.flags) sound
      found) (accepts.mp accepted)
  · rename_i rejected
    rw [seqnoAt, found]
    exact iff_of_false (fun same => different (Option.some.inj same)) (mt accepts.mpr rejected)

/-! ### Requests for other nodes -/

/-- What `rreq_process` does with a RREQ for a destination that has an entry. -/
inductive RreqVerdict where
  | reply
  | forward (destSeqno : Seqno)

/-- The choice of an intermediate node. -/
def rreqVerdict (rreq : Rreq) (rt : RtEntry) : RreqVerdict :=
  if rreqMayReply rreq rt then .reply else .forward (forwardSeqno rreq (some rt))

/-- `rreq_process` follows the verdict. -/
theorem rreqContinue_eq_verdict (config : Config) {rreq : Rreq} (len : Nat) (ipTtl : Int)
    {ifindex : Nat} {rt : RtEntry} (sound : state.rtTbl.Sound)
    (foreign : rreq.destAddr ≠ ipaddrOf config ifindex)
    (found : entryAt state rreq.destAddr = some rt) :
    rreqContinue config rreq len ipTtl ifindex state =
      match rreqVerdict rreq rt with
      | .reply => rreqReply config rreq rt state
      | .forward destSeqno =>
        if 1 < ipTtl then
          rreqForward config { rreq with destSeqno := destSeqno } len (ipTtl - 1) state
        else state := by
  unfold rreqContinue rreqVerdict
  rw [if_neg foreign, rtTableFind_eq_entryAt sound, found]
  dsimp only
  split
  · rfl
  · rfl

/-- The verdict agrees with the wrapping order: a reply is not older than what was asked for, and
the number that is passed on is the newer one. -/
def RreqVerdict.Fresh (requested stored : Seqno) : RreqVerdict → Prop
  | .reply => ¬ Newer requested stored
  | .forward destSeqno => (destSeqno = requested ∨ destSeqno = stored) ∧
      ¬ Newer requested destSeqno ∧ ¬ Newer stored destSeqno

/-- The numbers of a RREQ and of the entry it is about are no more than `2^31` apart, unless the
entry is one for the Internet that does not answer: its number is never passed on. -/
def RepliesNear (rreq : Rreq) (rt : RtEntry) : Prop :=
  if rt.flags.inetDest = true ∧ rreqMayReply rreq rt = false then
    ¬ Newer rt.destSeqno rreq.destSeqno
  else
    -2 ^ 31 ≤ signed rreq.destSeqno - signed rt.destSeqno ∧
      signed rreq.destSeqno - signed rt.destSeqno ≤ 2 ^ 31

theorem fresh_rreqVerdict_iff {rreq : Rreq} {rt : RtEntry} :
    (rreqVerdict rreq rt).Fresh rreq.destSeqno rt.destSeqno ↔ RepliesNear rreq rt := by
  unfold rreqVerdict RepliesNear
  by_cases replies : rreqMayReply rreq rt = true
  · rw [if_pos replies, if_neg (by simp [replies])]
    have older : signed rreq.destSeqno ≤ signed rt.destSeqno := by
      simp only [rreqMayReply, Bool.and_eq_true, decide_eq_true_iff] at replies
      exact replies.2
    show ¬ Newer _ _ ↔ _
    rw [newer_iff]
    omega
  · rw [if_neg replies]
    unfold RreqVerdict.Fresh forwardSeqno
    by_cases inet : rt.flags.inetDest = true
    · rw [if_pos ⟨inet, Bool.eq_false_iff.mpr replies⟩]
      simp only [inet, Bool.true_eq_false, false_and, if_false, true_or, true_and,
        not_newer_self, not_false_eq_true]
    · rw [if_neg (fun both => inet both.1)]
      simp only [Bool.not_eq_true _ ▸ inet, true_and]
      split
      · simp only [or_true, true_and, not_newer_self, not_false_eq_true, and_true, newer_iff]
        omega
      · simp only [true_or, true_and, not_newer_self, not_false_eq_true, newer_iff]
        omega

/-! ### The node's own number -/

/-- The number of a node after an answer is not older than the requested one exactly if the
requested number is not far below. -/
theorem not_newer_answerSeqno_iff {own requested : Seqno} (asked : requested ≠ 0#32) :
    ¬ Newer requested (answerSeqno own requested) ↔
      -2 ^ 31 ≤ signed requested - signed own := by
  unfold answerSeqno
  rw [if_neg asked]
  split
  · exact iff_of_true (not_newer_self requested) (by omega)
  · split
    · rename_i same
      rw [same]
      exact iff_of_true (not_newer_seqnoIncr requested) (by omega)
    · rw [newer_iff]
      omega

theorem seqno_rreqAnswer (config : Config) {rreq : Rreq} {revRt : RtEntry}
    (reverse : entryAt state rreq.origAddr = some revRt) :
    (rreqAnswer config rreq state).seqno = answerSeqno state.seqno rreq.destSeqno := by
  unfold rreqAnswer
  rw [reverse]
  exact (utters_rrepSend ..).seqno

/-! ### The decisions -/

/-- A decision of the daemon between two sequence numbers: about the reverse route of a RREQ, the
forward route of a RREP, a RREQ for another node, and the node's own number. -/
inductive Decision where
  | reverse (rreq : Rreq) (ipSrc : Addr) (ifindex : Nat)
  | forward (rrep : Rrep) (len : Nat) (ipSrc : Addr) (ipTtl : Int) (ifindex : Nat)
  | reply (rreq : Rreq)
  | answer (rreq : Rreq)

/-- The decision agrees with the wrapping order on the numbers it compares, if both are known. -/
def Decision.Agrees (config : Config) (state : State) : Decision → Prop
  | .reverse rreq ipSrc ifindex => ∀ rt, entryAt state rreq.origAddr = some rt →
      rt.destSeqno ≠ 0#32 → rreq.origSeqno ≠ 0#32 → rt.destSeqno ≠ rreq.origSeqno →
      (seqnoAt (rreqReverse config rreq ipSrc ifindex state) rreq.origAddr =
        some rreq.origSeqno ↔ Newer rreq.origSeqno rt.destSeqno)
  | .forward rrep len ipSrc ipTtl ifindex => ∀ rt, entryAt state rrep.destAddr = some rt →
      rrepSize ≤ len → rrep.destAddr ≠ ipaddrOf config ifindex →
      rt.destSeqno ≠ 0#32 → rrep.destSeqno ≠ 0#32 → rt.destSeqno ≠ rrep.destSeqno →
      (seqnoAt (rrepProcess config rrep len ipSrc ipTtl ifindex state) rrep.destAddr =
        some rrep.destSeqno ↔ Newer rrep.destSeqno rt.destSeqno)
  | .reply rreq => ∀ rt, entryAt state rreq.destAddr = some rt →
      rt.destSeqno ≠ 0#32 → rreq.destSeqno ≠ 0#32 →
      (rreqVerdict rreq rt).Fresh rreq.destSeqno rt.destSeqno
  | .answer rreq => ∀ revRt, entryAt state rreq.origAddr = some revRt →
      state.seqno ≠ 0#32 → rreq.destSeqno ≠ 0#32 →
      ¬ Newer rreq.destSeqno (rreqAnswer config rreq state).seqno

/-- The numbers that a decision compares are near as signed numbers. -/
def Decision.Near (config : Config) (state : State) : Decision → Prop
  | .reverse rreq _ _ => ∀ rt, entryAt state rreq.origAddr = some rt →
      rt.destSeqno ≠ 0#32 → rreq.origSeqno ≠ 0#32 → rt.destSeqno ≠ rreq.origSeqno →
      -2 ^ 31 ≤ signed rreq.origSeqno - signed rt.destSeqno ∧
        signed rreq.origSeqno - signed rt.destSeqno < 2 ^ 31
  | .forward rrep len _ _ ifindex => ∀ rt, entryAt state rrep.destAddr = some rt →
      rrepSize ≤ len → rrep.destAddr ≠ ipaddrOf config ifindex →
      rt.destSeqno ≠ 0#32 → rrep.destSeqno ≠ 0#32 → rt.destSeqno ≠ rrep.destSeqno →
      -2 ^ 31 ≤ signed rrep.destSeqno - signed rt.destSeqno ∧
        signed rrep.destSeqno - signed rt.destSeqno < 2 ^ 31
  | .reply rreq => ∀ rt, entryAt state rreq.destAddr = some rt →
      rt.destSeqno ≠ 0#32 → rreq.destSeqno ≠ 0#32 → RepliesNear rreq rt
  | .answer rreq => ∀ revRt, entryAt state rreq.origAddr = some revRt →
      state.seqno ≠ 0#32 → rreq.destSeqno ≠ 0#32 →
      -2 ^ 31 ≤ signed rreq.destSeqno - signed state.seqno

/-- The freshness decisions of the daemon agree with the wrapping order exactly on numbers that are
near as signed numbers. -/
theorem decision_agrees_iff (config : Config) {state : State} (sound : state.rtTbl.Sound)
    (decision : Decision) : decision.Agrees config state ↔ decision.Near config state := by
  cases decision with
  | reverse rreq ipSrc ifindex =>
    refine forall₄_congr fun rt found known _ => forall_congr' fun different => ?_
    rw [seqnoAt_rreqReverse_iff config rreq ipSrc ifindex sound found known different]
    exact signed_lt_iff_newer_iff ..
  | forward rrep len ipSrc ipTtl ifindex =>
    refine forall₄_congr fun rt found whole foreign => forall₃_congr fun known _ different => ?_
    rw [seqnoAt_rrepProcess_iff config ipSrc ipTtl sound whole foreign found known different]
    exact signed_lt_iff_newer_iff ..
  | reply rreq => exact forall₄_congr fun rt _ _ _ => fresh_rreqVerdict_iff
  | answer rreq =>
    refine forall₄_congr fun revRt reverse _ asked => ?_
    rw [seqno_rreqAnswer config reverse]
    exact not_newer_answerSeqno_iff asked

end

/-! ### A number that passes the middle -/

/-- Node 9 is known with the largest positive number. -/
def middleKnown : List Input := [inputAt 100 (rreqFrom 2#32 9#32 topSeqno 1 5#32)]

/-- A RREQ of node 9 with a number, which asks for a node with a number. -/
def numberedRreq (origSeqno : Seqno) (destAddr : Addr) (destSeqno : Seqno) : Rreq :=
  ⟨.none, 1, 1#32, destAddr, destSeqno, 9#32, origSeqno, []⟩

/-- A RREP about node 9 with a number. -/
def numberedRrep (destSeqno : Seqno) : Rrep := ⟨false, false, 1, 9#32, destSeqno, 1#32, 6000, []⟩

theorem decision_agrees_iff_middleKnown :
    seqnoAt (run loneConfig ⟨0, 0⟩ 0 middleKnown) 9#32 = some topSeqno ∧
      (Decision.reverse (numberedRreq 1#32 5#32 0#32) 2#32 1).Agrees loneConfig
        (run loneConfig ⟨0, 0⟩ 0 middleKnown) := by
  have stored : seqnoAt (run loneConfig ⟨0, 0⟩ 0 middleKnown) 9#32 = some topSeqno := by
    decide +kernel
  refine ⟨stored, (decision_agrees_iff loneConfig
    (atRest_run loneConfig ⟨0, 0⟩ 0 middleKnown).sound _).mpr ?_⟩
  intro rt found _ _ _
  obtain ⟨same, here, number⟩ := Option.map_eq_some_iff.mp stored
  obtain rfl := Option.some.inj (here.symm.trans found)
  rw [number]
  decide

/-- The number after the largest positive one is newer, and is taken for an older one by the
reverse route, the forward route, the intermediate node and the destination. -/
theorem decisions_disagree :
    Newer 0x80000000#32 topSeqno ∧
      ¬ (Decision.reverse (numberedRreq 0x80000000#32 5#32 0#32) 2#32 1).Agrees loneConfig
        (run loneConfig ⟨0, 0⟩ 0 middleKnown) ∧
      ¬ (Decision.forward (numberedRrep 0x80000000#32) rrepSize 2#32 5 1).Agrees loneConfig
        (run loneConfig ⟨0, 0⟩ 0 middleKnown) ∧
      ¬ (Decision.reply (numberedRreq 1#32 9#32 0x80000000#32)).Agrees loneConfig
        (run loneConfig ⟨0, 0⟩ 0 middleKnown) ∧
      ¬ (Decision.answer (numberedRreq 1#32 1#32 0x80000000#32)).Agrees loneConfig
        (run loneConfig ⟨0, 0⟩ 0 middleKnown) := by
  obtain ⟨rt, found, number⟩ : ∃ rt, entryAt (run loneConfig ⟨0, 0⟩ 0 middleKnown) 9#32 = some rt ∧
      rt.destSeqno = topSeqno := Option.map_eq_some_iff.mp (by decide +kernel)
  refine ⟨by decide, fun agrees => ?_, fun agrees => ?_, fun agrees => ?_, fun agrees => ?_⟩
  · have taken := (agrees rt found (by rw [number]; decide) (by decide) (by rw [number]; decide)).mpr
      (by rw [number]; decide)
    exact absurd taken (by decide +kernel)
  · have taken := (agrees rt found (by decide) (by decide) (by rw [number]; decide) (by decide)
      (by rw [number]; decide)).mpr (by rw [number]; decide)
    exact absurd taken (by decide +kernel)
  · have replies : rreqMayReply (numberedRreq 1#32 9#32 0x80000000#32) rt = true := by
      have allowed : (entryAt (run loneConfig ⟨0, 0⟩ 0 middleKnown) 9#32).map
          (rreqMayReply (numberedRreq 1#32 9#32 0x80000000#32)) = some true := by decide +kernel
      rw [found] at allowed
      exact Option.some.inj allowed
    have fresh := agrees rt found (by rw [number]; decide) (by decide)
    rw [rreqVerdict, if_pos replies, number] at fresh
    exact fresh (by decide)
  · exact agrees rt found (by decide +kernel) (by decide) (by decide +kernel)

end Aodvd
