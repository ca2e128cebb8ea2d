/-
This file asks when a node answers a RREQ for one of its addresses.

`rreq_process` compares the destination with the address of the interface the RREQ has arrived on
only, and the RREP names the address of the interface in the reverse entry, which may be an old
one. A RREQ for another address of the node is treated like one for another node. And the RREP
leaves only if `rrep_send` comes to sending it. All of this is decided by the state before the RREQ.
-/

import Aodvd.ReverseRoutes
import Aodvd.Rollover

namespace Aodvd

/-! ### Answers -/

/-- A RREP of a node with the sequence number `own` answers a RREQ. A RREQ that knows no number
asks for 0. -/
structure Rrep.Answers (rreq : Rreq) (own : Seqno) (rrep : Rrep) : Prop where
  destAddr : rrep.destAddr = rreq.destAddr
  origAddr : rrep.origAddr = rreq.origAddr
  destSeqno : rrep.destSeqno = own
  fresh : rreq.destSeqno ≠ 0#32 → ¬ Newer rreq.destSeqno own

/-- Between two states a node answers a RREQ with its own number, and passes no RREQ on. -/
structure Answered (rreq : Rreq) (before after : State) : Prop where
  reply : ∃ datagram ∈ sentBetween before after, ∃ rrep, datagram.msg = .rrep rrep ∧
    rrep.Answers rreq after.seqno
  kept : ∀ datagram ∈ sentBetween before after, ∀ forwarded, datagram.msg ≠ .rreq forwarded

/-- What a node can answer: it does not wait after a reboot, the requested number is not far below
its own, the reverse route has an interface and no RERR is written over the reply. The RREQ has
arrived on the interface it asks for and the reverse route leads back over the same address, or
the table has a route to the address that happens to have the number of the node. -/
structure Answerable (config : Config) (rreq : Rreq) (ipSrc : Addr) (ifindex : Nat)
    (state : State) : Prop where
  awake : state.waitOnReboot = false
  near : rreq.destSeqno ≠ 0#32 → -2 ^ 31 ≤ signed rreq.destSeqno - signed state.seqno
  attached : (devIfindex config (reversedIfindex rreq ifindex state)).isSome = true
  whole : ¬ ReplyOverwritten config rreq ipSrc ifindex state
  named : if rreq.destAddr = ipaddrOf config ifindex then
      ipaddrOf config (reversedIfindex rreq ifindex state) = rreq.destAddr
    else ∃ fwdRt, reversedEntry rreq ipSrc ifindex state rreq.destAddr = some fwdRt ∧
      rreqMayReply rreq fwdRt = true ∧ fwdRt.destSeqno = state.seqno

/-- The datagram is neither an answer nor a RREQ. -/
def Datagram.Beside (rreq : Rreq) (own : Seqno) (datagram : Datagram) : Prop :=
  (∀ rrep, datagram.msg = .rrep rrep → ¬ rrep.Answers rreq own) ∧
    ∀ forwarded, datagram.msg ≠ .rreq forwarded

section

variable {config : Config} {rreq : Rreq} {own : Seqno}

theorem Datagram.beside_of_rerr {datagram : Datagram} {rerr : Rerr}
    (isRerr : datagram.msg = .rerr rerr) : datagram.Beside rreq own :=
  ⟨fun _ isRrep => AodvMsg.noConfusion (isRrep.symm.trans isRerr),
    fun _ isRreq => AodvMsg.noConfusion (isRreq.symm.trans isRerr)⟩

/-- A HELLO is about its sender alone. -/
theorem beside_helloDatagram (foreign : rreq.destAddr ≠ rreq.origAddr) (current : State)
    (numbered : Dev × Nat) : (helloDatagram config current numbered).Beside rreq own := by
  refine ⟨fun rrep isRrep answers => ?_, fun _ isRreq => AodvMsg.noConfusion isRreq⟩
  obtain rfl := AodvMsg.rrep.inj isRrep
  exact foreign (answers.destAddr.symm.trans answers.origAddr)

/-- A RREP that is created for a RREQ answers it exactly if it says so and leaves. -/
theorem answered_rrepSend_iff {revDest : Addr} (fwdDest : Option Addr) (size : Nat)
    {before created after : State} {revRt : RtEntry} {rrep : Rrep}
    (foreign : rreq.destAddr ≠ rreq.origAddr) (early : Emits (Reports config) before created)
    (sound : created.rtTbl.Sound) (found : entryAt created revDest = some revRt)
    (holds : created.sendBuf = .rrep rrep)
    (late : Emits (Datagram.Beside rreq after.seqno)
      (rrepSend config revDest fwdDest size created) after) :
    Answered rreq before after ↔ rrep.Answers rreq after.seqno ∧
      created.waitOnReboot = false ∧ (devIfindex config revRt.ifindex).isSome = true ∧
        ¬ BreaksReported config revDest created := by
  have sent : Emits (fun datagram => datagram.msg = .rrep rrep ∨
      datagram.Beside rreq after.seqno) created (rrepSend config revDest fwdDest size created) :=
    emits_rrepSend revDest fwdDest size sound holds
      (fun _ _ isRerr => .inr (Datagram.beside_of_rerr isRerr)) (fun _ carries => .inl carries)
      fun current numbered => .inr (beside_helloDatagram foreign current numbered)
  have members (datagram : Datagram) : datagram ∈ sentBetween before after ↔
      datagram ∈ sentBetween before created ∨
        datagram ∈ sentBetween created (rrepSend config revDest fwdDest size created) ∨
        datagram ∈ sentBetween (rrepSend config revDest fwdDest size created) after := by
    rw [mem_sentBetween_trans early (sent.any.trans late.any), mem_sentBetween_trans sent late]
  have all (datagram : Datagram) (member : datagram ∈ sentBetween before after) :
      (datagram ∈ sentBetween created (rrepSend config revDest fwdDest size created) ∧
        datagram.msg = .rrep rrep) ∨ datagram.Beside rreq after.seqno := by
    rcases (members datagram).mp member with first | second | third
    · obtain ⟨rerr, isRerr, _⟩ := (early.of_mem first).deletes
      exact .inr (Datagram.beside_of_rerr isRerr)
    · exact (sent.of_mem second).imp (fun carries => ⟨second, carries⟩) id
    · exact .inr (late.of_mem third)
  constructor
  · rintro ⟨⟨datagram, member, other, isRrep, answers⟩, _⟩
    rcases all datagram member with ⟨here, carries⟩ | beside
    · obtain rfl := AodvMsg.rrep.inj (carries.symm.trans isRrep)
      refine ⟨answers, (sent_rrepSend_iff fwdDest size sound found holds ?_).mp
        ⟨datagram, here, carries⟩⟩
      exact fun current numbered isHello =>
        (beside_helloDatagram foreign current numbered).1 rrep isHello answers
    · exact absurd answers (beside.1 other isRrep)
  · rintro ⟨answers, leaves⟩
    have apart (current : State) (numbered : Dev × Nat) :
        (helloDatagram config current numbered).msg ≠ .rrep rrep := fun isHello =>
      (beside_helloDatagram foreign current numbered).1 rrep isHello answers
    obtain ⟨datagram, here, carries⟩ :=
      (sent_rrepSend_iff fwdDest size sound found holds apart).mpr leaves
    refine ⟨⟨datagram, (members datagram).mpr (.inr (.inl here)), rrep, carries, answers⟩, ?_⟩
    intro other member forwarded isRreq
    rcases all other member with ⟨_, isRrep⟩ | beside
    · exact AodvMsg.noConfusion (isRrep.symm.trans isRreq)
    · exact beside.2 forwarded isRreq

variable {ipSrc : Addr} {ifindex : Nat} {before reversed : State}

/-- A reply is created and sent along the reverse route. -/
theorem Reversal.answered_iff (reversal : Reversal config rreq ipSrc ifindex before reversed)
    (foreign : rreq.destAddr ≠ rreq.origAddr) {created after : State} {rrep : Rrep}
    (creates : Creates rrep reversed created) (fwdDest : Option Addr) (size : Nat)
    (late : Emits (Datagram.Beside rreq after.seqno)
      (rrepSend config rreq.origAddr fwdDest size created) after) :
    Answered rreq before after ↔ rrep.Answers rreq after.seqno ∧ before.waitOnReboot = false ∧
      (devIfindex config (reversedIfindex rreq ifindex before)).isSome = true ∧
      ¬ ReplyOverwritten config rreq ipSrc ifindex before := by
  obtain ⟨revRt, there, _, interface⟩ := reversedEntry_origin rreq ipSrc ifindex before
  have found : entryAt created rreq.origAddr = some revRt :=
    (reversal.created_entries creates.rtTbl _).trans there
  have waits : created.waitOnReboot = before.waitOnReboot :=
    creates.waitOnReboot.trans reversal.waits
  rw [← reversal.breaksReported_iff creates.rtTbl creates.timers, ← interface, ← waits]
  exact answered_rrepSend_iff fwdDest size foreign (reversal.emits.trans (.of_out creates.out))
    (creates.rtTbl ▸ reversal.sound) found creates.sendBuf late

/-- The destination answers along the reverse route. -/
theorem Reversal.answered_rreqAnswer_iff
    (reversal : Reversal config rreq ipSrc ifindex before reversed)
    (foreign : rreq.destAddr ≠ rreq.origAddr) :
    Answered rreq before (rreqAnswer config rreq reversed) ↔
      (ipaddrOf config (reversedIfindex rreq ifindex before) = rreq.destAddr ∧
        (rreq.destSeqno ≠ 0#32 → -2 ^ 31 ≤ signed rreq.destSeqno - signed before.seqno)) ∧
      before.waitOnReboot = false ∧
      (devIfindex config (reversedIfindex rreq ifindex before)).isSome = true ∧
      ¬ ReplyOverwritten config rreq ipSrc ifindex before := by
  obtain ⟨revRt, there, origin, interface⟩ := reversedEntry_origin rreq ipSrc ifindex before
  have found : entryAt reversed rreq.origAddr = some revRt := (reversal.entries _).trans there
  have number : (rreqAnswer config rreq reversed).seqno =
      answerSeqno before.seqno rreq.destSeqno := by
    rw [seqno_rreqAnswer config found, reversal.seqno]
  have sends : ∃ created, rreqAnswer config rreq reversed =
        rrepSend config rreq.origAddr none rrepSize created ∧
      Creates ⟨false, false, 0, ipaddrOf config revRt.ifindex,
        answerSeqno reversed.seqno rreq.destSeqno, revRt.destAddr, 2 * activeRouteTimeout config,
        []⟩ reversed created := by
    unfold rreqAnswer
    rw [found]
    exact ⟨_, rfl, rfl, rfl, rfl, rfl, rfl⟩
  obtain ⟨created, sent, creates⟩ := sends
  refine (reversal.answered_iff foreign creates none rrepSize
    (.of_out (congrArg State.out sent))).trans (and_congr ?_ Iff.rfl)
  rw [number, ← interface]
  constructor
  · intro answers
    exact ⟨answers.destAddr, fun asked => (not_newer_answerSeqno_iff asked).mp
      (answers.fresh asked)⟩
  · rintro ⟨named, near⟩
    exact ⟨named, origin, by rw [reversal.seqno],
      fun asked => (not_newer_answerSeqno_iff asked).mpr (near asked)⟩

/-- The gratuitous RREP is one about the originator. -/
theorem emits_rreqGratuitousReply (foreign : rreq.destAddr ≠ rreq.origAddr) (lifetime : Nat)
    {state : State} (sound : state.rtTbl.Sound) :
    Emits (Datagram.Beside rreq own) state
      (rreqGratuitousReply config rreq lifetime state) := by
  unfold rreqGratuitousReply
  split
  · rename_i revRt fwdRt reverse forward
    refine .trans (.of_out rfl) (emits_rrepSend _ _ _ ?_ rfl
      (fun _ _ isRerr => Datagram.beside_of_rerr isRerr) ?_
      fun current numbered => beside_helloDatagram foreign current numbered)
    · exact sound
    · refine fun datagram carries => ⟨fun rrep isRrep answers => ?_, fun _ isRreq => ?_⟩
      · obtain rfl := AodvMsg.rrep.inj (carries.symm.trans isRrep)
        exact foreign ((answers.destAddr.symm).trans (entryAt_destAddr reverse))
      · exact AodvMsg.noConfusion (carries.symm.trans isRreq)
  · exact .refl _ _

theorem seqno_rreqGratuitousReply (config : Config) (rreq : Rreq) (lifetime : Nat) (state : State) :
    (rreqGratuitousReply config rreq lifetime state).seqno = state.seqno := by
  unfold rreqGratuitousReply
  split
  · exact (utters_rrepSend ..).seqno
  · rfl

/-- An intermediate node's reply answers a RREQ for one of its own addresses if its route happens
to have its own number. -/
theorem Reversal.answered_rreqReply_iff
    (reversal : Reversal config rreq ipSrc ifindex before reversed)
    (foreign : rreq.destAddr ≠ rreq.origAddr) {fwdRt : RtEntry}
    (found : reversedEntry rreq ipSrc ifindex before rreq.destAddr = some fwdRt)
    (may : rreqMayReply rreq fwdRt = true) :
    Answered rreq before (rreqReply config rreq fwdRt reversed) ↔
      (fwdRt.destSeqno = before.seqno ∧
        (rreq.destSeqno ≠ 0#32 → -2 ^ 31 ≤ signed rreq.destSeqno - signed before.seqno)) ∧
      before.waitOnReboot = false ∧
      (devIfindex config (reversedIfindex rreq ifindex before)).isSome = true ∧
      ¬ ReplyOverwritten config rreq ipSrc ifindex before := by
  have there : entryAt reversed rreq.destAddr = some fwdRt := (reversal.entries _).trans found
  have own := entryAt_destAddr there
  have upper : signed rreq.destSeqno ≤ signed fwdRt.destSeqno := by
    unfold rreqMayReply at may
    rw [Bool.and_eq_true, decide_eq_true_eq] at may
    exact may.2
  have sends : ∃ created, rreqReply config rreq fwdRt reversed =
        (if rreq.flags.gratuitous then
          rreqGratuitousReply config rreq (remainingLife reversed fwdRt.destAddr)
            (rrepSend config rreq.origAddr (some fwdRt.destAddr) rrepSize created)
        else rrepSend config rreq.origAddr (some fwdRt.destAddr) rrepSize created) ∧
      created.seqno = reversed.seqno ∧
      Creates ⟨false, false, fwdRt.hcnt, fwdRt.destAddr, fwdRt.destSeqno, rreq.origAddr,
        remainingLife reversed fwdRt.destAddr, []⟩ reversed created :=
    ⟨_, rfl, rfl, rfl, rfl, rfl, rfl, rfl⟩
  obtain ⟨created, sent, createdSeqno, creates⟩ := sends
  have number : (rreqReply config rreq fwdRt reversed).seqno = before.seqno := by
    have replied : (rrepSend config rreq.origAddr (some fwdRt.destAddr) rrepSize created).seqno =
        before.seqno := (utters_rrepSend ..).seqno.trans (createdSeqno.trans reversal.seqno)
    rw [sent]
    split
    · exact (seqno_rreqGratuitousReply ..).trans replied
    · exact replied
  have rest : Emits (Datagram.Beside rreq before.seqno)
      (rrepSend config rreq.origAddr (some fwdRt.destAddr) rrepSize created)
      (rreqReply config rreq fwdRt reversed) := by
    have sound : created.rtTbl.Sound := creates.rtTbl ▸ reversal.sound
    rw [sent]
    split
    · exact emits_rreqGratuitousReply foreign _ (sound.rrepSend config _ _ _)
    · exact .refl _ _
  rw [← number] at rest
  refine (reversal.answered_iff foreign creates _ _ rest).trans (and_congr ?_ Iff.rfl)
  rw [number]
  constructor
  · intro answers
    refine ⟨answers.destSeqno, fun asked => ?_⟩
    have fresh := answers.fresh asked
    rw [newer_iff] at fresh
    have same := answers.destSeqno
    dsimp only at same
    rw [same] at upper
    omega
  · rintro ⟨named, near⟩
    refine ⟨own, rfl, named, fun asked => ?_⟩
    have close := near asked
    rw [named] at upper
    rw [newer_iff]
    omega

/-- A RREQ that is passed on is not answered. -/
theorem Reversal.not_answered_rreqPassOn
    (reversal : Reversal config rreq ipSrc ifindex before reversed) (len : Nat) (ipTtl : Int)
    (fwdRt : Option RtEntry) :
    ¬ Answered rreq before (rreqPassOn config rreq len ipTtl fwdRt reversed) := by
  rintro ⟨⟨datagram, member, rrep, isRrep, _⟩, _⟩
  have passed : Emits (fun datagram => ∀ rrep, datagram.msg ≠ .rrep rrep) reversed
      (rreqPassOn config rreq len ipTtl fwdRt reversed) := by
    unfold rreqPassOn
    split
    · exact .trans (.of_out rfl) (emits_sendOnAll fun _ _ _ isRrep => AodvMsg.noConfusion isRrep)
    · exact .refl _ _
  rcases (mem_sentBetween_trans reversal.emits passed datagram).mp member with early | late
  · obtain ⟨rerr, isRerr, _⟩ := (reversal.emits.of_mem early).deletes
    exact AodvMsg.noConfusion (isRerr.symm.trans isRrep)
  · exact passed.of_mem late rrep isRrep

end

/-- In every state with a sound table, a node answers a new RREQ for one of its addresses, from
another originator, exactly if it is answerable. -/
theorem answered_rreqProcess_iff (config : Config) (rreq : Rreq) (len : Nat) (ipSrc : Addr)
    (ipTtl : Int) (ifindex : Nat) (dev : Dev) (state : State) (sound : state.rtTbl.Sound)
    (enabled : devIfindex config ifindex = some dev) (asked : rreq.destAddr ∈ ownAddrs config)
    (foreign : rreq.origAddr ∉ ownAddrs config) (wellFormed : rreqSize ≤ len)
    (welcome : rreqBlacklistFind state ipSrc = false)
    (new : rreqRecordFind state rreq.origAddr rreq.rreqId = false) :
    Answered rreq state (rreqProcess config rreq len ipSrc ipTtl ifindex state) ↔
      Answerable config rreq ipSrc ifindex state := by
  have different : rreq.destAddr ≠ rreq.origAddr := fun same => foreign (same ▸ asked)
  have other : rreq.origAddr ≠ ipaddrOf config ifindex := fun same =>
    foreign (same ▸ devIfindex_own enabled)
  have reversal := reversal_rreqReverse config sound rreq ipSrc ifindex
  unfold rreqProcess
  rw [if_neg other, if_neg (Nat.not_lt.mpr wellFormed), welcome, new, if_neg Bool.false_ne_true,
    if_neg Bool.false_ne_true]
  unfold rreqContinue
  by_cases here : rreq.destAddr = ipaddrOf config ifindex
  · rw [if_pos here, reversal.answered_rreqAnswer_iff different]
    constructor
    · rintro ⟨⟨named, near⟩, awake, attached, whole⟩
      exact ⟨awake, near, attached, whole, by rw [if_pos here]; exact named⟩
    · rintro ⟨awake, near, attached, whole, named⟩
      rw [if_pos here] at named
      exact ⟨⟨named, near⟩, awake, attached, whole⟩
  · rw [if_neg here, rtTableFind_eq_entryAt reversal.sound, reversal.entries]
    have unnamed (silent : ¬ ∃ fwdRt, reversedEntry rreq ipSrc ifindex state rreq.destAddr =
        some fwdRt ∧ rreqMayReply rreq fwdRt = true ∧ fwdRt.destSeqno = state.seqno) :
        ¬ Answerable config rreq ipSrc ifindex state := by
      intro answerable
      have named := answerable.named
      rw [if_neg here] at named
      exact silent named
    cases found : reversedEntry rreq ipSrc ifindex state rreq.destAddr with
    | none =>
      refine iff_of_false (reversal.not_answered_rreqPassOn len ipTtl none) (unnamed ?_)
      rintro ⟨fwdRt, there, _⟩
      exact nomatch found.symm.trans there
    | some fwdRt =>
      dsimp only
      split
      · rename_i may
        rw [reversal.answered_rreqReply_iff different found may]
        constructor
        · rintro ⟨⟨named, near⟩, awake, attached, whole⟩
          exact ⟨awake, near, attached, whole, by
            rw [if_neg here]; exact ⟨fwdRt, found, may, named⟩⟩
        · rintro ⟨awake, near, attached, whole, named⟩
          rw [if_neg here] at named
          obtain ⟨same, there, _, number⟩ := named
          obtain rfl := Option.some.inj (found.symm.trans there)
          exact ⟨⟨number, near⟩, awake, attached, whole⟩
      · rename_i may
        refine iff_of_false (reversal.not_answered_rreqPassOn len ipTtl (some fwdRt)) (unnamed ?_)
        rintro ⟨same, there, allowed, _⟩
        obtain rfl := Option.some.inj (found.symm.trans there)
        exact may allowed

/-- A relay after its wait on reboot. -/
def relayAwake : State := run relayConfig ⟨0, 0⟩ 0 [inputAt 20000 .timers]

/-- A RREQ of node 9 for an address of the relay. -/
def rreqForRelay (destAddr : Addr) : Rreq := ⟨.none, 0, 7#32, destAddr, 0#32, 9#32, 5#32, []⟩

theorem answered_rreqProcess_iff_relay :
    Answered (rreqForRelay 1#32) relayAwake
      (rreqProcess relayConfig (rreqForRelay 1#32) rreqSize 9#32 5 1 relayAwake) := by
  have sound : relayAwake.rtTbl.Sound := (atRest_run relayConfig ⟨0, 0⟩ 0 _).sound
  refine (answered_rreqProcess_iff relayConfig (rreqForRelay 1#32) rreqSize 9#32 5 1 loneDev
    relayAwake sound rfl (by decide) (by decide) le_rfl (by decide +kernel)
    (by decide +kernel)).mpr ?_
  refine ⟨by decide +kernel, fun asked => absurd rfl asked, by decide +kernel, ?_, by decide +kernel⟩
  rintro ⟨neighbor, ⟨revRt, found, asks, _⟩, _⟩
  have plain : (reversedEntry (rreqForRelay 1#32) 9#32 1 relayAwake 9#32).map
      (fun rt => rt.flags.unidir) = some false := by decide +kernel
  have unmarked : revRt.flags.unidir = false := by
    rw [show reversedEntry (rreqForRelay 1#32) 9#32 1 relayAwake 9#32 = some revRt from found,
      Option.map_some] at plain
    exact Option.some.inj plain
  rcases asks with ⟨_, marked⟩ | ⟨_, hack⟩
  · exact Bool.false_ne_true (unmarked.symm.trans marked)
  · exact absurd hack (by decide)

/-- A RREQ for the second address that arrives on the first interface is passed on. -/
theorem not_answered_relay :
    relayAwake.waitOnReboot = false ∧ devIfindex relayConfig 1 = some loneDev ∧
      0x101#32 ∈ ownAddrs relayConfig ∧ 9#32 ∉ ownAddrs relayConfig ∧
      rreqBlacklistFind relayAwake 9#32 = false ∧ rreqRecordFind relayAwake 9#32 7#32 = false ∧
      ¬ Answered (rreqForRelay 0x101#32) relayAwake
        (rreqProcess relayConfig (rreqForRelay 0x101#32) rreqSize 9#32 5 1 relayAwake) := by
  refine ⟨by decide +kernel, rfl, by decide, by decide, by decide +kernel, by decide +kernel, ?_⟩
  intro answered
  have passed : ∃ datagram ∈ sentBetween relayAwake (rreqProcess relayConfig
      (rreqForRelay 0x101#32) rreqSize 9#32 5 1 relayAwake),
      datagram.msg = .rreq { rreqForRelay 0x101#32 with hcnt := 1 } := by decide +kernel
  obtain ⟨datagram, member, isRreq⟩ := passed
  exact answered.kept datagram member _ isRreq

end Aodvd
