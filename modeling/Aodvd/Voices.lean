/-
This file follows the parts of a state that a node speaks with: its sequence number, the message in
its send buffer, the datagrams that left and the two rate limiters.

Whatever a function of the daemon does, it does one of three things to these parts: nothing, create
a message in the buffer, or hand the buffer to `aodv_socket_send`. A chain of such utterances says
what may be created on the way. Link breaks, route updates, neighbours and route errors create
nothing but RERRs and HELLOs.
-/

import Aodvd.Adverts
import Aodvd.ReplyRules
import Aodvd.SendBuffer

namespace Aodvd

/-! ### Utterances -/

/-- Nothing is said between two states. -/
structure SameVoice (before after : State) : Prop where
  now : after.now = before.now
  seqno : after.seqno = before.seqno
  rreqId : after.rreqId = before.rreqId
  sendBuf : after.sendBuf = before.sendBuf
  rreqRatel : after.rreqRatel = before.rreqRatel
  rerrRatel : after.rerrRatel = before.rerrRatel
  out : after.out = before.out

/-- One thing that a node does with what it speaks with. A creation changes the buffer and the
sequence number at most, as `creates` allows. -/
inductive Utter (config : Config) (creates : State → State → Prop) : State → State → Prop
  | silent {before after : State} (same : SameVoice before after) : Utter config creates before after
  | create {before after : State} (now : after.now = before.now)
      (rreqRatel : after.rreqRatel = before.rreqRatel)
      (rerrRatel : after.rerrRatel = before.rerrRatel) (out : after.out = before.out)
      (may : creates before after) : Utter config creates before after
  | send (state : State) (dst : Addr) (len : Nat) (ttl : Int) (dev : Option Dev) :
      Utter config creates state (aodvSocketSend config dst len ttl dev state)

/-- A chain of utterances. -/
abbrev Utters (config : Config) (creates : State → State → Prop) : State → State → Prop :=
  Relation.ReflTransGen (Utter config creates)

/-- A RERR or a HELLO is created. -/
def Notice (before after : State) : Prop :=
  after.seqno = before.seqno ∧ after.rreqId = before.rreqId ∧
    ((∃ rerr, after.sendBuf = .rerr rerr) ∨
      ∃ rrep, after.sendBuf = .rrep rrep ∧ rrep.destSeqno = before.seqno)

section

variable {config : Config} {creates : State → State → Prop} {before after state : State}

theorem SameVoice.utters (same : SameVoice before after) : Utters config creates before after :=
  .single (.silent same)

theorem Utters.mono {more : State → State → Prop} (utters : Utters config creates before after)
    (weaker : ∀ before after, creates before after → more before after) :
    Utters config more before after := by
  refine Relation.ReflTransGen.mono (fun _ _ utter => ?_) _ _ utters
  cases utter with
  | silent same => exact .silent same
  | create now rreqRatel rerrRatel out may =>
    exact .create now rreqRatel rerrRatel out (weaker _ _ may)
  | send dst len ttl dev => exact .send _ dst len ttl dev

/-- What every utterance keeps, a chain keeps. -/
theorem Utters.invariant {motive : State → Prop} (utters : Utters config creates before after)
    (each : ∀ {before after}, Utter config creates before after → motive before → motive after)
    (holds : motive before) : motive after := by
  induction utters with
  | refl => exact holds
  | tail _ last inductionHypothesis => exact each last inductionHypothesis

theorem TimerActs.sameVoice (acts : TimerActs before after) : SameVoice before after := by
  obtain ⟨timers, rfl⟩ := acts.same
  constructor <;> rfl

theorem utters_send (config : Config) (creates : State → State → Prop) (dst : Addr) (len : Nat)
    (ttl : Int) (dev : Option Dev) (state : State) :
    Utters config creates state (aodvSocketSend config dst len ttl dev state) :=
  .single (.send ..)

theorem Utters.now (utters : Utters config creates before after) : after.now = before.now := by
  refine utters.invariant (motive := fun state => state.now = before.now) ?_ rfl
  rintro first second utter kept
  cases utter with
  | silent same => exact same.now.trans kept
  | create now => exact now.trans kept
  | send dst len ttl dev => exact (aside_aodvSocketSend config dst len ttl dev _).now.trans kept

/-- Errors and HELLOs leave the sequence number of a node alone. -/
theorem Utters.seqno (utters : Utters config Notice before after) : after.seqno = before.seqno := by
  refine utters.invariant (motive := fun state => state.seqno = before.seqno) ?_ rfl
  rintro first second utter kept
  cases utter with
  | silent same => exact same.seqno.trans kept
  | create _ _ _ _ may => exact may.1.trans kept
  | send dst len ttl dev => exact (numbers_aodvSocketSend config dst len ttl dev _).2.trans kept

/-! ### Sending -/

theorem utters_sendOnAll (config : Config) (creates : State → State → Prop) (len : Nat) (ttl : Int)
    (state : State) : Utters config creates state (sendOnAll config len ttl state) := by
  unfold sendOnAll
  refine List.foldlRecOn config.devs _ (motive := Utters config creates state) .refl ?_
  intro current before dev _
  exact before.trans (utters_send ..)

theorem utters_sendAlong (config : Config) (creates : State → State → Prop) (revDest : Addr)
    (size : Nat) (ttl : Int) (state : State) :
    Utters config creates state (sendAlong config revDest size ttl state) := by
  unfold sendAlong
  split
  · exact .refl
  · exact utters_send ..

/-- A message is created in the send buffer. -/
theorem utters_buffer (config : Config) {state : State} {msg : AodvMsg}
    (may : creates state { state with sendBuf := msg }) :
    Utters config creates state { state with sendBuf := msg } :=
  .single (.create rfl rfl rfl rfl may)

theorem utters_rerr (config : Config) (state : State) (rerr : Rerr) :
    Utters config Notice state { state with sendBuf := .rerr rerr } :=
  utters_buffer config ⟨rfl, rfl, .inl ⟨rerr, rfl⟩⟩

theorem utters_helloSend (config : Config) (state : State) :
    Utters config Notice state (helloSend config state) := by
  have all : Utters config Notice state (helloSendAll config state) := by
    unfold helloSendAll
    refine List.foldlRecOn config.devs.zipIdx _ (motive := Utters config Notice state) .refl ?_
    intro current before numbered _
    have created : Utters config Notice current
        (helloCreate config numbered.2 numbered.1 current) :=
      utters_buffer config ⟨rfl, rfl, .inr ⟨_, rfl, rfl⟩⟩
    exact (before.trans created).trans (utters_send ..)
  unfold helloSend
  split
  · exact SameVoice.utters (by constructor <;> rfl)
  · dsimp only
    split
    · exact all.trans (SameVoice.utters (by constructor <;> rfl))
    · split <;> exact SameVoice.utters (by constructor <;> rfl)

theorem utters_helloStart (config : Config) (state : State) :
    Utters config Notice state (helloStart config state) := by
  unfold helloStart
  split
  · exact .refl
  · have started : SameVoice state { state with fwdTime := state.now } := by constructor <;> rfl
    exact started.utters.trans
      ((SameVoice.utters (by constructor <;> rfl)).trans (utters_helloSend config _))

theorem utters_helloOnDemand (config : Config) (state : State) :
    Utters config Notice state (helloOnDemand config state) := by
  unfold helloOnDemand
  split
  · exact utters_helloStart config state
  · exact .refl

/-! ### Link breaks -/

theorem utters_rerrInclude (config : Config) (noDelete : Bool) (rt : RtEntry) (draft : RerrDraft)
    (state : State) : Utters config Notice state (rerrInclude noDelete rt draft state).1 := by
  unfold rerrInclude
  split
  · show Utters config Notice state (rerrAddUdest rt.destAddr rt.destSeqno state)
    unfold rerrAddUdest
    split
    · exact utters_rerr ..
    · exact .refl
  · exact utters_rerr ..

theorem utters_rerrSend (config : Config) (creates : State → State → Prop) (draft : RerrDraft)
    (state : State) : Utters config creates state (rerrSend config draft state) := by
  unfold rerrSend
  split
  · dsimp only
    split
    · split
      · exact utters_send ..
      · split
        · exact utters_sendOnAll ..
        · exact .refl
    · split
      · exact utters_sendOnAll ..
      · exact .refl
  · exact .refl

theorem ReportAct.utters {config : Config} {before after : State}
    (act : ReportAct config before after) : Utters config Notice before after := by
  cases act with
  | draft rerr => exact utters_rerr config before rerr
  | send dst len ttl dev => exact utters_send config Notice dst len ttl dev before

/-- The operations on the routing tables say nothing but RERRs. -/
theorem utters_ruled (config : Config) (start : State) :
    ReleaseRule config True (Utters config Notice start) :=
  .of_ignored (fun _ _ _ _ _ _ _ utters => utters.tail (.silent (by constructor <;> rfl)))
    fun utters act => utters.trans act.utters

theorem utters_neighborLinkBreak (config : Config) (dest : Addr) (state : State) :
    Utters config Notice state (neighborLinkBreak config dest state) :=
  (utters_ruled config state).neighborLinkBreak .refl dest

/-! ### Routes -/

theorem utters_rtTableInsert (config : Config) (offer : Offer) (state : State) :
    Utters config Notice state (rtTableInsert config offer state).1 :=
  (utters_ruled config state).rtTableInsert_of_new .refl (SameVoice.utters (by constructor <;> rfl))

theorem utters_rtTableUpdate (config : Config) (offer : Offer) (state : State) :
    Utters config Notice state (rtTableUpdate config offer state) :=
  (utters_ruled config state).rtTableUpdate .refl offer

/-! ### HELLOs and neighbours -/

theorem utters_helloProcess (config : Config) (hello : Rrep) (len ifindex : Nat) (state : State) :
    Utters config Notice state (helloProcess config hello len ifindex state) := by
  unfold helloProcess
  dsimp only
  split
  · exact (utters_rtTableInsert ..).trans (SameVoice.utters (by constructor <;> rfl))
  · split
    · exact SameVoice.utters (by constructor <;> rfl)
    · split
      · exact SameVoice.utters (by constructor <;> rfl)
      · exact (utters_rtTableUpdate ..).trans (SameVoice.utters (by constructor <;> rfl))

theorem utters_neighborAdd (config : Config) (source : Addr) (ifindex : Nat) (state : State) :
    Utters config Notice state (neighborAdd config source ifindex state) := by
  have heard (state : State) : Utters config Notice state (neighborHeard config source state) := by
    unfold neighborHeard
    split
    · exact SameVoice.utters (by constructor <;> rfl)
    · exact .refl
  unfold neighborAdd
  split
  · exact (utters_rtTableInsert ..).trans (heard _)
  · split
    · exact .refl
    · exact (utters_rtTableUpdate ..).trans (heard _)

/-! ### Replies -/

theorem utters_rrepRequestAck (config : Config) (revRt : RtEntry) (state : State) :
    Utters config Notice state (rrepRequestAck config revRt state) := by
  unfold rrepRequestAck
  split
  · split
    · exact .refl
    · rename_i neighbor _
      split
      · have marked : SameVoice state (removeTimer (.helloTimer neighbor.destAddr)
            (setEntry neighbor.destAddr RtEntry.markUnidir state)) := by constructor <;> rfl
        exact (marked.utters.trans (utters_neighborLinkBreak ..)).trans
          (SameVoice.utters (by constructor <;> rfl))
      · exact .refl
  · exact .refl

theorem sameVoice_updatePrecursors (fwdDest revDest : Addr) (state : State) :
    SameVoice state (updatePrecursors fwdDest revDest state) := by
  unfold updatePrecursors
  split <;> constructor <;> rfl

theorem utters_rrepSend (config : Config) (revDest : Addr) (fwdDest : Option Addr) (size : Nat)
    (state : State) : Utters config Notice state (rrepSend config revDest fwdDest size state) := by
  unfold rrepSend
  split
  · exact .refl
  · rename_i revRt _
    have sent : Utters config Notice state (sendAlong config revDest size maxTtl
        (rrepRequestAck config revRt state)) :=
      (utters_rrepRequestAck config revRt state).trans (utters_sendAlong ..)
    dsimp only
    refine Relation.ReflTransGen.trans ?_ (utters_helloOnDemand config _)
    split
    · exact sent
    · exact sent.trans (sameVoice_updatePrecursors ..).utters

/-! ### Route errors -/

theorem utters_rerrVisit (config : Config) (noDelete : Bool) (ipSrc : Addr)
    (loop : State × RerrDraft) (udest : Addr × Seqno) :
    Utters config Notice loop.1 (rerrVisit config noDelete ipSrc loop udest).1 := by
  by_cases hits : ∃ rt, rtTableFind loop.1 udest.1 = some rt ∧ rt.state = .valid ∧
      rt.nextHop = ipSrc
  · obtain ⟨rt, found, hit⟩ := hits
    obtain ⟨included, writes, result⟩ := rerrVisit_hit config noDelete found hit
    have invalidated : Utters config Notice loop.1
        (rerrInvalidate config noDelete rt.destAddr udest.2 loop.1) :=
      (utters_ruled config loop.1).rerrInvalidate .refl noDelete rt.destAddr udest.2
    have written : Utters config Notice loop.1 included.1 := by
      rcases writes with rfl | ⟨current, rfl⟩
      · exact invalidated
      · exact invalidated.trans (utters_rerrInclude ..)
    rcases result with same | dropped
    · rw [same]
      exact written
    · rw [dropped]
      exact written.trans (SameVoice.utters (by constructor <;> rfl))
  · rw [rerrVisit_miss config noDelete fun rt found hit => hits ⟨rt, found, hit⟩]

theorem utters_rerrProcess (config : Config) (rerr : Rerr) (len : Nat) (ipSrc : Addr)
    (state : State) : Utters config Notice state (rerrProcess config rerr len ipSrc state) := by
  unfold rerrProcess
  split
  · exact .refl
  · refine Relation.ReflTransGen.trans ?_ (utters_rerrSend config Notice _ _)
    refine List.foldlRecOn _ _
      (motive := fun loop : State × RerrDraft => Utters config Notice state loop.1) .refl ?_
    intro loop before udest _
    exact before.trans (utters_rerrVisit ..)

/-! ### Requests -/

theorem sameVoice_rreqRecordInsert (origAddr : Addr) (rreqId : BitVec 32) (state : State) :
    SameVoice state (rreqRecordInsert origAddr rreqId state) := by
  unfold rreqRecordInsert
  split <;> constructor <;> rfl

theorem utters_rreqReverse (config : Config) (rreq : Rreq) (ipSrc : Addr) (ifindex : Nat)
    (state : State) :
    Utters config Notice state (rreqReverse config rreq ipSrc ifindex state) := by
  unfold rreqReverse
  split
  · exact utters_rtTableInsert ..
  · split
    · exact utters_rtTableUpdate ..
    · exact .refl

end

end Aodvd
