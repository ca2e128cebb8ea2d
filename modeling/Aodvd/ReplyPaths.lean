/-
This file follows the RREPs of `rreq_process` to the moments at which they leave, and asks whether
the routes they go along are valid then.

A handover is such a moment: `rrep_send` has made its check for a unidirectional link, and calls
`aodv_socket_send`. The reverse route may be invalid because an old RREQ does not renew it, and the
check may break the very link. The gratuitous RREP follows on the table that the reply has left,
where both routes have precursors: if its link is broken too, a RERR takes its place.
-/

import Aodvd.ReverseRoutes

namespace Aodvd

/-! ### Handovers -/

/-- A moment at which `rrep_send` hands the send buffer over, and the route it goes along. -/
structure Handover where
  state : State
  route : Addr

/-- The handover of `rrep_send`. -/
def rrepSendHandovers (config : Config) (revDest : Addr) (state : State) : List Handover :=
  match entryAt state revDest with
  | none => []
  | some revRt => [⟨rrepRequestAck config revRt state, revDest⟩]

/-- The handovers of `rreqAnswer`. -/
def rreqAnswerHandovers (config : Config) (rreq : Rreq) (state : State) : List Handover :=
  match entryAt state rreq.origAddr with
  | none => []
  | some revRt =>
    let state := { state with seqno := answerSeqno state.seqno rreq.destSeqno }
    rrepSendHandovers config rreq.origAddr
      (rrepCreate 0 (ipaddrOf config revRt.ifindex) state.seqno revRt.destAddr
        (2 * activeRouteTimeout config) state)

/-- The handovers of `rreqGratuitousReply`. -/
def rreqGratuitousHandovers (config : Config) (rreq : Rreq) (lifetime : Nat) (state : State) :
    List Handover :=
  match entryAt state rreq.origAddr, entryAt state rreq.destAddr with
  | some revRt, some fwdRt =>
    rrepSendHandovers config rreq.destAddr
      (rrepCreate revRt.hcnt revRt.destAddr revRt.destSeqno fwdRt.destAddr lifetime state)
  | _, _ => []

/-- The handovers of `rreqReply`. -/
def rreqReplyHandovers (config : Config) (rreq : Rreq) (fwdRt : RtEntry) (state : State) :
    List Handover :=
  let lifetime := remainingLife state fwdRt.destAddr
  let created := rrepCreate fwdRt.hcnt fwdRt.destAddr fwdRt.destSeqno rreq.origAddr lifetime state
  rrepSendHandovers config rreq.origAddr created ++
    if rreq.flags.gratuitous then
      rreqGratuitousHandovers config rreq lifetime
        (rrepSend config rreq.origAddr (some fwdRt.destAddr) rrepSize created)
    else []

/-- The handovers of `rreqContinue`. -/
def rreqContinueHandovers (config : Config) (rreq : Rreq) (ifindex : Nat) (state : State) :
    List Handover :=
  if rreq.destAddr = ipaddrOf config ifindex then rreqAnswerHandovers config rreq state
  else
    match rtTableFind state rreq.destAddr with
    | none => []
    | some fwdRt => if rreqMayReply rreq fwdRt then rreqReplyHandovers config rreq fwdRt state else []

/-- The handovers of `rreqProcess`. -/
def rreqProcessHandovers (config : Config) (rreq : Rreq) (len : Nat) (ipSrc : Addr) (ifindex : Nat)
    (state : State) : List Handover :=
  if rreq.origAddr = ipaddrOf config ifindex then []
  else if len < rreqSize then []
  else if rreqBlacklistFind state ipSrc then []
  else if rreqRecordFind state rreq.origAddr rreq.rreqId then []
  else
    rreqContinueHandovers config rreq ifindex
      (rreqReverse config rreq ipSrc ifindex
        (rreqRecordInsert rreq.origAddr rreq.rreqId state))

/-- The datagrams that leave at a handover. -/
def Handover.sent (config : Config) (handover : Handover) : List Datagram :=
  sentBetween handover.state (sendAlong config handover.route rrepSize maxTtl handover.state)

/-- A RREP that leaves at a handover goes along a valid route. -/
def Handover.OnValid (config : Config) (handover : Handover) : Prop :=
  ∀ datagram ∈ handover.sent config, ∀ rrep, datagram.msg = .rrep rrep →
    ∃ rt, entryAt handover.state handover.route = some rt ∧ rt.state = .valid

/-- The datagram is no RREP, or a HELLO, or leaves at one of the handovers. -/
def Datagram.HandedOver (config : Config) (handovers : List Handover) (datagram : Datagram) :
    Prop :=
  ∀ rrep, datagram.msg = .rrep rrep →
    (∃ current numbered, datagram = helloDatagram config current numbered) ∨
      ∃ handover ∈ handovers, datagram ∈ handover.sent config

/-- Every RREP of `rreq_process` leaves at a handover, and goes along a valid route. -/
structure RepliesOnValid (config : Config) (rreq : Rreq) (len : Nat) (ipSrc : Addr) (ipTtl : Int)
    (ifindex : Nat) (state : State) : Prop where
  handed : Emits (Datagram.HandedOver config
    (rreqProcessHandovers config rreq len ipSrc ifindex state)) state
    (rreqProcess config rreq len ipSrc ipTtl ifindex state)
  valid : ∀ handover ∈ rreqProcessHandovers config rreq len ipSrc ifindex state,
    handover.OnValid config

/-! ### Every RREP leaves at a handover -/

section

variable {config : Config} {state : State} {rreq : Rreq}

theorem handedOver_of_ne_rrep {handovers : List Handover} {datagram : Datagram}
    (other : ∀ rrep, datagram.msg ≠ .rrep rrep) : datagram.HandedOver config handovers :=
  fun rrep isRrep => absurd isRrep (other rrep)

theorem Emits.handed {before after : State} (handovers : List Handover)
    (emits : Emits (Reports config) before after) :
    Emits (Datagram.HandedOver config handovers) before after := by
  refine emits.mono fun datagram reports => handedOver_of_ne_rrep fun rrep isRrep => ?_
  obtain ⟨rerr, isRerr, _⟩ := reports.deletes
  exact AodvMsg.noConfusion (isRerr.symm.trans isRrep)

theorem handed_rrepSend (config : Config) (revDest : Addr) (fwdDest : Option Addr) {before : State}
    (out : state.out = before.out) (sound : state.rtTbl.Sound) :
    Emits (Datagram.HandedOver config (rrepSendHandovers config revDest state)) before
      (rrepSend config revDest fwdDest rrepSize state) := by
  refine .trans (.of_out out) ?_
  unfold rrepSendHandovers
  cases found : entryAt state revDest with
  | none =>
    rw [rrepSend, found]
    exact .refl _ _
  | some revRt =>
    let handover : Handover := ⟨rrepRequestAck config revRt state, revDest⟩
    have sent : Emits (Datagram.HandedOver config [handover]) (rrepRequestAck config revRt state)
        (sendAlong config revDest rrepSize maxTtl (rrepRequestAck config revRt state)) := by
      obtain ⟨datagrams, out, _⟩ := emits_sendAlong config revDest rrepSize maxTtl
        (rrepRequestAck config revRt state)
      refine ⟨datagrams, out, fun datagram member _ _ => .inr ⟨handover, List.mem_cons_self, ?_⟩⟩
      rw [Handover.sent, sentBetween_of_out out]
      exact member
    exact (((emits_rrepRequestAck config revRt sound).handed _).trans sent).trans
      (emits_rrepSend_rest fwdDest rrepSize found fun current numbered _ _ =>
        .inl ⟨current, numbered, rfl⟩)

theorem Emits.handed_mono {before after : State} {some more : List Handover}
    (emits : Emits (Datagram.HandedOver config some) before after) (sublist : some ⊆ more) :
    Emits (Datagram.HandedOver config more) before after := by
  refine emits.mono fun datagram handed rrep isRrep => (handed rrep isRrep).imp id ?_
  rintro ⟨handover, member, here⟩
  exact ⟨handover, sublist member, here⟩

theorem handed_rreqAnswer (sound : state.rtTbl.Sound) :
    Emits (Datagram.HandedOver config (rreqAnswerHandovers config rreq state)) state
      (rreqAnswer config rreq state) := by
  unfold rreqAnswerHandovers rreqAnswer
  cases entryAt state rreq.origAddr with
  | none => exact .refl _ _
  | some revRt => exact handed_rrepSend config _ _ rfl sound

theorem handed_rreqGratuitousReply (lifetime : Nat) (sound : state.rtTbl.Sound) :
    Emits (Datagram.HandedOver config (rreqGratuitousHandovers config rreq lifetime state)) state
      (rreqGratuitousReply config rreq lifetime state) := by
  unfold rreqGratuitousHandovers rreqGratuitousReply
  cases entryAt state rreq.origAddr with
  | none => exact .refl _ _
  | some revRt =>
    cases entryAt state rreq.destAddr with
    | none => exact .refl _ _
    | some fwdRt => exact handed_rrepSend config _ _ rfl sound

theorem handed_rreqReply (fwdRt : RtEntry) (sound : state.rtTbl.Sound) :
    Emits (Datagram.HandedOver config (rreqReplyHandovers config rreq fwdRt state)) state
      (rreqReply config rreq fwdRt state) := by
  unfold rreqReplyHandovers rreqReply
  dsimp only
  generalize creates : rrepCreate fwdRt.hcnt fwdRt.destAddr fwdRt.destSeqno rreq.origAddr
    (remainingLife state fwdRt.destAddr) state = created
  have out : created.out = state.out := by
    rw [← creates]
    rfl
  have createdSound : created.rtTbl.Sound := by
    rw [← creates]
    exact sound
  have replied := handed_rrepSend config rreq.origAddr (some fwdRt.destAddr) out createdSound
  split
  · exact (replied.handed_mono (List.subset_append_left _ _)).trans
      ((handed_rreqGratuitousReply _ (createdSound.rrepSend config _ _ _)).handed_mono
        (List.subset_append_right _ _))
  · exact replied.handed_mono (List.subset_append_left _ _)

theorem handed_rreqPassOn (handovers : List Handover) (len : Nat) (ipTtl : Int)
    (fwdRt : Option RtEntry) :
    Emits (Datagram.HandedOver config handovers) state
      (rreqPassOn config rreq len ipTtl fwdRt state) := by
  unfold rreqPassOn
  split
  · exact .trans (.of_out rfl) (emits_sendOnAll fun _ _ =>
      handedOver_of_ne_rrep fun _ isRrep => AodvMsg.noConfusion isRrep)
  · exact .refl _ _

theorem handed_rreqContinue (len : Nat) (ipTtl : Int) (ifindex : Nat) (sound : state.rtTbl.Sound) :
    Emits (Datagram.HandedOver config (rreqContinueHandovers config rreq ifindex state)) state
      (rreqContinue config rreq len ipTtl ifindex state) := by
  unfold rreqContinueHandovers rreqContinue
  split
  · exact handed_rreqAnswer sound
  · cases rtTableFind state rreq.destAddr with
    | none => exact handed_rreqPassOn _ _ _ _
    | some fwdRt =>
      dsimp only
      split
      · exact handed_rreqReply fwdRt sound
      · exact handed_rreqPassOn _ _ _ _

theorem handed_rreqProcess (len : Nat) (ipSrc : Addr) (ipTtl : Int) (ifindex : Nat)
    (sound : state.rtTbl.Sound) :
    Emits (Datagram.HandedOver config (rreqProcessHandovers config rreq len ipSrc ifindex state))
      state (rreqProcess config rreq len ipSrc ipTtl ifindex state) := by
  have reversal := reversal_rreqReverse config sound rreq ipSrc ifindex
  unfold rreqProcessHandovers rreqProcess
  split
  · exact .refl _ _
  · split
    · exact .refl _ _
    · split
      · exact .refl _ _
      · split
        · exact .refl _ _
        · exact (reversal.emits.handed _).trans (handed_rreqContinue len ipTtl ifindex reversal.sound)

end

/-! ### Valid routes -/

/-- Where the RREP that `rrep_send` sends along a route leaves, the route is valid and the check for
a unidirectional link does not break the link to its next hop. -/
def LeavesValid (config : Config) (route : Addr) (state : State) : Prop :=
  ∀ rt, entryAt state route = some rt → state.waitOnReboot = false →
    (devIfindex config rt.ifindex).isSome = true → ¬ BreaksReported config route state →
    rt.state = .valid ∧ ∀ neighbor, suspected config rt state = some neighbor → neighbor.hcnt ≠ 1

section

variable {config : Config} {state : State} {revDest : Addr} {revRt : RtEntry}

/-- The check leaves a route valid exactly if it was, and the link to its next hop is not broken. -/
theorem valid_rrepRequestAck_iff (sound : state.rtTbl.Sound)
    (found : entryAt state revDest = some revRt) :
    (∃ rt, entryAt (rrepRequestAck config revRt state) revDest = some rt ∧ rt.state = .valid) ↔
      revRt.state = .valid ∧
        ∀ neighbor, suspected config revRt state = some neighbor → neighbor.hcnt ≠ 1 := by
  obtain ⟨marked, either, entry⟩ := rrepRequestAck_entry config revRt sound found
  have same : marked.state = revRt.state ∧ marked.nextHop = revRt.nextHop := by
    rcases either with rfl | rfl
    · exact ⟨rfl, rfl⟩
    · exact ⟨rfl, rfl⟩
  rcases entry with ⟨neighbor, suspects, near, there⟩ | ⟨far, there⟩
  · have hop := entryAt_destAddr (suspected_eq_some_iff.mp suspects).2.1
    rw [there]
    refine iff_of_false ?_ fun both => both.2 neighbor suspects near
    rintro ⟨rt, isRt, valid⟩
    obtain rfl := Option.some.inj isRt
    obtain ⟨different, unused⟩ := RtEntry.cut_valid valid
    rw [RtEntry.cut_eq_self _ different unused] at valid
    exact unused ⟨valid, same.2.trans hop.symm⟩
  · rw [there]
    constructor
    · rintro ⟨rt, isRt, valid⟩
      obtain rfl := Option.some.inj isRt
      exact ⟨same.1.symm.trans valid, far⟩
    · rintro ⟨valid, _⟩
      exact ⟨marked, rfl, same.1.trans valid⟩

/-- The RREP of `rrep_send` goes along a valid route. -/
theorem onValid_rrepSend_iff {rrep : Rrep} (sound : state.rtTbl.Sound)
    (found : entryAt state revDest = some revRt) (holds : state.sendBuf = .rrep rrep) :
    (∀ handover ∈ rrepSendHandovers config revDest state, handover.OnValid config) ↔
      LeavesValid config revDest state := by
  have standing : _ ↔ _ ∧ ∀ neighbor, suspected config revRt state = some neighbor → _ :=
    valid_rrepRequestAck_iff sound found
  have buffer := sendBuf_rrepRequestAck_iff config sound found holds
  have waits : (rrepRequestAck config revRt state).waitOnReboot = state.waitOnReboot :=
    sameWait_rrepRequestAck config revRt sound
  obtain ⟨asked, there, ifindex⟩ := ifindex_rrepRequestAck config revRt sound found
  rw [rrepSendHandovers, found]
  simp only [LeavesValid, List.mem_singleton, forall_eq, found, Option.some.injEq, forall_eq']
  constructor
  · intro onValid awake attached unreported
    obtain ⟨dev, enabled⟩ := Option.isSome_iff_exists.mp attached
    refine standing.mp
      (onValid ⟨dev.ipaddr, asked.nextHop, maxTtl, rrepSize, .rrep rrep⟩ ?_ rrep rfl)
    rw [Handover.sent, sentBetween_of_out
      (out_sendAlong_rrep config rrepSize there (buffer.mpr unreported)), waits, awake, ifindex,
      enabled]
    exact List.mem_cons_self
  · intro leaves datagram sent other isRrep
    have carries : datagram.msg = (rrepRequestAck config revRt state).sendBuf :=
      (emits_sendAlong config revDest rrepSize maxTtl _).of_mem sent
    have kept : (rrepRequestAck config revRt state).sendBuf = .rrep rrep := by
      rcases sendBuf_rrepRequestAck revRt sound with same | ⟨rerr, overwritten⟩
      · exact same.trans holds
      · exact AodvMsg.noConfusion (overwritten.symm.trans (carries.symm.trans isRrep))
    rw [Handover.sent, sentBetween_of_out (out_sendAlong_rrep config rrepSize there kept), waits,
      ifindex] at sent
    refine standing.mpr (leaves ?_ ?_ (buffer.mp kept))
    · cases awake : state.waitOnReboot with
      | false => rfl
      | true =>
        rw [awake, if_pos rfl] at sent
        exact absurd sent List.not_mem_nil
    · cases enabled : devIfindex config revRt.ifindex with
      | some dev => rfl
      | none =>
        rw [enabled, Option.toList_none, List.map_nil, ite_self] at sent
        exact absurd sent List.not_mem_nil

end

/-! ### Replies -/

/-- A RREQ passes the checks at the head of `rreq_process`. -/
structure RreqTaken (config : Config) (rreq : Rreq) (len : Nat) (ipSrc : Addr) (ifindex : Nat)
    (state : State) : Prop where
  notOwn : rreq.origAddr ≠ ipaddrOf config ifindex
  long : rreqSize ≤ len
  unlisted : rreqBlacklistFind state ipSrc = false
  unseen : rreqRecordFind state rreq.origAddr rreq.rreqId = false

/-- Where the reply to a RREQ leaves, the reverse route is valid and the link to its next hop is not
broken, read off the state before the RREQ. -/
def ReplyLeavesValid (config : Config) (rreq : Rreq) (ipSrc : Addr) (ifindex : Nat)
    (state : State) : Prop :=
  state.waitOnReboot = false →
    (devIfindex config (reversedIfindex rreq ifindex state)).isSome = true →
    ¬ ReplyOverwritten config rreq ipSrc ifindex state →
    (∀ revRt, reversedEntry rreq ipSrc ifindex state rreq.origAddr = some revRt →
      revRt.state = .valid) ∧
      ∀ neighbor, ¬ ReplySuspects config rreq ipSrc ifindex state neighbor

/-- The replies to a RREQ leave along valid routes: the reply itself, where the node answers the
RREQ, and the gratuitous RREP, along the route that the reply has left. -/
structure RepliesSafe (config : Config) (rreq : Rreq) (ipSrc : Addr) (ifindex : Nat)
    (state : State) : Prop where
  reply : (rreq.destAddr = ipaddrOf config ifindex ∨ ∃ fwdRt,
      reversedEntry rreq ipSrc ifindex state rreq.destAddr = some fwdRt ∧
        rreqMayReply rreq fwdRt = true) →
    ReplyLeavesValid config rreq ipSrc ifindex state
  gratuitous : rreq.destAddr ≠ ipaddrOf config ifindex → rreq.flags.gratuitous = true →
    ∀ fwdRt, reversedEntry rreq ipSrc ifindex state rreq.destAddr = some fwdRt →
      rreqMayReply rreq fwdRt = true →
      LeavesValid config rreq.destAddr (repliedState config rreq fwdRt
        (rreqReverse config rreq ipSrc ifindex (rreqRecordInsert rreq.origAddr rreq.rreqId state)))

section

variable {config : Config} {rreq : Rreq} {ipSrc : Addr} {ifindex : Nat}
  {before reversed : State}

/-- The reply itself goes along the reverse route. -/
theorem Reversal.onValid_reply_iff (reversal : Reversal config rreq ipSrc ifindex before reversed)
    {created : State} {rrep : Rrep} (creates : Creates rrep reversed created) :
    (∀ handover ∈ rrepSendHandovers config rreq.origAddr created, handover.OnValid config) ↔
      ReplyLeavesValid config rreq ipSrc ifindex before := by
  obtain ⟨revRt, there, _, ownIfindex⟩ := reversedEntry_origin rreq ipSrc ifindex before
  have found := (reversal.created_entries creates.rtTbl rreq.origAddr).trans there
  have waits : created.waitOnReboot = before.waitOnReboot :=
    creates.waitOnReboot.trans reversal.waits
  have suspects (neighbor : RtEntry) : suspected config revRt created = some neighbor ∧
      neighbor.hcnt = 1 ↔ ReplySuspects config rreq ipSrc ifindex before neighbor := by
    rw [← reversal.suspects_iff creates.rtTbl creates.timers neighbor]
    simp only [found, Option.some.injEq, exists_eq_left']
  rw [onValid_rrepSend_iff (creates.rtTbl ▸ reversal.sound) found creates.sendBuf]
  simp only [LeavesValid, ReplyLeavesValid, found, there, Option.some.injEq, forall_eq', waits,
    ownIfindex, reversal.breaksReported_iff creates.rtTbl creates.timers, ← suspects, not_and]

theorem Reversal.onValid_rreqAnswer_iff
    (reversal : Reversal config rreq ipSrc ifindex before reversed) :
    (∀ handover ∈ rreqAnswerHandovers config rreq reversed, handover.OnValid config) ↔
      ReplyLeavesValid config rreq ipSrc ifindex before := by
  obtain ⟨revRt, there, _, _⟩ := reversedEntry_origin rreq ipSrc ifindex before
  rw [rreqAnswerHandovers, (reversal.entries rreq.origAddr).trans there]
  exact reversal.onValid_reply_iff (creates_rrepCreate ..)

/-- The gratuitous RREP goes along the route to the destination. -/
theorem onValid_rreqGratuitous_iff {state : State} (lifetime : Nat) (sound : state.rtTbl.Sound)
    {revRt : RtEntry} (reverse : entryAt state rreq.origAddr = some revRt) :
    (∀ handover ∈ rreqGratuitousHandovers config rreq lifetime state, handover.OnValid config) ↔
      LeavesValid config rreq.destAddr state := by
  unfold rreqGratuitousHandovers
  rw [reverse]
  cases forward : entryAt state rreq.destAddr with
  | none =>
    refine iff_of_true (fun _ member => absurd member List.not_mem_nil) fun rt found => ?_
    exact absurd (found.symm.trans forward) (Option.some_ne_none _)
  | some fwdRt =>
    let created := rrepCreate revRt.hcnt revRt.destAddr revRt.destSeqno fwdRt.destAddr lifetime state
    have there : entryAt created rreq.destAddr = some fwdRt := forward
    exact onValid_rrepSend_iff sound there rfl

theorem Reversal.onValid_rreqReply_iff
    (reversal : Reversal config rreq ipSrc ifindex before reversed) (fwdRt : RtEntry) :
    (∀ handover ∈ rreqReplyHandovers config rreq fwdRt reversed, handover.OnValid config) ↔
      ReplyLeavesValid config rreq ipSrc ifindex before ∧ (rreq.flags.gratuitous = true →
        LeavesValid config rreq.destAddr (repliedState config rreq fwdRt reversed)) := by
  have creates : Creates _ reversed (rrepCreate fwdRt.hcnt fwdRt.destAddr fwdRt.destSeqno
      rreq.origAddr (remainingLife reversed fwdRt.destAddr) reversed) :=
    creates_rrepCreate _ _ _ _ _ reversed.seqno reversed
  obtain ⟨revRt, there, _, _⟩ := reversedEntry_origin rreq ipSrc ifindex before
  unfold rreqReplyHandovers repliedState
  dsimp only
  generalize rrepCreate fwdRt.hcnt fwdRt.destAddr fwdRt.destSeqno rreq.origAddr
    (remainingLife reversed fwdRt.destAddr) reversed = created at creates ⊢
  have sound : created.rtTbl.Sound := creates.rtTbl ▸ reversal.sound
  have found := (reversal.created_entries creates.rtTbl rreq.origAddr).trans there
  obtain ⟨asked, kept, _⟩ := ifindex_rrepRequestAck config revRt sound found
  obtain ⟨rt, reverse, _⟩ :=
    (sameRoutes_rrepSend config found (some fwdRt.destAddr) rrepSize).some kept
  rw [List.forall_mem_append, reversal.onValid_reply_iff creates]
  refine and_congr_right fun _ => ?_
  by_cases gratuitous : rreq.flags.gratuitous = true
  · rw [if_pos gratuitous, onValid_rreqGratuitous_iff _ (sound.rrepSend config _ _ _) reverse]
    exact ⟨fun leaves _ => leaves, fun leaves => leaves gratuitous⟩
  · rw [if_neg gratuitous]
    exact iff_of_true (fun _ member => absurd member List.not_mem_nil)
      fun wanted => absurd wanted gratuitous

/-- The replies of a RREQ that is taken go along valid routes exactly if they are safe. -/
theorem onValid_rreqContinue_iff {state : State} (sound : state.rtTbl.Sound) :
    (∀ handover ∈ rreqContinueHandovers config rreq ifindex (rreqReverse config rreq ipSrc ifindex
        (rreqRecordInsert rreq.origAddr rreq.rreqId state)), handover.OnValid config) ↔
      RepliesSafe config rreq ipSrc ifindex state := by
  have reversal := reversal_rreqReverse config sound rreq ipSrc ifindex
  unfold rreqContinueHandovers
  rw [rtTableFind_eq_entryAt reversal.sound, reversal.entries]
  by_cases own : rreq.destAddr = ipaddrOf config ifindex
  · rw [if_pos own, reversal.onValid_rreqAnswer_iff]
    exact ⟨fun leaves => ⟨fun _ => leaves, fun transit => absurd own transit⟩,
      fun safe => safe.reply (.inl own)⟩
  rw [if_neg own]
  -- Without a reply of its own the node passes the RREQ on, and nothing is asked for.
  have unanswered (none : ∀ fwdRt, reversedEntry rreq ipSrc ifindex state rreq.destAddr =
      some fwdRt → ¬ rreqMayReply rreq fwdRt = true) :
      RepliesSafe config rreq ipSrc ifindex state := by
    refine ⟨?_, fun _ _ fwdRt found may => absurd may (none fwdRt found)⟩
    rintro (here | ⟨fwdRt, found, may⟩)
    · exact absurd here own
    · exact absurd may (none fwdRt found)
  have empty : ∀ handover ∈ ([] : List Handover), handover.OnValid config :=
    fun _ member => absurd member List.not_mem_nil
  cases found : reversedEntry rreq ipSrc ifindex state rreq.destAddr with
  | none =>
    refine iff_of_true empty (unanswered fun fwdRt there => ?_)
    exact absurd (there.symm.trans found) (Option.some_ne_none _)
  | some fwdRt =>
    dsimp only
    by_cases may : rreqMayReply rreq fwdRt = true
    · rw [if_pos may, reversal.onValid_rreqReply_iff]
      constructor
      · rintro ⟨leaves, gratuitous⟩
        refine ⟨fun _ => leaves, fun _ wanted other there _ => ?_⟩
        obtain rfl := Option.some.inj (found.symm.trans there)
        exact gratuitous wanted
      · exact fun safe => ⟨safe.reply (.inr ⟨fwdRt, found, may⟩),
          fun wanted => safe.gratuitous own wanted fwdRt found may⟩
    · rw [if_neg may]
      refine iff_of_true empty (unanswered fun other there => ?_)
      obtain rfl := Option.some.inj (found.symm.trans there)
      exact may

end

/-- In every state with a sound table, the RREPs of `rreq_process` go along valid routes exactly if
the RREQ is not taken or its replies are safe. -/
theorem repliesOnValid_iff (config : Config) (rreq : Rreq) (len : Nat) (ipSrc : Addr)
    (ipTtl : Int) (ifindex : Nat) (state : State) (sound : state.rtTbl.Sound) :
    RepliesOnValid config rreq len ipSrc ipTtl ifindex state ↔
      (RreqTaken config rreq len ipSrc ifindex state →
        RepliesSafe config rreq ipSrc ifindex state) := by
  constructor
  · intro onValid taken
    have valid := onValid.valid
    rw [rreqProcessHandovers, if_neg taken.notOwn, if_neg (Nat.not_lt.mpr taken.long),
      if_neg (Bool.eq_false_iff.mp taken.unlisted), if_neg (Bool.eq_false_iff.mp taken.unseen)]
      at valid
    exact (onValid_rreqContinue_iff sound).mp valid
  · intro safe
    have empty : ∀ handover ∈ ([] : List Handover), handover.OnValid config :=
      fun _ member => absurd member List.not_mem_nil
    refine ⟨handed_rreqProcess len ipSrc ipTtl ifindex sound, ?_⟩
    unfold rreqProcessHandovers
    split
    · exact empty
    · split
      · exact empty
      · split
        · exact empty
        · split
          · exact empty
          · rename_i notOwn short listed seen
            exact (onValid_rreqContinue_iff sound).mpr (safe ⟨notOwn, Nat.not_lt.mp short,
              Bool.eq_false_iff.mpr listed, Bool.eq_false_iff.mpr seen⟩)

/-- A RREQ of node 9 that node 2 has passed on, as an event. -/
def passedOn (msec : Int) (rreq : Rreq) : Input :=
  inputAt msec (.message ⟨.rreq rreq, rreqSize, 2#32, aodvBroadcast, 5, 1⟩)

/-- The state in which `rreq_process` is called for it after a run. -/
def calledAfter (inputs : List Input) (input : Input) : State :=
  neighborAdd loneConfig 2#32 1 (arrive input (run loneConfig ⟨0, 0⟩ 0 inputs))

/-- Node 5 is known when the gratuitous RREQ for it arrives. -/
def destinationKnown : List Input :=
  [inputAt 20000 .timers, inputAt 20100 (rreqFrom 3#32 5#32 4#32 1 8#32)]

def gratuitousRreq : Rreq :=
  ⟨{ RreqFlags.none with gratuitous := true }, 1, 1#32, 5#32, 0#32, 9#32, 5#32, []⟩

theorem regular_calledAfter (inputs : List Input) (msec : Int) (rreq : Rreq) :
    Regular loneConfig (calledAfter inputs (passedOn msec rreq)) := by
  have regular := ((atRest_run loneConfig ⟨0, 0⟩ 0 inputs).arrive (passedOn msec rreq)).toRegular
  have foreign : 2#32 ∉ ownAddrs loneConfig := by decide
  have arrives (received : Received) (source : received.src = 2#32) :
      Arrives loneConfig (.message received) received := ⟨rfl, source ▸ foreign⟩
  exact (neighborAdd_introduced regular
    (arrives ⟨.rreq rreq, rreqSize, 2#32, aodvBroadcast, 5, 1⟩ rfl) rfl).regular

/-- Node 9 and node 5 both hear of the other, along routes that nothing makes suspect. -/
theorem repliesOnValid_iff_gratuitous :
    ((rreqProcessHandovers loneConfig gratuitousRreq rreqSize 2#32 1
        (calledAfter destinationKnown (passedOn 20200 gratuitousRreq))).map Handover.route =
      [9#32, 5#32]) ∧
      RepliesOnValid loneConfig gratuitousRreq rreqSize 2#32 5 1
        (calledAfter destinationKnown (passedOn 20200 gratuitousRreq)) := by
  have regular := regular_calledAfter destinationKnown 20200 gratuitousRreq
  have reverse : (reversedEntry gratuitousRreq 2#32 1
      (calledAfter destinationKnown (passedOn 20200 gratuitousRreq)) gratuitousRreq.origAddr).all
        (fun rt => decide (rt.state = .valid ∧ rt.flags.unidir = false)) = true := by
    decide +kernel
  have forward : (reversedEntry gratuitousRreq 2#32 1
      (calledAfter destinationKnown (passedOn 20200 gratuitousRreq)) gratuitousRreq.destAddr).all
        (fun fwdRt => (entryAt (repliedState loneConfig gratuitousRreq fwdRt
          (rreqReverse loneConfig gratuitousRreq 2#32 1
            (rreqRecordInsert gratuitousRreq.origAddr gratuitousRreq.rreqId
              (calledAfter destinationKnown (passedOn 20200 gratuitousRreq)))))
          gratuitousRreq.destAddr).all fun rt =>
            decide (rt.state = .valid ∧ rt.flags.unidir = false)) = true := by
    decide +kernel
  refine ⟨by decide +kernel, (repliesOnValid_iff loneConfig gratuitousRreq rreqSize 2#32 5 1 _
    regular.sound).mpr fun _ => ⟨fun _ _ _ _ => ⟨?_, ?_⟩, ?_⟩⟩
  · intro revRt found
    exact (of_decide_eq_true ((Option.all_eq_true _ _).mp reverse revRt found)).1
  · rintro neighbor ⟨revRt, found, ⟨_, unidir⟩ | ⟨_, hack⟩, _⟩
    · have usual := (of_decide_eq_true ((Option.all_eq_true _ _).mp reverse revRt found)).2
      exact Bool.false_ne_true (usual.symm.trans unidir)
    · exact Bool.false_ne_true hack
  · intro _ _ fwdRt found _ rt there _ _ _
    have usual := of_decide_eq_true ((Option.all_eq_true _ _).mp
      ((Option.all_eq_true _ _).mp forward fwdRt found) rt there)
    refine ⟨usual.1, fun neighbor suspects => ?_⟩
    rw [suspected, if_neg] at suspects
    · exact absurd suspects.symm (Option.some_ne_none neighbor)
    · rintro (⟨_, unidir⟩ | ⟨_, hack⟩)
      · exact Bool.false_ne_true (usual.2.symm.trans unidir)
      · exact Bool.false_ne_true hack

/-- The route to node 9 has expired, with a new number, when an old RREQ of it arrives. -/
def expiredReverse : List Input :=
  [inputAt 20000 .timers, inputAt 20100 (rreqFrom 2#32 9#32 5#32 1 5#32), inputAt 30000 .timers]

def oldRreq : Rreq := ⟨.none, 1, 1#32, 1#32, 0#32, 9#32, 5#32, []⟩

theorem not_repliesOnValid_expired :
    run loneConfig ⟨0, 0⟩ 0 (expiredReverse ++ [passedOn 31000 oldRreq]) =
        rreqProcess loneConfig oldRreq rreqSize 2#32 5 1
          (calledAfter expiredReverse (passedOn 31000 oldRreq)) ∧
      ¬ RepliesOnValid loneConfig oldRreq rreqSize 2#32 5 1
        (calledAfter expiredReverse (passedOn 31000 oldRreq)) := by
  refine ⟨rfl, fun onValid => ?_⟩
  have bad : ∃ handover ∈ rreqProcessHandovers loneConfig oldRreq rreqSize 2#32 1
      (calledAfter expiredReverse (passedOn 31000 oldRreq)),
      (∃ datagram ∈ handover.sent loneConfig,
        datagram.msg = .rrep ⟨false, false, 0, 1#32, 1#32, 9#32, 6000, []⟩) ∧
      (entryAt handover.state handover.route).map RtEntry.state = some .invalid := by
    decide +kernel
  obtain ⟨handover, member, ⟨datagram, sent, isRrep⟩, invalid⟩ := bad
  obtain ⟨rt, found, valid⟩ := onValid.valid handover member datagram sent _ isRrep
  rw [found, Option.map_some, valid] at invalid
  exact RouteState.noConfusion (Option.some.inj invalid)

end Aodvd
