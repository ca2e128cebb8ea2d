/-
This file shows that no node tells of a route with the sequence number zero.

The zero stands for an unknown number, and a route with it is taken over by any message. A node
starts with the number one and never comes back to zero; a RREQ or RREP that it passes on carries
the number it was received with; a route that it answers for has a number, and so has the reverse
route that a gratuitous reply is about. Every event is a chain of utterances that create messages
with numbers only, if it received one.
-/

import Aodvd.Voices

namespace Aodvd

/-! ### Numbered messages -/

/-- The route a message tells of has a sequence number. -/
def AodvMsg.Numbered (msg : AodvMsg) : Prop := ∀ advert, msg.advert = some advert → advert.seqno ≠ 0#32

/-- The node has a sequence number, and so have the routes it tells of. -/
def Numbered (state : State) : Prop :=
  state.seqno ≠ 0#32 ∧ state.sendBuf.Numbered ∧ ∀ datagram ∈ state.out, datagram.msg.Numbered

theorem numbered_rreq {rreq : Rreq} (known : rreq.origSeqno ≠ 0#32) :
    (AodvMsg.rreq rreq).Numbered := by
  rintro advert told
  obtain rfl := Option.some.inj told
  exact known

theorem numbered_rrep {rrep : Rrep} (known : rrep.destSeqno ≠ 0#32) :
    (AodvMsg.rrep rrep).Numbered := by
  rintro advert told
  obtain rfl := Option.some.inj told
  exact known

theorem numbered_of_advert {msg : AodvMsg} (silent : msg.advert = none) : msg.Numbered :=
  fun _ told => absurd (silent.symm.trans told) (by simp)

theorem seqnoIncr_ne_zero {seqno : Seqno} (known : seqno ≠ 0#32) : seqnoIncr seqno ≠ 0#32 := by
  unfold seqnoIncr
  rw [if_neg known]
  split
  · decide
  · rename_i notTop
    intro wraps
    exact notTop (by bv_omega)

theorem answerSeqno_ne_zero {own : Seqno} (known : own ≠ 0#32) (requested : Seqno) :
    answerSeqno own requested ≠ 0#32 := by
  unfold answerSeqno
  split
  · exact known
  · split
    · assumption
    · split
      · exact seqnoIncr_ne_zero known
      · exact known

/-- A message with a number is created, if what was received has numbers and the node has one. Only
where the node may request routes does `rreq_id` count on. -/
def Numbering (known requests : Prop) (before after : State) : Prop :=
  (¬ requests → after.rreqId = before.rreqId) ∧
    (known → before.seqno ≠ 0#32 → after.seqno ≠ 0#32 ∧ after.sendBuf.Numbered)

section

variable {config : Config} {known requests : Prop} {before after state : State}

/-- Errors carry no number of a route and HELLOs carry the number of the node. -/
theorem Utters.numbering (utters : Utters config Notice before after) :
    Utters config (Numbering known requests) before after := by
  refine utters.mono ?_
  rintro before after ⟨seqno, rreqId, created⟩
  refine ⟨fun _ => rreqId, fun _ numbered => ?_⟩
  obtain ⟨rerr, sendBuf⟩ | ⟨rrep, sendBuf, own⟩ := created
  · rw [seqno, sendBuf]
    exact ⟨numbered, numbered_of_advert rfl⟩
  · rw [seqno, sendBuf]
    exact ⟨numbered, numbered_rrep (own ▸ numbered)⟩

/-- What has a number keeps it through a chain that creates numbered messages. -/
theorem Utters.numbered (utters : Utters config (Numbering known requests) before after) (holds : known)
    (numbered : Numbered before) : Numbered after := by
  refine utters.invariant ?_ numbered
  rintro first second utter ⟨seqno, buffer, out⟩
  cases utter with
  | silent same =>
    unfold Numbered
    rw [same.seqno, same.sendBuf, same.out]
    exact ⟨seqno, buffer, out⟩
  | create _ _ _ same may =>
    obtain ⟨number, created⟩ := may.2 holds seqno
    exact ⟨number, created, same ▸ out⟩
  | send dst len ttl dev =>
    have number := (numbers_aodvSocketSend config dst len ttl dev first).2
    have sendBuf := sendBuf_aodvSocketSend config dst len ttl dev first
    refine ⟨number ▸ seqno, sendBuf ▸ buffer, ?_⟩
    rcases out_aodvSocketSend config dst len ttl dev first with silent | ⟨sender, _, sent⟩
    · rw [silent]
      exact out
    · rw [sent]
      intro datagram member
      rcases List.mem_append.mp member with earlier | last
      · exact out datagram earlier
      · rw [List.mem_singleton.mp last]
        exact buffer

/-- A chain in which no route is requested leaves `rreq_id` alone. -/
theorem Utters.rreqId (utters : Utters config (Numbering known requests) before after)
    (quiet : ¬ requests) : after.rreqId = before.rreqId := by
  refine utters.invariant (motive := fun state => state.rreqId = before.rreqId) ?_ rfl
  rintro first second utter kept
  cases utter with
  | silent same => exact same.rreqId.trans kept
  | create _ _ _ _ may => exact (may.1 quiet).trans kept
  | send dst len ttl dev => exact (numbers_aodvSocketSend config dst len ttl dev _).1.trans kept

/-- A message with a number is created in the send buffer. -/
theorem utters_numbered (config : Config) {state : State} {msg : AodvMsg}
    (numbered : known → state.seqno ≠ 0#32 → msg.Numbered) :
    Utters config (Numbering known requests) state { state with sendBuf := msg } :=
  utters_buffer config ⟨fun _ => rfl, fun holds number => ⟨number, numbered holds number⟩⟩

/-! ### Requests of the node -/

/-- A request raises the number of the node before it carries it. -/
theorem utters_rreqSend (config : Config) (requested : requests) (destAddr : Addr)
    (destSeqno : Seqno) (ttl : Nat) (flags : RreqFlags) (state : State) :
    Utters config (Numbering known requests) state
      (rreqSend config destAddr destSeqno ttl flags state) := by
  unfold rreqSend
  refine List.foldlRecOn config.devs _ (motive := Utters config (Numbering known requests) state)
    .refl ?_
  intro current before dev _
  have created : Utters config (Numbering known requests) current (rreqCreate
      (if config.rreqGratuitous then { flags with gratuitous := true } else flags) destAddr destSeqno
      dev.ipaddr current) := by
    refine .single (.create rfl rfl rfl rfl ⟨fun quiet => absurd requested quiet,
      fun _ number => ?_⟩)
    exact ⟨seqnoIncr_ne_zero number, numbered_rreq (seqnoIncr_ne_zero number)⟩
  exact (before.trans created).trans (utters_send ..)

/-! ### Replies that pass -/

theorem utters_rrepForward (config : Config) {rrep : Rrep} (numbered : known → rrep.destSeqno ≠ 0#32)
    (size : Nat) (revDest fwdDest : Addr) (ttl : Int) (state : State) :
    Utters config (Numbering known requests) state
      (rrepForward config rrep size revDest fwdDest ttl state) := by
  unfold rrepForward
  split
  · exact .refl
  · rename_i fwdRt _
    have created : Utters config (Numbering known requests) state
        { state with sendBuf := .rrep { rrep with hcnt := fwdRt.hcnt } } :=
      utters_numbered config fun holds _ => numbered_rrep (numbered holds)
    exact ((created.trans (utters_sendAlong ..)).trans (sameVoice_updatePrecursors ..).utters).trans
      (rtTableUpdateTimeout_acts ..).sameVoice.utters

theorem utters_rrepReportRepair (config : Config) (rrep : Rrep) (found : Option RtEntry)
    (state : State) : Utters config Notice state (rrepReportRepair config rrep found state) := by
  unfold rrepReportRepair
  split
  · split
    · dsimp only
      split
      · exact utters_rerr ..
      · exact (utters_rerr ..).trans (utters_send ..)
    · exact .refl
  · exact .refl

theorem utters_rrepContinue (config : Config) {rrep : Rrep}
    (numbered : known → rrep.destSeqno ≠ 0#32) (len : Nat) (ipTtl : Int) (ifindex : Nat)
    (fwdRt revRt : Option RtEntry) (state : State) :
    Utters config (Numbering known requests) state
      (rrepContinue config rrep len ipTtl ifindex fwdRt revRt state) := by
  have acknowledged :
      Utters config (Numbering known requests) state (rrepAcknowledge config rrep state) := by
    unfold rrepAcknowledge
    split
    · exact (utters_numbered config fun _ _ => numbered_of_advert rfl).trans (utters_sendAlong ..)
    · exact .refl
  unfold rrepContinue
  dsimp only
  refine Relation.ReflTransGen.trans ?_ (utters_helloOnDemand config _).numbering
  split
  · exact acknowledged.trans (utters_rrepReportRepair ..).numbering
  · refine acknowledged.trans ?_
    unfold rrepPassOn
    split
    · split
      · have kept : known → ({ rrep with ack := false } : Rrep).destSeqno ≠ 0#32 := numbered
        exact utters_rrepForward config kept ..
      · exact .refl
    · exact .refl

theorem utters_rrepProcess (config : Config) {rrep : Rrep}
    (numbered : known → rrep.destSeqno ≠ 0#32) (len : Nat) (ipSrc : Addr) (ipTtl : Int)
    (ifindex : Nat) (state : State) :
    Utters config (Numbering known requests) state
      (rrepProcess config rrep len ipSrc ipTtl ifindex state) := by
  unfold rrepProcess
  split
  · exact .refl
  · split
    · exact .refl
    · dsimp only
      split
      · exact (utters_rtTableInsert ..).numbering.trans (utters_rrepContinue config numbered ..)
      · split
        · exact (utters_rtTableUpdate ..).numbering.trans (utters_rrepContinue config numbered ..)
        · exact .refl

/-! ### Known routes -/

/-- The entry of a destination has a sequence number, if there is one. -/
def Known (state : State) (dest : Addr) : Prop :=
  ∀ rt, entryAt state dest = some rt → rt.destSeqno ≠ 0#32

variable {dest : Addr}

theorem RtEntry.cut_destSeqno_ne_zero {rt : RtEntry} (known : rt.destSeqno ≠ 0#32)
    (neighbor : Addr) (repair : Bool) (dest : Addr) :
    (rt.cut neighbor repair dest).destSeqno ≠ 0#32 := by
  unfold RtEntry.cut RtEntry.retired
  repeat' split
  all_goals first
    | exact known
    | exact seqnoIncr_ne_zero known

/-- A reply takes no number away. -/
theorem Known.rrepSend (known : Known state dest) (sound : state.rtTbl.Sound) (revDest : Addr)
    (fwdDest : Option Addr) (size : Nat) :
    Known (rrepSend config revDest fwdDest size state) dest := by
  have kept {change : RtEntry → RtEntry} {entry : Option RtEntry}
      (known : ∀ rt, entry = some rt → rt.destSeqno ≠ 0#32)
      (keeps : ∀ rt, rt.destSeqno ≠ 0#32 → (change rt).destSeqno ≠ 0#32) (rt : RtEntry)
      (found : entry.map change = some rt) : rt.destSeqno ≠ 0#32 := by
    obtain ⟨old, there, rfl⟩ := Option.map_eq_some_iff.mp found
    exact keeps old (known old there)
  refine ((replyRule_entry config (fun entry => ∀ rt, entry = some rt → rt.destSeqno ≠ 0#32)
    (fun addr _ known => kept known fun rt => ?_) (fun known => kept known fun _ => id)
    fun neighbor repair _ known => kept known fun rt old => ?_).rrepSend ⟨sound, known⟩ revDest
      fwdDest size).2
  · rw [(touch_precursorAdd addr).destSeqno]
    exact id
  · exact RtEntry.cut_destSeqno_ne_zero old neighbor repair dest

/-- The reverse route of a RREQ has a number: a route without one is always taken over. -/
theorem known_rreqReverse (config : Config) (sound : state.rtTbl.Sound) {rreq : Rreq}
    (numbered : rreq.origSeqno ≠ 0#32) (ipSrc : Addr) (ifindex : Nat) :
    Known (rreqReverse config rreq ipSrc ifindex state) rreq.origAddr := by
  unfold rreqReverse
  rw [rtTableFind_eq_entryAt sound]
  split
  · rename_i fresh
    intro rt found
    have own : (rreqOffer rreq ipSrc ifindex .none).dest = rreq.origAddr := rfl
    rw [entryAt_rtTableInsert config (rreqOffer rreq ipSrc ifindex .none) fresh, if_pos own] at found
    obtain rfl := Option.some.inj found
    exact numbered
  · rename_i revRt here
    split
    · intro rt found
      obtain ⟨base, updated, _⟩ := entryAt_rtTableUpdate_self config
        (rreqOffer rreq ipSrc ifindex revRt.flags) sound here
      obtain rfl := Option.some.inj (updated.symm.trans found)
      exact numbered
    · rename_i rejects
      intro rt found
      obtain rfl := Option.some.inj (here.symm.trans found)
      rintro unknown
      exact rejects (by rw [rreqAccepts, unknown]; rfl)

/-! ### Answers -/

theorem utters_rrepCreate (config : Config) (hcnt : Nat) (destAddr : Addr) {destSeqno : Seqno}
    {state : State} (numbered : known → state.seqno ≠ 0#32 → destSeqno ≠ 0#32) (origAddr : Addr)
    (life : Nat) :
    Utters config (Numbering known requests) state
      (rrepCreate hcnt destAddr destSeqno origAddr life state) :=
  utters_numbered config fun holds number => numbered_rrep (numbered holds number)

theorem utters_rreqAnswer (config : Config) (rreq : Rreq) (state : State) :
    Utters config (Numbering known requests) state (rreqAnswer config rreq state) := by
  unfold rreqAnswer
  split
  · exact .refl
  · rename_i revRt _
    have created : Utters config (Numbering known requests) state (rrepCreate 0
        (ipaddrOf config revRt.ifindex) (answerSeqno state.seqno rreq.destSeqno) revRt.destAddr
        (2 * activeRouteTimeout config)
        { state with seqno := answerSeqno state.seqno rreq.destSeqno }) := by
      refine .single (.create rfl rfl rfl rfl ⟨fun _ => rfl, fun _ number => ?_⟩)
      exact ⟨answerSeqno_ne_zero number _, numbered_rrep (answerSeqno_ne_zero number _)⟩
    exact created.trans (utters_rrepSend ..).numbering

theorem utters_rreqReply (sound : state.rtTbl.Sound) {rreq : Rreq} {fwdRt : RtEntry}
    (fresh : rreqMayReply rreq fwdRt = true) (reverse : known → Known state rreq.origAddr) :
    Utters config (Numbering known requests) state (rreqReply config rreq fwdRt state) := by
  simp only [rreqMayReply, Bool.and_eq_true, decide_eq_true_iff] at fresh
  have replied (life : Nat) : Utters config (Numbering known requests) state
      (rrepSend config rreq.origAddr (some fwdRt.destAddr) rrepSize
        (rrepCreate fwdRt.hcnt fwdRt.destAddr fwdRt.destSeqno rreq.origAddr life state)) :=
    (utters_rrepCreate config _ _ (fun _ _ => fresh.1.2) _ _).trans (utters_rrepSend ..).numbering
  have kept (life : Nat) (holds : known) : Known (rrepSend config rreq.origAddr
      (some fwdRt.destAddr) rrepSize (rrepCreate fwdRt.hcnt fwdRt.destAddr fwdRt.destSeqno
        rreq.origAddr life state)) rreq.origAddr := by
    have created : Known (rrepCreate fwdRt.hcnt fwdRt.destAddr fwdRt.destSeqno rreq.origAddr life
      state) rreq.origAddr := reverse holds
    exact created.rrepSend sound _ _ _
  unfold rreqReply
  dsimp only
  split
  · unfold rreqGratuitousReply
    split
    · rename_i revRt _ here _
      exact ((replied _).trans (utters_rrepCreate config _ _
        (fun holds _ => kept _ holds revRt here) _ _)).trans (utters_rrepSend ..).numbering
    · exact replied _
  · exact replied _

theorem utters_rreqPassOn (config : Config) {rreq : Rreq}
    (numbered : known → rreq.origSeqno ≠ 0#32) (len : Nat) (ipTtl : Int) (fwdRt : Option RtEntry)
    (state : State) :
    Utters config (Numbering known requests) state (rreqPassOn config rreq len ipTtl fwdRt state) := by
  have request (holds : known) : (AodvMsg.rreq { rreq with
      hcnt := (rreq.hcnt + 1) % 256, destSeqno := forwardSeqno rreq fwdRt }).Numbered :=
    numbered_rreq (numbered holds)
  unfold rreqPassOn rreqForward
  split
  · exact (utters_numbered config fun holds _ => request holds).trans (utters_sendOnAll ..)
  · exact .refl

theorem utters_rreqProcess (sound : state.rtTbl.Sound) {rreq : Rreq}
    (numbered : known → rreq.origSeqno ≠ 0#32) (len : Nat) (ipSrc : Addr) (ipTtl : Int)
    (ifindex : Nat) :
    Utters config (Numbering known requests) state
      (rreqProcess config rreq len ipSrc ipTtl ifindex state) := by
  have recordedSound : (rreqRecordInsert rreq.origAddr rreq.rreqId state).rtTbl.Sound := by
    unfold rreqRecordInsert
    split
    · exact sound
    · exact sound
  have reversed : Utters config (Numbering known requests) state (rreqReverse config rreq ipSrc ifindex
      (rreqRecordInsert rreq.origAddr rreq.rreqId state)) :=
    (sameVoice_rreqRecordInsert ..).utters.trans (utters_rreqReverse ..).numbering
  have reverse (holds : known) := known_rreqReverse config recordedSound (numbered holds) ipSrc
    ifindex
  unfold rreqProcess
  split
  · exact .refl
  · split
    · exact .refl
    · split
      · exact .refl
      · split
        · exact .refl
        · refine reversed.trans ?_
          unfold rreqContinue
          split
          · exact utters_rreqAnswer ..
          · split
            · exact utters_rreqPassOn config numbered ..
            · split
              · exact utters_rreqReply (recordedSound.rreqReverse ..) ‹_› reverse
              · exact utters_rreqPassOn config numbered ..

/-! ### Timers -/

theorem utters_discoveryGiveUp (config : Config) (entry : SeekEntry) (state : State) :
    Utters config Notice state (discoveryGiveUp config entry state) := by
  have gaveUp : SameVoice state
      (seekListRemove entry.destAddr (packetQueueDrop entry.destAddr state)) := by
    constructor <;> rfl
  unfold discoveryGiveUp
  dsimp only
  refine gaveUp.utters.trans ?_
  split
  · exact .refl
  · split
    · exact (utters_ruled ..).localRepairTimeout .refl (.inr trivial)
    · exact .refl

theorem utters_routeDiscoveryTimeout (config : Config) (requested : requests) (dest : Addr)
    (state : State) :
    Utters config (Numbering known requests) state (routeDiscoveryTimeout config dest state) := by
  unfold routeDiscoveryTimeout
  split
  · exact .refl
  · rename_i entry _
    split
    · have retried : SameVoice state (setTimeout (.seekTimer entry.destAddr)
          (seekWait config (seekRetry config entry))
          (setSeekEntry entry.destAddr (seekRetry config) state)) := by constructor <;> rfl
      unfold discoveryRetry
      dsimp only
      refine (retried.utters.trans ?_).trans (utters_rreqSend config requested ..)
      split
      · exact .refl
      · exact (keepForDiscovery_acts ..).sameVoice.utters
    · exact (utters_discoveryGiveUp ..).numbering

theorem sameVoice_rreqBlacklistInsert (dest : Addr) (state : State) :
    SameVoice state (rreqBlacklistInsert dest state) := by
  unfold rreqBlacklistInsert
  split <;> constructor <;> rfl

theorem RunsHandler.utters {id : TimerId} {handler : Handler} {final : State}
    (runs : RunsHandler config state id handler final)
    (requested : ∀ dest, id = .seekTimer dest → requests) :
    Utters config (Numbering known requests) state final := by
  cases runs with
  | expire dest =>
    exact ((utters_ruled ..).breakActs .refl (routeExpireTimeout_breaks config dest _)).numbering
  | delete dest => exact ((utters_ruled config _).rtTableDelete .refl dest).numbering
  | repair dest => exact ((utters_ruled ..).localRepairTimeout .refl (.inr trivial)).numbering
  | blacklist dest => exact (sameVoice_rreqBlacklistInsert ..).utters
  | hello dest => exact ((utters_ruled ..).helloTimeout .refl dest).numbering
  | discovery dest => exact utters_routeDiscoveryTimeout config (requested dest rfl) ..
  | greet => exact (utters_helloSend ..).numbering
  | _ => exact SameVoice.utters (by constructor <;> rfl)

theorem utters_runBatch (config : Config) (requested : requests) (fuel : Nat) (state : State) :
    Utters config (Numbering known requests) state (runBatch config fuel state) := by
  refine runBatch_induction (motive := Utters config (Numbering known requests) state) ?_ fuel .refl
  intro current id rest _ reached
  have popped : SameVoice current (popTimer id rest current) := by constructor <;> rfl
  exact reached.trans (runTimer_cases (fun _ => popped.utters) fun _ _ _ runs =>
    popped.utters.trans (runs.utters fun _ _ => requested))

/-! ### Packets -/

theorem utters_seekRoute (config : Config) (requested : requests) (packet : IpPacket)
    (fwdRt : Option RtEntry) (state : State) :
    Utters config (Numbering known requests) state (seekRoute config packet fwdRt state) := by
  have seek (dest : Addr) (destSeqno : Seqno) (ttl : Nat) (flags : RreqFlags) (msec : Int)
      (state : State) : Utters config (Numbering known requests) state
        (setTimeout (.seekTimer dest) msec (seekListInsert dest destSeqno ttl flags
          (rreqSend config dest destSeqno ttl flags state))) :=
    (utters_rreqSend config requested ..).trans (SameVoice.utters (by constructor <;> rfl))
  have discovery (flags : RreqFlags) : Utters config (Numbering known requests) state
      (rreqRouteDiscovery config packet.daddr flags state) := by
    unfold rreqRouteDiscovery
    split
    · exact .refl
    · dsimp only
      refine Relation.ReflTransGen.trans ?_ (seek _ _ _ _ _ _)
      split
      · exact .refl
      · exact (keepForDiscovery_acts ..).sameVoice.utters
  unfold seekRoute
  split
  · rename_i rt
    split
    · rename_i repair
      unfold rreqLocalRepair
      split
      · exact .refl
      · rw [if_pos repair]
        have undertaken : SameVoice state
            (setHandler (.rtTimer rt.destAddr) .routeExpireTimeout state) := by constructor <;> rfl
        exact (undertaken.utters.trans (keepForDiscovery_acts rt _).sameVoice.utters).trans
          (seek _ _ _ _ _ _)
    · exact discovery _
  · exact discovery _

theorem sameVoice_packetQueueAdd (packetId : BitVec 32) (dest : Addr) (state : State) :
    SameVoice state (packetQueueAdd packetId dest state) := by
  obtain ⟨_, _, added⟩ := packetQueueAdd_eq packetId dest state
  rw [added]
  constructor <;> rfl

theorem utters_sendRerrForUnknownDest (config : Config) (destAddr : Addr)
    (fwdRt revRt : Option RtEntry) (ifindex : Nat) (state : State) :
    Utters config Notice state
      (sendRerrForUnknownDest config destAddr fwdRt revRt ifindex state) := by
  obtain ⟨created, dst, timed, waits⟩ :=
    sendRerrForUnknownDest_eq config destAddr fwdRt revRt ifindex state
  exact (((utters_rerr config state _).trans timed.sameVoice.utters).trans (utters_send ..)).trans
    waits.sameVoice.utters

theorem utters_packetInputRoute (config : Config) (requested : requests) (packet : NfPacket)
    (ip : IpPacket) (state : State) :
    Utters config (Numbering known requests) state (packetInputRoute config packet ip state).1 := by
  have refreshed := (rtTableUpdateRouteTimeouts_acts config (rtTableFind state ip.daddr)
    (rtTableFind state ip.saddr) state).sameVoice
  unfold packetInputRoute
  dsimp only
  split
  · split
    · exact refreshed.utters.trans (utters_sendRerrForUnknownDest ..).numbering
    · exact (refreshed.utters.trans (sameVoice_packetQueueAdd ..).utters).trans
        (utters_seekRoute config requested ..)
  · exact refreshed.utters

theorem utters_nfqueuePacketCb (config : Config) (requested : requests) (packet : NfPacket)
    (state : State) :
    Utters config (Numbering known requests) state (nfqueuePacketCb config packet state) := by
  have delivered : Utters config (Numbering known requests) state (deliver packet state) :=
    SameVoice.utters (by constructor <;> rfl)
  refine nfqueuePacketCb_of_handled (motive := Utters config (Numbering known requests) state) ?_
    fun _ _ _ handled => handled.trans (SameVoice.utters (by constructor <;> rfl))
  exact packetInputHandlePacket_cases delivered fun _ =>
    delivered.trans (utters_packetInputRoute config requested ..)

/-! ### Events -/

/-- The route a received message tells of has a sequence number. -/
def Event.Numbered : Event → Prop
  | .message received => received.msg.Numbered
  | _ => True

theorem utters_aodvSocketRead {received : Received} (regular : Regular config state) :
    Utters config (Numbering received.msg.Numbered requests) state
      (aodvSocketRead config received state) := by
  unfold aodvSocketRead
  split
  · exact .refl
  · rename_i foreign
    have arrives : Arrives config (.message received) received := ⟨rfl, foreign⟩
    unfold aodvSocketProcessPacket
    split
    · exact (utters_helloProcess ..).numbering
    · rename_i notHello
      have introduced := neighborAdd_introduced regular arrives notHello
      refine (utters_neighborAdd config received.src received.ifindex state).numbering.trans ?_
      unfold processMsg
      split
      · rename_i rreq isRreq
        exact utters_rreqProcess introduced.regular.sound
          (fun known => known ⟨_, _, _⟩ (congrArg AodvMsg.advert isRreq)) ..
      · rename_i rrep isRrep
        exact utters_rrepProcess config
          (fun known => known ⟨_, _, _⟩ (congrArg AodvMsg.advert isRrep)) ..
      · exact (utters_rerrProcess ..).numbering
      · unfold rrepAckProcess
        split
        · exact .refl
        · exact SameVoice.utters (by constructor <;> rfl)
      · exact .refl

/-- What is said in an event. -/
theorem utters_step (atRest : AtRest config state) (input : Input) :
    Utters config (Numbering input.event.Numbered True) (arrive input state)
      (step config state input) := by
  have resting := atRest.arrive input
  show Utters config (Numbering input.event.Numbered True) (arrive input state)
    (handleEvent config input.event (arrive input state))
  generalize input.event = event
  cases event with
  | timers =>
    have collected : SameVoice (arrive input state) { arrive input state with
        timers := timerCollect (arrive input state).now (arrive input state).timers } := by
      constructor <;> rfl
    exact collected.utters.trans (utters_runBatch config trivial ..)
  | message received => exact utters_aodvSocketRead resting.toRegular
  | packet packet => exact utters_nfqueuePacketCb config trivial ..
  | txDrop ip =>
    rw [handleEvent]
    split
    · exact .refl
    · exact (utters_neighborLinkBreak ..).numbering

/-- No event makes a node tell of a route without a number, unless it receives one. -/
theorem numbered_step {input : Input} (atRest : AtRest config state)
    (numbered : Numbered state) (holds : input.event.Numbered) :
    Numbered (step config state input) := by
  have arrived : Numbered (arrive input state) :=
    ⟨numbered.1, numbered.2.1, fun _ member => absurd member List.not_mem_nil⟩
  exact (utters_step atRest input).numbered holds arrived

/-- The start of the daemon says HELLOs at most. -/
theorem utters_boot (config : Config) (now : Timeval) (jitter : Int) :
    Utters config Notice (zeroState now jitter) (boot config now jitter) := by
  have waited (state : State) :
      Utters config Notice state (bootWait config (packetQueueInit (rtTableInit state))) := by
    have inited : SameVoice state (packetQueueInit (rtTableInit state)) := by constructor <;> rfl
    refine inited.utters.trans ?_
    unfold bootWait
    split
    · exact SameVoice.utters (by constructor <;> rfl)
    · exact .refl
  have greeted (state : State) : Utters config Notice state (bootHello config state) := by
    have greeting : Utters config Notice state
        (if config.optimizedHellos = false ∧ config.llfeedback = false then
          helloStart config state else state) := by
      split
      · exact utters_helloStart config state
      · exact .refl
    unfold bootHello
    dsimp only
    split
    · exact greeting
    · exact greeting.trans (SameVoice.utters (by constructor <;> rfl))
  exact (waited _).trans (greeted _)

theorem numbered_boot (config : Config) (now : Timeval) (jitter : Int) :
    Numbered (boot config now jitter) := by
  have one : (1#32 : Seqno) ≠ 0#32 := by decide
  have zero : Numbered (zeroState now jitter) :=
    ⟨one, numbered_of_advert rfl, fun _ member => absurd member List.not_mem_nil⟩
  have booted : Utters config (Numbering True True) (zeroState now jitter)
      (boot config now jitter) := (utters_boot config now jitter).numbering
  exact booted.numbered trivial zero

end

end Aodvd
