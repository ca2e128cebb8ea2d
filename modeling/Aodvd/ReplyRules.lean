/-
This file says what a handler does once it has offered the route of its message.

A RREQ is answered or passed on, a RREP is acknowledged and forwarded. Both send messages, arm
timers and enter precursors, and an answer may break the link to a neighbour that is to
acknowledge it. What survives these writes survives the rest of the handler, and this is proved
once for every property of that kind.
-/

import Aodvd.Handlers

namespace Aodvd

variable {config : Config} {property : State → Prop} {before after state : State}
  {dest : Addr}

/-! ### Replies that pass -/

/-- The property depends on the routing table only, and survives an entered precursor. -/
structure ForwardRule (property : State → Prop) : Prop where
  apart : ∀ {before after : State}, property before → after.rtTbl = before.rtTbl →
    property after
  precursor : ∀ {state : State}, property state → ∀ dest addr,
    property (precursorAdd dest addr state)

theorem entry_setEntry (kept : Option RtEntry → Prop) {change : RtEntry → RtEntry}
    (keepsDest : ∀ rt, (change rt).destAddr = rt.destAddr)
    (keeps : ∀ {entry}, kept entry → kept (entry.map change)) (holds : kept (entryAt state dest))
    (other : Addr) : kept (entryAt (setEntry other change state) dest) := by
  rw [entryAt_setEntry keepsDest]
  split
  · rename_i same
    exact keeps (same ▸ holds)
  · exact holds

/-- What an entered precursor keeps of the entry of a destination. -/
theorem forwardRule_entry (kept : Option RtEntry → Prop)
    (precursor : ∀ addr {entry}, kept entry → kept (entry.map (RtEntry.precursorAdd addr))) :
    ForwardRule fun state => kept (entryAt state dest) where
  apart holds rtTbl := by rwa [entryAt, rtTbl]
  precursor holds other addr :=
    entry_setEntry kept (gentle_precursorAdd addr).dest (precursor addr) holds other

namespace ForwardRule

theorem aside (rule : ForwardRule property) (holds : property before)
    (aside : Aside before after) : property after :=
  rule.apart holds aside.rtTbl

theorem helloOnDemand (rule : ForwardRule property) (holds : property state) :
    property (helloOnDemand config state) :=
  rule.apart holds (rtTbl_helloOnDemand state)

theorem updatePrecursors (rule : ForwardRule property) (holds : property state)
    (fwdDest revDest : Addr) : property (updatePrecursors fwdDest revDest state) := by
  unfold Aodvd.updatePrecursors
  split
  · exact rule.precursor (rule.precursor holds _ _) _ _
  · exact holds

theorem rreqPassOn (rule : ForwardRule property) (holds : property state) (rreq : Rreq) (len : Nat)
    (ipTtl : Int) (fwdRt : Option RtEntry) :
    property (rreqPassOn config rreq len ipTtl fwdRt state) := by
  unfold Aodvd.rreqPassOn rreqForward
  split
  · refine rule.aside ?_ (aside_sendOnAll ..)
    exact rule.apart holds rfl
  · exact holds

theorem rrepReportRepair (rule : ForwardRule property) (holds : property state) (rrep : Rrep)
    (found : Option RtEntry) : property (rrepReportRepair config rrep found state) := by
  unfold Aodvd.rrepReportRepair
  split
  · split
    · have created (rt : RtEntry) : property (rerrCreate true rt.destAddr rt.destSeqno state) :=
        rule.apart holds rfl
      dsimp only
      split
      · exact created _
      · exact rule.aside (created _) (aside_aodvSocketSend ..)
    · exact holds
  · exact holds

theorem rrepForward (rule : ForwardRule property) (holds : property state) (rrep : Rrep)
    (size : Nat) (revDest fwdDest : Addr) (ttl : Int) :
    property (rrepForward config rrep size revDest fwdDest ttl state) := by
  unfold Aodvd.rrepForward
  split
  · exact holds
  · refine rule.apart ?_ (rtTableUpdateTimeout_acts ..).rtTbl
    refine rule.updatePrecursors (rule.aside ?_ (aside_sendAlong ..)) _ _
    exact rule.apart holds rfl

theorem rrepContinue (rule : ForwardRule property) (holds : property state) (rrep : Rrep)
    (len : Nat) (ipTtl : Int) (ifindex : Nat) (fwdRt revRt : Option RtEntry) :
    property (rrepContinue config rrep len ipTtl ifindex fwdRt revRt state) := by
  have acknowledged := rule.aside holds (aside_rrepAcknowledge config rrep state)
  unfold Aodvd.rrepContinue
  refine rule.helloOnDemand ?_
  split
  · exact rule.rrepReportRepair acknowledged rrep fwdRt
  · unfold rrepPassOn
    split
    · split
      · exact rule.rrepForward acknowledged _ _ _ _ _
      · exact acknowledged
    · exact acknowledged

end ForwardRule

/-! ### Answers -/

/-- The property survives a link break as well, and the mark of the neighbour before it. -/
structure ReplyRule (config : Config) (property : State → Prop) : Prop
    extends ForwardRule property where
  suspect : ∀ {state : State}, property state → ∀ dest,
    property (setEntry dest RtEntry.markUnidir state)
  linkBreak : ∀ {state : State}, property state → ∀ dest,
    property (neighborLinkBreak config dest state)

theorem replyRule_sound (config : Config) : ReplyRule config fun state => state.rtTbl.Sound where
  apart sound rtTbl := rtTbl ▸ sound
  precursor sound dest addr := sound.setEntry (gentle_precursorAdd addr) dest
  suspect sound dest := sound.setEntry cosmetic_markUnidir.toGentle dest
  linkBreak sound _ := (neighborLinkBreak_acts ..).sound sound

/-- What a link break and the writes before it keep of the entry of a destination. -/
theorem replyRule_entry (config : Config) (kept : Option RtEntry → Prop)
    (precursor : ∀ addr {entry}, kept entry → kept (entry.map (RtEntry.precursorAdd addr)))
    (suspect : ∀ {entry}, kept entry → kept (entry.map RtEntry.markUnidir))
    (cut : ∀ neighbor repair {entry}, kept entry →
      kept (entry.map (RtEntry.cut neighbor repair dest))) :
    ReplyRule config fun state => state.rtTbl.Sound ∧ kept (entryAt state dest) where
  apart holds rtTbl := ⟨rtTbl ▸ holds.1, (forwardRule_entry kept precursor).apart holds.2 rtTbl⟩
  precursor holds other addr :=
    ⟨(replyRule_sound config).precursor holds.1 other addr,
      (forwardRule_entry kept precursor).precursor holds.2 other addr⟩
  suspect holds other :=
    ⟨(replyRule_sound config).suspect holds.1 other,
      entry_setEntry kept cosmetic_markUnidir.dest suspect holds.2 other⟩
  linkBreak {state} holds other := by
    refine ⟨(replyRule_sound config).linkBreak holds.1 other, ?_⟩
    rcases neighborLinkBreak_cases config other state with far | ⟨broken, found, hcnt⟩
    · rw [far]
      exact holds.2
    · rw [entryAt_neighborLinkBreak config holds.1 found hcnt]
      exact cut other broken.flags.repair holds.2

namespace ReplyRule

theorem rrepRequestAck (rule : ReplyRule config property) (holds : property state)
    (revRt : RtEntry) : property (rrepRequestAck config revRt state) := by
  unfold Aodvd.rrepRequestAck
  split
  · split
    · exact holds
    · rename_i neighbor _
      split
      · have marked : property (removeTimer (.helloTimer neighbor.destAddr)
            (setEntry neighbor.destAddr RtEntry.markUnidir state)) :=
          rule.apart (rule.suspect holds neighbor.destAddr) rfl
        exact rule.apart (rule.linkBreak marked neighbor.destAddr) rfl
      · exact holds
  · exact holds

theorem rrepSend (rule : ReplyRule config property) (holds : property state) (revDest : Addr)
    (fwdDest : Option Addr) (size : Nat) :
    property (rrepSend config revDest fwdDest size state) := by
  unfold Aodvd.rrepSend
  split
  · exact holds
  · rename_i revRt _
    have sent : property (sendAlong config revDest size maxTtl
        (Aodvd.rrepRequestAck config revRt state)) :=
      rule.aside (rule.rrepRequestAck holds revRt) (aside_sendAlong ..)
    refine rule.helloOnDemand ?_
    split
    · exact sent
    · exact rule.updatePrecursors sent _ _

theorem created (rule : ReplyRule config property) (holds : property state) (revDest : Addr)
    (fwdDest : Option Addr) (hcnt : Nat) (about : Addr) (seqno : Seqno) (orig : Addr) (life : Nat) :
    property (Aodvd.rrepSend config revDest fwdDest rrepSize
      (rrepCreate hcnt about seqno orig life state)) :=
  have buffered : property (rrepCreate hcnt about seqno orig life state) :=
    rule.apart holds rfl
  rule.rrepSend buffered revDest fwdDest rrepSize

theorem rreqReply (rule : ReplyRule config property) (holds : property state) (rreq : Rreq)
    (fwdRt : RtEntry) : property (rreqReply config rreq fwdRt state) := by
  unfold Aodvd.rreqReply
  dsimp only
  split
  · unfold rreqGratuitousReply
    split
    · exact rule.created (rule.created holds ..) ..
    · exact rule.created holds ..
  · exact rule.created holds ..

theorem rreqContinue (rule : ReplyRule config property) (holds : property state) (rreq : Rreq)
    (len : Nat) (ipTtl : Int) (ifindex : Nat) :
    property (rreqContinue config rreq len ipTtl ifindex state) := by
  unfold Aodvd.rreqContinue
  split
  · unfold rreqAnswer
    split
    · exact holds
    · refine rule.created ?_ ..
      exact rule.apart holds rfl
  · split
    · exact rule.rreqPassOn holds _ _ _ _
    · split
      · exact rule.rreqReply holds rreq _
      · exact rule.rreqPassOn holds _ _ _ _

end ReplyRule

/-! ### Route errors -/

/-- The property of sound tables survives what a RERR does: writes aside, and the loss of a route
that was valid, with its precursors or without them. -/
structure ErrorRule (config : Config) (property : State → Prop) : Prop where
  sound : ∀ {state : State}, property state → state.rtTbl.Sound
  aside : ∀ {before after : State}, property before → Aside before after → property after
  hit : ∀ {state : State} {rt : RtEntry}, property state →
    entryAt state rt.destAddr = some rt → rt.state = .valid → ∀ noDelete seqno,
      property (rerrInvalidate config noDelete rt.destAddr seqno state) ∧
        ∀ {included}, Aside (rerrInvalidate config noDelete rt.destAddr seqno state) included →
          property (precursorListDestroy rt.destAddr included)

namespace ErrorRule

theorem rerrVisit (rule : ErrorRule config property) {loop : State × RerrDraft}
    (holds : property loop.1) (noDelete : Bool) (ipSrc : Addr) (udest : Addr × Seqno) :
    property (rerrVisit config noDelete ipSrc loop udest).1 := by
  by_cases hits : ∃ rt, rtTableFind loop.1 udest.1 = some rt ∧ rt.state = .valid ∧
      rt.nextHop = ipSrc
  · obtain ⟨rt, found, hit⟩ := hits
    obtain ⟨included, writes, result⟩ := rerrVisit_hit config noDelete found hit
    rw [rtTableFind_eq_entryAt (rule.sound holds)] at found
    obtain ⟨lost, dropped⟩ := rule.hit holds (entryAt_destAddr found ▸ found) hit.1 noDelete udest.2
    have aside : Aside (rerrInvalidate config noDelete rt.destAddr udest.2 loop.1) included.1 := by
      rcases writes with rfl | ⟨current, rfl⟩
      · exact .refl _
      · exact aside_rerrInclude ..
    rcases result with same | drops
    · rw [same]
      exact rule.aside lost aside
    · rw [drops]
      exact dropped aside
  · rwa [rerrVisit_miss config noDelete fun rt found hit => hits ⟨rt, found, hit⟩]

theorem rerrProcess (rule : ErrorRule config property) (holds : property state) (rerr : Rerr)
    (len : Nat) (ipSrc : Addr) : property (rerrProcess config rerr len ipSrc state) := by
  unfold Aodvd.rerrProcess
  split
  · exact holds
  · refine rule.aside ?_ (aside_rerrSend ..)
    exact List.foldlRecOn _ _ (motive := fun loop : State × RerrDraft => property loop.1) holds
      fun _ kept udest _ => rule.rerrVisit kept _ _ udest

end ErrorRule

theorem errorRule_sound (config : Config) : ErrorRule config fun state => state.rtTbl.Sound where
  sound := id
  aside sound aside := aside.rtTbl ▸ sound
  hit sound _ _ noDelete seqno :=
    have lost := sound.rerrInvalidate config noDelete _ seqno
    ⟨lost, fun aside => RoutingTable.Sound.setEntry (aside.rtTbl ▸ lost)
      gentle_precursorListDestroy _⟩

end Aodvd
