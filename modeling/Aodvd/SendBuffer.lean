/-
This file follows the one static buffer that every outgoing message is built in.

A message is created in the buffer and handed to `aodv_socket_send` from there. Every function
that does so hands over what it has created, with one exception: `rrep_send` gets a RREP that
its caller has created, and may break the link to its neighbour before it sends it. A link
break that has something to report assembles a RERR in the same buffer, and this is what then
leaves in the place of the RREP. Whether it happens can be read off the state in which
`rrep_send` is called.
-/

import Aodvd.RerrNotices

namespace Aodvd

variable {before after : State} (config : Config) (dst : Addr) (len : Nat) (rrep : Rrep)
  (ttl : Int) (state : State)

/-! ### Messages in the order of their creation -/

/-- The datagrams that leave between two states carry messages of a list, in its order. Some may
be missing, as `aodv_socket_send` can drop a datagram. -/
def Hands (created : List AodvMsg) (before after : State) : Prop :=
  ∃ sent, after.out = before.out ++ sent ∧ (sent.map Datagram.msg).Sublist created

theorem Hands.of_out {created : List AodvMsg} (out : after.out = before.out) :
    Hands created before after :=
  ⟨[], out.trans (List.append_nil _).symm, List.nil_sublist _⟩

theorem Hands.trans {first second : List AodvMsg} {between : State}
    (early : Hands first before between) (late : Hands second between after) :
    Hands (first ++ second) before after := by
  obtain ⟨sent, out, carried⟩ := early
  obtain ⟨later, laterOut, laterCarried⟩ := late
  refine ⟨sent ++ later, by rw [laterOut, out, List.append_assoc], ?_⟩
  rw [List.map_append]
  exact carried.append laterCarried

theorem Hands.mono {created more : List AodvMsg} (hands : Hands created before after)
    (part : created.Sublist more) : Hands more before after := by
  obtain ⟨sent, out, carried⟩ := hands
  exact ⟨sent, out, carried.trans part⟩

/-- What happens before and after a transmission sends nothing. -/
theorem Hands.around {created : List AodvMsg} {first second third fourth : State}
    (hands : Hands created second third) (before : second.out = first.out)
    (after : fourth.out = third.out) : Hands created first fourth := by
  obtain ⟨sent, out, carried⟩ := hands
  exact ⟨sent, by rw [after, out, before], carried⟩

theorem Hands.sentBetween {created : List AodvMsg} (hands : Hands created before after) :
    ((Aodvd.sentBetween before after).map Datagram.msg).Sublist created := by
  obtain ⟨sent, out, carried⟩ := hands
  rwa [sentBetween_of_out out]

theorem hands_aodvSocketSend (dev : Option Dev) (state : State) :
    Hands [state.sendBuf] state (aodvSocketSend config dst len ttl dev state) := by
  rcases out_aodvSocketSend config dst len ttl dev state with out | ⟨sender, _, out⟩
  · exact .of_out out
  · exact ⟨_, out, List.Sublist.refl _⟩

theorem hands_sendOnAll :
    Hands (List.replicate config.devs.length state.sendBuf) state
      (sendOnAll config len ttl state) := by
  rw [sendOnAll]
  induction config.devs generalizing state with
  | nil => exact .of_out rfl
  | cons dev rest inductionHypothesis =>
    have later := inductionHypothesis (aodvSocketSend config aodvBroadcast len ttl (some dev) state)
    rw [sendBuf_aodvSocketSend] at later
    exact (hands_aodvSocketSend config aodvBroadcast len ttl (some dev) state).trans later

/-- A message for one interface is one of the copies for all of them. -/
theorem hands_devIfindex (ifindex : Nat) (state : State) :
    Hands (List.replicate config.devs.length state.sendBuf) state
      (aodvSocketSend config dst len ttl (devIfindex config ifindex) state) := by
  cases enabled : devIfindex config ifindex with
  | none => exact .of_out rfl
  | some dev =>
    refine (hands_aodvSocketSend config dst len ttl (some dev) state).mono ?_
    have some := List.length_pos_of_mem (listed_devIfindex config ifindex dev enabled)
    exact List.singleton_sublist.mpr (List.mem_replicate.mpr ⟨Nat.ne_of_gt some, rfl⟩)

theorem hands_sendAlong (revDest : Addr) (size : Nat) (ttl : Int) (state : State) :
    Hands [state.sendBuf] state (sendAlong config revDest size ttl state) := by
  rw [sendAlong]
  split
  · exact .of_out rfl
  · exact hands_aodvSocketSend ..

/-! ### Requests and HELLOs -/

theorem numbers_aodvSocketSend (dev : Option Dev) (state : State) :
    (aodvSocketSend config dst len ttl dev state).rreqId = state.rreqId ∧
      (aodvSocketSend config dst len ttl dev state).seqno = state.seqno := by
  obtain ⟨_, _, _, _, result, _⟩ := aodvSocketSend_eq config dst len ttl dev state
  rw [result]
  exact ⟨rfl, rfl⟩

/-- The requests that the loop of `rreq_send` creates. -/
def rreqsOf (flags : RreqFlags) (destAddr : Addr) (destSeqno : Seqno) :
    List Dev → BitVec 32 → Seqno → List AodvMsg
  | [], _, _ => []
  | dev :: rest, rreqId, seqno =>
    .rreq ⟨flags, 0, rreqId, destAddr, destSeqno, dev.ipaddr, seqnoIncr seqno, []⟩ ::
      rreqsOf flags destAddr destSeqno rest (rreqId + 1#32) (seqnoIncr seqno)

theorem hands_rreqRounds (flags : RreqFlags) (destAddr : Addr) (destSeqno : Seqno) (ttl : Nat)
    (devs : List Dev) (state : State) :
    Hands (rreqsOf flags destAddr destSeqno devs state.rreqId state.seqno) state
      (devs.foldl (fun state dev => aodvSocketSend config aodvBroadcast rreqSize ttl (some dev)
        (rreqCreate flags destAddr destSeqno dev.ipaddr state)) state) := by
  induction devs generalizing state with
  | nil => exact .of_out rfl
  | cons dev rest inductionHypothesis =>
    have first := hands_aodvSocketSend config aodvBroadcast rreqSize ttl (some dev)
      (rreqCreate flags destAddr destSeqno dev.ipaddr state)
    have numbers := numbers_aodvSocketSend config aodvBroadcast rreqSize ttl (some dev)
      (rreqCreate flags destAddr destSeqno dev.ipaddr state)
    have later := inductionHypothesis (aodvSocketSend config aodvBroadcast rreqSize ttl (some dev)
      (rreqCreate flags destAddr destSeqno dev.ipaddr state))
    rw [numbers.1, numbers.2] at later
    exact (first.around rfl rfl).trans later

theorem hands_helloSend :
    Hands (config.devs.zipIdx.map fun numbered =>
      (helloCreate config numbered.2 numbered.1 state).sendBuf) state (helloSend config state) := by
  rcases out_helloSend config state with silent | sent
  · exact .of_out silent
  · refine ⟨_, sent, ?_⟩
    rw [List.map_map]
    exact List.Sublist.refl _

/-! ### RERRs -/

theorem hands_rerrSend (draft : RerrDraft) (state : State) :
    Hands (List.replicate config.devs.length state.sendBuf) state (rerrSend config draft state) := by
  have broadcast (size count : Nat) : Hands (List.replicate config.devs.length state.sendBuf) state
      (if 0 < count then sendOnAll config size 1 state else state) := by
    split
    · exact hands_sendOnAll ..
    · exact .of_out rfl
  unfold rerrSend
  split
  · dsimp only
    split
    · split
      · exact hands_devIfindex ..
      · exact broadcast ..
    · exact broadcast ..
  · exact .of_out rfl

/-- A loop over unreachable destinations hands over the RERR about the entries it has listed. -/
theorem Drafts.hands {noDelete : Bool} {listed : List RtEntry} {loop : State × RerrDraft}
    (drafts : Drafts noDelete before listed loop) (config : Config) :
    Hands (List.replicate config.devs.length (rerrOf noDelete listed)) before
      (rerrSend config loop.2 loop.1) := by
  by_cases none : listed = []
  · have uncreated : loop.2.created = false := by rw [drafts.created, none]; rfl
    rw [rerrSend, uncreated]
    exact .of_out drafts.out
  · have buffer : loop.1.sendBuf = rerrOf noDelete listed := by rw [drafts.buffer, if_neg none]
    rw [← buffer]
    exact (hands_rerrSend config loop.2 loop.1).around drafts.out rfl

theorem hands_neighborLinkBreak {dest : Addr} {state : State} {rt : RtEntry}
    (sound : state.rtTbl.Sound) (found : entryAt state dest = some rt) :
    Hands (List.replicate config.devs.length (rerrOf false (linkBreakListed rt state))) state
      (neighborLinkBreak config dest state) := by
  obtain rfl := entryAt_destAddr found
  by_cases near : rt.hcnt = 1
  · obtain ⟨loop, result, drafts⟩ := neighborLinkBreak_drafts config sound found near
    rw [result]
    exact drafts.hands config
  · rw [neighborLinkBreak_of_far config fun other there hcnt =>
      near (Option.some.inj (found.symm.trans there) ▸ hcnt)]
    exact .of_out rfl

theorem hands_rerrProcess (rerr : Rerr) (len : Nat) (ipSrc : Addr) {state : State}
    (sound : state.rtTbl.Sound) :
    Hands (List.replicate config.devs.length (rerrOf rerr.noDelete (rerrListed config rerr.noDelete
      ipSrc (rerr.udest.take rerr.destCount) (state, .none)))) state
      (rerrProcess config rerr len ipSrc state) := by
  rw [rerrProcess]
  split
  · exact .of_out rfl
  · exact ((forwards_none rerr.noDelete sound).visits config ipSrc _).drafts.hands config

theorem hands_localRepairTimeout {dest : Addr} {state : State} {rt : RtEntry}
    (found : entryAt state dest = some rt) :
    Hands (List.replicate config.devs.length (.rerr ⟨false, 1, [(rt.destAddr, rt.destSeqno)]⟩)) state
      (localRepairTimeout config dest state) := by
  have report (state : State) :
      Hands (List.replicate config.devs.length (.rerr ⟨false, 1, [(rt.destAddr, rt.destSeqno)]⟩))
        state (repairReport config rt state) := by
    rw [repairReport]
    split
    · exact .of_out rfl
    · dsimp only
      split
      · exact (hands_devIfindex config _ _ _ _ _).around rfl rfl
      · exact (hands_sendOnAll config _ _ _).around rfl rfl
  rw [localRepairTimeout, found]
  exact (report (nlSendDelRouteMsg rt.destAddr rt.nextHop rt.hcnt
    (setEntry dest RtEntry.unmarkRepair state))).around rfl rfl

theorem hands_sendRerrForUnknownDest (destAddr : Addr) (fwdRt revRt : Option RtEntry)
    (ifindex : Nat) (state : State) :
    Hands [.rerr ⟨false, 1, [((fwdRt.map RtEntry.destAddr).getD destAddr,
        (fwdRt.map RtEntry.destSeqno).getD 0#32)]⟩] state
      (sendRerrForUnknownDest config destAddr fwdRt revRt ifindex state) := by
  obtain ⟨created, dst, timed, waits⟩ :=
    sendRerrForUnknownDest_eq config destAddr fwdRt revRt ifindex state
  obtain ⟨timers, rfl⟩ := timed.same
  exact (hands_aodvSocketSend config dst (rerrCalcSize 1) 1 (devIfindex config ifindex) _).around rfl
    (out_timerActs waits)

theorem hands_rrepReportRepair {old fwdRt : RtEntry} {state : State}
    (found : entryAt state rrep.destAddr = some fwdRt) :
    Hands [.rerr ⟨true, 1, [(fwdRt.destAddr, fwdRt.destSeqno)]⟩] state
      (rrepReportRepair config rrep (some old) state) := by
  unfold rrepReportRepair
  rw [found]
  dsimp only
  split
  · split
    · exact .of_out rfl
    · exact (hands_aodvSocketSend config _ _ _ _ _).around rfl rfl
  · exact .of_out rfl

/-! ### RREPs that are passed on -/

theorem hands_rrepForward (size : Nat) (revDest : Addr) {fwdDest : Addr} (ttl : Int)
    {state : State} {fwdRt : RtEntry} (found : entryAt state fwdDest = some fwdRt) :
    Hands [.rrep { rrep with hcnt := fwdRt.hcnt }] state
      (rrepForward config rrep size revDest fwdDest ttl state) := by
  rw [rrepForward, found]
  refine (hands_sendAlong config revDest size ttl
    { state with sendBuf := .rrep { rrep with hcnt := fwdRt.hcnt } }).around rfl ?_
  refine (out_timerActs (rtTableUpdateTimeout_acts revDest _ _)).trans ?_
  unfold updatePrecursors
  split <;> rfl

theorem hands_rrepAcknowledge : Hands [.rrepAck] state (rrepAcknowledge config rrep state) := by
  rw [rrepAcknowledge]
  split
  · exact (hands_sendAlong config rrep.destAddr nextHopWait maxTtl _).around rfl rfl
  · exact .of_out rfl

/-! ### A RREP that a link break overwrites -/

/-- A link break reports something exactly if an entry it takes away has precursors. -/
theorem linkBreakListed_ne_nil_iff {state : State} {broken : RtEntry} (sound : state.rtTbl.Sound)
    (found : entryAt state broken.destAddr = some broken) :
    linkBreakListed broken state ≠ [] ↔ ∃ dest rt, entryAt state dest = some rt ∧ rt.nprec ≠ 0 ∧
      rt.lostBy broken.destAddr broken.flags.repair = true := by
  rw [linkBreakListed, reported, ne_eq, List.map_eq_nil_iff, List.filter_eq_nil_iff]
  simp only [Bool.and_eq_true, decide_eq_true_eq, not_forall, not_not, exists_prop]
  constructor
  · rintro ⟨rt, member, lost⟩
    exact ⟨rt.destAddr, rt, entryAt_of_visited sound found member, lost⟩
  · rintro ⟨dest, rt, there, lost⟩
    refine ⟨rt, ?_, lost⟩
    obtain ⟨member, rfl⟩ := sound.entryAt_eq_some_iff.mp there
    by_cases self : rt.destAddr = broken.destAddr
    · obtain rfl := Option.some.inj (found.symm.trans (self ▸ there))
      exact List.mem_cons_self
    · exact List.mem_cons_of_mem _ (List.mem_filter.mpr ⟨member, decide_eq_true self⟩)

/-- The neighbour whose link `rrep_send` takes for unidirectional. -/
def suspected (config : Config) (revRt : RtEntry) (state : State) : Option RtEntry :=
  if (revRt.state = .valid ∧ revRt.flags.unidir = true) ∨
      (revRt.hcnt = 1 ∧ config.unidirHack = true) then
    (entryAt state revRt.nextHop).filter fun neighbor =>
      decide (neighbor.state = .valid) && !timerUsed state (.ackTimer neighbor.destAddr)
  else none

theorem entryAt_suspected {config : Config} {revRt neighbor : RtEntry} {state : State}
    (suspects : suspected config revRt state = some neighbor) :
    entryAt state neighbor.destAddr = some neighbor := by
  rw [suspected] at suspects
  split at suspects
  · have found := (Option.filter_eq_some_iff.mp suspects).1
    exact entryAt_destAddr found ▸ found
  · exact nomatch suspects

/-- The state in which the link to a suspected neighbour is broken. -/
def markSuspect (dest : Addr) (state : State) : State :=
  removeTimer (.helloTimer dest) (setEntry dest RtEntry.markUnidir state)

theorem entryAt_markSuspect (marked dest : Addr) (state : State) :
    entryAt (markSuspect marked state) dest =
      if dest = marked then (entryAt state dest).map RtEntry.markUnidir else entryAt state dest := by
  show entryAt (setEntry marked RtEntry.markUnidir state) dest = _
  rw [entryAt_setEntry cosmetic_markUnidir.dest]
  split
  · rename_i here
    rw [here]
  · rfl

theorem rrepRequestAck_eq (revRt : RtEntry) {state : State} (sound : state.rtTbl.Sound) :
    rrepRequestAck config revRt state =
      match suspected config revRt state with
      | none => state
      | some neighbor => setTimeout (.ackTimer neighbor.destAddr) nextHopWait
          (neighborLinkBreak config neighbor.destAddr (markSuspect neighbor.destAddr state)) := by
  rw [rrepRequestAck, suspected, rtTableFind_eq_entryAt sound]
  by_cases asks : (revRt.state = .valid ∧ revRt.flags.unidir = true) ∨
      (revRt.hcnt = 1 ∧ config.unidirHack = true)
  · rw [if_pos asks, if_pos asks]
    cases found : entryAt state revRt.nextHop with
    | none => rfl
    | some neighbor =>
      dsimp only
      by_cases suspects : neighbor.state = .valid ∧
          timerUsed state (.ackTimer neighbor.destAddr) = false
      · rw [if_pos suspects, Option.filter_some_pos (by simp [suspects.1, suspects.2])]
        rfl
      · rw [if_neg suspects, Option.filter_some_neg (by simpa using suspects)]
  · rw [if_neg asks, if_neg asks]

/-- `rrep_send` breaks a link, and a route it takes away has precursors. -/
def BreaksReported (config : Config) (revDest : Addr) (state : State) : Prop :=
  ∃ revRt neighbor, entryAt state revDest = some revRt ∧
    suspected config revRt state = some neighbor ∧ neighbor.hcnt = 1 ∧
    ∃ dest rt, entryAt state dest = some rt ∧ rt.nprec ≠ 0 ∧
      rt.lostBy neighbor.destAddr neighbor.flags.repair = true

/-- The mark of a unidirectional link does not change what is lost. -/
theorem lost_markSuspect_iff {state : State} {neighbor : Addr} {repair : Bool} (marked : Addr) :
    (∃ dest rt, entryAt (markSuspect marked state) dest = some rt ∧ rt.nprec ≠ 0 ∧
        rt.lostBy neighbor repair = true) ↔
      ∃ dest rt, entryAt state dest = some rt ∧ rt.nprec ≠ 0 ∧
        rt.lostBy neighbor repair = true := by
  have lost (rt : RtEntry) : rt.markUnidir.lostBy neighbor repair = rt.lostBy neighbor repair := rfl
  constructor
  · rintro ⟨dest, rt, found, precursors, isLost⟩
    rw [entryAt_markSuspect] at found
    split at found
    · obtain ⟨old, oldFound, rfl⟩ := Option.map_eq_some_iff.mp found
      exact ⟨dest, old, oldFound, precursors, (lost old).symm.trans isLost⟩
    · exact ⟨dest, rt, found, precursors, isLost⟩
  · rintro ⟨dest, rt, found, precursors, isLost⟩
    by_cases here : dest = marked
    · refine ⟨dest, rt.markUnidir, ?_, precursors, (lost rt).trans isLost⟩
      rw [entryAt_markSuspect, if_pos here, found, Option.map_some]
    · refine ⟨dest, rt, ?_, precursors, isLost⟩
      rw [entryAt_markSuspect, if_neg here, found]

/-- What the buffer holds after the link to a suspected neighbour has been broken. -/
theorem sendBuf_suspected_iff {state : State} {neighbor : RtEntry} {rrep : Rrep}
    (sound : state.rtTbl.Sound) (found : entryAt state neighbor.destAddr = some neighbor)
    (holds : state.sendBuf = .rrep rrep) :
    (neighborLinkBreak config neighbor.destAddr (markSuspect neighbor.destAddr state)).sendBuf =
        .rrep rrep ↔
      ¬ (neighbor.hcnt = 1 ∧ ∃ dest rt, entryAt state dest = some rt ∧ rt.nprec ≠ 0 ∧
        rt.lostBy neighbor.destAddr neighbor.flags.repair = true) := by
  have marked : (markSuspect neighbor.destAddr state).rtTbl.Sound :=
    sound.setEntry cosmetic_markUnidir.toGentle neighbor.destAddr
  have there : entryAt (markSuspect neighbor.destAddr state) neighbor.markUnidir.destAddr =
      some neighbor.markUnidir := by
    refine (entryAt_markSuspect neighbor.destAddr neighbor.destAddr state).trans ?_
    rw [if_pos rfl, found, Option.map_some]
  by_cases near : neighbor.hcnt = 1
  · have buffer := sendBuf_neighborLinkBreak config marked there near
    have listed : linkBreakListed neighbor.markUnidir (markSuspect neighbor.destAddr state) ≠ [] ↔
        ∃ dest rt, entryAt state dest = some rt ∧ rt.nprec ≠ 0 ∧
          rt.lostBy neighbor.destAddr neighbor.flags.repair = true :=
      (linkBreakListed_ne_nil_iff marked there).trans (lost_markSuspect_iff neighbor.destAddr)
    rw [and_iff_right near, ← listed, not_not]
    refine (iff_of_eq (congrArg (· = AodvMsg.rrep rrep) buffer)).trans ?_
    by_cases none : linkBreakListed neighbor.markUnidir (markSuspect neighbor.destAddr state) = []
    · rw [if_pos none]
      exact iff_of_true holds none
    · obtain ⟨udest, shape, _⟩ := rerrOf_eq false
        (linkBreakListed neighbor.markUnidir (markSuspect neighbor.destAddr state))
      rw [if_neg none, shape]
      exact iff_of_false (fun same => AodvMsg.noConfusion same) none
  · have far (other : RtEntry)
        (otherFound : entryAt (markSuspect neighbor.destAddr state) neighbor.destAddr = some other) :
        other.hcnt ≠ 1 := by
      obtain rfl := Option.some.inj (there.symm.trans otherFound)
      exact near
    rw [neighborLinkBreak_of_far config far]
    exact iff_of_true holds fun breaks => near breaks.1

/-- The RREP is still in the buffer when `rrep_send` hands it over exactly if no link break has
had anything to report. -/
theorem sendBuf_rrepRequestAck_iff {revDest : Addr} {state : State} {revRt : RtEntry}
    {rrep : Rrep} (sound : state.rtTbl.Sound) (found : entryAt state revDest = some revRt)
    (holds : state.sendBuf = .rrep rrep) :
    (rrepRequestAck config revRt state).sendBuf = .rrep rrep ↔
      ¬ BreaksReported config revDest state := by
  rw [rrepRequestAck_eq config revRt sound]
  have only (neighbor : RtEntry) (suspects : suspected config revRt state = some neighbor) :
      BreaksReported config revDest state ↔ neighbor.hcnt = 1 ∧ ∃ dest rt,
        entryAt state dest = some rt ∧ rt.nprec ≠ 0 ∧
          rt.lostBy neighbor.destAddr neighbor.flags.repair = true := by
    constructor
    · rintro ⟨other, otherNeighbor, there, same, breaks⟩
      obtain rfl := Option.some.inj (found.symm.trans there)
      obtain rfl := Option.some.inj (suspects.symm.trans same)
      exact breaks
    · exact fun breaks => ⟨revRt, neighbor, found, suspects, breaks⟩
  cases suspects : suspected config revRt state with
  | none =>
    refine iff_of_true holds ?_
    rintro ⟨other, neighbor, there, same, _⟩
    obtain rfl := Option.some.inj (found.symm.trans there)
    exact nomatch suspects.symm.trans same
  | some neighbor =>
    rw [only neighbor suspects]
    exact sendBuf_suspected_iff config sound (entryAt_suspected suspects) holds

/-! ### All senders -/

/-- A call of one of the functions that hand a message to `aodv_socket_send`. The RREP of
`rrep_send` is the one its caller has created. -/
inductive Sender
  | helloSend
  | rreqSend (destAddr : Addr) (destSeqno : Seqno) (ttl : Nat) (flags : RreqFlags)
  | rreqForward (rreq : Rreq) (size : Nat) (ttl : Int)
  | rrepSend (rrep : Rrep) (revDest : Addr) (fwdDest : Option Addr) (size : Nat)
  | rrepForward (rrep : Rrep) (size : Nat) (revDest fwdDest : Addr) (ttl : Int)
  | rrepAcknowledge (rrep : Rrep)
  | rrepReportRepair (rrep : Rrep) (before : Option RtEntry)
  | neighborLinkBreak (dest : Addr)
  | rerrProcess (rerr : Rerr) (len : Nat) (ipSrc : Addr)
  | localRepairTimeout (dest : Addr)
  | sendRerrForUnknownDest (destAddr : Addr) (fwdRt revRt : Option RtEntry) (ifindex : Nat)

def Sender.call (config : Config) (state : State) : Sender → State
  | .helloSend => Aodvd.helloSend config state
  | .rreqSend destAddr destSeqno ttl flags =>
    Aodvd.rreqSend config destAddr destSeqno ttl flags state
  | .rreqForward rreq size ttl => Aodvd.rreqForward config rreq size ttl state
  | .rrepSend rrep revDest fwdDest size =>
    Aodvd.rrepSend config revDest fwdDest size { state with sendBuf := .rrep rrep }
  | .rrepForward rrep size revDest fwdDest ttl =>
    Aodvd.rrepForward config rrep size revDest fwdDest ttl state
  | .rrepAcknowledge rrep => Aodvd.rrepAcknowledge config rrep state
  | .rrepReportRepair rrep before => Aodvd.rrepReportRepair config rrep before state
  | .neighborLinkBreak dest => Aodvd.neighborLinkBreak config dest state
  | .rerrProcess rerr len ipSrc => Aodvd.rerrProcess config rerr len ipSrc state
  | .localRepairTimeout dest => Aodvd.localRepairTimeout config dest state
  | .sendRerrForUnknownDest destAddr fwdRt revRt ifindex =>
    Aodvd.sendRerrForUnknownDest config destAddr fwdRt revRt ifindex state

/-- The message that a call has created for each of its own calls of `aodv_socket_send`. -/
def Sender.created (config : Config) (state : State) : Sender → List AodvMsg
  | .helloSend => config.devs.zipIdx.map fun numbered =>
      (helloCreate config numbered.2 numbered.1 state).sendBuf
  | .rreqSend destAddr destSeqno _ flags =>
    rreqsOf (if config.rreqGratuitous then { flags with gratuitous := true } else flags) destAddr
      destSeqno config.devs state.rreqId state.seqno
  | .rreqForward rreq _ _ =>
    List.replicate config.devs.length (.rreq { rreq with hcnt := (rreq.hcnt + 1) % 256 })
  | .rrepSend rrep revDest _ _ => (entryAt state revDest).toList.map fun _ => .rrep rrep
  | .rrepForward rrep _ _ fwdDest _ =>
    (entryAt state fwdDest).toList.flatMap fun fwdRt => [.rrep { rrep with hcnt := fwdRt.hcnt }]
  | .rrepAcknowledge _ => [.rrepAck]
  | .rrepReportRepair rrep _ => (entryAt state rrep.destAddr).toList.flatMap fun fwdRt =>
      [.rerr ⟨true, 1, [(fwdRt.destAddr, fwdRt.destSeqno)]⟩]
  | .neighborLinkBreak dest => (entryAt state dest).toList.flatMap fun rt =>
      List.replicate config.devs.length (rerrOf false (linkBreakListed rt state))
  | .rerrProcess rerr _ ipSrc =>
    List.replicate config.devs.length (rerrOf rerr.noDelete (rerrListed config rerr.noDelete ipSrc
      (rerr.udest.take rerr.destCount) (state, .none)))
  | .localRepairTimeout dest => (entryAt state dest).toList.flatMap fun rt =>
      List.replicate config.devs.length (.rerr ⟨false, 1, [(rt.destAddr, rt.destSeqno)]⟩)
  | .sendRerrForUnknownDest destAddr fwdRt _ _ =>
    [.rerr ⟨false, 1, [((fwdRt.map RtEntry.destAddr).getD destAddr,
      (fwdRt.map RtEntry.destSeqno).getD 0#32)]⟩]

/-- The messages that leave by the calls of `aodv_socket_send` of a sender itself. Those of
`rrep_send` are told apart from the RERRs of its link break and the HELLO that may follow: its own
is what the buffer holds when it sends it. -/
def Sender.handed (config : Config) (state : State) : Sender → List AodvMsg
  | .rrepSend rrep revDest _ _ => (entryAt state revDest).toList.map fun revRt =>
      (rrepRequestAck config revRt { state with sendBuf := .rrep rrep }).sendBuf
  | sender => (sentBetween state (sender.call config state)).map Datagram.msg

/-- A message is overwritten before it is handed over. -/
def Sender.Overwritten (config : Config) (state : State) : Sender → Prop
  | .rrepSend _ revDest _ _ => BreaksReported config revDest state
  | _ => False

/-- A sender that has created nothing for a missing entry sends nothing. -/
theorem hands_toList {α : Type} {found : Option α} {created : α → List AodvMsg}
    (silent : found = none → after.out = before.out)
    (hands : ∀ value, found = some value → Hands (created value) before after) :
    Hands (found.toList.flatMap created) before after := by
  cases found with
  | none => exact .of_out (silent rfl)
  | some value =>
    rw [Option.toList_some, List.flatMap_singleton]
    exact hands value rfl

section

variable {sender : Sender}

theorem Sender.handed_of_other
    (other : ∀ rrep revDest fwdDest size, sender ≠ .rrepSend rrep revDest fwdDest size)
    (config : Config) (state : State) :
    sender.handed config state = (sentBetween state (sender.call config state)).map Datagram.msg := by
  cases sender with
  | rrepSend rrep revDest fwdDest size => exact absurd rfl (other rrep revDest fwdDest size)
  | _ => rfl

theorem Sender.not_overwritten_of_other
    (other : ∀ rrep revDest fwdDest size, sender ≠ .rrepSend rrep revDest fwdDest size)
    (config : Config) (state : State) : ¬ sender.Overwritten config state := by
  cases sender with
  | rrepSend rrep revDest fwdDest size => exact absurd rfl (other rrep revDest fwdDest size)
  | _ => exact id

theorem Sender.hands
    (other : ∀ rrep revDest fwdDest size, sender ≠ .rrepSend rrep revDest fwdDest size)
    (config : Config) {state : State} (sound : state.rtTbl.Sound) :
    Hands (sender.created config state) state (sender.call config state) := by
  cases sender with
  | helloSend => exact hands_helloSend config state
  | rreqSend destAddr destSeqno ttl flags => exact hands_rreqRounds config _ destAddr destSeqno ttl _ _
  | rreqForward rreq size ttl => exact (hands_sendOnAll config size ttl _).around rfl rfl
  | rrepSend rrep revDest fwdDest size => exact absurd rfl (other rrep revDest fwdDest size)
  | rrepForward rrep size revDest fwdDest ttl =>
    refine hands_toList (fun missing => ?_) fun _ => hands_rrepForward config rrep size revDest ttl
    rw [Sender.call, Aodvd.rrepForward, missing]
  | rrepAcknowledge rrep => exact hands_rrepAcknowledge config rrep state
  | rrepReportRepair rrep before =>
    cases before with
    | none => exact .of_out rfl
    | some old =>
      refine hands_toList (fun missing => ?_) fun _ => hands_rrepReportRepair config rrep
      show (Aodvd.rrepReportRepair config rrep (some old) state).out = state.out
      unfold Aodvd.rrepReportRepair
      rw [missing]
  | neighborLinkBreak dest =>
    refine hands_toList (fun missing => ?_) fun _ => hands_neighborLinkBreak config sound
    rw [Sender.call, Aodvd.neighborLinkBreak, missing]
  | rerrProcess rerr len ipSrc => exact hands_rerrProcess config rerr len ipSrc sound
  | localRepairTimeout dest =>
    refine hands_toList (fun missing => ?_) fun _ => hands_localRepairTimeout config
    rw [Sender.call, Aodvd.localRepairTimeout, missing]
  | sendRerrForUnknownDest destAddr fwdRt revRt ifindex =>
    exact hands_sendRerrForUnknownDest config destAddr fwdRt revRt ifindex state

end

/-- In every state with a sound table, a sender hands over the messages it has created, in
order, exactly if none is overwritten. -/
theorem sender_handed_iff (config : Config) (state : State) (sound : state.rtTbl.Sound)
    (sender : Sender) :
    (sender.handed config state).Sublist (sender.created config state) ↔
      ¬ sender.Overwritten config state := by
  by_cases own : ∃ rrep revDest fwdDest size, sender = .rrepSend rrep revDest fwdDest size
  · obtain ⟨rrep, revDest, fwdDest, size, rfl⟩ := own
    rw [Sender.handed, Sender.created, Sender.Overwritten]
    cases found : entryAt state revDest with
    | none =>
      refine iff_of_true (List.Sublist.refl _) ?_
      rintro ⟨revRt, _, there, _⟩
      exact nomatch found.symm.trans there
    | some revRt =>
      have intact : (rrepRequestAck config revRt { state with sendBuf := .rrep rrep }).sendBuf =
          .rrep rrep ↔ ¬ BreaksReported config revDest { state with sendBuf := .rrep rrep } :=
        sendBuf_rrepRequestAck_iff config sound found rfl
      rw [Option.toList_some, List.map_singleton, List.map_singleton, List.singleton_sublist,
        List.mem_singleton]
      exact intact
  · have other (rrep : Rrep) (revDest : Addr) (fwdDest : Option Addr) (size : Nat) :
        sender ≠ .rrepSend rrep revDest fwdDest size :=
      fun same => own ⟨rrep, revDest, fwdDest, size, same⟩
    rw [Sender.handed_of_other other]
    exact iff_of_true (Sender.hands other config sound).sentBetween
      (Sender.not_overwritten_of_other other config state)

/-! ### A neighbour that asks for this node -/

/-- Node 2 asks for node 9. -/
def seeking : List Input :=
  [inputAt 15000 .timers,
    inputAt 16100 (.message ⟨.rreq ⟨.none, 0, 1#32, 9#32, 0#32, 2#32, 1#32, []⟩, rreqSize, 2#32,
      aodvBroadcast, 5, 1⟩)]

/-- The reply of this node to node 2. -/
def ownReply : Rrep := ⟨false, false, 0, 1#32, 3#32, 2#32, 6000, []⟩

theorem not_breaksReported_seeking :
    ¬ BreaksReported hackConfig 2#32 (run hackConfig timevalZero 0 seeking) := by
  have bare : ∀ rt ∈ rtEntries (run hackConfig timevalZero 0 seeking), rt.nprec = 0 := by
    decide +kernel
  rintro ⟨_, _, _, _, _, dest, rt, found, precursors, _⟩
  have sound := (atRest_run hackConfig timevalZero 0 seeking).sound
  exact precursors (bare rt (sound.entryAt_eq_some_iff.mp found).1)

/-- The link to node 2 is suspected and broken, but there is nothing to report. -/
theorem sender_handed_iff_seeking :
    Sender.handed hackConfig (run hackConfig timevalZero 0 seeking)
        (.rrepSend ownReply 2#32 none rrepSize) = [.rrep ownReply] ∧
      (Sender.handed hackConfig (run hackConfig timevalZero 0 seeking)
        (.rrepSend ownReply 2#32 none rrepSize)).Sublist
        (Sender.created hackConfig (run hackConfig timevalZero 0 seeking)
          (.rrepSend ownReply 2#32 none rrepSize)) :=
  ⟨by decide +kernel, (sender_handed_iff hackConfig _
    (atRest_run hackConfig timevalZero 0 seeking).sound
    (.rrepSend ownReply 2#32 none rrepSize)).mpr not_breaksReported_seeking⟩

/-- Node 2 has been answered over node 3, which is now a precursor of the route to node 2. -/
def answered : List Input :=
  seeking ++ [inputAt 16200 (.message ⟨.rrep ⟨false, false, 1, 9#32, 5#32, 2#32, 6000, []⟩,
    rrepSize, 3#32, 1#32, 5, 1⟩)]

/-- Node 2 asks for this node. -/
def asked : Input :=
  inputAt 16300 (.message ⟨.rreq ⟨.none, 0, 2#32, 1#32, 0#32, 2#32, 2#32, []⟩, rreqSize, 2#32,
    aodvBroadcast, 5, 1⟩)

/-- In the place of its RREP, node 2 gets the RERR that says that node 2 is unreachable. -/
theorem sender_overwritten :
    ¬ (Sender.handed hackConfig (run hackConfig timevalZero 0 answered)
        (.rrepSend ownReply 2#32 none rrepSize)).Sublist
        (Sender.created hackConfig (run hackConfig timevalZero 0 answered)
          (.rrepSend ownReply 2#32 none rrepSize)) ∧
      (run hackConfig timevalZero 0 (answered ++ [asked])).out =
        [⟨1#32, 3#32, 1, 12, .rerr ⟨false, 1, [(2#32, 3#32)]⟩⟩,
          ⟨1#32, 2#32, 255, rrepSize, .rerr ⟨false, 1, [(2#32, 3#32)]⟩⟩] := by
  decide +kernel

end Aodvd
