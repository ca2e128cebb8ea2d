/-
This file says exactly when an event takes the sequence number of a destination back.

A HELLO and a RERR write their number without a comparison. Beyond that, one event can do it: a RREQ
brings the greatest positive number, and a reply to it breaks the link that the route to its
originator uses. The route is lost then, and its incremented number is negative. The entry of the
originator is followed from the reverse route through the reply and the gratuitous RREP.
-/

import Aodvd.ReverseRoutes

namespace Aodvd

/-! ### The check of a reply -/

/-- The check that `rrep_send` makes on the way along a route breaks the link that the route to a
destination uses. -/
def CheckBreaks (config : Config) (route dest : Addr) (state : State) : Prop :=
  ∃ revRt neighbor rt, entryAt state route = some revRt ∧
    suspected config revRt state = some neighbor ∧ neighbor.hcnt = 1 ∧
    entryAt state dest = some rt ∧ (dest = neighbor.destAddr ∨ rt.nextHop = neighbor.destAddr)

/-- A valid route has the greatest positive number. -/
def Topped (dest : Addr) (state : State) : Prop :=
  ∃ rt, entryAt state dest = some rt ∧ rt.state = .valid ∧ rt.destSeqno = topSeqno

/-- A route with the greatest positive number has been lost. -/
def Toppled (dest : Addr) (state : State) : Prop :=
  ∃ rt, entryAt state dest = some rt ∧ rt.state = .invalid ∧ rt.destSeqno = seqnoIncr topSeqno

/-- A route with the greatest positive number is lost if a link breaks, and otherwise kept. -/
def Outcome (breaks : Prop) (dest : Addr) (state : State) : Prop :=
  breaks ∧ Toppled dest state ∨ ¬ breaks ∧ Topped dest state

theorem Outcome.congr {breaks same : Prop} {dest : Addr} {state : State}
    (outcome : Outcome breaks dest state) (iff : breaks ↔ same) : Outcome same dest state :=
  outcome.imp (And.imp_left iff.mp) (And.imp_left (mt iff.mpr))

theorem RtEntry.cut_lost {rt : RtEntry} {neighbor dest : Addr} (repair : Bool)
    (valid : rt.state = .valid) (uses : dest = neighbor ∨ rt.nextHop = neighbor) :
    (rt.cut neighbor repair dest).state = .invalid ∧
      (rt.cut neighbor repair dest).destSeqno = seqnoIncr rt.destSeqno := by
  unfold RtEntry.cut RtEntry.retired
  rw [if_pos valid]
  split
  · split
    · exact ⟨rfl, rfl⟩
    · exact ⟨rfl, rfl⟩
  · rename_i different
    rw [if_pos ⟨valid, uses.resolve_left different⟩]
    split
    · exact ⟨rfl, rfl⟩
    · exact ⟨rfl, rfl⟩

section

variable {config : Config} {state : State} {revDest dest : Addr} {revRt : RtEntry}

/-- The entry of a destination after `rrep_send`, up to its flags: as it was, or cut. -/
theorem rrepSend_entry (sound : state.rtTbl.Sound) (route : entryAt state revDest = some revRt)
    (fwdDest : Option Addr) (size : Nat) {rt : RtEntry} (found : entryAt state dest = some rt) :
    ∃ marked new, marked.state = rt.state ∧ marked.nextHop = rt.nextHop ∧
      marked.destSeqno = rt.destSeqno ∧
      entryAt (rrepSend config revDest fwdDest size state) dest = some new ∧
      ((∃ neighbor, suspected config revRt state = some neighbor ∧ neighbor.hcnt = 1 ∧
          SameRoute new (marked.cut neighbor.destAddr neighbor.flags.repair dest)) ∨
        ((∀ neighbor, suspected config revRt state = some neighbor → neighbor.hcnt ≠ 1) ∧
          SameRoute new marked)) := by
  obtain ⟨marked, either, entry⟩ := rrepRequestAck_entry config revRt sound found
  have same : marked.state = rt.state ∧ marked.nextHop = rt.nextHop ∧
      marked.destSeqno = rt.destSeqno := by
    rcases either with rfl | rfl
    · exact ⟨rfl, rfl, rfl⟩
    · exact ⟨rfl, rfl, rfl⟩
  have routes := sameRoutes_rrepSend config route fwdDest size
  rcases entry with ⟨neighbor, suspects, near, there⟩ | ⟨far, there⟩
  · obtain ⟨new, after, agree⟩ := routes.some there
    exact ⟨marked, new, same.1, same.2.1, same.2.2, after, .inl ⟨neighbor, suspects, near, agree⟩⟩
  · obtain ⟨new, after, agree⟩ := routes.some there
    exact ⟨marked, new, same.1, same.2.1, same.2.2, after, .inr ⟨far, agree⟩⟩

/-- A route with the greatest number is lost in `rrep_send` exactly if the check breaks its link. -/
theorem Topped.sent (topped : Topped dest state) (sound : state.rtTbl.Sound)
    (route : entryAt state revDest = some revRt) (fwdDest : Option Addr) (size : Nat) :
    Outcome (CheckBreaks config revDest dest state) dest
      (rrepSend config revDest fwdDest size state) := by
  obtain ⟨rt, found, valid, top⟩ := topped
  obtain ⟨marked, new, isState, hop, number, after, entry⟩ :=
    rrepSend_entry sound route fwdDest size found
  rcases entry with ⟨neighbor, suspects, near, agree⟩ | ⟨far, agree⟩
  · by_cases uses : dest = neighbor.destAddr ∨ rt.nextHop = neighbor.destAddr
    · have lost := RtEntry.cut_lost neighbor.flags.repair (isState.trans valid) (hop.symm ▸ uses)
      refine .inl ⟨⟨revRt, neighbor, rt, route, suspects, near, found, uses⟩, new, after,
        agree.state.trans lost.1, ?_⟩
      rw [agree.destSeqno, lost.2, number, top]
    · refine .inr ⟨?_, new, after, ?_⟩
      · rintro ⟨other, suspect, same, isOther, isSuspect, _, isSame, used⟩
        obtain rfl := Option.some.inj (route.symm.trans isOther)
        obtain rfl := Option.some.inj (suspects.symm.trans isSuspect)
        obtain rfl := Option.some.inj (found.symm.trans isSame)
        exact uses used
      · rw [RtEntry.cut_eq_self _ (fun here => uses (.inl here))
          fun used => uses (.inr (hop.symm.trans used.2))] at agree
        exact ⟨agree.state.trans (isState.trans valid), agree.destSeqno.trans (number.trans top)⟩
  · refine .inr ⟨?_, new, after, agree.state.trans (isState.trans valid),
      agree.destSeqno.trans (number.trans top)⟩
    rintro ⟨other, suspect, same, isOther, isSuspect, near, _⟩
    obtain rfl := Option.some.inj (route.symm.trans isOther)
    exact far suspect isSuspect near

/-- A lost route stays as it is in `rrep_send`. -/
theorem Toppled.sent (toppled : Toppled dest state) (sound : state.rtTbl.Sound)
    (route : entryAt state revDest = some revRt) (fwdDest : Option Addr) (size : Nat) :
    Toppled dest (rrepSend config revDest fwdDest size state) := by
  obtain ⟨rt, found, invalid, number⟩ := toppled
  obtain ⟨marked, new, isState, _, sameNumber, after, entry⟩ :=
    rrepSend_entry sound route fwdDest size found
  have isInvalid := isState.trans invalid
  rcases entry with ⟨neighbor, suspects, near, agree⟩ | ⟨far, agree⟩
  · rw [RtEntry.cut_eq_self _ ?_ fun used => RouteState.noConfusion (isInvalid.symm.trans used.1)]
      at agree
    · exact ⟨new, after, agree.state.trans isInvalid, agree.destSeqno.trans (sameNumber.trans number)⟩
    · -- The suspect is a valid neighbour, and the destination is not valid.
      rintro rfl
      obtain ⟨_, there, valid, _⟩ := suspected_eq_some_iff.mp suspects
      rw [← entryAt_destAddr there, found] at there
      obtain rfl := Option.some.inj there
      exact RouteState.noConfusion (invalid.symm.trans valid)
  · exact ⟨new, after, agree.state.trans isInvalid, agree.destSeqno.trans (sameNumber.trans number)⟩

end

/-! ### The replies to a RREQ -/

/-- The replies to a RREQ break the link that the route to its originator uses: the reply itself, of
the destination or of an intermediate node, or the gratuitous RREP that follows it. -/
inductive RepliesBreak (config : Config) (rreq : Rreq) (ifindex : Nat) (state : State) : Prop
  | answer (here : rreq.destAddr = ipaddrOf config ifindex)
      (breaks : CheckBreaks config rreq.origAddr rreq.origAddr state)
  | reply (fwdRt : RtEntry) (replies : RepliesFrom config rreq ifindex state fwdRt)
      (breaks : CheckBreaks config rreq.origAddr rreq.origAddr state)
  | gratuitous (fwdRt : RtEntry) (replies : RepliesFrom config rreq ifindex state fwdRt)
      (wanted : rreq.flags.gratuitous = true)
      (breaks : CheckBreaks config rreq.destAddr rreq.origAddr (repliedState config rreq fwdRt state))

/-- A RREQ brings the greatest positive number, and a reply to it breaks the link that the route to
its originator uses. -/
def TopsOut (config : Config) (event : Event) (state : State) (dest : Addr) : Prop :=
  ∃ received rreq, HandlesRreq config event state received rreq ∧ rreq.origAddr = dest ∧
    rreq.origSeqno = topSeqno ∧
    RepliesBreak config rreq received.ifindex (reversedState config received rreq state)

section

variable {config : Config} {rreq : Rreq} {state : State}

theorem Topped.answered (topped : Topped rreq.origAddr state) (sound : state.rtTbl.Sound) :
    Outcome (CheckBreaks config rreq.origAddr rreq.origAddr state) rreq.origAddr
      (rreqAnswer config rreq state) := by
  obtain ⟨revRt, found, _⟩ := id topped
  unfold rreqAnswer
  rw [found]
  dsimp only
  have created : Topped rreq.origAddr (rrepCreate 0 (ipaddrOf config revRt.ifindex)
      (answerSeqno state.seqno rreq.destSeqno) revRt.destAddr (2 * activeRouteTimeout config)
      { state with seqno := answerSeqno state.seqno rreq.destSeqno }) := topped
  exact created.sent sound found none rrepSize

/-- The reply of an intermediate node, up to the gratuitous RREP. -/
theorem Topped.replied (topped : Topped rreq.origAddr state) (sound : state.rtTbl.Sound)
    (fwdRt : RtEntry) :
    Outcome (CheckBreaks config rreq.origAddr rreq.origAddr state) rreq.origAddr
      (repliedState config rreq fwdRt state) := by
  obtain ⟨revRt, found, _⟩ := id topped
  have created : Topped rreq.origAddr (rrepCreate fwdRt.hcnt fwdRt.destAddr fwdRt.destSeqno
      rreq.origAddr (remainingLife state fwdRt.destAddr) state) := topped
  exact created.sent sound found (some fwdRt.destAddr) rrepSize

theorem Topped.gratuitous (topped : Topped rreq.origAddr state)
    (sound : state.rtTbl.Sound) (lifetime : Nat) :
    Outcome (CheckBreaks config rreq.destAddr rreq.origAddr state) rreq.origAddr
      (rreqGratuitousReply config rreq lifetime state) := by
  obtain ⟨revRt, reverse, _⟩ := id topped
  unfold rreqGratuitousReply
  rw [reverse]
  cases forward : entryAt state rreq.destAddr with
  | none =>
    refine .inr ⟨?_, topped⟩
    rintro ⟨fwdRt, _, _, found, _⟩
    exact absurd (found.symm.trans forward) (Option.some_ne_none fwdRt)
  | some fwdRt =>
    have created : Topped rreq.origAddr (rrepCreate revRt.hcnt revRt.destAddr revRt.destSeqno
        fwdRt.destAddr lifetime state) := topped
    exact created.sent sound forward (some rreq.origAddr) rrepSize

theorem Toppled.gratuitous (toppled : Toppled rreq.origAddr state)
    (sound : state.rtTbl.Sound) (lifetime : Nat) :
    Toppled rreq.origAddr (rreqGratuitousReply config rreq lifetime state) := by
  unfold rreqGratuitousReply
  split
  · rename_i revRt fwdRt _ forward
    have created : Toppled rreq.origAddr (rrepCreate revRt.hcnt revRt.destAddr revRt.destSeqno
        fwdRt.destAddr lifetime state) := toppled
    exact created.sent sound forward (some rreq.origAddr) rrepSize
  · exact toppled

theorem Topped.repliedFrom (topped : Topped rreq.origAddr state) (sound : state.rtTbl.Sound)
    {ifindex : Nat} {fwdRt : RtEntry} (replies : RepliesFrom config rreq ifindex state fwdRt) :
    Outcome (RepliesBreak config rreq ifindex state) rreq.origAddr
      (rreqReply config rreq fwdRt state) := by
  have either (breaks : RepliesBreak config rreq ifindex state) :
      CheckBreaks config rreq.origAddr rreq.origAddr state ∨ rreq.flags.gratuitous = true ∧
        CheckBreaks config rreq.destAddr rreq.origAddr (repliedState config rreq fwdRt state) := by
    cases breaks with
    | answer here => exact absurd here replies.transit
    | reply _ _ breaks => exact .inl breaks
    | gratuitous other also wanted breaks =>
      obtain rfl := Option.some.inj (also.found.symm.trans replies.found)
      exact .inr ⟨wanted, breaks⟩
  have created : (rrepCreate fwdRt.hcnt fwdRt.destAddr fwdRt.destSeqno rreq.origAddr
    (remainingLife state fwdRt.destAddr) state).rtTbl.Sound := sound
  have repliedSound : (repliedState config rreq fwdRt state).rtTbl.Sound :=
    created.rrepSend config rreq.origAddr (some fwdRt.destAddr) rrepSize
  have whole : rreqReply config rreq fwdRt state = if rreq.flags.gratuitous then
      rreqGratuitousReply config rreq (remainingLife state fwdRt.destAddr)
        (repliedState config rreq fwdRt state) else repliedState config rreq fwdRt state := rfl
  rw [whole]
  rcases topped.replied sound fwdRt with ⟨breaks, toppled⟩ | ⟨holds, stays⟩
  · refine .inl ⟨.reply fwdRt replies breaks, ?_⟩
    split
    · exact toppled.gratuitous repliedSound _
    · exact toppled
  by_cases wanted : rreq.flags.gratuitous = true
  · rw [if_pos wanted]
    exact (stays.gratuitous repliedSound _).congr ⟨.gratuitous fwdRt replies wanted,
      fun breaks => ((either breaks).resolve_left holds).2⟩
  · rw [if_neg wanted]
    exact .inr ⟨fun breaks => wanted ((either breaks).resolve_left holds).1, stays⟩

/-- The originator's route with the greatest number is lost in the rest of `rreq_process` exactly if
the replies break its link. -/
theorem Topped.continued (topped : Topped rreq.origAddr state) (sound : state.rtTbl.Sound)
    (len : Nat) (ipTtl : Int) (ifindex : Nat) :
    Outcome (RepliesBreak config rreq ifindex state) rreq.origAddr
      (rreqContinue config rreq len ipTtl ifindex state) := by
  by_cases here : rreq.destAddr = ipaddrOf config ifindex
  · rw [rreqContinue, if_pos here]
    refine (topped.answered sound).congr ⟨.answer here, fun breaks => ?_⟩
    cases breaks with
    | answer _ breaks => exact breaks
    | reply _ replies => exact absurd here replies.transit
    | gratuitous _ replies => exact absurd here replies.transit
  by_cases answers : ∃ fwdRt, RepliesFrom config rreq ifindex state fwdRt
  · obtain ⟨fwdRt, replies⟩ := answers
    rw [replies.rreqContinue_eq]
    exact topped.repliedFrom sound replies
  · refine .inr ⟨fun breaks => ?_, ?_⟩
    · cases breaks with
      | answer own => exact here own
      | reply fwdRt replies => exact answers ⟨fwdRt, replies⟩
      | gratuitous fwdRt replies => exact answers ⟨fwdRt, replies⟩
    · have passes (fwdRt : Option RtEntry) :
          Topped rreq.origAddr (rreqPassOn config rreq len ipTtl fwdRt state) := by
        unfold Topped entryAt
        rw [rtTbl_rreqPassOn]
        exact topped
      rw [rreqContinue, if_neg here]
      split
      · exact passes none
      · rename_i fwdRt found
        rw [if_neg fun may => answers ⟨fwdRt, here, found, may⟩]
        exact passes (some fwdRt)

end

/-! ### Reachable states -/

theorem HandlesHello.not_topsOut {config : Config} {event : Event}
    (handles : HandlesHello config event received hello) (state : State) (dest : Addr) :
    ¬ TopsOut config event state dest := by
  rintro ⟨other, rreq, heard, _⟩
  obtain rfl := Event.message.inj (handles.event.symm.trans heard.event)
  have isNone := Received.hello_eq_none_of_rreq heard.isRreq
  exact absurd (handles.isHello.symm.trans isNone) (Option.some_ne_none hello)

theorem HandlesRerr.not_topsOut {config : Config} {event : Event}
    (handles : HandlesRerr config event received rerr) (state : State) (dest : Addr) :
    ¬ TopsOut config event state dest := by
  rintro ⟨other, rreq, heard, _⟩
  obtain rfl := Event.message.inj (handles.event.symm.trans heard.event)
  exact AodvMsg.noConfusion (handles.isRerr.symm.trans heard.isRreq)

theorem HandlesHello.step_eq {config : Config} {input : Input}
    (handles : HandlesHello config input.event received hello) (state : State) :
    step config state input =
      helloProcess config hello received.len received.ifindex (arrive input state) := by
  show handleEvent config input.event (arrive input state) = _
  rw [handles.event]
  show aodvSocketRead config received (arrive input state) = _
  rw [aodvSocketRead, if_neg handles.foreign, aodvSocketProcessPacket, handles.isHello]

theorem HandlesRerr.step_eq {config : Config} {input : Input}
    (handles : HandlesRerr config input.event received rerr) (state : State) :
    step config state input = rerrProcess config rerr received.len received.src
      (neighborAdd config received.src received.ifindex (arrive input state)) := by
  have notHello : received.hello = none := by rw [Received.hello, handles.isRerr]
  show handleEvent config input.event (arrive input state) = _
  rw [handles.event]
  show aodvSocketRead config received (arrive input state) = _
  rw [aodvSocketRead, if_neg handles.foreign, aodvSocketProcessPacket, notHello]
  dsimp only
  rw [processMsg, handles.isRerr]

theorem writtenSeqno_arrive (config : Config) (input : Input) (state : State) (dest : Addr)
    (event : Event) : writtenSeqno config (arrive input state) dest event =
      writtenSeqno config state dest event := by
  cases event <;> rfl

/-- A RREQ with the greatest number is taken over into the entry of its originator. -/
theorem HandlesRreq.topped {config : Config} {event : Event} {state : State} {received : Received}
    {rreq : Rreq} (handles : HandlesRreq config event state received rreq)
    (regular : Regular config state) {old : RtEntry}
    (found : entryAt state rreq.origAddr = some old) (below : signed old.destSeqno < signed topSeqno)
    (top : rreq.origSeqno = topSeqno) :
    Topped rreq.origAddr (reversedState config received rreq state) ∧
      (reversedState config received rreq state).rtTbl.Sound := by
  have notHello := Received.hello_eq_none_of_rreq handles.isRreq
  have introduced := neighborAdd_introduced regular
    (show Arrives config (.message received) received from ⟨rfl, handles.foreign⟩) notHello
  have reversal := reversal_rreqReverse config introduced.regular.sound rreq received.src
    received.ifindex
  obtain ⟨stored, met, there, _, agree, same⟩ := introduced.stored found
  have accepts : ¬ rreqAccepts rreq stored = false := by
    have newer : signed stored.destSeqno < signed rreq.origSeqno := by
      rw [agree.destSeqno, same, top]
      exact below
    simp [rreqAccepts, newer]
  refine ⟨?_, reversal.sound⟩
  unfold Topped reversedState
  rw [reversal.entries, reversedEntry, there]
  dsimp only
  rw [if_neg accepts]
  split
  · exact ⟨_, if_pos rfl, rfl, top⟩
  · exact ⟨_, if_pos rfl, rfl, top⟩

/-- The number that such a RREQ brings stays exactly if its replies break no link. -/
theorem HandlesRreq.signed_le_iff {config : Config} {input : Input} {state : State}
    {received : Received} {rreq : Rreq}
    (handles : HandlesRreq config input.event (arrive input state) received rreq)
    (regular : Regular config (arrive input state)) {old new : RtEntry}
    (found : entryAt (arrive input state) rreq.origAddr = some old)
    (positive : 0 < signed old.destSeqno) (below : signed old.destSeqno < signed topSeqno)
    (top : rreq.origSeqno = topSeqno)
    (stays : entryAt (step config state input) rreq.origAddr = some new) :
    signed old.destSeqno ≤ signed new.destSeqno ↔
      ¬ TopsOut config input.event (arrive input state) rreq.origAddr := by
  obtain ⟨topped, sound⟩ := handles.topped regular found below top
  have whole : step config state input = rreqContinue config rreq received.len received.ttl
    received.ifindex (reversedState config received rreq (arrive input state)) :=
    handles.handleEvent_eq regular
  rw [whole] at stays
  rcases topped.continued sound received.len received.ttl received.ifindex with
    ⟨breaks, rt, there, _, number⟩ | ⟨holds, rt, there, _, number⟩
  · obtain rfl := Option.some.inj (there.symm.trans stays)
    have negative : signed (seqnoIncr topSeqno) < 0 := by decide
    refine iff_of_false ?_ fun none => none ⟨received, rreq, handles, rfl, top, breaks⟩
    rw [number]
    omega
  · obtain rfl := Option.some.inj (there.symm.trans stays)
    refine iff_of_true (number ▸ Int.le_of_lt below) ?_
    rintro ⟨other, second, heard, _, _, breaks⟩
    obtain rfl := Event.message.inj (handles.event.symm.trans heard.event)
    obtain rfl := handles.unique heard
    exact holds breaks

/-- In every reachable state, an event that does not delete the entry of a destination keeps its
sequence number from going back exactly if the number it writes without a comparison, when it
writes one, is not below the stored one, and it is no RREQ with the greatest number whose reply
breaks the link. -/
theorem step_signed_le_iff (config : Config) (now : Timeval) (jitter : Int) (inputs : List Input)
    (input : Input) (dest : Addr) (old new : RtEntry)
    (found : entryAt (run config now jitter inputs) dest = some old)
    (positive : 0 < old.destSeqno.toNat) (below : old.destSeqno.toNat < 2 ^ 31 - 1)
    (stays : entryAt (step config (run config now jitter inputs) input) dest = some new) :
    signed old.destSeqno ≤ signed new.destSeqno ↔
      (∀ seqno, writtenSeqno config (run config now jitter inputs) dest input.event = some seqno →
        signed old.destSeqno ≤ signed seqno) ∧
      ¬ TopsOut config input.event (arrive input (run config now jitter inputs)) dest := by
  have atRest := atRest_run config now jitter inputs
  generalize run config now jitter inputs = state at *
  have arrived : entryAt (arrive input state) dest = some old := found
  have regular := (atRest.arrive input).toRegular
  rw [← writtenSeqno_arrive config input]
  by_cases hello : ∃ received hello, HandlesHello config input.event received hello
  · obtain ⟨received, hello, handles⟩ := hello
    rw [and_iff_left (handles.not_topsOut _ _), handles.writtenSeqno]
    rw [handles.step_eq] at stays
    rw [helloProcess_destSeqno regular.sound arrived stays]
    split
    · simp
    · simp
  by_cases rerr : ∃ received rerr, HandlesRerr config input.event received rerr
  · obtain ⟨received, rerr, handles⟩ := rerr
    have same : HandlesRerr config (.message received) received rerr :=
      ⟨⟨rfl, handles.foreign⟩, handles.isRerr, handles.long⟩
    rw [and_iff_left (handles.not_topsOut _ _), handles.writtenSeqno]
    rw [handles.step_eq] at stays
    rw [rerrProcess_destSeqno regular same arrived stays]
    cases rerrSeqno config (arrive input state) received rerr dest with
    | none => simp
    | some seqno => simp
  have noHello : ∀ received other, ¬ HandlesHello config input.event received other :=
    fun received other handles => hello ⟨received, other, handles⟩
  have noRerr : ∀ received other, ¬ HandlesRerr config input.event received other :=
    fun received other handles => rerr ⟨received, other, handles⟩
  rw [writtenSeqno_eq_none noHello noRerr,
    and_iff_right fun _ written => absurd written.symm (Option.some_ne_none _)]
  have isPositive : 0 < signed old.destSeqno := by
    rw [signed_of_lt (by omega)]
    omega
  by_cases brings : BringsTop config (arrive input state) dest input.event
  · obtain ⟨received, rreq, handles, rfl, top⟩ := brings
    have less : signed old.destSeqno < signed topSeqno := by
      have greatest : signed topSeqno = 2 ^ 31 - 1 := by decide
      rw [signed_of_lt (by omega), greatest]
      omega
    exact handles.signed_le_iff regular arrived isPositive less top stays
  · have least := (step_handled atRest input).signed_le regular arrived isPositive
      (fun top => absurd below (by rw [top]; decide)) noHello noRerr brings stays
    exact iff_of_true least fun ⟨received, rreq, handles, here, top, _⟩ =>
      brings ⟨received, rreq, handles, here, top⟩

/-- Neighbour 2 has been heard with number 5, and leads to 9 with number 7. -/
def heardNumbers : List Input :=
  [inputAt 100 (helloFrom 2#32 5#32), inputAt 200 (rrepFrom 2#32 9#32 7#32 1)]

/-- A RERR about one destination, received from a source on the first interface. -/
def rerrFrom (source dest : Addr) (seqno : Seqno) : Event :=
  .message ⟨.rerr ⟨false, 1, [(dest, seqno)]⟩, rerrCalcSize 1, source, aodvBroadcast, 1, 1⟩

theorem step_signed_le_iff_newer_rerr :
    ∃ old new, entryAt (run loneConfig ⟨0, 0⟩ 0 heardNumbers) 9#32 = some old ∧
      entryAt (step loneConfig (run loneConfig ⟨0, 0⟩ 0 heardNumbers)
        (inputAt 300 (rerrFrom 2#32 9#32 8#32))) 9#32 = some new ∧
      old.destSeqno = 7#32 ∧ new.destSeqno = 8#32 ∧
      writtenSeqno loneConfig (run loneConfig ⟨0, 0⟩ 0 heardNumbers) 9#32
        (rerrFrom 2#32 9#32 8#32) = some 8#32 ∧
      ¬ TopsOut loneConfig (rerrFrom 2#32 9#32 8#32)
        (arrive (inputAt 300 (rerrFrom 2#32 9#32 8#32)) (run loneConfig ⟨0, 0⟩ 0 heardNumbers))
        9#32 := by
  have stored : (entryAt (run loneConfig ⟨0, 0⟩ 0 heardNumbers) 9#32).map RtEntry.destSeqno =
      some 7#32 := by decide +kernel
  have written : (entryAt (step loneConfig (run loneConfig ⟨0, 0⟩ 0 heardNumbers)
      (inputAt 300 (rerrFrom 2#32 9#32 8#32))) 9#32).map RtEntry.destSeqno = some 8#32 := by
    decide +kernel
  obtain ⟨old, found, seven⟩ := Option.map_eq_some_iff.mp stored
  obtain ⟨new, stays, eight⟩ := Option.map_eq_some_iff.mp written
  have exactly := step_signed_le_iff loneConfig ⟨0, 0⟩ 0 heardNumbers _ 9#32 old new found
    (by rw [seven]; decide) (by rw [seven]; decide) stays
  exact ⟨old, new, found, stays, seven, eight, by decide +kernel,
    (exactly.mp (by rw [seven, eight]; decide)).2⟩

/-- A HELLO that arrives late, and a RERR that does not know the number, take numbers back. -/
theorem destSeqno_goes_back :
    (entryAt (run loneConfig ⟨0, 0⟩ 0 heardNumbers) 2#32).map RtEntry.destSeqno = some 5#32 ∧
      (entryAt (step loneConfig (run loneConfig ⟨0, 0⟩ 0 heardNumbers)
        (inputAt 300 (helloFrom 2#32 3#32))) 2#32).map RtEntry.destSeqno = some 3#32 ∧
      (entryAt (run loneConfig ⟨0, 0⟩ 0 heardNumbers) 9#32).map RtEntry.destSeqno = some 7#32 ∧
      (entryAt (step loneConfig (run loneConfig ⟨0, 0⟩ 0 heardNumbers)
        (inputAt 300 (rerrFrom 2#32 9#32 0#32))) 9#32).map RtEntry.destSeqno = some 0#32 ∧
      signed 3#32 < signed 5#32 ∧ signed 0#32 < signed 7#32 := by
  decide +kernel

-- With unidirectional links allowed, the reply to a RREQ of neighbour 2 with the greatest positive
-- number breaks the link, and the number is negative. A RREQ that is only passed on leaves it.
example :
    (entryAt (step { loneConfig with unidirHack := true }
        (run { loneConfig with unidirHack := true } ⟨0, 0⟩ 0 heardNumbers)
        (inputAt 300 (rreqFrom 2#32 2#32 topSeqno 0 1#32))) 2#32).map RtEntry.destSeqno =
        some 0x80000000#32 ∧
      (entryAt (step { loneConfig with unidirHack := true }
        (run { loneConfig with unidirHack := true } ⟨0, 0⟩ 0 heardNumbers)
        (inputAt 300 (rreqFrom 2#32 2#32 topSeqno 0 50#32))) 2#32).map RtEntry.destSeqno =
        some topSeqno := by
  decide +kernel

end Aodvd
