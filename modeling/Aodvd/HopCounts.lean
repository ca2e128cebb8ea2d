/-
This file asks when hop counts are counted right.

`rreq_process` and `rrep_process` add one to the hop count of a message in 32 bits and compare the
sum with the entry, but `rt_table_insert` and `rt_table_update` take it in eight. A message with the
hop count 255 therefore leaves an entry of no hops, which beats every other one, and a RREP that is
passed on says the same. As long as no message with that hop count is taken over, the entry has one
hop more than the message, and so has the RREP that is passed on, and no entry has zero hops.
-/

import Aodvd.ExactLifetimes

namespace Aodvd

/-! ### Routes of a message -/

/-- A message has `rreq_process` or `rrep_process` install or update the route to a destination from
a hop count: there is no entry for it, or the message is accepted. -/
inductive InstallsHops (config : Config) (event : Event) (origin : State) : Addr → Nat → Prop
  | rreq (received : Received) (rreq : Rreq)
      (handles : HandlesRreq config event origin received rreq)
      (takes : ∀ met, metEntry config origin received rreq.origAddr = some met →
        rreqAccepts rreq met = true) :
      InstallsHops config event origin rreq.origAddr rreq.hcnt
  | rrep (received : Received) (rrep : Rrep) (handles : HandlesRrep config event received rrep)
      (takes : ∀ met, metEntry config origin received rrep.destAddr = some met →
        rrepAccepts rrep met = true) :
      InstallsHops config event origin rrep.destAddr rrep.hcnt

/-- The hop counts of an event are right: after a route has been installed from a message, its entry
has one hop more than the message, which is the number that the acceptance test has compared; and a
RREP that leaves while a RREP is handled, HELLOs apart, has one hop more than the one received. -/
structure HopsExact (config : Config) (event : Event) (origin : State) : Prop where
  stored : ∀ dest hcnt, InstallsHops config event origin dest hcnt →
    ∃ rt, entryAt (handleEvent config event origin) dest = some rt ∧ rt.hcnt = hcnt + 1
  forwarded : ∀ received rrep, HandlesRrep config event received rrep →
    Emits (Datagram.Tells config fun forwarded => forwarded.hcnt = rrep.hcnt + 1) origin
      (handleEvent config event origin)

/-- No route is installed from a message with the largest hop count. -/
def HopsFit (config : Config) (event : Event) (origin : State) : Prop :=
  ∀ dest hcnt, InstallsHops config event origin dest hcnt → hcnt + 1 < 256

/-! ### The route of a message -/

section

variable {config : Config} {state : State}

theorem RtEntry.cut_hcnt (neighbor : Addr) (repair : Bool) (dest : Addr) (rt : RtEntry) :
    (rt.cut neighbor repair dest).hcnt = rt.hcnt := by
  unfold RtEntry.cut RtEntry.retired
  repeat' split
  all_goals rfl

/-- A reply changes no hop count. -/
theorem replyRule_hcnt (config : Config) (dest : Addr) (hcnt : Nat) :
    ReplyRule config fun state => state.rtTbl.Sound ∧
      ∃ rt, entryAt state dest = some rt ∧ rt.hcnt = hcnt := by
  refine replyRule_entry config (fun entry => ∃ rt, entry = some rt ∧ rt.hcnt = hcnt) ?_ ?_ ?_
  · rintro addr _ ⟨rt, rfl, rfl⟩
    exact ⟨_, rfl, (touch_precursorAdd addr).hcnt rt⟩
  · rintro _ ⟨rt, rfl, rfl⟩
    exact ⟨_, rfl, rfl⟩
  · rintro neighbor repair _ ⟨rt, rfl, rfl⟩
    exact ⟨_, rfl, rt.cut_hcnt neighbor repair dest⟩

theorem hcnt_rtTableInsert (config : Config) {offer : Offer}
    (fresh : entryAt state offer.dest = none) :
    ∃ rt, entryAt (rtTableInsert config offer state).1 offer.dest = some rt ∧
      rt.hcnt = offer.hcnt := by
  rw [entryAt_rtTableInsert config offer fresh, if_pos rfl]
  exact ⟨offer.entry, rfl, rfl⟩

theorem hcnt_rtTableUpdate (config : Config) {offer : Offer} {rt : RtEntry}
    (sound : state.rtTbl.Sound) (found : entryAt state offer.dest = some rt) :
    ∃ new, entryAt (rtTableUpdate config offer state) offer.dest = some new ∧
      new.hcnt = offer.hcnt := by
  obtain ⟨base, updated, _⟩ := entryAt_rtTableUpdate_self config offer sound found
  exact ⟨rt.renewed offer base, updated, rfl⟩

/-- A RREQ that is taken over leaves its hop count, incremented in eight bits. -/
theorem hcnt_rreqReverse (config : Config) (rreq : Rreq) (ipSrc : Addr) (ifindex : Nat)
    (sound : state.rtTbl.Sound)
    (takes : ∀ met, entryAt state rreq.origAddr = some met → rreqAccepts rreq met = true) :
    ∃ rt, entryAt (rreqReverse config rreq ipSrc ifindex state) rreq.origAddr = some rt ∧
      rt.hcnt = (rreq.hcnt + 1) % 256 := by
  unfold rreqReverse
  rw [rtTableFind_eq_entryAt sound]
  cases found : entryAt state rreq.origAddr with
  | none =>
    have fresh : entryAt state (rreqOffer rreq ipSrc ifindex .none).dest = none := found
    exact hcnt_rtTableInsert config fresh
  | some revRt =>
    dsimp only
    rw [if_pos (takes revRt found)]
    have met : entryAt state (rreqOffer rreq ipSrc ifindex revRt.flags).dest = some revRt := found
    exact hcnt_rtTableUpdate config sound met

/-- The forward route of a RREP has been made from its hop count between two states. -/
structure MakesForward (config : Config) (rrep : Rrep) (before after : State) : Prop where
  takes : ∀ met, entryAt before rrep.destAddr = some met → rrepAccepts rrep met = true
  sound : after.rtTbl.Sound
  stored : ∃ rt, entryAt after rrep.destAddr = some rt ∧ rt.hcnt = (rrep.hcnt + 1) % 256
  emits : Emits (Reports config) before after

/-- A RREP that passes the checks is dropped, or its forward route is made. -/
theorem rrepProcess_cases (config : Config) (rrep : Rrep) {len : Nat} (ipSrc : Addr) (ipTtl : Int)
    {ifindex : Nat} (long : rrepSize ≤ len) (notOwn : rrep.destAddr ≠ ipaddrOf config ifindex)
    (sound : state.rtTbl.Sound) :
    (∃ met, entryAt state rrep.destAddr = some met ∧ rrepAccepts rrep met = false ∧
        rrepProcess config rrep len ipSrc ipTtl ifindex state = state) ∨
      ∃ fwdRt revRt made, MakesForward config rrep state made ∧
        rrepProcess config rrep len ipSrc ipTtl ifindex state =
          rrepContinue config rrep len ipTtl ifindex fwdRt revRt made := by
  rw [rrepProcess, if_neg (Nat.not_lt.mpr long), if_neg notOwn,
    rtTableFind_eq_entryAt sound rrep.destAddr]
  cases found : entryAt state rrep.destAddr with
  | none =>
    have fresh : entryAt state (rrepOffer rrep ipSrc ifindex .none).dest = none := found
    refine .inr ⟨_, _, _, ⟨?_, sound.rtTableInsert config _, ?_, ?_⟩, rfl⟩
    · exact fun met there => absurd (there.symm.trans found) (Option.some_ne_none _)
    · exact hcnt_rtTableInsert config fresh
    · exact .of_out (out_rtTableInsert config fresh)
  | some fwdRt =>
    dsimp only
    by_cases accepts : rrepAccepts rrep fwdRt = true
    · have met : entryAt state (rrepOffer rrep ipSrc ifindex fwdRt.flags).dest = some fwdRt := found
      rw [if_pos accepts]
      refine .inr ⟨_, _, _, ⟨?_, sound.rtTableUpdate config _, ?_, ?_⟩, rfl⟩
      · exact fun other there => Option.some.inj (found.symm.trans there) ▸ accepts
      · exact hcnt_rtTableUpdate config sound met
      · exact emits_rtTableUpdate config _ state
    · exact .inl ⟨fwdRt, rfl, Bool.eq_false_iff.mpr accepts, if_neg accepts⟩

theorem emits_rrepForward (config : Config) (rrep : Rrep) (size : Nat) (revDest : Addr) (ttl : Int)
    {fwdDest : Addr} {rt : RtEntry} (found : entryAt state fwdDest = some rt) :
    Emits (fun datagram => datagram.msg = .rrep { rrep with hcnt := rt.hcnt }) state
      (rrepForward config rrep size revDest fwdDest ttl state) := by
  have precursors (sent : State) : (updatePrecursors fwdDest revDest sent).out = sent.out := by
    unfold updatePrecursors
    split <;> rfl
  rw [rrepForward, found]
  refine .trans (.trans ?_ (.of_out (precursors _)))
    (.of_out (out_timerActs (rtTableUpdateTimeout_acts ..)))
  exact .trans (.of_out rfl) (emits_sendAlong config revDest size ttl _)

/-- A RREP that goes on says the hop count of the forward route. -/
theorem emits_rrepContinue (config : Config) (rrep : Rrep) (len : Nat) (ipTtl : Int)
    (ifindex : Nat) (fwdRt revRt : Option RtEntry) {rt : RtEntry}
    (found : entryAt state rrep.destAddr = some rt) :
    Emits (Datagram.Tells config fun forwarded => forwarded.hcnt = rt.hcnt) state
      (rrepContinue config rrep len ipTtl ifindex fwdRt revRt state) := by
  have acknowledged : Emits (Datagram.Tells config fun forwarded => forwarded.hcnt = rt.hcnt) state
      (rrepAcknowledge config rrep state) := by
    unfold rrepAcknowledge
    split
    · refine .trans (.of_out rfl) ((emits_sendAlong config _ _ _ _).mono ?_)
      exact fun datagram carries other isRrep => nomatch carries.symm.trans isRrep
    · exact .refl _ _
  have stays : entryAt (rrepAcknowledge config rrep state) rrep.destAddr = some rt := by
    rw [entryAt, (aside_rrepAcknowledge config rrep state).rtTbl]
    exact found
  unfold rrepContinue
  dsimp only
  refine .trans (acknowledged.trans ?_)
    (emits_helloOnDemand (fun current numbered _ _ => .inr ⟨current, numbered, rfl⟩) _)
  split
  · unfold rrepReportRepair
    split
    · split
      · dsimp only
        split
        · exact .of_out rfl
        · refine .trans (.of_out rfl) (emits_aodvSocketSend config fun sender _ => ?_)
          exact Datagram.tells_of_rerr _ rfl
      · exact .refl _ _
    · exact .refl _ _
  · unfold rrepPassOn
    split
    · split
      · refine (emits_rrepForward config _ len rrep.origAddr (ipTtl - 1) stays).mono ?_
        intro datagram carries other isRrep
        obtain rfl := AodvMsg.rrep.inj (carries.symm.trans isRrep)
        exact .inl rfl
      · exact .refl _ _
    · exact .refl _ _

end

/-! ### Events -/

section

variable {config : Config} {event : Event} {origin : State}

theorem HandlesRrep.handleEvent_eq {received : Received} {rrep : Rrep}
    (handles : HandlesRrep config event received rrep) :
    handleEvent config event origin = rrepProcess config rrep received.len received.src received.ttl
      received.ifindex (neighborAdd config received.src received.ifindex origin) := by
  rw [handles.event]
  show aodvSocketRead config received origin = _
  rw [aodvSocketRead, if_neg handles.foreign, aodvSocketProcessPacket, handles.notHello]
  dsimp only
  rw [processMsg, handles.isRrep]

/-- A test on the route accepts the entry that the handler of a message finds exactly if it accepts
the one that the message meets. -/
theorem Introduced.forall_iff {received : Received} {state : State}
    (introduced : Introduced config origin received state) {accepts : RtEntry → Bool}
    (congr : ∀ {first second}, SameRoute first second → accepts first = accepts second)
    (dest : Addr) :
    (∀ rt, entryAt state dest = some rt → accepts rt = true) ↔
      ∀ met, metEntry config origin received dest = some met → accepts met = true := by
  have meets := introduced.meets dest
  generalize entryAt state dest = found at meets
  generalize metEntry config origin received dest = met at meets
  cases meets with
  | none => exact ⟨fun _ _ => nofun, fun _ _ => nofun⟩
  | some same =>
    constructor
    · exact fun all met isMet => Option.some.inj isMet ▸ congr same ▸ all _ rfl
    · exact fun all rt isRt => Option.some.inj isRt ▸ (congr same).symm ▸ all _ rfl

/-- After a route has been installed, its entry has the hop count of the message, incremented in
eight bits. -/
theorem InstallsHops.hcnt {dest : Addr} {hcnt : Nat}
    (installs : InstallsHops config event origin dest hcnt)
    (regular : Regular config origin) :
    ∃ rt, entryAt (handleEvent config event origin) dest = some rt ∧
      rt.hcnt = (hcnt + 1) % 256 := by
  cases installs with
  | rreq received rreq handles takes =>
    have notHello := Received.hello_eq_none_of_rreq handles.isRreq
    have arrives : Arrives config (.message received) received := ⟨rfl, handles.foreign⟩
    have introduced := neighborAdd_introduced regular arrives notHello
    have recorded := rtTbl_rreqRecordInsert rreq.origAddr rreq.rreqId
      (neighborAdd config received.src received.ifindex origin)
    have sound := recorded ▸ introduced.regular.sound
    have same : entryAt (rreqRecordInsert rreq.origAddr rreq.rreqId
        (neighborAdd config received.src received.ifindex origin)) rreq.origAddr =
        entryAt (neighborAdd config received.src received.ifindex origin) rreq.origAddr := by
      rw [entryAt, entryAt, recorded]
    have reversed := hcnt_rreqReverse config rreq received.src received.ifindex sound
      (same ▸ (introduced.forall_iff (rreqAccepts_congr rreq) rreq.origAddr).mpr takes)
    rw [handles.handleEvent_eq regular]
    exact ((replyRule_hcnt config rreq.origAddr _).rreqContinue ⟨sound.rreqReverse .., reversed⟩
      rreq received.len received.ttl received.ifindex).2
  | rrep received rrep handles takes =>
    have arrives : Arrives config (.message received) received := ⟨rfl, handles.foreign⟩
    have introduced := neighborAdd_introduced regular arrives handles.notHello
    rw [handles.handleEvent_eq]
    rcases rrepProcess_cases config rrep received.src received.ttl handles.long handles.notOwn
      introduced.regular.sound with ⟨met, found, rejects, _⟩ | ⟨fwdRt, revRt, made, makes, result⟩
    · have accepts := (introduced.forall_iff (rrepAccepts_congr rrep) rrep.destAddr).mpr takes
      exact absurd (accepts met found) (Bool.eq_false_iff.mp rejects)
    · rw [result]
      exact ((replyRule_hcnt config rrep.destAddr _).rrepContinue ⟨makes.sound, makes.stored⟩ rrep
        received.len received.ttl received.ifindex fwdRt revRt).2

/-- A RREP is passed on with the incremented hop count only if its route has been installed. -/
theorem HandlesRrep.emits {received : Received} {rrep : Rrep}
    (handles : HandlesRrep config event received rrep) (regular : Regular config origin)
    {hcnt : Nat}
    (counts : InstallsHops config event origin rrep.destAddr rrep.hcnt →
      (rrep.hcnt + 1) % 256 = hcnt) :
    Emits (Datagram.Tells config fun forwarded => forwarded.hcnt = hcnt) origin
      (handleEvent config event origin) := by
  have arrives : Arrives config (.message received) received := ⟨rfl, handles.foreign⟩
  have introduced := neighborAdd_introduced regular arrives handles.notHello
  have met := emits_neighborAdd config received.src received.ifindex regular.sound
  rw [handles.handleEvent_eq]
  refine .trans (met.mono fun _ reports => reports.tells _) ?_
  rcases rrepProcess_cases config rrep received.src received.ttl handles.long handles.notOwn
    introduced.regular.sound with ⟨_, _, _, result⟩ | ⟨fwdRt, revRt, made, makes, result⟩
  · rw [result]
    exact .refl _ _
  · obtain ⟨rt, stored, count⟩ := makes.stored
    have installs : InstallsHops config event origin rrep.destAddr rrep.hcnt :=
      .rrep received rrep handles
        ((introduced.forall_iff (rrepAccepts_congr rrep) rrep.destAddr).mp makes.takes)
    have continues := emits_rrepContinue config rrep received.len received.ttl received.ifindex
      fwdRt revRt stored
    rw [count, counts installs] at continues
    rw [result]
    exact .trans (makes.emits.mono fun _ reports => reports.tells _) continues

/-- The hop counts of an event are right exactly if they fit. -/
theorem hopsExact_iff_fit (event : Event) (regular : Regular config origin) :
    HopsExact config event origin ↔ HopsFit config event origin := by
  constructor
  · intro exact dest hcnt installs
    obtain ⟨rt, found, right⟩ := exact.stored dest hcnt installs
    obtain ⟨same, there, wrapped⟩ := installs.hcnt regular
    obtain rfl := Option.some.inj (found.symm.trans there)
    omega
  · intro fit
    refine ⟨fun dest hcnt installs => ?_, fun received rrep handles => ?_⟩
    · obtain ⟨rt, found, wrapped⟩ := installs.hcnt regular
      exact ⟨rt, found, wrapped.trans (Nat.mod_eq_of_lt (fit dest hcnt installs))⟩
    · exact handles.emits regular fun installs =>
        Nat.mod_eq_of_lt (fit rrep.destAddr rrep.hcnt installs)

/-! ### Runs -/

/-- No entry has zero hops. -/
def HopsPositive (state : State) : Prop :=
  ∀ dest rt, entryAt state dest = some rt → 1 ≤ rt.hcnt

theorem Offered.positive {before : State} {found : Option RtEntry} {offer : Offer}
    (offered : Offered config event origin before found offer)
    (fit : HopsFit config event origin) : 1 ≤ offer.hcnt := by
  cases offered with
  | neighbor => exact Nat.le_refl 1
  | hello => exact Nat.le_refl 1
  | rreq received rreq handles ready takes =>
    have small := fit rreq.origAddr rreq.hcnt (.rreq received rreq handles takes)
    exact (Nat.le_add_left 1 _).trans_eq (Nat.mod_eq_of_lt small).symm
  | rrep received rrep handles ready takes =>
    have small := fit rrep.destAddr rrep.hcnt (.rrep received rrep handles takes)
    exact (Nat.le_add_left 1 _).trans_eq (Nat.mod_eq_of_lt small).symm

theorem HopsPositive.step {state : State} (positive : HopsPositive state)
    (atRest : AtRest config state) {input : Input}
    (fit : HopsFit config input.event (arrive input state)) :
    HopsPositive (step config state input) := by
  intro dest
  refine (step_handled atRest input).entryInvariant (atRest.toRegular.arrive input) dest
    (fun entry => ∀ rt, entry = some rt → 1 ≤ rt.hcnt) ?_ (positive dest)
  intro before old new change held rt isNew
  cases change with
  | absent => exact nomatch isNew
  | keep same => exact Option.some.inj isNew ▸ same.hcnt ▸ held _ rfl
  | mark same => exact Option.some.inj isNew ▸ same.hcnt ▸ held _ rfl
  | insert offer here cause => exact Option.some.inj isNew ▸ cause.offered.positive fit
  | update offer here cause adopted =>
    exact Option.some.inj isNew ▸ adopted.hcnt ▸ cause.offered.positive fit
  | retire retired => exact Option.some.inj isNew ▸ retired.hcnt ▸ held _ rfl
  | error received message seqno handles listed valid through same =>
    obtain rfl := Option.some.inj isNew
    have kept := held _ rfl
    exact same.hcnt ▸ kept
  | delete => exact nomatch isNew

end

/-- Hop counts do not wrap exactly if they fit: in a run from any orderly state whose entries
have hops, every event counts right and no entry ever has zero hops if and only if no event installs
a route from a message with the largest hop count. -/
theorem hops_exact_iff (config : Config) {start : State} (atRest : AtRest config start)
    (positive : HopsPositive start) (inputs : List Input) :
    (Runs.Meets (step config) (fun state input => HopsExact config input.event (arrive input state))
          start inputs ∧
        ∀ count, HopsPositive (runFrom config start (inputs.take count))) ↔
      Runs.Meets (step config) (fun state input => HopsFit config input.event (arrive input state))
        start inputs := by
  have counts := Runs.meets_congr (AtRest config) (fun _ input atRest => atRest.step input)
    (fun _ input atRest => hopsExact_iff_fit input.event (atRest.toRegular.arrive input)) atRest
    inputs
  refine ⟨fun exact => counts.mp exact.1, fun fit => ⟨counts.mpr fit, fun count => ?_⟩⟩
  have kept := Runs.invariant (fun state => AtRest config state ∧ HopsPositive state)
    (fun state input holds fits => ⟨holds.1.step input, holds.2.step holds.1 fits⟩)
    ⟨atRest, positive⟩ (fit.take count)
  exact kept.2

/-- Node 2 sends a RREP about node 9 to node 4. -/
def replyForFour (hcnt : Nat) : Received :=
  ⟨.rrep ⟨false, false, hcnt, 9#32, 5#32, 4#32, 6000, []⟩, rrepSize, 2#32, 1#32, 5, 1⟩

/-- Node 1 is awake, passes the request of node 4 on and then the reply. -/
def relayedReply (hcnt : Nat) : List Input :=
  [inputAt 20000 .timers, inputAt 20000 (.message requestForNine),
    inputAt 20100 (.message (replyForFour hcnt))]

/-- A RREP with one hop is passed on with two. -/
theorem hops_exact_iff_near :
    (∀ count, HopsPositive (run loneConfig timevalZero 0 ((relayedReply 1).take count))) ∧
      (run loneConfig timevalZero 0 (relayedReply 1)).out.map Datagram.msg =
        [.rrep ⟨false, false, 2, 9#32, 5#32, 4#32, 6000, []⟩] := by
  have positive : HopsPositive (boot loneConfig timevalZero 0) := fun dest rt found =>
    nomatch (entryAt_boot loneConfig timevalZero 0 dest).symm.trans found
  refine ⟨((hops_exact_iff loneConfig (atRest_boot loneConfig timevalZero 0) positive
    (relayedReply 1)).mpr ⟨?_, ?_, ?_, trivial⟩).2, by decide +kernel⟩
  · intro dest hcnt installs
    cases installs with
    | rreq received rreq handles => exact nomatch handles.event
    | rrep received rrep handles => exact nomatch handles.event
  · intro dest hcnt installs
    cases installs with
    | rreq received rreq handles =>
      obtain rfl := Event.message.inj handles.event
      obtain rfl := AodvMsg.rreq.inj handles.isRreq
      decide
    | rrep received rrep handles =>
      obtain rfl := Event.message.inj handles.event
      exact nomatch handles.isRrep
  · intro dest hcnt installs
    cases installs with
    | rreq received rreq handles =>
      obtain rfl := Event.message.inj handles.event
      exact nomatch handles.isRreq
    | rrep received rrep handles =>
      obtain rfl := Event.message.inj handles.event
      obtain rfl := AodvMsg.rrep.inj handles.isRrep
      decide

/-- A RREP with 255 hops leaves a route of no hops and is passed on with none. -/
theorem hops_wrap :
    (entryAt (run loneConfig timevalZero 0 (relayedReply 255)) 9#32).map RtEntry.hcnt = some 0 ∧
      (run loneConfig timevalZero 0 (relayedReply 255)).out.map Datagram.msg =
        [.rrep ⟨false, false, 0, 9#32, 5#32, 4#32, 6000, []⟩] ∧
      ¬ HopsPositive (run loneConfig timevalZero 0 (relayedReply 255)) ∧
      ¬ HopsExact loneConfig (.message (replyForFour 255))
        (arrive (inputAt 20100 (.message (replyForFour 255)))
          (run loneConfig timevalZero 0 ((relayedReply 255).take 2))) := by
  have wrapped : (entryAt (run loneConfig timevalZero 0 (relayedReply 255)) 9#32).map
      RtEntry.hcnt = some 0 := by decide +kernel
  obtain ⟨rt, found, zero⟩ := Option.map_eq_some_iff.mp wrapped
  refine ⟨wrapped, by decide +kernel, fun positive => ?_, fun exact => ?_⟩
  · exact absurd zero (Nat.ne_of_gt (positive 9#32 rt found))
  · have unmet : metEntry loneConfig (arrive (inputAt 20100 (.message (replyForFour 255)))
        (run loneConfig timevalZero 0 ((relayedReply 255).take 2))) (replyForFour 255) 9#32 =
        none := by decide +kernel
    obtain ⟨stored, there, right⟩ := exact.stored 9#32 255 (.rrep (replyForFour 255)
      ⟨false, false, 255, 9#32, 5#32, 4#32, 6000, []⟩
      ⟨⟨rfl, by decide⟩, rfl, rfl, by decide, by decide⟩
      fun met meets => nomatch unmet.symm.trans meets)
    obtain rfl := Option.some.inj (found.symm.trans there)
    exact absurd (zero.symm.trans right) (by decide)

end Aodvd
