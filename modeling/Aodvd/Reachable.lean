/-
This file collects what every run of the daemon keeps, and lists the updates of the
routing table that an event makes.

The list is a function of the state in which the event arrives and of the message: the
neighbour entry that `neighbor_add` or a HELLO renews, and the entry that a RREQ or RREP
meets and is accepted by. Conditions on runs are stated on this list, so they can be read
off the state before a step and its input.
-/

import Aodvd.Handlers
import Aodvd.Library.Runs

namespace Aodvd

variable {config : Config} {event : Event} {origin state final : State}

/-! ### The start -/

theorem bootWait_acts (config : Config) (event : Event) (origin : State)
    (unused : timerUsed state .worbTimer = false) :
    Acts config event origin state (bootWait config state) := by
  unfold bootWait
  split
  · have waiting : Aside state { state with waitOnReboot := true } := by constructor <;> rfl
    exact .tail (.tail (.single (.aside waiting rfl))
      (.timer (.restart _ .worbTimer .waitOnRebootTimeout trivial unused)))
      (.timer (.arm _ .worbTimer _ trivial trivial (timely_natCast _ _)))
  · exact .refl

theorem bootHello_acts (config : Config) (event : Event) (origin : State)
    (unused : timerUsed state .rtLogTimer = false) :
    Acts config event origin state (bootHello config state) := by
  have started : Acts config event origin state
        (if config.optimizedHellos = false ∧ config.llfeedback = false then helloStart config state
          else state) ∧
      timerUsed (if config.optimizedHellos = false ∧ config.llfeedback = false then
        helloStart config state else state) .rtLogTimer = false := by
    split
    · refine ⟨helloStart_acts state, ?_⟩
      rw [timerUsed, (helloStart_frame config state).2 _ (by simp)]
      exact unused
    · exact ⟨.refl, unused⟩
  unfold bootHello
  dsimp only
  split
  · exact started.1
  · exact .tail (.tail started.1
      (.timer (.restart _ .rtLogTimer .printRtTable trivial started.2)))
      (.log _)

/-- What `main` does after it has initialised the packet queue. -/
theorem started_acts (config : Config) (event : Event) (origin : State) (now : Timeval)
    (jitter : Int) :
    Acts config event origin (packetQueueInit (rtTableInit (zeroState now jitter)))
      (boot config now jitter) := by
  have worb : ∀ id, id ≠ .garbageCollectTimer →
      timerUsed (packetQueueInit (rtTableInit (zeroState now jitter))) id = false := by
    intro id other
    show ((timerSetTimeout _ _ _ _).timer id).used = false
    rw [timer_timerSetTimeout, if_neg other]
    show ((timerInit _ _ _).timer id).used = false
    rw [timer_timerInit, if_neg other]
    rfl
  have waited : timerUsed (bootWait config (packetQueueInit (rtTableInit (zeroState now jitter))))
      .rtLogTimer = false := by
    unfold bootWait
    split
    · show ((timerSetTimeout _ _ _ _).timer TimerId.rtLogTimer).used = false
      rw [timer_timerSetTimeout, if_neg (by simp)]
      show ((timerInit _ _ _).timer TimerId.rtLogTimer).used = false
      rw [timer_timerInit, if_neg (by simp)]
      exact worb .rtLogTimer (by simp)
    · exact worb .rtLogTimer (by simp)
  exact (bootWait_acts config event origin (worb .worbTimer (by simp))).trans
    (bootHello_acts config event origin waited)

theorem queueInit_acts (config : Config) (event : Event) (origin : State) (now : Timeval)
    (jitter : Int) :
    Acts config event origin (zeroState now jitter)
      (packetQueueInit (rtTableInit (zeroState now jitter))) :=
  .tail (.single (.timer (.restart (zeroState now jitter) .garbageCollectTimer
    .packetQueueTimeout trivial rfl)))
    (.timer (.arm _ .garbageCollectTimer _ trivial trivial (timely_natCast _ _)))

/-- The initialisation of the daemon is a chain of actions on its zeroed globals. -/
theorem boot_acts (config : Config) (event : Event) (origin : State) (now : Timeval)
    (jitter : Int) :
    Acts config event origin (zeroState now jitter) (boot config now jitter) :=
  (queueInit_acts config event origin now jitter).trans
    (started_acts config event origin now jitter)

/-! ### Regular runs -/

/-- The state in which an event finds the daemon. -/
def arrive (input : Input) (state : State) : State :=
  { state with now := input.now, jitter := input.jitter, out := [] }

/-- What every action keeps, from regular states on, a chain keeps. -/
theorem Acts.invariant {before after : State} (acts : Acts config event origin before after)
    (property : State → Prop) (regular : Regular config before)
    (kept : ∀ first second, Regular config first → Act config event origin first second →
      property first → property second)
    (initial : property before) : property after := by
  induction acts with
  | refl => exact initial
  | tail early last inductionHypothesis =>
    exact kept _ _ (Acts.regular early regular) last inductionHypothesis

/-- What every action keeps, and what the frame of a batch, a verdict and a buffered packet
keeps, an event keeps. -/
theorem Handled.invariant (handled : Handled config origin event final) (property : State → Prop)
    (regular : Regular config origin)
    (kept : ∀ first second, Regular config first → Act config event origin first second →
      property first → property second)
    (gathers : event = .timers → property origin → property (gather origin))
    (delivers : ∀ packet, property origin → property (deliver packet origin))
    (verdicts : ∀ packetId verdict state, property state →
      property (nfqueueSetPacketVerdict packetId verdict .immediate state))
    (buffers : ∀ packetId dest state, property state → property (packetQueueAdd packetId dest state))
    (initial : property origin) : property final := by
  have gathered : Regular config (gather origin) := regular.of_rtTbl rfl
  have delivered : ∀ packet, Regular config (deliver packet origin) :=
    fun _ => regular.of_rtTbl rfl
  cases handled with
  | timers acts _ => exact acts.invariant property gathered kept (gathers rfl initial)
  | message received acts => exact acts.invariant property regular kept initial
  | txDrop ip acts => exact acts.invariant property regular kept initial
  | verdict packet verdict acts =>
    exact verdicts _ _ _ (acts.invariant property (delivered packet) kept (delivers packet initial))
  | buffer packet dest acts later =>
    have current := acts.invariant property (delivered packet) kept (delivers packet initial)
    have currentRegular := Acts.regular acts (delivered packet)
    exact later.invariant property (currentRegular.of_rtTbl (rtTbl_packetQueueAdd ..)) kept
      (buffers _ _ _ current)

/-- The same for what does not depend on the buffered packets and the verdicts. -/
theorem Handled.invariant_of_ignored (handled : Handled config origin event final)
    (property : State → Prop) (regular : Regular config origin)
    (kept : ∀ first second, Regular config first → Act config event origin first second →
      property first → property second)
    (gathers : event = .timers → property origin → property (gather origin))
    (ignores : ∀ (state : State) pq history, property state →
      property { state with pq := pq, history := history })
    (initial : property origin) : property final := by
  refine handled.invariant property regular kept gathers (fun _ => ignores _ _ _)
    (fun _ _ _ => ignores _ _ _) (fun packetId dest state holds => ?_) initial
  obtain ⟨pq, history, added⟩ := packetQueueAdd_eq packetId dest state
  rw [added]
  exact ignores state pq history holds

theorem Handled.regular (handled : Handled config origin event final)
    (regular : Regular config origin) : Regular config final :=
  handled.invariant_of_ignored (Regular config) regular
    (fun _ _ _ act regular => act.regular regular) (fun _ regular => regular.of_rtTbl rfl)
    (fun _ _ _ regular => regular.of_rtTbl rfl) regular

theorem clockStep_packetQueueAdd (packetId : BitVec 32) (dest : Addr) (state : State) :
    ClockStep state (packetQueueAdd packetId dest state) := by
  obtain ⟨_, _, added⟩ := packetQueueAdd_eq packetId dest state
  rw [added]
  exact clockStep_of_same rfl rfl (fun _ => id) rfl rfl

theorem clockStep_deliver (packet : NfPacket) (state : State) :
    ClockStep state (deliver packet state) :=
  clockStep_of_same rfl rfl (fun _ => id) rfl rfl

theorem clockStep_nfqueueSetPacketVerdict (packetId : BitVec 32) (verdict : NfVerdict)
    (cause : VerdictCause) (state : State) :
    ClockStep state (nfqueueSetPacketVerdict packetId verdict cause state) :=
  clockStep_of_same rfl rfl (fun _ => id) rfl rfl

theorem ClockStep.atRest {before after : State} (clockStep : ClockStep before after)
    (atRest : AtRest config before) (regular : Regular config after) : AtRest config after where
  toRegular := regular
  clocked := clockStep.clocked atRest.clocked
  idle := List.sublist_nil.mp (atRest.idle ▸ clockStep.batch)

/-- An event leaves the daemon at rest. -/
theorem Handled.atRest (handled : Handled config origin event final)
    (atRest : AtRest config origin) : AtRest config final := by
  have regular := handled.regular atRest.toRegular
  cases handled with
  | timers acts done => exact ⟨regular, acts.clockStep.clocked atRest.gather, done⟩
  | message received acts => exact acts.clockStep.atRest atRest regular
  | txDrop ip acts => exact acts.clockStep.atRest atRest regular
  | verdict packet verdict acts =>
    exact (((clockStep_deliver ..).trans acts.clockStep).trans
      (clockStep_nfqueueSetPacketVerdict ..)).atRest atRest regular
  | buffer packet dest acts later =>
    exact ((((clockStep_deliver ..).trans acts.clockStep).trans (clockStep_packetQueueAdd ..)).trans
      later.clockStep).atRest atRest regular

theorem Regular.arrive (regular : Regular config state) (input : Input) :
    Regular config (Aodvd.arrive input state) :=
  regular.of_rtTbl rfl

theorem AtRest.arrive (atRest : AtRest config state) (input : Input) :
    AtRest config (Aodvd.arrive input state) := by
  have clockStep : ClockStep state (Aodvd.arrive input state) :=
    clockStep_of_same rfl rfl (fun _ => id) rfl rfl
  exact clockStep.atRest atRest (atRest.toRegular.arrive input)

theorem step_handled (atRest : AtRest config state) (input : Input) :
    Handled config (arrive input state) input.event (step config state input) :=
  handleEvent_handled (atRest.arrive input) input.event

theorem AtRest.step (atRest : AtRest config state) (input : Input) :
    AtRest config (Aodvd.step config state input) :=
  (step_handled atRest input).atRest (atRest.arrive input)

theorem regular_zeroState (config : Config) (now : Timeval) (jitter : Int) :
    Regular config (zeroState now jitter) where
  sound := sound_rtTableInit (zeroState now jitter)
  bidirectional _ dest rt found := by
    have empty : entryAt (zeroState now jitter) dest = none := rfl
    exact absurd (empty.symm.trans found) (by simp)

theorem atRest_zeroState (config : Config) (now : Timeval) (jitter : Int) :
    AtRest config (zeroState now jitter) where
  toRegular := regular_zeroState config now jitter
  clocked :=
    { linked := linked_empty
      owned := fun _ used => absurd used Bool.false_ne_true
      armed := fun _ ⟨_, member, _⟩ => absurd member List.not_mem_nil
      distinct := List.nodup_nil }
  idle := rfl

theorem atRest_boot (config : Config) (now : Timeval) (jitter : Int) :
    AtRest config (boot config now jitter) := by
  have acts := boot_acts config .timers (zeroState now jitter) now jitter
  exact acts.clockStep.atRest (atRest_zeroState config now jitter)
    (acts.regular (regular_zeroState config now jitter))

theorem atRest_run (config : Config) (now : Timeval) (jitter : Int) (inputs : List Input) :
    AtRest config (run config now jitter inputs) :=
  Runs.invariant_of_step (AtRest config) (fun _ input atRest => atRest.step input)
    (atRest_boot config now jitter) inputs

/-- What the start of the daemon has and every step that meets a condition keeps, the runs that
meet it have. -/
theorem run_invariant {now : Timeval} {jitter : Int} {inputs : List Input}
    {condition : State → Input → Prop} (property : State → Prop)
    (initial : property (boot config now jitter))
    (kept : ∀ state input, AtRest config state → condition state input → property state →
      property (step config state input))
    (meets : Runs.Meets (step config) condition (boot config now jitter) inputs) :
    property (run config now jitter inputs) := by
  have both : AtRest config (run config now jitter inputs) ∧
      property (run config now jitter inputs) :=
    Runs.invariant (fun state => AtRest config state ∧ property state)
      (fun state input current meets =>
        ⟨current.1.step input, kept state input current.1 meets current.2⟩)
      ⟨atRest_boot config now jitter, initial⟩ meets
  exact both.2

/-- What the start of the daemon has and every step keeps, every run has. -/
theorem run_invariant_of_step {now : Timeval} {jitter : Int} (property : State → Prop)
    (initial : property (boot config now jitter))
    (kept : ∀ state input, AtRest config state → property state →
      property (step config state input))
    (inputs : List Input) : property (run config now jitter inputs) := by
  have both : AtRest config (run config now jitter inputs) ∧
      property (run config now jitter inputs) :=
    Runs.invariant_of_step (fun state => AtRest config state ∧ property state)
      (fun state input current => ⟨current.1.step input, kept state input current.1 current.2⟩)
      ⟨atRest_boot config now jitter, initial⟩ inputs
  exact both.2

/-! ### The updates of an event -/

/-- The entry `neighbor_add` renews for the source of a message. -/
def neighborUpdates (config : Config) (origin : State) (received : Received) :
    List (RtEntry × Offer) :=
  match entryAt origin received.src with
  | none => []
  | some rt =>
    if rt.flags.unidir then []
    else [(rt, neighborOffer config received.src received.ifindex rt.destSeqno rt.flags)]

/-- The entry a HELLO renews. -/
def helloUpdates (config : Config) (origin : State) (received : Received) (hello : Rrep) :
    List (RtEntry × Offer) :=
  match entryAt origin hello.destAddr with
  | none => []
  | some rt =>
    let read := helloRead config hello received.len received.ifindex (some rt)
    if HelloRenews config read.1 rt then [(rt, helloOffer hello read .valid received.ifindex)] else []

/-- The reverse entry a RREQ is taken over into. -/
def rreqUpdates (config : Config) (origin : State) (received : Received) (rreq : Rreq) :
    List (RtEntry × Offer) :=
  if rreq.origAddr ≠ ipaddrOf config received.ifindex ∧ rreqSize ≤ received.len ∧
      rreqBlacklistFind origin received.src = false ∧
      rreqRecordFind origin rreq.origAddr rreq.rreqId = false then
    match metEntry config origin received rreq.origAddr with
    | none => []
    | some met =>
      if rreqAccepts rreq met then [(met, rreqOffer rreq received.src received.ifindex met.flags)]
      else []
  else []

/-- The forward entry a RREP is taken over into. -/
def rrepUpdates (config : Config) (origin : State) (received : Received) (rrep : Rrep) :
    List (RtEntry × Offer) :=
  if rrep.destAddr ≠ ipaddrOf config received.ifindex ∧ rrepSize ≤ received.len then
    match metEntry config origin received rrep.destAddr with
    | none => []
    | some met =>
      if rrepAccepts rrep met then [(met, rrepOffer rrep received.src received.ifindex met.flags)]
      else []
  else []

/-- The calls of `rt_table_update` that an event makes, each with the entry it is made on. -/
def updatesOf (config : Config) (origin : State) : Event → List (RtEntry × Offer)
  | .message received =>
    if received.src ∈ ownAddrs config then []
    else
      match received.hello with
      | some hello => helloUpdates config origin received hello
      | none => neighborUpdates config origin received ++
        match received.msg with
        | .rreq rreq => rreqUpdates config origin received rreq
        | .rrep rrep => rrepUpdates config origin received rrep
        | _ => []
  | _ => []

theorem Received.hello_eq_none_of_rreq {received : Received} {rreq : Rreq}
    (isRreq : received.msg = .rreq rreq) : received.hello = none := by
  unfold Received.hello
  rw [isRreq]

/-- Every update that happens is listed. -/
theorem Updates.listed {rt : RtEntry} {offer : Offer}
    (cause : Updates config event origin state rt offer) :
    ∃ met, SameRoute rt met ∧ (met, offer) ∈ updatesOf config origin event := by
  cases cause with
  | neighbor received arrives notHello met bidirectional =>
    refine ⟨rt, .refl rt, ?_⟩
    rw [arrives.event, updatesOf, if_neg arrives.foreign, notHello]
    refine List.mem_append_left _ ?_
    rw [neighborUpdates, met]
    dsimp only
    rw [if_neg (Bool.eq_false_iff.mp bidirectional)]
    exact List.mem_singleton.mpr rfl
  | hello received hello handles met renews =>
    refine ⟨rt, .refl rt, ?_⟩
    rw [handles.event, updatesOf, if_neg handles.foreign, handles.isHello]
    show _ ∈ helloUpdates config origin received hello
    rw [helloUpdates, met]
    dsimp only
    rw [if_pos renews]
    exact List.mem_singleton.mpr rfl
  | rreq received rreq handles ready met meets same accepts =>
    refine ⟨met, same, ?_⟩
    rw [handles.event, updatesOf, if_neg handles.foreign,
      Received.hello_eq_none_of_rreq handles.isRreq]
    refine List.mem_append_right _ ?_
    rw [handles.isRreq]
    dsimp only
    rw [rreqUpdates, if_pos ⟨handles.notOwn, handles.long, handles.unlisted, handles.unseen⟩, meets]
    dsimp only
    rw [if_pos (rreqAccepts_congr rreq same ▸ accepts), same.flags]
    exact List.mem_singleton.mpr rfl
  | rrep received rrep handles ready met meets same accepts =>
    refine ⟨met, same, ?_⟩
    rw [handles.event, updatesOf, if_neg handles.foreign, handles.notHello]
    refine List.mem_append_right _ ?_
    rw [handles.isRrep]
    dsimp only
    rw [rrepUpdates, if_pos ⟨handles.notOwn, handles.long⟩, meets]
    dsimp only
    rw [if_pos (rrepAccepts_congr rrep same ▸ accepts), same.flags]
    exact List.mem_singleton.mpr rfl

/-! ### The insertions of an event -/

/-- The entry `neighbor_add` makes for the source of a message. -/
def neighborInserts (config : Config) (origin : State) (received : Received) : List Offer :=
  if entryAt origin received.src = none then
    [neighborOffer config received.src received.ifindex 0#32 .none]
  else []

/-- The entry a HELLO makes. -/
def helloInserts (config : Config) (origin : State) (received : Received) (hello : Rrep) :
    List Offer :=
  if entryAt origin hello.destAddr = none then
    [helloOffer hello (helloRead config hello received.len received.ifindex none)
      (if config.receiveNHellos ≠ 0 then .invalid else .valid) received.ifindex]
  else []

/-- The reverse entry a RREQ makes. -/
def rreqInserts (config : Config) (origin : State) (received : Received) (rreq : Rreq) :
    List Offer :=
  if rreq.origAddr ≠ ipaddrOf config received.ifindex ∧ rreqSize ≤ received.len ∧
      rreqBlacklistFind origin received.src = false ∧
      rreqRecordFind origin rreq.origAddr rreq.rreqId = false ∧
      metEntry config origin received rreq.origAddr = none then
    [rreqOffer rreq received.src received.ifindex .none]
  else []

/-- The forward entry a RREP makes. -/
def rrepInserts (config : Config) (origin : State) (received : Received) (rrep : Rrep) :
    List Offer :=
  if rrep.destAddr ≠ ipaddrOf config received.ifindex ∧ rrepSize ≤ received.len ∧
      metEntry config origin received rrep.destAddr = none then
    [rrepOffer rrep received.src received.ifindex .none]
  else []

/-- The calls of `rt_table_insert` that an event makes. -/
def insertsOf (config : Config) (origin : State) : Event → List Offer
  | .message received =>
    if received.src ∈ ownAddrs config then []
    else
      match received.hello with
      | some hello => helloInserts config origin received hello
      | none => neighborInserts config origin received ++
        match received.msg with
        | .rreq rreq => rreqInserts config origin received rreq
        | .rrep rrep => rrepInserts config origin received rrep
        | _ => []
  | _ => []

/-- Every insertion that happens is listed. -/
theorem Inserts.listed {offer : Offer} (cause : Inserts config event origin state offer) :
    offer ∈ insertsOf config origin event := by
  cases cause with
  | neighbor received arrives notHello unmet =>
    rw [arrives.event, insertsOf, if_neg arrives.foreign, notHello]
    refine List.mem_append_left _ ?_
    rw [neighborInserts, if_pos unmet]
    exact List.mem_singleton.mpr rfl
  | hello received hello handles unmet =>
    rw [handles.event, insertsOf, if_neg handles.foreign, handles.isHello]
    dsimp only
    rw [helloInserts, if_pos unmet]
    exact List.mem_singleton.mpr rfl
  | rreq received rreq handles ready unmet =>
    rw [handles.event, insertsOf, if_neg handles.foreign,
      Received.hello_eq_none_of_rreq handles.isRreq]
    refine List.mem_append_right _ ?_
    rw [handles.isRreq]
    dsimp only
    rw [rreqInserts, if_pos ⟨handles.notOwn, handles.long, handles.unlisted, handles.unseen, unmet⟩]
    exact List.mem_singleton.mpr rfl
  | rrep received rrep handles ready unmet =>
    rw [handles.event, insertsOf, if_neg handles.foreign, handles.notHello]
    refine List.mem_append_right _ ?_
    rw [handles.isRrep]
    dsimp only
    rw [rrepInserts, if_pos ⟨handles.notOwn, handles.long, unmet⟩]
    exact List.mem_singleton.mpr rfl

/-! ### Small scenarios -/

/-- A node of one interface whose subnet is its own address. -/
def loneDev : Dev := ⟨1, 1#32, 0xFFFFFFFF#32, 0xFFFFFFFF#32⟩

def loneConfig : Config := defaultConfig [loneDev]

/-- A node with two interfaces. -/
def relayConfig : Config :=
  defaultConfig [loneDev, ⟨2, 0x101#32, 0xFFFFFFFF#32, 0xFFFFFFFF#32⟩]

/-- An event at a time given in milliseconds. -/
def inputAt (msec : Int) (event : Event) : Input := ⟨⟨msec / 1000, msec % 1000 * 1000⟩, 0, event⟩

/-- A HELLO received on the first interface. -/
def helloFrom (source : Addr) (seqno : Seqno) : Event :=
  .message ⟨.rrep ⟨false, false, 0, source, seqno, source, 2000, []⟩, rrepSize, source,
    aodvBroadcast, 1, 1⟩

/-- A RREQ of an originator, received from a source on the first interface. -/
def rreqFrom (source origAddr : Addr) (origSeqno : Seqno) (hcnt : Nat) (destAddr : Addr) : Event :=
  .message ⟨.rreq ⟨.none, hcnt, 0#32, destAddr, 0#32, origAddr, origSeqno, []⟩, rreqSize, source,
    aodvBroadcast, 5, 1⟩

/-- A RREP about a destination, received from a source on the first interface. -/
def rrepFrom (source destAddr : Addr) (destSeqno : Seqno) (hcnt : Nat) : Event :=
  .message ⟨.rrep ⟨false, false, hcnt, destAddr, destSeqno, 1#32, 6000, []⟩, rrepSize, source, 1#32,
    5, 1⟩

/-- A locally generated packet to a destination. -/
def packetTo (packetId : BitVec 32) (daddr : Addr) : Event :=
  .packet ⟨packetId, some ⟨40, 5, 17, 1#32, daddr, 1000, 2000⟩, .other, 0, 1⟩

end Aodvd
