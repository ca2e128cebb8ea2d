/-
This file proves that every handler of the daemon is a chain of actions.

The handlers are taken in the order of the source: sending HELLOs, `neighbor_add`, the
processing of HELLOs, RREQs, RREPs and RERRs, the timeout functions and the packet
callback. What a later handler reads of the work of an earlier one, such as the neighbour
entry that `neighbor_add` leaves for `rreq_process`, is stated beside the chain.
-/

import Aodvd.Clocks

namespace Aodvd

variable {state final : State} {id : TimerId} {dest : Addr} {rt : RtEntry} {received : Received}
  {rreq : Rreq} {rrep : Rrep} {rest : List TimerId} (source revDest : Addr) (noDelete : Bool)
  (destAddr : Addr)

variable {config : Config} {event : Event} {origin : State}

/-! ### Sending -/

theorem listed_some {dev : Dev} (listed : dev ∈ config.devs) (sender : Dev)
    (sends : some dev = some sender) : sender ∈ config.devs :=
  Option.some.inj sends ▸ listed

theorem sendOnAll_acts {ttl : Int} {len : Nat}
    (sendable : ∀ dev ∈ config.devs,
      Sendable config event origin state aodvBroadcast len ttl (some dev)) :
    Acts config event origin state (sendOnAll config len ttl state) := by
  have loop : Acts config event origin state (sendOnAll config len ttl state) ∧
      Aside state (sendOnAll config len ttl state) ∧
      (sendOnAll config len ttl state).sendBuf = state.sendBuf := by
    unfold sendOnAll
    refine List.foldlRecOn config.devs _ (motive := fun current : State =>
      Acts config event origin state current ∧ Aside state current ∧
        current.sendBuf = state.sendBuf) ⟨.refl, .refl _, rfl⟩ ?_
    rintro current ⟨acts, aside, buffer⟩ dev listed
    refine ⟨.tail acts (.send current _ len ttl _ ((sendable dev listed).of_aside aside buffer)
        (listed_some listed)), aside.trans (aside_aodvSocketSend ..), ?_⟩
    rw [sendBuf_aodvSocketSend, buffer]
  exact loop.1

theorem rerrSend_acts (draft : RerrDraft)
    (sendable : ∀ rerr, draft.created = true → state.sendBuf = .rerr rerr →
      ∀ dst len dev, Sendable config event origin state dst len 1 dev) :
    Acts config event origin state (rerrSend config draft state) := by
  unfold rerrSend
  split
  · rename_i rerr created buffer
    have broadcast : ∀ size : Nat, Acts config event origin state (sendOnAll config size 1 state) :=
      fun size => sendOnAll_acts fun dev _ => sendable rerr created buffer _ _ (some dev)
    dsimp only
    split
    · split
      · exact .single (.send _ _ _ _ _ (sendable rerr created buffer _ _ _)
          (listed_devIfindex config _))
      · split
        · exact broadcast _
        · exact .refl
    · split
      · exact broadcast _
      · exact .refl
  · exact .refl

/-! ### HELLOs -/

theorem helloSendAll_acts (state : State) :
    Acts config event origin state (helloSendAll config state) := by
  unfold helloSendAll
  refine List.foldlRecOn config.devs.zipIdx _ (motive := fun current : State =>
    Acts config event origin state current) .refl ?_
  intro current acts numbered member
  have listed : numbered.1 ∈ config.devs := List.fst_mem_of_mem_zipIdx member
  have created : Aside current (helloCreate config numbered.2 numbered.1 current) := by
    constructor <;> rfl
  exact .tail (.tail acts (.aside created rfl))
    (.send _ _ _ _ _ (.hello numbered.1 _ rfl listed rfl rfl rfl rfl rfl) (listed_some listed))

theorem aside_helloSendAll (config : Config) (state : State) :
    Aside state (helloSendAll config state) := by
  unfold helloSendAll
  refine List.foldlRecOn config.devs.zipIdx _ (motive := fun current : State =>
    Aside state current) (.refl _) ?_
  intro current aside numbered _
  have created : Aside current (helloCreate config numbered.2 numbered.1 current) := by
    constructor <;> rfl
  exact (aside.trans created).trans (aside_aodvSocketSend ..)

theorem arm_static (state : State) (id : TimerId) (msec : Int) (plain : id.Plain)
    (owned : id.Owned state) (timely : Timely state msec) :
    Acts config event origin state (setTimeout id msec state) :=
  .single (.timer (.arm state id msec plain owned timely))

theorem helloJitter_bounded (config : Config) (bounded : -(helloInterval : Int) ≤ state.jitter) :
    -(helloInterval : Int) ≤ helloJitter config state := by
  unfold helloJitter helloInterval at *
  split <;> omega

theorem helloSend_acts (state : State) :
    Acts config event origin state (helloSend config state) := by
  unfold helloSend
  split
  · exact .single (.timer (.remove state _ trivial))
  · dsimp only
    split
    · refine .tail (helloSendAll_acts state) (.timer (.arm _ _ _ trivial trivial fun bounded => ?_))
      rw [(aside_helloSendAll config state).jitter] at bounded
      have := helloJitter_bounded config bounded
      omega
    · split
      · exact arm_static state _ _ trivial trivial fun bounded => by omega
      · exact arm_static state _ _ trivial trivial fun bounded => by omega

theorem helloStart_acts (state : State) :
    Acts config event origin state (helloStart config state) := by
  unfold helloStart
  split
  · exact .refl
  · rename_i unused
    have started : Aside state { state with fwdTime := state.now } := by constructor <;> rfl
    have restarted : timerUsed { state with fwdTime := state.now } .helloSendTimer = false :=
      Bool.eq_false_iff.mpr unused
    exact .trans (.tail (.single (.aside started rfl))
      (.timer (.restart _ .helloSendTimer .helloSend trivial restarted))) (helloSend_acts _)

theorem helloOnDemand_acts (state : State) :
    Acts config event origin state (helloOnDemand config state) := by
  unfold helloOnDemand
  split
  · exact helloStart_acts state
  · exact .refl

/-- A HELLO is due or not: the one timer it arms or removes is its own. -/
theorem helloSend_frame (config : Config) (state : State) :
    (helloSend config state).rtTbl = state.rtTbl ∧
      (helloSend config state).seekhead = state.seekhead ∧
      ∀ id, id ≠ .helloSendTimer →
        (helloSend config state).timers.timer id = state.timers.timer id := by
  have all := aside_helloSendAll config state
  unfold helloSend
  split
  · exact ⟨rfl, rfl, fun id other => (timer_timerRemove ..).trans (if_neg other)⟩
  · dsimp only
    split
    · refine ⟨all.rtTbl, all.seekhead, fun id other => ?_⟩
      refine (timer_timerSetTimeout ..).trans ((if_neg other).trans ?_)
      rw [all.timers]
    · split <;> exact ⟨rfl, rfl, fun id other => (timer_timerSetTimeout ..).trans (if_neg other)⟩

theorem helloStart_frame (config : Config) (state : State) :
    (helloStart config state).rtTbl = state.rtTbl ∧
      ∀ id, id ≠ .helloSendTimer →
        (helloStart config state).timers.timer id = state.timers.timer id := by
  unfold helloStart
  split
  · exact ⟨rfl, fun _ _ => rfl⟩
  · obtain ⟨rtTbl, _, timers⟩ := helloSend_frame config
      (initTimer .helloSendTimer .helloSend { state with fwdTime := state.now })
    exact ⟨rtTbl, fun id other =>
      (timers id other).trans ((timer_timerInit ..).trans (if_neg other))⟩

/-- Asking for HELLOs leaves the routing table alone. -/
theorem rtTbl_helloOnDemand (state : State) :
    (helloOnDemand config state).rtTbl = state.rtTbl := by
  unfold helloOnDemand
  split
  · exact (helloStart_frame config state).1
  · rfl

theorem touch_heardAt (time : Timeval) : Touch (RtEntry.heardAt time) :=
  ⟨⟨.of_same (fun _ => rfl) (fun _ => rfl) (fun _ => rfl) (fun _ => rfl),
    fun _ => rfl, fun _ => rfl, fun _ => rfl, fun _ => rfl, fun _ => rfl⟩, fun _ => rfl⟩

theorem touch_setHelloCnt (count : Nat) : Touch (RtEntry.setHelloCnt count) :=
  ⟨⟨.of_same (fun _ => rfl) (fun _ => rfl) (fun _ => rfl) (fun _ => rfl),
    fun _ => rfl, fun _ => rfl, fun _ => rfl, fun _ => rfl, fun _ => rfl⟩, fun _ => rfl⟩

theorem helloUpdateTimeout_acts (heard : event ≠ .timers) (found : entryAt state dest = some rt)
    (near : rt.hcnt = 1 ∨ config.unidirHack = true) (time : Nat) :
    Acts config event origin state (helloUpdateTimeout dest time state) :=
  .tail (.single (.hear state dest _ heard rt found near (timely_natCast state (time + helloDelay))))
    (.route (.touch _ dest (touch_heardAt state.now)))

/-! ### Entries that agree on the route -/

/-- The entries of a destination in two states agree on the route, or there is none in either. -/
def SameRoutes (before after : State) : Prop :=
  ∀ dest, Option.Rel SameRoute (entryAt after dest) (entryAt before dest)

theorem relRoute_refl (entry : Option RtEntry) : Option.Rel SameRoute entry entry := by
  cases entry with
  | none => exact .none
  | some rt => exact .some (.refl rt)

theorem relRoute_none {met : Option RtEntry} (agree : Option.Rel SameRoute none met) :
    met = none := by
  cases agree
  rfl

theorem relRoute_some {met : Option RtEntry} (agree : Option.Rel SameRoute (some rt) met) :
    ∃ old, met = some old ∧ SameRoute rt old := by
  cases agree with
  | some same => exact ⟨_, rfl, same⟩

theorem SameRoutes.of_rtTbl {before after : State} (rtTbl : after.rtTbl = before.rtTbl) :
    SameRoutes before after := by
  intro dest
  have same : entryAt after dest = entryAt before dest := by rw [entryAt, entryAt, rtTbl]
  rw [same]
  exact relRoute_refl _

theorem SameRoutes.refl (state : State) : SameRoutes state state := .of_rtTbl rfl

theorem relRoute_trans {first second third : Option RtEntry}
    (early : Option.Rel SameRoute second first) (late : Option.Rel SameRoute third second) :
    Option.Rel SameRoute third first := by
  cases late with
  | none => exact early
  | some agree =>
    cases early with
    | some agreeEarly => exact .some (agree.trans agreeEarly)

theorem SameRoutes.trans {first second third : State} (early : SameRoutes first second)
    (late : SameRoutes second third) : SameRoutes first third :=
  fun dest => relRoute_trans (early dest) (late dest)

theorem SameRoutes.touch {change : RtEntry → RtEntry} (touch : Touch change) (dest : Addr)
    (state : State) : SameRoutes state (setEntry dest change state) := by
  intro other
  rw [entryAt_setEntry touch.dest]
  split
  · rename_i same
    subst same
    cases entryAt state other with
    | none => exact .none
    | some rt => exact .some (touch.sameRoute rt)
  · exact relRoute_refl _

theorem SameRoutes.some {before after : State} (same : SameRoutes before after)
    (found : entryAt before dest = some rt) :
    ∃ rt', entryAt after dest = some rt' ∧ SameRoute rt' rt := by
  have agree := same dest
  rw [found] at agree
  cases entry : entryAt after dest with
  | none =>
    rw [entry] at agree
    cases agree
  | some rt' =>
    rw [entry] at agree
    cases agree with
    | some agree => exact ⟨rt', rfl, agree⟩

/-! ### Neighbours -/

/-- The state in which the handler of a message starts, once `neighbor_add` has seen its
source. -/
structure Introduced (config : Config) (origin : State) (received : Received) (state : State) :
    Prop where
  regular : Regular config state
  acts : Acts config (.message received) origin origin state
  meets : ∀ dest, Option.Rel SameRoute (entryAt state dest) (metEntry config origin received dest)
  ready : Ready config state received.src
  records : SameRecords origin state

theorem neighborHeard_acts (config : Config) {event : Event} (origin : State) {source : Addr}
    (heard : event ≠ .timers) (found : entryAt state source = some rt) (near : rt.hcnt = 1) :
    Acts config event origin state (neighborHeard config source state) ∧
      SameRoutes state (neighborHeard config source state) ∧
      SameRecords state (neighborHeard config source state) := by
  unfold neighborHeard
  split
  · refine ⟨helloUpdateTimeout_acts heard found (.inl near) _, ?_, ⟨rfl, rfl, rfl⟩⟩
    exact SameRoutes.touch (touch_heardAt state.now) source
      (setTimeout (.helloTimer source) _ state)
  · exact ⟨.refl, .refl _, ⟨rfl, rfl, rfl⟩⟩

/-- A HELLO heard after a route was made or renewed leaves the message introduced. -/
theorem Introduced.of_heard (regular : Regular config state)
    (acts : Acts config (.message received) origin origin state)
    (meets : ∀ dest, Option.Rel SameRoute (entryAt state dest)
      (metEntry config origin received dest))
    (found : entryAt state received.src = some rt)
    (ready : rt.state = .valid ∧ rt.hcnt = 1 ∧ rt.nextHop = received.src)
    (records : SameRecords origin state) :
    Introduced config origin received (neighborHeard config received.src state) := by
  have notTimers : Event.message received ≠ .timers := by simp
  obtain ⟨heard, same, kept⟩ :=
    neighborHeard_acts config origin notTimers found ready.2.1
  obtain ⟨rt', found', agree⟩ := same.some found
  refine ⟨heard.regular regular, acts.trans heard, fun dest => relRoute_trans (meets dest) (same dest),
    .inr ⟨rt', found', ?_, ?_, ?_⟩,
    ⟨kept.rreqRecords.trans records.rreqRecords,
      kept.rreqBlacklist.trans records.rreqBlacklist,
      kept.now.trans records.now⟩⟩
  · rw [agree.state, ready.1]
  · rw [agree.hcnt, ready.2.1]
  · rw [agree.nextHop, ready.2.2]

theorem neighborOffer_not_breaks (config : Config) (source : Addr) (ifindex : Nat) (seqno : Seqno)
    (flags : RtFlags) (rt : RtEntry) : ¬ (neighborOffer config source ifindex seqno flags).Breaks rt :=
  fun breaks => absurd breaks.1 (Nat.lt_irrefl 1)

theorem updateFlags_neighborOffer (rt : RtEntry) (source : Addr) (ifindex : Nat) :
    updateFlags rt (neighborOffer config source ifindex rt.destSeqno rt.flags) =
      if rt.state = .invalid then { rt.flags with repair := false } else rt.flags := by
  unfold updateFlags neighborOffer
  cases rt.state <;> cases repair : rt.flags.repair <;> simp [← repair]

theorem neighborAdd_introduced (regular : Regular config origin)
    (arrives : Arrives config (.message received) received) (notHello : received.hello = none) :
    Introduced config origin received
      (neighborAdd config received.src received.ifindex origin) := by
  unfold neighborAdd
  rw [rtTableFind_eq_entryAt regular.sound]
  cases found : entryAt origin received.src with
  | none =>
    have act : Act config (.message received) origin origin _ :=
      .route (.insert origin (neighborOffer config received.src received.ifindex 0#32 .none) found
        (.neighbor received arrives notHello found))
    have inserted := entryAt_rtTableInsert config
      (neighborOffer config received.src received.ifindex 0#32 .none) found
    have selfFound := (inserted received.src).trans (if_pos rfl)
    refine .of_heard (act.regular regular) (.single act) ?_ selfFound ⟨rfl, rfl, rfl⟩
      (sameRecords_rtTableInsert ..)
    intro dest
    rw [metEntry]
    by_cases same : dest = received.src
    · rw [if_pos same, same, found, selfFound]
      exact relRoute_refl _
    · have kept := (inserted dest).trans (if_neg fun eq => same eq.symm)
      rw [if_neg same, kept]
      exact relRoute_refl _
  | some rt =>
    dsimp only
    split
    · rename_i unidir
      refine ⟨regular, .refl, fun dest => ?_, .inl ?_, ⟨rfl, rfl, rfl⟩⟩
      · rw [metEntry]
        split
        · rename_i same
          rw [same, found]
          dsimp only
          rw [RtEntry.refreshed, if_pos unidir]
          exact relRoute_refl _
        · exact relRoute_refl _
      · by_contra off
        have unmarked := regular.bidirectional (Bool.eq_false_iff.mpr off) received.src rt found
        exact absurd (unmarked.symm.trans unidir) (by simp)
    · rename_i unidir
      have bidirectional : rt.flags.unidir = false := Bool.eq_false_iff.mpr unidir
      have act : Act config (.message received) origin origin _ :=
        .route (.update origin
          (neighborOffer config received.src received.ifindex rt.destSeqno rt.flags) rt found
          (.neighbor received arrives notHello found bidirectional))
      have notBreaks := neighborOffer_not_breaks config received.src received.ifindex
        rt.destSeqno rt.flags rt
      obtain ⟨base, updated, _, _, baseEq⟩ :=
        entryAt_rtTableUpdate_self config
          (neighborOffer config received.src received.ifindex rt.destSeqno rt.flags) regular.sound
          found
      obtain rfl := baseEq notBreaks
      refine .of_heard (act.regular regular) (.single act) ?_ updated ⟨rfl, rfl, rfl⟩
        ((sameRecords_ruled config origin).rtTableUpdate ⟨rfl, rfl, rfl⟩ _)
      intro dest
      rw [metEntry]
      by_cases same : dest = received.src
      · rw [if_pos same, same, found]
        refine (show Option.Rel SameRoute _ _ from updated ▸ .some ?_)
        dsimp only
        rw [RtEntry.refreshed, if_neg unidir]
        refine ⟨rfl, rfl, rfl, rfl, rfl, ?_, rfl⟩
        exact updateFlags_neighborOffer base received.src received.ifindex
      · rw [if_neg same, entryAt_rtTableUpdate_other config
          (neighborOffer config received.src received.ifindex base.destSeqno base.flags)
          regular.sound found same, if_neg notBreaks]
        exact relRoute_refl _

/-! ### Processing a HELLO -/

theorem helloProcess_acts (regular : Regular config origin) {hello : Rrep}
    (handles : HandlesHello config event received hello) :
    Acts config event origin origin
      (helloProcess config hello received.len received.ifindex origin) := by
  have message : event ≠ .timers := by
    rw [handles.event]
    simp
  unfold helloProcess
  rw [rtTableFind_eq_entryAt regular.sound]
  cases found : entryAt origin hello.destAddr with
  | none =>
    dsimp only
    have inserted := entryAt_rtTableInsert config (helloOffer hello
      (helloRead config hello received.len received.ifindex none)
      (if config.receiveNHellos ≠ 0 then .invalid else .valid) received.ifindex) found hello.destAddr
    have act : Act config event origin origin _ :=
      .route (.insert origin _ found (.hello received hello handles found))
    have counted := (entryAt_setEntry (touch_setHelloCnt 1).dest hello.destAddr hello.destAddr
      (rtTableInsert config (helloOffer hello
        (helloRead config hello received.len received.ifindex none)
        (if config.receiveNHellos ≠ 0 then .invalid else .valid) received.ifindex) origin).1).trans
      (if_pos rfl)
    rw [inserted, if_pos (show (helloOffer _ _ _ _).dest = hello.destAddr from rfl),
      Option.map_some] at counted
    exact .trans (.tail (.single act) (.route (.touch _ hello.destAddr (touch_setHelloCnt 1))))
      (helloUpdateTimeout_acts message counted (.inl rfl) _)
  | some rt =>
    dsimp only
    split
    · rename_i longer
      refine helloUpdateTimeout_acts message found (.inr ?_) _
      by_contra off
      have hack : config.unidirHack = false := Bool.eq_false_iff.mpr off
      have unmarked := (helloRead_flags config hello received.len received.ifindex (some rt)).2.2 hack
        (regular.bidirectional hack _ rt found)
      exact absurd (unmarked.symm.trans longer.1) (by simp)
    · rename_i notLonger
      split
      · exact .tail (.single (.route (.touch origin hello.destAddr (touch_setHelloCnt _))))
          (.route (.touch _ hello.destAddr (touch_heardAt _)))
      · rename_i enough
        obtain ⟨base, updated, _⟩ := entryAt_rtTableUpdate_self config (helloOffer hello
          (helloRead config hello received.len received.ifindex (some rt)) .valid received.ifindex)
          regular.sound found
        exact .trans (.single (.route (.update origin _ rt found
            (.hello received hello handles found ⟨notLonger, enough⟩))))
          (helloUpdateTimeout_acts message updated (.inl rfl) _)

/-! ### Sending a RREP -/

theorem touch_precursorAdd (addr : Addr) : Touch (RtEntry.precursorAdd addr) where
  toGentle := gentle_precursorAdd addr
  destSeqno rt := by unfold RtEntry.precursorAdd; split <;> rfl
  ifindex rt := by unfold RtEntry.precursorAdd; split <;> rfl
  nextHop rt := by unfold RtEntry.precursorAdd; split <;> rfl
  hcnt rt := by unfold RtEntry.precursorAdd; split <;> rfl
  state rt := by unfold RtEntry.precursorAdd; split <;> rfl
  flags rt := by unfold RtEntry.precursorAdd; split <;> rfl

theorem updatePrecursors_acts (config : Config) (event : Event) (origin : State)
    (fwdDest revDest : Addr) (state : State) :
    Acts config event origin state (updatePrecursors fwdDest revDest state) ∧
      SameRoutes state (updatePrecursors fwdDest revDest state) := by
  unfold updatePrecursors
  split
  · exact ⟨.tail (.single (.route (.touch state fwdDest (touch_precursorAdd _))))
        (.route (.touch _ revDest (touch_precursorAdd _))),
      (SameRoutes.touch (touch_precursorAdd _) fwdDest state).trans
        (.touch (touch_precursorAdd _) revDest _)⟩
  · exact ⟨.refl, .refl _⟩

/-- Without the option for unidirectional links no acknowledgement is asked for. -/
theorem rrepRequestAck_acts {revDest : Addr} {revRt : RtEntry}
    (handles : HandlesRreq config event origin received rreq) (regular : Regular config state)
    (found : entryAt state revDest = some revRt) :
    Acts config event origin state (rrepRequestAck config revRt state) ∧
      (config.unidirHack = true ∨ rrepRequestAck config revRt state = state) := by
  unfold rrepRequestAck
  split
  · rename_i asks
    have hack : config.unidirHack = true := by
      by_contra off
      have unmarked := regular.bidirectional (Bool.eq_false_iff.mpr off) revDest revRt found
      rcases asks with ⟨_, unidir⟩ | ⟨_, hack⟩
      · exact absurd (unmarked.symm.trans unidir) (by simp)
      · exact off hack
    refine ⟨?_, .inl hack⟩
    rw [rtTableFind_eq_entryAt regular.sound]
    split
    · exact .refl
    · rename_i neighbor neighborFound
      have dest := entryAt_destAddr neighborFound
      split
      · have broken : Acts config event origin state (neighborLinkBreak config neighbor.destAddr
            (removeTimer (.helloTimer neighbor.destAddr)
              (setEntry neighbor.destAddr RtEntry.markUnidir state))) :=
          .tail (.single (.timer (.remove state (.helloTimer neighbor.destAddr) trivial)))
            (.route (.unidirBreak _ neighbor.destAddr hack received rreq handles))
        refine .tail broken (.timer (.arm _ _ _ trivial ?_ (timely_natCast _ _)))
        have markedSound : (removeTimer (.helloTimer neighbor.destAddr)
            (setEntry neighbor.destAddr RtEntry.markUnidir state)).rtTbl.Sound :=
          regular.sound.setEntry cosmetic_markUnidir.toGentle neighbor.destAddr
        have marked : entryAt (removeTimer (.helloTimer neighbor.destAddr)
            (setEntry neighbor.destAddr RtEntry.markUnidir state)) neighbor.destAddr =
            some neighbor.markUnidir := by
          refine (entryAt_setEntry cosmetic_markUnidir.toGentle.dest _ _ state).trans ?_
          rw [if_pos rfl, dest, neighborFound, Option.map_some]
        show (entryAt (neighborLinkBreak _ _ _) _).isSome = true
        rw [isSome_neighborLinkBreak config _ _ markedSound, marked, Option.isSome_some]
      · exact .refl
  · exact ⟨.refl, .inr rfl⟩

/-- Asking for an acknowledgement leaves the RREP in the buffer or writes a RERR over it. -/
theorem sendBuf_rrepRequestAck (revRt : RtEntry) (sound : state.rtTbl.Sound) :
    (rrepRequestAck config revRt state).sendBuf = state.sendBuf ∨
      ∃ rerr, (rrepRequestAck config revRt state).sendBuf = .rerr rerr := by
  unfold rrepRequestAck
  split
  · split
    · exact .inl rfl
    · rename_i neighbor _
      split
      · have marked : (removeTimer (.helloTimer neighbor.destAddr)
            (setEntry neighbor.destAddr RtEntry.markUnidir state)).rtTbl.Sound :=
          sound.setEntry cosmetic_markUnidir.toGentle neighbor.destAddr
        exact sendBuf_neighborLinkBreak_cases config neighbor.destAddr marked
      · exact .inl rfl
  · exact .inl rfl

theorem sendAlong_acts {revDest : Addr} {ttl : Int} {size : Nat}
    (sendable : ∀ revRt, entryAt state revDest = some revRt →
      Sendable config event origin state revRt.nextHop size ttl (devIfindex config revRt.ifindex)) :
    Acts config event origin state (sendAlong config revDest size ttl state) := by
  unfold sendAlong
  split
  · exact .refl
  · exact .single (.send _ _ _ _ _ (sendable _ ‹_›) (listed_devIfindex config _))

theorem aside_sendAlong (size : Nat) (ttl : Int) (state : State) :
    Aside state (sendAlong config revDest size ttl state) := by
  unfold sendAlong
  split
  · exact .refl _
  · exact aside_aodvSocketSend ..

theorem rrepSend_acts {revDest : Addr} (handles : HandlesRreq config event origin received rreq)
    (fwdDest : Option Addr) (size : Nat) (regular : Regular config state)
    (buffer : state.sendBuf = .rrep rrep)
    (sendable : ∀ revRt, entryAt state revDest = some revRt →
      Sendable config event origin state revRt.nextHop size maxTtl
        (devIfindex config revRt.ifindex)) :
    Acts config event origin state (rrepSend config revDest fwdDest size state) ∧
      (config.unidirHack = true ∨
        SameRoutes state (rrepSend config revDest fwdDest size state)) := by
  unfold rrepSend
  split
  · exact ⟨.refl, .inr (.refl _)⟩
  · rename_i revRt found
    dsimp only
    obtain ⟨asked, quiet⟩ := rrepRequestAck_acts handles regular found
    have sent : Acts config event origin state
        (sendAlong config revDest size maxTtl (rrepRequestAck config revRt state)) := by
      refine asked.trans (sendAlong_acts fun current currentFound => ?_)
      rcases quiet with hack | unchanged
      · refine .suspect revDest current hack currentFound rfl rfl ?_
        exact (sendBuf_rrepRequestAck revRt regular.sound).imp_left fun kept =>
          ⟨rrep, kept.trans buffer⟩
      · rw [unchanged] at currentFound ⊢
        exact sendable current currentFound
    have sentSame : config.unidirHack = true ∨ SameRoutes state
        (sendAlong config revDest size maxTtl (rrepRequestAck config revRt state)) := by
      refine quiet.imp id fun unchanged => ?_
      rw [unchanged]
      exact .of_rtTbl (aside_sendAlong ..).rtTbl
    have greeted (noted : State) : SameRoutes noted (helloOnDemand config noted) :=
      .of_rtTbl (rtTbl_helloOnDemand _)
    cases fwdDest with
    | none =>
      exact ⟨sent.trans (helloOnDemand_acts _), sentSame.imp id fun same => same.trans (greeted _)⟩
    | some fwdDest =>
      obtain ⟨updated, same⟩ := updatePrecursors_acts config event origin fwdDest revDest
        (sendAlong config revDest size maxTtl (rrepRequestAck config revRt state))
      exact ⟨(sent.trans updated).trans (helloOnDemand_acts _),
        sentSame.imp id fun before => (before.trans same).trans (greeted _)⟩

/-! ### Processing a RREQ -/

/-- A RREQ is not accepted again by the entry it has just made, unless it carries no number. -/
theorem not_rreqAccepts_adopted (seqno : rt.destSeqno = rreq.origSeqno)
    (hcnt : rt.hcnt = (rreq.hcnt + 1) % 256) (valid : rt.state = .valid)
    (accepts : rreqAccepts rreq rt = true) : rreq.origSeqno = 0#32 := by
  have wrapped := Nat.mod_le (rreq.hcnt + 1) 256
  have notShorter : ¬ rreq.hcnt + 1 < rt.hcnt := by omega
  simpa [rreqAccepts, seqno, valid, notShorter] using accepts

/-- The reverse entry of a RREQ has taken it over or knows better; if it is invalid, it is as
the RREQ met it. -/
structure Reversed (config : Config) (origin : State) (received : Received) (rreq : Rreq)
    (rt : RtEntry) : Prop where
  settled : rreqAccepts rreq rt = true → rreq.origSeqno = 0#32
  fresh : rt.state = .valid ∨ ∃ met, metEntry config origin received rreq.origAddr = some met ∧
    SameRoute rt met ∧ rreqAccepts rreq met = false

theorem Reversed.congr {first second : RtEntry} (same : SameRoute first second)
    (reversed : Reversed config origin received rreq second) :
    Reversed config origin received rreq first where
  settled accepts := reversed.settled (rreqAccepts_congr rreq same ▸ accepts)
  fresh := by
    rcases reversed.fresh with valid | ⟨met, meets, agree, rejects⟩
    · exact .inl (same.state.trans valid)
    · exact .inr ⟨met, meets, same.trans agree, rejects⟩

theorem RoutingTable.Sound.rreqReverse {state : State} (sound : state.rtTbl.Sound)
    (config : Config) (rreq : Rreq) (ipSrc : Addr) (ifindex : Nat) :
    (rreqReverse config rreq ipSrc ifindex state).rtTbl.Sound := by
  unfold Aodvd.rreqReverse
  split
  · exact sound.rtTableInsert config _
  · split
    · exact sound.rtTableUpdate config _
    · exact sound

theorem rreqReverse_acts (regular : Regular config state)
    (handles : HandlesRreq config event origin received rreq)
    (ready : Ready config state received.src)
    (meets : Option.Rel SameRoute (entryAt state rreq.origAddr)
      (metEntry config origin received rreq.origAddr)) :
    Acts config event origin state
        (rreqReverse config rreq received.src received.ifindex state) ∧
      ∃ rt, entryAt (rreqReverse config rreq received.src received.ifindex state) rreq.origAddr =
          some rt ∧ Reversed config origin received rreq rt := by
  unfold rreqReverse
  rw [rtTableFind_eq_entryAt regular.sound]
  cases found : entryAt state rreq.origAddr with
  | none =>
    have inserted := entryAt_rtTableInsert config
      (rreqOffer rreq received.src received.ifindex .none) found rreq.origAddr
    have unmet := relRoute_none (found ▸ meets)
    refine ⟨.single (.route (.insert state _ found (.rreq received rreq handles ready unmet))), _,
      inserted.trans (if_pos rfl), not_rreqAccepts_adopted rfl rfl rfl, .inl rfl⟩
  | some rt =>
    obtain ⟨met, metFound, same⟩ := relRoute_some (found ▸ meets)
    dsimp only
    split
    · rename_i accepts
      obtain ⟨base, updated, _⟩ := entryAt_rtTableUpdate_self config
        (rreqOffer rreq received.src received.ifindex rt.flags) regular.sound found
      exact ⟨.single (.route (.update state _ rt found
          (.rreq received rreq handles ready met metFound same accepts))), _, updated,
        not_rreqAccepts_adopted rfl rfl rfl, .inl rfl⟩
    · rename_i rejects
      refine ⟨.refl, rt, found, fun accepts => absurd accepts rejects, .inr ⟨met, metFound, same, ?_⟩⟩
      rw [← rreqAccepts_congr rreq same]
      exact Bool.eq_false_iff.mpr rejects

theorem rreqAnswer_acts (handles : HandlesRreq config event origin received rreq)
    (regular : Regular config state) :
    Acts config event origin state (rreqAnswer config rreq state) := by
  unfold rreqAnswer
  split
  · exact .refl
  · rename_i revRt found
    have created : ∀ seqno : Seqno, Aside state (rrepCreate 0 (ipaddrOf config revRt.ifindex) seqno
        revRt.destAddr (2 * activeRouteTimeout config) { state with seqno := seqno }) := by
      intro seqno
      constructor <;> rfl
    refine .trans (.single (.aside (created _) rfl))
      (rrepSend_acts handles none rrepSize ?_ rfl ?_).1
    · exact regular.of_rtTbl rfl
    · intro current currentFound
      have same : revRt = current := Option.some.inj (found.symm.trans currentFound)
      exact .answer rreq.origAddr current _ currentFound rfl rfl rfl (same ▸ rfl) rfl

/-- A RREP about an entry of the table goes out along another. -/
theorem replyAbout_acts (handles : HandlesRreq config event origin received rreq)
    (regular : Regular config state) (found : entryAt state rt.destAddr = some rt)
    (fresh : config.unidirHack = true ∨ Advertisable config event origin rt)
    (revDest origAddr : Addr) (fwdDest : Option Addr) (life : Nat) :
    Acts config event origin state (rrepSend config revDest fwdDest rrepSize
        (rrepCreate rt.hcnt rt.destAddr rt.destSeqno origAddr life state)) ∧
      (config.unidirHack = true ∨ SameRoutes state (rrepSend config revDest fwdDest rrepSize
        (rrepCreate rt.hcnt rt.destAddr rt.destSeqno origAddr life state))) := by
  have created : Aside state (rrepCreate rt.hcnt rt.destAddr rt.destSeqno origAddr life state) := by
    constructor <;> rfl
  have createdRegular : Regular config
      (rrepCreate rt.hcnt rt.destAddr rt.destSeqno origAddr life state) := regular.of_rtTbl rfl
  have sendable : ∀ revRt,
      entryAt (rrepCreate rt.hcnt rt.destAddr rt.destSeqno origAddr life state) revDest = some revRt →
      Sendable config event origin (rrepCreate rt.hcnt rt.destAddr rt.destSeqno origAddr life state)
        revRt.nextHop rrepSize maxTtl (devIfindex config revRt.ifindex) := by
    intro revRt revFound
    rcases fresh with hack | advertisable
    · exact .suspect revDest revRt hack revFound rfl rfl (.inl ⟨_, rfl⟩)
    · exact .reply revDest revRt rt _ revFound rfl rfl rfl found rfl rfl advertisable
        (.rreq received rreq handles)
  obtain ⟨sent, same⟩ := rrepSend_acts handles fwdDest rrepSize createdRegular rfl sendable
  exact ⟨.trans (.single (.aside created rfl)) sent, same⟩

theorem rreqReply_acts {fwdRt revRt : RtEntry} (regular : Regular config state)
    (handles : HandlesRreq config event origin received rreq)
    (found : entryAt state rreq.destAddr = some fwdRt) (valid : fwdRt.state = .valid)
    (revFound : entryAt state rreq.origAddr = some revRt)
    (reversed : Reversed config origin received rreq revRt) :
    Acts config event origin state (rreqReply config rreq fwdRt state) := by
  have selfFound : entryAt state fwdRt.destAddr = some fwdRt := entryAt_destAddr found ▸ found
  have advertisable : Advertisable config event origin fwdRt := .inl valid
  obtain ⟨first, same⟩ := replyAbout_acts handles regular selfFound (.inr advertisable) rreq.origAddr
    rreq.origAddr (some fwdRt.destAddr) (remainingLife state fwdRt.destAddr)
  unfold rreqReply
  dsimp only
  split
  · rename_i gratuitous
    refine first.trans ?_
    unfold rreqGratuitousReply
    split
    · rename_i current _ currentFound _
      refine (replyAbout_acts handles (first.regular regular)
        (entryAt_destAddr currentFound ▸ currentFound) (same.imp id fun same => ?_) _ _ _ _).1
      obtain ⟨after, afterFound, agree⟩ := same.some revFound
      obtain rfl := Option.some.inj (afterFound.symm.trans currentFound)
      rcases (reversed.congr agree).fresh with stillValid | ⟨met, meets, sameMet, rejects⟩
      · exact .inl stillValid
      · exact .inr ⟨received, rreq, met, handles, gratuitous, entryAt_destAddr currentFound, meets,
          sameMet, rejects⟩
    · exact .refl
  · exact first

/-- A forwarded RREQ asks for a number that is not older. -/
theorem signed_le_forwardSeqno (rreq : Rreq) (fwdRt : Option RtEntry) :
    signed rreq.destSeqno ≤ signed (forwardSeqno rreq fwdRt) := by
  unfold forwardSeqno
  split
  · exact Int.le_refl _
  · split
    · rename_i newer
      exact Int.le_of_lt newer.2
    · exact Int.le_refl _

theorem rreqPassOn_acts (handles : HandlesRreq config event origin received rreq)
    (found : entryAt state rreq.origAddr = some rt)
    (reversed : Reversed config origin received rreq rt) (fwdRt : Option RtEntry) :
    Acts config event origin state
      (rreqPassOn config rreq received.len received.ttl fwdRt state) := by
  unfold rreqPassOn
  split
  · rename_i spread
    have buffered : Aside state { state with sendBuf := .rreq { rreq with
        hcnt := (rreq.hcnt + 1) % 256, destSeqno := forwardSeqno rreq fwdRt } } := by
      constructor <;> rfl
    refine .trans (.single (.aside buffered rfl)) (sendOnAll_acts fun dev _ => ?_)
    exact .relay received rreq (forwardSeqno rreq fwdRt) rt handles rfl rfl rfl found
      reversed.settled (by exact_mod_cast spread) (signed_le_forwardSeqno rreq fwdRt) rfl
  · exact .refl

theorem rreqContinue_acts (regular : Regular config state)
    (handles : HandlesRreq config event origin received rreq)
    (found : entryAt state rreq.origAddr = some rt)
    (reversed : Reversed config origin received rreq rt) :
    Acts config event origin state
      (rreqContinue config rreq received.len received.ttl received.ifindex state) := by
  unfold rreqContinue
  split
  · exact rreqAnswer_acts handles regular
  · rw [rtTableFind_eq_entryAt regular.sound]
    split
    · exact rreqPassOn_acts handles found reversed none
    · rename_i fwdRt fwdFound
      split
      · rename_i may
        have valid : fwdRt.state = .valid := by
          unfold rreqMayReply at may
          simp only [Bool.and_eq_true, decide_eq_true_eq] at may
          exact may.1.1.1
        exact rreqReply_acts regular handles fwdFound valid found reversed
      · exact rreqPassOn_acts handles found reversed (some fwdRt)

theorem rtTbl_rreqRecordInsert (origAddr : Addr) (rreqId : BitVec 32) (state : State) :
    (rreqRecordInsert origAddr rreqId state).rtTbl = state.rtTbl := by
  unfold rreqRecordInsert
  split <;> rfl

/-- A recorded RREQ leaves its reverse entry. -/
theorem rreqReversed_acts (introduced : Introduced config origin received state)
    (handles : HandlesRreq config event origin received rreq) :
    Acts config event origin (rreqRecordInsert rreq.origAddr rreq.rreqId state)
        (rreqReverse config rreq received.src received.ifindex
          (rreqRecordInsert rreq.origAddr rreq.rreqId state)) ∧
      ∃ rt, entryAt (rreqReverse config rreq received.src received.ifindex
          (rreqRecordInsert rreq.origAddr rreq.rreqId state)) rreq.origAddr = some rt ∧
        Reversed config origin received rreq rt := by
  have rtTbl := rtTbl_rreqRecordInsert rreq.origAddr rreq.rreqId state
  have entries : ∀ dest, entryAt (rreqRecordInsert rreq.origAddr rreq.rreqId state) dest =
      entryAt state dest := fun dest => by rw [entryAt, entryAt, rtTbl]
  have recorded := introduced.regular.of_rtTbl rtTbl
  have ready : Ready config (rreqRecordInsert rreq.origAddr rreq.rreqId state) received.src := by
    rcases introduced.ready with hack | ⟨rt, found, facts⟩
    · exact .inl hack
    · exact .inr ⟨rt, (entries _).trans found, facts⟩
  exact rreqReverse_acts recorded handles ready (entries _ ▸ introduced.meets _)

/-- A RREQ that passes the checks is recorded and leaves its reverse entry. -/
theorem rreqRecorded_acts (introduced : Introduced config origin received state)
    (handles : HandlesRreq config event origin received rreq) :
    Acts config event origin state (rreqReverse config rreq received.src received.ifindex
        (rreqRecordInsert rreq.origAddr rreq.rreqId state)) ∧
      ∃ rt, entryAt (rreqReverse config rreq received.src received.ifindex
          (rreqRecordInsert rreq.origAddr rreq.rreqId state)) rreq.origAddr = some rt ∧
        Reversed config origin received rreq rt := by
  obtain ⟨reverse, reversed⟩ := rreqReversed_acts introduced handles
  exact ⟨.trans (.single (.record state _ _)) reverse, reversed⟩

theorem rreqProcess_acts (introduced : Introduced config origin received state)
    (arrives : Arrives config (.message received) received) (isRreq : received.msg = .rreq rreq) :
    Acts config (.message received) origin origin
      (rreqProcess config rreq received.len received.src received.ttl received.ifindex state) := by
  unfold rreqProcess
  split
  · exact introduced.acts
  · rename_i notOwn
    split
    · exact introduced.acts
    · rename_i long
      split
      · exact introduced.acts
      · rename_i unlisted
        split
        · exact introduced.acts
        · rename_i unseen
          have handles : HandlesRreq config (.message received) origin received rreq := by
            refine ⟨arrives, isRreq, notOwn, Nat.le_of_not_lt long, ?_, ?_⟩
            · unfold rreqBlacklistFind at unlisted ⊢
              rw [← introduced.records.rreqBlacklist]
              exact Bool.eq_false_iff.mpr unlisted
            · unfold rreqRecordFind at unseen ⊢
              rw [← introduced.records.rreqRecords]
              exact Bool.eq_false_iff.mpr unseen
          obtain ⟨reverse, rt, found, reversed⟩ := rreqRecorded_acts introduced handles
          exact .trans (introduced.acts.trans reverse)
            (rreqContinue_acts (reverse.regular introduced.regular) handles found reversed)

/-! ### Processing a RREP -/

theorem aside_rrepAcknowledge (config : Config) (rrep : Rrep) (state : State) :
    Aside state (rrepAcknowledge config rrep state) := by
  have created : Aside state { state with sendBuf := .rrepAck } := by constructor <;> rfl
  rw [rrepAcknowledge]
  split
  · exact created.trans (aside_sendAlong ..)
  · exact .refl _

theorem rrepAcknowledge_acts (config : Config) (event : Event) (origin : State) (rrep : Rrep)
    (state : State) : Acts config event origin state (rrepAcknowledge config rrep state) := by
  unfold rrepAcknowledge
  split
  · have buffered : Aside state { state with sendBuf := .rrepAck } := by constructor <;> rfl
    exact .trans (.single (.aside buffered rfl)) (sendAlong_acts fun _ _ => .acknowledgement rfl)
  · exact .refl

/-- An entry in repair that a message meets was in repair when the message arrived. -/
theorem repair_of_metEntry {met : RtEntry}
    (meets : metEntry config origin received dest = some met) (repair : met.flags.repair = true) :
    ∃ rt, entryAt origin dest = some rt ∧ rt.flags.repair = true := by
  unfold metEntry at meets
  split at meets
  · obtain rfl := Option.some.inj meets
    split at repair
    · exact absurd repair Bool.false_ne_true
    · rename_i rt found
      refine ⟨rt, found, ?_⟩
      unfold RtEntry.refreshed at repair
      split at repair
      · exact repair
      · dsimp only at repair
        split at repair
        · exact absurd repair Bool.false_ne_true
        · exact repair
  · exact ⟨met, meets, repair⟩

theorem rrepReportRepair_acts (rrep : Rrep) {before : Option RtEntry} (state : State)
    (repaired : ∀ old, before = some old → old.flags.repair = true →
      ∃ dest rt, entryAt origin dest = some rt ∧ rt.flags.repair = true) :
    Acts config event origin state (rrepReportRepair config rrep before state) := by
  unfold rrepReportRepair
  split
  · rename_i old fwdRt _
    split
    · rename_i longer
      have created : Aside state (rerrCreate true fwdRt.destAddr fwdRt.destSeqno state) := by
        constructor <;> rfl
      dsimp only
      split
      · exact .single (.aside created rfl)
      · exact .tail (.single (.aside created rfl)) (.send _ _ _ _ _
          (.error _ rfl fun _ => .inr (repaired old rfl longer.1)) (listed_devIfindex config _))
    · exact .refl
  · exact .refl

theorem rrepPassOn_acts (heard : Replies config event origin) (len : Nat) (ipTtl : Int)
    (revRt : Option RtEntry) (found : entryAt state rrep.destAddr = some rt)
    (valid : rt.state = .valid) (seqno : rt.destSeqno = rrep.destSeqno) :
    Acts config event origin state (rrepPassOn config rrep len ipTtl revRt state) := by
  unfold rrepPassOn
  split
  · split
    · unfold rrepForward
      dsimp only
      rw [found]
      dsimp only
      have buffered : Aside state
          { state with sendBuf := .rrep { rrep with ack := false, hcnt := rt.hcnt } } := by
        constructor <;> rfl
      have sent : Acts config event origin state (sendAlong config rrep.origAddr len (ipTtl - 1)
          { state with sendBuf := .rrep { rrep with ack := false, hcnt := rt.hcnt } }) :=
        .trans (.single (.aside buffered rfl)) (sendAlong_acts fun revRt revFound =>
          .reply rrep.origAddr revRt rt _ revFound rfl rfl rfl found rfl seqno.symm (.inl valid)
            heard)
      exact .trans (.trans sent (updatePrecursors_acts ..).1)
        (Acts.of_timerActs (rtTableUpdateTimeout_acts ..))
    · exact .refl
  · exact .refl

theorem rrepContinue_acts (heard : Replies config event origin) (len : Nat) (ipTtl : Int)
    (ifindex : Nat) {before : Option RtEntry} (revRt : Option RtEntry)
    (found : entryAt state rrep.destAddr = some rt) (valid : rt.state = .valid)
    (seqno : rt.destSeqno = rrep.destSeqno)
    (repaired : ∀ old, before = some old → old.flags.repair = true →
      ∃ dest rt, entryAt origin dest = some rt ∧ rt.flags.repair = true) :
    Acts config event origin state
      (rrepContinue config rrep len ipTtl ifindex before revRt state) := by
  unfold rrepContinue
  dsimp only
  have aside := aside_rrepAcknowledge config rrep state
  refine .trans (.trans (rrepAcknowledge_acts config event origin rrep state) ?_)
    (helloOnDemand_acts _)
  split
  · exact rrepReportRepair_acts rrep _ repaired
  · exact rrepPassOn_acts heard len ipTtl revRt ((aside.entryAt _).trans found) valid seqno

/-- A RREP that passes the checks finds or makes an entry of its destination, and goes on from
there. -/
theorem rrepHandled_acts (introduced : Introduced config origin received state)
    (handles : HandlesRrep config event received rrep) :
    ∃ middle, Acts config event origin state middle ∧
      entryAt middle rrep.destAddr ≠ none ∧
      Acts config event origin middle
        (rrepProcess config rrep received.len received.src received.ttl received.ifindex state) := by
  have meets := introduced.meets rrep.destAddr
  unfold rrepProcess
  rw [if_neg (Nat.not_lt.mpr handles.long), if_neg handles.notOwn]
  dsimp only
  rw [rtTableFind_eq_entryAt introduced.regular.sound]
  cases found : entryAt state rrep.destAddr with
  | none =>
    have inserted := (entryAt_rtTableInsert config
      (rrepOffer rrep received.src received.ifindex .none) found rrep.destAddr).trans (if_pos rfl)
    have unmet := relRoute_none (found ▸ meets)
    exact ⟨_, .single (.route (.insert state _ found
        (.rrep received rrep handles introduced.ready unmet))),
      by simp [inserted], rrepContinue_acts (.rrep received rrep handles) _ _ _ _ inserted rfl rfl
        fun _ missing => absurd missing (by simp)⟩
  | some fwdRt =>
    obtain ⟨met, metFound, same⟩ := relRoute_some (found ▸ meets)
    dsimp only
    split
    · rename_i accepts
      obtain ⟨base, updated, _⟩ := entryAt_rtTableUpdate_self config
        (rrepOffer rrep received.src received.ifindex fwdRt.flags) introduced.regular.sound found
      have adopted : entryAt (rtTableUpdate config (rrepOffer rrep received.src received.ifindex
          fwdRt.flags) state) rrep.destAddr = _ := updated
      refine ⟨_, .single (.route (.update state _ fwdRt found
        (.rrep received rrep handles introduced.ready met metFound same accepts))),
        by simp [adopted], rrepContinue_acts (.rrep received rrep handles) _ _ _ _ adopted rfl rfl
          fun old some repair => ?_⟩
      obtain rfl := Option.some.inj some
      exact ⟨rrep.destAddr, repair_of_metEntry metFound (same.flags ▸ repair)⟩
    · exact ⟨state, .refl, by simp [found], .refl⟩

theorem rrepProcess_acts (introduced : Introduced config origin received state)
    (arrives : Arrives config (.message received) received) (isRrep : received.msg = .rrep rrep)
    (notHello : received.hello = none) :
    Acts config (.message received) origin origin
      (rrepProcess config rrep received.len received.src received.ttl received.ifindex state) := by
  by_cases handled : rrep.destAddr ≠ ipaddrOf config received.ifindex ∧ rrepSize ≤ received.len
  · obtain ⟨middle, early, _, late⟩ := rrepHandled_acts introduced
      ⟨arrives, isRrep, notHello, handled.1, handled.2⟩
    exact introduced.acts.trans (early.trans late)
  · unfold rrepProcess
    split
    · exact introduced.acts
    · rename_i long
      rw [if_pos (by by_contra notOwn; exact handled ⟨notOwn, Nat.le_of_not_lt long⟩)]
      exact introduced.acts

theorem rrepAckProcess_acts (state : State) :
    Acts config event origin state (rrepAckProcess source state) := by
  unfold rrepAckProcess
  split
  · exact .refl
  · exact .single (.timer (.remove state _ trivial))

/-! ### Processing a RERR -/

theorem sendBuf_rerrInvalidate (dest : Addr) (seqno : Seqno) (state : State) :
    (rerrInvalidate config noDelete dest seqno state).sendBuf = state.sendBuf := by
  show (if noDelete then state else rtTableInvalidate config dest state).sendBuf = _
  split
  · rfl
  · by_cases active : ∃ rt, entryAt state dest = some rt ∧ rt.state = .valid
    · obtain ⟨rt, found, valid⟩ := active
      obtain ⟨timers, result⟩ := rtTableInvalidate_of_valid config found valid
      rw [result]
    · rw [rtTableInvalidate_of_not_valid config fun rt found valid => active ⟨rt, found, valid⟩]

theorem RoutingTable.Sound.rerrInvalidate (sound : state.rtTbl.Sound) (config : Config)
    (noDelete : Bool) (dest : Addr) (seqno : Seqno) :
    (Aodvd.rerrInvalidate config noDelete dest seqno state).rtTbl.Sound := by
  cases noDelete
  · exact (sound.rtTableInvalidate config dest).setEntry (gentle_setSeqno seqno) dest
  · exact sound.setEntry (gentle_setSeqno seqno) dest

/-- A round of the loop over a RERR that hits a valid entry over the sender: it is invalidated,
perhaps listed in the outgoing RERR, and perhaps loses its precursors. -/
theorem rerrVisit_hit (config : Config) (noDelete : Bool) {ipSrc : Addr}
    {loop : State × RerrDraft} {udest : Addr × Seqno}
    (found : rtTableFind loop.1 udest.1 = some rt) (hit : rt.state = .valid ∧ rt.nextHop = ipSrc) :
    ∃ included,
      (included = (rerrInvalidate config noDelete rt.destAddr udest.2 loop.1, loop.2) ∨
        ∃ current, included = rerrInclude noDelete current loop.2
          (rerrInvalidate config noDelete rt.destAddr udest.2 loop.1)) ∧
      (rerrVisit config noDelete ipSrc loop udest = included ∨
        rerrVisit config noDelete ipSrc loop udest =
          (precursorListDestroy rt.destAddr included.1, included.2)) := by
  unfold rerrVisit
  rw [found]
  dsimp only
  rw [if_pos hit]
  split
  · exact ⟨_, .inl rfl, .inl rfl⟩
  · rename_i current currentFound
    rw [entryAt_destAddr currentFound]
    by_cases kept : current.nprec = 0 ∨ current.flags.repair = true
    · rw [if_pos kept]
      refine ⟨_, .inl rfl, ?_⟩
      split
      · exact .inr rfl
      · exact .inl rfl
    · rw [if_neg kept]
      refine ⟨_, .inr ⟨current, rfl⟩, ?_⟩
      split
      · exact .inr rfl
      · exact .inl rfl

theorem rerrVisit_miss (config : Config) (noDelete : Bool) {ipSrc : Addr} {loop : State × RerrDraft}
    {udest : Addr × Seqno}
    (miss : ∀ rt, rtTableFind loop.1 udest.1 = some rt →
      ¬ (rt.state = .valid ∧ rt.nextHop = ipSrc)) :
    rerrVisit config noDelete ipSrc loop udest = loop := by
  unfold rerrVisit
  split
  · rfl
  · exact if_neg (miss _ ‹_›)

theorem rerrVisit_acts {message : Rerr} (handles : HandlesRerr config event received message)
    {loop : State × RerrDraft} (regular : Regular config loop.1)
    (drafted : Drafted message.noDelete loop) {udest : Addr × Seqno}
    (listed : udest ∈ message.udest.take message.destCount) :
    Acts config event origin loop.1 (rerrVisit config message.noDelete received.src loop udest).1 ∧
      Drafted message.noDelete (rerrVisit config message.noDelete received.src loop udest) := by
  by_cases hits : ∃ rt, rtTableFind loop.1 udest.1 = some rt ∧ rt.state = .valid ∧
      rt.nextHop = received.src
  · obtain ⟨rt, found, hit⟩ := hits
    obtain ⟨included, writes, result⟩ := rerrVisit_hit config message.noDelete found hit
    rw [rtTableFind_eq_entryAt regular.sound] at found
    have dest := entryAt_destAddr found
    have act : Act config event origin loop.1
        (rerrInvalidate config message.noDelete rt.destAddr udest.2 loop.1) :=
      .route (.error loop.1 received message rt.destAddr udest.2 rt handles (dest.symm ▸ listed)
        (dest.symm ▸ found) hit.1 hit.2)
    have stillDrafted : Drafted message.noDelete
        (rerrInvalidate config message.noDelete rt.destAddr udest.2 loop.1, loop.2) := by
      intro created
      obtain ⟨rerr, buffer, flag⟩ := drafted created
      exact ⟨rerr, (sendBuf_rerrInvalidate ..).trans buffer, flag⟩
    have written : Acts config event origin loop.1 included.1 ∧
        Drafted message.noDelete included := by
      rcases writes with rfl | ⟨current, rfl⟩
      · exact ⟨.single act, stillDrafted⟩
      · exact ⟨.tail (.single act) (.aside (aside_rerrInclude ..) (out_rerrInclude ..)),
          drafted_rerrInclude stillDrafted current⟩
    rcases result with same | dropped
    · rw [same]
      exact written
    · rw [dropped]
      exact ⟨.tail written.1 (.route (.touch _ _ touch_precursorListDestroy)), written.2⟩
  · rw [rerrVisit_miss config message.noDelete fun rt found hit => hits ⟨rt, found, hit⟩]
    exact ⟨.refl, drafted⟩

theorem rerrProcess_acts {message : Rerr} (introduced : Introduced config origin received state)
    (arrives : Arrives config (.message received) received)
    (isRerr : received.msg = .rerr message) :
    Acts config (.message received) origin origin
      (rerrProcess config message received.len received.src state) := by
  unfold rerrProcess
  split
  · exact introduced.acts
  · rename_i long
    have handles : HandlesRerr config (.message received) received message :=
      ⟨arrives, isRerr, Nat.le_of_not_lt long⟩
    dsimp only
    have loop : Acts config (.message received) origin state
          ((message.udest.take message.destCount).foldl
            (rerrVisit config message.noDelete received.src) (state, .none)).1 ∧
        Drafted message.noDelete ((message.udest.take message.destCount).foldl
          (rerrVisit config message.noDelete received.src) (state, .none)) := by
      refine List.foldlRecOn _ _ (motive := fun loop : State × RerrDraft =>
        Acts config (.message received) origin state loop.1 ∧ Drafted message.noDelete loop)
        ⟨.refl, fun created => absurd created Bool.false_ne_true⟩ ?_
      rintro loop ⟨acts, drafted⟩ udest listed
      obtain ⟨visited, stillDrafted⟩ := rerrVisit_acts handles
        (acts.regular introduced.regular) drafted listed
      exact ⟨acts.trans visited, stillDrafted⟩
    refine .trans (introduced.acts.trans loop.1)
      (rerrSend_acts _ fun rerr created buffer dst len dev => ?_)
    obtain ⟨same, holds, flag⟩ := loop.2 created
    refine .error same holds fun kept => .inl ⟨received, message, handles, ?_⟩
    rw [← flag, kept]

/-! ### Control messages -/

theorem aodvSocketRead_acts (regular : Regular config origin) (received : Received) :
    Acts config (.message received) origin origin (aodvSocketRead config received origin) := by
  unfold aodvSocketRead
  split
  · exact .refl
  · rename_i foreign
    have arrives : Arrives config (.message received) received := ⟨rfl, foreign⟩
    unfold aodvSocketProcessPacket
    split
    · rename_i hello isHello
      exact helloProcess_acts regular ⟨arrives, isHello⟩
    · rename_i notHello
      have introduced := neighborAdd_introduced regular arrives notHello
      unfold processMsg
      split
      · exact rreqProcess_acts introduced arrives ‹_›
      · exact rrepProcess_acts introduced arrives ‹_› notHello
      · exact rerrProcess_acts introduced arrives ‹_›
      · exact introduced.acts.trans (rrepAckProcess_acts received.src _)
      · exact introduced.acts

/-! ### Route discovery -/

theorem keepForDiscovery_acts (rt : RtEntry) (state : State) :
    TimerActs state (keepForDiscovery rt state) := by
  unfold keepForDiscovery
  split
  · exact rtTableUpdateTimeout_acts ..
  · exact .refl

theorem rreqSend_acts (config : Config) {event : Event} (quiet : event.Local) (origin : State)
    (destAddr : Addr) (destSeqno : Seqno) (ttl : Nat) (flags : RreqFlags) (state : State) :
    Acts config event origin state (rreqSend config destAddr destSeqno ttl flags state) ∧
      Aside state (rreqSend config destAddr destSeqno ttl flags state) := by
  unfold rreqSend
  dsimp only
  refine List.foldlRecOn config.devs _ (motive := fun current : State =>
    Acts config event origin state current ∧ Aside state current) ⟨.refl, .refl _⟩ ?_
  rintro current ⟨acts, aside⟩ dev listed
  have created : Aside current (rreqCreate
      (if config.rreqGratuitous then { flags with gratuitous := true } else flags) destAddr destSeqno
      dev.ipaddr current) := by
    constructor <;> rfl
  exact ⟨.tail (.tail acts (.aside created rfl))
      (.send _ _ _ _ _ (.request dev _ rfl listed rfl rfl rfl rfl quiet rfl rfl)
        (listed_some listed)),
    (aside.trans created).trans (aside_aodvSocketSend ..)⟩

/-- The end of a new discovery: the request is out and the seek entry is made. -/
theorem startSeek_acts {prepared : State} (quiet : event.Local) (timed : TimerActs state prepared)
    (fresh : seekListFind state dest = none) (needed : unroutable (entryAt state dest) = true)
    (destSeqno : Seqno) (ttl : Nat) (flags : RreqFlags) (msec : Nat) :
    Acts config event origin state (setTimeout (.seekTimer dest) msec
        (seekListInsert dest destSeqno ttl flags
          (rreqSend config dest destSeqno ttl flags prepared))) ∧
      Sought (setTimeout (.seekTimer dest) msec
        (seekListInsert dest destSeqno ttl flags
          (rreqSend config dest destSeqno ttl flags prepared))) dest := by
  obtain ⟨sent, aside⟩ := rreqSend_acts config quiet origin dest destSeqno ttl flags prepared
  refine ⟨.tail (.trans (Acts.of_timerActs timed) sent) (.seek _ _ _ _ _ _ ?_ ?_ (timely_natCast _ _)
    quiet), _, List.mem_cons_self, rfl⟩
  · rw [seekListFind, aside.seekhead, timed.routesOnly.seekhead]
    exact fresh
  · rw [aside.entryAt, entryAt, timed.rtTbl]
    exact needed

theorem rreqRouteDiscovery_acts (quiet : event.Local) (flags : RreqFlags)
    (needed : unroutable (entryAt state dest) = true) :
    Acts config event origin state (rreqRouteDiscovery config dest flags state) ∧
      Sought (rreqRouteDiscovery config dest flags state) dest := by
  unfold rreqRouteDiscovery
  split
  · rename_i entry found
    exact ⟨.refl, entry, seekListFind_some found⟩
  · rename_i fresh
    dsimp only
    refine startSeek_acts quiet ?_ fresh needed _ _ _ _
    split
    · exact .refl
    · exact keepForDiscovery_acts ..

theorem rreqLocalRepair_acts (quiet : event.Local) (srcAddr : Addr)
    (needed : unroutable (entryAt state rt.destAddr) = true) (repair : rt.flags.repair = true) :
    Acts config event origin state (rreqLocalRepair config rt srcAddr state) ∧
      Sought (rreqLocalRepair config rt srcAddr state) rt.destAddr := by
  unfold rreqLocalRepair
  split
  · rename_i entry found
    exact ⟨.refl, entry, seekListFind_some found⟩
  · rename_i fresh
    rw [if_pos repair]
    obtain ⟨acts, sought⟩ := startSeek_acts quiet (keepForDiscovery_acts rt
      (setHandler (.rtTimer rt.destAddr) .routeExpireTimeout state)) fresh needed _ _ _ _
    exact ⟨.head (.undertake state rt.destAddr quiet) acts, sought⟩

/-! ### Timeouts -/

theorem routeExpireTimeout_acts (dest : Addr) (state : State) :
    Acts config .timers origin state (routeExpireTimeout config dest state) := by
  unfold routeExpireTimeout
  split
  · exact .refl
  · rename_i rt found
    split
    · exact .single (.route (.linkBreak state dest trivial))
    · rename_i far
      exact .tail (.single (.route (.expire state dest rt found far rfl)))
        (.route (.touch _ dest touch_precursorListDestroy))

/-- The first timer of the batch fires: an action detaches it, and actions follow. -/
def Fires (config : Config) (event : Event) (origin state : State) (rest : List TimerId)
    (final : State) : Prop :=
  ∃ first, Act config event origin state first ∧ first.timers.expTq.Sublist rest ∧
    Acts config event origin first final

theorem Fires.acts (fires : Fires config event origin state rest final) :
    Acts config event origin state final := by
  obtain ⟨first, act, _, later⟩ := fires
  exact .head act later

theorem Fires.trans {current : State} (fires : Fires config event origin state rest current)
    (later : Acts config event origin current final) :
    Fires config event origin state rest final := by
  obtain ⟨first, act, batch, acts⟩ := fires
  exact ⟨first, act, batch, acts.trans later⟩

theorem popTimer_fires (batch : state.timers.expTq = id :: rest) (calm : id.Calm state) :
    Fires config .timers origin state rest (popTimer id rest state) :=
  ⟨_, .pop state id rest batch calm rfl, .refl _, .refl⟩

theorem discoveryRetry_fires {entry : SeekEntry}
    (batch : state.timers.expTq = .seekTimer entry.destAddr :: rest)
    (found : seekListFind state entry.destAddr = some entry) :
    Fires config .timers origin state rest
      (discoveryRetry config entry (popTimer (.seekTimer entry.destAddr) rest state)) := by
  have retried : Fires config .timers origin state rest (setTimeout (.seekTimer entry.destAddr)
      (seekWait config (seekRetry config entry)) (setSeekEntry entry.destAddr (seekRetry config)
        (popTimer (.seekTimer entry.destAddr) rest state))) :=
    ⟨_, .retry state entry rest _ batch found rfl (timely_natCast _ _), expTq_timerSetTimeout .., .refl⟩
  unfold discoveryRetry
  dsimp only
  refine Fires.trans ?_ (rreqSend_acts config (show Event.timers.Local from trivial) origin _ _ _ _ _).1
  split
  · exact retried
  · exact retried.trans (Acts.of_timerActs (keepForDiscovery_acts ..))

theorem discoveryGiveUp_fires {entry : SeekEntry} (regular : Regular config state)
    (batch : state.timers.expTq = .seekTimer entry.destAddr :: rest)
    (found : seekListFind state entry.destAddr = some entry) :
    Fires config .timers origin state rest
      (discoveryGiveUp config entry (popTimer (.seekTimer entry.destAddr) rest state)) := by
  have gaveUp : Fires config .timers origin state rest (seekListRemove entry.destAddr
      (packetQueueDrop entry.destAddr (popTimer (.seekTimer entry.destAddr) rest state))) :=
    ⟨_, .giveUp state entry rest batch found rfl, expTq_timerRemove .., .refl⟩
  have dropped : Regular config (packetQueueDrop entry.destAddr
      (popTimer (.seekTimer entry.destAddr) rest state)) := regular.of_rtTbl rfl
  unfold discoveryGiveUp
  dsimp only
  rw [rtTableFind_eq_entryAt dropped.sound]
  split
  · exact gaveUp
  · rename_i rt rtFound
    split
    · rename_i repair
      have dest := entryAt_destAddr rtFound
      exact gaveUp.trans
        (.single (.route (.repair _ rt.destAddr rt (dest.symm ▸ rtFound) (.inl repair) rfl)))
    · exact gaveUp

theorem routeDiscoveryTimeout_fires (regular : Regular config state)
    (batch : state.timers.expTq = .seekTimer dest :: rest) :
    Fires config .timers origin state rest
      (routeDiscoveryTimeout config dest (popTimer (.seekTimer dest) rest state)) := by
  unfold routeDiscoveryTimeout
  split
  · rename_i through
    refine popTimer_fires batch ?_
    exact not_sought_of_find through
  · rename_i entry found
    obtain ⟨_, rfl⟩ := seekListFind_some found
    split
    · exact discoveryRetry_fires batch found
    · exact discoveryGiveUp_fires regular batch found

theorem localRepairTimeout_acts
    (handler : (state.timers.timer (.rtTimer dest)).handler = some .localRepairTimeout) :
    Acts config .timers origin state (localRepairTimeout config dest state) := by
  cases found : entryAt state dest with
  | none =>
    have unchanged : localRepairTimeout config dest state = state := by
      unfold localRepairTimeout
      rw [found]
    rw [unchanged]
  | some rt => exact .single (.route (.repair state dest rt found (.inr handler) rfl))

theorem timerUsed_popTimer (id : TimerId) (rest : List TimerId) (state : State) :
    timerUsed (popTimer id rest state) id = false := by
  show ((timerPop id rest state.timers).timer id).used = false
  rw [timer_timerPop, if_pos rfl]

/-- The timer of a discovery runs no other handler. -/
theorem Clocked.calm (clocked : Clocked state)
    (other : (state.timers.timer id).handler ≠ some .routeDiscoveryTimeout) : id.Calm state := by
  cases id with
  | seekTimer dest => exact fun wanted => other (clocked.armed dest wanted).2
  | _ => trivial

/-- What the handler of a timer does. On a timer that it is not made for it does nothing. -/
inductive RunsHandler (config : Config) (state : State) : TimerId → Handler → State → Prop
  | expire (dest : Addr) : RunsHandler config state (.rtTimer dest) .routeExpireTimeout
      (routeExpireTimeout config dest state)
  | delete (dest : Addr) : RunsHandler config state (.rtTimer dest) .routeDeleteTimeout
      (rtTableDelete dest state)
  | repair (dest : Addr) : RunsHandler config state (.rtTimer dest) .localRepairTimeout
      (localRepairTimeout config dest state)
  | blacklist (dest : Addr) : RunsHandler config state (.ackTimer dest) .rrepAckTimeout
      (rreqBlacklistInsert dest state)
  | hello (dest : Addr) : RunsHandler config state (.helloTimer dest) .helloTimeout
      (helloTimeout config dest state)
  | discovery (dest : Addr) : RunsHandler config state (.seekTimer dest) .routeDiscoveryTimeout
      (routeDiscoveryTimeout config dest state)
  | forget (origAddr : Addr) (rreqId : BitVec 32) : RunsHandler config state
      (.recTimer origAddr rreqId) .rreqRecordTimeout (rreqRecordTimeout origAddr rreqId state)
  | pardon (dest : Addr) : RunsHandler config state (.blTimer dest) .rreqBlacklistTimeout
      (rreqBlacklistTimeout dest state)
  | collect : RunsHandler config state .garbageCollectTimer .packetQueueTimeout
      (packetQueueTimeout state)
  | reboot : RunsHandler config state .worbTimer .waitOnRebootTimeout (waitOnRebootTimeout state)
  | greet : RunsHandler config state .helloSendTimer .helloSend (helloSend config state)
  | log : RunsHandler config state .rtLogTimer .printRtTable (printRtTable config state)
  | idle (id : TimerId) (handler : Handler)
      (unrouted : ∀ dest, id = .rtTimer dest → handler ≠ .routeExpireTimeout ∧
        handler ≠ .routeDeleteTimeout ∧ handler ≠ .localRepairTimeout)
      (unsought : ∀ dest, id = .seekTimer dest → handler ≠ .routeDiscoveryTimeout) :
      RunsHandler config state id handler state

theorem runHandler_runs (config : Config) (id : TimerId) (handler : Handler) (state : State) :
    RunsHandler config state id handler (runHandler config id handler state) := by
  cases handler with
  | routeExpireTimeout => cases id <;> first | exact .idle _ _ (by simp) (by simp) | exact .expire _
  | routeDeleteTimeout => cases id <;> first | exact .idle _ _ (by simp) (by simp) | exact .delete _
  | localRepairTimeout => cases id <;> first | exact .idle _ _ (by simp) (by simp) | exact .repair _
  | rrepAckTimeout => cases id <;> first | exact .blacklist _ | exact .idle _ _ (by simp) (by simp)
  | helloTimeout => cases id <;> first | exact .hello _ | exact .idle _ _ (by simp) (by simp)
  | routeDiscoveryTimeout =>
    cases id <;> first | exact .idle _ _ (by simp) (by simp) | exact .discovery _
  | rreqRecordTimeout => cases id <;> first | exact .forget _ _ | exact .idle _ _ (by simp) (by simp)
  | rreqBlacklistTimeout => cases id <;> first | exact .pardon _ | exact .idle _ _ (by simp) (by simp)
  | packetQueueTimeout => cases id <;> first | exact .collect | exact .idle _ _ (by simp) (by simp)
  | waitOnRebootTimeout => cases id <;> first | exact .reboot | exact .idle _ _ (by simp) (by simp)
  | helloSend => cases id <;> first | exact .greet | exact .idle _ _ (by simp) (by simp)
  | printRtTable => cases id <;> first | exact .log | exact .idle _ _ (by simp) (by simp)

theorem runTimer_eq (config : Config) (id : TimerId) (rest : List TimerId) (state : State) :
    runTimer config id rest state =
      match (state.timers.timer id).handler with
      | none => popTimer id rest state
      | some handler => runHandler config id handler (popTimer id rest state) := by
  have handler : ((popTimer id rest state).timers.timer id).handler =
      (state.timers.timer id).handler := by
    show ((timerPop id rest state.timers).timer id).handler = _
    rw [timer_timerPop, if_pos rfl]
  rw [← handler]
  rfl

/-- An expired timer is detached, and its handler runs if it has one. -/
theorem runTimer_cases {motive : State → Prop}
    (idle : (state.timers.timer id).handler = none → motive (popTimer id rest state))
    (runs : ∀ handler final, (state.timers.timer id).handler = some handler →
      RunsHandler config (popTimer id rest state) id handler final → motive final) :
    motive (runTimer config id rest state) := by
  rw [runTimer_eq]
  split
  · exact idle ‹_›
  · exact runs _ _ ‹_› (runHandler_runs ..)

/-- The handler of the first timer of the batch. -/
theorem RunsHandler.fires {handler : Handler}
    (runs : RunsHandler config (popTimer id rest state) id handler final)
    (regular : Regular config state) (clocked : Clocked state)
    (batch : state.timers.expTq = id :: rest)
    (installed : (state.timers.timer id).handler = some handler) :
    Fires config .timers origin state rest final := by
  have popped : handler ≠ .routeDiscoveryTimeout →
      Fires config .timers origin state rest (popTimer id rest state) := fun other =>
    popTimer_fires batch (clocked.calm fun same => other (Option.some.inj (installed.symm.trans same)))
  have poppedInstalled : ((popTimer id rest state).timers.timer id).handler = some handler := by
    show ((timerPop id rest state.timers).timer id).handler = some handler
    rw [timer_timerPop, if_pos rfl]
    exact installed
  cases runs with
  | expire dest => exact (popped (by simp)).trans (routeExpireTimeout_acts dest _)
  | delete dest =>
    exact (popped (by simp)).trans (.single (.route (.delete _ dest poppedInstalled rfl)))
  | repair dest => exact (popped (by simp)).trans (localRepairTimeout_acts poppedInstalled)
  | blacklist dest => exact (popped (by simp)).trans (.single (.blacklist _ dest))
  | hello dest =>
    exact ⟨_, .route (.helloBreak state dest rest batch rfl),
      ((tableRule_clockStep config _).helloTimeout (.refl _) dest).batch, .refl⟩
  | discovery dest => exact routeDiscoveryTimeout_fires regular batch
  | forget origAddr rreqId =>
    exact (popped (by simp)).trans (.single (.forget _ origAddr rreqId (timerUsed_popTimer ..)))
  | pardon dest =>
    exact (popped (by simp)).trans (.single (.pardon _ dest (timerUsed_popTimer ..)))
  | collect =>
    exact (popped (by simp)).trans
      (.tail (.single (.collect _)) (.timer (.arm _ _ _ trivial trivial (timely_natCast _ _))))
  | reboot => exact (popped (by simp)).trans (.single (.aside (by constructor <;> rfl) rfl))
  | greet => exact (popped (by simp)).trans (helloSend_acts _)
  | log => exact (popped (by simp)).trans (.single (.log _))
  | idle _ _ _ unsought =>
    refine popTimer_fires batch ?_
    cases id with
    | seekTimer dest =>
      intro wanted
      exact unsought dest rfl (Option.some.inj (installed.symm.trans (clocked.armed dest wanted).2))
    | _ => trivial

theorem runTimer_fires (regular : Regular config state) (clocked : Clocked state)
    (batch : state.timers.expTq = id :: rest) :
    Fires config .timers origin state rest (runTimer config id rest state) :=
  runTimer_cases (fun none => popTimer_fires batch (clocked.calm (by rw [none]; simp)))
    fun _ _ installed runs => runs.fires regular clocked batch installed

/-- What every expired timer keeps, the executing loop keeps. -/
theorem runBatch_induction {motive : State → Prop}
    (kept : ∀ {state id rest}, state.timers.expTq = id :: rest → motive state →
      motive (runTimer config id rest state))
    (fuel : Nat) (holds : motive state) : motive (runBatch config fuel state) := by
  induction fuel generalizing state with
  | zero => exact holds
  | succ fuel inductionHypothesis =>
    unfold runBatch
    split
    · exact holds
    · exact inductionHypothesis (kept ‹_› holds)

/-- The same in regular states with their timers in order. -/
theorem runBatch_invariant {motive : State → Prop}
    (kept : ∀ {state id rest}, Regular config state → Clocked state →
      state.timers.expTq = id :: rest → motive state → motive (runTimer config id rest state))
    (fuel : Nat) (regular : Regular config state) (clocked : Clocked state) (holds : motive state) :
    motive (runBatch config fuel state) := by
  have all : Regular config (runBatch config fuel state) ∧ Clocked (runBatch config fuel state) ∧
      motive (runBatch config fuel state) := by
    refine runBatch_induction (motive := fun state =>
      Regular config state ∧ Clocked state ∧ motive state) ?_ fuel ⟨regular, clocked, holds⟩
    rintro state id rest batch ⟨regular, clocked, holds⟩
    have acts : Acts config .timers state state (runTimer config id rest state) :=
      (runTimer_fires regular clocked batch).acts
    exact ⟨acts.regular regular, acts.clockStep.clocked clocked, kept regular clocked batch holds⟩
  exact all.2.2

/-- The executing loop is a chain of actions and ends with an empty batch. -/
theorem runBatch_acts {fuel : Nat} (regular : Regular config state) (clocked : Clocked state)
    (enough : state.timers.expTq.length ≤ fuel) :
    Acts config .timers origin state (runBatch config fuel state) ∧
      (runBatch config fuel state).timers.expTq = [] := by
  induction fuel generalizing state with
  | zero => exact ⟨.refl, List.eq_nil_of_length_eq_zero (Nat.le_zero.mp enough)⟩
  | succ fuel inductionHypothesis =>
    unfold runBatch
    split
    · exact ⟨.refl, ‹_›⟩
    · rename_i id rest batch
      have fires : Fires config .timers origin state rest (runTimer config id rest state) :=
        runTimer_fires regular clocked batch
      have shorter : (runTimer config id rest state).timers.expTq.length ≤ fuel := by
        obtain ⟨first, _, sublist, later⟩ := fires
        rw [batch, List.length_cons] at enough
        exact Nat.le_trans (later.clockStep.batch.trans sublist).length_le
          (Nat.le_of_succ_le_succ enough)
      obtain ⟨acts, done⟩ := inductionHypothesis (fires.acts.regular regular)
        (fires.acts.clockStep.clocked clocked) shorter
      exact ⟨fires.acts.trans acts, done⟩

/-! ### Queued packets -/

/-- A RERR is made and sent, and timers are set. -/
theorem sendRerrForUnknownDest_eq (config : Config) (destAddr : Addr) (fwdRt revRt : Option RtEntry)
    (ifindex : Nat) (state : State) : ∃ created dst,
      TimerActs (rerrCreate false ((fwdRt.map RtEntry.destAddr).getD destAddr)
        ((fwdRt.map RtEntry.destSeqno).getD 0#32) state) created ∧
      TimerActs (aodvSocketSend config dst (rerrCalcSize 1) 1 (devIfindex config ifindex) created)
        (sendRerrForUnknownDest config destAddr fwdRt revRt ifindex state) := by
  have waits (sent : State) : TimerActs sent
      (if sent.waitOnReboot then setTimeout .worbTimer deletePeriod sent else sent) := by
    split
    · exact .single (.arm _ _ _ trivial trivial (timely_natCast _ _))
    · exact .refl
  cases fwdRt with
  | none => exact ⟨_, _, .refl, waits _⟩
  | some rt => exact ⟨_, _, rtTableUpdateTimeout_acts .., waits _⟩

theorem sendRerrForUnknownDest_acts (fwdRt revRt : Option RtEntry) (ifindex : Nat) (state : State) :
    Acts config event origin state
      (sendRerrForUnknownDest config destAddr fwdRt revRt ifindex state) := by
  obtain ⟨created, dst, timed, waits⟩ :=
    sendRerrForUnknownDest_eq config destAddr fwdRt revRt ifindex state
  have drafted : Acts config event origin state
      (rerrCreate false ((fwdRt.map RtEntry.destAddr).getD destAddr)
        ((fwdRt.map RtEntry.destSeqno).getD 0#32) state) :=
    .single (.aside (by constructor <;> rfl) rfl)
  have acts := drafted.trans (Acts.of_timerActs timed)
  obtain ⟨timers, rfl⟩ := timed.same
  refine .trans (.tail acts (.send _ _ _ _ _ ?_ (listed_devIfindex config _)))
    (Acts.of_timerActs waits)
  exact .error _ rfl fun kept => absurd kept Bool.false_ne_true

/-- The state in which `nfqueue_packet_cb` looks at a packet. -/
def deliver (packet : NfPacket) (state : State) : State :=
  { state with history := state.history ++ [.delivered packet.packetId] }

/-- What handling a packet leaves, and a verdict keeps, the callback leaves. -/
theorem nfqueuePacketCb_of_handled {motive : State → Prop} {packet : NfPacket}
    (handled : motive (packetInputHandlePacket config packet (deliver packet state)).1)
    (judged : ∀ packetId verdict state, motive state →
      motive (nfqueueSetPacketVerdict packetId verdict .immediate state)) :
    motive (nfqueuePacketCb config packet state) := by
  unfold nfqueuePacketCb
  dsimp only
  split
  · exact judged _ _ _ handled
  · exact handled

/-- Handling a packet leaves it as it was delivered, or routes it. -/
theorem packetInputHandlePacket_cases {motive : State → Prop} {packet : NfPacket}
    (delivered : motive (deliver packet state))
    (routed : ∀ ip, motive (packetInputRoute config packet ip (deliver packet state)).1) :
    motive (packetInputHandlePacket config packet (deliver packet state)).1 := by
  unfold packetInputHandlePacket
  split
  · exact delivered
  · dsimp only
    generalize (if packet.hook = .forward then packet.indev else packet.outdev) = ifindex
    split
    · exact delivered
    · split
      · exact delivered
      · exact routed _

/-- The state after `timer_timeout` has collected its batch. -/
def gather (state : State) : State :=
  { state with timers := timerCollect state.now state.timers }

/-- How an event is handled: by a chain of actions, which a batch of timers, a verdict or a
packet that is buffered frames. -/
inductive Handled (config : Config) (origin : State) : Event → State → Prop
  | timers {final : State} (acts : Acts config .timers origin (gather origin) final)
      (done : final.timers.expTq = []) : Handled config origin .timers final
  | message (received : Received) {final : State}
      (acts : Acts config (.message received) origin origin final) :
      Handled config origin (.message received) final
  | txDrop (ip : Addr) {final : State} (acts : Acts config (.txDrop ip) origin origin final) :
      Handled config origin (.txDrop ip) final
  | verdict (packet : NfPacket) (verdict : NfVerdict) {current : State}
      (acts : Acts config (.packet packet) origin (deliver packet origin) current) :
      Handled config origin (.packet packet)
        (nfqueueSetPacketVerdict packet.packetId verdict .immediate current)
  | buffer (packet : NfPacket) (dest : Addr) {current final : State}
      (acts : Acts config (.packet packet) origin (deliver packet origin) current)
      (later : Acts config (.packet packet) origin (packetQueueAdd packet.packetId dest current) final)
      (sought : Sought final dest) : Handled config origin (.packet packet) final

/-- Queueing a packet changes the queue and its log alone. -/
theorem packetQueueAdd_eq (packetId : BitVec 32) (dest : Addr) (state : State) :
    ∃ pq history, packetQueueAdd packetId dest state =
      { state with pq := pq, history := history } := by
  unfold packetQueueAdd evictOldest
  dsimp only
  split
  · exact ⟨_, _, rfl⟩
  · split <;> exact ⟨_, _, rfl⟩

theorem rtTbl_packetQueueAdd (packetId : BitVec 32) (dest : Addr) (state : State) :
    (packetQueueAdd packetId dest state).rtTbl = state.rtTbl := by
  obtain ⟨_, _, added⟩ := packetQueueAdd_eq packetId dest state
  rw [added]

theorem seekRoute_acts (quiet : event.Local) (ip : IpPacket) {fwdRt : Option RtEntry}
    (found : entryAt state ip.daddr = fwdRt) (needed : unroutable fwdRt = true) :
    Acts config event origin state (seekRoute config ip fwdRt state) ∧
      Sought (seekRoute config ip fwdRt state) ip.daddr := by
  have discovery : ∀ flags,
      Acts config event origin state (rreqRouteDiscovery config ip.daddr flags state) ∧
        Sought (rreqRouteDiscovery config ip.daddr flags state) ip.daddr :=
    fun flags => rreqRouteDiscovery_acts quiet flags (found.symm ▸ needed)
  unfold seekRoute
  split
  · rename_i rt
    have dest := entryAt_destAddr found
    split
    · rename_i repair
      have repaired : Acts config event origin state (rreqLocalRepair config rt ip.saddr state) ∧
          Sought (rreqLocalRepair config rt ip.saddr state) rt.destAddr :=
        rreqLocalRepair_acts quiet ip.saddr (by rw [dest, found]; exact needed) repair
      rwa [dest] at repaired
    · exact discovery _
  · exact discovery _

/-- What the callback makes of the decision of `packet_input_handle_packet` is handled. -/
def InputHandled (config : Config) (origin : State) (packet : NfPacket)
    (handled : State × InputAction) : Prop :=
  Handled config origin (.packet packet) (match handled.2 with
    | .verdict verdict => nfqueueSetPacketVerdict packet.packetId verdict .immediate handled.1
    | .queued => handled.1)

theorem packetInputRoute_handled (regular : Regular config origin) (packet : NfPacket)
    (ip : IpPacket) :
    InputHandled config origin packet
      (packetInputRoute config packet ip (deliver packet origin)) := by
  have sound : (deliver packet origin).rtTbl.Sound := regular.sound
  unfold packetInputRoute
  rw [rtTableFind_eq_entryAt sound, rtTableFind_eq_entryAt sound]
  have timed := rtTableUpdateRouteTimeouts_acts config (entryAt (deliver packet origin) ip.daddr)
    (entryAt (deliver packet origin) ip.saddr) (deliver packet origin)
  have acts : Acts config (.packet packet) origin (deliver packet origin) _ :=
    Acts.of_timerActs timed
  dsimp only
  split
  · rename_i needed
    split
    · exact .verdict packet .drop (acts.trans (sendRerrForUnknownDest_acts ..))
    · have found : entryAt (packetQueueAdd packet.packetId ip.daddr (rtTableUpdateRouteTimeouts config
          (entryAt (deliver packet origin) ip.daddr) (entryAt (deliver packet origin) ip.saddr)
          (deliver packet origin))) ip.daddr = entryAt (deliver packet origin) ip.daddr := by
        rw [entryAt, rtTbl_packetQueueAdd, timed.rtTbl]
        rfl
      obtain ⟨later, sought⟩ := seekRoute_acts (show (Event.packet packet).Local from trivial) ip
        found needed
      exact .buffer packet ip.daddr acts later sought
  · exact .verdict packet .accept acts

theorem nfqueuePacketCb_handled (regular : Regular config origin) (packet : NfPacket) :
    Handled config origin (.packet packet) (nfqueuePacketCb config packet origin) := by
  have accepted : InputHandled config origin packet (deliver packet origin, .verdict .accept) :=
    .verdict packet .accept .refl
  show InputHandled config origin packet
    (packetInputHandlePacket config packet (deliver packet origin))
  unfold packetInputHandlePacket
  split
  · exact accepted
  · dsimp only
    generalize (if packet.hook = .forward then packet.indev else packet.outdev) = ifindex
    split
    · exact accepted
    · split
      · exact accepted
      · exact packetInputRoute_handled regular packet _

/-- The daemon between two events: its tables and timers are in order and no batch is being
executed. -/
structure AtRest (config : Config) (state : State) : Prop extends Regular config state where
  clocked : Clocked state
  idle : state.timers.expTq = []

theorem AtRest.gather (atRest : AtRest config state) : Clocked (Aodvd.gather state) where
  linked := atRest.clocked.linked.timerCollect atRest.idle _
  owned id used := TimerId.Owned.setTimers (atRest.clocked.owned id used) _
  armed := atRest.clocked.armed
  distinct := atRest.clocked.distinct

/-- Every event is handled by actions. -/
theorem handleEvent_handled (atRest : AtRest config origin) (event : Event) :
    Handled config origin event (handleEvent config event origin) := by
  have regular := atRest.toRegular
  unfold handleEvent
  cases event with
  | timers =>
    have gathered : Regular config (gather origin) := regular.of_rtTbl rfl
    obtain ⟨acts, done⟩ := runBatch_acts gathered atRest.gather (Nat.le_refl _)
    exact .timers acts done
  | message received => exact .message received (aodvSocketRead_acts regular received)
  | packet packet => exact nfqueuePacketCb_handled regular packet
  | txDrop ip =>
    dsimp only
    split
    · exact .txDrop ip .refl
    · exact .txDrop ip (.single (.route (.linkBreak origin _ trivial)))

end Aodvd
