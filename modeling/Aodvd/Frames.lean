/-
This file says what the auxiliary operations of the daemon leave alone.

Two relations carry it. `Aside` holds between two states that agree on both routing
tables, the seek list, the packet queue, the records and the timers: assembling and
sending messages happens aside. `TimerAct` is one operation on a timer that its owner
still holds; the functions that only touch deadlines are chains of such operations, and
everything but the timers survives a chain.
-/

import Mathlib
import Aodvd.Routes

namespace Aodvd

variable {before after : State} {draft : RerrDraft} (config : Config) (dst : Addr) (len : Nat)
  (ttl : Int) (dev : Option Dev) (rt : RtEntry) (state : State)

/-! ### Operations aside -/

/-- The states agree on everything but counters, rate limits, the send buffer and the
datagrams sent. -/
structure Aside (before after : State) : Prop where
  now : after.now = before.now
  jitter : after.jitter = before.jitter
  rtTbl : after.rtTbl = before.rtTbl
  kernel : after.kernel = before.kernel
  seekhead : after.seekhead = before.seekhead
  pq : after.pq = before.pq
  rreqRecords : after.rreqRecords = before.rreqRecords
  rreqBlacklist : after.rreqBlacklist = before.rreqBlacklist
  timers : after.timers = before.timers
  history : after.history = before.history

theorem Aside.refl : Aside state state :=
  ⟨rfl, rfl, rfl, rfl, rfl, rfl, rfl, rfl, rfl, rfl⟩

theorem Aside.trans {first second third : State} (early : Aside first second)
    (late : Aside second third) : Aside first third :=
  ⟨late.now.trans early.now, late.jitter.trans early.jitter, late.rtTbl.trans early.rtTbl,
    late.kernel.trans early.kernel, late.seekhead.trans early.seekhead, late.pq.trans early.pq,
    late.rreqRecords.trans early.rreqRecords, late.rreqBlacklist.trans early.rreqBlacklist,
    late.timers.trans early.timers, late.history.trans early.history⟩

theorem Aside.entryAt (aside : Aside before after) (dest : Addr) :
    Aodvd.entryAt after dest = Aodvd.entryAt before dest := by
  unfold Aodvd.entryAt
  rw [aside.rtTbl]

/-- The rate limiter writes its own times only. -/
theorem ratelimitSend_eq {config : Config} {state passed : State}
    (pass : ratelimitSend config state = some passed) : ∃ rreqRatel rerrRatel,
      passed = { state with rreqRatel := rreqRatel, rerrRatel := rerrRatel } := by
  unfold ratelimitSend at pass
  split at pass
  · split at pass
    · obtain ⟨times, _, rfl⟩ := Option.map_eq_some_iff.mp pass
      exact ⟨_, _, rfl⟩
    · obtain ⟨times, _, rfl⟩ := Option.map_eq_some_iff.mp pass
      exact ⟨_, _, rfl⟩
    · exact ⟨_, _, (Option.some.inj pass).symm⟩
  · exact ⟨_, _, (Option.some.inj pass).symm⟩

/-- A send writes its own times at most, and nothing or one datagram with the contents of the
buffer leaves. -/
theorem aodvSocketSend_eq :
    ∃ bcastTime rreqRatel rerrRatel out,
      aodvSocketSend config dst len ttl dev state =
        { state with
          bcastTime := bcastTime, rreqRatel := rreqRatel, rerrRatel := rerrRatel, out := out } ∧
      (out = state.out ∨ ∃ sender, dev = some sender ∧
        out = state.out ++ [⟨sender.ipaddr, dst, (ttl % 256).toNat, len, state.sendBuf⟩]) := by
  unfold aodvSocketSend
  split
  · exact ⟨_, _, _, _, rfl, .inl rfl⟩
  · rename_i sender
    split
    · exact ⟨_, _, _, _, rfl, .inl rfl⟩
    · split
      · exact ⟨_, _, _, _, rfl, .inl rfl⟩
      · rename_i pass
        obtain ⟨_, _, rfl⟩ := ratelimitSend_eq pass
        exact ⟨_, _, _, _, rfl, .inr ⟨sender, rfl, rfl⟩⟩

/-- What a send does to the datagrams sent. -/
theorem out_aodvSocketSend :
    (aodvSocketSend config dst len ttl dev state).out = state.out ∨
      ∃ sender, dev = some sender ∧ (aodvSocketSend config dst len ttl dev state).out =
        state.out ++ [⟨sender.ipaddr, dst, (ttl % 256).toNat, len, state.sendBuf⟩] := by
  obtain ⟨_, _, _, out, same, sent⟩ := aodvSocketSend_eq config dst len ttl dev state
  rw [same]
  exact sent

theorem aside_aodvSocketSend : Aside state (aodvSocketSend config dst len ttl dev state) := by
  obtain ⟨_, _, _, _, same, _⟩ := aodvSocketSend_eq config dst len ttl dev state
  rw [same]
  constructor <;> rfl

theorem sendBuf_aodvSocketSend :
    (aodvSocketSend config dst len ttl dev state).sendBuf = state.sendBuf := by
  obtain ⟨_, _, _, _, same, _⟩ := aodvSocketSend_eq config dst len ttl dev state
  rw [same]

theorem aside_sendOnAll : Aside state (sendOnAll config len ttl state) := by
  unfold sendOnAll
  refine List.foldlRecOn config.devs _ (Aside.refl state) ?_
  intro current aside dev _
  exact aside.trans (aside_aodvSocketSend config _ len ttl (some dev) current)

theorem aside_rerrInclude (noDelete : Bool) (rt : RtEntry) (draft : RerrDraft) (state : State) :
    Aside state (rerrInclude noDelete rt draft state).1 := by
  unfold rerrInclude rerrAddUdest
  split
  · split <;> constructor <;> rfl
  · constructor <;> rfl

theorem aside_rerrSend (draft : RerrDraft) (state : State) :
    Aside state (rerrSend config draft state) := by
  unfold rerrSend
  split
  · dsimp only
    split
    · split
      · exact aside_aodvSocketSend ..
      · split
        · exact aside_sendOnAll ..
        · exact .refl _
    · split
      · exact aside_sendOnAll ..
      · exact .refl _
  · exact .refl _

/-! ### Reports of lost routes -/

theorem listed_devIfindex (ifindex : Nat) (sender : Dev)
    (sends : devIfindex config ifindex = some sender) : sender ∈ config.devs :=
  List.mem_of_find?_eq_some sends

/-- A draft that has been created is the RERR in the send buffer, with the flag it was created
with. -/
def Drafted (noDelete : Bool) (loop : State × RerrDraft) : Prop :=
  loop.2.created = true → ∃ rerr, loop.1.sendBuf = .rerr rerr ∧ rerr.noDelete = noDelete

theorem Drafted.of_sendBuf {noDelete : Bool} {first second : State}
    (drafted : Drafted noDelete (first, draft)) (buffer : second.sendBuf = first.sendBuf) :
    Drafted noDelete (second, draft) := by
  intro created
  obtain ⟨rerr, holds, flag⟩ := drafted created
  exact ⟨rerr, buffer.trans holds, flag⟩

theorem drafted_rerrInclude {noDelete : Bool} {state : State}
    (drafted : Drafted noDelete (state, draft)) (rt : RtEntry) :
    Drafted noDelete (rerrInclude noDelete rt draft state) := by
  unfold rerrInclude
  split
  · rename_i created
    obtain ⟨rerr, buffer, flag⟩ := drafted created
    have holds : state.sendBuf = .rerr rerr := buffer
    intro _
    unfold rerrAddUdest
    rw [holds]
    exact ⟨_, rfl, flag⟩
  · exact fun _ => ⟨_, rfl, rfl⟩

/-- One step of a report of lost routes: a RERR that deletes is drafted, or sent on an interface of
the node. -/
inductive ReportAct (config : Config) : State → State → Prop
  | draft (state : State) (rerr : Rerr) (deletes : rerr.noDelete = false) :
      ReportAct config state { state with sendBuf := .rerr rerr }
  | send (state : State) (dst : Addr) (len : Nat) (ttl : Int) (dev : Option Dev)
      (listed : ∀ sender, dev = some sender → sender ∈ config.devs)
      (buffer : ∃ rerr, state.sendBuf = .rerr rerr ∧ rerr.noDelete = false) :
      ReportAct config state (aodvSocketSend config dst len ttl dev state)

abbrev ReportActs (config : Config) : State → State → Prop :=
  Relation.ReflTransGen (ReportAct config)

theorem ReportAct.aside {config : Config} (act : ReportAct config before after) :
    Aside before after := by
  cases act with
  | draft rerr => constructor <;> rfl
  | send dst len ttl dev => exact aside_aodvSocketSend ..

theorem ReportActs.aside {config : Config} (acts : ReportActs config before after) :
    Aside before after := by
  induction acts with
  | refl => exact .refl _
  | tail _ last inductionHypothesis => exact inductionHypothesis.trans last.aside

theorem sendOnAll_reports {config : Config} {len : Nat} {ttl : Int} {state : State}
    (buffer : ∃ rerr, state.sendBuf = .rerr rerr ∧ rerr.noDelete = false) :
    ReportActs config state (sendOnAll config len ttl state) := by
  have loop : ReportActs config state (sendOnAll config len ttl state) ∧
      (sendOnAll config len ttl state).sendBuf = state.sendBuf := by
    unfold sendOnAll
    refine List.foldlRecOn config.devs _ (motive := fun current : State =>
      ReportActs config state current ∧ current.sendBuf = state.sendBuf) ⟨.refl, rfl⟩ ?_
    rintro current ⟨acts, same⟩ dev listed
    refine ⟨.tail acts (.send current _ len ttl (some dev) (fun _ sends => ?_) (same ▸ buffer)), ?_⟩
    · exact Option.some.inj sends ▸ listed
    · rw [sendBuf_aodvSocketSend, same]
  exact loop.1

theorem rerrInclude_reports {state : State} (drafted : Drafted false (state, draft))
    (rt : RtEntry) : ReportActs config state (rerrInclude false rt draft state).1 := by
  unfold rerrInclude
  split
  · rename_i created
    obtain ⟨rerr, buffer, deletes⟩ := drafted created
    have holds : state.sendBuf = .rerr rerr := buffer
    unfold rerrAddUdest
    rw [holds]
    exact .single (.draft state _ deletes)
  · exact .single (.draft state _ rfl)

theorem rerrSend_reports {state : State} (drafted : Drafted false (state, draft)) :
    ReportActs config state (rerrSend config draft state) := by
  unfold rerrSend
  split
  · rename_i rerr created _
    have buffer : ∃ rerr, state.sendBuf = .rerr rerr ∧ rerr.noDelete = false := drafted created
    dsimp only
    split
    · split
      · exact .single (.send _ _ _ _ _ (listed_devIfindex config _) buffer)
      · split
        · exact sendOnAll_reports buffer
        · exact .refl
    · split
      · exact sendOnAll_reports buffer
      · exact .refl
  · exact .refl

/-! ### Operations on timers -/

/-- What a timer belongs to is still there. -/
def TimerId.Owned (state : State) : TimerId → Prop
  | .rtTimer dest | .ackTimer dest | .helloTimer dest => (entryAt state dest).isSome = true
  | .seekTimer dest => ∃ entry ∈ state.seekhead, entry.destAddr = dest
  | .recTimer origAddr rreqId => (origAddr, rreqId) ∈ state.rreqRecords
  | .blTimer dest => dest ∈ state.rreqBlacklist
  | .garbageCollectTimer | .worbTimer | .helloSendTimer | .rtLogTimer => True

/-- The timer is not one of the seek list. -/
def TimerId.Steady : TimerId → Prop
  | .seekTimer _ => False
  | _ => True

/-- The timer may be removed by itself: it is one of a neighbour, or that of the HELLOs of the
daemon. -/
def TimerId.Loose : TimerId → Prop
  | .ackTimer _ | .helloTimer _ | .helloSendTimer => True
  | _ => False

/-- The timer is that of a route or of an acknowledgement, or a global of the daemon. -/
def TimerId.Plain : TimerId → Prop
  | .seekTimer _ | .recTimer _ _ | .blTimer _ | .helloTimer _ => False
  | _ => True

/-- The timer is a global of the daemon. -/
def TimerId.Static : TimerId → Prop
  | .garbageCollectTimer | .worbTimer | .helloSendTimer | .rtLogTimer => True
  | _ => False

/-- A timer is armed for a time that is not negative, as long as the jitter of the HELLOs does not
exceed their interval. -/
def Timely (state : State) (msec : Int) : Prop := -(helloInterval : Int) ≤ state.jitter → 0 ≤ msec

theorem timely_natCast (msec : Nat) : Timely state msec :=
  fun _ => Int.natCast_nonneg msec

/-- One operation on a timer of an entry or of the daemon: it is armed while its owner is there
or removed; a global timer may be initialised while it is not in use. HELLO timers are armed
elsewhere, and the timer of a route is removed only with the route. -/
inductive TimerAct : State → State → Prop
  | arm (state : State) (id : TimerId) (msec : Int) (plain : id.Plain) (owned : id.Owned state)
      (timely : Timely state msec) : TimerAct state (setTimeout id msec state)
  | remove (state : State) (id : TimerId) (loose : id.Loose) : TimerAct state (removeTimer id state)
  | restart (state : State) (id : TimerId) (handler : Handler) (static : id.Static)
      (unused : timerUsed state id = false) : TimerAct state (initTimer id handler state)

/-- A chain of operations on timers. -/
abbrev TimerActs : State → State → Prop := Relation.ReflTransGen TimerAct

theorem TimerAct.same (act : TimerAct before after) :
    ∃ timers, after = { before with timers := timers } := by
  cases act <;> exact ⟨_, rfl⟩

/-- Everything but the timers survives a chain. -/
theorem TimerActs.same (acts : TimerActs before after) :
    ∃ timers, after = { before with timers := timers } := by
  induction acts with
  | refl => exact ⟨before.timers, rfl⟩
  | tail _ last inductionHypothesis =>
    obtain ⟨early, rfl⟩ := inductionHypothesis
    obtain ⟨late, rfl⟩ := last.same
    exact ⟨late, rfl⟩

theorem TimerActs.rtTbl (acts : TimerActs before after) : after.rtTbl = before.rtTbl := by
  obtain ⟨_, rfl⟩ := acts.same
  rfl

theorem TimerActs.kernel (acts : TimerActs before after) : after.kernel = before.kernel := by
  obtain ⟨_, rfl⟩ := acts.same
  rfl

theorem rtTableUpdateTimeout_acts (dest : Addr) (lifetime : Nat) (state : State) :
    TimerActs state (rtTableUpdateTimeout dest lifetime state) := by
  unfold rtTableUpdateTimeout
  split
  · exact .refl
  · rename_i rt found
    have owned : (TimerId.rtTimer dest).Owned state := by
      show (entryAt state dest).isSome = true
      rw [found, Option.isSome_some]
    have armed : TimerActs state (setTimeout (.rtTimer dest) lifetime state) :=
      .single (.arm state _ _ trivial owned (timely_natCast _ _))
    split
    · split
      · exact armed
      · exact .refl
    · exact armed

theorem updateDirectionTimeouts_acts (inet : Bool) (found : Option RtEntry) (state : State) :
    TimerActs state (updateDirectionTimeouts config inet found state) := by
  unfold updateDirectionTimeouts
  split
  · exact .refl
  · rename_i rt
    split
    · dsimp only
      have first : ∀ used : Bool, TimerActs state
          (if used then rtTableUpdateTimeout rt.destAddr (activeRouteTimeout config) state
            else state) := by
        intro used
        split
        · exact rtTableUpdateTimeout_acts ..
        · exact .refl
      split
      · exact first _
      · split
        · exact (first _).trans (rtTableUpdateTimeout_acts ..)
        · exact first _
    · exact .refl

theorem rtTableUpdateRouteTimeouts_acts (fwdRt revRt : Option RtEntry) (state : State) :
    TimerActs state (rtTableUpdateRouteTimeouts config fwdRt revRt state) :=
  (updateDirectionTimeouts_acts config true fwdRt state).trans
    (updateDirectionTimeouts_acts config false revRt _)

theorem refreshReleased_acts : TimerActs state (refreshReleased config rt state) := by
  unfold refreshReleased
  split
  · dsimp only
    have first := rtTableUpdateTimeout_acts rt.destAddr (activeRouteTimeout config) state
    split
    · exact first
    · split
      · exact first.trans (rtTableUpdateTimeout_acts ..)
      · exact first
  · exact .refl

end Aodvd
