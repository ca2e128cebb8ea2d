/-
This file says what an event sends.

The operations on the routing tables send nothing but RERRs that do not ask to keep the
routes they list. Every other datagram is the send buffer of an action whose cause was
recorded, and its source is the address of an enabled interface.
-/

import Aodvd.EntryChanges

namespace Aodvd

/-! ### Datagrams that leave -/

/-- Between two states only datagrams of a quality leave. -/
def Emits (quality : Datagram → Prop) (before after : State) : Prop :=
  ∃ sent, after.out = before.out ++ sent ∧ ∀ datagram ∈ sent, quality datagram

theorem Emits.of_out {quality : Datagram → Prop} {before after : State}
    (out : after.out = before.out) : Emits quality before after :=
  ⟨[], by rw [out, List.append_nil], fun _ member => absurd member List.not_mem_nil⟩

theorem Emits.refl (quality : Datagram → Prop) (state : State) : Emits quality state state :=
  .of_out rfl

theorem Emits.trans {quality : Datagram → Prop} {first second third : State}
    (early : Emits quality first second) (late : Emits quality second third) :
    Emits quality first third := by
  obtain ⟨sent, out, good⟩ := early
  obtain ⟨later, laterOut, laterGood⟩ := late
  refine ⟨sent ++ later, by rw [laterOut, out, List.append_assoc], fun datagram member => ?_⟩
  rcases List.mem_append.mp member with first | second
  · exact good datagram first
  · exact laterGood datagram second

theorem Emits.mono {quality weaker : Datagram → Prop} {before after : State}
    (emits : Emits quality before after)
    (weakens : ∀ datagram, quality datagram → weaker datagram) : Emits weaker before after := by
  obtain ⟨sent, out, good⟩ := emits
  exact ⟨sent, out, fun datagram member => weakens datagram (good datagram member)⟩

theorem emits_aodvSocketSend (config : Config) {quality : Datagram → Prop} {dst : Addr} {len : Nat}
    {ttl : Int} {dev : Option Dev} {state : State}
    (good : ∀ sender, dev = some sender →
      quality ⟨sender.ipaddr, dst, (ttl % 256).toNat, len, state.sendBuf⟩) :
    Emits quality state (aodvSocketSend config dst len ttl dev state) := by
  rcases out_aodvSocketSend config dst len ttl dev state with out | ⟨sender, sends, out⟩
  · exact .of_out out
  · refine ⟨_, out, fun datagram member => ?_⟩
    rw [List.mem_singleton.mp member]
    exact good sender sends

theorem emits_sendOnAll {config : Config} {quality : Datagram → Prop} {len : Nat} {ttl : Int}
    {state : State}
    (good : ∀ sender ∈ config.devs,
      quality ⟨sender.ipaddr, aodvBroadcast, (ttl % 256).toNat, len, state.sendBuf⟩) :
    Emits quality state (sendOnAll config len ttl state) := by
  have loop : Emits quality state (sendOnAll config len ttl state) ∧
      (sendOnAll config len ttl state).sendBuf = state.sendBuf := by
    unfold sendOnAll
    refine List.foldlRecOn config.devs _ (motive := fun current : State =>
      Emits quality state current ∧ current.sendBuf = state.sendBuf) ⟨.refl _ _, rfl⟩ ?_
    rintro current ⟨emits, buffer⟩ dev listed
    refine ⟨emits.trans (emits_aodvSocketSend config fun sender sends => ?_), ?_⟩
    · obtain rfl := Option.some.inj sends
      rw [buffer]
      exact good dev listed
    · rw [sendBuf_aodvSocketSend, buffer]
  exact loop.1

/-! ### RERRs of lost routes -/

/-- The datagram of a node is a RERR that deletes. -/
structure Reports (config : Config) (datagram : Datagram) : Prop where
  source : datagram.src ∈ ownAddrs config
  deletes : ∃ rerr, datagram.msg = .rerr rerr ∧ rerr.noDelete = false

theorem mem_ownAddrs {config : Config} {dev : Dev} (listed : dev ∈ config.devs) :
    dev.ipaddr ∈ ownAddrs config :=
  List.mem_map_of_mem listed

theorem ReportAct.emits {config : Config} {before after : State} (act : ReportAct config before after) :
    Emits (Reports config) before after := by
  cases act with
  | draft => exact .of_out rfl
  | send dst len ttl dev listed buffer =>
    exact emits_aodvSocketSend config fun sender sends =>
      ⟨mem_ownAddrs (listed sender sends), buffer⟩

/-! ### Operations on the routing tables -/

theorem out_timerActs {before after : State} (acts : TimerActs before after) :
    after.out = before.out := by
  obtain ⟨timers, rfl⟩ := acts.same
  rfl

theorem emits_ruled (config : Config) (start : State) :
    ReleaseRule config True (Emits (Reports config) start) :=
  .of_ignored (fun _ _ _ _ _ _ _ emits => emits) fun emits act => emits.trans act.emits

theorem emits_rtTableUpdate (config : Config) (offer : Offer) (state : State) :
    Emits (Reports config) state (rtTableUpdate config offer state) :=
  (emits_ruled config state).rtTableUpdate (.refl _ _) offer

theorem out_releaseBuffered (config : Config) (dest : Addr) (state : State) :
    (releaseBuffered config dest state).out = state.out := by
  obtain ⟨_, _, _, _, result⟩ := releaseBuffered_eq config dest state
  rw [result]

theorem out_rtTableInsert (config : Config) {offer : Offer} {state : State}
    (fresh : entryAt state offer.dest = none) :
    (rtTableInsert config offer state).1.out = state.out := by
  have inserted : (insertRoute config offer state).out = state.out := by
    obtain ⟨timers, result⟩ := insertRoute_eq config offer state
    rw [result]
  rw [rtTableInsert_of_none config offer fresh]
  dsimp only
  split
  · exact (out_releaseBuffered ..).trans inserted
  · exact inserted

theorem out_updateKernel (rt : RtEntry) (offer : Offer) (state : State) :
    (updateKernel rt offer state).out = state.out := by
  unfold updateKernel
  split
  · rfl
  · split <;> rfl

/-- An update sends what its link break sends. -/
theorem out_rtTableUpdate (config : Config) (offer : Offer) {state : State} {rt : RtEntry}
    (found : entryAt state offer.dest = some rt) :
    (rtTableUpdate config offer state).out =
      (updateLinkBreak config rt offer (updateKernel rt offer state)).out := by
  have updated : (updateRoute config rt offer state).out =
      (updateLinkBreak config rt offer (updateKernel rt offer state)).out := by
    unfold updateRoute
    dsimp only
    show State.out (if (updateFlags rt offer).inetDest then _ else _) = _
    split
    · rfl
    · exact (out_timerActs (rtTableUpdateTimeout_acts ..)).trans rfl
  rw [rtTableUpdate, found]
  dsimp only
  split
  · exact (out_releaseBuffered ..).trans updated
  · exact updated

section

variable {config : Config} {event : Event} {origin before after : State}

/-- An operation on the routing tables sends at most RERRs that delete. -/
theorem RouteAct.emits (act : RouteAct config event origin before after) :
    Emits (Reports config) before after :=
  (emits_ruled config before).routeAct act (.refl _ _) (fun _ _ => .of_out rfl)
    (fun _ _ _ _ => .of_out rfl) fun _ _ _ _ => .inr trivial

/-! ### Actions -/

/-- Why a datagram leaves. -/
inductive Departs (config : Config) (event : Event) (origin state : State) (datagram : Datagram) :
    Prop
  | report (reports : Reports config datagram)
  | send (sender : Dev) (ttl : Int) (listed : sender ∈ config.devs)
      (source : datagram.src = sender.ipaddr) (lifetime : datagram.ttl = (ttl % 256).toNat)
      (contents : datagram.msg = state.sendBuf)
      (sendable : Sendable config event origin state datagram.dst datagram.len ttl (some sender))

theorem Departs.source {state : State} {datagram : Datagram}
    (departs : Departs config event origin state datagram) : datagram.src ∈ ownAddrs config := by
  cases departs with
  | report reports => exact reports.source
  | send sender ttl listed source => exact source ▸ mem_ownAddrs listed

/-- Every action sends only what it has a cause for. -/
theorem Act.emits (act : Act config event origin before after) :
    Emits (Departs config event origin before) before after := by
  cases act with
  | aside _ out => exact .of_out out
  | timer act =>
    obtain ⟨timers, rfl⟩ := act.same
    exact .of_out rfl
  | record origAddr rreqId =>
    unfold rreqRecordInsert
    split <;> exact .of_out rfl
  | blacklist dest =>
    unfold rreqBlacklistInsert
    split <;> exact .of_out rfl
  | send dst len ttl dev sendable listed =>
    exact emits_aodvSocketSend config fun sender sends =>
      .send sender ttl (listed sender sends) rfl rfl rfl (sends ▸ sendable)
  | route act => exact act.emits.mono fun _ => .report
  | _ => exact .of_out rfl

/-- What the routing table and the datagrams decide, and every action keeps, an event keeps. -/
theorem Handled.invariant_of_congr {final : State} (handled : Handled config origin event final)
    (property : State → Prop) (regular : Regular config origin)
    (congr : ∀ first second, second.rtTbl = first.rtTbl → second.out = first.out →
      property first → property second)
    (kept : ∀ first second, Regular config first → Act config event origin first second →
      property first → property second)
    (initial : property origin) : property final :=
  handled.invariant_of_ignored property regular kept (fun _ => congr _ _ rfl rfl)
    (fun _ _ _ => congr _ _ rfl rfl) initial

end

end Aodvd
