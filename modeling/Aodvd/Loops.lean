/-
This file is about loops along the valid routes of a network whose nodes have one interface and
the default options.

A valid route over another node is what that node has told, with one hop more. If every node keeps
what it has told backed, the route of the next hop is newer, or equally new and shorter, so no
chain of next hops comes back. The condition is on every event, and a HELLO that was overtaken by
a newer message of its sender is enough to break it: two nodes then send the packets for a third
one to each other.
-/

import Mathlib
import Aodvd.Deletions
import Aodvd.Library.Ranks
import Aodvd.Network
import Aodvd.Numbers

namespace Aodvd

/-! ### Routes that are not repaired -/

/-- No entry is marked for repair. -/
def Unmarked (state : State) : Prop :=
  ∀ dest rt, entryAt state dest = some rt → rt.flags.repair = false

section

variable {config : Config} {event : Event} {origin before after state : State}

theorem Unmarked.of_rtTbl (unmarked : Unmarked before) (rtTbl : after.rtTbl = before.rtTbl) :
    Unmarked after := by
  intro dest rt found
  rw [entryAt, rtTbl] at found
  exact unmarked dest rt found

theorem Unmarked.setEntry {change : RtEntry → RtEntry}
    (keepsDest : ∀ rt, (change rt).destAddr = rt.destAddr)
    (clear : ∀ rt, rt.flags.repair = false → (change rt).flags.repair = false)
    (unmarked : Unmarked state) (dest : Addr) : Unmarked (setEntry dest change state) := by
  intro other rt found
  rw [entryAt_setEntry keepsDest] at found
  split at found
  · obtain ⟨old, oldFound, rfl⟩ := Option.map_eq_some_iff.mp found
    exact clear old (unmarked dest old oldFound)
  · exact unmarked other rt found

theorem RtEntry.cut_flags_of_unmarked (neighbor dest : Addr) (rt : RtEntry) :
    (rt.cut neighbor false dest).flags = rt.flags := by
  unfold RtEntry.cut RtEntry.retired
  rw [if_neg (fun both => Bool.false_ne_true both.1 : ¬ (false = true ∧ rt.hcnt ≤ maxRepairTtl))]
  repeat' split
  all_goals rfl

theorem Unmarked.rtTableInvalidate (unmarked : Unmarked state) (config : Config) (dest : Addr) :
    Unmarked (rtTableInvalidate config dest state) := by
  intro other rt found
  rw [entryAt_rtTableInvalidate] at found
  split at found
  · obtain ⟨old, oldFound, rfl⟩ := Option.map_eq_some_iff.mp found
    unfold RtEntry.retired
    split
    · exact unmarked dest old oldFound
    · exact unmarked dest old oldFound
  · exact unmarked other rt found

theorem Unmarked.neighborLinkBreak (unmarked : Unmarked state) (sound : state.rtTbl.Sound)
    (config : Config) (dest : Addr) : Unmarked (neighborLinkBreak config dest state) := by
  intro other rt found
  rcases neighborLinkBreak_cases config dest state with far | ⟨broken, brokenFound, hcnt⟩
  · rw [far] at found
    exact unmarked other rt found
  · rw [entryAt_neighborLinkBreak config sound brokenFound hcnt,
      unmarked dest broken brokenFound] at found
    obtain ⟨old, oldFound, rfl⟩ := Option.map_eq_some_iff.mp found
    rw [RtEntry.cut_flags_of_unmarked]
    exact unmarked other old oldFound

theorem Unmarked.rtTableUpdate (unmarked : Unmarked state) (sound : state.rtTbl.Sound)
    (config : Config) {offer : Offer} {rt : RtEntry} (found : entryAt state offer.dest = some rt)
    (clear : offer.flags.repair = false) : Unmarked (rtTableUpdate config offer state) := by
  intro other updated updatedFound
  by_cases same : other = offer.dest
  · subst same
    obtain ⟨base, baseFound, _⟩ := entryAt_rtTableUpdate_self config offer sound found
    obtain rfl := Option.some.inj (updatedFound.symm.trans baseFound)
    show (updateFlags rt offer).repair = false
    unfold updateFlags
    split
    · rfl
    · exact clear
  · rw [entryAt_rtTableUpdate_other config offer sound found same, unmarked _ rt found]
      at updatedFound
    split at updatedFound
    · obtain ⟨old, oldFound, rfl⟩ := Option.map_eq_some_iff.mp updatedFound
      rw [RtEntry.cut_flags_of_unmarked]
      exact unmarked other old oldFound
    · exact unmarked other updated updatedFound

/-- No route is marked for repair unless the option asks for it. -/
theorem RouteAct.unmarked (act : RouteAct config event origin before after)
    (sound : before.rtTbl.Sound) (bidirectional : config.unidirHack = false)
    (giveUp : config.localRepair = false) (unmarked : Unmarked before) : Unmarked after := by
  cases act with
  | touch dest touch => exact unmarked.setEntry touch.dest (fun rt clear => touch.flags rt ▸ clear) dest
  | insert offer fresh cause =>
    intro dest rt found
    rw [entryAt_rtTableInsert config offer fresh] at found
    split at found
    · obtain rfl := Option.some.inj found
      exact cause.offered.repair
    · exact unmarked dest rt found
  | update offer rt found cause =>
    exact unmarked.rtTableUpdate sound config found (cause.offered.repair.trans (unmarked _ rt found))
  | linkBreak dest => exact unmarked.neighborLinkBreak sound config dest
  | unidirBreak dest hack => exact absurd (bidirectional.symm.trans hack) Bool.false_ne_true
  | helloBreak dest rest =>
    have popped : Unmarked (popTimer (.helloTimer dest) rest before) := unmarked
    unfold helloTimeout
    split
    · exact popped
    · split
      · rw [if_neg fun both => Bool.false_ne_true (giveUp.symm.trans both.1)]
        exact popped.neighborLinkBreak sound config dest
      · exact popped
  | expire dest => exact unmarked.rtTableInvalidate config dest
  | error received message dest seqno =>
    refine Unmarked.setEntry (gentle_setSeqno seqno).dest (fun _ clear => clear) ?_ dest
    split
    · exact unmarked
    · exact unmarked.rtTableInvalidate config dest
  | delete dest =>
    intro other rt found
    rw [entryAt_rtTableDelete] at found
    split at found
    · exact absurd found (by simp)
    · exact unmarked other rt found
  | repair dest rt found =>
    obtain ⟨reported, aside, result⟩ := localRepairTimeout_of_some config found
    have cleared : Unmarked (setEntry dest RtEntry.unmarkRepair before) :=
      unmarked.setEntry cosmetic_unmarkRepair.dest (fun _ _ => rfl) dest
    have told : Unmarked reported := cleared.of_rtTbl aside.rtTbl
    rw [result]
    exact told.setEntry gentle_precursorListDestroy.dest (fun _ clear => clear) dest

theorem Act.unmarked (act : Act config event origin before after)
    (sound : before.rtTbl.Sound) (bidirectional : config.unidirHack = false)
    (giveUp : config.localRepair = false) (unmarked : Unmarked before) : Unmarked after := by
  rcases act.route_or_same with act | ⟨rtTbl, _⟩
  · exact act.unmarked sound bidirectional giveUp unmarked
  · exact unmarked.of_rtTbl rtTbl

/-! ### Errors that delete -/

/-- If the message is a RERR, it does not ask to keep the routes it lists. -/
def AodvMsg.Deletes (msg : AodvMsg) : Prop := ∀ rerr, msg = .rerr rerr → rerr.noDelete = false

theorem Departs.deletes {datagram : Datagram} (departs : Departs config event origin before datagram)
    (bidirectional : config.unidirHack = false) (unmarked : Unmarked origin)
    (heard : ∀ received rerr, HandlesRerr config event received rerr → rerr.noDelete = false) :
    datagram.msg.Deletes := by
  intro rerr isRerr
  cases departs with
  | report reports =>
    obtain ⟨other, isOther, deletes⟩ := reports.deletes
    obtain rfl := AodvMsg.rerr.inj (isRerr.symm.trans isOther)
    exact deletes
  | send sender ttl listed source lifetime contents sendable =>
    have buffer := contents.symm.trans isRerr
    cases sendable with
    | hello _ _ _ _ _ _ holds => exact absurd (buffer.symm.trans holds) (by simp)
    | request _ _ _ _ _ holds => exact absurd (buffer.symm.trans holds) (by simp)
    | relay _ _ _ _ _ _ _ holds => exact absurd (buffer.symm.trans holds) (by simp)
    | answer _ _ _ _ _ _ holds => exact absurd (buffer.symm.trans holds) (by simp)
    | reply _ _ _ _ _ _ _ holds => exact absurd (buffer.symm.trans holds) (by simp)
    | suspect _ _ hack => exact absurd (bidirectional.symm.trans hack) Bool.false_ne_true
    | error other holds kept =>
      obtain rfl := AodvMsg.rerr.inj (buffer.symm.trans holds)
      refine Bool.eq_false_iff.mpr fun keeps => ?_
      rcases kept keeps with ⟨received, message, handles, alsoKeeps⟩ | ⟨dest, rt, found, marked⟩
      · exact absurd ((heard received message handles).symm.trans alsoKeeps) Bool.false_ne_true
      · exact absurd ((unmarked dest rt found).symm.trans marked) Bool.false_ne_true
    | acknowledgement holds => exact absurd (buffer.symm.trans holds) (by simp)

/-- Nothing is repaired: no entry is marked for it, and every RERR that leaves deletes. -/
structure Final (state : State) : Prop where
  unmarked : Unmarked state
  deletes : ∀ datagram ∈ state.out, datagram.msg.Deletes

theorem Act.final (act : Act config event origin before after) (sound : before.rtTbl.Sound)
    (bidirectional : config.unidirHack = false) (giveUp : config.localRepair = false)
    (unmarked : Unmarked origin)
    (heard : ∀ received rerr, HandlesRerr config event received rerr → rerr.noDelete = false)
    (final : Final before) : Final after where
  unmarked := act.unmarked sound bidirectional giveUp final.unmarked
  deletes := by
    obtain ⟨sent, out, departs⟩ := act.emits
    intro datagram member
    rw [out] at member
    rcases List.mem_append.mp member with early | late
    · exact final.deletes datagram early
    · exact (departs datagram late).deletes bidirectional unmarked heard

theorem Handled.final {last : State} (handled : Handled config origin event last)
    (regular : Regular config origin) (bidirectional : config.unidirHack = false)
    (giveUp : config.localRepair = false)
    (heard : ∀ received rerr, HandlesRerr config event received rerr → rerr.noDelete = false)
    (final : Final origin) : Final last :=
  handled.invariant_of_congr Final regular
    (fun _ _ rtTbl out final => ⟨final.unmarked.of_rtTbl rtTbl, out ▸ final.deletes⟩)
    (fun _ _ regular act =>
      act.final regular.sound bidirectional giveUp final.unmarked heard) final

/-! ### Where routes come from -/

/-- A valid route over another node is what that node has told, with one hop more. -/
def Sourced (told : Addr → Advert → Prop) (dest : Addr) (entry : Option RtEntry) : Prop :=
  ∀ rt, entry = some rt → rt.state = .valid → rt.nextHop ≠ dest →
    ∃ hops, rt.hcnt = hops + 1 ∧ told rt.nextHop ⟨dest, rt.destSeqno, hops⟩

variable {told : Addr → Advert → Prop} {dest : Addr} {sent : List Datagram}

theorem Sourced.mono {more : Addr → Advert → Prop} {entry : Option RtEntry}
    (sourced : Sourced told dest entry) (grows : ∀ source advert, told source advert →
      more source advert) : Sourced more dest entry := by
  intro rt is valid through
  obtain ⟨hops, hcnt, tells⟩ := sourced rt is valid through
  exact ⟨hops, hcnt, grows _ _ tells⟩

theorem Sourced.of_samePath {old new : RtEntry} (sourced : Sourced told dest (some old))
    (same : SamePath new old) : Sourced told dest (some new) := by
  intro rt is valid through
  obtain rfl := Option.some.inj is
  rw [same.state] at valid
  rw [same.nextHop] at through
  rw [same.hcnt, same.nextHop, same.destSeqno]
  exact sourced old rfl valid through

/-- A received message is what its source has told. -/
def Event.Told (told : Addr → Advert → Prop) (event : Event) : Prop :=
  ∀ received, event = .message received → ∀ advert, received.msg.advert = some advert →
    told received.src advert

/-- What an offer brings is what its source has told. -/
def Offer.Told (told : Addr → Advert → Prop) (offer : Offer) : Prop :=
  offer.next ≠ offer.dest → ∃ hops, offer.hcnt = hops + 1 ∧
    told offer.next ⟨offer.dest, offer.seqno, hops⟩

theorem Tame.told_rreq (tame : Tame config sent origin event) {received : Received} {rreq : Rreq}
    (handles : HandlesRreq config event origin received rreq)
    (heard : event.Told told) (flags : RtFlags) :
    (rreqOffer rreq received.src received.ifindex flags).Told told := fun _ =>
  ⟨rreq.hcnt, Offer.hcnt_of_small rfl (handles.harmless tame.harmless).1,
    heard received handles.event _ (congrArg AodvMsg.advert handles.isRreq)⟩

theorem Tame.told_rrep (tame : Tame config sent origin event) {received : Received} {rrep : Rrep}
    (handles : HandlesRrep config event received rrep)
    (heard : event.Told told) (flags : RtFlags) :
    (rrepOffer rrep received.src received.ifindex flags).Told told := fun _ =>
  ⟨rrep.hcnt, Offer.hcnt_of_small rfl (handles.harmless tame.harmless),
    heard received handles.event _ (congrArg AodvMsg.advert handles.isRrep)⟩

theorem Offered.isTold {found : Option RtEntry} {offer : Offer}
    (offered : Offered config event origin before found offer)
    (tame : Tame config sent origin event) (heard : event.Told told) : offer.Told told := by
  cases offered with
  | neighbor => exact fun through => absurd rfl through
  | hello => exact fun through => absurd rfl through
  | rreq received rreq handles => exact tame.told_rreq handles heard _
  | rrep received rrep handles => exact tame.told_rrep handles heard _

theorem EntryChange.sourced {old new : Option RtEntry}
    (change : EntryChange config event origin before dest old new)
    (tame : Tame config sent origin event)
    (heard : event.Told told)
    (sourced : Sourced told dest old) : Sourced told dest new := by
  cases change with
  | absent => exact sourced
  | keep same => exact sourced.of_samePath same.samePath
  | mark same => exact sourced.of_samePath same
  | insert offer here cause =>
    intro rt is _ through
    obtain rfl := Option.some.inj is
    rw [← here] at through ⊢
    exact cause.offered.isTold tame heard through
  | update offer here cause adopted =>
    intro rt is _ through
    obtain rfl := Option.some.inj is
    rw [← here, adopted.nextHop] at through
    rw [← here, adopted.nextHop, adopted.hcnt, adopted.destSeqno]
    exact cause.offered.isTold tame heard through
  | retire retired =>
    intro rt is valid
    obtain rfl := Option.some.inj is
    exact RouteState.noConfusion (retired.invalid.symm.trans valid)
  | error received message seqno handles listed _ through same =>
    intro rt is valid
    obtain rfl := Option.some.inj is
    have state := same.state
    rw [tame.deletes received message handles] at state
    exact RouteState.noConfusion (state.symm.trans valid)
  | delete => exact fun _ is => absurd is (by simp)

theorem Handled.sourced {final : State} (handled : Handled config origin event final)
    (tame : Tame config sent origin event) (heard : event.Told told)
    (sourced : Sourced told dest (entryAt origin dest)) :
    Sourced told dest (entryAt final dest) :=
  handled.entryInvariant tame.regular dest (Sourced told dest)
    (fun _ _ _ change => change.sourced tame heard) sourced

end

/-! ### Consistent networks -/

variable {ι : Type}

/-- Every node has an address of its own, one interface and the default options. -/
structure Site.Plain (site : Site ι) : Prop extends site.Addressed where
  plain : ∀ node, ∃ dev, site.config node = defaultConfig [dev]

theorem Site.Plain.bidirectional {site : Site ι} (plain : site.Plain) (node : ι) :
    (site.config node).unidirHack = false := by
  obtain ⟨dev, is⟩ := plain.plain node
  rw [is]
  rfl

theorem Site.Plain.giveUp {site : Site ι} (plain : site.Plain) (node : ι) :
    (site.config node).localRepair = false := by
  obtain ⟨dev, is⟩ := plain.plain node
  rw [is]
  rfl

/-- Some node has told of a route from an address. -/
def Network.Told (network : Network ι) (source : Addr) (advert : Advert) : Prop :=
  ∃ sender, ∃ datagram ∈ network.sent sender, datagram.src = source ∧
    datagram.msg.advert = some advert

/-- What holds in a network whose nodes have kept what they have told backed. -/
structure Network.Consistent (site : Site ι) (network : Network ι) : Prop
    extends network.InOrder site where
  numbered : ∀ node, Numbered (network.node node)
  counted : ∀ node, ∀ datagram ∈ network.sent node, datagram.msg.Numbered
  unmarked : ∀ node, Unmarked (network.node node)
  deletes : ∀ node, ∀ datagram ∈ network.sent node, datagram.msg.Deletes
  sourced : ∀ node dest, Sourced network.Told dest (entryAt (network.node node) dest)
  backs : ∀ node, Backs (site.config node) (network.sent node) (network.node node)

theorem entryAt_zeroState (now : Timeval) (jitter : Int) (dest : Addr) :
    entryAt (zeroState now jitter) dest = none := rfl

theorem tame_boot {site : Site ι} (plain : site.Plain) (node : ι) (now : Timeval) (jitter : Int) :
    Tame (site.config node) [] (zeroState now jitter) .timers where
  regular := regular_zeroState ..
  bidirectional := plain.bidirectional node
  below := by
    refine ⟨fun rt member => ?_, trivial⟩
    have regular : Regular (site.config node) (zeroState now jitter) := regular_zeroState ..
    have found := regular.sound.entryAt_eq_some_iff.mpr ⟨member, rfl⟩
    exact absurd ((entryAt_zeroState ..).symm.trans found) (by simp)
  harmless _ member := absurd member List.not_mem_nil
  deletes _ _ handles := Event.noConfusion handles.event

theorem backs_boot {site : Site ι} (plain : site.Plain) (node : ι) (now : Timeval) (jitter : Int) :
    Backs (site.config node) (boot (site.config node) now jitter).out
      (boot (site.config node) now jitter) := by
  have tame := tame_boot plain node now jitter
  have empty : Backs (site.config node) [] (zeroState now jitter) :=
    ⟨fun _ _ found => absurd ((entryAt_zeroState ..).symm.trans found) (by simp),
      fun _ member => absurd member List.not_mem_nil⟩
  have honest := (boot_acts (site.config node) .timers (zeroState now jitter) now jitter).invariant
    (Honest (site.config node) .timers (zeroState now jitter) []) (regular_zeroState ..)
    (fun _ _ regular act => act.honest regular tame) (empty.honest tame rfl)
  refine ⟨fun dest => (honest.fit dest).far, fun advert told foreign counted => ?_⟩
  obtain ⟨counts, _⟩ := honest.stands advert told foreign counted
  exact absurd counts.of_timers List.not_mem_nil

theorem final_boot {site : Site ι} (plain : site.Plain) (node : ι) (now : Timeval) (jitter : Int) :
    Final (boot (site.config node) now jitter) := by
  have unmarked : Unmarked (zeroState now jitter) := fun _ _ found =>
    absurd ((entryAt_zeroState ..).symm.trans found) (by simp)
  exact (boot_acts (site.config node) .timers (zeroState now jitter) now jitter).invariant Final
    (regular_zeroState ..)
    (fun _ _ regular act => act.final regular.sound (plain.bidirectional node) (plain.giveUp node)
      unmarked fun _ _ handles => Event.noConfusion handles.event)
    ⟨unmarked, fun _ member => absurd member List.not_mem_nil⟩

theorem consistent_netBoot {site : Site ι} (plain : site.Plain) :
    (netBoot site).Consistent site where
  toInOrder := inOrder_netBoot plain.toAddressed
  numbered node := numbered_boot ..
  counted node := (numbered_boot ..).2.2
  unmarked node := (final_boot plain node ..).unmarked
  deletes node := (final_boot plain node ..).deletes
  sourced node dest rt found := absurd ((entryAt_boot ..).symm.trans found) (by simp)
  backs node := backs_boot plain node ..

/-! ### Events that keep a network consistent -/

/-- The event that a node handles does not make an entry worse than what the node has told, and
the sequence numbers that meet in it are below 2^31. -/
def KeepsBacked (site : Site ι) (network : Network ι) (input : NetInput ι) : Prop :=
  match input.event.event (site.config input.node) network with
  | none => True
  | some event =>
    event.Below (arrive (input.input event) (network.node input.node)) ∧
      event.Harmless (site.config input.node) (network.sent input.node)
        (arrive (input.input event) (network.node input.node))

instance (site : Site ι) (network : Network ι) (input : NetInput ι) :
    Decidable (KeepsBacked site network input) := by
  unfold KeepsBacked
  split <;> infer_instance

/-- The event at a node of a consistent network. -/
structure Suits (site : Site ι) (network : Network ι) (node : ι) (input : Input) : Prop where
  below : input.event.Below (arrive input (network.node node))
  harmless : input.event.Harmless (site.config node) (network.sent node)
    (arrive input (network.node node))
  heard : input.event.Told network.Told
  numbered : input.event.Numbered
  deletes : ∀ received, input.event = .message received → received.msg.Deletes
  signed : ∀ received, input.event = .message received → site.Heard received

/-- A message that is delivered in a consistent network is numbered, deletes and is what its source
has told. -/
theorem Network.Consistent.suits {site : Site ι} {network : Network ι}
    (consistent : network.Consistent site) {input : NetInput ι} {event : Event}
    (is : input.event.event (site.config input.node) network = some event)
    (keeps : KeepsBacked site network input) :
    Suits site network input.node (input.input event) := by
  unfold KeepsBacked at keeps
  rw [is] at keeps
  have message {received : Received} (isMessage : event = .message received) :
      ∃ sender, ∃ datagram ∈ network.sent sender, received.msg = datagram.msg ∧
        received.src = datagram.src := by
    obtain ⟨sender, datagram, member, _, received_eq⟩ :=
      NetEvent.event_eq_message (is.trans (congrArg some isMessage))
    exact ⟨sender, datagram, member, by rw [received_eq]; rfl, by rw [received_eq]; rfl⟩
  refine ⟨keeps.1, keeps.2, fun received isMessage advert tells => ?_, ?_,
    fun received isMessage => ?_, fun received isMessage => ?_⟩
  · obtain ⟨sender, datagram, member, msg, src⟩ := message isMessage
    exact ⟨sender, datagram, member, src.symm, msg ▸ tells⟩
  · show event.Numbered
    cases event with
    | message received =>
      obtain ⟨sender, datagram, member, msg, _⟩ := message rfl
      show received.msg.Numbered
      rw [msg]
      exact consistent.counted sender datagram member
    | _ => trivial
  · obtain ⟨sender, datagram, member, msg, _⟩ := message isMessage
    rw [msg]
    exact consistent.deletes sender datagram member
  · exact consistent.wired.heard (is.trans (congrArg some isMessage))

section

variable {site : Site ι} {network : Network ι} {node : ι} {input : Input}

theorem Suits.tame (suits : Suits site network node input) (plain : site.Plain)
    (consistent : network.Consistent site) :
    Tame (site.config node) (network.sent node) (arrive input (network.node node)) input.event where
  regular := ((consistent.atRest node).arrive input).toRegular
  bidirectional := plain.bidirectional node
  below := suits.below
  harmless := suits.harmless
  deletes received rerr handles := suits.deletes received handles.event rerr handles.isRerr

theorem Suits.backs (suits : Suits site network node input) (plain : site.Plain)
    (consistent : network.Consistent site) :
    Backs (site.config node)
      (network.sent node ++ (step (site.config node) (network.node node) input).out)
      (step (site.config node) (network.node node) input) := by
  have resting := (consistent.atRest node).arrive input
  refine (step_handled (consistent.atRest node) input).backs (suits.tame plain consistent) rfl
    (fun due dest there spared => ?_)
    ⟨(consistent.backs node).far, (consistent.backs node).backed⟩
  show entryAt (handleEvent (site.config node) input.event (arrive input (network.node node))) dest
    ≠ none
  rw [due]
  exact entryAt_timerTimeout_ne_none resting there spared

theorem Suits.final (suits : Suits site network node input) (plain : site.Plain)
    (consistent : network.Consistent site) :
    Final (step (site.config node) (network.node node) input) := by
  have tame := suits.tame plain consistent
  exact (step_handled (consistent.atRest node) input).final tame.regular tame.bidirectional
    (plain.giveUp node) tame.deletes
    ⟨consistent.unmarked node, fun _ member => absurd member List.not_mem_nil⟩

variable [DecidableEq ι]

theorem Network.Told.advance {source : Addr} {advert : Advert} (told : network.Told source advert)
    (node : ι) (input : Input) : (network.advance site node input).Told source advert := by
  obtain ⟨sender, datagram, member, is⟩ := told
  refine ⟨sender, datagram, ?_, is⟩
  by_cases same : sender = node
  · subst same
    rw [(network.advance_self site sender input).2]
    exact List.mem_append_left _ member
  · rw [(network.advance_other site same input).2]
    exact member

/-- What holds of the node that acts and of all others holds of every node. -/
theorem Network.advance_node (property : ι → State → List Datagram → Prop)
    (acting : property node (step (site.config node) (network.node node) input)
      (network.sent node ++ (step (site.config node) (network.node node) input).out))
    (others : ∀ other, property other (network.node other) (network.sent other)) (other : ι) :
    property other ((network.advance site node input).node other)
      ((network.advance site node input).sent other) := by
  by_cases same : other = node
  · subst same
    rw [(network.advance_self site other input).1, (network.advance_self site other input).2]
    exact acting
  · rw [(network.advance_other site same input).1, (network.advance_other site same input).2]
    exact others other

theorem Network.Consistent.advance (consistent : network.Consistent site) (plain : site.Plain)
    (suits : Suits site network node input) :
    (network.advance site node input).Consistent site := by
  have tame := suits.tame plain consistent
  have final := suits.final plain consistent
  have numbered := numbered_step (consistent.atRest node) (consistent.numbered node) suits.numbered
  have sent {quality : AodvMsg → Prop}
      (earlier : ∀ other, ∀ datagram ∈ network.sent other, quality datagram.msg)
      (late : ∀ datagram ∈ (step (site.config node) (network.node node) input).out,
        quality datagram.msg) (other : ι) :
      ∀ datagram ∈ (network.advance site node input).sent other, quality datagram.msg := by
    refine Network.advance_node (fun _ _ sent => ∀ datagram ∈ sent, quality datagram.msg)
      (fun datagram member => ?_) earlier other
    rcases List.mem_append.mp member with old | new
    · exact earlier node datagram old
    · exact late datagram new
  refine ⟨⟨consistent.atRest.advance node input, consistent.wired.advance consistent.atRest
    plain.toAddressed input suits.signed⟩, ?_, sent consistent.counted numbered.2.2, ?_,
    sent consistent.deletes final.deletes, ?_, ?_⟩
  · exact Network.advance_node (fun _ state _ => Numbered state) numbered
      consistent.numbered
  · exact Network.advance_node (fun _ state _ => Unmarked state) final.unmarked
      consistent.unmarked
  · intro other dest
    refine Sourced.mono ?_ fun _ _ (told : network.Told _ _) => told.advance node input
    refine Network.advance_node
      (fun _ state _ => Sourced network.Told dest (entryAt state dest)) ?_
      (fun other => consistent.sourced other dest) other
    exact (step_handled (consistent.atRest node) input).sourced tame suits.heard
      (consistent.sourced node dest)
  · exact Network.advance_node (fun other state sent => Backs (site.config other) sent state)
      (suits.backs plain consistent) consistent.backs

end

variable [DecidableEq ι]

theorem Network.Consistent.netStep {site : Site ι} {network : Network ι}
    (consistent : network.Consistent site) (plain : site.Plain) (input : NetInput ι)
    (keeps : KeepsBacked site network input) : (netStep site network input).Consistent site := by
  unfold Aodvd.netStep
  split
  · exact consistent
  · exact consistent.advance plain (consistent.suits ‹_› keeps)

/-! ### Loops -/

/-- A node that is not the destination has a valid route to it over another node. -/
def Leads (site : Site ι) (network : Network ι) (dest : Addr) (node next : ι) : Prop :=
  dest ∉ ownAddrs (site.config node) ∧
    ∃ rt, entryAt (network.node node) dest = some rt ∧ rt.state = .valid ∧
      rt.nextHop ∈ ownAddrs (site.config next)

/-- No packet can travel in a circle along valid routes to one destination. -/
def LoopFree (site : Site ι) (network : Network ι) : Prop :=
  ∀ dest node, ¬ Relation.TransGen (Leads site network dest) node node

/-- Routes are ordered by their sequence numbers, and then by their hop counts from far to near. -/
def routeRank (network : Network ι) (dest : Addr) (node : ι) : ℕ ×ₗ ℕᵒᵈ :=
  match entryAt (network.node node) dest with
  | none => toLex (0, OrderDual.toDual 0)
  | some rt => toLex (rt.destSeqno.toNat, OrderDual.toDual rt.hcnt)

omit [DecidableEq ι] in
/-- The rank grows along next hops up to the neighbour of the destination. -/
theorem Network.Consistent.routeRank_lt {site : Site ι} {network : Network ι}
    (consistent : network.Consistent site) (plain : site.Plain) {dest : Addr}
    {first second third : ι} (leads : Leads site network dest first second)
    (goesOn : Leads site network dest second third) :
    routeRank network dest first < routeRank network dest second := by
  obtain ⟨_, rt, found, valid, through⟩ := leads
  have foreign := goesOn.1
  have another : rt.nextHop ≠ dest := fun same => foreign (same ▸ through)
  obtain ⟨hops, hcnt, sender, datagram, member, source, tells⟩ :=
    consistent.sourced first dest rt found valid another
  -- the advert comes from the next hop, as no two nodes share an address
  have signed := (consistent.wired.signed sender datagram member).source
  obtain rfl : sender = second := plain.distinct sender second _ (source ▸ signed) through
  have counted := consistent.counted sender datagram member _ tells
  obtain ⟨_, next, nextFound, backed⟩ := (consistent.backs sender).backed _
    (mem_adverts.mpr ⟨datagram, member, tells⟩) foreign counted
  rw [routeRank, routeRank, found, nextFound]
  dsimp only
  rcases backed with newer | ⟨same, _, shorter⟩
  · exact Prod.Lex.left _ _ newer
  · have number : rt.destSeqno = next.destSeqno := same
    rw [number]
    refine Prod.Lex.right _ ?_
    show next.hcnt < rt.hcnt
    rw [hcnt]
    exact Nat.lt_succ_of_le shorter

/-- Routes form no loops in any run of a plain network whose events keep what the nodes have
told backed. -/
theorem netRun_loopFree (site : Site ι) (plain : site.Plain) (inputs : List (NetInput ι))
    (meets : Runs.Meets (netStep site) (KeepsBacked site) (netBoot site) inputs) :
    LoopFree site (netRun site inputs) := by
  have consistent : (netRun site inputs).Consistent site :=
    Runs.invariant (Network.Consistent site)
      (fun _ input consistent keeps => consistent.netStep plain input keeps)
      (consistent_netBoot plain) meets
  intro dest node
  exact Ranks.not_transGen_self
    (fun _ _ _ leads goesOn => consistent.routeRank_lt plain leads goesOn) node

/-! ### A network with a loop -/

theorem trioSite_plain : trioSite.Plain where
  distinct one other address oneOwns otherOwns := by
    have injective : ∀ one other : Trio, one.address = other.address → one = other := by
      decide
    exact injective one other
      ((List.mem_singleton.mp oneOwns).symm.trans (List.mem_singleton.mp otherOwns))
  unicast := by decide
  plain node := ⟨_, rfl⟩

/-- An ICMP packet of a node to another. -/
def netPacket (id : Nat) (source dest : Addr) : NetEvent ι :=
  .packet ⟨BitVec.ofNat 32 id, some ⟨84, 5, 1, source, dest, 0, 0⟩, .other, 0, 1⟩

/-- The third node has sent a HELLO and then a RREQ, which the second one has passed on to the
first. -/
def flooded : List (NetInput Trio) :=
  [netInputAt 15000 .third .timers, netInputAt 16000 .third .timers,
    netInputAt 16000 .first .timers, netInputAt 16000 .second .timers,
    netInputAt 16100 .third (netPacket 7 3#32 9#32),
    netInputAt 16110 .second (.deliver .third 1 1), netInputAt 16120 .first (.deliver .second 0 1)]

theorem netRun_loopFree_flooded :
    (Runs.Meets (netStep trioSite) (KeepsBacked trioSite) (netBoot trioSite) flooded ∧
      (entryAt ((netRun trioSite flooded).node .first) 3#32).map RtEntry.nextHop = some 2#32) ∧
      LoopFree trioSite (netRun trioSite flooded) := by
  have meets : Runs.Meets (netStep trioSite) (KeepsBacked trioSite) (netBoot trioSite) flooded ∧
      (entryAt ((netRun trioSite flooded).node .first) 3#32).map RtEntry.nextHop = some 2#32 := by
    decide +kernel
  exact ⟨meets, netRun_loopFree trioSite trioSite_plain flooded meets.1⟩

theorem inOrder_netRun_flooded : (netRun trioSite flooded).InOrder trioSite :=
  inOrder_netRun trioSite_plain.toAddressed flooded

/-- The HELLO reaches the second node after the RREQ and lowers the number of its route, its link
to the third node breaks, and it asks the first one for a new route. -/
def overtaken : List (NetInput Trio) :=
  flooded ++
    [netInputAt 16130 .second (.deliver .third 0 1), netInputAt 18200 .second .timers,
      netInputAt 18210 .second (netPacket 8 2#32 3#32),
      netInputAt 18220 .first (.deliver .second 2 1), netInputAt 18230 .second (.deliver .first 0 1)]

/-- The sequence numbers of the nodes, of their routes and of their messages are below 2^31. -/
def Network.Small (network : Network Trio) : Prop :=
  ∀ node, (network.node node).seqno.toNat < 2 ^ 31 ∧
    (∀ rt ∈ rtEntries (network.node node), rt.destSeqno.toNat < 2 ^ 31) ∧
    ∀ advert ∈ adverts (network.sent node), advert.seqno.toNat < 2 ^ 31

instance (network : Network Trio) : Decidable network.Small :=
  inferInstanceAs (Decidable (∀ _, _))

/-- The first two nodes send packets for the third one to each other. -/
theorem netRun_loops :
    (∀ count ≤ overtaken.length, (netRun trioSite (overtaken.take count)).Small) ∧
      ¬ LoopFree trioSite (netRun trioSite overtaken) := by
  have small : ∀ count ≤ overtaken.length, (netRun trioSite (overtaken.take count)).Small := by
    decide +kernel
  have first : ∃ rt, entryAt ((netRun trioSite overtaken).node .first) 3#32 = some rt ∧
      rt.state = .valid ∧ rt.nextHop = 2#32 := by
    refine ⟨_, Option.eq_some_of_isSome (by decide +kernel), ?_⟩
    decide +kernel
  have second : ∃ rt, entryAt ((netRun trioSite overtaken).node .second) 3#32 = some rt ∧
      rt.state = .valid ∧ rt.nextHop = 1#32 := by
    refine ⟨_, Option.eq_some_of_isSome (by decide +kernel), ?_⟩
    decide +kernel
  obtain ⟨there, thereFound, thereValid, through⟩ := first
  obtain ⟨back, backFound, backValid, backOver⟩ := second
  refine ⟨small, fun free => free 3#32 .first ?_⟩
  have leads : Leads trioSite (netRun trioSite overtaken) 3#32 .first .second :=
    ⟨by decide, there, thereFound, thereValid, through ▸ List.mem_singleton.mpr rfl⟩
  have returns : Leads trioSite (netRun trioSite overtaken) 3#32 .second .first :=
    ⟨by decide, back, backFound, backValid, backOver ▸ List.mem_singleton.mpr rfl⟩
  exact .tail (.single leads) returns

end Aodvd
