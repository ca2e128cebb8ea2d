/-
This file settles when a node gets a route to one of its own addresses.

`rreq_process` and `rrep_process` compare the originator or the destination with the
address of the interface that received the message, and with no other. In a network of
nodes that all run the daemon this check is the only thing that can fail: sources are
foreign, and HELLOs name their source. So a table stays free of own addresses exactly as
long as no RREQ or RREP about the address of another interface passes the check.
-/

import Aodvd.Network
import Aodvd.RouteClocks

namespace Aodvd

/-! ### Messages about an own address -/

/-- A RREQ or RREP about an own address passes the checks of its handler. -/
def Strays (config : Config) (state : State) : Event → Prop
  | .message received =>
    received.src ∉ ownAddrs config ∧
      match received.msg with
      | .rreq rreq =>
        rreq.origAddr ∈ ownAddrs config ∧ rreq.origAddr ≠ ipaddrOf config received.ifindex ∧
          rreqSize ≤ received.len ∧ rreqBlacklistFind state received.src = false ∧
          rreqRecordFind state rreq.origAddr rreq.rreqId = false
      | .rrep rrep =>
        rrep.destAddr ∈ ownAddrs config ∧ rrep.destAddr ≠ ipaddrOf config received.ifindex ∧
          rrepSize ≤ received.len ∧ received.hello = none
      | _ => False
  | _ => False

instance (config : Config) (state : State) : ∀ event, Decidable (Strays config state event)
  | .timers => .isFalse id
  | .packet _ => .isFalse id
  | .txDrop _ => .isFalse id
  | .message ⟨.rreq _, _, _, _, _, _⟩ => inferInstanceAs (Decidable (_ ∧ _))
  | .message ⟨.rrep _, _, _, _, _, _⟩ => inferInstanceAs (Decidable (_ ∧ _))
  | .message ⟨.rerr _, _, _, _, _, _⟩ => .isFalse fun strays => strays.2
  | .message ⟨.rrepAck, _, _, _, _, _⟩ => .isFalse fun strays => strays.2
  | .message ⟨.other _, _, _, _, _, _⟩ => .isFalse fun strays => strays.2

section

variable {config : Config} {event : Event} {origin : State}

theorem HandlesRreq.strays {received : Received} {rreq : Rreq}
    (handles : HandlesRreq config event origin received rreq)
    (own : rreq.origAddr ∈ ownAddrs config) : Strays config origin event := by
  rw [handles.event]
  refine ⟨handles.foreign, ?_⟩
  rw [handles.isRreq]
  exact ⟨own, handles.notOwn, handles.long, handles.unlisted, handles.unseen⟩

theorem HandlesRrep.strays {received : Received} {rrep : Rrep}
    (handles : HandlesRrep config event received rrep)
    (own : rrep.destAddr ∈ ownAddrs config) : Strays config origin event := by
  rw [handles.event]
  refine ⟨handles.foreign, ?_⟩
  rw [handles.isRrep]
  exact ⟨own, handles.notOwn, handles.long, handles.notHello⟩

theorem Strays.cases (strays : Strays config origin event) :
    (∃ received rreq, HandlesRreq config event origin received rreq ∧
        rreq.origAddr ∈ ownAddrs config) ∨
      ∃ received rrep, HandlesRrep config event received rrep ∧
        rrep.destAddr ∈ ownAddrs config := by
  cases event with
  | message received =>
    obtain ⟨foreign, about⟩ := strays
    split at about
    · rename_i rreq isRreq
      obtain ⟨own, notOwn, long, unlisted, unseen⟩ := about
      exact .inl ⟨received, rreq, ⟨⟨rfl, foreign⟩, isRreq, notOwn, long, unlisted, unseen⟩, own⟩
    · rename_i rrep isRrep
      obtain ⟨own, notOwn, long, notHello⟩ := about
      exact .inr ⟨received, rrep, ⟨⟨rfl, foreign⟩, isRrep, notHello, notOwn, long⟩, own⟩
    · exact absurd about id
  | _ => exact absurd strays id

/-! ### One event -/

/-- A new entry of an own address comes from a message that strays. -/
theorem Inserts.strays {before : State} {offer : Offer}
    (cause : Inserts config event origin before offer) (own : offer.dest ∈ ownAddrs config)
    (named : ∀ received hello, HandlesHello config event received hello →
      hello.destAddr = received.src) : Strays config origin event := by
  cases cause with
  | neighbor received arrives => exact absurd own arrives.foreign
  | hello received hello handles =>
    exact absurd (named received hello handles ▸ own) handles.foreign
  | rreq received rreq handles => exact handles.strays own
  | rrep received rrep handles => exact handles.strays own

theorem Handled.noSelfRoute {final : State} (handled : Handled config origin event final)
    (regular : Regular config origin) {address : Addr} (own : address ∈ ownAddrs config)
    (named : ∀ received hello, HandlesHello config event received hello →
      hello.destAddr = received.src)
    (straight : ¬ Strays config origin event) (free : entryAt origin address = none) :
    entryAt final address = none := by
  refine handled.entryInvariant regular address (· = none) (fun before old new change empty => ?_)
    free
  subst empty
  cases change with
  | absent => rfl
  | insert offer here cause => exact absurd (cause.strays (here ▸ own) named) straight

/-- While a message is handled, no entry is deleted. -/
theorem Acts.present {before after : State} (acts : Acts config event origin before after)
    (regular : Regular config before) (heard : ¬ event.Local) {dest : Addr}
    (there : entryAt before dest ≠ none) : entryAt after dest ≠ none := by
  refine acts.invariant (fun state => entryAt state dest ≠ none) regular
    (fun first second regular act there => ?_) there
  have change := act.entryChange regular.sound dest
  generalize entryAt first dest = old at change there
  generalize entryAt second dest = new at change ⊢
  cases change with
  | absent => exact there
  | delete _ _ due => exact absurd (due ▸ trivial) heard
  | _ => simp

/-- A RREQ that passes the checks leaves an entry of its originator behind. -/
theorem HandlesRreq.present {received : Received} {rreq : Rreq} (regular : Regular config origin)
    (handles : HandlesRreq config event origin received rreq) :
    entryAt (handleEvent config event origin) rreq.origAddr ≠ none := by
  have heard := handles.toArrives.not_local
  obtain ⟨⟨rfl, foreign⟩, isRreq, notOwn, long, unlisted, unseen⟩ := handles
  have arrives : Arrives config (.message received) received := ⟨rfl, foreign⟩
  have notHello := Received.hello_eq_none_of_rreq isRreq
  have introduced := neighborAdd_introduced regular arrives notHello
  obtain ⟨reverse, rt, found, reversed⟩ := rreqRecorded_acts introduced
    ⟨arrives, isRreq, notOwn, long, unlisted, unseen⟩
  have later := rreqContinue_acts (reverse.regular introduced.regular)
    ⟨arrives, isRreq, notOwn, long, unlisted, unseen⟩ found reversed
  have result : handleEvent config (.message received) origin = rreqContinue config rreq received.len
      received.ttl received.ifindex (rreqReverse config rreq received.src received.ifindex
        (rreqRecordInsert rreq.origAddr rreq.rreqId
          (neighborAdd config received.src received.ifindex origin))) := by
    have passUnlisted : rreqBlacklistFind (neighborAdd config received.src received.ifindex origin)
        received.src = false := by
      unfold rreqBlacklistFind at unlisted ⊢
      rwa [introduced.records.rreqBlacklist]
    have passUnseen : rreqRecordFind (neighborAdd config received.src received.ifindex origin)
        rreq.origAddr rreq.rreqId = false := by
      unfold rreqRecordFind at unseen ⊢
      rwa [introduced.records.rreqRecords]
    show aodvSocketRead config received origin = _
    rw [aodvSocketRead, if_neg foreign, aodvSocketProcessPacket, notHello]
    dsimp only
    rw [processMsg, isRreq]
    dsimp only
    rw [rreqProcess, if_neg notOwn, if_neg (Nat.not_lt.mpr long), if_neg (by simp [passUnlisted]),
      if_neg (by simp [passUnseen])]
  rw [result]
  exact later.present (reverse.regular introduced.regular) heard (by simp [found])

/-- A RREP that passes the checks leaves an entry of its destination behind. -/
theorem HandlesRrep.present {received : Received} {rrep : Rrep} (regular : Regular config origin)
    (handles : HandlesRrep config event received rrep) :
    entryAt (handleEvent config event origin) rrep.destAddr ≠ none := by
  have heard := handles.toArrives.not_local
  obtain ⟨⟨rfl, foreign⟩, isRrep, notHello, notOwn, long⟩ := handles
  have arrives : Arrives config (.message received) received := ⟨rfl, foreign⟩
  have introduced := neighborAdd_introduced regular arrives notHello
  have handles : HandlesRrep config (.message received) received rrep :=
    ⟨arrives, isRrep, notHello, notOwn, long⟩
  obtain ⟨middle, early, there, late⟩ := rrepHandled_acts introduced handles
  have result : handleEvent config (.message received) origin = rrepProcess config rrep received.len
      received.src received.ttl received.ifindex
      (neighborAdd config received.src received.ifindex origin) := by
    show aodvSocketRead config received origin = _
    rw [aodvSocketRead, if_neg foreign, aodvSocketProcessPacket, notHello]
    dsimp only
    rw [processMsg, isRrep]
  rw [result]
  exact late.present (early.regular introduced.regular) heard there

end

/-- The routing table has no entry of an own address. -/
def NoSelfRoute (config : Config) (state : State) : Prop :=
  ∀ rt ∈ rtEntries state, rt.destAddr ∉ ownAddrs config

theorem noSelfRoute_iff {config : Config} {state : State} (sound : state.rtTbl.Sound) :
    NoSelfRoute config state ↔ ∀ address ∈ ownAddrs config, entryAt state address = none := by
  constructor
  · intro free address own
    cases found : entryAt state address with
    | none => rfl
    | some rt =>
      obtain ⟨member, dest⟩ := sound.entryAt_eq_some_iff.mp found
      exact absurd (dest ▸ own) (free rt member)
  · intro free rt member own
    exact absurd ((free rt.destAddr own).symm.trans (sound.entryAt_of_mem member)) (by simp)

theorem strays_arrive (config : Config) (input : Input) (state : State) (event : Event) :
    Strays config (arrive input state) event ↔ Strays config state event := by
  cases event <;> exact Iff.rfl

/-- An event keeps the table free of own addresses exactly if its message does not stray. -/
theorem step_noSelfRoute_iff {config : Config} {state : State} (atRest : AtRest config state)
    (input : Input)
    (named : ∀ received hello, HandlesHello config input.event received hello →
      hello.destAddr = received.src)
    (free : NoSelfRoute config state) :
    NoSelfRoute config (step config state input) ↔ ¬ Strays config state input.event := by
  have regular := (atRest.arrive input).toRegular
  rw [noSelfRoute_iff (atRest.step input).sound, ← strays_arrive config input]
  constructor
  · intro stays strays
    rcases strays.cases with ⟨received, rreq, handles, own⟩ | ⟨received, rrep, handles, own⟩
    · exact handles.present regular (stays _ own)
    · exact handles.present regular (stays _ own)
  · intro straight address own
    exact (step_handled atRest input).noSelfRoute regular own named straight
      ((noSelfRoute_iff atRest.sound).mp free address own)

/-! ### Runs of a network -/

/-- What a node receives in a step of the network does not stray. -/
def KeepsStraight {ι : Type} (site : Site ι) (node : ι) (network : Network ι) (input : NetInput ι) :
    Prop :=
  input.node = node → ∀ event ∈ input.event.event (site.config node) network,
    ¬ Strays (site.config node) (network.node node) event

instance {ι : Type} [DecidableEq ι] (site : Site ι) (node : ι) (network : Network ι)
    (input : NetInput ι) : Decidable (KeepsStraight site node network input) :=
  inferInstanceAs (Decidable (_ → _))

/-- In every run of a network a node never has a route to one of its own addresses exactly if no
RREQ or RREP about the address of another of its interfaces passes its checks. -/
theorem netRun_noSelfRoute_iff {ι : Type} [DecidableEq ι] (site : Site ι)
    (addressed : site.Addressed) (node : ι) (inputs : List (NetInput ι)) :
    (∀ count, NoSelfRoute (site.config node) ((netRun site (inputs.take count)).node node)) ↔
      Runs.Meets (netStep site) (KeepsStraight site node) (netBoot site) inputs := by
  refine Runs.forall_take_iff (Network.InOrder site)
    (fun network => NoSelfRoute (site.config node) (network.node node))
    (fun network input inOrder => inOrder.netStep addressed input) ?_ (inOrder_netBoot addressed) ?_
    inputs
  · intro network input inOrder free
    unfold netStep
    by_cases here : input.node = node
    · subst here
      have straight : ∀ event, input.event.event (site.config input.node) network = some event →
          (KeepsStraight site input.node network input ↔
            ¬ Strays (site.config input.node) (network.node input.node) event) := by
        intro event is
        unfold KeepsStraight
        rw [is]
        simp
      split
      · rename_i lost
        refine ⟨fun _ _ event is => ?_, fun _ => free⟩
        rw [lost] at is
        exact absurd is (by simp)
      · rename_i event reaches
        rw [straight event reaches, (network.advance_self site input.node _).1]
        refine step_noSelfRoute_iff (inOrder.atRest input.node) (input.input event) ?_ free
        intro received hello handles
        exact (inOrder.wired.heard (reaches.trans (congrArg some handles.event))).hello hello
          handles.isHello
    · have unchanged : ∀ event, (network.advance site input.node event).node node =
          network.node node := fun event =>
        (network.advance_other site (Ne.symm here) event).1
      split
      · exact ⟨fun _ same => absurd same here, fun _ => free⟩
      · rw [unchanged]
        exact ⟨fun _ same => absurd same here, fun _ => free⟩
  · refine (noSelfRoute_iff ((inOrder_netBoot addressed).atRest node).sound).mpr ?_
    exact fun address _ => entryAt_boot ..

/-- A relay of one interface next to a node of two interfaces. -/
inductive Neighborhood
  | relay
  | home
  deriving DecidableEq, Repr

/-- The home node has the addresses 1 and 2, the relay has 3. -/
def homeSite : Site Neighborhood where
  config
    | .relay => defaultConfig [⟨1, 3#32, 0xFFFFFFFF#32, 0xFFFFFFFF#32⟩]
    | .home => defaultConfig [⟨1, 1#32, 0xFFFFFFFF#32, 0xFFFFFFFF#32⟩,
        ⟨2, 2#32, 0xFFFFFFFF#32, 0xFFFFFFFF#32⟩]
  start _ := (⟨0, 0⟩, 0)

theorem addressed_homeSite : homeSite.Addressed where
  distinct first second address member other := by
    cases first <;> cases second <;>
      simp_all [homeSite, defaultConfig, ownAddrs]
  unicast node := by cases node <;> decide

/-- The wait on reboot ends at both nodes, the home node looks for 9, the relay receives the RREQ
of the first interface and forwards it, and the home node hears that on an interface. -/
def returningFlood (ifindex : Nat) : List (NetInput Neighborhood) :=
  [⟨.home, ⟨15, 0⟩, 0, .timers⟩, ⟨.relay, ⟨15, 0⟩, 0, .timers⟩,
    ⟨.home, ⟨15, 100000⟩, 0, .packet ⟨7#32, some ⟨40, 5, 17, 1#32, 9#32, 1000, 2000⟩, .other, 0, 1⟩⟩,
    ⟨.relay, ⟨15, 200000⟩, 0, .deliver .home 0 1⟩,
    ⟨.home, ⟨15, 300000⟩, 0, .deliver .relay 0 ifindex⟩]

theorem netRun_noSelfRoute_iff_returned :
    NoSelfRoute (homeSite.config .home)
      ((netRun homeSite ((returningFlood 1).take 5)).node .home) :=
  (netRun_noSelfRoute_iff homeSite addressed_homeSite .home (returningFlood 1)).mpr
    (by decide +kernel) 5

/-- The RREQ of the first interface returns on the second one, and the home node has a valid route
to itself. -/
theorem home_routes_to_itself :
    ∃ rt ∈ rtEntries ((netRun homeSite (returningFlood 2)).node .home),
      rt.destAddr = 1#32 ∧ 1#32 ∈ ownAddrs (homeSite.config .home) ∧ rt.state = .valid ∧
        rt.nextHop = 3#32 := by
  decide +kernel

end Aodvd
