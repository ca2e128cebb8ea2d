/-
This file models a network of nodes that all run the daemon.

A node is woken by its own timers, by data packets and by the link layer, or by a datagram
that another node has sent. A datagram stays deliverable for ever: it may be lost, delayed,
overtaken or, as every broadcast, received by several nodes, so a run of the network is any
interleaving of these. A node receives what is sent to the broadcast address or to one of
its own, on any of its enabled interfaces; links that come and go decide which of these
deliveries happen.
-/

import Aodvd.Datagrams

namespace Aodvd

variable {ι : Type}

/-! ### Nodes and datagrams -/

/-- A set of nodes: the options and interfaces of each, and the clock and jitter with which it
starts. -/
structure Site (ι : Type) where
  config : ι → Config
  start : ι → Timeval × Int

/-- The daemon of every node and the datagrams each has sent so far. -/
structure Network (ι : Type) where
  node : ι → State
  sent : ι → List Datagram

/-- What wakes a node up. -/
inductive NetEvent (ι : Type)
  | timers
  | packet (packet : NfPacket)
  | txDrop (ip : Addr)
  | deliver (sender : ι) (index : Nat) (ifindex : Nat)

/-- An event at a node, with the node's clock and jitter. -/
structure NetInput (ι : Type) where
  node : ι
  now : Timeval
  jitter : Int
  event : NetEvent ι

/-- A datagram can be received by a node on an interface. -/
def Reaches (config : Config) (datagram : Datagram) (ifindex : Nat) : Prop :=
  (datagram.dst = aodvBroadcast ∨ datagram.dst ∈ ownAddrs config) ∧
    (devIfindex config ifindex).isSome = true

instance (config : Config) (datagram : Datagram) (ifindex : Nat) :
    Decidable (Reaches config datagram ifindex) :=
  inferInstanceAs (Decidable (_ ∧ _))

/-- A datagram as it is received on an interface. -/
def Datagram.received (datagram : Datagram) (ifindex : Nat) : Received :=
  ⟨datagram.msg, datagram.len, datagram.src, datagram.dst, datagram.ttl, ifindex⟩

/-- The event of the daemon that an event of the network is for a node, if it reaches it. -/
def NetEvent.event (config : Config) (network : Network ι) : NetEvent ι → Option Event
  | .timers => some .timers
  | .packet queued => some (.packet queued)
  | .txDrop ip => some (.txDrop ip)
  | .deliver sender index ifindex =>
    match (network.sent sender)[index]? with
    | none => none
    | some datagram =>
      if Reaches config datagram ifindex then some (.message (datagram.received ifindex)) else none

def NetInput.input (input : NetInput ι) (event : Event) : Input :=
  ⟨input.now, input.jitter, event⟩

def netBoot (site : Site ι) : Network ι where
  node node := boot (site.config node) (site.start node).1 (site.start node).2
  sent node := (boot (site.config node) (site.start node).1 (site.start node).2).out

/-- A received message is a datagram that some node has sent. -/
theorem NetEvent.event_eq_message {config : Config} {network : Network ι} {event : NetEvent ι}
    {received : Received} (is : event.event config network = some (.message received)) :
    ∃ sender, ∃ datagram ∈ network.sent sender, Reaches config datagram received.ifindex ∧
      received = datagram.received received.ifindex := by
  cases event with
  | timers => exact absurd is (by simp [NetEvent.event])
  | packet queued => exact absurd is (by simp [NetEvent.event])
  | txDrop ip => exact absurd is (by simp [NetEvent.event])
  | deliver sender index ifindex =>
    rw [NetEvent.event] at is
    split at is
    · exact absurd is (by simp)
    · rename_i datagram found
      split at is
      · rename_i reaches
        obtain rfl := Event.message.inj (Option.some.inj is)
        exact ⟨sender, datagram, List.mem_of_getElem? found, reaches, rfl⟩
      · exact absurd is (by simp)

/-! ### Addresses -/

/-- No two nodes share an address, and none has the broadcast address. -/
structure Site.Addressed (site : Site ι) : Prop where
  distinct : ∀ first second address, address ∈ ownAddrs (site.config first) →
    address ∈ ownAddrs (site.config second) → first = second
  unicast : ∀ node, aodvBroadcast ∉ ownAddrs (site.config node)

/-- The address belongs to a node. -/
def Site.Named (site : Site ι) (address : Addr) : Prop :=
  ∃ node, address ∈ ownAddrs (site.config node)

/-- The datagram comes from a node, and if it looks like a HELLO, it names its source. -/
structure Site.Signed (site : Site ι) (node : ι) (datagram : Datagram) : Prop where
  source : datagram.src ∈ ownAddrs (site.config node)
  hello : ∀ ifindex rrep, (datagram.received ifindex).hello = some rrep →
    rrep.destAddr = datagram.src

/-- A received message comes from a node, and if it is a HELLO, it names its source. -/
structure Site.Heard (site : Site ι) (received : Received) : Prop where
  source : site.Named received.src
  hello : ∀ hello, received.hello = some hello → hello.destAddr = received.src

section

variable {site : Site ι} {node : ι} {config : Config} {event : Event} {origin before after : State}

theorem Offered.next {found : Option RtEntry} {offer : Offer}
    (offered : Offered config event origin before found offer) :
    ∃ received, event = .message received ∧ (offer.next = received.src ∨
      ∃ hello, received.hello = some hello ∧ offer.next = hello.destAddr) := by
  cases offered with
  | neighbor received arrives => exact ⟨received, arrives.event, .inl rfl⟩
  | hello received hello handles =>
    exact ⟨received, handles.event, .inr ⟨hello, handles.isHello, rfl⟩⟩
  | rreq received rreq handles => exact ⟨received, handles.event, .inl rfl⟩
  | rrep received rrep handles => exact ⟨received, handles.event, .inl rfl⟩

/-- The next hop that an offer brings is the source of a message. -/
theorem Site.named_next {next : Addr}
    (heard : ∀ received, event = .message received → site.Heard received)
    (offered : ∃ received, event = .message received ∧ (next = received.src ∨
      ∃ hello, received.hello = some hello ∧ next = hello.destAddr)) : site.Named next := by
  obtain ⟨received, is, source | ⟨hello, isHello, dest⟩⟩ := offered
  · exact source ▸ (heard received is).source
  · rw [dest, (heard received is).hello hello isHello]
    exact (heard received is).source

theorem EntryChange.named {dest : Addr} {old new : Option RtEntry}
    (change : EntryChange config event origin before dest old new)
    (heard : ∀ received, event = .message received → site.Heard received)
    (named : ∀ rt, old = some rt → site.Named rt.nextHop) (rt : RtEntry) (is : new = some rt) :
    site.Named rt.nextHop := by
  cases change with
  | absent => exact named rt is
  | keep same =>
    obtain rfl := Option.some.inj is
    exact same.nextHop ▸ named _ rfl
  | mark same =>
    obtain rfl := Option.some.inj is
    exact same.nextHop ▸ named _ rfl
  | insert offer here cause =>
    obtain rfl := Option.some.inj is
    exact site.named_next heard cause.offered.next
  | update offer here cause adopted =>
    obtain rfl := Option.some.inj is
    exact adopted.nextHop ▸ site.named_next heard cause.offered.next
  | retire retired =>
    obtain rfl := Option.some.inj is
    exact retired.nextHop ▸ named _ rfl
  | @error rt _ received message seqno handles listed valid through same =>
    obtain rfl := Option.some.inj is
    have kept : _ = rt.nextHop := same.nextHop
    exact kept ▸ named rt rfl
  | delete => exact absurd is (by simp)

/-- A datagram that goes to the next hop of a route is no HELLO. -/
theorem Departs.signed {datagram : Datagram}
    (departs : Departs (site.config node) event origin before datagram) (addressed : site.Addressed)
    (named : ∀ dest rt, entryAt before dest = some rt → site.Named rt.nextHop) :
    site.Signed node datagram := by
  refine ⟨departs.source, fun ifindex rrep isHello => ?_⟩
  have broadcast : datagram.dst = aodvBroadcast := by
    unfold Received.hello at isHello
    split at isHello
    · by_contra other
      rw [if_neg fun both => other both.2] at isHello
      exact absurd isHello (by simp)
    · exact absurd isHello (by simp)
  have holds : datagram.msg = .rrep rrep := by
    unfold Received.hello at isHello
    split at isHello
    · rename_i message is
      split at isHello
      · exact is.trans (congrArg _ (Option.some.inj isHello))
      · exact absurd isHello (by simp)
    · exact absurd isHello (by simp)
  have noHop : ∀ dest rt, entryAt before dest = some rt → datagram.dst ≠ rt.nextHop := by
    intro dest rt found same
    obtain ⟨other, member⟩ := named dest rt found
    exact addressed.unicast other (broadcast ▸ same ▸ member)
  cases departs with
  | report reports =>
    obtain ⟨rerr, isRerr, _⟩ := reports.deletes
    exact absurd (holds.symm.trans isRerr) (by simp)
  | send sender ttl listed source lifetime contents sendable =>
    have buffer := contents.symm.trans holds
    cases sendable with
    | hello other message sends _ _ _ holds own =>
      obtain rfl := Option.some.inj sends
      obtain rfl := AodvMsg.rrep.inj (buffer.symm.trans holds)
      rw [own, source]
    | request _ _ _ _ _ holds => exact absurd (buffer.symm.trans holds) (by simp)
    | relay _ _ _ _ _ _ _ holds => exact absurd (buffer.symm.trans holds) (by simp)
    | answer revDest revRt _ revFound along => exact absurd along (noHop revDest revRt revFound)
    | reply revDest revRt _ _ revFound along => exact absurd along (noHop revDest revRt revFound)
    | suspect revDest revRt _ revFound along => exact absurd along (noHop revDest revRt revFound)
    | error _ holds => exact absurd (buffer.symm.trans holds) (by simp)
    | acknowledgement holds => exact absurd (buffer.symm.trans holds) (by simp)

end

/-! ### Wired networks -/

/-- Datagrams are signed, and next hops are nodes. -/
structure Wired (site : Site ι) (network : Network ι) : Prop where
  signed : ∀ node, ∀ datagram ∈ network.sent node, site.Signed node datagram
  named : ∀ node dest rt, entryAt (network.node node) dest = some rt → site.Named rt.nextHop

/-- What a message is when it is received in a wired network. -/
theorem Wired.heard {site : Site ι} {network : Network ι} (wired : Wired site network)
    {config : Config} {event : NetEvent ι} {received : Received}
    (is : event.event config network = some (.message received)) : site.Heard received := by
  obtain ⟨sender, datagram, member, _, received_eq⟩ := NetEvent.event_eq_message is
  have signed := wired.signed sender datagram member
  rw [received_eq]
  exact ⟨⟨sender, signed.source⟩, signed.hello _⟩

/-- The node's part of a wired network, while it handles an event. -/
structure Site.Orderly (site : Site ι) (node : ι) (state : State) : Prop where
  named : ∀ dest rt, entryAt state dest = some rt → site.Named rt.nextHop
  signed : ∀ datagram ∈ state.out, site.Signed node datagram

theorem Act.orderly {site : Site ι} {node : ι} {event : Event} {origin before after : State}
    (act : Act (site.config node) event origin before after) (sound : before.rtTbl.Sound)
    (addressed : site.Addressed)
    (heard : ∀ received, event = .message received → site.Heard received)
    (orderly : site.Orderly node before) : site.Orderly node after where
  named dest := (act.entryChange sound dest).named heard (orderly.named dest)
  signed := by
    obtain ⟨sent, out, departs⟩ := act.emits
    intro datagram member
    rw [out] at member
    rcases List.mem_append.mp member with early | late
    · exact orderly.signed datagram early
    · exact (departs datagram late).signed addressed orderly.named

theorem Site.Orderly.congr {site : Site ι} {node : ι} {first second : State}
    (orderly : site.Orderly node first) (rtTbl : second.rtTbl = first.rtTbl)
    (out : second.out = first.out) : site.Orderly node second where
  named dest rt found := orderly.named dest rt (by rwa [entryAt, rtTbl] at found)
  signed := out ▸ orderly.signed

theorem Handled.orderly {site : Site ι} {node : ι} {event : Event} {origin final : State}
    (handled : Handled (site.config node) origin event final)
    (regular : Regular (site.config node) origin) (addressed : site.Addressed)
    (heard : ∀ received, event = .message received → site.Heard received)
    (orderly : site.Orderly node origin) : site.Orderly node final :=
  handled.invariant_of_congr (site.Orderly node) regular
    (fun _ _ rtTbl out orderly => orderly.congr rtTbl out)
    (fun _ _ regular act => act.orderly regular.sound addressed heard) orderly

theorem orderly_boot {site : Site ι} (addressed : site.Addressed) (node : ι) (now : Timeval)
    (jitter : Int) : site.Orderly node (boot (site.config node) now jitter) := by
  have acts := boot_acts (site.config node) .timers (zeroState now jitter) now jitter
  refine acts.invariant (site.Orderly node) (regular_zeroState ..)
    (fun _ _ regular act => act.orderly regular.sound addressed
      fun _ is => absurd is (by simp)) ⟨fun dest rt found => ?_, fun _ member => ?_⟩
  · have empty : entryAt (zeroState now jitter) dest = none := rfl
    exact absurd (empty.symm.trans found) (by simp)
  · exact absurd member List.not_mem_nil

theorem wired_netBoot {site : Site ι} (addressed : site.Addressed) : Wired site (netBoot site) where
  signed node := (orderly_boot addressed node ..).signed
  named node := (orderly_boot addressed node ..).named

/-- Every node is between two events. -/
def Network.AtRest (site : Site ι) (network : Network ι) : Prop :=
  ∀ node, Aodvd.AtRest (site.config node) (network.node node)

/-- A network between two events. -/
structure Network.InOrder (site : Site ι) (network : Network ι) : Prop where
  atRest : network.AtRest site
  wired : Wired site network

theorem inOrder_netBoot {site : Site ι} (addressed : site.Addressed) :
    (netBoot site).InOrder site :=
  ⟨fun _ => atRest_boot .., wired_netBoot addressed⟩

/-! ### Runs -/

variable [DecidableEq ι]

/-- A node handles an event, and what it sends is on its way. -/
def Network.advance (site : Site ι) (network : Network ι) (node : ι) (input : Input) : Network ι :=
  let state := step (site.config node) (network.node node) input
  { node := Function.update network.node node state
    sent := Function.update network.sent node (network.sent node ++ state.out) }

def netStep (site : Site ι) (network : Network ι) (input : NetInput ι) : Network ι :=
  match input.event.event (site.config input.node) network with
  | none => network
  | some event => network.advance site input.node (input.input event)

def netRun (site : Site ι) (inputs : List (NetInput ι)) : Network ι :=
  inputs.foldl (netStep site) (netBoot site)

theorem Network.advance_self (site : Site ι) (network : Network ι) (node : ι) (input : Input) :
    (network.advance site node input).node node =
        step (site.config node) (network.node node) input ∧
      (network.advance site node input).sent node =
        network.sent node ++ (step (site.config node) (network.node node) input).out :=
  ⟨Function.update_self .., Function.update_self ..⟩

theorem Network.advance_other (site : Site ι) (network : Network ι) {node other : ι}
    (different : other ≠ node) (input : Input) :
    (network.advance site node input).node other = network.node other ∧
      (network.advance site node input).sent other = network.sent other :=
  ⟨Function.update_of_ne different .., Function.update_of_ne different ..⟩

theorem Network.AtRest.advance {site : Site ι} {network : Network ι} (atRest : network.AtRest site)
    (node : ι) (input : Input) : (network.advance site node input).AtRest site := by
  intro other
  by_cases same : other = node
  · subst same
    rw [(network.advance_self site other input).1]
    exact (atRest other).step input
  · rw [(network.advance_other site same input).1]
    exact atRest other

/-! ### Every network is in order -/

theorem Wired.advance {site : Site ι} {network : Network ι} (wired : Wired site network)
    (atRest : network.AtRest site) (addressed : site.Addressed) {node : ι} (input : Input)
    (heard : ∀ received, input.event = .message received → site.Heard received) :
    Wired site (network.advance site node input) := by
  have start : site.Orderly node (arrive input (network.node node)) :=
    ⟨wired.named node, fun _ member => absurd member List.not_mem_nil⟩
  have orderly := (step_handled (atRest node) input).orderly ((atRest node).arrive input).toRegular
    addressed heard start
  obtain ⟨nodeEq, sentEq⟩ := network.advance_self site node input
  constructor
  · intro other datagram member
    by_cases same : other = node
    · subst same
      rw [sentEq] at member
      rcases List.mem_append.mp member with early | late
      · exact wired.signed other datagram early
      · exact orderly.signed datagram late
    · rw [(network.advance_other site same input).2] at member
      exact wired.signed other datagram member
  · intro other dest rt found
    by_cases same : other = node
    · subst same
      rw [nodeEq] at found
      exact orderly.named dest rt found
    · rw [(network.advance_other site same input).1] at found
      exact wired.named other dest rt found

theorem Network.InOrder.netStep {site : Site ι} {network : Network ι}
    (inOrder : network.InOrder site) (addressed : site.Addressed) (input : NetInput ι) :
    (Aodvd.netStep site network input).InOrder site := by
  unfold Aodvd.netStep
  split
  · exact inOrder
  · rename_i event reaches
    refine ⟨inOrder.atRest.advance _ _,
      inOrder.wired.advance inOrder.atRest addressed (input.input event) fun received is => ?_⟩
    exact inOrder.wired.heard (reaches.trans (congrArg some is))

/-- In every run of a network each node is at rest between two events, signs its datagrams, and
routes over nodes. -/
theorem inOrder_netRun {site : Site ι} (addressed : site.Addressed) (inputs : List (NetInput ι)) :
    (netRun site inputs).InOrder site :=
  Runs.invariant_of_step (Network.InOrder site)
    (fun _ input inOrder => inOrder.netStep addressed input) (inOrder_netBoot addressed) inputs

/-! ### A small network -/

/-- A node of one interface whose subnet is its own address. -/
def nodeConfig (address : Addr) : Config :=
  defaultConfig [⟨1, address, 0xFFFFFFFF#32, 0xFFFFFFFF#32⟩]

/-- The nodes of a network of three. -/
inductive Trio
  | first
  | second
  | third
  deriving DecidableEq

instance : Fintype Trio :=
  ⟨{.first, .second, .third}, fun node => by cases node <;> decide⟩

def Trio.address : Trio → Addr
  | .first => 1#32
  | .second => 2#32
  | .third => 3#32

/-- Three nodes with the addresses 1, 2 and 3. -/
def trioSite : Site Trio where
  config node := nodeConfig node.address
  start _ := (⟨0, 0⟩, 0)

/-- An event at a node, at a time given in milliseconds. -/
def netInputAt (msec : Int) (node : ι) (event : NetEvent ι) : NetInput ι :=
  ⟨node, ⟨msec / 1000, msec % 1000 * 1000⟩, 0, event⟩

end Aodvd
