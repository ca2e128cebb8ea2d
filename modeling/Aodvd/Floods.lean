/-
This file follows the copies of a RREQ through a network.

A RREQ leaves a node in two ways only: `rreq_send` originates it, with hop count zero and no
byte after its header, or `rreq_forward` passes a received one on, one hop further and with
one hop less to live. The second way needs a datagram that was sent before, so every copy in
flight ends a chain of hops that starts where the request was originated. Along such a chain
the hop count and the time to live add up to the time to live of the origin, so the hop count
never wraps; the forwarder writes the destination sequence number alone, and never lowers it.
-/

import Aodvd.Network

namespace Aodvd

variable {ι : Type}

/-! ### How a RREQ leaves a node -/

/-- The datagram is a RREQ that `rreq_send` has originated on an interface of the node. -/
structure Originates (config : Config) (datagram : Datagram) (rreq : Rreq) : Prop where
  msg : datagram.msg = .rreq rreq
  own : datagram.src ∈ ownAddrs config
  signed : rreq.origAddr = datagram.src
  start : rreq.hcnt = 0
  bare : rreq.ext = []
  len : datagram.len = rreqSize
  bounded : datagram.ttl < 256

/-- The datagram is the RREQ of a datagram with some time left to live, passed on by
`rreq_forward`. -/
structure Relays (parent copy : Datagram) : Prop where
  spread : 1 < parent.ttl
  ttl : copy.ttl = ((parent.ttl - 1 : Int) % 256).toNat
  len : copy.len = parent.len
  msg : ∃ rreq destSeqno, parent.msg = .rreq rreq ∧ signed rreq.destSeqno ≤ signed destSeqno ∧
    copy.msg = .rreq { rreq with hcnt := (rreq.hcnt + 1) % 256, destSeqno := destSeqno }

theorem Departs.floods {config : Config} {event : Event} {origin state : State}
    {copy : Datagram} (departs : Departs config event origin state copy) {rreq : Rreq}
    (isRreq : copy.msg = .rreq rreq) :
    (event.Local ∧ Originates config copy rreq) ∨
      ∃ received, event = .message received ∧
        Relays ⟨received.src, received.dst, received.ttl, received.len, received.msg⟩ copy := by
  cases departs with
  | report reports =>
    obtain ⟨rerr, isRerr, _⟩ := reports.deletes
    exact absurd (isRreq.symm.trans isRerr) (by simp)
  | send sender ttl listed source lifetime contents sendable =>
    have buffer := contents.symm.trans isRreq
    cases sendable with
    | request other message sends _ _ holds own start quiet bare header =>
      obtain rfl := Option.some.inj sends
      obtain rfl := AodvMsg.rreq.inj (buffer.symm.trans holds)
      have bounded : copy.ttl < 256 := by omega
      exact .inl ⟨quiet, isRreq, source ▸ mem_ownAddrs listed, own.trans source.symm, start, bare,
        header, bounded⟩
    | relay received message destSeqno _ handles _ hop holds _ _ spread newer whole =>
      subst hop
      exact .inr ⟨received, handles.event, spread, lifetime, whole, message, destSeqno,
        handles.isRreq, newer, contents.trans holds⟩
    | hello _ _ _ _ _ _ holds => exact absurd (buffer.symm.trans holds) (by simp)
    | answer _ _ _ _ _ _ holds => exact absurd (buffer.symm.trans holds) (by simp)
    | reply _ _ _ _ _ _ _ holds => exact absurd (buffer.symm.trans holds) (by simp)
    | suspect _ _ _ _ _ _ holds =>
      obtain ⟨rrep, holds⟩ | ⟨rerr, holds⟩ := holds
      · exact absurd (buffer.symm.trans holds) (by simp)
      · exact absurd (buffer.symm.trans holds) (by simp)
    | error _ holds => exact absurd (buffer.symm.trans holds) (by simp)
    | acknowledgement holds => exact absurd (buffer.symm.trans holds) (by simp)

/-- Every RREQ among the datagrams of an event is originated by the node or relays the message
of the event. -/
def Spreads (config : Config) (event : Event) (state : State) : Prop :=
  ∀ copy ∈ state.out, ∀ rreq, copy.msg = .rreq rreq →
    (event.Local ∧ Originates config copy rreq) ∨
      ∃ received, event = .message received ∧
        Relays ⟨received.src, received.dst, received.ttl, received.len, received.msg⟩ copy

section

variable {config : Config} {event : Event} {origin before after : State}

theorem Act.spreads (act : Act config event origin before after)
    (spreads : Spreads config event before) : Spreads config event after := by
  obtain ⟨sent, out, departs⟩ := act.emits
  intro copy member rreq isRreq
  rw [out] at member
  rcases List.mem_append.mp member with early | late
  · exact spreads copy early rreq isRreq
  · exact (departs copy late).floods isRreq

theorem Handled.spreads {final : State} (handled : Handled config origin event final)
    (regular : Regular config origin) (quiet : origin.out = []) : Spreads config event final := by
  refine handled.invariant_of_congr (Spreads config event) regular
    (fun _ _ _ out spreads => ?_) (fun _ _ _ act => act.spreads) ?_
  · rw [Spreads, out]
    exact spreads
  · rw [Spreads, quiet]
    exact fun _ member => absurd member List.not_mem_nil

end

theorem spreads_boot (config : Config) (now : Timeval) (jitter : Int) :
    Spreads config .timers (boot config now jitter) := by
  have acts := boot_acts config .timers (zeroState now jitter) now jitter
  exact acts.invariant (Spreads config .timers) (regular_zeroState ..)
    (fun _ _ _ act => act.spreads) fun _ member => absurd member List.not_mem_nil

/-! ### Chains of hops -/

/-- The copy was sent at the end of a chain of hops that starts with the origination of the
RREQ `first`. -/
inductive Descends (site : Site ι) (network : Network ι) (origin : Datagram) (first : Rreq) :
    Datagram → Prop
  | origin (source : ι) (sent : origin ∈ network.sent source)
      (originates : Originates (site.config source) origin first) :
      Descends site network origin first origin
  | hop (forwarder : ι) {parent copy : Datagram} (sent : copy ∈ network.sent forwarder)
      (descends : Descends site network origin first parent) (relays : Relays parent copy) :
      Descends site network origin first copy

theorem Descends.mono {site : Site ι} {early late : Network ι} {origin copy : Datagram}
    {first : Rreq} (grows : ∀ node, early.sent node ⊆ late.sent node)
    (descends : Descends site early origin first copy) :
    Descends site late origin first copy := by
  induction descends with
  | origin source sent originates => exact .origin source (grows source sent) originates
  | hop forwarder sent _ relays inductionHypothesis =>
    exact .hop forwarder (grows forwarder sent) inductionHypothesis relays

/-- The copy of a RREQ is what the origin sent, but for the hop count, which makes up for the
time it has lived, and for the destination sequence number, which may have grown. -/
structure Copies (origin : Datagram) (first : Rreq) (copy : Datagram) (rreq : Rreq) : Prop where
  hops : rreq.hcnt + copy.ttl = origin.ttl
  bounded : origin.ttl < 256
  flags : rreq.flags = first.flags
  rreqId : rreq.rreqId = first.rreqId
  destAddr : rreq.destAddr = first.destAddr
  origAddr : rreq.origAddr = first.origAddr
  origSeqno : rreq.origSeqno = first.origSeqno
  ext : rreq.ext = first.ext
  len : copy.len = origin.len
  destSeqno : signed first.destSeqno ≤ signed rreq.destSeqno

theorem Originates.copies {config : Config} {datagram : Datagram} {rreq : Rreq}
    (originates : Originates config datagram rreq) : Copies datagram rreq datagram rreq where
  hops := by rw [originates.start, Nat.zero_add]
  bounded := originates.bounded
  flags := rfl
  rreqId := rfl
  destAddr := rfl
  origAddr := rfl
  origSeqno := rfl
  ext := rfl
  len := rfl
  destSeqno := le_refl _

/-- One hop moves one unit of the time to live into the hop count. -/
theorem Copies.hop {origin parent copy : Datagram} {first rreq : Rreq} {destSeqno : Seqno}
    (copies : Copies origin first parent rreq) (spread : 1 < parent.ttl)
    (ttl : copy.ttl = ((parent.ttl - 1 : Int) % 256).toNat) (len : copy.len = parent.len)
    (newer : signed rreq.destSeqno ≤ signed destSeqno) :
    Copies origin first copy
      { rreq with hcnt := (rreq.hcnt + 1) % 256, destSeqno := destSeqno } where
  hops := by
    have hops := copies.hops
    have bounded := copies.bounded
    show (rreq.hcnt + 1) % 256 + copy.ttl = origin.ttl
    omega
  bounded := copies.bounded
  flags := copies.flags
  rreqId := copies.rreqId
  destAddr := copies.destAddr
  origAddr := copies.origAddr
  origSeqno := copies.origSeqno
  ext := copies.ext
  len := len.trans copies.len
  destSeqno := copies.destSeqno.trans newer

theorem Descends.copies {site : Site ι} {network : Network ι} {origin copy : Datagram}
    {first : Rreq} (descends : Descends site network origin first copy) :
    ∃ rreq, copy.msg = .rreq rreq ∧ Copies origin first copy rreq := by
  induction descends with
  | origin source sent originates => exact ⟨first, originates.msg, originates.copies⟩
  | hop forwarder sent _ relays inductionHypothesis =>
    obtain ⟨rreq, isRreq, copies⟩ := inductionHypothesis
    obtain ⟨message, destSeqno, parentMsg, newer, copyMsg⟩ := relays.msg
    obtain rfl := AodvMsg.rreq.inj (isRreq.symm.trans parentMsg)
    exact ⟨_, copyMsg, copies.hop relays.spread relays.ttl relays.len newer⟩

/-! ### Networks -/

/-- Every RREQ in flight descends from an origination. -/
def Flooded (site : Site ι) (network : Network ι) : Prop :=
  ∀ node, ∀ copy ∈ network.sent node, ∀ rreq, copy.msg = .rreq rreq →
    ∃ origin first, Descends site network origin first copy

theorem flooded_netBoot (site : Site ι) : Flooded site (netBoot site) := by
  intro node copy member rreq isRreq
  obtain ⟨_, originates⟩ | ⟨received, is, _⟩ := spreads_boot _ _ _ copy member rreq isRreq
  · exact ⟨copy, rreq, .origin node member originates⟩
  · exact absurd is (by simp)

theorem atRest_netBoot (site : Site ι) : (netBoot site).AtRest site :=
  fun _ => atRest_boot ..

variable [DecidableEq ι]

theorem Network.sent_advance (site : Site ι) (network : Network ι) (node : ι) (input : Input)
    (other : ι) : network.sent other ⊆ (network.advance site node input).sent other := by
  by_cases same : other = node
  · subst same
    rw [(network.advance_self site other input).2]
    exact List.subset_append_left _ _
  · rw [(network.advance_other site same input).2]
    exact fun _ member => member

/-- A datagram that a node sends on an event is among those of the step. -/
theorem Network.mem_sent_advance {site : Site ι} {network : Network ι} {node other : ι}
    {input : Input} {copy : Datagram}
    (member : copy ∈ (network.advance site node input).sent other) :
    copy ∈ network.sent other ∨
      other = node ∧ copy ∈ (Aodvd.step (site.config node) (network.node node) input).out := by
  by_cases same : other = node
  · subst same
    rw [(network.advance_self site other input).2] at member
    exact (List.mem_append.mp member).imp_right fun late => ⟨rfl, late⟩
  · rw [(network.advance_other site same input).2] at member
    exact .inl member

theorem spreads_step {config : Config} {state : State} (atRest : AtRest config state)
    (input : Input) : Spreads config input.event (step config state input) :=
  (step_handled atRest input).spreads (atRest.arrive input).toRegular rfl

theorem Flooded.netStep {site : Site ι} {network : Network ι} (flooded : Flooded site network)
    (atRest : network.AtRest site) (input : NetInput ι) :
    Flooded site (Aodvd.netStep site network input) := by
  unfold Aodvd.netStep
  split
  · exact flooded
  · rename_i event reaches
    have grows := network.sent_advance site input.node (input.input event)
    intro node copy member rreq isRreq
    rcases Network.mem_sent_advance member with early | ⟨same, late⟩
    · obtain ⟨origin, first, descends⟩ := flooded node copy early rreq isRreq
      exact ⟨origin, first, descends.mono grows⟩
    · subst same
      obtain ⟨_, originates⟩ | ⟨received, is, relays⟩ :=
        spreads_step (atRest input.node) (input.input event) copy late rreq isRreq
      · exact ⟨copy, rreq, .origin input.node member originates⟩
      · -- The relayed message is a datagram that some node has sent before.
        obtain ⟨sender, parent, sent, _, received_eq⟩ :=
          NetEvent.event_eq_message (reaches.trans (congrArg some is))
        rw [received_eq] at relays
        obtain ⟨message, _, isParent, _⟩ := relays.msg
        obtain ⟨origin, first, descends⟩ := flooded sender parent sent message isParent
        exact ⟨origin, first, .hop input.node member (descends.mono grows) relays⟩

theorem Network.AtRest.netStep {site : Site ι} {network : Network ι}
    (atRest : network.AtRest site) (input : NetInput ι) :
    (Aodvd.netStep site network input).AtRest site := by
  unfold Aodvd.netStep
  split
  · exact atRest
  · exact atRest.advance _ _

theorem atRest_netRun (site : Site ι) (inputs : List (NetInput ι)) :
    (netRun site inputs).AtRest site :=
  Runs.invariant_of_step (Network.AtRest site) (fun _ input atRest => atRest.netStep input)
    (atRest_netBoot site) inputs

theorem flooded_netRun (site : Site ι) (inputs : List (NetInput ι)) :
    Flooded site (netRun site inputs) := by
  have both : (netRun site inputs).AtRest site ∧ Flooded site (netRun site inputs) :=
    Runs.invariant_of_step (fun network => Network.AtRest site network ∧ Flooded site network)
      (fun _ input holds => ⟨holds.1.netStep input, holds.2.netStep holds.1 input⟩)
      ⟨atRest_netBoot site, flooded_netBoot site⟩ inputs
  exact both.2

/-- A node to which a datagram is delivered with a time to live of one sends no RREQ. -/
theorem netStep_sends_no_rreq {site : Site ι} {network : Network ι}
    (atRest : network.AtRest site) {input : NetInput ι} {sender : ι} {index ifindex : Nat}
    (delivers : input.event = .deliver sender index ifindex) {datagram : Datagram}
    (delivered : (network.sent sender)[index]? = some datagram) (last : datagram.ttl = 1)
    {node : ι} {copy : Datagram} (member : copy ∈ (netStep site network input).sent node)
    {rreq : Rreq} (isRreq : copy.msg = .rreq rreq) : copy ∈ network.sent node := by
  unfold netStep at member
  split at member
  · exact member
  · rename_i event reaches
    rcases Network.mem_sent_advance member with early | ⟨same, late⟩
    · exact early
    · exfalso
      rw [delivers, NetEvent.event, delivered] at reaches
      have isMessage : event = .message (datagram.received ifindex) := by
        dsimp only at reaches
        split at reaches
        · exact (Option.some.inj reaches).symm
        · exact absurd reaches (by simp)
      obtain ⟨quiet, _⟩ | ⟨received, is, relays⟩ :=
        spreads_step (atRest input.node) (input.input event) copy late rreq isRreq
      · rw [show (input.input event).event = event from rfl, isMessage] at quiet
        exact quiet
      · obtain rfl := Event.message.inj (isMessage.symm.trans is)
        have spread : 1 < datagram.ttl := relays.spread
        omega

/-- In every run of a network, every RREQ in flight descends from an origination by `rreq_send`:
it is the origin's message, except that its hop count has grown by what its time to live has
lost and that its destination sequence number may have grown. A node that receives a RREQ with
a time to live of one passes none on. -/
theorem netRun_flood (site : Site ι) (inputs : List (NetInput ι)) :
    (∀ node, ∀ copy ∈ (netRun site inputs).sent node, ∀ rreq, copy.msg = .rreq rreq →
      ∃ origin first, Descends site (netRun site inputs) origin first copy ∧
        Copies origin first copy rreq) ∧
    ∀ (input : NetInput ι) (sender : ι) (index ifindex : Nat) (datagram : Datagram),
      input.event = .deliver sender index ifindex →
      ((netRun site inputs).sent sender)[index]? = some datagram → datagram.ttl = 1 →
      ∀ node, ∀ copy ∈ (netStep site (netRun site inputs) input).sent node, ∀ rreq,
        copy.msg = .rreq rreq → copy ∈ (netRun site inputs).sent node := by
  constructor
  · intro node copy member rreq isRreq
    obtain ⟨origin, first, descends⟩ := flooded_netRun site inputs node copy member rreq isRreq
    obtain ⟨message, is, copies⟩ := descends.copies
    obtain rfl := AodvMsg.rreq.inj (isRreq.symm.trans is)
    exact ⟨origin, first, descends, copies⟩
  · intro input sender index ifindex datagram delivers delivered last node copy member rreq isRreq
    exact netStep_sends_no_rreq (atRest_netRun site inputs) delivers delivered last member isRreq

/-- The first node looks for 9, and the second node passes the request on. -/
def forwardedRequest : List (NetInput Trio) :=
  [netInputAt 15000 .first .timers, netInputAt 15000 .second .timers,
    netInputAt 15100 .first
      (.packet ⟨7#32, some ⟨40, 5, 17, 1#32, 9#32, 1000, 2000⟩, .other, 0, 1⟩),
    netInputAt 15200 .second (.deliver .first 0 1)]

/-- The request as the second node sends it. -/
def forwardedCopy : Datagram :=
  ⟨2#32, aodvBroadcast, 1, rreqSize, .rreq ⟨.none, 1, 0#32, 9#32, 0#32, 1#32, 2#32, []⟩⟩

theorem netRun_flood_forwarded :
    (∃ origin first, Descends trioSite (netRun trioSite forwardedRequest) origin first
        forwardedCopy ∧
      Copies origin first forwardedCopy ⟨.none, 1, 0#32, 9#32, 0#32, 1#32, 2#32, []⟩) ∧
    ∀ copy ∈ (netStep trioSite (netRun trioSite forwardedRequest)
        (netInputAt 15300 .third (.deliver .second 0 1))).sent .third,
      ∀ rreq, copy.msg = .rreq rreq → copy ∈ (netRun trioSite forwardedRequest).sent .third :=
  ⟨(netRun_flood trioSite forwardedRequest).1 .second forwardedCopy (by decide +kernel) _ rfl,
    (netRun_flood trioSite forwardedRequest).2 _ .second 0 1 forwardedCopy rfl (by decide +kernel)
      rfl .third⟩

end Aodvd
