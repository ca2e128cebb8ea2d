/-
This file says once what the daemon can do while it handles an event.

An action is one operation on the routing tables, the timers, the seek list or the packet
queue, or one datagram handed to a socket, together with what the handler that performs it
has checked before. Every handler is a chain of actions, which the next file proves; an
invariant is then proved action by action. The handlers' checks are recorded against the
state in which the event arrived, its origin, and against the state the action starts
from.
-/

import Aodvd.RerrDrafts
import Aodvd.TableRules

namespace Aodvd

variable {config : Config} {event : Event} {origin state before after : State} {offer : Offer}
  (rt : RtEntry)

/-! ### What a message meets -/

/-- Two entries agree on the route: on everything but HELLO counts, precursors and the cached
hash. -/
structure SameRoute (first second : RtEntry) : Prop where
  destAddr : first.destAddr = second.destAddr
  destSeqno : first.destSeqno = second.destSeqno
  ifindex : first.ifindex = second.ifindex
  nextHop : first.nextHop = second.nextHop
  hcnt : first.hcnt = second.hcnt
  flags : first.flags = second.flags
  state : first.state = second.state

theorem SameRoute.refl : SameRoute rt rt := ⟨rfl, rfl, rfl, rfl, rfl, rfl, rfl⟩

theorem SameRoute.trans {first second third : RtEntry} (early : SameRoute first second)
    (late : SameRoute second third) : SameRoute first third :=
  ⟨early.destAddr.trans late.destAddr, early.destSeqno.trans late.destSeqno,
    early.ifindex.trans late.ifindex, early.nextHop.trans late.nextHop, early.hcnt.trans late.hcnt,
    early.flags.trans late.flags, early.state.trans late.state⟩

theorem rreqAccepts_congr (rreq : Rreq) {first second : RtEntry} (same : SameRoute first second) :
    rreqAccepts rreq first = rreqAccepts rreq second := by
  unfold rreqAccepts
  rw [same.destSeqno, same.state, same.hcnt]

theorem rrepAccepts_congr (rrep : Rrep) {first second : RtEntry} (same : SameRoute first second) :
    rrepAccepts rrep first = rrepAccepts rrep second := by
  unfold rrepAccepts
  rw [same.destSeqno, same.state, same.hcnt, same.flags]

/-- The entry of the source of a control message once `neighbor_add` has seen it. -/
def RtEntry.refreshed (source : Addr) (rt : RtEntry) : RtEntry :=
  if rt.flags.unidir then rt
  else { rt with
    state := .valid
    hcnt := 1
    nextHop := source
    flags := if rt.state = .invalid then { rt.flags with repair := false } else rt.flags }

/-- The entry a control message meets when its own handler starts. -/
def metEntry (config : Config) (origin : State) (received : Received) (dest : Addr) :
    Option RtEntry :=
  if dest = received.src then
    some (match entryAt origin dest with
      | none => (neighborOffer config received.src received.ifindex 0#32 .none).entry
      | some rt => rt.refreshed received.src)
  else entryAt origin dest

/-- The event is not a control message. -/
def Event.Local : Event → Prop
  | .message _ => False
  | _ => True

/-- The event is a datagram of another node. -/
structure Arrives (config : Config) (event : Event) (received : Received) : Prop where
  event : event = .message received
  foreign : received.src ∉ ownAddrs config

theorem Arrives.not_local {received : Received} (arrives : Arrives config event received) :
    ¬ event.Local := by
  rw [arrives.event]
  exact id

structure HandlesHello (config : Config) (event : Event) (received : Received) (hello : Rrep) :
    Prop extends Arrives config event received where
  isHello : received.hello = some hello

/-- A RREQ passes the checks at the head of `rreq_process`. -/
structure HandlesRreq (config : Config) (event : Event) (origin : State) (received : Received)
    (rreq : Rreq) : Prop extends Arrives config event received where
  isRreq : received.msg = .rreq rreq
  notOwn : rreq.origAddr ≠ ipaddrOf config received.ifindex
  long : rreqSize ≤ received.len
  unlisted : rreqBlacklistFind origin received.src = false
  unseen : rreqRecordFind origin rreq.origAddr rreq.rreqId = false

/-- A RREP passes the checks at the head of `rrep_process`. -/
structure HandlesRrep (config : Config) (event : Event) (received : Received) (rrep : Rrep) :
    Prop extends Arrives config event received where
  isRrep : received.msg = .rrep rrep
  notHello : received.hello = none
  notOwn : rrep.destAddr ≠ ipaddrOf config received.ifindex
  long : rrepSize ≤ received.len

/-- A RERR passes the check at the head of `rerr_process`. -/
structure HandlesRerr (config : Config) (event : Event) (received : Received) (rerr : Rerr) :
    Prop extends Arrives config event received where
  isRerr : received.msg = .rerr rerr
  long : rerrCalcSize rerr.destCount ≤ received.len

/-! ### The causes of a route -/

/-- The source of a message has a neighbour entry, unless links may be unidirectional. -/
def Ready (config : Config) (state : State) (source : Addr) : Prop :=
  config.unidirHack = true ∨
    ∃ rt, entryAt state source = some rt ∧ rt.state = .valid ∧ rt.hcnt = 1 ∧ rt.nextHop = source

/-- Why `rt_table_insert` is called. -/
inductive Inserts (config : Config) (event : Event) (origin state : State) : Offer → Prop
  | neighbor (received : Received) (arrives : Arrives config event received)
      (notHello : received.hello = none) (unmet : entryAt origin received.src = none) :
      Inserts config event origin state
        (neighborOffer config received.src received.ifindex 0#32 .none)
  | hello (received : Received) (hello : Rrep) (handles : HandlesHello config event received hello)
      (unmet : entryAt origin hello.destAddr = none) :
      Inserts config event origin state
        (helloOffer hello (helloRead config hello received.len received.ifindex none)
          (if config.receiveNHellos ≠ 0 then .invalid else .valid) received.ifindex)
  | rreq (received : Received) (rreq : Rreq) (handles : HandlesRreq config event origin received rreq)
      (ready : Ready config state received.src)
      (unmet : metEntry config origin received rreq.origAddr = none) :
      Inserts config event origin state (rreqOffer rreq received.src received.ifindex .none)
  | rrep (received : Received) (rrep : Rrep) (handles : HandlesRrep config event received rrep)
      (ready : Ready config state received.src)
      (unmet : metEntry config origin received rrep.destAddr = none) :
      Inserts config event origin state (rrepOffer rrep received.src received.ifindex .none)

/-- A HELLO renews the entry of its sender, unless it only confirms a longer route over a
unidirectional link or more HELLOs are asked for. -/
def HelloRenews (config : Config) (flags : RtFlags) (rt : RtEntry) : Prop :=
  ¬ (flags.unidir = true ∧ rt.state = .valid ∧ 1 < rt.hcnt) ∧
    ¬ (config.receiveNHellos ≠ 0 ∧ rt.helloCnt + 1 < config.receiveNHellos)

instance (config : Config) (flags : RtFlags) (rt : RtEntry) :
    Decidable (HelloRenews config flags rt) :=
  inferInstanceAs (Decidable (_ ∧ _))

/-- Why `rt_table_update` is called on an entry. -/
inductive Updates (config : Config) (event : Event) (origin state : State) (rt : RtEntry) :
    Offer → Prop
  | neighbor (received : Received) (arrives : Arrives config event received)
      (notHello : received.hello = none) (met : entryAt origin received.src = some rt)
      (bidirectional : rt.flags.unidir = false) :
      Updates config event origin state rt
        (neighborOffer config received.src received.ifindex rt.destSeqno rt.flags)
  | hello (received : Received) (hello : Rrep) (handles : HandlesHello config event received hello)
      (met : entryAt origin hello.destAddr = some rt)
      (renews : HelloRenews config
        (helloRead config hello received.len received.ifindex (some rt)).1 rt) :
      Updates config event origin state rt
        (helloOffer hello (helloRead config hello received.len received.ifindex (some rt)) .valid
          received.ifindex)
  | rreq (received : Received) (rreq : Rreq) (handles : HandlesRreq config event origin received rreq)
      (ready : Ready config state received.src) (met : RtEntry)
      (meets : metEntry config origin received rreq.origAddr = some met) (same : SameRoute rt met)
      (accepts : rreqAccepts rreq rt = true) :
      Updates config event origin state rt (rreqOffer rreq received.src received.ifindex rt.flags)
  | rrep (received : Received) (rrep : Rrep) (handles : HandlesRrep config event received rrep)
      (ready : Ready config state received.src) (met : RtEntry)
      (meets : metEntry config origin received rrep.destAddr = some met) (same : SameRoute rt met)
      (accepts : rrepAccepts rrep rt = true) :
      Updates config event origin state rt (rrepOffer rrep received.src received.ifindex rt.flags)

/-- An offer of `rt_table_update` always makes the entry valid. -/
theorem Updates.valid {rt : RtEntry} (cause : Updates config event origin state rt offer) :
    offer.state = .valid := by
  cases cause <;> rfl

/-- The route that a message offers, whether it meets an entry or not. -/
inductive Offered (config : Config) (event : Event) (origin state : State)
    (found : Option RtEntry) : Offer → Prop
  | neighbor (received : Received) (arrives : Arrives config event received)
      (notHello : received.hello = none) (met : entryAt origin received.src = found)
      (bidirectional : ∀ rt, found = some rt → rt.flags.unidir = false) :
      Offered config event origin state found (neighborOffer config received.src received.ifindex
        ((found.map RtEntry.destSeqno).getD 0#32) ((found.map RtEntry.flags).getD .none))
  | hello (received : Received) (hello : Rrep) (handles : HandlesHello config event received hello)
      (routeState : RouteState) (met : entryAt origin hello.destAddr = found)
      (single : found = none → routeState = .valid → config.receiveNHellos = 0)
      (renews : ∀ rt, found = some rt → HelloRenews config
        (helloRead config hello received.len received.ifindex found).1 rt) :
      Offered config event origin state found (helloOffer hello
        (helloRead config hello received.len received.ifindex found) routeState received.ifindex)
  | rreq (received : Received) (rreq : Rreq) (handles : HandlesRreq config event origin received rreq)
      (ready : Ready config state received.src)
      (takes : ∀ met, metEntry config origin received rreq.origAddr = some met →
        rreqAccepts rreq met = true) :
      Offered config event origin state found
        (rreqOffer rreq received.src received.ifindex ((found.map RtEntry.flags).getD .none))
  | rrep (received : Received) (rrep : Rrep) (handles : HandlesRrep config event received rrep)
      (ready : Ready config state received.src)
      (takes : ∀ met, metEntry config origin received rrep.destAddr = some met →
        rrepAccepts rrep met = true) :
      Offered config event origin state found
        (rrepOffer rrep received.src received.ifindex ((found.map RtEntry.flags).getD .none))

theorem Inserts.offered (cause : Inserts config event origin state offer) :
    Offered config event origin state none offer := by
  cases cause with
  | neighbor received arrives notHello unmet =>
    exact .neighbor received arrives notHello unmet (by simp)
  | hello received hello handles unmet =>
    exact .hello received hello handles _ unmet (by simp) (by simp)
  | rreq received rreq handles ready unmet =>
    exact .rreq received rreq handles ready fun met meets => by simp [unmet] at meets
  | rrep received rrep handles ready unmet =>
    exact .rrep received rrep handles ready fun met meets => by simp [unmet] at meets

theorem Updates.offered {rt : RtEntry} (cause : Updates config event origin state rt offer) :
    Offered config event origin state (some rt) offer := by
  cases cause with
  | neighbor received arrives notHello met bidirectional =>
    exact .neighbor received arrives notHello met (by simpa using bidirectional)
  | hello received hello handles met renews =>
    exact .hello received hello handles _ met (by simp) (by simpa using renews)
  | rreq received rreq handles ready met meets same accepts =>
    refine .rreq received rreq handles ready fun other there => ?_
    exact Option.some.inj (meets.symm.trans there) ▸ rreqAccepts_congr rreq same ▸ accepts
  | rrep received rrep handles ready met meets same accepts =>
    refine .rrep received rrep handles ready fun other there => ?_
    exact Option.some.inj (meets.symm.trans there) ▸ rrepAccepts_congr rrep same ▸ accepts

theorem Offered.arrives {found : Option RtEntry}
    (offered : Offered config event origin state found offer) :
    ∃ received, Arrives config event received := by
  cases offered with
  | neighbor received arrives => exact ⟨received, arrives⟩
  | hello received hello handles => exact ⟨received, handles.toArrives⟩
  | rreq received rreq handles => exact ⟨received, handles.toArrives⟩
  | rrep received rrep handles => exact ⟨received, handles.toArrives⟩

/-! ### The causes of a datagram -/

/-- A route that a RREP may be about: a valid one, or the reverse route of a RREQ that asks for
a gratuitous reply and was not taken over. -/
def Advertisable (config : Config) (event : Event) (origin : State) (rt : RtEntry) : Prop :=
  rt.state = .valid ∨ ∃ received rreq met, HandlesRreq config event origin received rreq ∧
    rreq.flags.gratuitous = true ∧ rt.destAddr = rreq.origAddr ∧
    metEntry config origin received rreq.origAddr = some met ∧ SameRoute rt met ∧
    rreqAccepts rreq met = false

/-- The event is a RREQ or RREP that passes the checks of its handler. -/
inductive Replies (config : Config) (event : Event) (origin : State) : Prop
  | rreq (received : Received) (rreq : Rreq) (handles : HandlesRreq config event origin received rreq)
  | rrep (received : Received) (rrep : Rrep) (handles : HandlesRrep config event received rrep)

/-- What the send buffer holds when `aodv_socket_send` is called, where it goes and how much of it
is sent. Links that may be unidirectional are set apart: there a RERR can be assembled over the
message. -/
inductive Sendable (config : Config) (event : Event) (origin state : State) (dst : Addr) (len : Nat)
    (ttl : Int) (dev : Option Dev) : Prop
  | hello (sender : Dev) (rrep : Rrep) (sends : dev = some sender) (listed : sender ∈ config.devs)
      (broadcast : dst = aodvBroadcast) (single : ttl = 1) (buffer : state.sendBuf = .rrep rrep)
      (own : rrep.destAddr = sender.ipaddr) (start : rrep.hcnt = 0)
  | request (sender : Dev) (rreq : Rreq) (sends : dev = some sender) (listed : sender ∈ config.devs)
      (broadcast : dst = aodvBroadcast) (buffer : state.sendBuf = .rreq rreq)
      (own : rreq.origAddr = sender.ipaddr) (start : rreq.hcnt = 0) (quiet : event.Local)
      (bare : rreq.ext = []) (header : len = rreqSize)
  | relay (received : Received) (rreq : Rreq) (destSeqno : Seqno) (rt : RtEntry)
      (handles : HandlesRreq config event origin received rreq) (broadcast : dst = aodvBroadcast)
      (hop : ttl = received.ttl - 1)
      (buffer : state.sendBuf =
        .rreq { rreq with hcnt := (rreq.hcnt + 1) % 256, destSeqno := destSeqno })
      (found : entryAt state rreq.origAddr = some rt)
      (settled : rreqAccepts rreq rt = true → rreq.origSeqno = 0#32) (spread : 1 < received.ttl)
      (newer : signed rreq.destSeqno ≤ signed destSeqno) (whole : len = received.len)
  | answer (revDest : Addr) (revRt : RtEntry) (rrep : Rrep)
      (revFound : entryAt state revDest = some revRt) (along : dst = revRt.nextHop)
      (sends : dev = devIfindex config revRt.ifindex) (buffer : state.sendBuf = .rrep rrep)
      (own : rrep.destAddr = ipaddrOf config revRt.ifindex) (start : rrep.hcnt = 0)
  | reply (revDest : Addr) (revRt rt : RtEntry) (rrep : Rrep)
      (revFound : entryAt state revDest = some revRt) (along : dst = revRt.nextHop)
      (sends : dev = devIfindex config revRt.ifindex) (buffer : state.sendBuf = .rrep rrep)
      (found : entryAt state rrep.destAddr = some rt) (hcnt : rrep.hcnt = rt.hcnt)
      (destSeqno : rrep.destSeqno = rt.destSeqno)
      (fresh : Advertisable config event origin rt) (heard : Replies config event origin)
  | suspect (revDest : Addr) (revRt : RtEntry) (hack : config.unidirHack = true)
      (revFound : entryAt state revDest = some revRt) (along : dst = revRt.nextHop)
      (sends : dev = devIfindex config revRt.ifindex)
      (buffer : (∃ rrep, state.sendBuf = .rrep rrep) ∨ ∃ rerr, state.sendBuf = .rerr rerr)
  | error (rerr : Rerr) (buffer : state.sendBuf = .rerr rerr)
      (kept : rerr.noDelete = true →
        (∃ received message, HandlesRerr config event received message ∧ message.noDelete = true) ∨
          ∃ dest rt, entryAt origin dest = some rt ∧ rt.flags.repair = true)
  | acknowledgement (buffer : state.sendBuf = .rrepAck)

/-- Sending does not take the cause of the next datagram away. -/
theorem Sendable.of_aside {dst : Addr} {len : Nat} {ttl : Int} {dev : Option Dev}
    (sendable : Sendable config event origin before dst len ttl dev) (aside : Aside before after)
    (buffer : after.sendBuf = before.sendBuf) :
    Sendable config event origin after dst len ttl dev := by
  have entries := aside.entryAt
  cases sendable with
  | hello sender rrep sends listed broadcast single holds own start =>
    exact .hello sender rrep sends listed broadcast single (buffer.trans holds) own start
  | request sender rreq sends listed broadcast holds own start quiet bare header =>
    exact .request sender rreq sends listed broadcast (buffer.trans holds) own start quiet bare header
  | relay received rreq destSeqno rt handles broadcast hop holds found settled spread newer whole =>
    exact .relay received rreq destSeqno rt handles broadcast hop (buffer.trans holds)
      ((entries _).trans found) settled spread newer whole
  | answer revDest revRt rrep revFound along sends holds own start =>
    exact .answer revDest revRt rrep ((entries _).trans revFound) along sends (buffer.trans holds)
      own start
  | reply revDest revRt rt rrep revFound along sends holds found hcnt destSeqno fresh heard =>
    exact .reply revDest revRt rt rrep ((entries _).trans revFound) along sends
      (buffer.trans holds) ((entries _).trans found) hcnt destSeqno fresh heard
  | suspect revDest revRt hack revFound along sends holds =>
    exact .suspect revDest revRt hack ((entries _).trans revFound) along sends (by rwa [buffer])
  | error rerr holds kept => exact .error rerr (buffer.trans holds) kept
  | acknowledgement holds => exact .acknowledgement (buffer.trans holds)

/-! ### Actions -/

/-- A change of an entry that leaves the route and its flags alone. -/
structure Touch (change : RtEntry → RtEntry) : Prop extends Cosmetic change where
  flags : ∀ rt, (change rt).flags = rt.flags

theorem Touch.sameRoute {change : RtEntry → RtEntry} (touch : Touch change) (rt : RtEntry) :
    SameRoute (change rt) rt :=
  ⟨touch.dest rt, touch.destSeqno rt, touch.ifindex rt, touch.nextHop rt, touch.hcnt rt,
    touch.flags rt, touch.state rt⟩

/-- The state after the first timer of the batch has been detached. -/
def popTimer (id : TimerId) (rest : List TimerId) (state : State) : State :=
  { state with timers := timerPop id rest state.timers }

/-- A discovery is running for a destination. -/
def Sought (state : State) (dest : Addr) : Prop := ∃ entry ∈ state.seekhead, entry.destAddr = dest

/-- A timer that may be detached without more: one outside the seek list, or one whose discovery
is over. -/
def TimerId.Calm (state : State) : TimerId → Prop
  | .seekTimer dest => ¬ Sought state dest
  | _ => True

/-- One operation on the routing tables, with what was checked before it. -/
inductive RouteAct (config : Config) (event : Event) (origin : State) : State → State → Prop
  | touch (state : State) (dest : Addr) {change : RtEntry → RtEntry} (touch : Touch change) :
      RouteAct config event origin state (setEntry dest change state)
  | insert (state : State) (offer : Offer) (fresh : entryAt state offer.dest = none)
      (cause : Inserts config event origin state offer) :
      RouteAct config event origin state (rtTableInsert config offer state).1
  | update (state : State) (offer : Offer) (rt : RtEntry) (found : entryAt state offer.dest = some rt)
      (cause : Updates config event origin state rt offer) :
      RouteAct config event origin state (rtTableUpdate config offer state)
  | linkBreak (state : State) (dest : Addr) (quiet : event.Local) :
      RouteAct config event origin state (neighborLinkBreak config dest state)
  | unidirBreak (state : State) (dest : Addr) (hack : config.unidirHack = true)
      (received : Received) (rreq : Rreq)
      (handles : HandlesRreq config event origin received rreq) :
      RouteAct config event origin state
        (neighborLinkBreak config dest (setEntry dest RtEntry.markUnidir state))
  | helloBreak (state : State) (dest : Addr) (rest : List TimerId)
      (batch : state.timers.expTq = .helloTimer dest :: rest) (due : event = .timers) :
      RouteAct config event origin state
        (helloTimeout config dest (popTimer (.helloTimer dest) rest state))
  | expire (state : State) (dest : Addr) (rt : RtEntry) (found : entryAt state dest = some rt)
      (far : rt.hcnt ≠ 1) (due : event = .timers) :
      RouteAct config event origin state (rtTableInvalidate config dest state)
  | error (state : State) (received : Received) (message : Rerr) (dest : Addr) (seqno : Seqno)
      (rt : RtEntry) (handles : HandlesRerr config event received message)
      (listed : (dest, seqno) ∈ message.udest.take message.destCount)
      (found : entryAt state dest = some rt) (valid : rt.state = .valid)
      (through : rt.nextHop = received.src) :
      RouteAct config event origin state (rerrInvalidate config message.noDelete dest seqno state)
  | delete (state : State) (dest : Addr)
      (handler : (state.timers.timer (.rtTimer dest)).handler = some .routeDeleteTimeout)
      (due : event = .timers) :
      RouteAct config event origin state (rtTableDelete dest state)
  | repair (state : State) (dest : Addr) (rt : RtEntry) (found : entryAt state dest = some rt)
      (cause : rt.flags.repair = true ∨
        (state.timers.timer (.rtTimer dest)).handler = some .localRepairTimeout)
      (due : event = .timers) :
      RouteAct config event origin state (localRepairTimeout config dest state)

/-- One action of the daemon, with what was checked before it. -/
inductive Act (config : Config) (event : Event) (origin : State) : State → State → Prop
  | aside {before after : State} (aside : Aside before after) (out : after.out = before.out) :
      Act config event origin before after
  | timer {before after : State} (act : TimerAct before after) : Act config event origin before after
  | pop (state : State) (id : TimerId) (rest : List TimerId)
      (batch : state.timers.expTq = id :: rest) (calm : id.Calm state) (due : event = .timers) :
      Act config event origin state (popTimer id rest state)
  | record (state : State) (origAddr : Addr) (rreqId : BitVec 32) :
      Act config event origin state (rreqRecordInsert origAddr rreqId state)
  | forget (state : State) (origAddr : Addr) (rreqId : BitVec 32)
      (unused : timerUsed state (.recTimer origAddr rreqId) = false) :
      Act config event origin state (rreqRecordTimeout origAddr rreqId state)
  | blacklist (state : State) (dest : Addr) :
      Act config event origin state (rreqBlacklistInsert dest state)
  | pardon (state : State) (dest : Addr) (unused : timerUsed state (.blTimer dest) = false) :
      Act config event origin state (rreqBlacklistTimeout dest state)
  | send (state : State) (dst : Addr) (len : Nat) (ttl : Int) (dev : Option Dev)
      (sendable : Sendable config event origin state dst len ttl dev)
      (listed : ∀ sender, dev = some sender → sender ∈ config.devs) :
      Act config event origin state (aodvSocketSend config dst len ttl dev state)
  | route {before after : State} (act : RouteAct config event origin before after) :
      Act config event origin before after
  | undertake (state : State) (dest : Addr) (quiet : event.Local) :
      Act config event origin state (setHandler (.rtTimer dest) .routeExpireTimeout state)
  | hear (state : State) (dest : Addr) (msec : Int) (heard : event ≠ .timers) (rt : RtEntry)
      (found : entryAt state dest = some rt) (near : rt.hcnt = 1 ∨ config.unidirHack = true)
      (timely : Timely state msec) :
      Act config event origin state (setTimeout (.helloTimer dest) msec state)
  | seek (state : State) (dest : Addr) (destSeqno : Seqno) (ttl : Nat) (flags : RreqFlags)
      (msec : Int) (fresh : seekListFind state dest = none)
      (needed : unroutable (entryAt state dest) = true) (timely : Timely state msec)
      (quiet : event.Local) :
      Act config event origin state
        (setTimeout (.seekTimer dest) msec (seekListInsert dest destSeqno ttl flags state))
  | retry (state : State) (entry : SeekEntry) (rest : List TimerId) (msec : Int)
      (batch : state.timers.expTq = .seekTimer entry.destAddr :: rest)
      (found : seekListFind state entry.destAddr = some entry) (due : event = .timers)
      (timely : Timely state msec) :
      Act config event origin state
        (setTimeout (.seekTimer entry.destAddr) msec
          (setSeekEntry entry.destAddr (seekRetry config)
            (popTimer (.seekTimer entry.destAddr) rest state)))
  | giveUp (state : State) (entry : SeekEntry) (rest : List TimerId)
      (batch : state.timers.expTq = .seekTimer entry.destAddr :: rest)
      (found : seekListFind state entry.destAddr = some entry) (due : event = .timers) :
      Act config event origin state
        (seekListRemove entry.destAddr
          (packetQueueDrop entry.destAddr (popTimer (.seekTimer entry.destAddr) rest state)))
  | collect (state : State) : Act config event origin state (packetQueueGarbageCollect state)
  | log (state : State) :
      Act config event origin state (setTimeout .rtLogTimer config.rtLogInterval state)

/-- An action is an operation on the routing tables or leaves both of them alone. -/
theorem Act.route_or_same (act : Act config event origin before after) :
    RouteAct config event origin before after ∨
      after.rtTbl = before.rtTbl ∧ after.kernel = before.kernel := by
  cases act with
  | aside aside => exact .inr ⟨aside.rtTbl, aside.kernel⟩
  | timer act =>
    obtain ⟨timers, rfl⟩ := act.same
    exact .inr ⟨rfl, rfl⟩
  | pop => exact .inr ⟨rfl, rfl⟩
  | record origAddr rreqId =>
    unfold rreqRecordInsert
    split <;> exact .inr ⟨rfl, rfl⟩
  | forget => exact .inr ⟨rfl, rfl⟩
  | blacklist dest =>
    unfold rreqBlacklistInsert
    split <;> exact .inr ⟨rfl, rfl⟩
  | pardon => exact .inr ⟨rfl, rfl⟩
  | send =>
    have aside := aside_aodvSocketSend config
    exact .inr ⟨(aside ..).rtTbl, (aside ..).kernel⟩
  | route act => exact .inl act
  | undertake => exact .inr ⟨rfl, rfl⟩
  | hear => exact .inr ⟨rfl, rfl⟩
  | seek => exact .inr ⟨rfl, rfl⟩
  | retry => exact .inr ⟨rfl, rfl⟩
  | giveUp => exact .inr ⟨rfl, rfl⟩
  | collect => exact .inr ⟨rfl, rfl⟩
  | log => exact .inr ⟨rfl, rfl⟩

/-- A chain of actions. -/
abbrev Acts (config : Config) (event : Event) (origin : State) : State → State → Prop :=
  Relation.ReflTransGen (Act config event origin)

theorem Acts.of_timerActs (acts : TimerActs before after) : Acts config event origin before after :=
  Relation.ReflTransGen.mono (fun _ _ act => Act.timer act) _ _ acts

/-! ### Regular states -/

/-- The table is sound, and no entry is marked unidirectional unless the option asks for it. -/
structure Regular (config : Config) (state : State) : Prop where
  sound : state.rtTbl.Sound
  bidirectional : config.unidirHack = false →
    ∀ dest rt, entryAt state dest = some rt → rt.flags.unidir = false

theorem Regular.of_rtTbl (regular : Regular config before) (rtTbl : after.rtTbl = before.rtTbl) :
    Regular config after where
  sound := rtTbl ▸ regular.sound
  bidirectional hack dest rt found := by
    refine regular.bidirectional hack dest rt ?_
    rw [← found, entryAt, entryAt, rtTbl]

/-- A write in place keeps a state regular if it marks no link. -/
theorem Regular.setEntry (regular : Regular config state) {change : RtEntry → RtEntry}
    (gentle : Gentle change) (dest : Addr)
    (unidir : ∀ rt, (change rt).flags.unidir = rt.flags.unidir) :
    Regular config (Aodvd.setEntry dest change state) where
  sound := regular.sound.setEntry gentle dest
  bidirectional hack other rt found := by
    rw [entryAt_setEntry gentle.dest] at found
    split at found
    · obtain ⟨old, oldFound, rfl⟩ := Option.map_eq_some_iff.mp found
      rw [unidir]
      exact regular.bidirectional hack dest old oldFound
    · exact regular.bidirectional hack other rt found

theorem Regular.rtTableInvalidate (regular : Regular config state) (dest : Addr) :
    Regular config (Aodvd.rtTableInvalidate config dest state) where
  sound := regular.sound.rtTableInvalidate config dest
  bidirectional hack other rt found := by
    rw [entryAt_rtTableInvalidate] at found
    split at found
    · obtain ⟨old, oldFound, rfl⟩ := Option.map_eq_some_iff.mp found
      unfold RtEntry.retired
      split
      · exact regular.bidirectional hack dest old oldFound
      · exact regular.bidirectional hack dest old oldFound
    · exact regular.bidirectional hack other rt found

theorem RtEntry.cut_unidir (neighbor : Addr) (repair : Bool) (dest : Addr) (rt : RtEntry) :
    (rt.cut neighbor repair dest).flags.unidir = rt.flags.unidir := by
  unfold RtEntry.cut RtEntry.retired
  repeat' split
  all_goals rfl

theorem BreakActs.regular (acts : BreakActs config before after) (regular : Regular config before) :
    Regular config after := by
  induction acts with
  | refl => exact regular
  | tail _ last inductionHypothesis =>
    cases last with
    | report act => exact inductionHypothesis.of_rtTbl act.aside.rtTbl
    | rewrite dest cosmetic flags =>
      refine inductionHypothesis.setEntry cosmetic.toGentle dest fun rt => ?_
      rcases flags rt with same | marked
      · rw [same]
      · rw [marked]
    | invalidate dest => exact inductionHypothesis.rtTableInvalidate dest

theorem Regular.rtTableInsert (regular : Regular config state)
    (fresh : entryAt state offer.dest = none)
    (unmarked : config.unidirHack = false → offer.flags.unidir = false) :
    Regular config (Aodvd.rtTableInsert config offer state).1 where
  sound := regular.sound.rtTableInsert config offer
  bidirectional hack other rt found := by
    rw [entryAt_rtTableInsert config offer fresh] at found
    split at found
    · obtain rfl := Option.some.inj found
      exact unmarked hack
    · exact regular.bidirectional hack other rt found

theorem updateFlags_unidir (offer : Offer) :
    (updateFlags rt offer).unidir = offer.flags.unidir := by
  unfold updateFlags
  split <;> rfl

theorem Regular.rtTableUpdate (regular : Regular config state) {rt : RtEntry}
    (found : entryAt state offer.dest = some rt)
    (unmarked : config.unidirHack = false → offer.flags.unidir = false) :
    Regular config (Aodvd.rtTableUpdate config offer state) where
  sound := regular.sound.rtTableUpdate config offer
  bidirectional hack other updated updatedFound := by
    by_cases same : other = offer.dest
    · subst same
      obtain ⟨base, baseFound, _⟩ := entryAt_rtTableUpdate_self config offer regular.sound found
      obtain rfl := Option.some.inj (updatedFound.symm.trans baseFound)
      show (updateFlags rt offer).unidir = false
      rw [updateFlags_unidir]
      exact unmarked hack
    · rw [entryAt_rtTableUpdate_other config offer regular.sound found same] at updatedFound
      split at updatedFound
      · obtain ⟨old, oldFound, rfl⟩ := Option.map_eq_some_iff.mp updatedFound
        rw [RtEntry.cut_unidir]
        exact regular.bidirectional hack other old oldFound
      · exact regular.bidirectional hack other updated updatedFound

theorem Regular.rtTableDelete (regular : Regular config state) (dest : Addr) :
    Regular config (Aodvd.rtTableDelete dest state) where
  sound := regular.sound.rtTableDelete dest
  bidirectional hack other rt found := by
    rw [entryAt_rtTableDelete] at found
    split at found
    · exact absurd found (by simp)
    · exact regular.bidirectional hack other rt found

/-! ### Actions keep states regular -/

/-- The extensions of a HELLO can only clear the mark of a unidirectional link. -/
theorem helloExtensions_flags (own : Addr) (fuel remaining : Nat) (bytes : List (BitVec 8))
    (found : RtFlags × BitVec 32) :
    (helloExtensions own fuel remaining bytes found).1 = found.1 ∨
      (helloExtensions own fuel remaining bytes found).1 = { found.1 with unidir := false } := by
  induction fuel generalizing remaining bytes found with
  | zero => exact .inl rfl
  | succ fuel inductionHypothesis =>
    unfold helloExtensions
    split
    · exact .inl rfl
    · dsimp only
      split
      · split
        · exact inductionHypothesis _ _ _
        · exact inductionHypothesis _ _ _
      · split
        · split
          · exact .inr ((inductionHypothesis _ _ _).elim id id)
          · exact inductionHypothesis _ _ _
        · exact .inl rfl

/-- The flags a HELLO gives its neighbour: those of the entry, with a mark only if the option
asks for it. -/
theorem helloRead_flags (config : Config) (hello : Rrep) (len ifindex : Nat)
    (found : Option RtEntry) :
    (helloRead config hello len ifindex found).1.repair =
        ((found.map RtEntry.flags).getD .none).repair ∧
      (helloRead config hello len ifindex found).1.inetDest =
        ((found.map RtEntry.flags).getD .none).inetDest ∧
      (config.unidirHack = false → ((found.map RtEntry.flags).getD .none).unidir = false →
        (helloRead config hello len ifindex found).1.unidir = false) := by
  unfold helloRead
  dsimp only
  rcases helloExtensions_flags (ipaddrOf config ifindex) len len hello.ext
    (if config.unidirHack then { (found.map RtEntry.flags).getD .none with unidir := true }
      else (found.map RtEntry.flags).getD .none, BitVec.ofNat 32 helloInterval) with kept | cleared
  · rw [kept]
    refine ⟨?_, ?_, fun hack unmarked => ?_⟩
    · dsimp only
      split <;> rfl
    · dsimp only
      split <;> rfl
    · simp only [hack, Bool.false_eq_true, if_false, unmarked]
  · rw [cleared]
    refine ⟨?_, ?_, fun _ _ => rfl⟩
    · dsimp only
      split <;> rfl
    · dsimp only
      split <;> rfl

section

variable {found : Option RtEntry} (offered : Offered config event origin state found offer)

include offered

theorem Offered.unmarked (hack : config.unidirHack = false)
    (unmarked : ((found.map RtEntry.flags).getD .none).unidir = false) :
    offer.flags.unidir = false := by
  cases offered with
  | hello received hello => exact (helloRead_flags config hello _ _ found).2.2 hack unmarked
  | _ => exact unmarked

theorem Offered.repair : offer.flags.repair = ((found.map RtEntry.flags).getD .none).repair := by
  cases offered with
  | hello received hello => exact (helloRead_flags config hello _ _ found).1
  | _ => rfl

theorem Offered.inetDest :
    offer.flags.inetDest = ((found.map RtEntry.flags).getD .none).inetDest := by
  cases offered with
  | hello received hello => exact (helloRead_flags config hello _ _ found).2.1
  | _ => rfl

end

theorem touch_precursorListDestroy : Touch RtEntry.precursorListDestroy :=
  ⟨cosmetic_precursorListDestroy, fun _ => rfl⟩

theorem Regular.localRepairTimeout (regular : Regular config state) (dest : Addr) :
    Regular config (Aodvd.localRepairTimeout config dest state) := by
  cases found : entryAt state dest with
  | none =>
    unfold Aodvd.localRepairTimeout
    rw [found]
    exact regular
  | some rt =>
    obtain ⟨reported, aside, result⟩ := localRepairTimeout_of_some config found
    rw [result]
    have unmarked : Regular config (Aodvd.setEntry dest RtEntry.unmarkRepair state) :=
      regular.setEntry cosmetic_unmarkRepair.toGentle dest fun _ => rfl
    have noted : Regular config reported := unmarked.of_rtTbl aside.rtTbl
    exact (noted.setEntry gentle_precursorListDestroy dest fun _ => rfl).of_rtTbl rfl

theorem Regular.rerrInvalidate (regular : Regular config state) (noDelete : Bool) (dest : Addr)
    (seqno : Seqno) : Regular config (Aodvd.rerrInvalidate config noDelete dest seqno state) := by
  refine Regular.setEntry ?_ (gentle_setSeqno seqno) dest fun _ => rfl
  split
  · exact regular
  · exact regular.rtTableInvalidate dest

theorem RouteAct.regular (act : RouteAct config event origin before after)
    (regular : Regular config before) : Regular config after := by
  cases act with
  | touch dest touch =>
    exact regular.setEntry touch.toGentle dest fun rt => congrArg RtFlags.unidir (touch.flags rt)
  | insert offer fresh cause =>
    exact regular.rtTableInsert fresh fun hack => cause.offered.unmarked hack rfl
  | update offer rt found cause =>
    exact regular.rtTableUpdate found fun hack =>
      cause.offered.unmarked hack (regular.bidirectional hack _ rt found)
  | linkBreak dest => exact (neighborLinkBreak_acts config dest before).regular regular
  | unidirBreak dest hack =>
    have marked : Regular config (setEntry dest RtEntry.markUnidir before) :=
      ⟨regular.sound.setEntry cosmetic_markUnidir.toGentle dest,
        fun off => absurd (off.symm.trans hack) (by simp)⟩
    exact (neighborLinkBreak_acts config dest _).regular marked
  | helloBreak dest rest =>
    have popped : Regular config (popTimer (.helloTimer dest) rest before) := regular.of_rtTbl rfl
    exact (helloTimeout_breaks config dest _).regular popped
  | expire dest => exact regular.rtTableInvalidate dest
  | error received message dest seqno => exact regular.rerrInvalidate message.noDelete dest seqno
  | delete dest => exact regular.rtTableDelete dest
  | repair dest => exact regular.localRepairTimeout dest

theorem Act.regular (act : Act config event origin before after) (regular : Regular config before) :
    Regular config after := by
  rcases act.route_or_same with act | ⟨rtTbl, _⟩
  · exact act.regular regular
  · exact regular.of_rtTbl rtTbl

theorem Acts.regular (acts : Acts config event origin before after)
    (regular : Regular config before) : Regular config after := by
  induction acts with
  | refl => exact regular
  | tail _ last inductionHypothesis => exact last.regular inductionHypothesis

/-! ### Releases -/

/-- The packets of a destination are released after both routing tables have been written and
the entry of the destination is valid. -/
def Releases (config : Config) (before after : State) (dest : Addr) : Prop :=
  ∃ routed rt, RoutesOnly before routed ∧ routed.rtTbl.Sound ∧ entryAt routed dest = some rt ∧
    rt.state = .valid ∧ after = releaseBuffered config dest routed

theorem releases_rtTableInsert (config : Config) (sound : state.rtTbl.Sound)
    (fresh : entryAt state offer.dest = none) (comesUp : offer.state = .valid) :
    Releases config state (rtTableInsert config offer state).1 offer.dest := by
  have inserted := entryAt_rtTableInsert config offer fresh offer.dest
  have routedSound := sound.rtTableInsert config offer
  rw [if_pos rfl, entryAt, (rtTbl_rtTableInsert config offer fresh).1] at inserted
  rw [(rtTbl_rtTableInsert config offer fresh).1] at routedSound
  refine ⟨_, _, (tableRule_routesOnly config state).insertRoute (by constructor <;> rfl),
    routedSound, inserted, comesUp, ?_⟩
  rw [rtTableInsert_of_none config offer fresh]
  exact if_pos comesUp

theorem releases_rtTableUpdate (config : Config) (sound : state.rtTbl.Sound) {rt : RtEntry}
    (found : entryAt state offer.dest = some rt) (comesUp : offer.state = .valid) :
    Releases config state (rtTableUpdate config offer state) offer.dest := by
  obtain ⟨base, updated, _⟩ := entryAt_rtTableUpdate_self config offer sound found
  rw [entryAt, rtTbl_rtTableUpdate config offer found] at updated
  refine ⟨_, _, (tableRule_routesOnly config state).updateRoute (.refl _) rt offer,
    sound.updateRoute config rt offer, updated, comesUp, ?_⟩
  unfold rtTableUpdate
  rw [found]
  exact if_pos comesUp

/-- An operation on the routing tables leaves the buffers alone, or releases packets at its
end. -/
theorem RouteAct.routesOnly_or_releases (act : RouteAct config event origin before after)
    (sound : before.rtTbl.Sound) :
    RoutesOnly before after ∨ ∃ found offer, Offered config event origin before found offer ∧
      offer.state = .valid ∧ Releases config before after offer.dest := by
  have rule := tableRule_routesOnly config before
  have start := RoutesOnly.refl before
  cases act with
  | touch dest => exact .inl (by constructor <;> rfl)
  | insert offer fresh cause =>
    by_cases comesUp : offer.state = .valid
    · exact .inr ⟨none, offer, cause.offered, comesUp,
        releases_rtTableInsert config sound fresh comesUp⟩
    · rw [rtTableInsert_of_none config offer fresh]
      dsimp only
      rw [if_neg comesUp]
      exact .inl (rule.insertRoute (by constructor <;> rfl))
  | update offer rt found cause =>
    exact .inr ⟨some rt, offer, cause.offered, cause.valid,
      releases_rtTableUpdate config sound found cause.valid⟩
  | linkBreak dest => exact .inl (rule.neighborLinkBreak start dest)
  | unidirBreak dest =>
    exact .inl (rule.neighborLinkBreak (rule.cosmetic start dest cosmetic_markUnidir) dest)
  | helloBreak dest rest => exact .inl (rule.helloTimeout (by constructor <;> rfl) dest)
  | expire dest => exact .inl (rule.rtTableInvalidate start dest)
  | error received message dest seqno => exact .inl (rule.rerrInvalidate start _ dest seqno)
  | delete dest => exact .inl (rule.rtTableDelete start dest)
  | repair dest => exact .inl (rule.localRepairTimeout start (.inr trivial))

/-! ### Rules -/

/-- An operation on the routing tables keeps what its writes keep. A new entry and the detached
HELLO timer of a neighbour are the two writes that depend on more than the state. -/
theorem ReleaseRule.routeAct {bold : Prop} {property : State → Prop}
    (rule : ReleaseRule config bold property) (act : RouteAct config event origin before after)
    (holds : property before)
    (insert : ∀ offer, entryAt before offer.dest = none → property (newEntry offer before))
    (pop : event = .timers → ∀ dest rest, before.timers.expTq = .helloTimer dest :: rest →
      property (popTimer (.helloTimer dest) rest before))
    (repair : ∀ dest rt, entryAt before dest = some rt → (rt.flags.repair = true ∨
      rtHandler before dest = some .localRepairTimeout) → ¬ ValidAt before dest ∨ bold) :
    property after := by
  cases act with
  | touch dest touch => exact rule.cosmetic holds dest touch.toCosmetic
  | insert offer fresh => exact rule.rtTableInsert (insert offer fresh) fresh
  | update offer => exact rule.rtTableUpdate holds offer
  | linkBreak dest => exact rule.neighborLinkBreak holds dest
  | unidirBreak dest =>
    exact rule.neighborLinkBreak (rule.cosmetic holds dest cosmetic_markUnidir) dest
  | helloBreak dest rest batch due => exact rule.helloTimeout (pop due dest rest batch) dest
  | expire dest => exact rule.rtTableInvalidate holds dest
  | error received message dest seqno => exact rule.rerrInvalidate holds message.noDelete dest seqno
  | delete dest => exact rule.rtTableDelete holds dest
  | repair dest rt found cause => exact rule.localRepairTimeout holds (repair dest rt found cause)

end Aodvd
