/-
This file asks when the lifetimes that the daemon computes are the numbers they stand for.

Three lifetimes are computed in 32 bits without a look at their range. The life of a reverse route
is a difference that a large hop count makes negative; the life that an intermediate node puts in a
RREP is what its own route has left, which is negative when the timer of the route is overdue; and
the life of a neighbour is a multiple of the interval that its HELLO carries. Where the exact number
is negative or does not fit, the route lives for weeks, or expires at once.
-/

import Aodvd.ReverseRoutes

namespace Aodvd

/-! ### Lifetimes -/

/-- The milliseconds that the route to a destination has left. -/
def routeLeft (state : State) (dest : Addr) : Int :=
  timevalDiff (timerTimeoutOf state (.rtTimer dest)) state.now

/-- The interval that a HELLO carries, or the default one. -/
def carriedInterval (config : Config) (hello : Rrep) (received : Received) (state : State) :
    BitVec 32 :=
  (helloRead config hello received.len received.ifindex (rtTableFind state hello.destAddr)).2

/-- The lifetimes that the handling of an event computes are exact, and zero where the exact one is
negative. -/
structure LifetimesExact (config : Config) (event : Event) (state : State) : Prop where
  reverse : ∀ received rreq, HandlesRreq config event state received rreq →
    (reverseLife (rreq.hcnt + 1) : Int) =
      max 0 ((pathDiscoveryTime : Int) - 2 * (rreq.hcnt + 1) * nodeTraversalTime)
  reply : ∀ received rreq fwdRt, HandlesRreq config event state received rreq →
    RepliesFrom config rreq received.ifindex (reversedState config received rreq state) fwdRt →
      (remainingLife (reversedState config received rreq state) fwdRt.destAddr : Int) =
        max 0 (routeLeft (reversedState config received rreq state) fwdRt.destAddr)
  hello : ∀ received hello, HandlesHello config event received hello →
    helloLifetime (carriedInterval config hello received state) =
      allowedHelloLoss * (carriedInterval config hello received state).toNat + routeTimeoutSlack

/-- A time difference that is its own remainder, or a whole multiple of the modulus below zero. -/
def Unwrapped (msec : Int) : Prop := 0 ≤ msec ∧ msec < 2 ^ 32 ∨ msec < 0 ∧ msec % 2 ^ 32 = 0

/-- The hop count of a RREQ is small, the timer of the route from which a RREQ is answered is not
overdue, and the interval of a HELLO is not too long. The RREQ itself may renew the routes to its
sender and to its originator, so the timers of these two are looked at when it has. -/
structure LifetimesFit (config : Config) (event : Event) (state : State) : Prop where
  reverse : ∀ received rreq, HandlesRreq config event state received rreq →
    2 * (rreq.hcnt + 1) * nodeTraversalTime ≤ pathDiscoveryTime
  reply : ∀ received rreq fwdRt, HandlesRreq config event state received rreq →
    RepliesFrom config rreq received.ifindex (reversedState config received rreq state) fwdRt →
      rreq.destAddr ≠ received.src → rreq.destAddr ≠ rreq.origAddr →
      Unwrapped (routeLeft state rreq.destAddr)
  replyNear : ∀ received rreq fwdRt, HandlesRreq config event state received rreq →
    RepliesFrom config rreq received.ifindex (reversedState config received rreq state) fwdRt →
      rreq.destAddr = received.src ∨ rreq.destAddr = rreq.origAddr →
      Unwrapped (routeLeft (reversedState config received rreq state) rreq.destAddr)
  hello : ∀ received hello, HandlesHello config event received hello →
    allowedHelloLoss * (carriedInterval config hello received state).toNat + routeTimeoutSlack <
      2 ^ 32

/-- Thirty-two bits of a difference are the difference, or zero for a negative one. -/
theorem toNat_emod_eq_iff (msec : Int) :
    ((msec % 2 ^ 32).toNat : Int) = max 0 msec ↔ Unwrapped msec := by
  unfold Unwrapped
  omega

theorem reverseLife_exact_iff {hcnt : Nat} (eightBits : hcnt < 256) :
    (reverseLife (hcnt + 1) : Int) =
        max 0 ((pathDiscoveryTime : Int) - 2 * (hcnt + 1) * nodeTraversalTime) ↔
      2 * (hcnt + 1) * nodeTraversalTime ≤ pathDiscoveryTime := by
  have discovery : pathDiscoveryTime = 5600 := rfl
  have traversal : nodeTraversalTime = 40 := rfl
  have cast : ((hcnt + 1 : Nat) : Int) = hcnt + 1 := rfl
  rw [reverseLife, cast, toNat_emod_eq_iff, Unwrapped]
  generalize pathDiscoveryTime = period at discovery
  rw [traversal]
  omega

theorem remainingLife_exact_iff (state : State) (dest : Addr) :
    (remainingLife state dest : Int) = max 0 (routeLeft state dest) ↔
      Unwrapped (routeLeft state dest) :=
  toNat_emod_eq_iff (routeLeft state dest)

theorem helloLifetime_exact_iff (interval : BitVec 32) :
    helloLifetime interval = allowedHelloLoss * interval.toNat + routeTimeoutSlack ↔
      allowedHelloLoss * interval.toNat + routeTimeoutSlack < 2 ^ 32 := by
  unfold helloLifetime
  omega

/-! ### What a reply says -/

/-- The datagram is a RREP with a property, a HELLO, or no RREP. -/
def Datagram.Tells (config : Config) (property : Rrep → Prop) (datagram : Datagram) : Prop :=
  ∀ rrep, datagram.msg = .rrep rrep → property rrep ∨
    ∃ current numbered, datagram = helloDatagram config current numbered

/-- The datagram is a RREP with a lifetime, a HELLO, or no RREP. -/
def Datagram.Lasts (config : Config) (lifetime : Int) : Datagram → Prop :=
  Datagram.Tells config fun rrep => (rrep.lifetime : Int) = lifetime

section

variable {config : Config} {state : State}

theorem Datagram.tells_of_rerr {datagram : Datagram} {rerr : Rerr} (property : Rrep → Prop)
    (isRerr : datagram.msg = .rerr rerr) : datagram.Tells config property :=
  fun _ isRrep => AodvMsg.noConfusion (isRrep.symm.trans isRerr)

theorem Reports.tells {datagram : Datagram} (reports : Reports config datagram)
    (property : Rrep → Prop) : datagram.Tells config property := by
  obtain ⟨rerr, isRerr, _⟩ := reports.deletes
  exact Datagram.tells_of_rerr property isRerr

theorem emits_rrepSend_tells (revDest : Addr) (fwdDest : Option Addr) (size : Nat)
    (sound : state.rtTbl.Sound) {rrep : Rrep} (holds : state.sendBuf = .rrep rrep)
    {property : Rrep → Prop} (has : property rrep) :
    Emits (Datagram.Tells config property) state (rrepSend config revDest fwdDest size state) := by
  refine emits_rrepSend revDest fwdDest size sound holds ?_ ?_ ?_
  · exact fun datagram rerr isRerr => Datagram.tells_of_rerr property isRerr
  · intro datagram carries other isRrep
    obtain rfl := AodvMsg.rrep.inj (carries.symm.trans isRrep)
    exact .inl has
  · intro current numbered _ _
    exact .inr ⟨current, numbered, rfl⟩

/-- A RREP that is created leaves with its lifetime. -/
theorem emits_rrepCreate_rrepSend (config : Config) (revDest : Addr) (fwdDest : Option Addr)
    (hcnt : Nat) (dest : Addr) (seqno : Seqno) (orig : Addr) (lifetime : Nat)
    (sound : state.rtTbl.Sound) :
    Emits (Datagram.Lasts config lifetime) state (rrepSend config revDest fwdDest rrepSize
      (rrepCreate hcnt dest seqno orig lifetime state)) := by
  have created : (rrepCreate hcnt dest seqno orig lifetime state).rtTbl.Sound := sound
  have out : (rrepCreate hcnt dest seqno orig lifetime state).out = state.out := rfl
  refine .trans (.of_out out) ?_
  exact emits_rrepSend_tells revDest fwdDest rrepSize created rfl rfl

/-- Both replies of an intermediate node carry what its route has left. -/
theorem emits_rreqReply (rreq : Rreq) (fwdRt : RtEntry) (sound : state.rtTbl.Sound) :
    Emits (Datagram.Lasts config (remainingLife state fwdRt.destAddr)) state
      (rreqReply config rreq fwdRt state) := by
  unfold rreqReply
  dsimp only
  generalize remainingLife state fwdRt.destAddr = lifetime
  have replied := emits_rrepCreate_rrepSend config rreq.origAddr (some fwdRt.destAddr)
    fwdRt.hcnt fwdRt.destAddr fwdRt.destSeqno rreq.origAddr lifetime sound
  have created : (rrepCreate fwdRt.hcnt fwdRt.destAddr fwdRt.destSeqno rreq.origAddr lifetime
    state).rtTbl.Sound := sound
  have repliedSound := created.rrepSend config rreq.origAddr (some fwdRt.destAddr) rrepSize
  split
  · refine replied.trans ?_
    unfold rreqGratuitousReply
    split
    · exact emits_rrepCreate_rrepSend _ _ _ _ _ _ _ _ repliedSound
    · exact .refl _ _
  · exact replied

end

/-! ### Events -/

theorem emits_neighborAdd (config : Config) (source : Addr) (ifindex : Nat) {state : State}
    (sound : state.rtTbl.Sound) :
    Emits (Reports config) state (neighborAdd config source ifindex state) := by
  have heard (met : State) : (neighborHeard config source met).out = met.out := by
    unfold neighborHeard
    split
    · rfl
    · rfl
  unfold neighborAdd
  rw [rtTableFind_eq_entryAt sound]
  cases found : entryAt state source with
  | none =>
    have fresh : entryAt state (neighborOffer config source ifindex 0#32 .none).dest = none := found
    exact .of_out ((heard _).trans (out_rtTableInsert config fresh))
  | some rt =>
    dsimp only
    split
    · exact .refl _ _
    · exact (emits_rtTableUpdate ..).trans (.of_out (heard _))

section

variable {config : Config} {event : Event} {state : State} {received : Received} {rreq : Rreq}

/-- The RREPs that leave when an intermediate node answers a RREQ carry what its route has left. -/
theorem emits_handleEvent (handles : HandlesRreq config event state received rreq)
    (regular : Regular config state) {fwdRt : RtEntry}
    (replies : RepliesFrom config rreq received.ifindex (reversedState config received rreq state)
      fwdRt) :
    Emits (Datagram.Lasts config
        (remainingLife (reversedState config received rreq state) fwdRt.destAddr)) state
      (handleEvent config event state) := by
  have notHello := Received.hello_eq_none_of_rreq handles.isRreq
  have arrives : Arrives config (.message received) received := ⟨rfl, handles.foreign⟩
  have metSound := (neighborAdd_introduced regular arrives notHello).regular.sound
  have reversal := reversal_rreqReverse config metSound rreq received.src received.ifindex
  rw [handles.handleEvent_eq regular, replies.rreqContinue_eq]
  have met := emits_neighborAdd config received.src received.ifindex regular.sound
  exact ((met.trans reversal.emits).mono fun _ reports => reports.tells _).trans
    (emits_rreqReply rreq fwdRt reversal.sound)

theorem timer_neighborAdd (config : Config) {source : Addr} (ifindex : Nat) {state : State}
    (sound : state.rtTbl.Sound) {dest : Addr} (different : dest ≠ source) :
    (neighborAdd config source ifindex state).timers.timer (.rtTimer dest) =
      state.timers.timer (.rtTimer dest) := by
  have own : TimerId.rtTimer dest ∈ routeTimers dest := by simp [routeTimers]
  have notRoute := (routeTimers_disjoint different own).1
  have heard (met : State) : (neighborHeard config source met).timers.timer (.rtTimer dest) =
      met.timers.timer (.rtTimer dest) := by
    unfold neighborHeard
    split
    · exact (timer_timerSetTimeout ..).trans (if_neg TimerId.noConfusion)
    · rfl
  unfold neighborAdd
  rw [rtTableFind_eq_entryAt sound]
  cases found : entryAt state source with
  | none => exact (heard _).trans (timer_rtTableInsert config sound found different own notRoute)
  | some rt =>
    dsimp only
    split
    · rfl
    · exact (heard _).trans (timer_rtTableUpdate config sound found own notRoute notRoute
        fun breaks => absurd breaks (neighborOffer_not_breaks _ _ _ _ _ _))

/-- The sender and the originator apart, a route from which a RREQ is answered has what it had left
when the RREQ came in. -/
theorem RepliesFrom.routeLeft_eq {fwdRt : RtEntry}
    (replies : RepliesFrom config rreq received.ifindex (reversedState config received rreq state)
      fwdRt) (handles : HandlesRreq config event state received rreq)
    (regular : Regular config state) (notSender : rreq.destAddr ≠ received.src)
    (notOrigin : rreq.destAddr ≠ rreq.origAddr) :
    routeLeft (reversedState config received rreq state) rreq.destAddr =
      routeLeft state rreq.destAddr := by
  have notHello := Received.hello_eq_none_of_rreq handles.isRreq
  have arrives : Arrives config (.message received) received := ⟨rfl, handles.foreign⟩
  have metSound := (neighborAdd_introduced regular arrives notHello).regular.sound
  have reversal := reversal_rreqReverse config metSound rreq received.src received.ifindex
  let met := neighborAdd config received.src received.ifindex state
  let recorded := rreqRecordInsert rreq.origAddr rreq.rreqId met
  have voice : SameVoice met recorded := sameVoice_rreqRecordInsert ..
  have now : (reversedState config received rreq state).now = state.now :=
    (utters_rreqReverse ..).now.trans (voice.now.trans (utters_neighborAdd ..).now)
  have record : recorded.timers.timer (.rtTimer rreq.destAddr) =
      met.timers.timer (.rtTimer rreq.destAddr) := by
    show (rreqRecordInsert rreq.origAddr rreq.rreqId met).timers.timer _ = _
    unfold rreqRecordInsert
    split
    · rfl
    · exact ((timer_timerSetTimeout ..).trans (if_neg TimerId.noConfusion)).trans
        ((timer_timerInit ..).trans (if_neg TimerId.noConfusion))
  have own : TimerId.rtTimer rreq.destAddr ∈ routeTimers rreq.destAddr := by simp [routeTimers]
  have found : reversedEntry rreq received.src received.ifindex recorded rreq.destAddr =
      some fwdRt := by
    rw [reversedEntry_rreqRecordInsert, ← reversal.entries, ← rtTableFind_eq_entryAt reversal.sound]
    exact replies.found
  have valid : fwdRt.state = .valid := by
    have may := replies.may
    simp only [rreqMayReply, Bool.and_eq_true, decide_eq_true_eq] at may
    exact may.1.1.1
  have recordedSound : recorded.rtTbl.Sound :=
    rtTbl_rreqRecordInsert rreq.origAddr rreq.rreqId met ▸ metSound
  have timer : (reversedState config received rreq state).timers.timer (.rtTimer rreq.destAddr) =
      state.timers.timer (.rtTimer rreq.destAddr) := by
    refine (timer_rreqReverse config recordedSound own notOrigin
      (routeTimers_disjoint notSender own).1 found valid).trans (record.trans ?_)
    exact timer_neighborAdd config received.ifindex regular.sound notSender
  unfold routeLeft timerTimeoutOf
  rw [timer, now]

/-- What the node that answers has left of its route fits exactly if the timer of the route does,
read before the event unless the event renews it. -/
theorem unwrapped_reply_iff (regular : Regular config state) :
    (∀ received rreq fwdRt, HandlesRreq config event state received rreq →
      RepliesFrom config rreq received.ifindex (reversedState config received rreq state) fwdRt →
      Unwrapped (routeLeft (reversedState config received rreq state) fwdRt.destAddr)) ↔
    (∀ received rreq fwdRt, HandlesRreq config event state received rreq →
      RepliesFrom config rreq received.ifindex (reversedState config received rreq state) fwdRt →
      rreq.destAddr ≠ received.src → rreq.destAddr ≠ rreq.origAddr →
      Unwrapped (routeLeft state rreq.destAddr)) ∧
    ∀ received rreq fwdRt, HandlesRreq config event state received rreq →
      RepliesFrom config rreq received.ifindex (reversedState config received rreq state) fwdRt →
      rreq.destAddr = received.src ∨ rreq.destAddr = rreq.origAddr →
      Unwrapped (routeLeft (reversedState config received rreq state) rreq.destAddr) := by
  constructor
  · intro fits
    refine ⟨fun received rreq fwdRt handles replies notSender notOrigin => ?_,
      fun received rreq fwdRt handles replies _ => ?_⟩
    · rw [← replies.routeLeft_eq handles regular notSender notOrigin,
        ← rtTableFind_destAddr replies.found]
      exact fits received rreq fwdRt handles replies
    · rw [← rtTableFind_destAddr replies.found]
      exact fits received rreq fwdRt handles replies
  · rintro ⟨far, near⟩ received rreq fwdRt handles replies
    rw [rtTableFind_destAddr replies.found]
    by_cases renewed : rreq.destAddr = received.src ∨ rreq.destAddr = rreq.origAddr
    · exact near received rreq fwdRt handles replies renewed
    · obtain ⟨notSender, notOrigin⟩ := not_or.mp renewed
      rw [replies.routeLeft_eq handles regular notSender notOrigin]
      exact far received rreq fwdRt handles replies notSender notOrigin

/-- The lifetimes of an event are exact exactly if they fit. -/
theorem lifetimesExact_iff_fit (regular : Regular config state)
    (eightBits : ∀ received rreq, HandlesRreq config event state received rreq → rreq.hcnt < 256) :
    LifetimesExact config event state ↔ LifetimesFit config event state := by
  constructor
  · intro exact
    obtain ⟨far, near⟩ := (unwrapped_reply_iff regular).mp
      fun received rreq fwdRt handles replies => (remainingLife_exact_iff _ _).mp
        (exact.reply received rreq fwdRt handles replies)
    refine ⟨fun received rreq handles => ?_, far, near, fun received hello handles => ?_⟩
    · exact (reverseLife_exact_iff (eightBits received rreq handles)).mp
        (exact.reverse received rreq handles)
    · exact (helloLifetime_exact_iff _).mp (exact.hello received hello handles)
  · intro fit
    refine ⟨fun received rreq handles => ?_, fun received rreq fwdRt handles replies => ?_,
      fun received hello handles => ?_⟩
    · exact (reverseLife_exact_iff (eightBits received rreq handles)).mpr
        (fit.reverse received rreq handles)
    · exact (remainingLife_exact_iff _ _).mpr ((unwrapped_reply_iff regular).mpr
        ⟨fit.reply, fit.replyNear⟩ received rreq fwdRt handles replies)
    · exact (helloLifetime_exact_iff _).mpr (fit.hello received hello handles)

end

/-- Lifetimes do not wrap exactly if they fit: in every reachable state and for every message,
the three lifetimes are exact if and only if the hop count of a RREQ is small, the route from which
a RREQ is answered is not overdue, and the interval of a HELLO is not too long. Then no RREP of an
intermediate node but its HELLOs tells of more time than its route has left. -/
theorem lifetimes_exact_iff (config : Config) (now : Timeval) (jitter : Int) (inputs : List Input)
    (input : Input)
    (eightBits : ∀ received rreq, input.event = .message received → received.msg = .rreq rreq →
      rreq.hcnt < 256) :
    (LifetimesExact config input.event (arrive input (run config now jitter inputs)) ↔
        LifetimesFit config input.event (arrive input (run config now jitter inputs))) ∧
      (LifetimesFit config input.event (arrive input (run config now jitter inputs)) →
        ∀ received rreq fwdRt,
          HandlesRreq config input.event (arrive input (run config now jitter inputs)) received
            rreq →
          RepliesFrom config rreq received.ifindex (reversedState config received rreq
            (arrive input (run config now jitter inputs))) fwdRt →
          ∀ datagram ∈ (step config (run config now jitter inputs) input).out,
            datagram.Lasts config (max 0 (routeLeft (reversedState config received rreq
              (arrive input (run config now jitter inputs))) fwdRt.destAddr))) := by
  have regular := (atRest_run config now jitter inputs).toRegular.arrive input
  have whole : LifetimesExact config input.event (arrive input (run config now jitter inputs)) ↔
      LifetimesFit config input.event (arrive input (run config now jitter inputs)) :=
    lifetimesExact_iff_fit regular fun received rreq handles =>
      eightBits received rreq handles.event handles.isRreq
  refine ⟨whole, fun fit received rreq fwdRt handles replies datagram member => ?_⟩
  rw [← (whole.mpr fit).reply received rreq fwdRt handles replies]
  obtain ⟨sent, out, lasts⟩ := emits_handleEvent handles regular replies
  refine lasts datagram ?_
  have all : (step config (run config now jitter inputs) input).out = [] ++ sent := out
  rwa [all, List.nil_append] at member

/-- Node 1 is awake and has a route to node 9 for six seconds. -/
def knownNine : List Input := [inputAt 20000 .timers, inputAt 20000 (rrepFrom 2#32 9#32 5#32 1)]

/-- Node 4 asks for node 9, and node 3 passes its request on. -/
def requestForNine : Received :=
  ⟨.rreq ⟨.none, 1, 0#32, 9#32, 0#32, 4#32, 5#32, []⟩, rreqSize, 3#32, aodvBroadcast, 5, 1⟩

/-- Two seconds later the reply tells of the four seconds that are left. -/
theorem lifetimes_exact_iff_known :
    LifetimesExact loneConfig (.message requestForNine) (arrive
        (inputAt 22000 (.message requestForNine)) (run loneConfig timevalZero 0 knownNine)) ∧
      (step loneConfig (run loneConfig timevalZero 0 knownNine)
        (inputAt 22000 (.message requestForNine))).out.map Datagram.msg =
        [.rrep ⟨false, false, 2, 9#32, 5#32, 4#32, 4000, []⟩] := by
  refine ⟨(lifetimes_exact_iff loneConfig timevalZero 0 knownNine
    (inputAt 22000 (.message requestForNine)) ?_).1.mpr ⟨?_, ?_, ?_, ?_⟩, by decide +kernel⟩
  · intro received rreq isMessage isRreq
    obtain rfl := Event.message.inj isMessage
    obtain rfl := AodvMsg.rreq.inj isRreq
    decide
  · intro received rreq handles
    obtain rfl := Event.message.inj handles.event
    obtain rfl := AodvMsg.rreq.inj handles.isRreq
    decide
  · intro received rreq fwdRt handles _ _ _
    obtain rfl := Event.message.inj handles.event
    obtain rfl := AodvMsg.rreq.inj handles.isRreq
    exact .inl (by decide +kernel)
  · intro received rreq fwdRt handles _ renewed
    obtain rfl := Event.message.inj handles.event
    obtain rfl := AodvMsg.rreq.inj handles.isRreq
    exact absurd renewed (by decide)
  · intro received hello handles
    obtain rfl := Event.message.inj handles.event
    exact absurd handles.isHello.symm (Option.some_ne_none hello)

/-- Node 9 asks from seventy hops away. -/
def farRequest : Received :=
  ⟨.rreq ⟨.none, 70, 0#32, 8#32, 0#32, 9#32, 5#32, []⟩, rreqSize, 2#32, aodvBroadcast, 5, 1⟩

/-- The HELLO of a neighbour that sends one every 24 days. -/
def slowHello : Event :=
  .message ⟨.rrep ⟨false, false, 0, 2#32, 5#32, 2#32, 2000, [2#8, 4#8, 0x80#8, 0#8, 0#8, 0#8]⟩,
    rrepSize + 6, 2#32, aodvBroadcast, 1, 1⟩

/-- The reverse route of a far RREQ lives for 49 days, the reply from an overdue route promises 49
days, and the neighbour with the long interval expires after a tenth of a second. -/
theorem lifetimes_wrap :
    timerTimeoutOf (run loneConfig timevalZero 0 [inputAt 1000 (.message farRequest)])
        (.rtTimer 9#32) = ⟨4294968, 216000⟩ ∧
      (step loneConfig (run loneConfig timevalZero 0 knownNine)
        (inputAt 26100 (.message requestForNine))).out.map Datagram.msg =
        [.rrep ⟨false, false, 2, 9#32, 5#32, 4#32, 4294967196, []⟩] ∧
      timerTimeoutOf (run loneConfig timevalZero 0 [inputAt 1000 slowHello]) (.rtTimer 2#32) =
        ⟨1, 100000⟩ ∧
      ¬ LifetimesExact loneConfig (.message farRequest)
        (arrive (inputAt 1000 (.message farRequest)) (run loneConfig timevalZero 0 [])) := by
  refine ⟨by decide +kernel, by decide +kernel, by decide +kernel, fun exact => ?_⟩
  have handles : HandlesRreq loneConfig (.message farRequest)
      (arrive (inputAt 1000 (.message farRequest)) (run loneConfig timevalZero 0 [])) farRequest
      ⟨.none, 70, 0#32, 8#32, 0#32, 9#32, 5#32, []⟩ :=
    ⟨⟨rfl, by decide⟩, rfl, by decide, by decide, by decide +kernel, by decide +kernel⟩
  exact absurd (exact.reverse _ _ handles) (by decide)

end Aodvd
