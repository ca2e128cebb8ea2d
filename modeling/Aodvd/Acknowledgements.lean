/-
This file follows the handshake that is to tell whether a link is bidirectional.

When `rrep_send` suspects the link to a neighbour, it arms the neighbour's `ack_timer`, and
unless a RREP_ACK arrives before it expires the neighbour is put on the blacklist. But the flag
that asks for the RREP_ACK is set in a local variable and never reaches the RREP, so that no
neighbour is ever asked. The handshake holds exactly where no link is suspected.
-/

import Aodvd.Network
import Aodvd.SendBuffer

namespace Aodvd

variable {before after state : State} {id : TimerId} {revRt : RtEntry} (config : Config)
  (revDest : Addr) (fwdDest : Option Addr) (size : Nat)

/-! ### Acknowledgement timers -/

/-- No acknowledgement timer is touched between two states. -/
def SameAcks (before after : State) : Prop :=
  ∀ dest, after.timers.timer (.ackTimer dest) = before.timers.timer (.ackTimer dest)

/-- No acknowledgement timer is armed between two states. -/
def ArmsNone (before after : State) : Prop :=
  ∀ dest, timerUsed after (.ackTimer dest) = true → timerUsed before (.ackTimer dest) = true

theorem sameAcks_of_timers (timers : after.timers = before.timers) :
    SameAcks before after := fun dest => congrArg (fun timers => timers.timer (.ackTimer dest)) timers

theorem SameAcks.trans {first second third : State} (early : SameAcks first second)
    (late : SameAcks second third) : SameAcks first third :=
  fun dest => (late dest).trans (early dest)

theorem SameAcks.timerUsed (same : SameAcks before after) (dest : Addr) :
    Aodvd.timerUsed after (.ackTimer dest) = Aodvd.timerUsed before (.ackTimer dest) :=
  congrArg Timer.used (same dest)

theorem SameAcks.armsNone (same : SameAcks before after) :
    ArmsNone before after := fun dest used => (same.timerUsed dest).symm.trans used

theorem ArmsNone.trans {first second third : State} (early : ArmsNone first second)
    (late : ArmsNone second third) : ArmsNone first third :=
  fun dest used => early dest (late dest used)

theorem sameAcks_setTimeout (other : ∀ dest, TimerId.ackTimer dest ≠ id) (msec : Int)
    (state : State) : SameAcks state (setTimeout id msec state) :=
  fun dest => (timer_timerSetTimeout ..).trans (if_neg (other dest))

theorem sameAcks_setHandler (other : ∀ dest, TimerId.ackTimer dest ≠ id) (handler : Handler)
    (state : State) : SameAcks state (setHandler id handler state) :=
  fun dest => (timer_timerSetHandler ..).trans (if_neg (other dest))

theorem sameAcks_initTimer (other : ∀ dest, TimerId.ackTimer dest ≠ id) (handler : Handler)
    (state : State) : SameAcks state (initTimer id handler state) :=
  fun dest => (timer_timerInit ..).trans (if_neg (other dest))

theorem sameAcks_removeTimer (other : ∀ dest, TimerId.ackTimer dest ≠ id) (state : State) :
    SameAcks state (removeTimer id state) :=
  fun dest => (timer_timerRemove ..).trans (if_neg (other dest))

theorem armsNone_rtTableInvalidate (dest : Addr) (state : State) :
    ArmsNone state (rtTableInvalidate config dest state) := by
  have other (address : Addr) : TimerId.ackTimer address ≠ .rtTimer dest := TimerId.noConfusion
  have rearms (handler : Handler) (msec : Int) (state : State) : ArmsNone state
      (setTimeout (.rtTimer dest) msec (setHandler (.rtTimer dest) handler state)) :=
    ((sameAcks_setHandler other handler state).trans (sameAcks_setTimeout other msec _)).armsNone
  unfold rtTableInvalidate
  split
  · exact fun _ => id
  · rename_i rt _
    have removed : ArmsNone state (nlSendDelRouteMsg rt.destAddr rt.nextHop rt.hcnt
        (decrActive (setEntry dest RtEntry.invalidated (removeEntryTimers dest state)))) :=
      fun _ used => ((timerUsed_removeEntryTimers dest _ state).mp used).2.2.2
    split
    · exact fun _ => id
    · dsimp only
      split
      · exact removed.trans (rearms _ _ _)
      · exact removed.trans (rearms _ _ _)

theorem BreakActs.armsNone {config : Config} (acts : BreakActs config before after) :
    ArmsNone before after := by
  induction acts with
  | refl => exact fun _ => id
  | tail _ last inductionHypothesis =>
    refine inductionHypothesis.trans ?_
    cases last with
    | report act => exact (sameAcks_of_timers act.aside.timers).armsNone
    | rewrite dest => exact fun _ => id
    | invalidate dest => exact armsNone_rtTableInvalidate config dest _

theorem sameAcks_helloOnDemand (state : State) : SameAcks state (helloOnDemand config state) := by
  have other (address : Addr) : TimerId.ackTimer address ≠ .helloSendTimer := TimerId.noConfusion
  have sends (state : State) : SameAcks state (helloSend config state) := by
    rw [helloSend]
    split
    · exact sameAcks_removeTimer other state
    · dsimp only
      split
      · exact (sameAcks_of_timers (aside_helloSendAll config state).timers).trans
          (sameAcks_setTimeout other _ _)
      · split
        · exact sameAcks_setTimeout other _ _
        · exact sameAcks_setTimeout other _ _
  rw [helloOnDemand]
  split
  · rw [helloStart]
    split
    · exact fun _ => rfl
    · exact (sameAcks_initTimer other .helloSend _).trans (sends _)
  · exact fun _ => rfl

/-! ### Which call arms a timer -/

/-- The acknowledgement timer of a neighbour comes into use between two states. -/
structure ArmsAck (neighbor : Addr) (before after : State) : Prop where
  unused : timerUsed before (.ackTimer neighbor) = false
  used : timerUsed after (.ackTimer neighbor) = true

theorem unused_suspected {config : Config} {neighbor : RtEntry}
    (suspects : suspected config revRt state = some neighbor) :
    timerUsed state (.ackTimer neighbor.destAddr) = false := by
  rw [suspected] at suspects
  split at suspects
  · have kept := (Option.filter_eq_some_iff.mp suspects).2
    rw [Bool.and_eq_true, Bool.not_eq_true'] at kept
    exact kept.2
  · cases suspects

/-- Asking for an acknowledgement arms the timer of the suspected neighbour and no other. -/
theorem armsAck_rrepRequestAck_iff (revRt : RtEntry) (sound : state.rtTbl.Sound) (address : Addr) :
    ArmsAck address state (rrepRequestAck config revRt state) ↔
      ∃ neighbor, suspected config revRt state = some neighbor ∧ neighbor.destAddr = address := by
  rw [rrepRequestAck_eq config revRt sound]
  cases suspects : suspected config revRt state with
  | none =>
    refine iff_of_false (fun arms => ?_) fun ⟨_, same, _⟩ => nomatch same
    exact Bool.false_ne_true (arms.unused.symm.trans arms.used)
  | some neighbor =>
    have broken : ArmsNone state (neighborLinkBreak config neighbor.destAddr
        (markSuspect neighbor.destAddr state)) := by
      have marked : SameAcks state (markSuspect neighbor.destAddr state) :=
        sameAcks_removeTimer (fun _ => TimerId.noConfusion)
          (setEntry neighbor.destAddr RtEntry.markUnidir state)
      exact marked.armsNone.trans (neighborLinkBreak_acts config _ _).armsNone
    constructor
    · intro arms
      refine ⟨neighbor, rfl, ?_⟩
      by_contra different
      have kept := timerUsed_setTimeout_other
        (fun same => different (TimerId.ackTimer.inj same).symm) nextHopWait
        (neighborLinkBreak config neighbor.destAddr (markSuspect neighbor.destAddr state))
      exact Bool.false_ne_true (arms.unused.symm.trans (broken address (kept.symm.trans arms.used)))
    · rintro ⟨other, same, rfl⟩
      obtain rfl := Option.some.inj same
      exact ⟨unused_suspected suspects, timerUsed_setTimeout_self ..⟩

theorem sameAcks_rrepSend {revDest : Addr} (found : entryAt state revDest = some revRt) :
    SameAcks (rrepRequestAck config revRt state) (rrepSend config revDest fwdDest size state) := by
  have sent : SameAcks (rrepRequestAck config revRt state)
      (sendAlong config revDest size maxTtl (rrepRequestAck config revRt state)) :=
    sameAcks_of_timers (aside_sendAlong revDest size maxTtl _).timers
  rw [rrepSend, found]
  dsimp only
  refine .trans ?_ (sameAcks_helloOnDemand config _)
  cases fwdDest with
  | none => exact sent
  | some fwdDest =>
    refine sent.trans (sameAcks_of_timers ?_)
    dsimp only [updatePrecursors]
    split <;> rfl

/-- `rrep_send` arms the timer of the suspected neighbour and no other. -/
theorem armsAck_rrepSend_iff (sound : state.rtTbl.Sound) (address : Addr) :
    ArmsAck address state (rrepSend config revDest fwdDest size state) ↔
      ∃ revRt neighbor, entryAt state revDest = some revRt ∧
        suspected config revRt state = some neighbor ∧ neighbor.destAddr = address := by
  cases found : entryAt state revDest with
  | none =>
    rw [rrepSend, found]
    refine iff_of_false (fun arms => ?_) fun ⟨_, _, there, _⟩ => nomatch there
    exact Bool.false_ne_true (arms.unused.symm.trans arms.used)
  | some revRt =>
    have same := sameAcks_rrepSend config fwdDest size found
    have asked := armsAck_rrepRequestAck_iff config revRt sound address
    constructor
    · intro arms
      obtain ⟨neighbor, suspects, named⟩ :=
        asked.mp ⟨arms.unused, (same.timerUsed address).symm.trans arms.used⟩
      exact ⟨revRt, neighbor, rfl, suspects, named⟩
    · rintro ⟨other, neighbor, there, suspects, named⟩
      obtain rfl := Option.some.inj there
      have arms := asked.mpr ⟨neighbor, suspects, named⟩
      exact ⟨arms.unused, (same.timerUsed address).trans arms.used⟩

/-! ### No RREP asks for an acknowledgement -/

/-- The datagram is a RREP whose `A` flag is set. -/
def Datagram.Asks (datagram : Datagram) : Prop :=
  ∃ rrep, datagram.msg = .rrep rrep ∧ rrep.ack = true

/-- The link break of `rrep_send` sends RERRs. -/
theorem emits_rrepRequestAck (revRt : RtEntry) (sound : state.rtTbl.Sound) :
    Emits (Reports config) state (rrepRequestAck config revRt state) := by
  rw [rrepRequestAck_eq config revRt sound]
  cases suspected config revRt state with
  | none => exact .refl _ _
  | some neighbor =>
    have reports := (emits_ruled config (markSuspect neighbor.destAddr state)).neighborLinkBreak
      (.refl _ _) neighbor.destAddr
    exact .trans (.trans (.of_out rfl) reports) (.of_out rfl)

/-- The end of `rrep_send` sends HELLOs. -/
theorem emits_rrepSend_rest {config : Config} {quality : Datagram → Prop} {revDest : Addr}
    (found : entryAt state revDest = some revRt)
    (hello : ∀ current numbered, quality (helloDatagram config current numbered)) :
    Emits quality (sendAlong config revDest size maxTtl (rrepRequestAck config revRt state))
      (rrepSend config revDest fwdDest size state) := by
  rw [rrepSend, found]
  refine .trans ?_ (emits_helloOnDemand hello _)
  cases fwdDest with
  | none => exact .refl _ _
  | some fwdDest =>
    dsimp only [updatePrecursors]
    split <;> exact .of_out rfl

/-- `rrep_send` sends RERRs, the RREP that its caller has created, and HELLOs. -/
theorem emits_rrepSend {config : Config} {quality : Datagram → Prop} {rrep : Rrep}
    (sound : state.rtTbl.Sound) (holds : state.sendBuf = .rrep rrep)
    (error : ∀ datagram rerr, datagram.msg = .rerr rerr → quality datagram)
    (reply : ∀ datagram, datagram.msg = .rrep rrep → quality datagram)
    (hello : ∀ current numbered, quality (helloDatagram config current numbered)) :
    Emits quality state (rrepSend config revDest fwdDest size state) := by
  cases found : entryAt state revDest with
  | none =>
    rw [rrepSend, found]
    exact .refl _ _
  | some revRt =>
    have broken : Emits quality state (rrepRequestAck config revRt state) :=
      (emits_rrepRequestAck config revRt sound).mono fun datagram reports => by
        obtain ⟨rerr, isRerr, _⟩ := reports.deletes
        exact error datagram rerr isRerr
    have sent : Emits quality (rrepRequestAck config revRt state)
        (sendAlong config revDest size maxTtl (rrepRequestAck config revRt state)) := by
      refine (emits_sendAlong config revDest size maxTtl _).mono fun datagram carries => ?_
      rcases sendBuf_rrepRequestAck revRt sound with same | ⟨rerr, overwritten⟩
      · exact reply datagram (carries.trans (same.trans holds))
      · exact error datagram rerr (carries.trans overwritten)
    exact (broken.trans sent).trans (emits_rrepSend_rest fwdDest size found hello)

/-- Nothing that leaves during `rrep_send` asks for an acknowledgement. -/
theorem rrepSend_unasking {rrep : Rrep} (sound : state.rtTbl.Sound)
    (holds : state.sendBuf = .rrep rrep) (unasked : rrep.ack = false) :
    Emits (fun datagram => ¬ datagram.Asks) state (rrepSend config revDest fwdDest size state) := by
  refine emits_rrepSend revDest fwdDest size sound holds ?_ ?_ ?_
  · rintro datagram rerr isRerr ⟨asking, isRrep, _⟩
    exact AodvMsg.noConfusion (isRrep.symm.trans isRerr)
  · rintro datagram carries ⟨asking, isRrep, ack⟩
    obtain rfl := AodvMsg.rrep.inj (carries.symm.trans isRrep)
    exact Bool.false_ne_true (unasked.symm.trans ack)
  · rintro current numbered ⟨asking, isRrep, ack⟩
    obtain rfl := AodvMsg.rrep.inj isRrep
    exact Bool.false_ne_true ack

/-! ### The handshake -/

def rrepAckSize : Nat := 2

/-- The datagram is an acknowledgement of the right size for the sender of another one. -/
structure Datagram.Acknowledges (answer datagram : Datagram) : Prop where
  kind : answer.msg = .rrepAck
  size : answer.len = rrepAckSize
  addressed : answer.dst = datagram.src

/-- What is to follow when the timer of a neighbour is armed: the neighbour is asked, whichever
node it is and in whatever state it answers with an acknowledgement, and this cancels the timer
in whatever state it is received. -/
structure Handshake (config : Config) (neighbor : Addr) (before after : State)
    (datagram : Datagram) : Prop where
  sent : datagram ∈ sentBetween before after
  addressed : datagram.dst = neighbor
  asks : datagram.Asks
  answered : ∀ receiver receiving ifindex, AtRest receiver receiving →
    Reaches receiver datagram ifindex → datagram.src ∉ ownAddrs receiver →
    ∃ answer ∈ sentBetween receiving
        (aodvSocketRead receiver (datagram.received ifindex) receiving),
      answer.Acknowledges datagram ∧
      ∀ later back, AtRest config later → answer.src ∉ ownAddrs config →
        timerUsed (aodvSocketRead config (answer.received back) later) (.ackTimer neighbor) = false

/-- An acknowledgement that does arrive cancels the timer of its sender. -/
theorem rrepAck_cancels {config : Config} {state : State} (atRest : AtRest config state)
    {received : Received} (isAck : received.msg = .rrepAck)
    (foreign : received.src ∉ ownAddrs config) :
    timerUsed (aodvSocketRead config received state) (.ackTimer received.src) = false := by
  have notHello : received.hello = none := by rw [Received.hello, isAck]
  have introduced := neighborAdd_introduced atRest.toRegular ⟨rfl, foreign⟩ notHello
  have met := introduced.meets received.src
  rw [metEntry, if_pos rfl] at met
  rw [aodvSocketRead, if_neg foreign, aodvSocketProcessPacket, notHello]
  dsimp only
  rw [processMsg, isAck]
  dsimp only
  rw [rrepAckProcess, rtTableFind_eq_entryAt introduced.regular.sound]
  cases found : entryAt (neighborAdd config received.src received.ifindex state) received.src with
  | none =>
    rw [found] at met
    cases met
  | some rt =>
    rw [Bool.eq_false_iff, ne_eq, timerUsed_removeTimer, entryAt_destAddr found]
    exact fun used => used.1 rfl

/-- In every state with a sound table, a call of `rrep_send` is followed by the handshake for
every neighbour whose timer it arms exactly if it suspects no neighbour. -/
theorem rrepSend_handshake_iff (config : Config) (state : State) (sound : state.rtTbl.Sound)
    (revDest : Addr) (fwdDest : Option Addr) (size hcnt : Nat) (destAddr : Addr)
    (destSeqno : Seqno) (origAddr : Addr) (life : Nat) :
    (∀ neighbor, ArmsAck neighbor state (rrepSend config revDest fwdDest size
        (rrepCreate hcnt destAddr destSeqno origAddr life state)) →
      ∃ datagram, Handshake config neighbor state (rrepSend config revDest fwdDest size
        (rrepCreate hcnt destAddr destSeqno origAddr life state)) datagram) ↔
      ∀ revRt, entryAt state revDest = some revRt → suspected config revRt state = none := by
  have arms (neighbor : Addr) : ArmsAck neighbor state (rrepSend config revDest fwdDest size
      (rrepCreate hcnt destAddr destSeqno origAddr life state)) ↔
      ∃ revRt suspect, entryAt state revDest = some revRt ∧
        suspected config revRt state = some suspect ∧ suspect.destAddr = neighbor := by
    have created : (rrepCreate hcnt destAddr destSeqno origAddr life state).rtTbl.Sound := sound
    have exactly := armsAck_rrepSend_iff config revDest fwdDest size created neighbor
    exact ⟨fun armed => exactly.mp ⟨armed.unused, armed.used⟩,
      fun suspects => ⟨(exactly.mpr suspects).unused, (exactly.mpr suspects).used⟩⟩
  constructor
  · intro followed revRt found
    by_contra suspects
    obtain ⟨neighbor, isSuspect⟩ := Option.ne_none_iff_exists'.mp suspects
    obtain ⟨datagram, handshake⟩ := followed neighbor.destAddr
      ((arms neighbor.destAddr).mpr ⟨revRt, neighbor, found, isSuspect, rfl⟩)
    have created : (rrepCreate hcnt destAddr destSeqno origAddr life state).rtTbl.Sound := sound
    obtain ⟨sent, out, unasking⟩ := rrepSend_unasking config revDest fwdDest size created rfl rfl
    have left : (rrepSend config revDest fwdDest size
        (rrepCreate hcnt destAddr destSeqno origAddr life state)).out = state.out ++ sent := out
    have member := handshake.sent
    rw [sentBetween_of_out left] at member
    exact unasking datagram member handshake.asks
  · intro unsuspected neighbor armed
    obtain ⟨revRt, suspect, found, suspects, _⟩ := (arms neighbor).mp armed
    exact nomatch (unsuspected revRt found).symm.trans suspects

/-! ### Two nodes that hear each other -/

/-- The request of a node two hops away, which neighbour 2 has passed on. -/
def farSeeking : List Input :=
  [inputAt 15000 .timers,
    inputAt 16100 (.message ⟨.rreq ⟨.none, 1, 1#32, 9#32, 0#32, 5#32, 1#32, []⟩, rreqSize, 2#32,
      aodvBroadcast, 5, 1⟩)]

/-- A reply to a node two hops away arms no timer. -/
theorem rrepSend_handshake_iff_far :
    (sentBetween (run hackConfig timevalZero 0 farSeeking) (rrepSend hackConfig 5#32 none rrepSize
        (rrepCreate 0 1#32 3#32 5#32 6000 (run hackConfig timevalZero 0 farSeeking)))).length = 1 ∧
      ∀ neighbor, ArmsAck neighbor (run hackConfig timevalZero 0 farSeeking)
          (rrepSend hackConfig 5#32 none rrepSize
            (rrepCreate 0 1#32 3#32 5#32 6000 (run hackConfig timevalZero 0 farSeeking))) →
        ∃ datagram, Handshake hackConfig neighbor (run hackConfig timevalZero 0 farSeeking)
          (rrepSend hackConfig 5#32 none rrepSize
            (rrepCreate 0 1#32 3#32 5#32 6000 (run hackConfig timevalZero 0 farSeeking)))
          datagram := by
  have unsuspected : (entryAt (run hackConfig timevalZero 0 farSeeking) 5#32).map (fun revRt =>
      (suspected hackConfig revRt (run hackConfig timevalZero 0 farSeeking)).isNone) =
      some true := by
    decide +kernel
  refine ⟨by decide +kernel, (rrepSend_handshake_iff hackConfig _
    (atRest_run hackConfig timevalZero 0 farSeeking).sound 5#32 none rrepSize 0 1#32 3#32 5#32
    6000).mpr fun revRt found => ?_⟩
  rw [found, Option.map_some] at unsuspected
  exact Option.isNone_iff_eq_none.mp (Option.some.inj unsuspected)

/-- A neighbour's request has armed the timer, and its acknowledgement cancels it. -/
theorem rrepAck_cancels_answered :
    timerUsed (run hackConfig timevalZero 0
        [inputAt 15000 .timers, inputAt 16100 (rreqFrom 2#32 2#32 1#32 0 1#32)])
        (.ackTimer 2#32) = true ∧
      timerUsed (aodvSocketRead hackConfig ⟨.rrepAck, 2, 2#32, 1#32, 1, 1⟩
        (run hackConfig timevalZero 0
          [inputAt 15000 .timers, inputAt 16100 (rreqFrom 2#32 2#32 1#32 0 1#32)]))
        (.ackTimer 2#32) = false :=
  ⟨by decide +kernel, rrepAck_cancels (atRest_run ..) rfl (by decide)⟩

/-- The first node takes its links for unidirectional, the second one does not. -/
def pairSite : Site (Fin 2) where
  config node := { nodeConfig (BitVec.ofNat 32 (node + 1)) with unidirHack := decide (node = 0) }
  start _ := (⟨0, 0⟩, 0)

/-- The second node looks for the first one. -/
def pairSeeking : List (NetInput (Fin 2)) :=
  [netInputAt 15000 0 .timers, netInputAt 15000 1 .timers,
    netInputAt 15100 1 (.packet ⟨7#32, some ⟨40, 5, 17, 2#32, 1#32, 1000, 2000⟩, .other, 0, 1⟩)]

/-- The request reaches the first node, and its reply the second, within two milliseconds. -/
def pairAnswered : List (NetInput (Fin 2)) :=
  pairSeeking ++ [netInputAt 15101 0 (.deliver 1 0 1), netInputAt 15102 1 (.deliver 0 0 1)]

/-- The timer is armed, the reply that is delivered does not ask for an acknowledgement, none is
sent, and when the timer expires the neighbour is on the blacklist. -/
theorem netRun_handshake_fails :
    ArmsAck 2#32 ((netRun pairSite pairSeeking).node 0) ((netRun pairSite pairAnswered).node 0) ∧
      (netRun pairSite pairAnswered).sent 0 =
        [⟨1#32, 2#32, 255, rrepSize, .rrep ⟨false, false, 0, 1#32, 1#32, 2#32, 6000, []⟩⟩] ∧
      (∀ datagram ∈ (netRun pairSite pairAnswered).sent 1, datagram.msg ≠ .rrepAck) ∧
      rreqBlacklistFind ((netRun pairSite (pairAnswered ++ [netInputAt 15200 0 .timers])).node 0)
        2#32 = true :=
  ⟨⟨by decide +kernel, by decide +kernel⟩, by decide +kernel, by decide +kernel, by decide +kernel⟩

end Aodvd
