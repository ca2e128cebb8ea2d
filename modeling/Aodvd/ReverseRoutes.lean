/-
This file describes the state in which `rreq_process` sends its replies, from the state before it.

The reverse route has been inserted, updated or left as it is, and an update that turns a neighbour
into a route of several hops has broken a link. `reversedEntry` is the table that results, and the
acknowledgement timer of a neighbour is the one it had. From such a state `rrep_send` sends its RREP
unless the node waits after a reboot, the route has no interface or a RERR is written over the RREP.
-/

import Aodvd.Acknowledgements
import Aodvd.LinkBreaks
import Aodvd.Voices

namespace Aodvd

/-! ### The reverse route -/

/-- The entry of a destination when the reverse route of a RREQ has been made, read off the table
before. -/
def reversedEntry (rreq : Rreq) (ipSrc : Addr) (ifindex : Nat) (state : State) (dest : Addr) :
    Option RtEntry :=
  match entryAt state rreq.origAddr with
  | none =>
    if dest = rreq.origAddr then some (rreqOffer rreq ipSrc ifindex .none).entry
    else entryAt state dest
  | some revRt =>
    let offer := rreqOffer rreq ipSrc ifindex revRt.flags
    if rreqAccepts rreq revRt = false then entryAt state dest
    else if offer.Breaks revRt then
      if dest = rreq.origAddr then
        some (revRt.renewed offer (revRt.forgetHellos.cut revRt.destAddr revRt.flags.repair
          revRt.destAddr))
      else (entryAt state dest).map (RtEntry.cut rreq.origAddr revRt.flags.repair dest)
    else if dest = rreq.origAddr then some (revRt.renewed offer revRt)
    else entryAt state dest

/-- The interface of the reverse route: an existing entry keeps the one it has. -/
def reversedIfindex (rreq : Rreq) (ifindex : Nat) (state : State) : Nat :=
  ((entryAt state rreq.origAddr).map RtEntry.ifindex).getD ifindex

section

variable {config : Config} {state : State} {rreq : Rreq} {ipSrc : Addr} {ifindex : Nat}

theorem entryAt_rreqReverse (config : Config) (sound : state.rtTbl.Sound) (dest : Addr) :
    entryAt (rreqReverse config rreq ipSrc ifindex state) dest =
      reversedEntry rreq ipSrc ifindex state dest := by
  unfold rreqReverse reversedEntry
  rw [rtTableFind_eq_entryAt sound]
  cases found : entryAt state rreq.origAddr with
  | none =>
    dsimp only
    rw [entryAt_rtTableInsert config (rreqOffer rreq ipSrc ifindex .none) found]
    exact ite_congr (propext eq_comm) (fun _ => rfl) fun _ => rfl
  | some revRt =>
    dsimp only
    cases accepts : rreqAccepts rreq revRt with
    | false => rw [if_neg Bool.false_ne_true, if_pos rfl]
    | true =>
      rw [if_pos rfl, if_neg (Ne.symm Bool.false_ne_true)]
      by_cases self : dest = rreq.origAddr
      · subst self
        refine (entryAt_rtTableUpdate_eq config (rreqOffer rreq ipSrc ifindex revRt.flags) sound
          found).trans ?_
        by_cases breaks : (rreqOffer rreq ipSrc ifindex revRt.flags).Breaks revRt
        · rw [if_pos breaks, if_pos breaks, if_pos rfl]
        · rw [if_neg breaks, if_neg breaks, if_pos rfl]
      · refine (entryAt_rtTableUpdate_other config (rreqOffer rreq ipSrc ifindex revRt.flags) sound
          found self).trans ?_
        rw [if_neg self, if_neg self]
        rfl

theorem reversedEntry_origin (rreq : Rreq) (ipSrc : Addr) (ifindex : Nat) (state : State) :
    ∃ revRt, reversedEntry rreq ipSrc ifindex state rreq.origAddr = some revRt ∧
      revRt.destAddr = rreq.origAddr ∧ revRt.ifindex = reversedIfindex rreq ifindex state := by
  unfold reversedEntry reversedIfindex
  cases found : entryAt state rreq.origAddr with
  | none => exact ⟨_, if_pos rfl, rfl, rfl⟩
  | some revRt =>
    have own := entryAt_destAddr found
    dsimp only
    split
    · exact ⟨revRt, rfl, own, rfl⟩
    · split
      · refine ⟨_, if_pos rfl, ?_, ?_⟩
        · unfold RtEntry.cut RtEntry.retired
          rw [if_pos rfl]
          split <;> split <;> exact own
        · unfold RtEntry.cut RtEntry.retired
          rw [if_pos rfl]
          split <;> split <;> rfl
      · exact ⟨_, if_pos rfl, own, rfl⟩

end

/-! ### Timers of the reversed table -/

section

variable {id : TimerId} {dest : Addr}

theorem ne_seekTimer_of_own (own : id ∈ routeTimers dest) (other : Addr) : id ≠ .seekTimer other := by
  rintro rfl
  simp [routeTimers] at own

theorem timer_rtTableUpdateTimeout {updated : Addr} (notRoute : id ≠ .rtTimer updated)
    (lifetime : Nat) (state : State) :
    (rtTableUpdateTimeout updated lifetime state).timers.timer id = state.timers.timer id := by
  have armed : (setTimeout (.rtTimer updated) lifetime state).timers.timer id =
      state.timers.timer id := (timer_timerSetTimeout ..).trans (if_neg notRoute)
  unfold rtTableUpdateTimeout
  split
  · rfl
  · split
    · split
      · exact armed
      · rfl
    · exact armed

theorem rtTableFind_destAddr {state : State} {rt : RtEntry}
    (found : rtTableFind state dest = some rt) : rt.destAddr = dest := by
  unfold rtTableFind at found
  split at found
  · exact absurd found.symm (Option.some_ne_none rt)
  · have matched := List.find?_some found
    rw [Bool.and_eq_true, decide_eq_true_eq, decide_eq_true_eq] at matched
    exact matched.2.symm

/-- Packets that are released refresh the route to their destination and that to its next hop. -/
theorem timer_releaseBuffered (config : Config) {released : Addr} {state : State}
    (own : id ∈ routeTimers dest) (notRoute : id ≠ .rtTimer released)
    (notHop : ∀ rt, rtTableFind state released = some rt → id ≠ .rtTimer rt.nextHop) :
    (releaseBuffered config released state).timers.timer id = state.timers.timer id := by
  have removed : (seekListRemove released state).timers.timer id = state.timers.timer id :=
    (timer_timerRemove ..).trans (if_neg (ne_seekTimer_of_own own released))
  unfold releaseBuffered
  split
  · rfl
  · unfold packetQueueSend
    split
    · exact removed
    · rename_i rt found
      refine Eq.trans ?_ removed
      have self : id ≠ .rtTimer rt.destAddr := rtTableFind_destAddr found ▸ notRoute
      unfold refreshReleased
      split
      · dsimp only
        split
        · exact timer_rtTableUpdateTimeout self _ _
        · rename_i hop hopFound
          split
          · have other : id ≠ .rtTimer hop.destAddr := rtTableFind_destAddr hopFound ▸ notHop rt found
            exact (timer_rtTableUpdateTimeout other _ _).trans (timer_rtTableUpdateTimeout self _ _)
          · exact timer_rtTableUpdateTimeout self _ _
      · rfl

theorem timer_insertRoute (config : Config) {offer : Offer} (different : dest ≠ offer.dest)
    (own : id ∈ routeTimers dest) (state : State) :
    (insertRoute config offer state).timers.timer id = state.timers.timer id := by
  obtain ⟨notRoute, notHello, notAck⟩ := routeTimers_disjoint different own
  have started : (initTimer (.helloTimer offer.dest) .helloTimeout
      (initTimer (.ackTimer offer.dest) .rrepAckTimeout
        (initTimer (.rtTimer offer.dest) .routeExpireTimeout state))).timers.timer id =
      state.timers.timer id := by
    unfold initTimer
    rw [timer_timerInit, if_neg notHello, timer_timerInit, if_neg notAck, timer_timerInit,
      if_neg notRoute]
  unfold insertRoute
  dsimp only
  split
  · split
    · exact (timer_rearm different own ..).trans started
    · exact (timer_rearm different own ..).trans started
  · split
    · exact started
    · exact ((timer_timerSetTimeout ..).trans (if_neg notRoute)).trans started

theorem timer_rtTableInsert (config : Config) {offer : Offer} {state : State}
    (sound : state.rtTbl.Sound) (fresh : entryAt state offer.dest = none)
    (different : dest ≠ offer.dest) (own : id ∈ routeTimers dest)
    (notHop : id ≠ .rtTimer offer.next) :
    (rtTableInsert config offer state).1.timers.timer id = state.timers.timer id := by
  have inserted := timer_insertRoute config different own state
  have after : (insertRoute config offer state).rtTbl.Sound :=
    (rtTbl_rtTableInsert config offer fresh).1 ▸ sound.rtTableInsert config offer
  have entry := entryAt_rtTableInsert config offer fresh offer.dest
  rw [entryAt, (rtTbl_rtTableInsert config offer fresh).1, if_pos rfl] at entry
  rw [rtTableInsert_of_none config offer fresh]
  dsimp only
  split
  · refine (timer_releaseBuffered config own (routeTimers_disjoint different own).1
      fun rt found => ?_).trans inserted
    rw [rtTableFind_eq_entryAt after] at found
    obtain rfl := Option.some.inj (found.symm.trans entry)
    exact notHop
  · exact inserted

/-- The timers of a new entry are initialised. -/
theorem ackUsed_rtTableInsert (config : Config) (offer : Offer) {state : State}
    (fresh : entryAt state offer.dest = none) :
    timerUsed (rtTableInsert config offer state).1 (.ackTimer offer.dest) = false := by
  have started : timerUsed (initTimer (.helloTimer offer.dest) .helloTimeout
      (initTimer (.ackTimer offer.dest) .rrepAckTimeout
        (initTimer (.rtTimer offer.dest) .routeExpireTimeout state))) (.ackTimer offer.dest) =
      false := by
    unfold timerUsed initTimer
    rw [timer_timerInit, if_neg TimerId.noConfusion, timer_timerInit, if_pos rfl]
  have rearmed (msec : Int) (handler : Handler) (state : State) :
      SameAcks state (setTimeout (.rtTimer offer.dest) msec
        (setHandler (.rtTimer offer.dest) handler state)) :=
    (sameAcks_setHandler (fun _ => TimerId.noConfusion) handler state).trans
      (sameAcks_setTimeout (fun _ => TimerId.noConfusion) msec _)
  have inserted : timerUsed (insertRoute config offer state) (.ackTimer offer.dest) = false := by
    unfold insertRoute
    dsimp only
    split
    · split
      · exact (SameAcks.timerUsed (rearmed _ _ _) offer.dest).trans started
      · exact (SameAcks.timerUsed (rearmed _ _ _) offer.dest).trans started
    · split
      · exact started
      · exact ((sameAcks_setTimeout (fun _ => TimerId.noConfusion) _ _).timerUsed offer.dest).trans
          started
  have own : TimerId.ackTimer offer.dest ∈ routeTimers offer.dest := by simp [routeTimers]
  rw [rtTableInsert_of_none config offer fresh]
  dsimp only
  split
  · rw [timerUsed, timer_releaseBuffered config own TimerId.noConfusion
      fun _ _ => TimerId.noConfusion]
    exact inserted
  · exact inserted

theorem RtEntry.retired_state (rt : RtEntry) : rt.retired.state = .invalid := by
  unfold RtEntry.retired
  split
  · rfl
  · rename_i invalid
    cases state : rt.state with
    | valid => exact absurd state invalid
    | invalid => rfl

/-- What a link break leaves valid does not lead over the link. -/
theorem RtEntry.cut_valid {neighbor dest : Addr} {repair : Bool} {rt : RtEntry}
    (valid : (rt.cut neighbor repair dest).state = .valid) :
    dest ≠ neighbor ∧ ¬ (rt.state = .valid ∧ rt.nextHop = neighbor) := by
  have lost : rt.retired.state ≠ .valid := by
    rw [rt.retired_state]
    exact RouteState.noConfusion
  unfold RtEntry.cut at valid
  split at valid
  · split at valid <;> exact absurd valid lost
  · rename_i different
    refine ⟨different, fun uses => ?_⟩
    rw [if_pos uses] at valid
    split at valid <;> exact RouteState.noConfusion valid

/-- The link break of an update leaves the timers of the other routes alone. -/
theorem timer_updateLinkBreak (config : Config) {offer : Offer} {state : State} {rt : RtEntry}
    (found : entryAt state rt.destAddr = some rt) (own : id ∈ routeTimers dest)
    (free : offer.Breaks rt → dest ≠ rt.destAddr ∧ ∀ entry, entryAt state dest = some entry →
      ¬ (entry.state = .valid ∧ entry.nextHop = rt.destAddr)) :
    (updateLinkBreak config rt offer state).timers.timer id = state.timers.timer id := by
  unfold updateLinkBreak
  split
  · rename_i breaks
    obtain ⟨different, apart⟩ := free breaks
    have entries (other : Addr) : entryAt (removeTimer (.helloTimer rt.destAddr)
        (setEntry rt.destAddr RtEntry.forgetHellos state)) other =
          if other = rt.destAddr then (entryAt state rt.destAddr).map RtEntry.forgetHellos
          else entryAt state other :=
      entryAt_setEntry cosmetic_forgetHellos.dest rt.destAddr other state
    have there : entryAt (removeTimer (.helloTimer rt.destAddr)
        (setEntry rt.destAddr RtEntry.forgetHellos state)) rt.forgetHellos.destAddr =
          some rt.forgetHellos := by
      refine (entries rt.destAddr).trans ?_
      rw [if_pos rfl, found, Option.map_some]
    refine (timer_neighborLinkBreak there different ?_ own).trans ?_
    · intro entry entryFound depends
      rw [entries, if_neg different] at entryFound
      exact apart entry entryFound ⟨depends.1, depends.2.1⟩
    · exact (timer_timerRemove ..).trans (if_neg (routeTimers_disjoint different own).2.1)
  · rfl

/-- The update of a route leaves the timers of another alone, unless it breaks a link that the
other one depends on. -/
theorem timer_rtTableUpdate (config : Config) {offer : Offer} {state : State} {rt : RtEntry}
    (sound : state.rtTbl.Sound) (found : entryAt state offer.dest = some rt)
    (own : id ∈ routeTimers dest) (notRoute : id ≠ .rtTimer offer.dest)
    (notHop : id ≠ .rtTimer offer.next)
    (free : offer.Breaks rt → dest ≠ offer.dest ∧ ∀ entry, entryAt state dest = some entry →
      ¬ (entry.state = .valid ∧ entry.nextHop = offer.dest)) :
    (rtTableUpdate config offer state).timers.timer id = state.timers.timer id := by
  have self := entryAt_destAddr found
  have kernel : (updateKernel rt offer state).timers = state.timers := by
    unfold updateKernel
    split
    · rfl
    · split <;> rfl
  have broken : (updateLinkBreak config rt offer (updateKernel rt offer state)).timers.timer id =
      state.timers.timer id := by
    refine (timer_updateLinkBreak config ?_ own ?_).trans (congrArg (fun all => all.timer id) kernel)
    · rw [entryAt_updateKernel, self, found]
    · rw [entryAt_updateKernel, self]
      exact free
  have updated : (updateRoute config rt offer state).timers.timer id = state.timers.timer id := by
    have handled (state : State) : (setHandler (.rtTimer rt.destAddr) .routeExpireTimeout
        (setEntry rt.destAddr (RtEntry.adopt (updateFlags rt offer) offer) state)).timers.timer id =
          state.timers.timer id := (timer_timerSetHandler ..).trans (if_neg (self ▸ notRoute))
    refine Eq.trans ?_ broken
    unfold updateRoute
    dsimp only
    split
    · exact handled _
    · exact (timer_rtTableUpdateTimeout (self ▸ notRoute) _ _).trans (handled _)
  have after : (updateRoute config rt offer state).rtTbl.Sound := sound.updateRoute config rt offer
  obtain ⟨base, entry, _⟩ := entryAt_rtTableUpdate_self config offer sound found
  rw [entryAt, rtTbl_rtTableUpdate config offer found] at entry
  unfold rtTableUpdate
  rw [found]
  dsimp only
  split
  · refine (timer_releaseBuffered config own notRoute fun new newFound => ?_).trans updated
    rw [rtTableFind_eq_entryAt after] at newFound
    obtain rfl := Option.some.inj (newFound.symm.trans entry)
    exact notHop
  · exact updated

/-- The timers of a route that is valid when the reverse route has been made have not been touched,
unless it is the reverse route or, for its lifetime, the one to the sender. -/
theorem timer_rreqReverse (config : Config) {state : State} (sound : state.rtTbl.Sound)
    {rreq : Rreq} {ipSrc : Addr} {ifindex : Nat} {rt : RtEntry} (own : id ∈ routeTimers dest)
    (different : dest ≠ rreq.origAddr) (notHop : id ≠ .rtTimer ipSrc)
    (found : reversedEntry rreq ipSrc ifindex state dest = some rt) (valid : rt.state = .valid) :
    (rreqReverse config rreq ipSrc ifindex state).timers.timer id = state.timers.timer id := by
  unfold rreqReverse
  unfold reversedEntry at found
  rw [rtTableFind_eq_entryAt sound]
  cases reverse : entryAt state rreq.origAddr with
  | none => exact timer_rtTableInsert config sound reverse different own notHop
  | some revRt =>
    rw [reverse] at found
    dsimp only at found ⊢
    by_cases accepts : rreqAccepts rreq revRt = true
    · rw [if_neg (by rw [accepts]; exact Ne.symm Bool.false_ne_true)] at found
      rw [if_pos accepts]
      let offer := rreqOffer rreq ipSrc ifindex revRt.flags
      have there : entryAt state offer.dest = some revRt := reverse
      refine timer_rtTableUpdate config sound there own (routeTimers_disjoint different own).1 notHop
        fun breaks => ?_
      rw [if_pos breaks, if_neg different] at found
      obtain ⟨entry, entryFound, rfl⟩ := Option.map_eq_some_iff.mp found
      refine ⟨different, fun other otherFound => ?_⟩
      obtain rfl := Option.some.inj (entryFound.symm.trans otherFound)
      exact (RtEntry.cut_valid valid).2
    · rw [if_neg accepts]

/-- The acknowledgement timer of a neighbour is not touched while the reverse route is made,
unless its entry is new. -/
theorem ackUsed_rreqReverse (config : Config) {state : State} (sound : state.rtTbl.Sound)
    {rreq : Rreq} {ipSrc : Addr} {ifindex : Nat} {neighbor : RtEntry}
    (found : reversedEntry rreq ipSrc ifindex state dest = some neighbor)
    (valid : neighbor.state = .valid) (near : neighbor.hcnt = 1) :
    timerUsed (rreqReverse config rreq ipSrc ifindex state) (.ackTimer dest) =
      ((entryAt state dest).isSome && timerUsed state (.ackTimer dest)) := by
  have own : TimerId.ackTimer dest ∈ routeTimers dest := by simp [routeTimers]
  by_cases different : dest ≠ rreq.origAddr
  · have same := timer_rreqReverse config sound own different TimerId.noConfusion found valid
    have there : (entryAt state dest).isSome = true := by
      cases stored : entryAt state dest with
      | some _ => rfl
      | none =>
        unfold reversedEntry at found
        split at found
        · simp [different, stored] at found
        · simp [different, stored] at found
    rw [there, Bool.true_and]
    exact congrArg Timer.used same
  · obtain rfl := not_not.mp different
    unfold rreqReverse
    unfold reversedEntry at found
    rw [rtTableFind_eq_entryAt sound]
    cases reverse : entryAt state rreq.origAddr with
    | none =>
      dsimp only
      rw [Option.isSome_none, Bool.false_and]
      exact ackUsed_rtTableInsert config (rreqOffer rreq ipSrc ifindex .none) reverse
    | some revRt =>
      rw [reverse] at found
      dsimp only at found ⊢
      rw [Option.isSome_some, Bool.true_and]
      split
      · rename_i accepts
        rw [if_neg (by rw [accepts]; exact Ne.symm Bool.false_ne_true)] at found
        let offer := rreqOffer rreq ipSrc ifindex revRt.flags
        have there : entryAt state offer.dest = some revRt := reverse
        refine congrArg Timer.used (timer_rtTableUpdate config sound there own
          TimerId.noConfusion TimerId.noConfusion fun breaks => ?_)
        rw [if_pos breaks, if_pos rfl] at found
        obtain rfl := Option.some.inj found
        exact absurd near (Nat.ne_of_gt breaks.1)
      · rfl

end

/-! ### The wait on reboot -/

/-- The states agree on whether the node waits. -/
def SameWait (before after : State) : Prop := after.waitOnReboot = before.waitOnReboot

theorem SameWait.trans {first second third : State} (early : SameWait first second)
    (late : SameWait second third) : SameWait first third := Eq.trans late early

theorem sameWait_ruled (config : Config) (start : State) :
    ReleaseRule config True (SameWait start) := by
  refine .of_ignored (fun _ _ _ _ _ _ _ same => same) fun same act => ?_
  cases act with
  | draft => exact same
  | send dst len ttl dev =>
    obtain ⟨_, _, _, _, result, _⟩ := aodvSocketSend_eq config dst len ttl dev _
    rw [result]
    exact same

theorem sameWait_rreqReverse (config : Config) (rreq : Rreq) (ipSrc : Addr) (ifindex : Nat)
    (state : State) : SameWait state (rreqReverse config rreq ipSrc ifindex state) := by
  unfold rreqReverse
  split
  · exact (sameWait_ruled config state).rtTableInsert_of_new rfl rfl
  · split
    · exact (sameWait_ruled config state).rtTableUpdate rfl _
    · rfl

theorem sameWait_rrepRequestAck (config : Config) (revRt : RtEntry) {state : State}
    (sound : state.rtTbl.Sound) : SameWait state (rrepRequestAck config revRt state) := by
  rw [rrepRequestAck_eq config revRt sound]
  split
  · rfl
  · exact SameWait.trans rfl ((sameWait_ruled ..).neighborLinkBreak rfl _)

/-! ### Sending the reply -/

theorem Emits.any {quality : Datagram → Prop} {before after : State}
    (emits : Emits quality before after) : Emits (fun _ => True) before after :=
  emits.mono fun _ _ => trivial

theorem Emits.of_mem {quality : Datagram → Prop} {before after : State} {datagram : Datagram}
    (emits : Emits quality before after) (member : datagram ∈ sentBetween before after) :
    quality datagram := by
  obtain ⟨sent, out, good⟩ := emits
  rw [sentBetween_of_out out] at member
  exact good datagram member

theorem mem_sentBetween_trans {quality more : Datagram → Prop} {first second third : State}
    (early : Emits quality first second) (late : Emits more second third) (datagram : Datagram) :
    datagram ∈ sentBetween first third ↔
      datagram ∈ sentBetween first second ∨ datagram ∈ sentBetween second third := by
  obtain ⟨sent, out, _⟩ := early
  obtain ⟨later, laterOut, _⟩ := late
  have whole : third.out = first.out ++ (sent ++ later) := by
    rw [laterOut, out, List.append_assoc]
  rw [sentBetween_of_out out, sentBetween_of_out laterOut, sentBetween_of_out whole,
    List.mem_append]

/-- The entries that `rrep_send` leaves when it has asked for an acknowledgement. -/
theorem entryAt_rrepRequestAck (config : Config) (revRt : RtEntry) {state : State}
    (sound : state.rtTbl.Sound) (dest : Addr) :
    entryAt (rrepRequestAck config revRt state) dest =
      match suspected config revRt state with
      | none => entryAt state dest
      | some neighbor =>
        let marked := if dest = neighbor.destAddr then (entryAt state dest).map RtEntry.markUnidir
          else entryAt state dest
        if neighbor.hcnt = 1 then marked.map (RtEntry.cut neighbor.destAddr neighbor.flags.repair dest)
        else marked := by
  rw [rrepRequestAck_eq config revRt sound]
  cases suspects : suspected config revRt state with
  | none => rfl
  | some neighbor =>
    have there : entryAt (markSuspect neighbor.destAddr state) neighbor.destAddr =
        some neighbor.markUnidir := by
      rw [entryAt_markSuspect, if_pos rfl, entryAt_suspected suspects, Option.map_some]
    show entryAt (neighborLinkBreak config neighbor.destAddr (markSuspect neighbor.destAddr state))
      dest = _
    dsimp only
    split
    · rename_i near
      have marked : (markSuspect neighbor.destAddr state).rtTbl.Sound :=
        sound.setEntry cosmetic_markUnidir.toGentle neighbor.destAddr
      rw [entryAt_neighborLinkBreak config marked there near dest, entryAt_markSuspect]
      rfl
    · rename_i far
      rw [neighborLinkBreak_of_far config fun rt found => ?_, entryAt_markSuspect]
      obtain rfl := Option.some.inj (there.symm.trans found)
      exact far

/-- The entry of a destination when `rrep_send` has asked for an acknowledgement: it may be marked,
and it is cut if the link to a neighbour is broken. -/
theorem rrepRequestAck_entry (config : Config) (revRt : RtEntry) {state : State}
    (sound : state.rtTbl.Sound) {dest : Addr} {rt : RtEntry}
    (found : entryAt state dest = some rt) :
    ∃ marked, (marked = rt ∨ marked = rt.markUnidir) ∧
      ((∃ neighbor, suspected config revRt state = some neighbor ∧ neighbor.hcnt = 1 ∧
          entryAt (rrepRequestAck config revRt state) dest =
            some (marked.cut neighbor.destAddr neighbor.flags.repair dest)) ∨
        ((∀ neighbor, suspected config revRt state = some neighbor → neighbor.hcnt ≠ 1) ∧
          entryAt (rrepRequestAck config revRt state) dest = some marked)) := by
  rw [entryAt_rrepRequestAck config revRt sound, found]
  cases suspected config revRt state with
  | none =>
    refine ⟨rt, .inl rfl, .inr ⟨fun other same => ?_, rfl⟩⟩
    exact absurd same.symm (Option.some_ne_none other)
  | some neighbor =>
    have marked : ∃ marked, (marked = rt ∨ marked = rt.markUnidir) ∧
        (if dest = neighbor.destAddr then (some rt).map RtEntry.markUnidir else some rt) =
          some marked := by
      split
      · exact ⟨rt.markUnidir, .inr rfl, rfl⟩
      · exact ⟨rt, .inl rfl, rfl⟩
    obtain ⟨marked, either, isMarked⟩ := marked
    refine ⟨marked, either, ?_⟩
    dsimp only
    rw [isMarked]
    by_cases near : neighbor.hcnt = 1
    · exact .inl ⟨neighbor, rfl, near, if_pos near⟩
    · refine .inr ⟨fun other same => ?_, if_neg near⟩
      obtain rfl := Option.some.inj same
      exact near

/-- Asking for an acknowledgement leaves the interface of every route. -/
theorem ifindex_rrepRequestAck (config : Config) (revRt : RtEntry) {state : State}
    (sound : state.rtTbl.Sound) {dest : Addr} {rt : RtEntry}
    (found : entryAt state dest = some rt) :
    ∃ asked, entryAt (rrepRequestAck config revRt state) dest = some asked ∧
      asked.ifindex = rt.ifindex := by
  obtain ⟨marked, either, entry⟩ := rrepRequestAck_entry config revRt sound found
  have ifindex : marked.ifindex = rt.ifindex := by
    rcases either with rfl | rfl
    · rfl
    · rfl
  rcases entry with ⟨neighbor, _, _, there⟩ | ⟨_, there⟩
  · exact ⟨_, there, (RtEntry.cut_ifindex ..).trans ifindex⟩
  · exact ⟨_, there, ifindex⟩

/-- Sending the RREP leaves the routes as asking for an acknowledgement has left them. -/
theorem sameRoutes_rrepSend (config : Config) {revDest : Addr} {revRt : RtEntry} {state : State}
    (found : entryAt state revDest = some revRt) (fwdDest : Option Addr) (size : Nat) :
    SameRoutes (rrepRequestAck config revRt state)
      (rrepSend config revDest fwdDest size state) := by
  let asked := rrepRequestAck config revRt state
  have aside : Aside asked (sendAlong config revDest size maxTtl asked) := aside_sendAlong ..
  have sent := SameRoutes.of_rtTbl aside.rtTbl
  rw [rrepSend, found]
  refine SameRoutes.trans ?_ (.of_rtTbl (rtTbl_helloOnDemand _))
  cases fwdDest with
  | none => exact sent
  | some fwdDest => exact sent.trans (updatePrecursors_acts config .timers state ..).2

theorem out_sendAlong_rrep (config : Config) {revDest : Addr} (size : Nat) {state : State}
    {revRt : RtEntry} {rrep : Rrep} (found : entryAt state revDest = some revRt)
    (holds : state.sendBuf = .rrep rrep) :
    (sendAlong config revDest size maxTtl state).out = state.out ++
      if state.waitOnReboot then []
      else (devIfindex config revRt.ifindex).toList.map fun dev =>
        ⟨dev.ipaddr, revRt.nextHop, maxTtl, size, .rrep rrep⟩ := by
  have held : heldOnReboot state = state.waitOnReboot := by rw [heldOnReboot, holds]
  have passes : ratelimitSend config state = some state := by
    rw [ratelimitSend, holds]
    split <;> rfl
  unfold sendAlong
  rw [found]
  dsimp only
  unfold aodvSocketSend
  cases devIfindex config revRt.ifindex with
  | none =>
    rw [Option.toList_none, List.map_nil, ite_self, List.append_nil]
  | some dev =>
    dsimp only
    rw [held, passes]
    cases state.waitOnReboot with
    | true => rw [if_pos (Or.inl rfl), if_pos rfl, List.append_nil]
    | false =>
      rw [if_neg (by decide), if_neg Bool.false_ne_true]
      dsimp only
      rw [holds]
      rfl

/-- The RREP of `rrep_send` leaves exactly if the node does not wait, the route has an
interface and no RERR has been written over it. -/
theorem sent_rrepSend_iff {config : Config} {revDest : Addr} (fwdDest : Option Addr) (size : Nat)
    {state : State} {revRt : RtEntry} {rrep : Rrep} (sound : state.rtTbl.Sound)
    (found : entryAt state revDest = some revRt) (holds : state.sendBuf = .rrep rrep)
    (apart : ∀ current numbered, (helloDatagram config current numbered).msg ≠ .rrep rrep) :
    (∃ datagram ∈ sentBetween state (rrepSend config revDest fwdDest size state),
        datagram.msg = .rrep rrep) ↔
      state.waitOnReboot = false ∧ (devIfindex config revRt.ifindex).isSome = true ∧
        ¬ BreaksReported config revDest state := by
  have broken := emits_rrepRequestAck config revRt sound
  have rest : Emits (fun datagram => datagram.msg ≠ .rrep rrep) _ _ :=
    emits_rrepSend_rest fwdDest size found apart
  obtain ⟨asked, there, ifindex⟩ := ifindex_rrepRequestAck config revRt sound found
  have emits := emits_sendAlong config revDest size maxTtl (rrepRequestAck config revRt state)
  have own : (∃ datagram ∈ sentBetween state (rrepSend config revDest fwdDest size state),
      datagram.msg = .rrep rrep) ↔
        ∃ datagram ∈ sentBetween (rrepRequestAck config revRt state)
          (sendAlong config revDest size maxTtl (rrepRequestAck config revRt state)),
          datagram.msg = .rrep rrep := by
    refine exists_congr fun datagram => and_congr_left fun carries => ?_
    rw [mem_sentBetween_trans broken (emits.any.trans rest.any), mem_sentBetween_trans emits rest]
    constructor
    · rintro (early | here | late)
      · obtain ⟨rerr, isRerr, _⟩ := (broken.of_mem early).deletes
        exact AodvMsg.noConfusion (isRerr.symm.trans carries)
      · exact here
      · exact absurd carries (rest.of_mem late)
    · exact fun here => .inr (.inl here)
  rw [own, ← sendBuf_rrepRequestAck_iff config sound found holds]
  by_cases kept : (rrepRequestAck config revRt state).sendBuf = .rrep rrep
  · have waits : (rrepRequestAck config revRt state).waitOnReboot = state.waitOnReboot :=
      sameWait_rrepRequestAck config revRt sound
    rw [sentBetween_of_out (out_sendAlong_rrep config size there kept), waits, ifindex]
    cases state.waitOnReboot <;> cases devIfindex config revRt.ifindex <;> simp [kept]
  · refine iff_of_false ?_ fun reached => kept reached.2.2
    rintro ⟨datagram, member, carries⟩
    exact kept ((emits.of_mem member).symm.trans carries)

/-! ### The state with the reverse route -/

/-- The reverse route of a RREQ has been made between two states. -/
structure Reversal (config : Config) (rreq : Rreq) (ipSrc : Addr) (ifindex : Nat)
    (before after : State) : Prop where
  sound : after.rtTbl.Sound
  entries : ∀ dest, entryAt after dest = reversedEntry rreq ipSrc ifindex before dest
  acks : ∀ dest neighbor, reversedEntry rreq ipSrc ifindex before dest = some neighbor →
    neighbor.state = .valid → neighbor.hcnt = 1 → timerUsed after (.ackTimer dest) =
      ((entryAt before dest).isSome && timerUsed before (.ackTimer dest))
  waits : SameWait before after
  seqno : after.seqno = before.seqno
  emits : Emits (Reports config) before after

theorem RoutingTable.Sound.rrepSend {state : State} (sound : state.rtTbl.Sound) (config : Config)
    (revDest : Addr) (fwdDest : Option Addr) (size : Nat) :
    (rrepSend config revDest fwdDest size state).rtTbl.Sound :=
  (replyRule_sound config).rrepSend sound revDest fwdDest size

theorem emits_rreqReverse (config : Config) {state : State} (sound : state.rtTbl.Sound)
    (rreq : Rreq) (ipSrc : Addr) (ifindex : Nat) :
    Emits (Reports config) state (rreqReverse config rreq ipSrc ifindex state) := by
  unfold rreqReverse
  rw [rtTableFind_eq_entryAt sound]
  split
  · exact .of_out (out_rtTableInsert config ‹_›)
  · split
    · exact emits_rtTableUpdate ..
    · exact .refl _ _

/-- The record of a RREQ leaves the table alone. -/
theorem reversedEntry_rreqRecordInsert (rreq : Rreq) (ipSrc : Addr) (ifindex : Nat)
    (state : State) : reversedEntry rreq ipSrc ifindex
      (rreqRecordInsert rreq.origAddr rreq.rreqId state) = reversedEntry rreq ipSrc ifindex state := by
  funext dest
  unfold reversedEntry entryAt
  rw [rtTbl_rreqRecordInsert]

theorem reversal_rreqReverse (config : Config) {state : State} (sound : state.rtTbl.Sound)
    (rreq : Rreq) (ipSrc : Addr) (ifindex : Nat) :
    Reversal config rreq ipSrc ifindex state (rreqReverse config rreq ipSrc ifindex
      (rreqRecordInsert rreq.origAddr rreq.rreqId state)) := by
  have rtTbl := rtTbl_rreqRecordInsert rreq.origAddr rreq.rreqId state
  have recorded : entryAt (rreqRecordInsert rreq.origAddr rreq.rreqId state) = entryAt state := by
    funext dest
    unfold entryAt
    rw [rtTbl]
  have reversed := reversedEntry_rreqRecordInsert rreq ipSrc ifindex state
  have recordedSound := rtTbl ▸ sound
  have voice := sameVoice_rreqRecordInsert rreq.origAddr rreq.rreqId state
  have waits : SameWait state (rreqRecordInsert rreq.origAddr rreq.rreqId state) := by
    unfold rreqRecordInsert
    split <;> rfl
  have acks : SameAcks state (rreqRecordInsert rreq.origAddr rreq.rreqId state) := by
    unfold rreqRecordInsert
    split
    · exact fun _ => rfl
    · exact (sameAcks_initTimer (fun _ => TimerId.noConfusion) _ _).trans
        (sameAcks_setTimeout (fun _ => TimerId.noConfusion) _ _)
  exact {
    sound := recordedSound.rreqReverse config rreq ipSrc ifindex
    entries := fun dest => by rw [entryAt_rreqReverse config recordedSound, reversed]
    acks := fun dest neighbor found valid near => by
      rw [← reversed] at found
      rw [ackUsed_rreqReverse config recordedSound found valid near, recorded, acks.timerUsed]
    waits := waits.trans (sameWait_rreqReverse ..)
    seqno := (utters_rreqReverse ..).seqno.trans voice.seqno
    emits := .trans (.of_out voice.out) (emits_rreqReverse config recordedSound rreq ipSrc ifindex) }

/-- A RREP is created in the send buffer; the node's own number may change with it. -/
structure Creates (rrep : Rrep) (before after : State) : Prop where
  rtTbl : after.rtTbl = before.rtTbl
  timers : after.timers = before.timers
  waitOnReboot : after.waitOnReboot = before.waitOnReboot
  out : after.out = before.out
  sendBuf : after.sendBuf = .rrep rrep

theorem creates_rrepCreate (hcnt : Nat) (destAddr : Addr) (destSeqno : Seqno) (origAddr : Addr)
    (life : Nat) (own : Seqno) (state : State) :
    Creates ⟨false, false, hcnt, destAddr, destSeqno, origAddr, life, []⟩ state
      (rrepCreate hcnt destAddr destSeqno origAddr life { state with seqno := own }) :=
  ⟨rfl, rfl, rfl, rfl, rfl⟩

/-- A reply along the reverse route finds the link to its next hop suspect, and breaks it. -/
def ReplySuspects (config : Config) (rreq : Rreq) (ipSrc : Addr) (ifindex : Nat) (state : State)
    (neighbor : RtEntry) : Prop :=
  ∃ revRt, reversedEntry rreq ipSrc ifindex state rreq.origAddr = some revRt ∧
    ((revRt.state = .valid ∧ revRt.flags.unidir = true) ∨
      (revRt.hcnt = 1 ∧ config.unidirHack = true)) ∧
    reversedEntry rreq ipSrc ifindex state revRt.nextHop = some neighbor ∧
    neighbor.state = .valid ∧ neighbor.hcnt = 1 ∧
    ((entryAt state revRt.nextHop).isSome && timerUsed state (.ackTimer revRt.nextHop)) = false

/-- A reply along the reverse route is overwritten: a route that is lost with the suspected link
has precursors, and is reported in the same buffer. -/
def ReplyOverwritten (config : Config) (rreq : Rreq) (ipSrc : Addr) (ifindex : Nat)
    (state : State) : Prop :=
  ∃ neighbor, ReplySuspects config rreq ipSrc ifindex state neighbor ∧
    ∃ dest rt, reversedEntry rreq ipSrc ifindex state dest = some rt ∧ rt.nprec ≠ 0 ∧
      rt.lostBy neighbor.destAddr neighbor.flags.repair = true

theorem suspected_eq_some_iff {config : Config} {revRt neighbor : RtEntry} {state : State} :
    suspected config revRt state = some neighbor ↔
      ((revRt.state = .valid ∧ revRt.flags.unidir = true) ∨
        (revRt.hcnt = 1 ∧ config.unidirHack = true)) ∧
      entryAt state revRt.nextHop = some neighbor ∧ neighbor.state = .valid ∧
      timerUsed state (.ackTimer revRt.nextHop) = false := by
  unfold suspected
  split
  · rename_i asks
    rw [Option.filter_eq_some_iff, Bool.and_eq_true, decide_eq_true_eq, Bool.not_eq_true']
    simp only [asks, true_and]
    refine and_congr_right fun found => and_congr_right fun _ => ?_
    rw [entryAt_destAddr found]
  · rename_i asks
    simp only [asks, reduceCtorEq, false_and]

section

variable {config : Config} {rreq : Rreq} {ipSrc : Addr} {ifindex : Nat}
  {before after created : State}

theorem Reversal.created_entries (reversal : Reversal config rreq ipSrc ifindex before after)
    (rtTbl : created.rtTbl = after.rtTbl) (dest : Addr) :
    entryAt created dest = reversedEntry rreq ipSrc ifindex before dest := by
  unfold entryAt
  rw [rtTbl]
  exact reversal.entries dest

theorem Reversal.suspects_iff (reversal : Reversal config rreq ipSrc ifindex before after)
    (rtTbl : created.rtTbl = after.rtTbl) (timers : created.timers = after.timers)
    (neighbor : RtEntry) :
    (∃ revRt, entryAt created rreq.origAddr = some revRt ∧
        suspected config revRt created = some neighbor ∧ neighbor.hcnt = 1) ↔
      ReplySuspects config rreq ipSrc ifindex before neighbor := by
  have used (id : TimerId) : timerUsed created id = timerUsed after id :=
    congrArg (fun timers => (timers.timer id).used) timers
  unfold ReplySuspects
  simp only [suspected_eq_some_iff, reversal.created_entries rtTbl, used]
  refine exists_congr fun revRt => ?_
  constructor
  · rintro ⟨found, ⟨asks, hop, valid, unused⟩, near⟩
    exact ⟨found, asks, hop, valid, near, reversal.acks _ _ hop valid near ▸ unused⟩
  · rintro ⟨found, asks, hop, valid, near, unused⟩
    exact ⟨found, ⟨asks, hop, valid, (reversal.acks _ _ hop valid near).trans unused⟩, near⟩

theorem Reversal.breaksReported_iff (reversal : Reversal config rreq ipSrc ifindex before after)
    (rtTbl : created.rtTbl = after.rtTbl) (timers : created.timers = after.timers) :
    BreaksReported config rreq.origAddr created ↔
      ReplyOverwritten config rreq ipSrc ifindex before := by
  unfold BreaksReported ReplyOverwritten
  simp only [← reversal.suspects_iff rtTbl timers, reversal.created_entries rtTbl]
  constructor
  · rintro ⟨revRt, neighbor, found, suspects, near, lost⟩
    exact ⟨neighbor, ⟨revRt, found, suspects, near⟩, lost⟩
  · rintro ⟨neighbor, ⟨revRt, found, suspects, near⟩, lost⟩
    exact ⟨revRt, neighbor, found, suspects, near, lost⟩

end

/-! ### The handling of a RREQ -/

/-- The state in which `rreq_process` goes on, with the sender and the originator in the table. -/
def reversedState (config : Config) (received : Received) (rreq : Rreq) (state : State) : State :=
  rreqReverse config rreq received.src received.ifindex
    (rreqRecordInsert rreq.origAddr rreq.rreqId
      (neighborAdd config received.src received.ifindex state))

/-- `rreq_process` replies for another node from its own route. -/
structure RepliesFrom (config : Config) (rreq : Rreq) (ifindex : Nat) (state : State)
    (fwdRt : RtEntry) : Prop where
  transit : rreq.destAddr ≠ ipaddrOf config ifindex
  found : rtTableFind state rreq.destAddr = some fwdRt
  may : rreqMayReply rreq fwdRt = true

/-- The state in which an intermediate node that has replied goes on to the gratuitous RREP. -/
def repliedState (config : Config) (rreq : Rreq) (fwdRt : RtEntry) (state : State) : State :=
  rrepSend config rreq.origAddr (some fwdRt.destAddr) rrepSize
    (rrepCreate fwdRt.hcnt fwdRt.destAddr fwdRt.destSeqno rreq.origAddr
      (remainingLife state fwdRt.destAddr) state)

section

variable {config : Config} {event : Event} {state : State} {received : Received} {rreq : Rreq}

/-- A RREQ that passes the checks gets to the point where its reverse route has been made. -/
theorem HandlesRreq.handleEvent_eq (handles : HandlesRreq config event state received rreq)
    (regular : Regular config state) :
    handleEvent config event state = rreqContinue config rreq received.len received.ttl
      received.ifindex (reversedState config received rreq state) := by
  have notHello := Received.hello_eq_none_of_rreq handles.isRreq
  have arrives : Arrives config (.message received) received := ⟨rfl, handles.foreign⟩
  have records := (neighborAdd_introduced regular arrives notHello).records
  rw [handles.event]
  show aodvSocketRead config received state = _
  rw [aodvSocketRead, if_neg handles.foreign, aodvSocketProcessPacket, notHello]
  dsimp only
  rw [processMsg, handles.isRreq]
  show rreqProcess config rreq received.len received.src received.ttl received.ifindex _ = _
  have unlisted : ¬ rreqBlacklistFind (neighborAdd config received.src received.ifindex state)
      received.src = true := by
    rw [rreqBlacklistFind, records.rreqBlacklist]
    exact Bool.eq_false_iff.mp handles.unlisted
  have unseen : ¬ rreqRecordFind (neighborAdd config received.src received.ifindex state)
      rreq.origAddr rreq.rreqId = true := by
    rw [rreqRecordFind, records.rreqRecords]
    exact Bool.eq_false_iff.mp handles.unseen
  rw [rreqProcess, if_neg handles.notOwn, if_neg (Nat.not_lt.mpr handles.long), if_neg unlisted,
    if_neg unseen]
  rfl

theorem rtTbl_rreqPassOn (len : Nat) (ipTtl : Int) (fwdRt : Option RtEntry) (state : State) :
    (rreqPassOn config rreq len ipTtl fwdRt state).rtTbl = state.rtTbl := by
  unfold rreqPassOn
  split
  · exact (aside_sendOnAll ..).rtTbl
  · rfl

theorem RepliesFrom.rreqContinue_eq {ifindex : Nat} {fwdRt : RtEntry}
    (replies : RepliesFrom config rreq ifindex state fwdRt) (len : Nat) (ipTtl : Int) :
    rreqContinue config rreq len ipTtl ifindex state = rreqReply config rreq fwdRt state := by
  rw [rreqContinue, if_neg replies.transit, replies.found]
  exact if_pos replies.may

end

end Aodvd
