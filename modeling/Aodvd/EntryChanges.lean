/-
This file says what one operation on the routing tables can do to one destination.

Its entry stays as it is on the route, or only its marks change; it comes from an offer or
takes an offer over; it is retired, which increments its sequence number; a RERR writes
its sequence number; or it is deleted. Its kernel routes follow in small steps, except
when a route comes up or a repair has failed. Invariants that follow one destination are
proved on these changes.
-/

import Aodvd.Reachable

namespace Aodvd

/-! ### Changes of one entry -/

/-- The entries agree on the route but not on its marks. -/
structure SamePath (new old : RtEntry) : Prop where
  destAddr : new.destAddr = old.destAddr
  destSeqno : new.destSeqno = old.destSeqno
  ifindex : new.ifindex = old.ifindex
  nextHop : new.nextHop = old.nextHop
  hcnt : new.hcnt = old.hcnt
  state : new.state = old.state

theorem SameRoute.samePath {new old : RtEntry} (same : SameRoute new old) : SamePath new old :=
  ⟨same.destAddr, same.destSeqno, same.ifindex, same.nextHop, same.hcnt, same.state⟩

theorem SamePath.trans {first second third : RtEntry} (late : SamePath first second)
    (early : SamePath second third) : SamePath first third :=
  ⟨late.destAddr.trans early.destAddr, late.destSeqno.trans early.destSeqno,
    late.ifindex.trans early.ifindex, late.nextHop.trans early.nextHop, late.hcnt.trans early.hcnt,
    late.state.trans early.state⟩

theorem Cosmetic.samePath {change : RtEntry → RtEntry} (cosmetic : Cosmetic change) (rt : RtEntry) :
    SamePath (change rt) rt :=
  ⟨cosmetic.dest rt, cosmetic.destSeqno rt, cosmetic.ifindex rt, cosmetic.nextHop rt,
    cosmetic.hcnt rt, cosmetic.state rt⟩

/-- The valid entry has been invalidated. -/
structure Retired (new old : RtEntry) : Prop where
  destAddr : new.destAddr = old.destAddr
  destSeqno : new.destSeqno = seqnoIncr old.destSeqno
  ifindex : new.ifindex = old.ifindex
  nextHop : new.nextHop = old.nextHop
  hcnt : new.hcnt = old.hcnt
  valid : old.state = .valid
  invalid : new.state = .invalid

theorem Retired.of_samePath {new middle old : RtEntry} (retired : Retired middle old)
    (same : SamePath new middle) : Retired new old :=
  ⟨same.destAddr.trans retired.destAddr, same.destSeqno.trans retired.destSeqno,
    same.ifindex.trans retired.ifindex, same.nextHop.trans retired.nextHop,
    same.hcnt.trans retired.hcnt, retired.valid, same.state.trans retired.invalid⟩

theorem Retired.after_samePath {new middle old : RtEntry} (retired : Retired new middle)
    (same : SamePath middle old) : Retired new old :=
  ⟨retired.destAddr.trans same.destAddr, retired.destSeqno.trans (congrArg _ same.destSeqno),
    retired.ifindex.trans same.ifindex, retired.nextHop.trans same.nextHop,
    retired.hcnt.trans same.hcnt, same.state ▸ retired.valid, retired.invalid⟩

theorem retired_invalidated {rt : RtEntry} (valid : rt.state = .valid) : Retired rt.invalidated rt :=
  ⟨rfl, rfl, rfl, rfl, rfl, valid, rfl⟩

/-- The entry has taken an offer over. -/
structure Adopted (new : RtEntry) (offer : Offer) (old : RtEntry) : Prop where
  destAddr : new.destAddr = old.destAddr
  destSeqno : new.destSeqno = offer.seqno
  ifindex : new.ifindex = old.ifindex
  nextHop : new.nextHop = offer.next
  hcnt : new.hcnt = offer.hcnt
  flags : new.flags = updateFlags old offer
  state : new.state = offer.state

/-- The HELLO timer of a valid route of several hops has expired while routes are repaired. -/
structure LostFar (config : Config) (state : State) (dest : Addr) (rt : RtEntry) : Prop where
  repairs : config.localRepair = true
  valid : rt.state = .valid
  bidirectional : rt.flags.unidir = false
  far : rt.hcnt ≠ 1
  batch : ∃ rest, state.timers.expTq = .helloTimer dest :: rest

/-- Why a route is lost. While a control message is handled, a link breaks only because the
neighbour behind it has moved away or, with unidirectional links, to ask for an
acknowledgement. -/
inductive Loses (config : Config) (event : Event) (origin before : State) (dest : Addr) : Prop
  | quiet (quiet : event.Local)
  | suspect (hack : config.unidirHack = true) (received : Received) (rreq : Rreq)
      (handles : HandlesRreq config event origin received rreq)
  | farther (offer : Offer) (rt : RtEntry) (other : offer.dest ≠ dest) (breaks : offer.Breaks rt)
      (cause : Updates config event origin before rt offer)

theorem Loses.of_timers {config : Config} {event : Event} {origin before : State} {dest : Addr}
    (due : event = .timers) : Loses config event origin before dest :=
  .quiet (due ▸ trivial)

/-- What an operation on the routing tables does to the entry of a destination. -/
inductive EntryChange (config : Config) (event : Event) (origin before : State) (dest : Addr) :
    Option RtEntry → Option RtEntry → Prop
  | absent : EntryChange config event origin before dest none none
  | keep {old new : RtEntry} (same : SameRoute new old) :
      EntryChange config event origin before dest (some old) (some new)
  | mark {old new : RtEntry} (same : SamePath new old)
      (unidir : old.flags.unidir = true → new.flags.unidir = true)
      (repair : new.flags.repair = true → old.flags.repair = true ∨ LostFar config before dest old) :
      EntryChange config event origin before dest (some old) (some new)
  | insert (offer : Offer) (here : offer.dest = dest)
      (cause : Inserts config event origin before offer) :
      EntryChange config event origin before dest none (some offer.entry)
  | update {old new : RtEntry} (offer : Offer) (here : offer.dest = dest)
      (cause : Updates config event origin before old offer) (adopted : Adopted new offer old) :
      EntryChange config event origin before dest (some old) (some new)
  | retire {old new : RtEntry} (retired : Retired new old)
      (cause : Loses config event origin before dest) :
      EntryChange config event origin before dest (some old) (some new)
  | error {old new : RtEntry} (received : Received) (message : Rerr) (seqno : Seqno)
      (handles : HandlesRerr config event received message)
      (listed : (dest, seqno) ∈ message.udest.take message.destCount)
      (valid : old.state = .valid) (through : old.nextHop = received.src)
      (same : SamePath new { old with
        destSeqno := seqno, state := if message.noDelete then .valid else .invalid })
      (flags : new.flags = old.flags) :
      EntryChange config event origin before dest (some old) (some new)
  | delete (old : RtEntry)
      (handler : (before.timers.timer (.rtTimer dest)).handler = some .routeDeleteTimeout)
      (due : event = .timers) :
      EntryChange config event origin before dest (some old) none

section

variable {config : Config} {event : Event} {origin before : State} {dest : Addr}

theorem EntryChange.refl (entry : Option RtEntry) :
    EntryChange config event origin before dest entry entry := by
  cases entry with
  | none => exact .absent
  | some rt => exact .keep (.refl rt)

/-- An entry is cut by a link break: it is retired or stays as it is on the route. -/
theorem RtEntry.cut_cases (neighbor : Addr) (repair : Bool) (dest : Addr) (rt : RtEntry) :
    Retired (rt.cut neighbor repair dest) rt ∨ SameRoute (rt.cut neighbor repair dest) rt := by
  unfold RtEntry.cut RtEntry.retired
  by_cases valid : rt.state = .valid
  · have retired := retired_invalidated valid
    have destroyed := retired.of_samePath (cosmetic_precursorListDestroy.samePath _)
    simp only [valid, if_true, true_and]
    split
    · split
      · exact .inl retired
      · exact .inl destroyed
    · split
      · split
        · have marked : rt.markRepair.state = .valid := valid
          exact .inl ((retired_invalidated marked).after_samePath (cosmetic_markRepair.samePath rt))
        · exact .inl destroyed
      · exact .inr (.refl rt)
  · simp only [valid, if_false, false_and]
    split
    · split
      · exact .inr (.refl rt)
      · exact .inr (touch_precursorListDestroy.sameRoute rt)
    · exact .inr (.refl rt)

theorem EntryChange.of_cut (cause : Loses config event origin before dest) (neighbor : Addr)
    (repair : Bool) (entry : Option RtEntry) :
    EntryChange config event origin before dest entry
      (entry.map (RtEntry.cut neighbor repair dest)) := by
  cases entry with
  | none => exact .absent
  | some rt =>
    rcases rt.cut_cases neighbor repair dest with retired | same
    · exact .retire retired cause
    · exact .keep same

theorem EntryChange.of_neighborLinkBreak (cause : Loses config event origin before dest)
    (state : State) (sound : state.rtTbl.Sound) (broken : Addr) :
    EntryChange config event origin before dest (entryAt state dest)
      (entryAt (neighborLinkBreak config broken state) dest) := by
  rcases neighborLinkBreak_cases config broken state with far | ⟨rt, found, hcnt⟩
  · rw [far]
    exact .refl _
  · rw [entryAt_neighborLinkBreak config sound found hcnt]
    exact .of_cut cause ..

/-- A link is marked before it breaks. The mark stays only if the link does not break. -/
theorem EntryChange.of_marked_break (cause : Loses config event origin before dest) (state : State)
    (sound : state.rtTbl.Sound) {broken : Addr}
    {mark : RtEntry → RtEntry} (cosmetic : Cosmetic mark)
    (unidir : ∀ rt, rt.flags.unidir = true → (mark rt).flags.unidir = true)
    (justified : ∀ rt, entryAt state broken = some rt → (mark rt).flags.repair = true →
      rt.flags.repair = true ∨ LostFar config before broken rt ∨ rt.state = .valid ∧ rt.hcnt = 1) :
    EntryChange config event origin before dest (entryAt state dest)
      (entryAt (neighborLinkBreak config broken (setEntry broken mark state)) dest) := by
  have markedSound := sound.setEntry cosmetic.toGentle broken
  have marked := entryAt_setEntry cosmetic.dest broken
  by_cases same : dest = broken
  · subst same
    cases found : entryAt state dest with
    | none =>
      have gone : entryAt (setEntry dest mark state) dest = none := by
        rw [marked, if_pos rfl, found, Option.map_none]
      rw [neighborLinkBreak_of_far config fun rt there => absurd (gone.symm.trans there) (by simp),
        gone]
      exact .absent
    | some rt =>
      have there : entryAt (setEntry dest mark state) dest = some (mark rt) := by
        rw [marked, if_pos rfl, found, Option.map_some]
      have path := cosmetic.samePath rt
      by_cases near : rt.hcnt = 1
      · rw [entryAt_neighborLinkBreak config markedSound there (path.hcnt.trans near), there,
          Option.map_some]
        rcases (mark rt).cut_cases dest (mark rt).flags.repair dest with retired | same
        · exact .retire (retired.after_samePath path) cause
        · by_cases valid : rt.state = .valid
          · have markedValid : (mark rt).state = .valid := path.state.trans valid
            have retiredState : ((mark rt).cut dest (mark rt).flags.repair dest).state = .invalid := by
              unfold RtEntry.cut RtEntry.retired
              rw [if_pos rfl, if_pos markedValid]
              split <;> rfl
            exact absurd (same.state.trans markedValid) (by rw [retiredState]; simp)
          · refine .mark (same.samePath.trans path)
              (fun was => (RtEntry.cut_unidir ..).trans (unidir rt was)) fun repaired => ?_
            rw [RtEntry.cut_flags_self] at repaired
            rcases justified rt found repaired with before | lost | broke
            · exact .inl before
            · exact .inr lost
            · exact absurd broke.1 valid
      · have far : ∀ other, entryAt (setEntry dest mark state) dest = some other → other.hcnt ≠ 1 := by
          intro other otherFound
          obtain rfl := Option.some.inj (there.symm.trans otherFound)
          rwa [path.hcnt]
        rw [neighborLinkBreak_of_far config far, there]
        refine .mark path (unidir rt) fun repaired => ?_
        rcases justified rt found repaired with before | lost | broke
        · exact .inl before
        · exact .inr lost
        · exact absurd broke.2 near
  · have unmarked : entryAt (setEntry broken mark state) dest = entryAt state dest := by
      rw [marked, if_neg same]
    rw [← unmarked]
    exact .of_neighborLinkBreak cause _ markedSound broken

theorem EntryChange.of_helloTimeout (cause : Loses config event origin before dest)
    {broken : Addr} {rest : List TimerId} (sound : before.rtTbl.Sound)
    (batch : before.timers.expTq = .helloTimer broken :: rest) :
    EntryChange config event origin before dest (entryAt before dest)
      (entryAt (helloTimeout config broken (popTimer (.helloTimer broken) rest before)) dest) := by
  have popped : entryAt (popTimer (.helloTimer broken) rest before) = entryAt before := rfl
  unfold helloTimeout
  rw [popped]
  split
  · exact .refl _
  · rename_i rt found
    split
    · rename_i lost
      split
      · rename_i repairs
        refine .of_marked_break cause (popTimer (.helloTimer broken) rest before) sound
          cosmetic_markRepair (fun _ => id) fun other otherFound _ => .inr ?_
        obtain rfl := Option.some.inj (found.symm.trans otherFound)
        by_cases near : rt.hcnt = 1
        · exact .inr ⟨lost.1, near⟩
        · exact .inl ⟨repairs.1, lost.1, lost.2, near, rest, batch⟩
      · exact .of_neighborLinkBreak cause (popTimer (.helloTimer broken) rest before) sound broken
    · exact .refl _

/-- A RERR writes its sequence number into the entry of a listed destination. -/
theorem entryAt_rerrInvalidate (config : Config) (noDelete : Bool) {broken : Addr} (seqno : Seqno)
    {state : State} {rt : RtEntry} (found : entryAt state broken = some rt)
    (valid : rt.state = .valid) (other : Addr) :
    entryAt (rerrInvalidate config noDelete broken seqno state) other =
      if other = broken then some ((if noDelete then rt else rt.invalidated).setSeqno seqno)
      else entryAt state other := by
  have retired : rt.retired = rt.invalidated := if_pos valid
  unfold rerrInvalidate
  rw [entryAt_setEntry (gentle_setSeqno seqno).dest]
  cases noDelete with
  | true =>
    simp only [if_true, found, Option.map_some]
  | false =>
    simp only [Bool.false_eq_true, if_false, entryAt_rtTableInvalidate, if_true, found,
      Option.map_some, retired]
    split <;> rfl

/-- What an operation on the routing tables does to the entry of every destination. -/
theorem RouteAct.entryChange {after : State} (act : RouteAct config event origin before after)
    (sound : before.rtTbl.Sound) (dest : Addr) :
    EntryChange config event origin before dest (entryAt before dest) (entryAt after dest) := by
  cases act with
  | touch other touch =>
    rw [entryAt_setEntry touch.dest]
    split
    · rename_i same
      subst same
      cases entryAt before dest with
      | none => exact .absent
      | some rt => exact .keep (touch.sameRoute rt)
    · exact .refl _
  | insert offer fresh cause =>
    rw [entryAt_rtTableInsert config offer fresh]
    split
    · rename_i same
      subst same
      rw [fresh]
      exact .insert offer rfl cause
    · exact .refl _
  | update offer rt found cause =>
    by_cases same : dest = offer.dest
    · subst same
      obtain ⟨base, updated, destAddr, ifindex, _⟩ :=
        entryAt_rtTableUpdate_self config offer sound found
      rw [updated, found]
      exact .update offer rfl cause ⟨destAddr, rfl, ifindex, rfl, rfl, rfl, rfl⟩
    · rw [entryAt_rtTableUpdate_other config offer sound found same]
      split
      · rename_i breaks
        exact .of_cut (.farther offer rt (Ne.symm same) breaks cause) ..
      · exact .refl _
  | linkBreak broken quiet => exact .of_neighborLinkBreak (.quiet quiet) before sound broken
  | unidirBreak broken hack received rreq handles =>
    exact .of_marked_break (.suspect hack received rreq handles) before sound cosmetic_markUnidir
      (fun _ _ => rfl) fun _ _ repaired => .inl repaired
  | helloBreak broken rest batch due => exact .of_helloTimeout (.of_timers due) sound batch
  | expire other _ _ _ due =>
    rw [entryAt_rtTableInvalidate]
    split
    · rename_i same
      subst same
      cases entryAt before dest with
      | none => exact .absent
      | some rt =>
        show EntryChange _ _ _ _ _ _ (some rt.retired)
        unfold RtEntry.retired
        split
        · exact .retire (retired_invalidated ‹_›) (.of_timers due)
        · exact .keep (.refl rt)
    · exact .refl _
  | error received message other seqno rt handles listed found valid through =>
    rw [entryAt_rerrInvalidate config message.noDelete seqno found valid]
    split
    · rename_i same
      subst same
      rw [found]
      refine .error received message seqno handles listed valid through ⟨?_, rfl, ?_, ?_, ?_, ?_⟩ ?_ <;>
        cases message.noDelete <;> first | rfl | exact valid
    · exact .refl _
  | delete other handler due =>
    rw [entryAt_rtTableDelete]
    split
    · rename_i same
      subst same
      cases entryAt before dest with
      | none => exact .absent
      | some rt => exact .delete rt handler due
    · exact .refl _
  | repair other rt found =>
    obtain ⟨reported, aside, result⟩ := localRepairTimeout_of_some config found
    have entries : entryAt (localRepairTimeout config other before) dest =
        if dest = other then some rt.unmarkRepair.precursorListDestroy else entryAt before dest := by
      rw [result]
      show entryAt (precursorListDestroy other reported) dest = _
      rw [precursorListDestroy, entryAt_setEntry gentle_precursorListDestroy.dest, aside.entryAt,
        aside.entryAt]
      show (if dest = other then (entryAt (setEntry _ _ _) _).map _ else entryAt (setEntry _ _ _) _) = _
      rw [entryAt_setEntry cosmetic_unmarkRepair.dest, entryAt_setEntry cosmetic_unmarkRepair.dest,
        if_pos rfl, found]
      split <;> rfl
    rw [entries]
    split
    · rename_i same
      subst same
      rw [found]
      exact .mark
        ((cosmetic_precursorListDestroy.samePath _).trans (cosmetic_unmarkRepair.samePath rt)) id
        fun repaired => absurd repaired Bool.false_ne_true
    · exact .refl _

theorem Act.entryChange {after : State} (act : Act config event origin before after)
    (sound : before.rtTbl.Sound) (dest : Addr) :
    EntryChange config event origin before dest (entryAt before dest) (entryAt after dest) := by
  rcases act.route_or_same with route | ⟨rtTbl, _⟩
  · exact route.entryChange sound dest
  · have same : entryAt after dest = entryAt before dest := by rw [entryAt, entryAt, rtTbl]
    rw [same]
    exact .refl _

/-- What every change of the entry of a destination keeps, an event keeps. -/
theorem Handled.entryInvariant {final : State} (handled : Handled config origin event final)
    (regular : Regular config origin) (dest : Addr) (property : Option RtEntry → Prop)
    (kept : ∀ before old new, EntryChange config event origin before dest old new →
      property old → property new)
    (initial : property (entryAt origin dest)) : property (entryAt final dest) :=
  handled.invariant_of_ignored (fun state => property (entryAt state dest)) regular
    (fun first _ regular act => kept first _ _ (act.entryChange regular.sound dest))
    (fun _ => id) (fun _ _ _ => id) initial

end

/-! ### Changes of both tables -/

/-- The entries agree on what the kernel is told. -/
structure SameHop (new old : RtEntry) : Prop where
  ifindex : new.ifindex = old.ifindex
  nextHop : new.nextHop = old.nextHop
  hcnt : new.hcnt = old.hcnt
  state : new.state = old.state

theorem SameHop.refl (rt : RtEntry) : SameHop rt rt := ⟨rfl, rfl, rfl, rfl⟩

theorem SameHop.trans {first second third : RtEntry} (late : SameHop first second)
    (early : SameHop second third) : SameHop first third :=
  ⟨late.ifindex.trans early.ifindex, late.nextHop.trans early.nextHop, late.hcnt.trans early.hcnt,
    late.state.trans early.state⟩

theorem Cosmetic.sameHop {change : RtEntry → RtEntry} (cosmetic : Cosmetic change) (rt : RtEntry) :
    SameHop (change rt) rt :=
  ⟨cosmetic.ifindex rt, cosmetic.nextHop rt, cosmetic.hcnt rt, cosmetic.state rt⟩

/-- A step on the view of a destination in which no route comes up. -/
inductive ViewStep : RouteView → RouteView → Prop
  | change (view : RouteView) {change : RtEntry → RtEntry} (same : ∀ rt, SameHop (change rt) rt) :
      ViewStep view (view.change change)
  | invalidate (view : RouteView) : ViewStep view view.invalidate
  | delete (view : RouteView) : ViewStep view view.delete

abbrev ViewSteps : RouteView → RouteView → Prop := Relation.ReflTransGen ViewStep

theorem RouteView.delete_entry (view : RouteView) : view.delete.entry = none := by
  unfold RouteView.delete
  split
  · assumption
  · split <;> rfl

/-- An entry that is valid after such a step was valid before, and its routes are untouched. -/
theorem ViewStep.of_valid {old new : RouteView} (step : ViewStep old new) {rt : RtEntry}
    (found : new.entry = some rt) (valid : rt.state = .valid) :
    ∃ before, old.entry = some before ∧ SameHop rt before ∧ new.routes = old.routes := by
  cases step with
  | change same =>
    obtain ⟨before, beforeFound, rfl⟩ := Option.map_eq_some_iff.mp found
    exact ⟨before, beforeFound, same before, rfl⟩
  | invalidate =>
    unfold RouteView.invalidate at found ⊢
    split at found
    · rename_i absent
      exact absurd (absent.symm.trans found) (by simp)
    · rename_i before beforeFound
      split at found
      · have retired : old.entry.map RtEntry.invalidated = some rt := found
        rw [beforeFound] at retired
        obtain rfl := Option.some.inj retired
        exact RouteState.noConfusion valid
      · rename_i invalid
        obtain rfl := Option.some.inj (beforeFound.symm.trans found)
        exact absurd valid invalid
  | delete =>
    exact absurd (old.delete_entry.symm.trans found) (by simp)

theorem ViewSteps.of_valid {old new : RouteView} (steps : ViewSteps old new) {rt : RtEntry}
    (found : new.entry = some rt) (valid : rt.state = .valid) :
    ∃ before, old.entry = some before ∧ SameHop rt before ∧ new.routes = old.routes := by
  induction steps generalizing rt with
  | refl => exact ⟨rt, found, .refl rt, rfl⟩
  | tail _ last inductionHypothesis =>
    obtain ⟨middle, middleFound, late, lateRoutes⟩ := last.of_valid found valid
    obtain ⟨before, beforeFound, early, earlyRoutes⟩ :=
      inductionHypothesis middleFound (late.state.symm.trans valid)
    exact ⟨before, beforeFound, late.trans early, lateRoutes.trans earlyRoutes⟩

/-- Such steps keep the hop count. -/
theorem ViewSteps.hcnt {old new : RouteView} (steps : ViewSteps old new) {rt : RtEntry}
    (found : new.entry = some rt) : ∃ before, old.entry = some before ∧ rt.hcnt = before.hcnt := by
  induction steps generalizing rt with
  | refl => exact ⟨rt, found, rfl⟩
  | tail _ last inductionHypothesis =>
    cases last with
    | change same =>
      obtain ⟨middle, middleFound, rfl⟩ := Option.map_eq_some_iff.mp found
      obtain ⟨before, beforeFound, hcnt⟩ := inductionHypothesis middleFound
      exact ⟨before, beforeFound, (same middle).hcnt.trans hcnt⟩
    | invalidate =>
      rw [RouteView.invalidate_entry] at found
      obtain ⟨middle, middleFound, rfl⟩ := Option.map_eq_some_iff.mp found
      obtain ⟨before, beforeFound, hcnt⟩ := inductionHypothesis middleFound
      refine ⟨before, beforeFound, ?_⟩
      rw [← hcnt, RtEntry.retired]
      split <;> rfl
    | delete => exact absurd ((RouteView.delete_entry _).symm.trans found) (by simp)

theorem viewSteps_cut (neighbor : Addr) (repair : Bool) (dest : Addr) (view : RouteView) :
    ViewSteps view (view.cut neighbor repair dest) := by
  have destroyed : ViewSteps view (view.invalidate.change RtEntry.precursorListDestroy) :=
    .tail (.single (.invalidate view)) (.change _ cosmetic_precursorListDestroy.sameHop)
  unfold RouteView.cut
  split
  · exact .refl
  · split
    · split
      · exact .single (.invalidate view)
      · exact destroyed
    · split
      · split
        · exact .tail (.single (.change view cosmetic_markRepair.sameHop)) (.invalidate _)
        · exact destroyed
      · exact .refl

theorem viewSteps_setEntry {change : RtEntry → RtEntry}
    (keepsDest : ∀ rt, (change rt).destAddr = rt.destAddr) (same : ∀ rt, SameHop (change rt) rt)
    (dest other : Addr) (state : State) :
    ViewSteps (view state other) (view (setEntry dest change state) other) := by
  rw [view_setEntry keepsDest]
  split
  · rename_i here
    subst here
    exact .single (.change _ same)
  · exact .refl

theorem viewSteps_rtTableInvalidate (config : Config) (dest other : Addr) (state : State) :
    ViewSteps (view state other) (view (rtTableInvalidate config dest state) other) := by
  rw [view_rtTableInvalidate]
  split
  · rename_i here
    subst here
    exact .single (.invalidate _)
  · exact .refl

theorem viewSteps_rtTableDelete (dest other : Addr) (state : State) :
    ViewSteps (view state other) (view (rtTableDelete dest state) other) := by
  rw [view_rtTableDelete]
  split
  · rename_i here
    subst here
    exact .single (.delete _)
  · exact .refl

theorem BreakActs.viewSteps {config : Config} {before after : State}
    (acts : BreakActs config before after) (dest : Addr) :
    ViewSteps (view before dest) (view after dest) := by
  induction acts with
  | refl => exact .refl
  | tail _ last inductionHypothesis =>
    refine inductionHypothesis.trans ?_
    cases last with
    | report act =>
      rw [act.aside.view]
    | rewrite other cosmetic => exact viewSteps_setEntry cosmetic.dest cosmetic.sameHop other dest _
    | invalidate other => exact viewSteps_rtTableInvalidate config other dest _

theorem viewSteps_rerrInvalidate (config : Config) (noDelete : Bool) (dest : Addr) (seqno : Seqno)
    (state : State) (other : Addr) :
    ViewSteps (view state other) (view (rerrInvalidate config noDelete dest seqno state) other) := by
  refine .trans ?_ (viewSteps_setEntry (gentle_setSeqno seqno).dest
    (fun _ => ⟨rfl, rfl, rfl, rfl⟩) dest other _)
  split
  · exact .refl
  · exact viewSteps_rtTableInvalidate ..

/-- What an operation does to the view of a destination. A route that comes up has its packets
released. -/
inductive ViewChange (config : Config) (event : Event) (origin before after : State) (dest : Addr) :
    RouteView → RouteView → Prop
  | calm {old new : RouteView} (steps : ViewSteps old new) :
      ViewChange config event origin before after dest old new
  | insert (offer : Offer) (here : offer.dest = dest) {old : RouteView} (fresh : old.entry = none)
      (released : offer.state = .valid → Releases config before after dest) :
      ViewChange config event origin before after dest old (old.insert offer)
  | update (offer : Offer) (here : offer.dest = dest) {old : RouteView} (rt : RtEntry)
      (found : old.entry = some rt) (cause : Updates config event origin before rt offer)
      (released : Releases config before after dest)
      (result : after = rtTableUpdate config offer before) :
      ViewChange config event origin before after dest old (old.update rt offer)
  | repair {old new : RouteView} (rt : RtEntry) (found : old.entry = some rt)
      (cause : rt.flags.repair = true ∨
        (before.timers.timer (.rtTimer dest)).handler = some .localRepairTimeout)
      (steps : ViewSteps (old.delRoute rt.hcnt rt.nextHop) new) :
      ViewChange config event origin before after dest old new

/-- What an operation on the routing tables does to the view of every destination. -/
theorem RouteAct.viewChange {config : Config} {event : Event} {origin before after : State}
    (act : RouteAct config event origin before after) (sound : before.rtTbl.Sound) (dest : Addr) :
    ViewChange config event origin before after dest (view before dest) (view after dest) := by
  cases act with
  | touch other touch =>
    exact .calm (viewSteps_setEntry touch.dest touch.toCosmetic.sameHop other dest before)
  | insert offer fresh =>
    rw [view_rtTableInsert config offer fresh]
    split
    · rename_i here
      subst here
      exact .insert offer rfl fresh (releases_rtTableInsert config sound fresh)
    · exact .calm .refl
  | update offer rt found cause =>
    rw [view_rtTableUpdate config offer sound found]
    split
    · rename_i here
      subst here
      exact .update offer rfl rt found cause
        (releases_rtTableUpdate config sound found cause.valid) rfl
    · split
      · exact .calm (viewSteps_cut ..)
      · exact .calm .refl
  | linkBreak other => exact .calm ((neighborLinkBreak_acts ..).viewSteps dest)
  | unidirBreak other =>
    exact .calm ((viewSteps_setEntry cosmetic_markUnidir.dest cosmetic_markUnidir.sameHop other dest
      before).trans ((neighborLinkBreak_acts ..).viewSteps dest))
  | helloBreak other rest =>
    exact .calm ((helloTimeout_breaks config other (popTimer (.helloTimer other) rest
      before)).viewSteps dest)
  | expire other => exact .calm (viewSteps_rtTableInvalidate config other dest before)
  | error received message other seqno => exact .calm (viewSteps_rerrInvalidate ..)
  | delete other => exact .calm (viewSteps_rtTableDelete other dest before)
  | repair other rt found cause =>
    obtain ⟨reported, aside, result⟩ := localRepairTimeout_of_some config found
    have views : view (localRepairTimeout config other before) dest =
        view (precursorListDestroy other reported) dest := by
      rw [result]
      rfl
    rw [views, view_precursorListDestroy, aside.view, aside.view, view_nlSendDelRouteMsg,
      view_nlSendDelRouteMsg, if_pos rfl, view_setEntry cosmetic_unmarkRepair.dest,
      view_setEntry cosmetic_unmarkRepair.dest, if_pos rfl]
    split
    · rename_i here
      subst here
      exact .repair rt found cause (.tail (.single (.change _ cosmetic_unmarkRepair.sameHop))
        (.change _ cosmetic_precursorListDestroy.sameHop))
    · exact .calm .refl

end Aodvd
