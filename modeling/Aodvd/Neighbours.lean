/-
This file proves that next hops are live neighbours.

A valid route leads over a neighbour whose own entry is valid, one hop away and its own
next hop. A link break takes every route over its neighbour down together with the
neighbour; the other ways to lose a route only ever meet routes nothing leads over. For
this a valid route has to expire rather than be deleted, and a HELLO timer has to belong
to a neighbour; so the three invariants are proved together.
-/

import Aodvd.RouteClocks

namespace Aodvd

variable {state first second : State} {offer : Offer} {rt : RtEntry} {repair : Bool}

/-! ### Messages of peers -/

/-- What a node running the daemon sends: hop counts leave room for one more hop, a hop count is
zero exactly if the source itself is advertised, a HELLO is about its source, and a RERR does not
list its source. -/
structure Received.FromPeer (received : Received) : Prop where
  rreq : ∀ rreq, received.msg = .rreq rreq →
    rreq.hcnt < 255 ∧ (rreq.hcnt = 0 ↔ rreq.origAddr = received.src)
  rrep : ∀ rrep, received.msg = .rrep rrep →
    rrep.hcnt < 255 ∧ (rrep.hcnt = 0 ↔ rrep.destAddr = received.src)
  hello : ∀ hello, received.hello = some hello → hello.destAddr = received.src
  rerr : ∀ rerr, received.msg = .rerr rerr →
    ∀ udest ∈ rerr.udest.take rerr.destCount, udest.1 ≠ received.src

def Event.FromPeer : Event → Prop
  | .message received => received.FromPeer
  | _ => True

/-! ### Live neighbours -/

/-- The entry of a neighbour: valid, one hop away and its own next hop. -/
def LiveAt (state : State) (hop : Addr) : Prop :=
  ∃ rt, entryAt state hop = some rt ∧ rt.state = .valid ∧ rt.hcnt = 1 ∧ rt.nextHop = hop

/-- Every valid route leads over a live neighbour. -/
def Live (state : State) : Prop :=
  ∀ dest rt, entryAt state dest = some rt → rt.state = .valid → LiveAt state rt.nextHop

theorem Ready.liveAt {config : Config} {source : Addr} (ready : Ready config state source)
    (bidirectional : config.unidirHack = false) : LiveAt state source :=
  ready.resolve_left fun hack => absurd (bidirectional.symm.trans hack) Bool.false_ne_true

theorem LiveAt.of_entry {hop : Addr} (live : LiveAt first hop)
    (same : entryAt second hop = entryAt first hop) : LiveAt second hop := by
  obtain ⟨rt, found, rest⟩ := live
  exact ⟨rt, same.trans found, rest⟩

theorem Live.of_rtTbl (live : Live first) (rtTbl : second.rtTbl = first.rtTbl) : Live second := by
  have entries : ∀ dest, entryAt second dest = entryAt first dest := fun dest => by
    rw [entryAt, entryAt, rtTbl]
  intro dest rt found valid
  exact (live dest rt ((entries dest).symm.trans found) valid).of_entry (entries _)

/-- A route offered by a peer: one hop exactly if over itself, otherwise over a live neighbour. -/
structure Offer.Peer (offer : Offer) (state : State) : Prop where
  positive : 1 ≤ offer.hcnt
  direct : offer.hcnt = 1 ↔ offer.next = offer.dest
  through : offer.next = offer.dest ∨ LiveAt state offer.next

section

variable {config : Config} {event : Event} {origin before after : State}

theorem Offer.Peer.of_hops {hcnt : Nat} (hops : offer.hops = hcnt + 1) (small : hcnt < 255)
    (direct : hcnt = 0 ↔ offer.dest = offer.next) (live : LiveAt state offer.next) :
    offer.Peer state := by
  have count : offer.hcnt = hcnt + 1 := by
    rw [Offer.hcnt, hops, Nat.mod_eq_of_lt (by omega)]
  refine ⟨by omega, ?_, .inr live⟩
  rw [count, eq_comm (a := offer.next), ← direct]
  omega

theorem Offered.peer {found : Option RtEntry}
    (offered : Offered config event origin before found offer)
    (bidirectional : config.unidirHack = false) (fromPeer : event.FromPeer) :
    offer.Peer before := by
  cases offered with
  | neighbor => exact ⟨Nat.le_refl 1, ⟨fun _ => rfl, fun _ => rfl⟩, .inl rfl⟩
  | hello => exact ⟨Nat.le_refl 1, ⟨fun _ => rfl, fun _ => rfl⟩, .inl rfl⟩
  | rreq received rreq handles ready =>
    rw [handles.event] at fromPeer
    obtain ⟨small, direct⟩ := fromPeer.rreq rreq handles.isRreq
    exact .of_hops rfl small direct (ready.liveAt bidirectional)
  | rrep received rrep handles ready =>
    rw [handles.event] at fromPeer
    obtain ⟨small, direct⟩ := fromPeer.rrep rrep handles.isRrep
    exact .of_hops rfl small direct (ready.liveAt bidirectional)

/-! ### Routes that go down -/

/-- An entry that is valid after a link break was not cut. -/
theorem RtEntry.cut_of_valid {neighbor dest : Addr}
    (valid : (rt.cut neighbor repair dest).state = .valid) :
    dest ≠ neighbor ∧ rt.nextHop ≠ neighbor ∧ rt.cut neighbor repair dest = rt := by
  unfold RtEntry.cut RtEntry.retired at valid ⊢
  split at valid
  · cases active : rt.state with
    | valid =>
      simp only [active, if_true] at valid
      split at valid <;> exact RouteState.noConfusion valid
    | invalid =>
      simp only [active, reduceCtorEq, if_false] at valid
      split at valid
      · exact RouteState.noConfusion (active.symm.trans valid)
      · exact RouteState.noConfusion (active.symm.trans valid)
  · rename_i different
    split at valid
    · split at valid <;> exact RouteState.noConfusion valid
    · rename_i unused
      exact ⟨different, fun through => unused ⟨valid, through⟩, by rw [if_neg different, if_neg unused]⟩

/-- A neighbour that is not the broken one is not cut. -/
theorem LiveAt.of_cut {hop broken : Addr} (live : LiveAt before hop) (different : hop ≠ broken)
    (entries : entryAt after hop = (entryAt before hop).map (RtEntry.cut broken repair hop)) :
    LiveAt after hop := by
  obtain ⟨rt, found, valid, near, through⟩ := live
  have kept : rt.cut broken repair hop = rt := by
    unfold RtEntry.cut
    rw [if_neg different, if_neg fun uses => different (through.symm.trans uses.2)]
  refine ⟨rt, ?_, valid, near, through⟩
  rw [entries, found, Option.map_some, kept]

/-- A link break takes the routes over its neighbour down with it. -/
theorem Live.of_cut (live : Live before) {broken : Addr}
    (entries : ∀ dest, entryAt after dest =
      (entryAt before dest).map (RtEntry.cut broken repair dest)) :
    Live after := by
  intro dest new found valid
  rw [entries] at found
  obtain ⟨old, oldFound, rfl⟩ := Option.map_eq_some_iff.mp found
  obtain ⟨_, through, kept⟩ := RtEntry.cut_of_valid valid
  rw [kept] at valid ⊢
  exact (live dest old oldFound valid).of_cut through (entries _)

theorem Live.neighborLinkBreak (live : Live state) (sound : state.rtTbl.Sound) (broken : Addr) :
    Live (Aodvd.neighborLinkBreak config broken state) := by
  rcases neighborLinkBreak_cases config broken state with far | ⟨rt, found, hcnt⟩
  · rwa [far]
  · exact live.of_cut (entryAt_neighborLinkBreak config sound found hcnt)

/-- The entries keep their routes. -/
theorem Live.setEntry (live : Live state) {change : RtEntry → RtEntry}
    (keepsDest : ∀ rt, (change rt).destAddr = rt.destAddr) (same : ∀ rt, SameHop (change rt) rt)
    (dest : Addr) : Live (Aodvd.setEntry dest change state) := by
  have forth : ∀ hop, LiveAt state hop → LiveAt (Aodvd.setEntry dest change state) hop := by
    rintro hop ⟨rt, found, valid, near, through⟩
    by_cases here : hop = dest
    · refine ⟨change rt, ?_, (same rt).state.trans valid, (same rt).hcnt.trans near,
        (same rt).nextHop.trans through⟩
      rw [entryAt_setEntry keepsDest, if_pos here, ← here, found, Option.map_some]
    · exact ⟨rt, (entryAt_setEntry keepsDest ..).trans ((if_neg here).trans found), valid, near,
        through⟩
  intro other new found valid
  rw [entryAt_setEntry keepsDest] at found
  split at found
  · obtain ⟨old, oldFound, rfl⟩ := Option.map_eq_some_iff.mp found
    rw [(same old).nextHop]
    exact forth _ (live dest old oldFound ((same old).state.symm.trans valid))
  · exact forth _ (live other new found valid)

/-- One route goes down that no route leads over. -/
theorem Live.of_retire (live : Live before) (dest : Addr) (unused : ¬ LiveAt before dest)
    (others : ∀ other, other ≠ dest → entryAt after other = entryAt before other)
    (back : ∀ new, entryAt after dest = some new → new.state = .valid →
      ∃ old, entryAt before dest = some old ∧ SameHop new old) : Live after := by
  have forth : ∀ hop, LiveAt before hop → LiveAt after hop := fun hop there =>
    there.of_entry (others hop fun same => unused (same ▸ there))
  intro other new found valid
  by_cases here : other = dest
  · subst here
    obtain ⟨old, oldFound, same⟩ := back new found valid
    rw [same.nextHop]
    exact forth _ (live other old oldFound (same.state.symm.trans valid))
  · rw [others other here] at found
    exact forth _ (live other new found valid)

/-! ### Routes that come up -/

theorem Live.rtTableInsert (live : Live state) (fresh : entryAt state offer.dest = none)
    (peer : offer.Peer state) : Live (Aodvd.rtTableInsert config offer state).1 := by
  have entries := entryAt_rtTableInsert config offer fresh
  have forth : ∀ hop, LiveAt state hop → LiveAt (Aodvd.rtTableInsert config offer state).1 hop := by
    rintro hop ⟨rt, found, rest⟩
    refine ⟨rt, ?_, rest⟩
    rw [entries, if_neg fun same => absurd (fresh.symm.trans (same ▸ found)) (by simp), found]
  intro dest new found valid
  rw [entries] at found
  split at found
  · obtain rfl := Option.some.inj found
    rcases peer.through with direct | through
    · refine ⟨offer.entry, ?_, valid, peer.direct.mpr direct, rfl⟩
      exact (entries _).trans (if_pos direct.symm)
    · exact forth _ through
  · exact forth _ (live dest new found valid)

theorem Live.rtTableUpdate (live : Live state) (sound : state.rtTbl.Sound)
    (found : entryAt state offer.dest = some rt) (comesUp : offer.state = .valid)
    (peer : offer.Peer state) : Live (Aodvd.rtTableUpdate config offer state) := by
  obtain ⟨base, updated, _⟩ := entryAt_rtTableUpdate_self config offer sound found
  -- a neighbour other than the updated one stays
  have forth : ∀ hop, hop ≠ offer.dest → LiveAt state hop →
      LiveAt (Aodvd.rtTableUpdate config offer state) hop := by
    intro hop different there
    have kept := entryAt_rtTableUpdate_other config offer sound found different
    by_cases breaks : offer.Breaks rt
    · rw [if_pos breaks] at kept
      exact there.of_cut different kept
    · rw [if_neg breaks] at kept
      exact there.of_entry kept
  -- the updated entry is a neighbour if its offer is direct
  have direct : offer.next = offer.dest →
      LiveAt (Aodvd.rtTableUpdate config offer state) offer.dest := fun through =>
    ⟨_, updated, comesUp, peer.direct.mpr through, through⟩
  intro dest new newFound valid
  by_cases here : dest = offer.dest
  · subst here
    obtain rfl := Option.some.inj (updated.symm.trans newFound)
    show LiveAt _ offer.next
    by_cases through : offer.next = offer.dest
    · rw [through]
      exact direct through
    · exact forth _ through (peer.through.resolve_left through)
  · have kept := entryAt_rtTableUpdate_other config offer sound found here
    rw [kept] at newFound
    by_cases breaks : offer.Breaks rt
    · rw [if_pos breaks] at newFound
      obtain ⟨old, oldFound, rfl⟩ := Option.map_eq_some_iff.mp newFound
      obtain ⟨_, through, same⟩ := RtEntry.cut_of_valid valid
      rw [same] at valid ⊢
      exact forth _ through (live dest old oldFound valid)
    · rw [if_neg breaks] at newFound
      have there := live dest new newFound valid
      by_cases through : new.nextHop = offer.dest
      · -- the updated entry is the next hop: it was a neighbour and is one still
        rw [through] at there ⊢
        obtain ⟨neighbor, neighborFound, _, near, _⟩ := there
        obtain rfl := Option.some.inj (found.symm.trans neighborFound)
        have single : offer.hcnt = 1 := by
          have := peer.positive
          have : ¬ 1 < offer.hcnt := fun longer => breaks ⟨longer, near⟩
          omega
        exact direct (peer.direct.mp single)
      · exact forth _ through there

/-! ### Operations -/

theorem RouteAct.live (act : RouteAct config event origin before after)
    (sound : before.rtTbl.Sound) (bidirectional : config.unidirHack = false)
    (fromPeer : event.FromPeer) (sober : Sober before) (live : Live before) : Live after := by
  cases act with
  | touch dest touch => exact live.setEntry touch.dest touch.toCosmetic.sameHop dest
  | insert offer fresh cause =>
    exact live.rtTableInsert fresh (cause.offered.peer bidirectional fromPeer)
  | update offer rt found cause =>
    exact live.rtTableUpdate sound found cause.valid (cause.offered.peer bidirectional fromPeer)
  | linkBreak dest => exact live.neighborLinkBreak sound dest
  | unidirBreak dest hack => exact absurd (bidirectional.symm.trans hack) Bool.false_ne_true
  | helloBreak dest rest =>
    have popped : Live (popTimer (.helloTimer dest) rest before) := live
    have poppedSound : (popTimer (.helloTimer dest) rest before).rtTbl.Sound := sound
    unfold helloTimeout
    split
    · exact popped
    · split
      · split
        · exact Live.neighborLinkBreak
            (popped.setEntry cosmetic_markRepair.dest cosmetic_markRepair.sameHop dest)
            (poppedSound.setEntry cosmetic_markRepair.toGentle dest) dest
        · exact popped.neighborLinkBreak poppedSound dest
      · exact popped
  | expire dest rt found far =>
    refine live.of_retire dest ?_ (fun other different => ?_) fun new newFound valid => ?_
    · rintro ⟨other, otherFound, _, near, _⟩
      obtain rfl := Option.some.inj (found.symm.trans otherFound)
      exact far near
    · exact (entryAt_rtTableInvalidate ..).trans (if_neg different)
    · obtain ⟨old, oldFound, same, _⟩ :=
        (viewSteps_rtTableInvalidate config dest dest before).of_valid newFound valid
      exact ⟨old, oldFound, same⟩
  | error received message dest seqno rt handles listed found valid through =>
    rw [handles.event] at fromPeer
    have foreign : dest ≠ received.src := fromPeer.rerr message handles.isRerr (dest, seqno) listed
    refine live.of_retire dest ?_ (fun other different => ?_) fun new newFound valid => ?_
    · rintro ⟨other, otherFound, _, _, direct⟩
      obtain rfl := Option.some.inj (found.symm.trans otherFound)
      exact foreign (direct.symm.trans through)
    · exact (entryAt_rerrInvalidate config message.noDelete seqno found valid other).trans
        (if_neg different)
    · obtain ⟨old, oldFound, same, _⟩ :=
        (viewSteps_rerrInvalidate config message.noDelete dest seqno before dest).of_valid
          newFound valid
      exact ⟨old, oldFound, same⟩
  | delete dest handler =>
    refine live.of_retire dest ?_ (fun other different => ?_) fun new newFound valid => ?_
    · rintro ⟨rt, found, valid, _⟩
      have expires := sober.expires dest ⟨rt, found, valid⟩
      exact Handler.noConfusion (Option.some.inj (expires.symm.trans handler))
    · exact (entryAt_rtTableDelete ..).trans (if_neg different)
    · rw [entryAt_rtTableDelete, if_pos rfl] at newFound
      exact absurd newFound (by simp)
  | repair dest rt found cause =>
    obtain ⟨reported, aside, result⟩ := localRepairTimeout_of_some config found
    have unmarked : Live (setEntry dest RtEntry.unmarkRepair before) :=
      live.setEntry cosmetic_unmarkRepair.dest cosmetic_unmarkRepair.sameHop dest
    have noted : Live reported := unmarked.of_rtTbl aside.rtTbl
    rw [result]
    exact (noted.setEntry cosmetic_precursorListDestroy.dest cosmetic_precursorListDestroy.sameHop
      dest).of_rtTbl rfl

/-! ### HELLO timers of neighbours -/

/-- A HELLO timer in use belongs to an entry of one hop. -/
def HelloNear (state : State) : Prop :=
  ∀ dest rt, timerUsed state (.helloTimer dest) = true → entryAt state dest = some rt → rt.hcnt = 1

/-- The timer of a batch is in use, so no route of several hops is lost. -/
theorem HelloNear.not_lostFar (helloNear : HelloNear state) (clocked : Clocked state)
    (dest : Addr) (rt : RtEntry) (found : entryAt state dest = some rt) :
    ¬ LostFar config state dest rt := by
  intro lost
  obtain ⟨rest, batch⟩ := lost.batch
  refine lost.far (helloNear dest rt ((clocked.linked.used _).mpr ?_) found)
  exact List.mem_append_right _ (batch ▸ List.mem_cons_self)

theorem RouteAct.helloNear (act : RouteAct config event origin before after)
    (sound : before.rtTbl.Sound) (bidirectional : config.unidirHack = false)
    (fromPeer : event.FromPeer) (sober : Sober before) (clocked : Clocked before)
    (helloNear : HelloNear before) : HelloNear after := by
  intro dest rt used found
  have usedBefore := (act.routeClock sober).heard dest used
  have viewFound : (view after dest).entry = some rt := found
  have change := act.viewChange sound dest
  generalize view after dest = new at change viewFound
  cases change with
  | calm steps =>
    obtain ⟨old, oldFound, hcnt⟩ := steps.hcnt viewFound
    exact hcnt.trans (helloNear dest old usedBefore oldFound)
  | insert offer _ fresh =>
    have owned : (entryAt before dest).isSome = true := clocked.owned _ usedBefore
    rw [show entryAt before dest = none from fresh] at owned
    exact absurd owned Bool.false_ne_true
  | update offer here old oldFound cause _ result =>
    subst here
    obtain ⟨base, updated, _⟩ := entryAt_rtTableUpdate_self config offer sound oldFound
    obtain rfl := Option.some.inj ((result ▸ updated).symm.trans found)
    show offer.hcnt = 1
    have kept : ¬ offer.Breaks old := fun breaks => absurd
      ((timerUsed_rtTableUpdate_of_breaks config oldFound breaks).symm.trans (result ▸ used))
      Bool.false_ne_true
    have short : ¬ 1 < offer.hcnt := fun longer =>
      kept ⟨longer, helloNear offer.dest old usedBefore oldFound⟩
    have positive := (cause.offered.peer bidirectional fromPeer).positive
    omega
  | repair old oldFound _ steps =>
    obtain ⟨same, sameFound, hcnt⟩ := steps.hcnt viewFound
    exact hcnt.trans (helloNear dest same usedBefore sameFound)

/-- The invariants of neighbours. -/
structure Neighbourly (state : State) : Prop where
  clocked : Clocked state
  sober : Sober state
  helloNear : HelloNear state
  live : Live state

theorem Act.neighbourly (act : Act config event origin before after)
    (regular : Regular config before) (bidirectional : config.unidirHack = false)
    (fromPeer : event.FromPeer) (current : Neighbourly before) : Neighbourly after where
  clocked := act.clockStep.clocked current.clocked
  sober := act.sober regular.sound current.sober (current.helloNear.not_lostFar current.clocked)
  helloNear := by
    rcases act.route_or_same with route | ⟨rtTbl, _⟩
    · exact route.helloNear regular.sound bidirectional fromPeer current.sober current.clocked
        current.helloNear
    · intro dest rt used found
      rw [entryAt, rtTbl] at found
      rcases act.routeClock_or_hears current.sober with routeClock | ⟨heard, hears⟩
      · exact current.helloNear dest rt (routeClock.heard dest used) found
      · by_cases here : dest = heard
        · subst here
          obtain ⟨old, oldFound, near⟩ := hears.near
          obtain rfl := Option.some.inj (oldFound.symm.trans found)
          exact near.resolve_right fun hack =>
            absurd (bidirectional.symm.trans hack) Bool.false_ne_true
        · obtain ⟨msec, rfl⟩ := hears.armed
          refine current.helloNear dest rt ?_ found
          rwa [timerUsed, show (setTimeout (.helloTimer heard) msec before).timers.timer _ = _ from
            timer_timerSetTimeout .., if_neg fun same => here (TimerId.helloTimer.inj same)] at used
  live := by
    rcases act.route_or_same with route | ⟨rtTbl, _⟩
    · exact route.live regular.sound bidirectional fromPeer current.sober current.live
    · exact current.live.of_rtTbl rtTbl

/-! ### Runs -/

theorem Neighbourly.of_same (current : Neighbourly first) (clocked : Clocked second)
    (timers : second.timers = first.timers) (rtTbl : second.rtTbl = first.rtTbl) :
    Neighbourly second where
  clocked := clocked
  sober := current.sober.of_same timers rtTbl
  helloNear dest rt used found := by
    rw [timerUsed, timers] at used
    rw [entryAt, rtTbl] at found
    exact current.helloNear dest rt used found
  live := current.live.of_rtTbl rtTbl

theorem Handled.neighbourly {final : State} (handled : Handled config origin event final)
    (atRest : AtRest config origin) (bidirectional : config.unidirHack = false)
    (fromPeer : event.FromPeer) (current : Neighbourly origin) : Neighbourly final := by
  refine handled.invariant_of_ignored Neighbourly atRest.toRegular ?_ ?_ ?_ current
  · exact fun _ _ regular act current => act.neighbourly regular bidirectional fromPeer current
  · exact fun _ current => ⟨atRest.gather, ⟨current.sober.unmarked, current.sober.expires⟩,
      current.helloNear, current.live.of_rtTbl rfl⟩
  · intro state pq history current
    have clockStep : ClockStep state { state with pq := pq, history := history } :=
      clockStep_of_same rfl rfl (fun _ => id) rfl rfl
    exact current.of_same (clockStep.clocked current.clocked) rfl rfl

theorem neighbourly_boot (config : Config) (now : Timeval) (jitter : Int) :
    Neighbourly (boot config now jitter) := by
  have empty := entryAt_boot config now jitter
  exact ⟨(atRest_boot config now jitter).clocked, sober_of_empty empty,
    fun dest rt _ found => absurd ((empty dest).symm.trans found) (by simp),
    fun dest rt found => absurd ((empty dest).symm.trans found) (by simp)⟩

theorem neighbourly_run (config : Config) (bidirectional : config.unidirHack = false)
    (now : Timeval) (jitter : Int) (inputs : List Input)
    (fromPeers : ∀ input ∈ inputs, input.event.FromPeer) :
    Neighbourly (run config now jitter inputs) := by
  refine run_invariant Neighbourly (neighbourly_boot config now jitter) ?_
    (Runs.meets_of_forall fromPeers _)
  intro state input atRest fromPeer current
  have arrived : Neighbourly (arrive input state) :=
    current.of_same (atRest.arrive input).clocked rfl rfl
  exact (step_handled atRest input).neighbourly (atRest.arrive input) bidirectional fromPeer arrived

/-- Over bidirectional links, and if all messages come from peers, every valid entry leads over
the valid entry of a neighbour. -/
theorem run_liveNextHops (config : Config) (bidirectional : config.unidirHack = false)
    (now : Timeval) (jitter : Int) (inputs : List Input)
    (fromPeers : ∀ input ∈ inputs, input.event.FromPeer) :
    ∀ rt ∈ rtEntries (run config now jitter inputs), rt.state = .valid →
      ∃ neighbor ∈ rtEntries (run config now jitter inputs), neighbor.state = .valid ∧
        neighbor.destAddr = rt.nextHop ∧ neighbor.hcnt = 1 ∧
        neighbor.nextHop = neighbor.destAddr := by
  intro rt member valid
  have sound := (atRest_run config now jitter inputs).sound
  obtain ⟨neighbor, found, isValid, near, through⟩ :=
    (neighbourly_run config bidirectional now jitter inputs fromPeers).live rt.destAddr rt
      (sound.entryAt_of_mem member) valid
  obtain ⟨isMember, dest⟩ := sound.entryAt_eq_some_iff.mp found
  exact ⟨neighbor, isMember, isValid, dest, near, through.trans dest.symm⟩

/-- A route learned from a neighbour leads over it. -/
theorem run_liveNextHops_learned :
    (entryAt (run loneConfig timevalZero 0 [inputAt 100 (rrepFrom 2#32 5#32 1#32 1)]) 5#32).map
        (fun rt => (rt.state, rt.nextHop)) = some (.valid, 2#32) ∧
      ∀ rt ∈ rtEntries (run loneConfig timevalZero 0 [inputAt 100 (rrepFrom 2#32 5#32 1#32 1)]),
        rt.state = .valid → ∃ neighbor ∈ rtEntries (run loneConfig timevalZero 0
            [inputAt 100 (rrepFrom 2#32 5#32 1#32 1)]), neighbor.state = .valid ∧
          neighbor.destAddr = rt.nextHop ∧ neighbor.hcnt = 1 ∧
          neighbor.nextHop = neighbor.destAddr := by
  refine ⟨by decide +kernel,
    run_liveNextHops loneConfig rfl timevalZero 0 _ fun input member => ?_⟩
  obtain rfl := List.mem_singleton.mp member
  exact ⟨fun _ other => AodvMsg.noConfusion other, fun rrep isRrep => by
    obtain rfl := AodvMsg.rrep.inj isRrep
    decide, fun _ isHello => by simp [Received.hello] at isHello,
    fun _ other => AodvMsg.noConfusion other⟩

end

end Aodvd
