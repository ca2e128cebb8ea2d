/-
This file follows a local repair from the link break that starts it to its end.

A link break that finds the lost neighbour marked for repair marks the routes over it as well and
invalidates them, but leaves their precursors, which `local_repair_timeout` is to tell when the
repair fails. Between the two, only the handler `route_expire_timeout` takes precursors from a
route under repair: `rreq_local_repair` installs it, and it destroys the list of a route of several
hops although the route is invalid already. In every course of the daemon in which it is not due
for a route under repair, the precursors stay until the route is valid again or
`local_repair_timeout` runs on it, and then the RERR is made.

The moves of the daemon are finer than its events: a batch of timers is collected, and each of its
handlers is a move of its own, so that a repair may start in the middle of a batch.
-/

import Aodvd.Deletions
import Aodvd.ReverseRoutes

namespace Aodvd

/-! ### Moves -/

/-- A move of the daemon: the expired timers are collected, the first of them runs, or another
event is handled. -/
inductive Move
  | collect (input : Input)
  | fire
  | handle (input : Input)
  deriving DecidableEq, Repr

/-- The state after a move. -/
def makeMove (config : Config) (state : State) : Move → State
  | .collect input => gather (arrive input state)
  | .fire =>
    match state.timers.expTq with
    | [] => state
    | id :: rest => runTimer config id rest state
  | .handle input => step config state input

/-- The main loop turns to an event when no expired timer is left. -/
def Move.Allowed (state : State) : Move → Prop
  | .collect _ => state.timers.expTq = []
  | .fire => state.timers.expTq ≠ []
  | .handle input => input.event ≠ .timers ∧ state.timers.expTq = []

instance (state : State) : (move : Move) → Decidable (move.Allowed state)
  | .collect _ => inferInstanceAs (Decidable (_ = _))
  | .fire => inferInstanceAs (Decidable (_ ≠ _))
  | .handle _ => inferInstanceAs (Decidable (_ ∧ _))

/-- The state after a course of moves from the start of the daemon. -/
def course (config : Config) (now : Timeval) (jitter : Int) (moves : List Move) : State :=
  moves.foldl (makeMove config) (boot config now jitter)

/-- Every move of the course is one that the main loop makes. -/
def Orderly (config : Config) (now : Timeval) (jitter : Int) (moves : List Move) : Prop :=
  Runs.Meets (makeMove config) (fun state move => move.Allowed state) (boot config now jitter) moves

instance (config : Config) (now : Timeval) (jitter : Int) (moves : List Move) :
    Decidable (Orderly config now jitter moves) :=
  inferInstanceAs (Decidable (Runs.Meets ..))

/-! ### Routes under repair -/

/-- The entry is invalid and marked for repair. -/
def RtEntry.Repairing (rt : RtEntry) : Prop := rt.state = .invalid ∧ rt.flags.repair = true

instance (rt : RtEntry) : Decidable rt.Repairing := inferInstanceAs (Decidable (_ ∧ _))

/-- The route to a destination is under repair, and has at least the precursors that are held. -/
def UnderRepair (state : State) (dest : Addr) (held : List Addr) : Prop :=
  ∃ rt, entryAt state dest = some rt ∧ rt.Repairing ∧ held ⊆ rt.precursors

instance (state : State) (dest : Addr) (held : List Addr) :
    Decidable (UnderRepair state dest held) :=
  decidable_of_iff ((entryAt state dest).any (fun rt =>
      decide (rt.Repairing ∧ held ⊆ rt.precursors)) = true) (by
    unfold UnderRepair
    cases entryAt state dest with
    | none => simp
    | some rt => simp)

/-- The repair of a route and its precursors survive. -/
def KeepsRepair (before after : State) (dest : Addr) : Prop :=
  ∀ held, UnderRepair before dest held → UnderRepair after dest held

/-- The change of an entry neither ends a repair nor takes a precursor away. -/
structure Considerate (change : RtEntry → RtEntry) : Prop where
  dest : ∀ rt, (change rt).destAddr = rt.destAddr
  repairing : ∀ rt, rt.Repairing → (change rt).Repairing
  precursors : ∀ rt, rt.precursors ⊆ (change rt).precursors

theorem considerate_precursorAdd (addr : Addr) : Considerate (RtEntry.precursorAdd addr) where
  dest := (gentle_precursorAdd addr).dest
  repairing rt repairing := by
    rw [RtEntry.Repairing, (touch_precursorAdd addr).state, (touch_precursorAdd addr).flags]
    exact repairing
  precursors rt := by
    unfold RtEntry.precursorAdd
    split
    · exact List.Subset.refl _
    · exact List.subset_cons_self _ _

theorem considerate_heardAt (time : Timeval) : Considerate (RtEntry.heardAt time) :=
  ⟨fun _ => rfl, fun _ => id, fun _ => List.Subset.refl _⟩

theorem considerate_setHelloCnt (count : Nat) : Considerate (RtEntry.setHelloCnt count) :=
  ⟨fun _ => rfl, fun _ => id, fun _ => List.Subset.refl _⟩

theorem keepsRepair_of_entry {before after : State} {dest : Addr}
    (same : entryAt after dest = entryAt before dest) : KeepsRepair before after dest :=
  fun _ ⟨rt, found, rest⟩ => ⟨rt, same.trans found, rest⟩

theorem keepsRepair_of_rtTbl {before after : State} (rtTbl : after.rtTbl = before.rtTbl)
    (dest : Addr) : KeepsRepair before after dest :=
  keepsRepair_of_entry (by rw [entryAt, entryAt, rtTbl])

theorem Kept.keepsRepair {before after : State} {dest : Addr} (kept : Kept before after dest) :
    KeepsRepair before after dest :=
  keepsRepair_of_entry kept.entry

/-- A route under repair is not valid. -/
theorem UnderRepair.not_valid {state : State} {dest : Addr} {held : List Addr} {rt : RtEntry}
    (repair : UnderRepair state dest held) (found : entryAt state dest = some rt) :
    rt.state ≠ .valid := by
  obtain ⟨stored, there, ⟨invalid, _⟩, _⟩ := repair
  obtain rfl := Option.some.inj (there.symm.trans found)
  rw [invalid]
  exact RouteState.noConfusion

section

variable {config : Config} {state : State} {dest : Addr} {held : List Addr}

theorem Considerate.keepsRepair {change : RtEntry → RtEntry} (considerate : Considerate change)
    (written : Addr) (state : State) (dest : Addr) :
    KeepsRepair state (setEntry written change state) dest := by
  rintro held ⟨rt, found, repairing, holds⟩
  by_cases same : dest = written
  · refine ⟨change rt, ?_, considerate.repairing rt repairing,
      List.Subset.trans holds (considerate.precursors rt)⟩
    rw [entryAt_setEntry considerate.dest, if_pos same, ← same, found, Option.map_some]
  · refine ⟨rt, ?_, repairing, holds⟩
    rw [entryAt_setEntry considerate.dest, if_neg same, found]

/-- A link break leaves an entry that is under repair as it is. -/
theorem RtEntry.Repairing.cut {rt : RtEntry} (repairing : rt.Repairing) (neighbor : Addr)
    (repair : Bool) (dest : Addr) : rt.cut neighbor repair dest = rt := by
  have notValid : rt.state ≠ .valid := by
    rw [repairing.1]
    exact RouteState.noConfusion
  unfold RtEntry.cut
  split
  · rw [if_pos repairing.2]
    exact if_neg notValid
  · exact if_neg fun uses => notValid uses.1

theorem keepsRepair_neighborLinkBreak (config : Config) (neighbor : Addr)
    (sound : state.rtTbl.Sound) (dest : Addr) :
    KeepsRepair state (neighborLinkBreak config neighbor state) dest := by
  rintro held ⟨rt, found, repairing, holds⟩
  refine ⟨rt, ?_, repairing, holds⟩
  rcases neighborLinkBreak_cases config neighbor state with far | ⟨broken, there, hcnt⟩
  · rwa [far]
  · rw [entryAt_neighborLinkBreak config sound there hcnt, found, Option.map_some, repairing.cut]

end

/-! ### The handler of a route under repair -/

/-- The timer of a route under repair does not delete it. -/
def MendedAt (state : State) (dest : Addr) : Prop :=
  ∀ rt, entryAt state dest = some rt → rt.Repairing →
    rtHandler state dest ≠ some .routeDeleteTimeout

/-- No route under repair becomes one that its timer deletes. -/
def Mends (before after : State) : Prop := ∀ dest, MendedAt before dest → MendedAt after dest

theorem Mends.refl (state : State) : Mends state state := fun _ => id

theorem Mends.trans {first second third : State} (early : Mends first second)
    (late : Mends second third) : Mends first third :=
  fun dest mended => late dest (early dest mended)

theorem MendedAt.of_same {before after : State} {dest : Addr} (mended : MendedAt before dest)
    (entry : entryAt after dest = entryAt before dest)
    (handler : rtHandler after dest = rtHandler before dest) : MendedAt after dest := by
  intro rt found repairing
  rw [handler]
  exact mended rt (entry ▸ found) repairing

theorem MendedAt.kept {before after : State} {dest : Addr} (mended : MendedAt before dest)
    (kept : Kept before after dest) : MendedAt after dest :=
  mended.of_same kept.entry kept.handler

theorem Keeps.mends {before after : State} (keeps : Keeps before after) : Mends before after :=
  fun dest mended => mended.kept (keeps dest)

section

variable {config : Config} {state : State} {dest : Addr}

theorem mends_setEntry {change : RtEntry → RtEntry}
    (keepsDest : ∀ rt, (change rt).destAddr = rt.destAddr)
    (repairing : ∀ rt, entryAt state dest = some rt → (change rt).Repairing → rt.Repairing) :
    Mends state (setEntry dest change state) := by
  intro other mended
  by_cases same : other = dest
  · subst same
    intro rt found isRepairing
    rw [entryAt_setEntry keepsDest, if_pos rfl] at found
    obtain ⟨old, oldFound, rfl⟩ := Option.map_eq_some_iff.mp found
    exact mended old oldFound (repairing old oldFound isRepairing)
  · exact mended.kept (kept_setEntry keepsDest same state)

theorem Touch.mends {change : RtEntry → RtEntry} (touch : Touch change) (dest : Addr)
    (state : State) : Mends state (setEntry dest change state) :=
  mends_setEntry touch.dest fun rt _ repairing => by
    rwa [RtEntry.Repairing, touch.state, touch.flags] at repairing

/-- A route that is invalidated while it is marked for repair waits for the end of the repair. -/
theorem rtHandler_rtTableInvalidate (config : Config) {rt : RtEntry}
    (found : entryAt state dest = some rt) (valid : rt.state = .valid) :
    rtHandler (rtTableInvalidate config dest state) dest =
      some (if rt.flags.repair then .localRepairTimeout else .routeDeleteTimeout) := by
  unfold rtTableInvalidate
  rw [found]
  dsimp only
  rw [if_neg (by rw [valid]; exact RouteState.noConfusion)]
  split
  · rw [rtHandler_setTimeout, rtHandler_setHandler, if_pos rfl]
  · rw [rtHandler_setTimeout, rtHandler_setHandler, if_pos rfl]

theorem mends_rtTableInvalidate (config : Config) (dest : Addr) (state : State) :
    Mends state (rtTableInvalidate config dest state) := by
  intro other mended
  by_cases same : other = dest
  · subst same
    by_cases valid : ValidAt state other
    · obtain ⟨rt, found, isValid⟩ := valid
      intro new newFound repairing
      rw [entryAt_rtTableInvalidate, if_pos rfl, found, Option.map_some] at newFound
      obtain rfl := Option.some.inj newFound
      have marked : rt.flags.repair = true := rt.retired_flags ▸ repairing.2
      rw [rtHandler_rtTableInvalidate config found isValid, if_pos marked]
      simp
    · rwa [rtTableInvalidate_of_not_valid config fun rt found isValid => valid ⟨rt, found, isValid⟩]
  · exact mended.kept (kept_rtTableInvalidate config same state)

/-- A route over the broken link is marked for repair only while it is still valid. -/
theorem BreakActs.mends {before after : State} (acts : BreakActs config before after) :
    Mends before after := by
  induction acts with
  | refl => exact .refl _
  | tail _ last inductionHypothesis =>
    refine inductionHypothesis.trans ?_
    cases last with
    | report act => exact act.aside.keeps.mends
    | rewrite dest cosmetic _ valid =>
      refine mends_setEntry cosmetic.dest fun rt found repairing => ?_
      rw [RtEntry.Repairing, cosmetic.state] at repairing
      rcases valid rt found with same | valid
      · rwa [same] at repairing
      · exact RouteState.noConfusion (valid.symm.trans repairing.1)
    | invalidate dest => exact mends_rtTableInvalidate config dest _

theorem mends_rerrInvalidate (config : Config) (noDelete : Bool) (dest : Addr) (seqno : Seqno)
    (state : State) : Mends state (rerrInvalidate config noDelete dest seqno state) := by
  refine .trans ?_ (mends_setEntry (gentle_setSeqno seqno).dest fun _ _ => id)
  split
  · exact .refl _
  · exact mends_rtTableInvalidate config dest state

theorem mends_rtTableDelete (dest : Addr) (state : State) :
    Mends state (rtTableDelete dest state) := by
  intro other mended
  by_cases same : other = dest
  · intro rt found
    rw [entryAt_rtTableDelete, if_pos same] at found
    exact nomatch found
  · exact mended.kept (kept_rtTableDelete same state)

/-- A repair that has failed is over. -/
theorem mends_localRepairTimeout (config : Config) (dest : Addr) (state : State) :
    Mends state (localRepairTimeout config dest state) := by
  intro other mended
  by_cases same : other = dest
  · subst same
    cases found : entryAt state other with
    | none =>
      rw [localRepairTimeout, found]
      exact mended
    | some rt =>
      obtain ⟨reported, aside, result⟩ := localRepairTimeout_of_some config found
      intro new newFound repairing
      have written : entryAt (precursorListDestroy other reported) other =
          some rt.unmarkRepair.precursorListDestroy := by
        rw [precursorListDestroy, entryAt_setEntry gentle_precursorListDestroy.dest, if_pos rfl,
          aside.entryAt]
        show (entryAt (setEntry other RtEntry.unmarkRepair state) other).map _ = _
        rw [entryAt_setEntry cosmetic_unmarkRepair.dest, if_pos rfl, found, Option.map_some,
          Option.map_some]
      rw [result] at newFound
      obtain rfl := Option.some.inj (written.symm.trans newFound)
      exact absurd repairing.2 Bool.false_ne_true
  · exact mended.kept (kept_localRepairTimeout config same state)

theorem mends_releaseBuffered (config : Config) (dest : Addr) (state : State) :
    Mends state (releaseBuffered config dest state) := by
  have removed : Mends state (seekListRemove dest state) := fun other mended => by
    refine mended.of_same rfl ?_
    show ((timerRemove _ _).timer _).handler = _
    rw [timer_timerRemove, if_neg (by simp)]
    rfl
  unfold releaseBuffered
  split
  · exact .refl _
  · cases sendFound : rtTableFind (seekListRemove dest state) dest with
    | none =>
      rw [packetQueueSend, sendFound]
      exact removed
    | some _ =>
      refine removed.trans (.trans (Keeps.mends ?_) (packetQueueSend_acts config sendFound).keeps.mends)
      exact keeps_detachPackets _ _ _ _

theorem mends_rtTableInsert (config : Config) {offer : Offer}
    (fresh : entryAt state offer.dest = none) :
    Mends state (rtTableInsert config offer state).1 := by
  have inserted : Mends state (insertRoute config offer state) := by
    intro other mended
    by_cases same : other = offer.dest
    · subst same
      intro rt found repairing
      obtain rfl := Option.some.inj ((entryAt_insertRoute_self config offer state).symm.trans found)
      have invalid : offer.state = .invalid := repairing.1
      have marked : offer.flags.repair = true := repairing.2
      unfold insertRoute
      dsimp only
      rw [if_pos invalid, if_pos marked, rtHandler_setTimeout, rtHandler_setHandler, if_pos rfl]
      simp
    · exact mended.kept (kept_insertRoute config same state)
  rw [rtTableInsert_of_none config offer fresh]
  dsimp only
  split
  · exact inserted.trans (mends_releaseBuffered config offer.dest _)
  · exact inserted

theorem mends_updateLinkBreak (config : Config) (rt : RtEntry) (offer : Offer) (state : State) :
    Mends state (updateLinkBreak config rt offer state) := by
  unfold updateLinkBreak
  split
  · refine .trans ?_ (neighborLinkBreak_acts config rt.destAddr _).mends
    refine .trans ?_ (keeps_removeTimer (routeless_helloTimer rt.destAddr) _).mends
    exact mends_setEntry cosmetic_forgetHellos.dest fun _ _ => id
  · exact .refl _

/-- An update ends the repair of its route, and breaks at most the link to it. -/
theorem mends_rtTableUpdate (config : Config) {offer : Offer} {rt : RtEntry}
    (sound : state.rtTbl.Sound) (found : entryAt state offer.dest = some rt)
    (valid : offer.state = .valid) : Mends state (rtTableUpdate config offer state) := by
  intro other mended
  by_cases same : other = offer.dest
  · subst same
    obtain ⟨base, here, _⟩ := entryAt_rtTableUpdate_self config offer sound found
    intro new newFound repairing
    obtain rfl := Option.some.inj (here.symm.trans newFound)
    exact RouteState.noConfusion (valid.symm.trans repairing.1)
  · have broken := (keeps_updateKernel rt offer state).mends.trans
      (mends_updateLinkBreak config rt offer _) other mended
    have updated : MendedAt (updateRoute config rt offer state) other := by
      unfold updateRoute
      rw [entryAt_destAddr found]
      dsimp only
      refine broken.kept (.trans ?_ (kept_setEntry (gentle_setState offer.state).dest same _))
      have adopted := (kept_setEntry (gentle_adopt (updateFlags rt offer) offer).dest same
        (updateLinkBreak config rt offer (updateKernel rt offer state))).trans
        (kept_setHandler same .routeExpireTimeout _)
      split
      · exact adopted
      · exact adopted.trans ((rtTableUpdateTimeout_acts ..).keeps other)
    unfold rtTableUpdate
    rw [found]
    dsimp only
    rw [if_pos valid]
    exact mends_releaseBuffered config offer.dest _ other updated

theorem rtHandler_popTimer (id : TimerId) (rest : List TimerId) (state : State) (dest : Addr) :
    rtHandler (popTimer id rest state) dest = rtHandler state dest := by
  show ((timerPop id rest state.timers).timer _).handler = _
  rw [timer_timerPop]
  split
  · rename_i same
    rw [rtHandler, same]
  · rfl

theorem mends_popTimer (id : TimerId) (rest : List TimerId) (state : State) :
    Mends state (popTimer id rest state) :=
  fun dest mended => mended.of_same rfl (rtHandler_popTimer id rest state dest)

end

section

variable {config : Config} {event : Event} {origin before after : State}

theorem RouteAct.mends (act : RouteAct config event origin before after)
    (sound : before.rtTbl.Sound) : Mends before after := by
  cases act with
  | touch dest touch => exact touch.mends dest before
  | insert offer fresh => exact mends_rtTableInsert config fresh
  | update offer rt found cause => exact mends_rtTableUpdate config sound found cause.valid
  | linkBreak dest => exact (neighborLinkBreak_acts config dest before).mends
  | unidirBreak dest =>
    exact .trans (mends_setEntry cosmetic_markUnidir.dest fun _ _ => id)
      (neighborLinkBreak_acts config dest _).mends
  | helloBreak dest rest =>
    exact (mends_popTimer _ rest before).trans (helloTimeout_breaks config dest _).mends
  | expire dest => exact mends_rtTableInvalidate config dest before
  | error received message dest seqno =>
    exact mends_rerrInvalidate config message.noDelete dest seqno before
  | delete dest => exact mends_rtTableDelete dest before
  | repair dest => exact mends_localRepairTimeout config dest before

theorem Act.mends (act : Act config event origin before after) (sound : before.rtTbl.Sound) :
    Mends before after := by
  cases act with
  | aside aside => exact aside.keeps.mends
  | timer act => exact act.keeps.mends
  | pop id rest => exact mends_popTimer id rest before
  | record origAddr rreqId => exact (keeps_rreqRecordInsert origAddr rreqId before).mends
  | forget => exact Keeps.mends (keeps_of_same rfl rfl rfl)
  | blacklist dest => exact (keeps_rreqBlacklistInsert dest before).mends
  | pardon => exact Keeps.mends (keeps_of_same rfl rfl rfl)
  | send => exact (aside_aodvSocketSend ..).keeps.mends
  | route act => exact act.mends sound
  | undertake dest =>
    intro other mended
    by_cases same : other = dest
    · intro rt found repairing
      rw [rtHandler_setHandler, if_pos same]
      simp
    · exact mended.kept (kept_setHandler same _ _)
  | hear dest msec => exact (keeps_setTimeout _ msec before).mends
  | seek dest destSeqno ttl flags msec =>
    exact (keeps_seek dest destSeqno ttl flags msec before).mends
  | retry entry rest msec =>
    refine ((mends_popTimer (.seekTimer entry.destAddr) rest before).trans ?_).trans
      (keeps_setTimeout _ msec _).mends
    exact fun dest mended => mended.of_same rfl rfl
  | giveUp entry rest =>
    refine (mends_popTimer (.seekTimer entry.destAddr) rest before).trans fun dest mended =>
      mended.of_same rfl ?_
    show ((timerRemove _ _).timer _).handler = _
    rw [timer_timerRemove, if_neg (by simp)]
    rfl
  | collect => exact (keeps_detachPackets _ _ _ before).mends
  | log => exact (keeps_setTimeout _ _ before).mends

end

/-! ### Courses -/

/-- What holds between any two moves of the daemon. -/
structure Poised (config : Config) (state : State) : Prop extends Regular config state where
  clocked : Clocked state
  mended : ∀ dest, MendedAt state dest

theorem Poised.atRest {config : Config} {state : State} (poised : Poised config state)
    (idle : state.timers.expTq = []) : AtRest config state :=
  ⟨poised.toRegular, poised.clocked, idle⟩

theorem poised_boot (config : Config) (now : Timeval) (jitter : Int) :
    Poised config (boot config now jitter) := by
  have atRest := atRest_boot config now jitter
  refine ⟨atRest.toRegular, atRest.clocked, ?_⟩
  refine (boot_acts config .timers (zeroState now jitter) now jitter).invariant
    (fun state => ∀ dest, MendedAt state dest) (regular_zeroState config now jitter)
    (fun _ _ regular act mended dest => act.mends regular.sound dest (mended dest)) ?_
  intro dest rt found
  exact nomatch found

theorem Poised.makeMove {config : Config} {state : State} {move : Move}
    (poised : Poised config state) (allowed : move.Allowed state) :
    Poised config (Aodvd.makeMove config state move) := by
  cases move with
  | collect input =>
    have atRest := (poised.atRest allowed).arrive input
    exact ⟨atRest.toRegular.of_rtTbl rfl, atRest.gather,
      fun dest => (poised.mended dest).of_same rfl rfl⟩
  | fire =>
    rw [Aodvd.makeMove]
    split
    · exact poised
    · rename_i id rest batch
      have acts : Acts config .timers state state (runTimer config id rest state) :=
        (runTimer_fires poised.toRegular poised.clocked batch).acts
      refine ⟨acts.regular poised.toRegular, acts.clockStep.clocked poised.clocked, ?_⟩
      exact acts.invariant (fun state => ∀ dest, MendedAt state dest) poised.toRegular
        (fun _ _ regular act mended dest => act.mends regular.sound dest (mended dest)) poised.mended
  | handle input =>
    have atRest := poised.atRest allowed.2
    have after := atRest.step input
    refine ⟨after.toRegular, after.clocked, ?_⟩
    exact (step_handled atRest input).invariant_of_ignored
      (fun state => ∀ dest, MendedAt state dest) (atRest.toRegular.arrive input)
      (fun _ _ regular act mended dest => act.mends regular.sound dest (mended dest))
      (fun timers => absurd timers allowed.1)
      (fun _ _ _ mended dest => (mended dest).of_same rfl rfl)
      (fun dest => (poised.mended dest).of_same rfl rfl)

theorem Orderly.poised {config : Config} {now : Timeval} {jitter : Int} {moves : List Move}
    (orderly : Orderly config now jitter moves) : Poised config (course config now jitter moves) :=
  Runs.invariant (Poised config) (fun _ _ poised allowed => poised.makeMove allowed)
    (poised_boot config now jitter) orderly

/-- One move for each timer of a batch that runs. -/
def batchMoves (config : Config) : Nat → State → List Move
  | 0, _ => []
  | fuel + 1, state =>
    match state.timers.expTq with
    | [] => []
    | id :: rest => .fire :: batchMoves config fuel (runTimer config id rest state)

/-- The moves that make up an event. -/
def inputMoves (config : Config) (state : State) (input : Input) : List Move :=
  if input.event = .timers then
    .collect input :: batchMoves config (gather (arrive input state)).timers.expTq.length
      (gather (arrive input state))
  else [.handle input]

/-- The moves that make up a run from a state. -/
def movesFrom (config : Config) : State → List Input → List Move
  | _, [] => []
  | state, input :: rest =>
    inputMoves config state input ++ movesFrom config (step config state input) rest

/-- The moves that make up a run. -/
def movesOf (config : Config) (now : Timeval) (jitter : Int) (inputs : List Input) : List Move :=
  movesFrom config (boot config now jitter) inputs

theorem batchMoves_runBatch (config : Config) (fuel : Nat) (state : State) :
    Runs.Meets (makeMove config) (fun state move => move.Allowed state) state
        (batchMoves config fuel state) ∧
      (batchMoves config fuel state).foldl (makeMove config) state = runBatch config fuel state := by
  induction fuel generalizing state with
  | zero => exact ⟨trivial, rfl⟩
  | succ fuel inductionHypothesis =>
    unfold batchMoves runBatch
    cases batch : state.timers.expTq with
    | nil => exact ⟨trivial, rfl⟩
    | cons id rest =>
      have fired : makeMove config state .fire = runTimer config id rest state := by
        unfold makeMove
        rw [batch]
      obtain ⟨allowed, final⟩ := inductionHypothesis (runTimer config id rest state)
      refine ⟨⟨?_, ?_⟩, ?_⟩
      · show state.timers.expTq ≠ []
        rw [batch]
        exact List.cons_ne_nil _ _
      · rwa [fired]
      · rw [List.foldl_cons, fired, final]

theorem inputMoves_step {config : Config} {state : State} (atRest : AtRest config state)
    (input : Input) :
    Runs.Meets (makeMove config) (fun state move => move.Allowed state) state
        (inputMoves config state input) ∧
      (inputMoves config state input).foldl (makeMove config) state = step config state input := by
  unfold inputMoves
  by_cases timers : input.event = .timers
  · rw [if_pos timers]
    obtain ⟨allowed, final⟩ := batchMoves_runBatch config
      (gather (arrive input state)).timers.expTq.length (gather (arrive input state))
    refine ⟨⟨atRest.idle, allowed⟩, final.trans ?_⟩
    rw [step, timers]
    rfl
  · rw [if_neg timers]
    exact ⟨⟨⟨timers, atRest.idle⟩, trivial⟩, rfl⟩

theorem movesFrom_runFrom {config : Config} {state : State} (atRest : AtRest config state)
    (inputs : List Input) :
    Runs.Meets (makeMove config) (fun state move => move.Allowed state) state
        (movesFrom config state inputs) ∧
      (movesFrom config state inputs).foldl (makeMove config) state =
        runFrom config state inputs := by
  induction inputs generalizing state with
  | nil => exact ⟨trivial, rfl⟩
  | cons input rest inductionHypothesis =>
    obtain ⟨firstAllowed, stepped⟩ := inputMoves_step atRest input
    obtain ⟨laterAllowed, final⟩ := inductionHypothesis (atRest.step input)
    refine ⟨Runs.meets_append.mpr ⟨firstAllowed, stepped ▸ laterAllowed⟩, ?_⟩
    rw [movesFrom, List.foldl_append, stepped, final]
    rfl

/-- Every run is an orderly course. -/
theorem orderly_movesOf (config : Config) (now : Timeval) (jitter : Int) (inputs : List Input) :
    Orderly config now jitter (movesOf config now jitter inputs) :=
  (movesFrom_runFrom (atRest_boot config now jitter) inputs).1

theorem course_movesOf (config : Config) (now : Timeval) (jitter : Int) (inputs : List Input) :
    course config now jitter (movesOf config now jitter inputs) = run config now jitter inputs :=
  (movesFrom_runFrom (atRest_boot config now jitter) inputs).2

/-! ### Control messages -/

/-- The repair of a route goes on with the precursors that are held, or has succeeded. -/
def RepairHolds (state : State) (dest : Addr) (held : List Addr) : Prop :=
  UnderRepair state dest held ∨ ValidAt state dest

section

variable {config : Config} {state : State} {dest : Addr} {held : List Addr}

/-- An update leaves a route under repair as it is, or makes it valid. -/
theorem UnderRepair.rtTableUpdate (repair : UnderRepair state dest held) (config : Config)
    (offer : Offer) (valid : offer.state = .valid) (sound : state.rtTbl.Sound) :
    RepairHolds (rtTableUpdate config offer state) dest held := by
  cases there : entryAt state offer.dest with
  | none =>
    unfold Aodvd.rtTableUpdate
    rw [there]
    exact .inl repair
  | some old =>
    by_cases same : dest = offer.dest
    · subst same
      obtain ⟨base, here, _⟩ := entryAt_rtTableUpdate_self config offer sound there
      exact .inr ⟨_, here, valid⟩
    · obtain ⟨rt, found, repairing, holds⟩ := repair
      refine .inl ⟨rt, ?_, repairing, holds⟩
      rw [entryAt_rtTableUpdate_other config offer sound there same, found, Option.map_some,
        repairing.cut, ite_self]

theorem keepsRepair_rtTableInsert (config : Config) {offer : Offer}
    (fresh : entryAt state offer.dest = none) (dest : Addr) :
    KeepsRepair state (rtTableInsert config offer state).1 dest := by
  rintro held ⟨rt, found, rest⟩
  refine ⟨rt, ?_, rest⟩
  rw [entryAt_rtTableInsert config offer fresh, if_neg, found]
  rintro rfl
  exact nomatch fresh.symm.trans found

theorem RepairHolds.helloUpdateTimeout (holds : RepairHolds state dest held) (heard : Addr)
    (time : Nat) : RepairHolds (helloUpdateTimeout heard time state) dest held := by
  rcases holds with repair | ⟨rt, found, valid⟩
  · exact .inl ((considerate_heardAt state.now).keepsRepair heard _ dest held repair)
  · refine .inr ?_
    by_cases same : dest = heard
    · refine ⟨rt.heardAt state.now, ?_, valid⟩
      rw [Aodvd.helloUpdateTimeout, entryAt_setEntry (touch_heardAt _).dest, if_pos same, ← same]
      exact congrArg (Option.map _) found
    · refine ⟨rt, ?_, valid⟩
      rw [Aodvd.helloUpdateTimeout, entryAt_setEntry (touch_heardAt _).dest, if_neg same]
      exact found

/-- A HELLO leaves a route under repair as it is, or makes it valid. -/
theorem UnderRepair.helloProcess (repair : UnderRepair state dest held) (config : Config)
    (hello : Rrep) (len ifindex : Nat) (sound : state.rtTbl.Sound) :
    RepairHolds (helloProcess config hello len ifindex state) dest held := by
  unfold Aodvd.helloProcess
  rw [rtTableFind_eq_entryAt sound]
  dsimp only
  split
  · rename_i fresh
    refine RepairHolds.helloUpdateTimeout (.inl ?_) _ _
    exact (considerate_setHelloCnt 1).keepsRepair _ _ dest held
      (keepsRepair_rtTableInsert config fresh dest held repair)
  · split
    · exact RepairHolds.helloUpdateTimeout (.inl repair) _ _
    · split
      · exact .inl ((considerate_heardAt _).keepsRepair _ _ dest held
          ((considerate_setHelloCnt _).keepsRepair _ _ dest held repair))
      · exact (repair.rtTableUpdate config (helloOffer ..) rfl sound).helloUpdateTimeout _ _

theorem UnderRepair.neighborAdd (repair : UnderRepair state dest held) (config : Config)
    (source : Addr) (ifindex : Nat) (sound : state.rtTbl.Sound) :
    RepairHolds (neighborAdd config source ifindex state) dest held := by
  have heard {met : State} (holds : RepairHolds met dest held) :
      RepairHolds (neighborHeard config source met) dest held := by
    unfold neighborHeard
    split
    · exact holds.helloUpdateTimeout _ _
    · exact holds
  unfold Aodvd.neighborAdd
  rw [rtTableFind_eq_entryAt sound]
  split
  · rename_i fresh
    exact heard (.inl (keepsRepair_rtTableInsert config fresh dest held repair))
  · split
    · exact .inl repair
    · exact heard (repair.rtTableUpdate config _ rfl sound)

theorem UnderRepair.rreqReverse (repair : UnderRepair state dest held) (config : Config)
    (rreq : Rreq) (ipSrc : Addr) (ifindex : Nat) (sound : state.rtTbl.Sound) :
    RepairHolds (rreqReverse config rreq ipSrc ifindex state) dest held := by
  unfold Aodvd.rreqReverse
  rw [rtTableFind_eq_entryAt sound]
  split
  · rename_i fresh
    exact .inl (keepsRepair_rtTableInsert config fresh dest held repair)
  · split
    · exact repair.rtTableUpdate config _ rfl sound
    · exact .inl repair

/-- Replies leave a route under repair as it is, or add precursors to it. -/
theorem replyRule_underRepair (config : Config) (dest : Addr) (held : List Addr) :
    ReplyRule config fun state => state.rtTbl.Sound ∧ UnderRepair state dest held := by
  refine replyRule_entry config
    (fun entry => ∃ rt, entry = some rt ∧ rt.Repairing ∧ held ⊆ rt.precursors) ?_ ?_ ?_
  · rintro addr _ ⟨rt, rfl, repairing, holds⟩
    have considerate := considerate_precursorAdd addr
    exact ⟨_, rfl, considerate.repairing rt repairing,
      List.Subset.trans holds (considerate.precursors rt)⟩
  · rintro _ ⟨rt, rfl, rest⟩
    exact ⟨rt.markUnidir, rfl, rest⟩
  · rintro neighbor repair _ ⟨rt, rfl, repairing, holds⟩
    refine ⟨rt, ?_, repairing, holds⟩
    rw [Option.map_some, repairing.cut]

/-- A RERR takes precursors only from routes that were valid. -/
theorem errorRule_underRepair (config : Config) (dest : Addr) (held : List Addr) :
    ErrorRule config fun state => state.rtTbl.Sound ∧ UnderRepair state dest held where
  sound := And.left
  aside holds aside :=
    ⟨aside.rtTbl ▸ holds.1, keepsRepair_of_entry (aside.entryAt dest) held holds.2⟩
  hit {state rt} holds found valid noDelete seqno := by
    have sound := (errorRule_sound config).hit holds.1 found valid noDelete seqno
    have different : dest ≠ rt.destAddr := by
      rintro rfl
      exact holds.2.not_valid found valid
    have kept : UnderRepair (rerrInvalidate config noDelete rt.destAddr seqno state) dest held := by
      refine keepsRepair_of_entry ?_ held holds.2
      rw [entryAt_rerrInvalidate config noDelete seqno found valid, if_neg different]
    refine ⟨⟨sound.1, kept⟩, fun aside => ⟨sound.2 aside, ?_⟩⟩
    refine keepsRepair_of_entry ?_ held kept
    exact (entryAt_setEntry gentle_precursorListDestroy.dest ..).trans
      ((if_neg different).trans (aside.entryAt dest))

/-- The state in which `rreq_process` or `rrep_process` goes on, once the route that the message
offers has been made; any other message makes none. -/
def offeredRoute (config : Config) (received : Received) (state : State) : State :=
  match received.msg with
  | .rreq rreq =>
    if rreq.origAddr = ipaddrOf config received.ifindex ∨ received.len < rreqSize ∨
        rreqBlacklistFind state received.src = true ∨
        rreqRecordFind state rreq.origAddr rreq.rreqId = true then state
    else rreqReverse config rreq received.src received.ifindex
      (rreqRecordInsert rreq.origAddr rreq.rreqId state)
  | .rrep rrep =>
    if received.len < rrepSize ∨ rrep.destAddr = ipaddrOf config received.ifindex then state
    else
      match rtTableFind state rrep.destAddr with
      | none =>
        (rtTableInsert config (rrepOffer rrep received.src received.ifindex .none) state).1
      | some fwdRt =>
        if rrepAccepts rrep fwdRt then
          rtTableUpdate config (rrepOffer rrep received.src received.ifindex fwdRt.flags) state
        else state
  | _ => state

/-- The states that a control message passes through after it has offered a route: that of the
sender of a HELLO; or that of the sender of another message, and then the route of the message. -/
def messageStages (config : Config) (received : Received) (state : State) : List State :=
  if received.src ∈ ownAddrs config then []
  else
    match received.hello with
    | some hello => [helloProcess config hello received.len received.ifindex state]
    | none =>
      let met := neighborAdd config received.src received.ifindex state
      [met, offeredRoute config received met]

theorem UnderRepair.rreqProcess (repair : UnderRepair state dest held) (config : Config)
    (rreq : Rreq) (received : Received) (isRreq : received.msg = .rreq rreq)
    (sound : state.rtTbl.Sound) :
    UnderRepair (rreqProcess config rreq received.len received.src received.ttl received.ifindex
        state) dest held ∨ ValidAt (offeredRoute config received state) dest := by
  unfold Aodvd.rreqProcess offeredRoute
  rw [isRreq]
  dsimp only
  by_cases own : rreq.origAddr = ipaddrOf config received.ifindex
  · rw [if_pos own]
    exact .inl repair
  by_cases short : received.len < rreqSize
  · rw [if_neg own, if_pos short]
    exact .inl repair
  by_cases shunned : rreqBlacklistFind state received.src = true
  · rw [if_neg own, if_neg short, if_pos shunned]
    exact .inl repair
  by_cases seen : rreqRecordFind state rreq.origAddr rreq.rreqId = true
  · rw [if_neg own, if_neg short, if_neg shunned, if_pos seen]
    exact .inl repair
  · rw [if_neg own, if_neg short, if_neg shunned, if_neg seen,
      if_neg fun any => any.elim own fun any => any.elim short fun any => any.elim shunned seen]
    generalize records : rreqRecordInsert rreq.origAddr rreq.rreqId state = recorded
    have rtTbl : recorded.rtTbl = state.rtTbl := records ▸ rtTbl_rreqRecordInsert ..
    have recordedSound : recorded.rtTbl.Sound := rtTbl ▸ sound
    have still := keepsRepair_of_rtTbl rtTbl dest held repair
    rcases still.rreqReverse config rreq received.src received.ifindex recordedSound with
      reversed | valid
    · exact .inl ((replyRule_underRepair config dest held).rreqContinue
        ⟨recordedSound.rreqReverse config rreq received.src received.ifindex, reversed⟩ rreq
        received.len received.ttl received.ifindex).2
    · exact .inr valid

theorem UnderRepair.rrepProcess (repair : UnderRepair state dest held) (config : Config)
    (rrep : Rrep) (received : Received) (isRrep : received.msg = .rrep rrep)
    (sound : state.rtTbl.Sound) :
    UnderRepair (rrepProcess config rrep received.len received.src received.ttl received.ifindex
        state) dest held ∨ ValidAt (offeredRoute config received state) dest := by
  unfold Aodvd.rrepProcess offeredRoute
  rw [isRrep]
  dsimp only
  by_cases short : received.len < rrepSize
  · rw [if_pos short]
    exact .inl repair
  by_cases own : rrep.destAddr = ipaddrOf config received.ifindex
  · rw [if_neg short, if_pos own]
    exact .inl repair
  rw [if_neg short, if_neg own, if_neg fun any => any.elim short own]
  have rule := replyRule_underRepair config dest held
  cases there : rtTableFind state rrep.destAddr with
  | none =>
    rw [rtTableFind_eq_entryAt sound] at there
    exact .inl (rule.rrepContinue ⟨sound.rtTableInsert config _,
      keepsRepair_rtTableInsert config there dest held repair⟩ _ _ _ _ _ _).2
  | some fwdRt =>
    dsimp only
    split
    · rcases repair.rtTableUpdate config (rrepOffer rrep received.src received.ifindex fwdRt.flags)
        rfl sound with updated | valid
      · exact .inl (rule.rrepContinue ⟨sound.rtTableUpdate config _, updated⟩ _ _ _ _ _ _).2
      · exact .inr valid
    · exact .inl repair

theorem UnderRepair.processMsg (repair : UnderRepair state dest held) (config : Config)
    (received : Received) (sound : state.rtTbl.Sound) :
    UnderRepair (processMsg config received state) dest held ∨
      ValidAt (offeredRoute config received state) dest := by
  unfold Aodvd.processMsg
  split
  · exact repair.rreqProcess config _ received ‹_› sound
  · exact repair.rrepProcess config _ received ‹_› sound
  · exact .inl ((errorRule_underRepair config dest held).rerrProcess ⟨sound, repair⟩ _ _ _).2
  · refine .inl (keepsRepair_of_rtTbl ?_ dest held repair)
    unfold rrepAckProcess
    split
    · rfl
    · rfl
  · exact .inl repair

/-- A control message leaves a route under repair as it is, unless the route becomes valid. -/
theorem UnderRepair.aodvSocketRead (repair : UnderRepair state dest held)
    (regular : Regular config state) (received : Received) :
    UnderRepair (aodvSocketRead config received state) dest held ∨
      ∃ stage ∈ messageStages config received state, ValidAt stage dest := by
  unfold Aodvd.aodvSocketRead messageStages
  split
  · exact .inl repair
  · rename_i foreign
    unfold aodvSocketProcessPacket
    cases isHello : received.hello with
    | some hello =>
      rcases repair.helloProcess config hello received.len received.ifindex regular.sound with
        kept | valid
      · exact .inl kept
      · exact .inr ⟨_, List.mem_singleton.mpr rfl, valid⟩
    | none =>
      have introduced := neighborAdd_introduced regular ⟨rfl, foreign⟩ isHello
      dsimp only
      rcases repair.neighborAdd config received.src received.ifindex regular.sound with met | valid
      · rcases met.processMsg config received introduced.regular.sound with kept | valid
        · exact .inl kept
        · exact .inr ⟨_, List.mem_cons_of_mem _ (List.mem_singleton.mpr rfl), valid⟩
      · exact .inr ⟨_, List.mem_cons_self, valid⟩

/-! ### Other events -/

theorem entryAt_rreqLocalRepair (config : Config) (rt : RtEntry) (srcAddr : Addr) (state : State)
    (dest : Addr) : entryAt (rreqLocalRepair config rt srcAddr state) dest = entryAt state dest := by
  unfold rreqLocalRepair
  split
  · rfl
  · split
    · exact (((keepForDiscovery_acts ..).keeps.trans (keeps_rreqSend _ _ _ _ _ _)).trans
        (keeps_seek _ _ _ _ _ _) dest).entry
    · rfl

theorem entryAt_packetInputRoute (config : Config) (packet : NfPacket) (ip : IpPacket)
    (state : State) (dest : Addr) :
    entryAt (packetInputRoute config packet ip state).1 dest = entryAt state dest := by
  have refreshed := ((rtTableUpdateRouteTimeouts_acts config (rtTableFind state ip.daddr)
    (rtTableFind state ip.saddr) state).keeps dest).entry
  unfold packetInputRoute
  dsimp only
  split
  · split
    · exact (keeps_sendRerrForUnknownDest _ _ _ _ _ _ dest).entry.trans refreshed
    · have buffered := (keeps_packetQueueAdd packet.packetId ip.daddr
        (rtTableUpdateRouteTimeouts config (rtTableFind state ip.daddr)
          (rtTableFind state ip.saddr) state) dest).entry.trans refreshed
      refine Eq.trans ?_ buffered
      unfold seekRoute
      split
      · split
        · exact entryAt_rreqLocalRepair ..
        · exact (keeps_rreqRouteDiscovery _ _ _ _ dest).entry
      · exact (keeps_rreqRouteDiscovery _ _ _ _ dest).entry
  · exact refreshed

theorem entryAt_nfqueuePacketCb (config : Config) (packet : NfPacket) (state : State)
    (dest : Addr) : entryAt (nfqueuePacketCb config packet state) dest = entryAt state dest := by
  refine nfqueuePacketCb_of_handled (motive := fun after => entryAt after dest = entryAt state dest)
    ?_ fun _ _ _ handled => handled
  exact packetInputHandlePacket_cases (motive := fun after => entryAt after dest = entryAt state dest)
    rfl fun ip => entryAt_packetInputRoute config packet ip (deliver packet state) dest

/-- The route becomes valid in the course of the event. -/
def Renews (config : Config) (state : State) (dest : Addr) (input : Input) : Prop :=
  match input.event with
  | .message received =>
    ∃ stage ∈ messageStages config received (arrive input state), ValidAt stage dest
  | _ => False

theorem UnderRepair.step (repair : UnderRepair state dest held) (atRest : AtRest config state)
    {input : Input} (other : input.event ≠ .timers) :
    UnderRepair (step config state input) dest held ∨ Renews config state dest input := by
  have arrived : UnderRepair (arrive input state) dest held := repair
  have regular := atRest.toRegular.arrive input
  show UnderRepair (handleEvent config input.event (arrive input state)) dest held ∨ _
  unfold Renews
  cases event : input.event with
  | timers => exact absurd event other
  | message received => exact arrived.aodvSocketRead regular received
  | packet packet =>
    exact .inl (keepsRepair_of_entry (entryAt_nfqueuePacketCb ..) held arrived)
  | txDrop ip =>
    refine .inl ?_
    rw [handleEvent]
    split
    · exact arrived
    · exact keepsRepair_neighborLinkBreak config _ regular.sound dest held arrived

/-! ### Expired timers -/

/-- The first timer of the batch is about to run `route_expire_timeout` on a route of several hops
that is under repair. -/
def Overdue (state : State) : Prop :=
  match state.timers.expTq with
  | .rtTimer dest :: _ => rtHandler state dest = some .routeExpireTimeout ∧
      (entryAt state dest).any (fun rt => decide (rt.Repairing ∧ rt.hcnt ≠ 1)) = true
  | _ => False

instance (state : State) : Decidable (Overdue state) := by
  unfold Overdue
  split <;> infer_instance

/-- The call of `local_repair_timeout` when a discovery is given up: the route and the state in
which it is called. -/
def giveUpRepairs (entry : SeekEntry) (state : State) : List (Addr × State) :=
  let state := packetQueueDrop entry.destAddr state
  match rtTableFind state entry.destAddr with
  | none => []
  | some rt =>
    if rt.flags.repair then [(rt.destAddr, seekListRemove entry.destAddr state)] else []

/-- The calls of `local_repair_timeout` that `route_discovery_timeout` makes. -/
def discoveryRepairs (dest : Addr) (state : State) : List (Addr × State) :=
  match seekListFind state dest with
  | none => []
  | some entry => if entry.reqs < rreqRetries then [] else giveUpRepairs entry state

/-- The calls of `local_repair_timeout` that a handler makes. -/
def handlerRepairs (id : TimerId) (handler : Handler) (state : State) : List (Addr × State) :=
  match handler, id with
  | .localRepairTimeout, .rtTimer dest => [(dest, state)]
  | .routeDiscoveryTimeout, .seekTimer dest => discoveryRepairs dest state
  | _, _ => []

/-- The calls of `local_repair_timeout` that the first timer of the batch makes. -/
def firingRepairs (state : State) : List (Addr × State) :=
  match state.timers.expTq with
  | [] => []
  | id :: rest =>
    match (state.timers.timer id).handler with
    | none => []
    | some handler => handlerRepairs id handler (popTimer id rest state)

/-- A discovery that is given up leaves a route under repair as it is, or its repair has failed. -/
theorem UnderRepair.discoveryGiveUp (repair : UnderRepair state dest held) (config : Config)
    (entry : SeekEntry) :
    UnderRepair (discoveryGiveUp config entry state) dest held ∨
      ∃ called, (dest, called) ∈ giveUpRepairs entry state ∧ UnderRepair called dest held := by
  have removed : UnderRepair (seekListRemove entry.destAddr (packetQueueDrop entry.destAddr state))
      dest held := repair
  unfold Aodvd.discoveryGiveUp giveUpRepairs
  dsimp only
  cases rtTableFind (packetQueueDrop entry.destAddr state) entry.destAddr with
  | none => exact .inl removed
  | some rt =>
    dsimp only
    split
    · by_cases same : dest = rt.destAddr
      · subst same
        exact .inr ⟨_, List.mem_singleton.mpr rfl, removed⟩
      · exact .inl ((kept_localRepairTimeout config same _).keepsRepair held removed)
    · exact .inl removed

theorem UnderRepair.routeDiscoveryTimeout (repair : UnderRepair state dest held) (config : Config)
    (sought : Addr) :
    UnderRepair (routeDiscoveryTimeout config sought state) dest held ∨
      ∃ called, (dest, called) ∈ discoveryRepairs sought state ∧ UnderRepair called dest held := by
  unfold Aodvd.routeDiscoveryTimeout discoveryRepairs
  cases seekListFind state sought with
  | none => exact .inl repair
  | some entry =>
    dsimp only
    split
    · exact .inl ((keeps_discoveryRetry config entry state dest).keepsRepair held repair)
    · exact repair.discoveryGiveUp config entry

/-- An expiry takes precursors only from its own route, and not from a neighbour under repair. -/
theorem UnderRepair.routeExpireTimeout {expired : Addr} (repair : UnderRepair state dest held)
    (sound : state.rtTbl.Sound)
    (near : dest = expired → ∀ rt, entryAt state dest = some rt → rt.Repairing → rt.hcnt = 1) :
    UnderRepair (routeExpireTimeout config expired state) dest held := by
  unfold Aodvd.routeExpireTimeout
  split
  · exact repair
  · rename_i rt found
    split
    · exact keepsRepair_neighborLinkBreak config expired sound dest held repair
    · rename_i far
      have different : dest ≠ expired := by
        rintro rfl
        obtain ⟨stored, there, repairing, _⟩ := repair
        obtain rfl := Option.some.inj (there.symm.trans found)
        exact far (near rfl stored there repairing)
      exact ((kept_rtTableInvalidate config different state).trans
        (kept_setEntry gentle_precursorListDestroy.dest different _)).keepsRepair held repair

/-- A silent neighbour is marked for repair only while it is valid. -/
theorem UnderRepair.helloTimeout (repair : UnderRepair state dest held) (config : Config)
    (silent : Addr) (sound : state.rtTbl.Sound) :
    UnderRepair (helloTimeout config silent state) dest held := by
  unfold Aodvd.helloTimeout
  split
  · exact repair
  · rename_i rt found
    split
    · rename_i lost
      split
      · have different : dest ≠ silent := by
          rintro rfl
          exact repair.not_valid found lost.1
        exact keepsRepair_neighborLinkBreak config silent
          (sound.setEntry cosmetic_markRepair.toGentle silent) dest held
          ((kept_setEntry cosmetic_markRepair.dest different state).keepsRepair held repair)
      · exact keepsRepair_neighborLinkBreak config silent sound dest held repair
    · exact repair

/-- What the handler of an expired timer does to a route under repair: nothing, or the repair has
failed. -/
theorem UnderRepair.runsHandler {id : TimerId} {rest : List TimerId} {handler : Handler}
    {final : State} (repair : UnderRepair state dest held) (poised : Poised config state)
    (batch : state.timers.expTq = id :: rest)
    (installed : (state.timers.timer id).handler = some handler) (timely : ¬ Overdue state)
    (runs : RunsHandler config (popTimer id rest state) id handler final) :
    UnderRepair final dest held ∨
      ∃ called, (dest, called) ∈ handlerRepairs id handler (popTimer id rest state) ∧
        UnderRepair called dest held := by
  have popped : UnderRepair (popTimer id rest state) dest held := repair
  have poppedSound : (popTimer id rest state).rtTbl.Sound := poised.sound
  have kept {final : State} (keeps : Keeps (popTimer id rest state) final) :
      UnderRepair final dest held := (keeps dest).keepsRepair held popped
  cases runs with
  | expire expired =>
    exact .inl (popped.routeExpireTimeout poppedSound fun same rt found repairing => by
      by_contra far
      refine timely ?_
      unfold Overdue
      rw [batch]
      refine ⟨installed, ?_⟩
      rw [← same]
      exact (congrArg (Option.any _) found).trans (decide_eq_true ⟨repairing, far⟩))
  | delete deleted =>
    have different : dest ≠ deleted := by
      rintro rfl
      obtain ⟨rt, found, repairing, _⟩ := repair
      exact poised.mended dest rt found repairing installed
    exact .inl ((kept_rtTableDelete different _).keepsRepair held popped)
  | repair repaired =>
    by_cases same : dest = repaired
    · subst same
      exact .inr ⟨_, List.mem_singleton.mpr rfl, popped⟩
    · exact .inl ((kept_localRepairTimeout config same _).keepsRepair held popped)
  | blacklist silent => exact .inl (kept (keeps_rreqBlacklistInsert silent _))
  | hello silent => exact .inl (popped.helloTimeout config silent poppedSound)
  | discovery sought => exact popped.routeDiscoveryTimeout config sought
  | greet => exact .inl (kept (keeps_helloSend config _))
  | _ => exact .inl (keepsRepair_of_rtTbl rfl dest held popped)

theorem UnderRepair.runTimer {id : TimerId} {rest : List TimerId}
    (repair : UnderRepair state dest held) (poised : Poised config state)
    (batch : state.timers.expTq = id :: rest) (timely : ¬ Overdue state) :
    UnderRepair (runTimer config id rest state) dest held ∨
      ∃ called, (dest, called) ∈ firingRepairs state ∧ UnderRepair called dest held := by
  refine runTimer_cases (motive := fun final => UnderRepair final dest held ∨ _)
    (fun _ => .inl repair) fun handler final installed runs => ?_
  unfold firingRepairs
  rw [batch]
  dsimp only
  rw [installed]
  exact repair.runsHandler poised batch installed timely runs

/-! ### The end of a repair -/

/-- The RERR about a route whose repair has failed, on the interface of the route for a single
precursor and on every interface for several. -/
def repairRerrs (config : Config) (rt : RtEntry) : List Datagram :=
  if rt.nprec = 1 then (devIfindex config rt.ifindex).toList.map fun dev =>
    ⟨dev.ipaddr, rt.precursors.headD 0#32, 1, rerrCalcSize 1,
      .rerr ⟨false, 1, [(rt.destAddr, rt.destSeqno)]⟩⟩
  else config.devs.map fun dev => ⟨dev.ipaddr, aodvBroadcast, 1, rerrCalcSize 1,
    .rerr ⟨false, 1, [(rt.destAddr, rt.destSeqno)]⟩⟩

/-- A call of `local_repair_timeout` takes the branch that makes a RERR about the route and hands
it to `aodv_socket_send`, which sends it unless the rate limit holds it back. -/
def ReportsRepair (config : Config) (state : State) (dest : Addr) : Prop :=
  ∃ rt, entryAt state dest = some rt ∧ rt.nprec ≠ 0 ∧
    (config.ratelimit = false →
      (localRepairTimeout config dest state).out = state.out ++ repairRerrs config rt)

theorem UnderRepair.reports (repair : UnderRepair state dest held) (config : Config)
    (sound : state.rtTbl.Sound) (some : held ≠ []) : ReportsRepair config state dest := by
  obtain ⟨rt, found, _, holds⟩ := repair
  have counted := (sound.entry rt (sound.entryAt_eq_some_iff.mp found).1).counted
  have nprec : rt.nprec ≠ 0 := by
    intro none
    have empty : rt.precursors = [] :=
      List.length_eq_zero_iff.mp (Int.ofNat_eq_zero.mp (counted.symm.trans none))
    rw [empty] at holds
    exact some (List.eq_nil_of_subset_nil holds)
  refine ⟨rt, found, nprec, fun unlimited => ?_⟩
  rw [out_localRepairTimeout unlimited found, if_neg nprec]
  rfl

/-- A move ends the repair of a route: the route becomes valid again, or `local_repair_timeout`
runs on it while it still has the precursors that are held, and tells them. -/
def RepairEnds (config : Config) (state : State) (dest : Addr) (held : List Addr) : Move → Prop
  | .collect _ => False
  | .fire => ∃ called, (dest, called) ∈ firingRepairs state ∧ UnderRepair called dest held ∧
      (held ≠ [] → ReportsRepair config called dest)
  | .handle input => Renews config state dest input

/-- The move is one of the main loop, and does not expire a route of several hops that is under
repair. -/
def Move.Patient (state : State) (move : Move) : Prop :=
  move.Allowed state ∧ (move = .fire → ¬ Overdue state)

instance (state : State) (move : Move) : Decidable (move.Patient state) :=
  inferInstanceAs (Decidable (_ ∧ _))

theorem rtTbl_giveUpRepairs {entry : SeekEntry} {called : State}
    (calls : (dest, called) ∈ giveUpRepairs entry state) : called.rtTbl = state.rtTbl := by
  unfold giveUpRepairs at calls
  dsimp only at calls
  split at calls
  · exact nomatch calls
  · split at calls
    · obtain ⟨_, rfl⟩ := Prod.mk.inj (List.mem_singleton.mp calls)
      rfl
    · exact nomatch calls

theorem rtTbl_handlerRepairs {id : TimerId} {handler : Handler} {called : State}
    (calls : (dest, called) ∈ handlerRepairs id handler state) : called.rtTbl = state.rtTbl := by
  unfold handlerRepairs at calls
  split at calls
  · obtain ⟨_, rfl⟩ := Prod.mk.inj (List.mem_singleton.mp calls)
    rfl
  · unfold discoveryRepairs at calls
    split at calls
    · exact nomatch calls
    · split at calls
      · exact nomatch calls
      · exact rtTbl_giveUpRepairs calls
  · exact nomatch calls

/-- The first timer of a batch finds the routing table as it is when it calls
`local_repair_timeout`. -/
theorem rtTbl_firingRepairs {called : State} (calls : (dest, called) ∈ firingRepairs state) :
    called.rtTbl = state.rtTbl := by
  unfold firingRepairs at calls
  split at calls
  · exact nomatch calls
  · split at calls
    · exact nomatch calls
    · exact (rtTbl_handlerRepairs calls).trans rfl

/-- A patient move keeps the precursors of a route under repair, unless it ends the repair. -/
theorem UnderRepair.makeMove {move : Move} (repair : UnderRepair state dest held)
    (poised : Poised config state) (patient : move.Patient state) :
    UnderRepair (makeMove config state move) dest held ∨
      RepairEnds config state dest held move := by
  cases move with
  | collect input => exact .inl repair
  | fire =>
    rw [Aodvd.makeMove]
    split
    · exact .inl repair
    · rename_i id rest batch
      rcases repair.runTimer poised batch (patient.2 rfl) with kept | ⟨called, calls, still⟩
      · exact .inl kept
      · refine .inr ⟨called, calls, still, still.reports config ?_⟩
        rw [rtTbl_firingRepairs calls]
        exact poised.sound
  | handle input => exact repair.step (poised.atRest patient.1.2) patient.1.1

end

/-- Local repair keeps its precursors: in every course whose moves do not expire a route of
several hops under repair, a route that is under repair keeps its precursors until it is valid
again or `local_repair_timeout` runs on it, and then it still has them and a RERR is made. -/
theorem precursors_kept_of_patient (config : Config) (now : Timeval) (jitter : Int)
    (before after : List Move) (dest : Addr) (held : List Addr)
    (orderly : Orderly config now jitter before)
    (repair : UnderRepair (course config now jitter before) dest held)
    (patient : Runs.Meets (makeMove config) (fun state move => move.Patient state)
      (course config now jitter before) after) :
    UnderRepair (course config now jitter (before ++ after)) dest held ∨
      ∃ early move later, after = early ++ move :: later ∧
        UnderRepair (course config now jitter (before ++ early)) dest held ∧
        RepairEnds config (course config now jitter (before ++ early)) dest held move := by
  have whole (moves : List Move) : course config now jitter (before ++ moves) =
      moves.foldl (makeMove config) (course config now jitter before) := List.foldl_append ..
  simp only [whole]
  exact Runs.keeps_until (Poised config) (fun state => UnderRepair state dest held)
    (fun state move => RepairEnds config state dest held move)
    (fun _ _ poised patient => poised.makeMove patient.1)
    (fun _ _ poised patient repair => repair.makeMove poised patient)
    orderly.poised repair patient

/-- The repair of the route to node 9 fails, and node 2 is told. -/
theorem precursors_kept_of_patient_relay :
    UnderRepair (course repairRelay timevalZero 0 (movesOf repairRelay timevalZero 0 repairing))
        9#32 [2#32] ∧
      (UnderRepair (course repairRelay timevalZero 0 (movesOf repairRelay timevalZero 0 repairing ++
          inputMoves repairRelay (run repairRelay timevalZero 0 repairing)
            (inputAt 21400 .timers))) 9#32 [2#32] ∨
        ∃ early move later, inputMoves repairRelay (run repairRelay timevalZero 0 repairing)
            (inputAt 21400 .timers) = early ++ move :: later ∧
          UnderRepair (course repairRelay timevalZero 0
            (movesOf repairRelay timevalZero 0 repairing ++ early)) 9#32 [2#32] ∧
          RepairEnds repairRelay (course repairRelay timevalZero 0
            (movesOf repairRelay timevalZero 0 repairing ++ early)) 9#32 [2#32] move) := by
  have repair : UnderRepair (course repairRelay timevalZero 0
      (movesOf repairRelay timevalZero 0 repairing)) 9#32 [2#32] := by
    rw [course_movesOf]
    decide +kernel
  refine ⟨repair, precursors_kept_of_patient repairRelay timevalZero 0 _ _ 9#32 [2#32]
    (orderly_movesOf ..) repair ?_⟩
  rw [course_movesOf]
  decide +kernel

/-- The relay without expanding ring search. -/
def flatRelay : Config := { repairRelay with expandingRingSearch := false }

/-- A packet starts the repair of the route to node 9, and no reply comes. The waits of the
discovery grow from round to round, so that the timer of the route expires in the last one. -/
def lostRepair : List Input :=
  repairing ++ [inputAt 18400 (packetTo 2#32 9#32), inputAt 21300 .timers, inputAt 27000 .timers,
    inputAt 32700 .timers, inputAt 38400 .timers]

/-- Node 2 is a precursor when the link breaks. The list is empty while the repair is still going
on, and when it fails only HELLOs are sent. -/
theorem not_precursors_kept_flat :
    UnderRepair (run flatRelay timevalZero 0 repairing) 9#32 [2#32] ∧
      ((entryAt (run flatRelay timevalZero 0 (lostRepair.take 9)) 9#32).map fun rt =>
        (rt.state, rt.flags.repair, rt.precursors)) = some (.invalid, true, []) ∧
      ((entryAt (run flatRelay timevalZero 0 lostRepair) 9#32).map fun rt =>
        (rt.state, rt.flags.repair, rt.precursors)) = some (.invalid, false, []) ∧
      (run flatRelay timevalZero 0 lostRepair).out.map Datagram.msg =
        [.rrep ⟨false, false, 0, 1#32, 7#32, 1#32, 2000, []⟩,
          .rrep ⟨false, false, 0, 0x101#32, 7#32, 0x101#32, 2000, []⟩] := by
  refine ⟨?_, ?_, ?_, ?_⟩ <;> decide +kernel

end Aodvd
