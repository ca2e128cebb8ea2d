/-
This file compares the kernel routing table with the daemon's own.

The two tables are two levels of one design: every valid entry calls for one kernel route,
with its hop count as metric and its next hop as gateway, and nothing else does. Most
operations keep the kernel in step with the table. An update of a valid entry does so
only if it keeps the hop count, or breaks the link of a neighbour and moves to another
next hop; otherwise the kernel keeps the route of the old metric, or loses the only one.
-/

import Aodvd.Reachable
import Aodvd.RouteClocks

namespace Aodvd

variable {rt : RtEntry} {state : State} (offer : Offer)

/-! ### The routes an entry calls for -/

/-- The kernel routes that the entry of a destination calls for, by metric. -/
def shownRoutes (entry : Option RtEntry) (metric : Nat) : Option KernelRoute :=
  match entry with
  | none => none
  | some rt =>
    if rt.state = .valid ∧ metric = rt.hcnt then some ⟨rt.nextHop, rt.ifindex⟩ else none

theorem shownRoutes_of_valid (valid : rt.state = .valid) :
    shownRoutes (some rt) =
      fun metric => if metric = rt.hcnt then some ⟨rt.nextHop, rt.ifindex⟩ else none := by
  funext metric
  simp only [shownRoutes, valid, true_and]

theorem shownRoutes_of_invalid (invalid : rt.state ≠ .valid) :
    shownRoutes (some rt) = fun _ => none := by
  funext metric
  simp only [shownRoutes, invalid, false_and, if_false]

theorem shownRoutes_congr {new old : RtEntry} (same : SameHop new old) :
    shownRoutes (some new) = shownRoutes (some old) := by
  funext metric
  simp only [shownRoutes, same.ifindex, same.nextHop, same.hcnt, same.state]

namespace RouteView

/-- The kernel routes of a destination are those its entry calls for. -/
def Mirrored (view : RouteView) : Prop := view.routes = shownRoutes view.entry

/-! ### Operations on a mirrored view -/

theorem Mirrored.change {view : RouteView} (mirrored : view.Mirrored) {change : RtEntry → RtEntry}
    (same : ∀ rt, SameHop (change rt) rt) : (view.change change).Mirrored := by
  show view.routes = shownRoutes (view.entry.map change)
  rw [mirrored]
  cases view.entry with
  | none => rfl
  | some rt => exact (shownRoutes_congr (same rt)).symm

/-- There is no route of an entry that is not valid to delete. -/
theorem Mirrored.delRoute_of_invalid {view : RouteView} (mirrored : view.Mirrored)
    (found : view.entry = some rt) (invalid : rt.state ≠ .valid) (metric : Nat) (gateway : Addr) :
    (view.delRoute metric gateway).Mirrored := by
  have empty : view.routes = fun _ => none := by
    rw [mirrored, found, shownRoutes_of_invalid invalid]
  funext other
  show (if _ then none else view.routes other) = shownRoutes view.entry other
  rw [empty, ite_self, found, shownRoutes_of_invalid invalid]

/-- Deleting the route of a valid entry leaves none. -/
theorem Mirrored.delRoute_routes {view : RouteView} (mirrored : view.Mirrored)
    (found : view.entry = some rt) (valid : rt.state = .valid) :
    (view.delRoute rt.hcnt rt.nextHop).routes = fun _ => none := by
  funext other
  show (if other = rt.hcnt ∧ (view.routes other).map KernelRoute.gateway = some rt.nextHop then none
    else view.routes other) = none
  rw [mirrored, found, shownRoutes_of_valid valid]
  by_cases same : other = rt.hcnt
  · simp only [same, if_true, Option.map_some, and_self]
  · simp only [same, if_false, false_and]

theorem Mirrored.invalidate {view : RouteView} (mirrored : view.Mirrored) :
    view.invalidate.Mirrored := by
  unfold RouteView.invalidate
  split
  · exact mirrored
  · rename_i rt found
    split
    · rename_i valid
      show (view.delRoute rt.hcnt rt.nextHop).routes = shownRoutes (view.entry.map _)
      rw [mirrored.delRoute_routes found valid, found, Option.map_some,
        shownRoutes_of_invalid (show rt.invalidated.state ≠ .valid from RouteState.noConfusion)]
    · exact mirrored

theorem Mirrored.delete {view : RouteView} (mirrored : view.Mirrored) : view.delete.Mirrored := by
  unfold RouteView.delete
  split
  · exact mirrored
  · rename_i rt found
    split
    · rename_i valid
      exact mirrored.delRoute_routes found valid
    · rename_i invalid
      show view.routes = fun _ => none
      rw [mirrored, found, shownRoutes_of_invalid invalid]

/-- A new entry meets no route of an older one. -/
theorem Mirrored.insert {view : RouteView} (mirrored : view.Mirrored) (fresh : view.entry = none)
    (offer : Offer) : (view.insert offer).Mirrored := by
  have empty : view.routes = fun _ => none := by
    rw [mirrored, fresh]
    rfl
  unfold RouteView.insert
  split
  · rename_i valid
    show (fun metric => if metric = offer.hcnt then _ else view.routes metric) =
      shownRoutes (some offer.entry)
    rw [empty, shownRoutes_of_valid (show offer.entry.state = .valid from valid)]
    rfl
  · rename_i invalid
    show view.routes = shownRoutes (some offer.entry)
    rw [empty, shownRoutes_of_invalid (show offer.entry.state ≠ .valid from invalid)]

/-! ### Updates -/

theorem announce_entry (rt : RtEntry) (offer : Offer) (view : RouteView) :
    (view.announce rt offer).entry = view.entry := by
  unfold RouteView.announce
  split <;> rfl

theorem update_entry {view : RouteView} (found : view.entry = some rt) (offer : Offer) :
    ∃ base : RtEntry, base.ifindex = rt.ifindex ∧
      (view.update rt offer).entry = some (rt.renewed offer base) := by
  unfold RouteView.update
  split
  · refine ⟨rt.forgetHellos.cut rt.destAddr rt.flags.repair rt.destAddr, ?_, ?_⟩
    · rcases rt.forgetHellos.cut_cases rt.destAddr rt.flags.repair rt.destAddr with retired | same
      · exact retired.ifindex
      · exact same.ifindex
    · show (RouteView.cut _ _ _ _).entry.map _ = _
      rw [RouteView.cut_entry, RouteView.change, announce_entry, found]
      rfl
  · refine ⟨rt, rfl, ?_⟩
    show (view.announce rt offer).entry.map _ = _
    rw [announce_entry, found]
    rfl

/-- What an updated entry calls for. -/
theorem shownRoutes_update {view : RouteView} (found : view.entry = some rt) {offer : Offer}
    (comesUp : offer.state = .valid) :
    shownRoutes (view.update rt offer).entry =
      fun metric => if metric = offer.hcnt then some ⟨offer.next, rt.ifindex⟩ else none := by
  obtain ⟨base, ifindex, updated⟩ := update_entry found offer
  rw [updated, shownRoutes_of_valid (show (rt.renewed offer base).state = .valid from comesUp),
    ← ifindex]
  rfl

/-- What an update leaves in the kernel: the old routes, the announced one, and without that of
the broken link. -/
theorem update_routes {view : RouteView} (found : view.entry = some rt) (offer : Offer) :
    (view.update rt offer).routes =
      if offer.Breaks rt ∧ rt.state = .valid then
        ((view.announce rt offer).delRoute rt.hcnt rt.nextHop).routes
      else (view.announce rt offer).routes := by
  have forgotten : ((view.announce rt offer).change RtEntry.forgetHellos).entry =
      some rt.forgetHellos := by
    rw [RouteView.change, announce_entry, found, Option.map_some]
  have invalidated : ((view.announce rt offer).change RtEntry.forgetHellos).invalidate.routes =
      if rt.state = .valid then ((view.announce rt offer).delRoute rt.hcnt rt.nextHop).routes
      else (view.announce rt offer).routes := by
    unfold RouteView.invalidate
    rw [forgotten]
    show RouteView.routes (if rt.state = .valid then _ else _) = _
    split <;> rfl
  unfold RouteView.update
  by_cases breaks : offer.Breaks rt
  · simp only [breaks, if_true, true_and]
    rw [← invalidated]
    unfold RouteView.cut
    rw [forgotten]
    show (RouteView.change _ (if rt.destAddr = rt.destAddr then _ else _)).routes = _
    rw [if_pos rfl]
    split <;> rfl
  · simp only [breaks, if_false, false_and]
    rfl

end RouteView

/-- The kernel is told the new next hop of an entry. -/
def Offer.Moves (offer : Offer) (rt : RtEntry) : Prop :=
  rt.nextHop ≠ 0#32 ∧ rt.nextHop ≠ offer.next

instance (offer : Offer) (rt : RtEntry) : Decidable (offer.Moves rt) :=
  inferInstanceAs (Decidable (_ ∧ _))

/-- The update of a valid entry keeps the kernel in step: the hop count stays and the kernel is
told a new next hop, or a neighbour moves behind another one. -/
def Offer.Tracked (offer : Offer) (rt : RtEntry) : Prop :=
  offer.hcnt = rt.hcnt ∧ (offer.next = rt.nextHop ∨ offer.Moves rt) ∨
    offer.Breaks rt ∧ offer.Moves rt

instance (offer : Offer) (rt : RtEntry) : Decidable (offer.Tracked rt) :=
  inferInstanceAs (Decidable (_ ∨ _))

theorem Offer.tracked_congr {first second : RtEntry} (same : SameRoute first second) :
    offer.Tracked first ↔ offer.Tracked second := by
  unfold Offer.Tracked Offer.Moves Offer.Breaks
  rw [same.hcnt, same.nextHop]

namespace RouteView

/-- An update that makes an entry valid again is mirrored. -/
theorem Mirrored.update_of_invalid {view : RouteView} (mirrored : view.Mirrored)
    (found : view.entry = some rt) (invalid : rt.state = .invalid) {offer : Offer}
    (comesUp : offer.state = .valid) : (view.update rt offer).Mirrored := by
  have notValid : rt.state ≠ .valid := by
    rw [invalid]
    exact RouteState.noConfusion
  have announces : offer.Announces rt := .inl ⟨invalid, comesUp⟩
  rw [Mirrored, shownRoutes_update found comesUp, update_routes found,
    if_neg fun both => notValid both.2, RouteView.announce, if_pos announces]
  show (fun metric => if metric = offer.hcnt then _ else view.routes metric) = _
  rw [mirrored, found, shownRoutes_of_invalid notValid]

theorem announces_of_valid (valid : rt.state = .valid) (offer : Offer) :
    offer.Announces rt ↔ offer.Moves rt := by
  refine ⟨fun announces => announces.elim (fun revived => ?_) id, .inr⟩
  exact RouteState.noConfusion (revived.1.symm.trans valid)

/-- The routes after a message about the new next hop of a valid entry. -/
theorem Mirrored.announce_routes {view : RouteView} (mirrored : view.Mirrored)
    (found : view.entry = some rt) (valid : rt.state = .valid) (offer : Offer) :
    (view.announce rt offer).routes = fun metric =>
      if offer.Moves rt ∧ metric = offer.hcnt then some ⟨offer.next, rt.ifindex⟩
      else if metric = rt.hcnt then some ⟨rt.nextHop, rt.ifindex⟩ else none := by
  have shown : view.routes =
      fun metric => if metric = rt.hcnt then some ⟨rt.nextHop, rt.ifindex⟩ else none := by
    rw [mirrored, found, shownRoutes_of_valid valid]
  unfold RouteView.announce
  by_cases moves : offer.Moves rt
  · rw [if_pos ((announces_of_valid valid offer).mpr moves)]
    show (fun metric => if metric = offer.hcnt then _ else view.routes metric) = _
    simp only [shown, moves, true_and]
  · rw [if_neg fun told => moves ((announces_of_valid valid offer).mp told), shown]
    simp only [moves, false_and, if_false]

/-- The update of a valid entry that breaks a link is mirrored exactly if the next hop moves. -/
theorem Mirrored.update_iff_of_breaks {view : RouteView} (mirrored : view.Mirrored)
    (found : view.entry = some rt) (valid : rt.state = .valid) {offer : Offer}
    (comesUp : offer.state = .valid) (breaks : offer.Breaks rt) :
    (view.update rt offer).Mirrored ↔ offer.Moves rt := by
  have hops : offer.hcnt ≠ rt.hcnt := fun same => absurd breaks.1 (by rw [same, breaks.2]; decide)
  rw [Mirrored, shownRoutes_update found comesUp, update_routes found, if_pos ⟨breaks, valid⟩]
  show (fun metric => if metric = rt.hcnt ∧ _ then _ else _) = _ ↔ _
  rw [mirrored.announce_routes found valid]
  constructor
  · intro shown
    by_contra stays
    have atNew := congrFun shown offer.hcnt
    simp only [stays, hops, false_and, if_false, if_true, reduceCtorEq] at atNew
  · intro moves
    funext metric
    by_cases old : metric = rt.hcnt
    · subst old
      simp only [Ne.symm hops, and_false, if_false, if_true, Option.map_some, and_self]
    · simp only [old, moves, false_and, if_false, true_and]

/-- The update of a valid entry that breaks no link is mirrored exactly if the hop count stays
and the kernel knows the next hop. -/
theorem Mirrored.update_iff_of_not_breaks {view : RouteView} (mirrored : view.Mirrored)
    (found : view.entry = some rt) (valid : rt.state = .valid) {offer : Offer}
    (comesUp : offer.state = .valid) (keeps : ¬ offer.Breaks rt) :
    (view.update rt offer).Mirrored ↔
      offer.hcnt = rt.hcnt ∧ (offer.next = rt.nextHop ∨ offer.Moves rt) := by
  rw [Mirrored, shownRoutes_update found comesUp, update_routes found,
    if_neg fun both => keeps both.1, mirrored.announce_routes found valid]
  constructor
  · intro shown
    have atOld := congrFun shown rt.hcnt
    by_cases hops : rt.hcnt = offer.hcnt
    · refine ⟨hops.symm, ?_⟩
      by_cases moves : offer.Moves rt
      · exact .inr moves
      · simp only [moves, hops, if_false, if_true, Option.some.injEq, KernelRoute.mk.injEq,
          and_true] at atOld
        exact .inl atOld.symm
    · simp only [hops, and_false, if_false, if_true, reduceCtorEq] at atOld
  · rintro ⟨hops, next⟩
    funext metric
    by_cases here : metric = rt.hcnt
    · rcases next with same | moves
      · simp only [here, hops, same, and_true, if_true, ite_self]
      · simp only [here, hops, moves, and_self, if_true]
    · simp only [here, hops, and_false, if_false]

theorem Mirrored.update_iff_tracked {view : RouteView} (mirrored : view.Mirrored)
    (found : view.entry = some rt) (valid : rt.state = .valid) {offer : Offer}
    (comesUp : offer.state = .valid) : (view.update rt offer).Mirrored ↔ offer.Tracked rt := by
  by_cases breaks : offer.Breaks rt
  · have hops : offer.hcnt ≠ rt.hcnt := fun same => absurd breaks.1 (by rw [same, breaks.2]; decide)
    rw [mirrored.update_iff_of_breaks found valid comesUp breaks]
    exact ⟨fun moves => .inr ⟨breaks, moves⟩,
      fun tracked => tracked.elim (fun same => absurd same.1 hops) And.right⟩
  · rw [mirrored.update_iff_of_not_breaks found valid comesUp breaks]
    exact ⟨.inl, fun tracked => tracked.resolve_right fun broken => breaks broken.1⟩

end RouteView

/-! ### The mirror -/

/-- The kernel holds exactly the routes that the table calls for. -/
def Mirror (state : State) : Prop := ∀ dest, (view state dest).Mirrored

theorem Mirror.of_same {first second : State} (mirror : Mirror first)
    (rtTbl : second.rtTbl = first.rtTbl) (kernel : second.kernel = first.kernel) : Mirror second :=
  fun dest => view_congr rtTbl kernel dest ▸ mirror dest

theorem ViewSteps.mirrored {old new : RouteView} (steps : ViewSteps old new)
    (mirrored : old.Mirrored) : new.Mirrored := by
  induction steps with
  | refl => exact mirrored
  | tail _ last inductionHypothesis =>
    cases last with
    | change same => exact inductionHypothesis.change same
    | invalidate => exact inductionHypothesis.invalidate
    | delete => exact inductionHypothesis.delete

theorem Act.mirror {config : Config} {event : Event} {origin before after : State}
    (act : Act config event origin before after) (regular : Regular config before)
    (sober : Sober before)
    (tracked : ∀ update ∈ updatesOf config origin event, update.1.state = .valid →
      update.2.Tracked update.1) (mirror : Mirror before) : Mirror after := by
  rcases act.route_or_same with act | ⟨rtTbl, kernel⟩
  · intro dest
    have change := act.viewChange regular.sound dest
    generalize view after dest = new at change
    cases change with
    | calm steps => exact steps.mirrored (mirror dest)
    | insert offer _ fresh => exact (mirror dest).insert fresh offer
    | update offer _ rt found cause =>
      cases active : rt.state with
      | invalid => exact (mirror dest).update_of_invalid found active cause.valid
      | valid =>
        obtain ⟨met, same, listed⟩ := cause.listed
        refine ((mirror dest).update_iff_tracked found active cause.valid).mpr ?_
        exact (offer.tracked_congr same).mpr (tracked _ listed (same.state ▸ active))
    | repair rt found cause steps =>
      have invalid : rt.state ≠ .valid := fun valid =>
        sober.not_validAt_of_repair found cause ⟨rt, found, valid⟩
      exact steps.mirrored ((mirror dest).delRoute_of_invalid found invalid ..)
  · exact mirror.of_same rtTbl kernel

/-! ### Shutting down -/

theorem entryAt_foldl_rtTableDelete (dests : List RtEntry) (state : State) (other : Addr) :
    entryAt (dests.foldl (fun state rt => rtTableDelete rt.destAddr state) state) other =
      if other ∈ dests.map RtEntry.destAddr then none else entryAt state other := by
  induction dests generalizing state with
  | nil => rfl
  | cons rt rest inductionHypothesis =>
    rw [List.foldl_cons, inductionHypothesis, entryAt_rtTableDelete, List.map_cons]
    by_cases here : other = rt.destAddr
    · rw [if_pos here, ite_self, if_pos (here ▸ List.mem_cons_self)]
    · simp only [here, if_false, List.mem_cons, false_or]

/-- No entry survives `rt_table_destroy`. -/
theorem entryAt_rtTableDestroy (sound : state.rtTbl.Sound) (dest : Addr) :
    entryAt (rtTableDestroy state) dest = none := by
  refine (entryAt_foldl_rtTableDelete ..).trans ?_
  split
  · rfl
  · rename_i absent
    refine Option.eq_none_iff_forall_ne_some.mpr fun rt found => absent ?_
    obtain ⟨member, rfl⟩ := sound.entryAt_eq_some_iff.mp found
    exact List.mem_map_of_mem member

theorem Mirror.rtTableDestroy (mirror : Mirror state) : Mirror (Aodvd.rtTableDestroy state) :=
  List.foldlRecOn (rtEntries state) _ mirror fun current mirror rt _ dest =>
    (viewSteps_rtTableDelete rt.destAddr dest current).mirrored (mirror dest)

/-- The kernel holds one route for every valid entry, with its hop count, next hop and
interface, and no other; and `rt_table_destroy` leaves none. -/
structure KernelMirrors (state : State) : Prop where
  exact : ∀ dest metric route, state.kernel dest metric = some route ↔
    ∃ rt ∈ rtEntries state, rt.state = .valid ∧ rt.destAddr = dest ∧ rt.hcnt = metric ∧
      route = ⟨rt.nextHop, rt.ifindex⟩
  cleared : ∀ dest metric, (rtTableDestroy state).kernel dest metric = none

theorem Mirror.kernelMirrors (mirror : Mirror state) (sound : state.rtTbl.Sound) :
    KernelMirrors state where
  exact dest metric route := by
    have shown : state.kernel dest = shownRoutes (entryAt state dest) := mirror dest
    rw [shown]
    constructor
    · intro routed
      cases found : entryAt state dest with
      | none =>
        rw [found] at routed
        exact absurd routed (by simp [shownRoutes])
      | some rt =>
        obtain ⟨member, same⟩ := sound.entryAt_eq_some_iff.mp found
        rw [found, shownRoutes] at routed
        split at routed
        · rename_i here
          exact ⟨rt, member, here.1, same, here.2.symm, (Option.some.inj routed).symm⟩
        · exact absurd routed (by simp)
    · rintro ⟨rt, member, valid, rfl, rfl, rfl⟩
      rw [sound.entryAt_of_mem member, shownRoutes_of_valid valid]
      exact if_pos rfl
  cleared dest metric := by
    have shown : (Aodvd.rtTableDestroy state).kernel dest = shownRoutes _ := mirror.rtTableDestroy dest
    rw [shown]
    show shownRoutes (entryAt _ _) metric = none
    rw [entryAt_rtTableDestroy sound]
    rfl

/-! ### Runs -/

/-- Every update of a valid entry that the step makes is tracked, and the step detaches no HELLO
timer of a valid route of several hops while routes are repaired. -/
def KeepsMirror (config : Config) (state : State) (input : Input) : Prop :=
  (∀ update ∈ updatesOf config state input.event, update.1.state = .valid →
    update.2.Tracked update.1) ∧ ¬ LosesFar config (arrive input state) input.event

instance (config : Config) (state : State) (input : Input) :
    Decidable (KeepsMirror config state input) :=
  inferInstanceAs (Decidable ((∀ update ∈ updatesOf config state input.event,
    update.1.state = .valid → update.2.Tracked update.1) ∧ ¬ _))

theorem mirror_boot (config : Config) (now : Timeval) (jitter : Int) :
    Mirror (boot config now jitter) := by
  have acts := boot_acts config .timers (zeroState now jitter) now jitter
  have both : (∀ dest, entryAt (boot config now jitter) dest = none) ∧
      Mirror (boot config now jitter) := by
    refine acts.invariant (fun state => (∀ dest, entryAt state dest = none) ∧ Mirror state)
      (regular_zeroState config now jitter) ?_ ⟨fun _ => rfl, fun _ => rfl⟩
    rintro first second regular act ⟨empty, mirror⟩
    refine ⟨act.stays_empty regular.sound empty, act.mirror regular (sober_of_empty empty) ?_ mirror⟩
    exact fun _ listed => absurd listed List.not_mem_nil
  exact both.2

theorem Mirror.step {config : Config} (mirror : Mirror state) (sober : Sober state)
    (atRest : AtRest config state) {input : Input} (keeps : KeepsMirror config state input) :
    Sober (Aodvd.step config state input) ∧ Mirror (Aodvd.step config state input) := by
  refine (step_handled atRest input).invariant_of_sober Mirror (atRest.arrive input) keeps.2
    (sober.of_same rfl rfl) ?_ ?_ ?_ ?_ ?_ (mirror.of_same rfl rfl)
  · exact fun first second regular sober act => act.mirror regular sober keeps.1
  · exact fun _ current => current.of_same rfl rfl
  · exact fun _ current => current.of_same rfl rfl
  · exact fun _ _ _ current => current.of_same rfl rfl
  · exact fun _ _ _ current =>
      current.of_same (rtTbl_packetQueueAdd ..) (kernel_packetQueueAdd ..)

/-- In a run whose steps keep the mirror, the kernel holds exactly the routes of the valid
entries. -/
theorem run_kernelMirrors (config : Config) (now : Timeval) (jitter : Int) (inputs : List Input)
    (keeps : Runs.Meets (step config) (KeepsMirror config) (boot config now jitter) inputs) :
    KernelMirrors (run config now jitter inputs) := by
  have both : Sober (run config now jitter inputs) ∧ Mirror (run config now jitter inputs) :=
    run_invariant (fun state => Sober state ∧ Mirror state)
      ⟨sober_of_empty (entryAt_boot config now jitter), mirror_boot config now jitter⟩
      (fun _ _ atRest keeps current => current.2.step current.1 atRest keeps) keeps
  exact both.2.kernelMirrors (atRest_run config now jitter inputs).sound

/-- A route moves to another neighbour and keeps its hop count. -/
theorem run_kernelMirrors_moved :
    Runs.Meets (step loneConfig) (KeepsMirror loneConfig) (boot loneConfig timevalZero 0)
        [inputAt 100 (rrepFrom 2#32 5#32 1#32 1), inputAt 200 (rrepFrom 3#32 5#32 2#32 1)] ∧
      KernelMirrors (run loneConfig timevalZero 0
        [inputAt 100 (rrepFrom 2#32 5#32 1#32 1), inputAt 200 (rrepFrom 3#32 5#32 2#32 1)]) :=
  ⟨by decide +kernel, run_kernelMirrors loneConfig timevalZero 0 _ (by decide +kernel)⟩

/-- A route moves to another neighbour and becomes longer: the kernel keeps the route of the
old metric, and `rt_table_destroy` does not delete it. -/
theorem kernel_keeps_shorter_route :
    (entryAt (run loneConfig timevalZero 0 [inputAt 100 (rrepFrom 2#32 5#32 1#32 1),
        inputAt 200 (rrepFrom 3#32 5#32 2#32 2)]) 5#32).map RtEntry.hcnt = some 3 ∧
      (rtTableDestroy (run loneConfig timevalZero 0 [inputAt 100 (rrepFrom 2#32 5#32 1#32 1),
        inputAt 200 (rrepFrom 3#32 5#32 2#32 2)])).kernel 5#32 2 = some ⟨2#32, 1⟩ ∧
      ¬ KernelMirrors (run loneConfig timevalZero 0 [inputAt 100 (rrepFrom 2#32 5#32 1#32 1),
        inputAt 200 (rrepFrom 3#32 5#32 2#32 2)]) := by
  refine ⟨by decide +kernel, by decide +kernel, fun mirrors => ?_⟩
  have cleared := mirrors.cleared 5#32 2
  revert cleared
  decide +kernel

end Aodvd
