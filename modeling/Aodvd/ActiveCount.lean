/-
This file is about `num_active`, the counter of valid routes.

Every operation moves the counter and the number of valid entries together, with one
exception: when `rt_table_update` turns a valid neighbour into a route of several hops,
the link break it sets off counts the entry out, and the update makes the entry valid
again without counting it back in. A run without such an update keeps the counter exact.
-/

import Aodvd.Reachable

namespace Aodvd

variable {rt : RtEntry} {state before after : State} {excess : Nat} {offer : Offer}
  (config : Config)

/-! ### Counting valid entries -/

/-- The number of valid entries of the routing table. -/
def activeCount (state : State) : Nat :=
  (rtEntries state).countP fun rt => decide (rt.state = .valid)

/-- What one entry adds to the count. -/
def RtEntry.active (rt : RtEntry) : Nat := if rt.state = .valid then 1 else 0

theorem countP_cons_active (rt : RtEntry) (entries : List RtEntry) :
    (rt :: entries).countP (fun rt => decide (rt.state = .valid)) =
      entries.countP (fun rt => decide (rt.state = .valid)) + rt.active := by
  rw [List.countP_cons, RtEntry.active]
  simp only [decide_eq_true_eq]

/-- A write in place exchanges the part of one entry in the count. -/
theorem activeCount_setEntry (sound : state.rtTbl.Sound) {dest : Addr}
    (found : entryAt state dest = some rt) (change : RtEntry → RtEntry) :
    activeCount (setEntry dest change state) + rt.active =
      activeCount state + (change rt).active := by
  have before := (sound.wellFormed.entries_remove_perm found).countP_eq
    fun rt => decide (rt.state = .valid)
  have after := (sound.wellFormed.entries_modify_perm found change).countP_eq
    fun rt => decide (rt.state = .valid)
  rw [countP_cons_active] at before after
  show (ChainedTable.entries (ChainedTable.modify rtScheme state.rtTbl.tbl dest change)).countP _ + _ =
    (ChainedTable.entries state.rtTbl.tbl).countP _ + _
  omega

/-- A write that keeps the state of entries keeps the count. -/
theorem activeCount_setEntry_of_same (sound : state.rtTbl.Sound) (dest : Addr)
    {change : RtEntry → RtEntry} (same : ∀ rt, (change rt).state = rt.state) :
    activeCount (setEntry dest change state) = activeCount state := by
  show (ChainedTable.entries (ChainedTable.modify rtScheme state.rtTbl.tbl dest change)).countP _ = _
  rw [sound.wellFormed.entries_modify, List.countP_map]
  refine List.countP_congr fun rt _ => ?_
  rw [Function.comp_apply, ChainedTable.changeAt]
  split
  · rw [same]
  · rfl

/-! ### The counter beside the count -/

/-- The counter exceeds the number of valid entries by a given amount. -/
def Balanced (excess : Nat) (state : State) : Prop :=
  state.rtTbl.numActive = activeCount state + excess

theorem Balanced.of_rtTbl (balanced : Balanced excess before) (rtTbl : after.rtTbl = before.rtTbl) :
    Balanced excess after := by
  unfold Balanced activeCount rtEntries
  rw [rtTbl]
  exact balanced

theorem Balanced.setEntry (balanced : Balanced excess state) (sound : state.rtTbl.Sound)
    (dest : Addr) {change : RtEntry → RtEntry} (same : ∀ rt, (change rt).state = rt.state) :
    Balanced excess (Aodvd.setEntry dest change state) := by
  unfold Balanced
  rw [activeCount_setEntry_of_same sound dest same]
  exact balanced

theorem Balanced.rtTableInvalidate (balanced : Balanced excess state) (sound : state.rtTbl.Sound)
    (config : Config) (dest : Addr) :
    Balanced excess (Aodvd.rtTableInvalidate config dest state) := by
  by_cases active : ∃ rt, entryAt state dest = some rt ∧ rt.state = .valid
  · obtain ⟨rt, found, valid⟩ := active
    obtain ⟨timers, result⟩ := rtTableInvalidate_of_valid config found valid
    have count := activeCount_setEntry sound found RtEntry.invalidated
    have before : rt.active = 1 := if_pos valid
    have after : rt.invalidated.active = 0 := if_neg fun same => RouteState.noConfusion same
    rw [before, after] at count
    rw [result]
    show uintSub state.rtTbl.numActive 1 = activeCount (Aodvd.setEntry dest _ state) + excess
    rw [uintSub, show state.rtTbl.numActive = activeCount state + excess from balanced,
      if_pos (by omega)]
    omega
  · rw [rtTableInvalidate_of_not_valid config fun rt found valid => active ⟨rt, found, valid⟩]
    exact balanced

theorem BreakActs.balanced {config : Config} (acts : BreakActs config before after)
    (sound : before.rtTbl.Sound) (balanced : Balanced excess before) : Balanced excess after := by
  induction acts with
  | refl => exact balanced
  | tail early last inductionHypothesis =>
    have currentSound := BreakActs.sound early sound
    cases last with
    | report act => exact inductionHypothesis.of_rtTbl act.aside.rtTbl
    | rewrite dest cosmetic => exact inductionHypothesis.setEntry currentSound dest cosmetic.state
    | invalidate dest => exact inductionHypothesis.rtTableInvalidate currentSound config dest

theorem Balanced.rtTableInsert (balanced : Balanced 0 state) (config : Config)
    (fresh : entryAt state offer.dest = none) :
    Balanced 0 (Aodvd.rtTableInsert config offer state).1 := by
  obtain ⟨timers, result⟩ := insertRoute_eq config offer state
  refine Balanced.of_rtTbl ?_ (rtTbl_rtTableInsert config offer fresh).1
  have perm : (ChainedTable.entries (ChainedTable.add rtScheme state.rtTbl.tbl offer.entry)).countP
      (fun rt => decide (rt.state = .valid)) = activeCount state + offer.entry.active :=
    ((ChainedTable.entries_add_perm offer.entry).countP_eq _).trans (countP_cons_active ..)
  rw [result]
  show (if offer.state = .valid then state.rtTbl.numActive + 1 else state.rtTbl.numActive) =
    (ChainedTable.entries (ChainedTable.add rtScheme state.rtTbl.tbl offer.entry)).countP _ + 0
  rw [perm, show state.rtTbl.numActive = activeCount state + 0 from balanced]
  show _ = activeCount state + (if offer.state = .valid then 1 else 0) + 0
  split <;> omega

theorem Balanced.rtTableDelete (balanced : Balanced 0 state) (sound : state.rtTbl.Sound)
    (dest : Addr) : Balanced 0 (Aodvd.rtTableDelete dest state) := by
  cases found : entryAt state dest with
  | none =>
    unfold Aodvd.rtTableDelete
    rw [found]
    exact balanced
  | some rt =>
    obtain ⟨timers, result⟩ := rtTableDelete_of_some found
    have perm := (sound.wellFormed.entries_remove_perm found).countP_eq
      fun rt => decide (rt.state = .valid)
    rw [countP_cons_active] at perm
    have count : state.rtTbl.numActive = activeCount state + 0 := balanced
    unfold activeCount rtEntries at count
    rw [result]
    show (if rt.state = .valid then uintSub state.rtTbl.numActive 1 else state.rtTbl.numActive) =
      (ChainedTable.entries (ChainedTable.remove rtScheme state.rtTbl.tbl dest)).countP _ + 0
    unfold RtEntry.active at perm
    unfold uintSub
    split
    · rename_i valid
      rw [if_pos valid] at perm
      rw [if_pos (by omega)]
      omega
    · rename_i invalid
      rw [if_neg invalid] at perm
      omega

/-! ### Updates -/

/-- How far the counter runs ahead while an entry of the given state is being updated: a route
that comes up is counted before it is valid. -/
def comingUp (rt : RtEntry) : Nat := if rt.state = .valid then 0 else 1

theorem Balanced.updateKernel (balanced : Balanced 0 state) (rt : RtEntry)
    (valid : offer.state = .valid) :
    Balanced (comingUp rt) (Aodvd.updateKernel rt offer state) := by
  have count : state.rtTbl.numActive = activeCount state + 0 := balanced
  unfold Aodvd.updateKernel comingUp
  cases rt.state with
  | valid =>
    rw [if_pos rfl, if_neg (by simp)]
    split
    · exact balanced
    · exact balanced
  | invalid =>
    rw [if_neg (by simp), if_pos ⟨rfl, valid⟩]
    show state.rtTbl.numActive + 1 = activeCount state + 1
    rw [count]

/-- Unless a valid neighbour becomes a longer route, the entry being updated keeps its state
until the end of the update. -/
theorem entryAt_updateLinkBreak (offer : Offer) (sound : state.rtTbl.Sound)
    (found : entryAt state rt.destAddr = some rt) (kept : rt.state = .valid → ¬ offer.Breaks rt) :
    ∃ base, entryAt (updateLinkBreak config rt offer state) rt.destAddr = some base ∧
      base.state = rt.state := by
  have updated := congrArg RouteView.entry
    (view_updateLinkBreak config offer sound found rt.destAddr)
  by_cases breaks : offer.Breaks rt
  · have invalid : rt.forgetHellos.state ≠ .valid := fun valid => kept valid breaks
    have retired : rt.forgetHellos.retired = rt.forgetHellos := if_neg invalid
    refine ⟨rt.forgetHellos.cut rt.destAddr rt.flags.repair rt.destAddr, updated.trans ?_, ?_⟩
    · rw [if_pos breaks, if_pos rfl, RouteView.cut_entry]
      show ((entryAt state rt.destAddr).map _).map _ = _
      rw [found]
      rfl
    · unfold RtEntry.cut
      rw [if_pos rfl, retired]
      split <;> rfl
  · refine ⟨rt, updated.trans ?_, rfl⟩
    rw [if_neg breaks]
    exact found

theorem Balanced.updateLinkBreak (balanced : Balanced excess state) (sound : state.rtTbl.Sound)
    (config : Config) (rt : RtEntry) (offer : Offer) :
    Balanced excess (Aodvd.updateLinkBreak config rt offer state) := by
  unfold Aodvd.updateLinkBreak
  split
  · refine (neighborLinkBreak_acts ..).balanced ?_ ?_
    · exact sound.setEntry cosmetic_forgetHellos.toGentle rt.destAddr
    · exact balanced.setEntry sound rt.destAddr cosmetic_forgetHellos.state
  · exact balanced

theorem Balanced.rtTableUpdate (balanced : Balanced 0 state) (sound : state.rtTbl.Sound)
    (config : Config) (found : entryAt state offer.dest = some rt) (valid : offer.state = .valid)
    (kept : rt.state = .valid → ¬ offer.Breaks rt) :
    Balanced 0 (Aodvd.rtTableUpdate config offer state) := by
  have dest := entryAt_destAddr found
  have kernelSound := sound.updateKernel rt offer
  have kernelFound : entryAt (Aodvd.updateKernel rt offer state) rt.destAddr = some rt := by
    rw [entryAt_updateKernel, dest, found]
  obtain ⟨base, baseFound, baseState⟩ :=
    entryAt_updateLinkBreak config offer kernelSound kernelFound kept
  have count := activeCount_setEntry (kernelSound.updateLinkBreak config rt offer) baseFound
    (RtEntry.renewed rt offer)
  have broken : (Aodvd.updateLinkBreak config rt offer (Aodvd.updateKernel rt offer
      state)).rtTbl.numActive = _ + comingUp rt :=
    (balanced.updateKernel rt valid).updateLinkBreak kernelSound config rt offer
  have before : base.active + comingUp rt = 1 := by
    rw [RtEntry.active, baseState, comingUp]
    split <;> rfl
  have after : (rt.renewed offer base).active = 1 := if_pos valid
  rw [after] at count
  refine Balanced.of_rtTbl ?_
    ((rtTbl_rtTableUpdate config offer found).trans (rtTbl_updateRoute config rt offer state))
  show (Aodvd.updateLinkBreak config rt offer (Aodvd.updateKernel rt offer
    state)).rtTbl.numActive = _ + 0
  omega

/-! ### Actions -/

theorem Balanced.rerrInvalidate (balanced : Balanced 0 state) (sound : state.rtTbl.Sound)
    (config : Config) (noDelete : Bool) (dest : Addr) (seqno : Seqno) :
    Balanced 0 (Aodvd.rerrInvalidate config noDelete dest seqno state) := by
  unfold Aodvd.rerrInvalidate
  split
  · exact balanced.setEntry sound dest fun _ => rfl
  · exact (balanced.rtTableInvalidate sound config dest).setEntry
      (sound.rtTableInvalidate config dest) dest fun _ => rfl

theorem Balanced.localRepairTimeout (balanced : Balanced 0 state) (sound : state.rtTbl.Sound)
    (config : Config) {dest : Addr} (found : entryAt state dest = some rt) :
    Balanced 0 (Aodvd.localRepairTimeout config dest state) := by
  obtain ⟨reported, aside, result⟩ := localRepairTimeout_of_some config found
  have unmarked : Balanced 0 (Aodvd.setEntry dest RtEntry.unmarkRepair state) :=
    balanced.setEntry sound dest fun _ => rfl
  have unmarkedSound := sound.setEntry cosmetic_unmarkRepair.toGentle dest
  have noted : Balanced 0 reported := unmarked.of_rtTbl aside.rtTbl
  rw [result]
  refine Balanced.of_rtTbl (noted.setEntry ?_ dest cosmetic_precursorListDestroy.state) rfl
  exact unmarkedSound.of_tbl (congrArg _ aside.rtTbl) (congrArg _ aside.rtTbl)

/-- The update would have a valid neighbour become a route of several hops. -/
def Recedes (update : RtEntry × Offer) : Prop :=
  update.1.state = .valid ∧ update.2.Breaks update.1

instance (update : RtEntry × Offer) : Decidable (Recedes update) :=
  inferInstanceAs (Decidable (_ ∧ _ ∧ _))

theorem Act.balanced {config : Config} {event : Event} {origin : State}
    (act : Act config event origin before after) (regular : Regular config before)
    (steady : ∀ update ∈ updatesOf config origin event, ¬ Recedes update)
    (balanced : Balanced 0 before) : Balanced 0 after := by
  have sound := regular.sound
  rcases act.route_or_same with act | ⟨rtTbl, _⟩
  · cases act with
    | touch dest touch => exact balanced.setEntry sound dest touch.state
    | insert offer fresh => exact balanced.rtTableInsert config fresh
    | update offer rt found cause =>
      obtain ⟨met, same, listed⟩ := cause.listed
      refine balanced.rtTableUpdate sound config found cause.valid fun valid breaks => ?_
      exact steady _ listed ⟨same.state ▸ valid, breaks.1, same.hcnt ▸ breaks.2⟩
    | linkBreak dest => exact (neighborLinkBreak_acts config dest before).balanced sound balanced
    | unidirBreak dest =>
      have marked : Balanced 0 (setEntry dest RtEntry.markUnidir before) :=
        balanced.setEntry sound dest fun _ => rfl
      exact (neighborLinkBreak_acts config dest _).balanced
        (sound.setEntry cosmetic_markUnidir.toGentle dest) marked
    | helloBreak dest rest =>
      have popped : Balanced 0 (popTimer (.helloTimer dest) rest before) := balanced
      exact (helloTimeout_breaks config dest _).balanced sound popped
    | expire dest => exact balanced.rtTableInvalidate sound config dest
    | error received message dest seqno =>
      exact balanced.rerrInvalidate sound config message.noDelete dest seqno
    | delete dest => exact balanced.rtTableDelete sound dest
    | repair dest rt found => exact balanced.localRepairTimeout sound config found
  · exact balanced.of_rtTbl rtTbl

/-! ### Runs -/

/-- No update of the step has a valid neighbour become a longer route. -/
def NoNeighborRecedes (config : Config) (state : State) (input : Input) : Prop :=
  ∀ update ∈ updatesOf config state input.event, ¬ Recedes update

instance (config : Config) (state : State) (input : Input) :
    Decidable (NoNeighborRecedes config state input) :=
  inferInstanceAs (Decidable (∀ update ∈ updatesOf config state input.event, ¬ Recedes update))

theorem Balanced.step {config : Config} (balanced : Balanced 0 state)
    (atRest : AtRest config state) {input : Input} (steady : NoNeighborRecedes config state input) :
    Balanced 0 (Aodvd.step config state input) :=
  (step_handled atRest input).invariant_of_ignored (Balanced 0) (atRest.toRegular.arrive input)
    (fun _ _ current act => act.balanced current steady) (fun _ => id) (fun _ _ _ => id) balanced

theorem balanced_boot (now : Timeval) (jitter : Int) : Balanced 0 (boot config now jitter) := by
  refine (boot_acts config .timers (zeroState now jitter) now jitter).invariant (Balanced 0)
    (regular_zeroState config now jitter) (fun _ _ current act => act.balanced current ?_) ?_
  · exact fun update listed => absurd listed List.not_mem_nil
  · rfl

/-- In a run in which no valid neighbour becomes a longer route, `num_active` is the number of
valid entries. -/
theorem numActive_eq_activeCount (config : Config) (now : Timeval) (jitter : Int)
    (inputs : List Input)
    (steady : Runs.Meets (step config) (NoNeighborRecedes config) (boot config now jitter) inputs) :
    (run config now jitter inputs).rtTbl.numActive = activeCount (run config now jitter inputs) := by
  have balanced : Balanced 0 (run config now jitter inputs) :=
    run_invariant (Balanced 0) (balanced_boot config now jitter)
      (fun _ _ atRest steady current => current.step atRest steady) steady
  exact balanced

/-- A neighbour is heard, and a request of it comes directly. -/
theorem numActive_neighbor_requests :
    Runs.Meets (step loneConfig) (NoNeighborRecedes loneConfig) (boot loneConfig timevalZero 0)
        [inputAt 100 (helloFrom 2#32 1#32), inputAt 200 (rreqFrom 2#32 2#32 2#32 0 9#32)] ∧
      (run loneConfig timevalZero 0 [inputAt 100 (helloFrom 2#32 1#32),
        inputAt 200 (rreqFrom 2#32 2#32 2#32 0 9#32)]).rtTbl.numActive =
      activeCount (run loneConfig timevalZero 0 [inputAt 100 (helloFrom 2#32 1#32),
        inputAt 200 (rreqFrom 2#32 2#32 2#32 0 9#32)]) :=
  ⟨by decide +kernel, numActive_eq_activeCount loneConfig timevalZero 0 _ (by decide +kernel)⟩

/-- A neighbour is heard, and a newer request of it comes over another neighbour: two routes
are valid and one is counted. -/
theorem numActive_neighbor_recedes :
    (run loneConfig timevalZero 0 [inputAt 100 (helloFrom 2#32 1#32),
        inputAt 200 (rreqFrom 3#32 2#32 2#32 1 9#32)]).rtTbl.numActive = 1 ∧
      activeCount (run loneConfig timevalZero 0 [inputAt 100 (helloFrom 2#32 1#32),
        inputAt 200 (rreqFrom 3#32 2#32 2#32 1 9#32)]) = 2 := by
  decide +kernel

end Aodvd
