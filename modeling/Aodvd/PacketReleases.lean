/-
This file proves that buffered packets are released onto routes.

A packet is released when its destination gets a valid route, and by then both routing
tables should know the route: the entry is valid and the kernel has a route over its next
hop. Unless links may be unidirectional, no discovery runs for a destination with a valid
route, so every release follows a route that has just come up. With unidirectional links
a valid entry can be updated while packets wait, and then the update has to leave the
kernel a route over the next hop.
-/

import Aodvd.KernelMirror

namespace Aodvd

variable {rt : RtEntry} {dest : Addr} {state first second : State}

/-! ### Routes the kernel can use -/

/-- Both routing tables lead to a destination over one next hop. -/
def Routed (dest : Addr) (rtTbl : RoutingTable) (kernel : KernelTable) : Prop :=
  ∃ rt, ChainedTable.lookup rtScheme rtTbl.tbl dest = some rt ∧ rt.state = .valid ∧
    ∃ metric route, kernel dest metric = some route ∧ route.gateway = rt.nextHop

/-- Every buffered packet that was accepted was routed at that moment. -/
def ReleasesRouted (history : List QueueEvent) : Prop :=
  ∀ packetId dest rtTbl kernel,
    QueueEvent.verdict packetId .accept (.released dest rtTbl kernel) ∈ history →
      Routed dest rtTbl kernel

/-- The update of a valid entry leaves the kernel a route over the next hop: the kernel is told
the new one, or it stays and no link breaks. -/
def Offer.Reaching (offer : Offer) (rt : RtEntry) : Prop :=
  offer.Moves rt ∨ offer.next = rt.nextHop ∧ ¬ offer.Breaks rt

instance (offer : Offer) (rt : RtEntry) : Decidable (offer.Reaching rt) :=
  inferInstanceAs (Decidable (_ ∨ _))

theorem Offer.reaching_congr (offer : Offer) {first second : RtEntry}
    (same : SameRoute first second) : offer.Reaching first ↔ offer.Reaching second := by
  unfold Offer.Reaching Offer.Moves Offer.Breaks
  rw [same.hcnt, same.nextHop]

namespace RouteView

/-- A valid entry has a kernel route over its next hop. -/
def Reached (view : RouteView) : Prop :=
  ∀ rt, view.entry = some rt → rt.state = .valid →
    ∃ metric route, view.routes metric = some route ∧ route.gateway = rt.nextHop

theorem reached_of_not_valid {view : RouteView}
    (invalid : ∀ rt, view.entry = some rt → rt.state ≠ .valid) : view.Reached :=
  fun rt found valid => absurd valid (invalid rt found)

theorem Reached.of_steps {old new : RouteView} (reached : old.Reached) (steps : ViewSteps old new) :
    new.Reached := by
  intro rt found valid
  obtain ⟨before, beforeFound, same, routes⟩ := steps.of_valid found valid
  rw [same.nextHop, routes]
  exact reached before beforeFound (same.state.symm.trans valid)

/-- A new entry comes with its kernel route. -/
theorem reached_insert (offer : Offer) (view : RouteView) : (view.insert offer).Reached := by
  intro rt found valid
  unfold RouteView.insert at found ⊢
  by_cases comesUp : offer.state = .valid
  · rw [if_pos comesUp] at found ⊢
    obtain rfl := Option.some.inj found
    exact ⟨offer.hcnt, _, if_pos rfl, rfl⟩
  · rw [if_neg comesUp] at found
    obtain rfl := Option.some.inj found
    exact absurd valid comesUp

/-- An announced next hop survives the rest of an update. -/
theorem update_routes_of_announces {view : RouteView} (found : view.entry = some rt)
    {offer : Offer} (announces : offer.Announces rt) :
    (view.update rt offer).routes offer.hcnt = some ⟨offer.next, rt.ifindex⟩ := by
  have told : (view.announce rt offer).routes offer.hcnt = some ⟨offer.next, rt.ifindex⟩ := by
    rw [RouteView.announce, if_pos announces]
    exact if_pos rfl
  rw [update_routes found]
  split
  · rename_i broken
    have hops : offer.hcnt ≠ rt.hcnt := fun same =>
      absurd broken.1.1 (by rw [same, broken.1.2]; decide)
    show (if offer.hcnt = rt.hcnt ∧ _ then none else _) = _
    rw [if_neg fun both => hops both.1]
    exact told
  · exact told

theorem Reached.update {view : RouteView} (reached : view.Reached) (found : view.entry = some rt)
    {offer : Offer} (comesUp : offer.state = .valid)
    (reaching : rt.state = .valid → offer.Reaching rt) : (view.update rt offer).Reached := by
  intro new newFound _
  obtain ⟨base, _, updated⟩ := update_entry found offer
  obtain rfl := Option.some.inj (updated.symm.trans newFound)
  show ∃ metric route, _ ∧ _ = offer.next
  by_cases announces : offer.Announces rt
  · exact ⟨offer.hcnt, _, update_routes_of_announces found announces, rfl⟩
  · have valid : rt.state = .valid := by
      cases active : rt.state with
      | valid => rfl
      | invalid => exact absurd (.inl ⟨active, comesUp⟩) announces
    obtain ⟨same, keeps⟩ := (reaching valid).resolve_left fun moves => announces (.inr moves)
    rw [same, update_routes found, if_neg fun both => keeps both.1, RouteView.announce,
      if_neg announces]
    exact reached rt found valid

end RouteView

section

variable {config : Config} {event : Event} {origin before after : State}

/-- An operation leaves a destination with a kernel route if updates of its valid entry do and
its repair does not fail while it is valid. -/
theorem RouteAct.reached (act : RouteAct config event origin before after)
    (sound : before.rtTbl.Sound) (reached : (view before dest).Reached)
    (kept : ∀ rt, entryAt before dest = some rt → rt.state = .valid →
      (∀ offer, Updates config event origin before rt offer → offer.Reaching rt) ∧
        ¬ (rt.flags.repair = true ∨
          (before.timers.timer (.rtTimer dest)).handler = some .localRepairTimeout)) :
    (view after dest).Reached := by
  have change := act.viewChange sound dest
  generalize view after dest = new at change
  cases change with
  | calm steps => exact reached.of_steps steps
  | insert offer => exact RouteView.reached_insert offer _
  | update offer _ rt found cause =>
    exact reached.update found cause.valid fun valid => (kept rt found valid).1 offer cause
  | repair rt found cause steps =>
    refine RouteView.reached_of_not_valid fun new newFound valid => ?_
    obtain ⟨old, oldFound, same, _⟩ := steps.of_valid newFound valid
    obtain rfl := Option.some.inj (found.symm.trans oldFound)
    exact (kept rt found (same.state.symm.trans valid)).2 cause

/-! ### The history of releases -/

theorem ReleasesRouted.append {history added : List QueueEvent} (routed : ReleasesRouted history)
    (others : ∀ packetId dest rtTbl kernel,
      QueueEvent.verdict packetId .accept (.released dest rtTbl kernel) ∈ added →
        Routed dest rtTbl kernel) : ReleasesRouted (history ++ added) := by
  intro packetId dest rtTbl kernel member
  rcases List.mem_append.mp member with old | new
  · exact routed packetId dest rtTbl kernel old
  · exact others packetId dest rtTbl kernel new

/-- Packets leave the queue with a verdict; if they are accepted as released, the release is
routed. -/
theorem ReleasesRouted.detachPackets (routed : ReleasesRouted state.history)
    (chosen : QPkt → Bool) (verdict : NfVerdict) (cause : VerdictCause)
    (released : verdict = .accept → ∀ dest rtTbl kernel,
      cause = .released dest rtTbl kernel → Routed dest rtTbl kernel) :
    ReleasesRouted (Aodvd.detachPackets chosen verdict cause state).history := by
  refine routed.append fun packetId dest rtTbl kernel member => ?_
  obtain ⟨qp, _, issued⟩ := List.mem_map.mp member
  obtain ⟨_, accepted, cause⟩ := QueueEvent.verdict.inj issued
  exact released accepted dest rtTbl kernel cause

/-- What a release adds to the history is routed if its destination is reached. -/
theorem Releases.releasesRouted (releases : Releases config before after dest)
    (routed : ReleasesRouted before.history)
    (reached : Sought before dest → (view after dest).Reached) : ReleasesRouted after.history := by
  obtain ⟨current, rt, only, sound, found, valid, rfl⟩ := releases
  obtain ⟨sameTable, sameKernel⟩ := rtTbl_releaseBuffered config dest current
  rw [view_congr sameTable sameKernel] at reached
  rw [← only.history] at routed
  unfold releaseBuffered
  split
  · exact routed
  · rename_i entry sought
    have wanted : Sought before dest := by
      obtain ⟨member, same⟩ := seekListFind_some sought
      exact ⟨entry, only.seekhead ▸ member, same⟩
    have removedSound : (seekListRemove dest current).rtTbl.Sound := sound
    have there : rtTableFind (seekListRemove dest current) dest = some rt :=
      (rtTableFind_eq_entryAt removedSound dest).trans found
    rw [(packetQueueSend_acts config there).routesOnly.history]
    have kept : ReleasesRouted (seekListRemove dest current).history := routed
    refine kept.detachPackets _ _ _ fun _ other rtTbl kernel same => ?_
    obtain ⟨rfl, rfl, rfl⟩ := VerdictCause.released.inj same
    exact ⟨rt, found, valid, reached wanted rt found valid⟩

theorem Act.releasesRouted (act : Act config event origin before after)
    (sound : before.rtTbl.Sound) (routed : ReleasesRouted before.history)
    (reached : RouteAct config event origin before after →
      ∀ dest, Sought before dest → (view after dest).Reached) : ReleasesRouted after.history := by
  have dropped : ∀ chosen cause (state : State), ReleasesRouted state.history →
      ReleasesRouted (detachPackets chosen .drop cause state).history :=
    fun _ _ _ current => current.detachPackets _ _ _ fun accepted => NfVerdict.noConfusion accepted
  cases act with
  | aside aside => rwa [aside.history]
  | timer act =>
    obtain ⟨timers, rfl⟩ := act.same
    exact routed
  | record origAddr rreqId =>
    unfold rreqRecordInsert
    split <;> exact routed
  | blacklist dest =>
    unfold rreqBlacklistInsert
    split <;> exact routed
  | send => rwa [(aside_aodvSocketSend ..).history]
  | route act =>
    rcases act.routesOnly_or_releases sound with only | ⟨_, offer, _, _, releases⟩
    · rwa [only.history]
    · exact releases.releasesRouted routed (reached act offer.dest)
  | giveUp entry rest => exact dropped _ _ (popTimer (.seekTimer entry.destAddr) rest before) routed
  | collect => exact dropped _ _ before routed
  | _ => exact routed

/-! ### Releases over bidirectional links -/

/-- No discovery runs for a destination with a valid route. -/
def Unserved (state : State) : Prop := ∀ dest, Sought state dest → ¬ ValidAt state dest

theorem Sought.of_dests
    (dests : second.seekhead.map SeekEntry.destAddr = first.seekhead.map SeekEntry.destAddr)
    (sought : Sought second dest) : Sought first dest :=
  sought_iff.mpr (dests ▸ sought_iff.mp sought)

/-- The discoveries a release leaves. -/
theorem seekhead_releaseBuffered (config : Config) (sound : state.rtTbl.Sound)
    (found : entryAt state dest = some rt) :
    (releaseBuffered config dest state).seekhead = (seekListRemove dest state).seekhead := by
  unfold releaseBuffered
  split
  · rename_i none
    refine (List.eraseP_of_forall_not fun entry member same => ?_).symm
    exact not_sought_of_find none ⟨entry, member, of_decide_eq_true same⟩
  · have removedSound : (seekListRemove dest state).rtTbl.Sound := sound
    have there : rtTableFind (seekListRemove dest state) dest = some rt :=
      (rtTableFind_eq_entryAt removedSound dest).trans found
    rw [(packetQueueSend_acts config there).routesOnly.seekhead]
    rfl

/-- A release ends the discovery of its destination and no other. -/
theorem Releases.sought {other : Addr} (releases : Releases config before after dest)
    (clocked : Clocked before) (sought : Sought after other) :
    Sought before other ∧ other ≠ dest := by
  obtain ⟨current, rt, only, sound, found, _, rfl⟩ := releases
  have distinct : (current.seekhead.map SeekEntry.destAddr).Nodup := only.seekhead ▸ clocked.distinct
  have dests := congrArg (List.map SeekEntry.destAddr) (seekhead_releaseBuffered config sound found)
  have remains : Sought (seekListRemove dest current) other := sought.of_dests dests
  have different : other ≠ dest := fun same =>
    not_sought_seekListRemove distinct dest (same ▸ remains)
  refine ⟨Sought.of_dests (congrArg _ only.seekhead) ?_, different⟩
  exact (sought_seekListRemove different).mp remains

theorem RouteAct.unserved (act : RouteAct config event origin before after)
    (sound : before.rtTbl.Sound) (clocked : Clocked before) (unserved : Unserved before) :
    Unserved after := by
  intro dest sought valid
  have soughtBefore : Sought before dest := by
    rcases act.routesOnly_or_releases sound with only | ⟨_, _, _, _, releases⟩
    · exact sought.of_dests (congrArg _ only.seekhead)
    · exact (releases.sought clocked sought).1
  obtain ⟨rt, found, isValid⟩ := valid
  have viewFound : (view after dest).entry = some rt := found
  have change := act.viewChange sound dest
  generalize view after dest = new at change viewFound
  cases change with
  | calm steps =>
    obtain ⟨old, oldFound, same, _⟩ := steps.of_valid viewFound isValid
    exact unserved dest soughtBefore ⟨old, oldFound, same.state.symm.trans isValid⟩
  | insert offer here fresh released =>
    have comesUp : offer.state = .valid := by
      unfold RouteView.insert at viewFound
      split at viewFound
      · assumption
      · obtain rfl := Option.some.inj viewFound
        exact isValid
    exact ((released comesUp).sought clocked sought).2 rfl
  | update offer here rt found cause released => exact (released.sought clocked sought).2 rfl
  | repair rt found cause steps =>
    obtain ⟨old, oldFound, same, _⟩ := steps.of_valid viewFound isValid
    exact unserved dest soughtBefore ⟨old, oldFound, same.state.symm.trans isValid⟩

theorem not_validAt_of_unroutable (regular : Regular config state)
    (bidirectional : config.unidirHack = false) (needed : unroutable (entryAt state dest) = true) :
    ¬ ValidAt state dest := by
  rintro ⟨rt, found, valid⟩
  rw [found, unroutable, valid, regular.bidirectional bidirectional dest rt found] at needed
  simp at needed

theorem Act.unserved (act : Act config event origin before after) (regular : Regular config before)
    (clocked : Clocked before) (bidirectional : config.unidirHack = false)
    (unserved : Unserved before) : Unserved after := by
  rcases act.route_or_same with route | ⟨rtTbl, _⟩
  · exact route.unserved regular.sound clocked unserved
  · have entries : ∀ dest, ValidAt after dest → ValidAt before dest := by
      intro dest valid
      rwa [ValidAt, entryAt, ← rtTbl]
    have kept : after.seekhead.map SeekEntry.destAddr = before.seekhead.map SeekEntry.destAddr →
        Unserved after := fun dests dest sought valid =>
      unserved dest (sought.of_dests dests) (entries dest valid)
    cases act with
    | aside aside => exact kept (congrArg _ aside.seekhead)
    | timer act =>
      obtain ⟨timers, rfl⟩ := act.same
      exact kept rfl
    | record origAddr rreqId =>
      refine kept (congrArg _ ?_)
      unfold rreqRecordInsert
      split <;> rfl
    | blacklist dest =>
      refine kept (congrArg _ ?_)
      unfold rreqBlacklistInsert
      split <;> rfl
    | send => exact kept (congrArg _ (aside_aodvSocketSend ..).seekhead)
    | route act => exact act.unserved regular.sound clocked unserved
    | seek dest destSeqno ttl flags msec fresh needed =>
      intro other sought valid
      obtain ⟨entry, member, same⟩ := sought
      rcases List.mem_cons.mp member with rfl | old
      · have here : dest = other := same
        subst here
        exact not_validAt_of_unroutable regular bidirectional needed (entries dest valid)
      · exact unserved other ⟨entry, old, same⟩ (entries other valid)
    | retry entry rest => exact kept (seekhead_setSeekEntry (seekRetry_destAddr config) ..)
    | giveUp entry rest =>
      intro other sought valid
      obtain ⟨found, member, same⟩ := sought
      exact unserved other ⟨found, List.mem_of_mem_eraseP member, same⟩ (entries other valid)
    | _ => exact kept rfl

/-! ### Events -/

theorem releasesRouted_deliver {packet : NfPacket} (routed : ReleasesRouted state.history) :
    ReleasesRouted (deliver packet state).history :=
  routed.append fun _ _ _ _ member => QueueEvent.noConfusion (List.mem_singleton.mp member)

theorem releasesRouted_immediate {packetId : BitVec 32} {verdict : NfVerdict}
    (routed : ReleasesRouted state.history) :
    ReleasesRouted (nfqueueSetPacketVerdict packetId verdict .immediate state).history := by
  refine routed.append fun _ _ _ _ member => ?_
  obtain ⟨_, _, cause⟩ := QueueEvent.verdict.inj (List.mem_singleton.mp member)
  exact VerdictCause.noConfusion cause

theorem releasesRouted_packetQueueAdd {packetId : BitVec 32}
    (routed : ReleasesRouted state.history) :
    ReleasesRouted (packetQueueAdd packetId dest state).history := by
  show ReleasesRouted (evictOldest state).history
  unfold evictOldest
  split
  · exact routed
  · split
    · refine routed.append fun _ _ _ _ member => ?_
      obtain ⟨_, _, cause⟩ := QueueEvent.verdict.inj (List.mem_singleton.mp member)
      exact VerdictCause.noConfusion cause
    · exact routed

theorem seekhead_packetQueueAdd (packetId : BitVec 32) (dest : Addr) (state : State) :
    (packetQueueAdd packetId dest state).seekhead = state.seekhead := by
  obtain ⟨_, _, added⟩ := packetQueueAdd_eq packetId dest state
  rw [added]

theorem Unserved.of_same (unserved : Unserved first) (rtTbl : second.rtTbl = first.rtTbl)
    (seekhead : second.seekhead = first.seekhead) : Unserved second := by
  intro dest sought valid
  refine unserved dest (sought.of_dests (congrArg _ seekhead)) ?_
  rwa [ValidAt, entryAt, ← rtTbl]

/-- Over bidirectional links every release is routed. -/
theorem Handled.releasesRouted_of_unserved {final : State}
    (handled : Handled config origin event final) (atRest : AtRest config origin)
    (bidirectional : config.unidirHack = false) (unserved : Unserved origin)
    (routed : ReleasesRouted origin.history) :
    Unserved final ∧ ReleasesRouted final.history := by
  have result : Clocked final ∧ Unserved final ∧ ReleasesRouted final.history := by
    refine handled.invariant
      (fun state => Clocked state ∧ Unserved state ∧ ReleasesRouted state.history)
      atRest.toRegular ?_ ?_ ?_ ?_ ?_ ⟨atRest.clocked, unserved, routed⟩
    · rintro first second regular act ⟨clocked, unserved, routed⟩
      refine ⟨act.clockStep.clocked clocked, act.unserved regular clocked bidirectional unserved,
        act.releasesRouted regular.sound routed fun route dest sought => ?_⟩
      have invalid := unserved dest sought
      exact route.reached regular.sound
        (RouteView.reached_of_not_valid fun rt found valid => invalid ⟨rt, found, valid⟩)
        fun rt found valid => absurd ⟨rt, found, valid⟩ invalid
    · exact fun _ current => ⟨atRest.gather, current.2.1.of_same rfl rfl, current.2.2⟩
    · exact fun packet current => ⟨(clockStep_deliver packet _).clocked current.1,
        current.2.1.of_same rfl rfl, releasesRouted_deliver current.2.2⟩
    · exact fun packetId verdict state current =>
        ⟨(clockStep_nfqueueSetPacketVerdict ..).clocked current.1, current.2.1.of_same rfl rfl,
          releasesRouted_immediate current.2.2⟩
    · exact fun packetId dest state current => ⟨(clockStep_packetQueueAdd ..).clocked current.1,
        current.2.1.of_same (rtTbl_packetQueueAdd ..) (seekhead_packetQueueAdd ..),
        releasesRouted_packetQueueAdd current.2.2⟩
  exact result.2

/-- Every destination with a valid entry has a kernel route over its next hop. -/
def AllReached (state : State) : Prop := ∀ dest, (view state dest).Reached

theorem AllReached.of_same (reached : AllReached first) (rtTbl : second.rtTbl = first.rtTbl)
    (kernel : second.kernel = first.kernel) : AllReached second :=
  fun dest => view_congr rtTbl kernel dest ▸ reached dest

theorem RouteAct.allReached (act : RouteAct config event origin before after)
    (sound : before.rtTbl.Sound) (sober : Sober before)
    (reaching : ∀ update ∈ updatesOf config origin event, update.1.state = .valid →
      update.2.Reaching update.1) (reached : AllReached before) : AllReached after := by
  refine fun dest => act.reached sound (reached dest) fun rt found valid =>
    ⟨fun offer cause => ?_, fun cause => ?_⟩
  · obtain ⟨met, same, listed⟩ := cause.listed
    exact (offer.reaching_congr same).mpr (reaching _ listed (same.state ▸ valid))
  · exact sober.not_validAt_of_repair found cause ⟨rt, found, valid⟩

theorem Act.allReached (act : Act config event origin before after)
    (sound : before.rtTbl.Sound) (sober : Sober before)
    (reaching : ∀ update ∈ updatesOf config origin event, update.1.state = .valid →
      update.2.Reaching update.1) (reached : AllReached before) : AllReached after := by
  rcases act.route_or_same with act | ⟨rtTbl, kernel⟩
  · exact act.allReached sound sober reaching reached
  · exact reached.of_same rtTbl kernel

/-- Where links may be unidirectional, every release is routed if the updates of valid entries
reach their next hops and no route of several hops is lost. -/
theorem Handled.releasesRouted_of_reaching {final : State}
    (handled : Handled config origin event final) (atRest : AtRest config origin)
    (reaching : ∀ update ∈ updatesOf config origin event, update.1.state = .valid →
      update.2.Reaching update.1)
    (safe : ¬ LosesFar config origin event) (sober : Sober origin) (reached : AllReached origin)
    (routed : ReleasesRouted origin.history) :
    Sober final ∧ AllReached final ∧ ReleasesRouted final.history := by
  refine handled.invariant_of_sober
    (fun state => AllReached state ∧ ReleasesRouted state.history) atRest safe sober
    ?_ ?_ ?_ ?_ ?_ ⟨reached, routed⟩
  · rintro first second regular sober act ⟨reached, routed⟩
    refine ⟨act.allReached regular.sound sober reaching reached,
      act.releasesRouted regular.sound routed fun route dest _ => ?_⟩
    exact route.allReached regular.sound sober reaching reached dest
  · exact fun _ current => ⟨current.1.of_same rfl rfl, current.2⟩
  · exact fun _ current => ⟨current.1.of_same rfl rfl, releasesRouted_deliver current.2⟩
  · exact fun _ _ _ current => ⟨current.1.of_same rfl rfl, releasesRouted_immediate current.2⟩
  · exact fun _ _ _ current =>
      ⟨current.1.of_same (rtTbl_packetQueueAdd ..) (kernel_packetQueueAdd ..),
        releasesRouted_packetQueueAdd current.2⟩

end

/-! ### Runs -/

/-- Where links may be unidirectional, every update of a valid entry that the step makes leaves
the kernel a route over the next hop, and the step detaches no HELLO timer of a valid route of
several hops while routes are repaired. -/
def KeepsReleases (config : Config) (state : State) (input : Input) : Prop :=
  config.unidirHack = true →
    (∀ update ∈ updatesOf config state input.event, update.1.state = .valid →
      update.2.Reaching update.1) ∧ ¬ LosesFar config (arrive input state) input.event

instance (config : Config) (state : State) (input : Input) :
    Decidable (KeepsReleases config state input) :=
  inferInstanceAs (Decidable (_ → (∀ update ∈ updatesOf config state input.event,
    update.1.state = .valid → update.2.Reaching update.1) ∧ ¬ _))

theorem reached_of_empty (empty : ∀ dest, entryAt state dest = none) :
    AllReached state := fun dest =>
  RouteView.reached_of_not_valid fun _ found => absurd ((empty dest).symm.trans found) (by simp)

theorem releasesRouted_boot (config : Config) (now : Timeval) (jitter : Int) :
    ReleasesRouted (boot config now jitter).history := by
  have acts := boot_acts config .timers (zeroState now jitter) now jitter
  have both : (∀ dest, entryAt (boot config now jitter) dest = none) ∧
      ReleasesRouted (boot config now jitter).history := by
    refine acts.invariant
      (fun state => (∀ dest, entryAt state dest = none) ∧ ReleasesRouted state.history)
      (regular_zeroState config now jitter) ?_
      ⟨fun _ => rfl, fun _ _ _ _ member => absurd member List.not_mem_nil⟩
    rintro first second regular act ⟨empty, routed⟩
    have still := act.stays_empty regular.sound empty
    exact ⟨still, act.releasesRouted regular.sound routed fun _ dest _ => reached_of_empty still dest⟩
  exact both.2

/-- In a run whose steps keep releases routed, every buffered packet was accepted only when its
destination had a valid entry and the kernel a route over its next hop. -/
theorem run_releasesRouted (config : Config) (now : Timeval) (jitter : Int) (inputs : List Input)
    (keeps : Runs.Meets (step config) (KeepsReleases config) (boot config now jitter) inputs) :
    ReleasesRouted (run config now jitter inputs).history := by
  have empty := entryAt_boot config now jitter
  have routed := releasesRouted_boot config now jitter
  cases hack : config.unidirHack with
  | false =>
    have unserved : Unserved (boot config now jitter) :=
      fun dest _ ⟨rt, found, _⟩ => absurd ((empty dest).symm.trans found) (by simp)
    have result : Unserved (run config now jitter inputs) ∧
        ReleasesRouted (run config now jitter inputs).history := by
      refine run_invariant_of_step (fun state => Unserved state ∧ ReleasesRouted state.history)
        ⟨unserved, routed⟩ ?_ inputs
      rintro state input atRest ⟨unserved, routed⟩
      exact (step_handled atRest input).releasesRouted_of_unserved (atRest.arrive input) hack
        (unserved.of_same rfl rfl) routed
    exact result.2
  | true =>
    have result : Sober (run config now jitter inputs) ∧ AllReached (run config now jitter inputs) ∧
        ReleasesRouted (run config now jitter inputs).history := by
      refine run_invariant
        (fun state => Sober state ∧ AllReached state ∧ ReleasesRouted state.history)
        ⟨sober_of_empty empty, reached_of_empty empty, routed⟩ ?_ keeps
      rintro state input atRest keeps ⟨sober, reached, routed⟩
      exact (step_handled atRest input).releasesRouted_of_reaching (atRest.arrive input)
        (keeps hack).1 (keeps hack).2 (sober.of_same rfl rfl) (reached.of_same rfl rfl) routed
    exact result.2.2

/-- A node that takes links to be unidirectional until a HELLO names it. -/
def suspiciousConfig : Config := { loneConfig with unidirHack := true }

/-- A packet waits for a neighbour whose link is unidirectional, and the neighbour answers about
itself with a hop count. -/
def neighborAnswers (hcnt : Nat) : List Input :=
  [inputAt 100 (helloFrom 2#32 1#32), inputAt 200 (packetTo 7#32 2#32),
    inputAt 300 (rrepFrom 2#32 2#32 2#32 hcnt)]

theorem run_releasesRouted_neighbor :
    Runs.Meets (step suspiciousConfig) (KeepsReleases suspiciousConfig)
        (boot suspiciousConfig timevalZero 0) (neighborAnswers 0) ∧
      ReleasesRouted (run suspiciousConfig timevalZero 0 (neighborAnswers 0)).history :=
  ⟨by decide +kernel, run_releasesRouted suspiciousConfig timevalZero 0 _ (by decide +kernel)⟩

/-- The neighbour answers with a longer route to itself: the link break deletes the only kernel
route, and the packet is accepted. -/
theorem release_after_link_break :
    ¬ ReleasesRouted (run suspiciousConfig timevalZero 0 (neighborAnswers 1)).history := by
  intro routed
  have history : (run suspiciousConfig timevalZero 0 (neighborAnswers 1)).history =
      [.delivered 7#32, .verdict 7#32 .accept (.released 2#32
        (run suspiciousConfig timevalZero 0 (neighborAnswers 1)).rtTbl
        (run suspiciousConfig timevalZero 0 (neighborAnswers 1)).kernel)] := rfl
  have empty : ∀ metric,
      (run suspiciousConfig timevalZero 0 (neighborAnswers 1)).kernel 2#32 metric = none
    | 0 => rfl
    | 1 => rfl
    | _ + 2 => rfl
  rw [history] at routed
  obtain ⟨_, _, _, metric, route, installed, _⟩ :=
    routed _ _ _ _ (List.mem_cons_of_mem _ List.mem_cons_self)
  exact absurd ((empty metric).symm.trans installed) (by simp)

end Aodvd
