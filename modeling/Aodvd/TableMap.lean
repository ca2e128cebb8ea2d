/-
This file proves that the routing table is a finite map from destination addresses to
entries.

A table is sound when its buckets are a well-formed chained table, the entry counter is
the number of entries, and every entry caches its own hash and counts its precursors.
On a sound table `rt_table_find`, with its two fast paths, is the plain lookup, and every
operation of `routing_table.c` keeps soundness. The cascade that `rt_table_update` can
set off is broken up into elementary writes first, so that what each write keeps is
proved once.
-/

import Aodvd.Frames

namespace Aodvd

variable {state : State} {rt : RtEntry} (config : Config) (offer : Offer) (dest other : Addr)

/-! ### Soundness -/

/-- An entry caches the hash of its destination, and counts precursors that are distinct. -/
structure RtEntry.Sound (rt : RtEntry) : Prop where
  hashed : rt.hash = (hashing rt.destAddr).1
  counted : rt.nprec = rt.precursors.length
  distinct : rt.precursors.Nodup

/-- The representation invariant of the routing table. -/
structure RoutingTable.Sound (table : RoutingTable) : Prop where
  wellFormed : ChainedTable.WellFormed rtScheme table.tbl
  counted : table.numEntries = (ChainedTable.entries table.tbl).length
  entry : ∀ rt ∈ ChainedTable.entries table.tbl, rt.Sound

/-- A change of an entry in place that soundness survives. -/
structure Gentle (change : RtEntry → RtEntry) : Prop where
  dest : ∀ rt, (change rt).destAddr = rt.destAddr
  sound : ∀ rt, rt.Sound → (change rt).Sound

/-- A change that writes none of the fields soundness speaks of is gentle. -/
theorem Gentle.of_same {change : RtEntry → RtEntry} (dest : ∀ rt, (change rt).destAddr = rt.destAddr)
    (hash : ∀ rt, (change rt).hash = rt.hash) (nprec : ∀ rt, (change rt).nprec = rt.nprec)
    (precursors : ∀ rt, (change rt).precursors = rt.precursors) : Gentle change where
  dest := dest
  sound rt sound := by
    refine ⟨?_, ?_, ?_⟩
    · rw [hash, dest]
      exact sound.hashed
    · rw [nprec, precursors]
      exact sound.counted
    · rw [precursors]
      exact sound.distinct

theorem gentle_invalidated : Gentle RtEntry.invalidated :=
  .of_same (fun _ => rfl) (fun _ => rfl) (fun _ => rfl) (fun _ => rfl)

theorem gentle_adopt (flags : RtFlags) (offer : Offer) : Gentle (RtEntry.adopt flags offer) :=
  .of_same (fun _ => rfl) (fun _ => rfl) (fun _ => rfl) (fun _ => rfl)

theorem gentle_setState (state : RouteState) : Gentle (RtEntry.setState state) :=
  .of_same (fun _ => rfl) (fun _ => rfl) (fun _ => rfl) (fun _ => rfl)

theorem gentle_precursorAdd (addr : Addr) : Gentle (RtEntry.precursorAdd addr) where
  dest rt := by
    unfold RtEntry.precursorAdd
    split <;> rfl
  sound rt sound := by
    unfold RtEntry.precursorAdd
    split
    · exact sound
    · refine ⟨sound.hashed, ?_, List.nodup_cons.mpr ⟨‹_›, sound.distinct⟩⟩
      show rt.nprec + 1 = ((addr :: rt.precursors).length : Int)
      rw [sound.counted, List.length_cons, Int.natCast_add, Int.natCast_one]

theorem gentle_precursorRemove (addr : Addr) : Gentle (RtEntry.precursorRemove addr) where
  dest rt := by
    unfold RtEntry.precursorRemove
    split <;> rfl
  sound rt sound := by
    unfold RtEntry.precursorRemove
    split
    · rename_i member
      refine ⟨sound.hashed, ?_, sound.distinct.erase addr⟩
      show rt.nprec - 1 = ((rt.precursors.erase addr).length : Int)
      have positive := List.length_pos_of_mem member
      rw [sound.counted, List.length_erase_of_mem member]
      omega
    · exact sound

theorem gentle_precursorListDestroy : Gentle RtEntry.precursorListDestroy where
  dest _ := rfl
  sound rt sound := by
    refine ⟨sound.hashed, ?_, List.nodup_nil⟩
    show rt.nprec - rt.precursors.length = 0
    rw [sound.counted, Int.sub_self]

/-- A gentle change that leaves the route itself as it is: only marks, HELLO counts and
precursors change. -/
structure Cosmetic (change : RtEntry → RtEntry) : Prop extends Gentle change where
  destSeqno : ∀ rt, (change rt).destSeqno = rt.destSeqno
  ifindex : ∀ rt, (change rt).ifindex = rt.ifindex
  nextHop : ∀ rt, (change rt).nextHop = rt.nextHop
  hcnt : ∀ rt, (change rt).hcnt = rt.hcnt
  state : ∀ rt, (change rt).state = rt.state

theorem cosmetic_markRepair : Cosmetic RtEntry.markRepair :=
  ⟨.of_same (fun _ => rfl) (fun _ => rfl) (fun _ => rfl) (fun _ => rfl),
    fun _ => rfl, fun _ => rfl, fun _ => rfl, fun _ => rfl, fun _ => rfl⟩

theorem cosmetic_forgetHellos : Cosmetic RtEntry.forgetHellos :=
  ⟨.of_same (fun _ => rfl) (fun _ => rfl) (fun _ => rfl) (fun _ => rfl),
    fun _ => rfl, fun _ => rfl, fun _ => rfl, fun _ => rfl, fun _ => rfl⟩

theorem cosmetic_precursorListDestroy : Cosmetic RtEntry.precursorListDestroy :=
  ⟨gentle_precursorListDestroy, fun _ => rfl, fun _ => rfl, fun _ => rfl, fun _ => rfl,
    fun _ => rfl⟩

/-! ### Lookup -/

theorem entryAt_destAddr {dest : Addr} (found : entryAt state dest = some rt) :
    rt.destAddr = dest :=
  ChainedTable.lookup_key found

theorem RoutingTable.Sound.entryAt_eq_some_iff (sound : state.rtTbl.Sound) {dest : Addr} :
    entryAt state dest = some rt ↔ rt ∈ rtEntries state ∧ rt.destAddr = dest :=
  sound.wellFormed.lookup_eq_some_iff

theorem RoutingTable.Sound.entryAt_eq_none_iff (sound : state.rtTbl.Sound) {dest : Addr} :
    entryAt state dest = none ↔ ∀ rt ∈ rtEntries state, rt.destAddr ≠ dest :=
  sound.wellFormed.lookup_eq_none_iff

theorem RoutingTable.Sound.entryAt_of_mem (sound : state.rtTbl.Sound)
    (member : rt ∈ rtEntries state) : entryAt state rt.destAddr = some rt :=
  sound.entryAt_eq_some_iff.mpr ⟨member, rfl⟩

/-- On a sound table neither fast path of `rt_table_find` loses an entry. -/
theorem rtTableFind_eq_entryAt (sound : state.rtTbl.Sound) (dest : Addr) :
    rtTableFind state dest = entryAt state dest := by
  unfold rtTableFind
  split
  · rename_i empty
    rw [sound.counted, List.length_eq_zero_iff] at empty
    refine (sound.entryAt_eq_none_iff.mpr ?_).symm
    rw [rtEntries, empty]
    exact fun _ member => absurd member List.not_mem_nil
  · rw [entryAt, ChainedTable.lookup, ← List.head?_filter, ← List.head?_filter]
    refine congrArg List.head? (List.filter_congr fun rt member => ?_)
    have hashed := (sound.entry rt (ChainedTable.mem_entries.mpr ⟨_, member⟩)).hashed
    rw [hashed]
    by_cases same : rt.destAddr = dest
    · subst same
      simp [rtScheme]
    · simp [rtScheme, same, Ne.symm same]

/-- The search loop of `rt_table_insert` agrees with the lookup. -/
theorem any_bucket_eq_isSome (state : State) (dest : Addr) :
    ((state.rtTbl.tbl (hashing dest).2).any fun rt => decide (rt.destAddr = dest)) =
      (entryAt state dest).isSome := by
  rw [Bool.eq_iff_iff, List.any_eq_true, entryAt, ChainedTable.lookup, List.find?_isSome]
  rfl

/-! ### Writing through a pointer, linking and unlinking -/

theorem entryAt_setEntry {change : RtEntry → RtEntry}
    (keepsDest : ∀ rt, (change rt).destAddr = rt.destAddr) (dest other : Addr) (state : State) :
    entryAt (setEntry dest change state) other =
      if other = dest then (entryAt state dest).map change else entryAt state other :=
  ChainedTable.lookup_modify keepsDest dest other

theorem RoutingTable.Sound.setEntry (sound : state.rtTbl.Sound) {change : RtEntry → RtEntry}
    (gentle : Gentle change) (dest : Addr) : (Aodvd.setEntry dest change state).rtTbl.Sound where
  wellFormed := sound.wellFormed.modify gentle.dest
  counted := by
    show state.rtTbl.numEntries =
      (ChainedTable.entries (ChainedTable.modify rtScheme state.rtTbl.tbl dest change)).length
    rw [sound.wellFormed.entries_modify, List.length_map, sound.counted]
  entry rt member := by
    have mapped : rt ∈ (rtEntries state).map (ChainedTable.changeAt rtScheme dest change) :=
      sound.wellFormed.entries_modify dest change ▸ member
    obtain ⟨old, oldMember, rfl⟩ := List.mem_map.mp mapped
    unfold ChainedTable.changeAt
    split
    · exact gentle.sound old (sound.entry old oldMember)
    · exact sound.entry old oldMember

theorem entryAt_attachEntry (rt : RtEntry) (dest : Addr) (state : State) :
    entryAt (attachEntry rt state) dest =
      if rt.destAddr = dest then some rt else entryAt state dest :=
  ChainedTable.lookup_add rt dest

theorem RoutingTable.Sound.attachEntry (sound : state.rtTbl.Sound)
    (fresh : entryAt state rt.destAddr = none) (entrySound : rt.Sound) :
    (Aodvd.attachEntry rt state).rtTbl.Sound where
  wellFormed := sound.wellFormed.add fresh
  counted := by
    show state.rtTbl.numEntries + 1 =
      (ChainedTable.entries (ChainedTable.add rtScheme state.rtTbl.tbl rt)).length
    rw [(ChainedTable.entries_add_perm rt).length_eq, sound.counted, List.length_cons]
  entry other member := by
    rcases List.mem_cons.mp ((ChainedTable.entries_add_perm rt).mem_iff.mp member) with rfl | old
    · exact entrySound
    · exact sound.entry other old

theorem entryAt_detachEntry (state : State) :
    entryAt (detachEntry dest state) other = if other = dest then none else entryAt state other :=
  ChainedTable.lookup_remove dest other

theorem RoutingTable.Sound.detachEntry (sound : state.rtTbl.Sound) {dest : Addr}
    (found : entryAt state dest = some rt) : (Aodvd.detachEntry dest state).rtTbl.Sound where
  wellFormed := sound.wellFormed.remove dest
  counted := by
    have length := (sound.wellFormed.entries_remove_perm found).length_eq
    rw [List.length_cons, ← sound.counted] at length
    show uintSub state.rtTbl.numEntries 1 = _
    rw [uintSub, if_pos (by omega), length, Nat.add_sub_cancel]
    rfl
  entry other member := sound.entry other
    ((sound.wellFormed.entries_remove_perm found).mem_iff.mpr (List.mem_cons_of_mem rt member))

/-- The counter of active routes has no part in soundness. -/
theorem RoutingTable.Sound.of_tbl {first second : RoutingTable} (sound : first.Sound)
    (numEntries : second.numEntries = first.numEntries) (tbl : second.tbl = first.tbl) :
    second.Sound where
  wellFormed := tbl ▸ sound.wellFormed
  counted := by
    rw [numEntries, tbl]
    exact sound.counted
  entry := tbl ▸ sound.entry

theorem sound_rtTableInit (state : State) : (rtTableInit state).rtTbl.Sound where
  wellFormed := ChainedTable.wellFormed_empty
  counted := by
    show 0 = (ChainedTable.entries fun _ => ([] : List RtEntry)).length
    rw [ChainedTable.entries_empty, List.length_nil]
  entry rt member := by
    have none : rt ∈ ChainedTable.entries fun _ : Fin rtTableSize => ([] : List RtEntry) := member
    rw [ChainedTable.entries_empty] at none
    exact absurd none List.not_mem_nil

/-! ### Invalidation -/

/-- An entry after `rt_table_invalidate`. -/
def RtEntry.retired (rt : RtEntry) : RtEntry := if rt.state = .valid then rt.invalidated else rt

theorem gentle_retired : Gentle RtEntry.retired where
  dest rt := by
    unfold RtEntry.retired
    split <;> rfl
  sound rt sound := by
    unfold RtEntry.retired
    split
    · exact gentle_invalidated.sound rt sound
    · exact sound

theorem rtTableInvalidate_of_valid {dest : Addr} (found : entryAt state dest = some rt)
    (valid : rt.state = .valid) :
    ∃ timers, rtTableInvalidate config dest state =
      { state with
        rtTbl := { state.rtTbl with
          numActive := uintSub state.rtTbl.numActive 1
          tbl := ChainedTable.modify rtScheme state.rtTbl.tbl dest RtEntry.invalidated }
        kernel := state.kernel.delRoute dest rt.hcnt rt.nextHop
        timers := timers } := by
  refine ⟨(rtTableInvalidate config dest state).timers, ?_⟩
  unfold rtTableInvalidate
  simp only [found, valid, entryAt_destAddr found, reduceCtorEq, if_false]
  split <;>
    simp only [setTimeout, setHandler, nlSendDelRouteMsg, decrActive, setEntry, removeEntryTimers,
      removeTimer]

theorem rtTableInvalidate_of_not_valid {dest : Addr}
    (notValid : ∀ rt, entryAt state dest = some rt → rt.state ≠ .valid) :
    rtTableInvalidate config dest state = state := by
  unfold rtTableInvalidate
  split
  · rfl
  · rename_i rt found
    have invalid : rt.state = .invalid := by
      cases states : rt.state
      · exact absurd states (notValid rt found)
      · rfl
    rw [if_pos invalid]

/-- An invalidation writes the tables and the timers only. -/
theorem rtTableInvalidate_eq (state : State) :
    ∃ rtTbl kernel timers, rtTableInvalidate config dest state =
      { state with rtTbl := rtTbl, kernel := kernel, timers := timers } := by
  by_cases active : ∃ rt, entryAt state dest = some rt ∧ rt.state = .valid
  · obtain ⟨rt, found, valid⟩ := active
    obtain ⟨timers, result⟩ := rtTableInvalidate_of_valid config found valid
    exact ⟨_, _, timers, result⟩
  · exact ⟨_, _, _, rtTableInvalidate_of_not_valid config fun rt found valid =>
      active ⟨rt, found, valid⟩⟩

theorem entryAt_rtTableInvalidate (state : State) :
    entryAt (rtTableInvalidate config dest state) other =
      if other = dest then (entryAt state dest).map RtEntry.retired else entryAt state other := by
  by_cases active : ∃ rt, entryAt state dest = some rt ∧ rt.state = .valid
  · obtain ⟨rt, found, valid⟩ := active
    obtain ⟨timers, result⟩ := rtTableInvalidate_of_valid config found valid
    rw [result]
    show entryAt (setEntry dest RtEntry.invalidated state) other = _
    rw [entryAt_setEntry gentle_invalidated.dest, found, Option.map_some, Option.map_some,
      RtEntry.retired, if_pos valid]
  · have notValid : ∀ rt, entryAt state dest = some rt → rt.state ≠ .valid :=
      fun rt found valid => active ⟨rt, found, valid⟩
    rw [rtTableInvalidate_of_not_valid config notValid]
    split
    · rename_i same
      subst same
      cases found : entryAt state other with
      | none => rfl
      | some rt => rw [Option.map_some, RtEntry.retired, if_neg (notValid rt found)]
    · rfl

theorem RoutingTable.Sound.rtTableInvalidate (sound : state.rtTbl.Sound) (config : Config)
    (dest : Addr) : (Aodvd.rtTableInvalidate config dest state).rtTbl.Sound := by
  by_cases active : ∃ rt, entryAt state dest = some rt ∧ rt.state = .valid
  · obtain ⟨rt, found, valid⟩ := active
    obtain ⟨timers, result⟩ := rtTableInvalidate_of_valid config found valid
    rw [result]
    exact (sound.setEntry gentle_invalidated dest).of_tbl rfl rfl
  · rw [rtTableInvalidate_of_not_valid config fun rt found valid => active ⟨rt, found, valid⟩]
    exact sound

/-! ### The cascade of a link break -/

/-- The writes a link break is made of. -/
inductive BreakAct (config : Config) : State → State → Prop
  | report {before after : State} (act : ReportAct config before after) :
      BreakAct config before after
  | rewrite (state : State) (dest : Addr) {change : RtEntry → RtEntry} (cosmetic : Cosmetic change)
      (flags : ∀ rt, (change rt).flags = rt.flags ∨
        (change rt).flags = { rt.flags with repair := true })
      (valid : ∀ rt, entryAt state dest = some rt → (change rt).flags = rt.flags ∨
        rt.state = .valid) :
      BreakAct config state (setEntry dest change state)
  | invalidate (state : State) (dest : Addr) :
      BreakAct config state (rtTableInvalidate config dest state)

abbrev BreakActs (config : Config) : State → State → Prop :=
  Relation.ReflTransGen (BreakAct config)

theorem BreakActs.of_reports {config : Config} {before after : State}
    (acts : ReportActs config before after) : BreakActs config before after :=
  Relation.ReflTransGen.mono (fun _ _ act => .report act) _ _ acts

theorem sendBuf_rtTableInvalidate (state : State) :
    (rtTableInvalidate config dest state).sendBuf = state.sendBuf := by
  obtain ⟨_, _, _, result⟩ := rtTableInvalidate_eq config dest state
  rw [result]

/-- The broken link itself is invalidated first. -/
theorem linkBreakSelf_acts (state : State) :
    BreakActs config (rtTableInvalidate config dest state) (linkBreakSelf config dest state).1 ∧
      Drafted false (linkBreakSelf config dest state) := by
  have drafted : Drafted false (rtTableInvalidate config dest state, .none) :=
    fun created => absurd created Bool.false_ne_true
  unfold linkBreakSelf
  dsimp only
  split
  · exact ⟨.refl, drafted⟩
  · split
    · exact ⟨.refl, drafted⟩
    · have destroyed {loop : State × RerrDraft}
          (acts : BreakActs config (rtTableInvalidate config dest state) loop.1) :
          BreakActs config (rtTableInvalidate config dest state) (precursorListDestroy dest loop.1) :=
        .tail acts (.rewrite _ dest cosmetic_precursorListDestroy (fun _ => .inl rfl)
          fun _ _ => .inl rfl)
      split
      · exact ⟨destroyed .refl, drafted⟩
      · exact ⟨destroyed (BreakActs.of_reports (rerrInclude_reports config drafted _)),
          (drafted_rerrInclude drafted _).of_sendBuf rfl⟩

theorem linkBreakVisit_acts (broken visited : Addr) {loop : State × RerrDraft}
    (drafted : Drafted false loop) :
    BreakActs config loop.1 (linkBreakVisit config broken visited loop).1 ∧
      Drafted false (linkBreakVisit config broken visited loop) := by
  unfold linkBreakVisit
  split
  · rename_i found
    split
    · rename_i uses
      split
      · have marks : BreakAct config loop.1 (setEntry visited RtEntry.markRepair loop.1) := by
          refine .rewrite _ visited cosmetic_markRepair (fun _ => .inr rfl) fun rt there => .inr ?_
          obtain rfl := Option.some.inj (found.symm.trans there)
          exact uses.1
        exact ⟨.tail (.single marks) (.invalidate _ visited),
          drafted.of_sendBuf (sendBuf_rtTableInvalidate ..)⟩
      · have invalidated : BreakActs config loop.1 (rtTableInvalidate config visited loop.1) :=
          .single (.invalidate loop.1 visited)
        have still : Drafted false (rtTableInvalidate config visited loop.1, loop.2) :=
          drafted.of_sendBuf (sendBuf_rtTableInvalidate ..)
        have destroyed {next : State × RerrDraft} (acts : BreakActs config loop.1 next.1) :
            BreakActs config loop.1 (precursorListDestroy visited next.1) :=
          .tail acts (.rewrite _ visited cosmetic_precursorListDestroy (fun _ => .inl rfl)
            fun _ _ => .inl rfl)
        dsimp only
        split
        · split
          · exact ⟨destroyed invalidated, still.of_sendBuf rfl⟩
          · exact ⟨destroyed (invalidated.trans
              (BreakActs.of_reports (rerrInclude_reports config still _))),
              (drafted_rerrInclude still _).of_sendBuf rfl⟩
        · exact ⟨destroyed invalidated, still.of_sendBuf rfl⟩
    · exact ⟨.refl, drafted⟩
  · exact ⟨.refl, drafted⟩

theorem neighborLinkBreak_acts_of_near {dest : Addr} (found : entryAt state dest = some rt)
    (near : rt.hcnt = 1) :
    BreakActs config (rtTableInvalidate config dest state)
      (neighborLinkBreak config dest state) := by
  unfold neighborLinkBreak
  rw [found]
  dsimp only
  rw [if_pos near]
  have loop := List.foldlRecOn ((rtEntries state).map RtEntry.destAddr)
    (fun loop visited => linkBreakVisit config dest visited loop)
    (motive := fun loop : State × RerrDraft => BreakActs config (rtTableInvalidate config dest state)
      loop.1 ∧ Drafted false loop) (linkBreakSelf_acts config dest state) (by
        rintro loop ⟨reached, drafted⟩ visited _
        obtain ⟨acts, still⟩ := linkBreakVisit_acts config dest visited drafted
        exact ⟨reached.trans acts, still⟩)
  exact loop.1.trans (BreakActs.of_reports (rerrSend_reports config loop.2))

theorem neighborLinkBreak_acts (state : State) :
    BreakActs config state (neighborLinkBreak config dest state) := by
  cases found : entryAt state dest with
  | none =>
    rw [neighborLinkBreak, found]
  | some rt =>
    by_cases near : rt.hcnt = 1
    · exact .head (.invalidate state dest) (neighborLinkBreak_acts_of_near config found near)
    · rw [neighborLinkBreak, found]
      dsimp only
      rw [if_neg near]

theorem BreakActs.sound {config : Config} {before after : State}
    (acts : BreakActs config before after) (sound : before.rtTbl.Sound) : after.rtTbl.Sound := by
  induction acts with
  | refl => exact sound
  | tail _ last inductionHypothesis =>
    cases last with
    | report act => exact act.aside.rtTbl ▸ inductionHypothesis
    | rewrite dest cosmetic => exact inductionHypothesis.setEntry cosmetic.toGentle dest
    | invalidate dest => exact inductionHypothesis.rtTableInvalidate config dest

/-! ### Releasing buffered packets -/

theorem rtTbl_packetQueueSend (state : State) :
    (packetQueueSend config dest state).rtTbl = state.rtTbl ∧
      (packetQueueSend config dest state).kernel = state.kernel := by
  unfold packetQueueSend
  split
  · exact ⟨rfl, rfl⟩
  · have acts := refreshReleased_acts config ‹RtEntry›
      (detachPackets (fun qp => decide (qp.destAddr = dest)) .accept
        (.released dest state.rtTbl state.kernel) state)
    exact ⟨acts.rtTbl, acts.kernel⟩

/-- A release leaves both routing tables alone. -/
theorem rtTbl_releaseBuffered (state : State) :
    (releaseBuffered config dest state).rtTbl = state.rtTbl ∧
      (releaseBuffered config dest state).kernel = state.kernel := by
  unfold releaseBuffered
  split
  · exact ⟨rfl, rfl⟩
  · exact rtTbl_packetQueueSend config dest (seekListRemove dest state)

/-! ### Insertion -/

theorem rtTableInsert_of_some (found : entryAt state offer.dest = some rt) :
    rtTableInsert config offer state = (state, none) := by
  unfold rtTableInsert
  rw [any_bucket_eq_isSome, found, Option.isSome_some, if_pos rfl]

theorem rtTableInsert_of_none (fresh : entryAt state offer.dest = none) :
    rtTableInsert config offer state =
      (if offer.state = .valid then
        releaseBuffered config offer.dest (insertRoute config offer state)
      else insertRoute config offer state, some offer.dest) := by
  unfold rtTableInsert
  rw [any_bucket_eq_isSome, fresh, Option.isSome_none, if_neg Bool.false_ne_true]

theorem insertRoute_eq (state : State) :
    ∃ timers, insertRoute config offer state =
      { state with
        rtTbl := ⟨state.rtTbl.numEntries + 1,
          if offer.state = .valid then state.rtTbl.numActive + 1 else state.rtTbl.numActive,
          ChainedTable.add rtScheme state.rtTbl.tbl offer.entry⟩
        kernel := if offer.state = .valid then
            state.kernel.newRoute offer.dest offer.hcnt ⟨offer.next, offer.ifindex⟩
          else state.kernel
        timers := timers } := by
  refine ⟨(insertRoute config offer state).timers, ?_⟩
  unfold insertRoute
  cases offer.state <;> simp only [reduceCtorEq, if_false, if_true] <;> split <;>
    simp only [setTimeout, setHandler, initTimer, attachEntry, incrActive, nlSendAddRouteMsg]

theorem rtTbl_rtTableInsert (fresh : entryAt state offer.dest = none) :
    (rtTableInsert config offer state).1.rtTbl = (insertRoute config offer state).rtTbl ∧
      (rtTableInsert config offer state).1.kernel = (insertRoute config offer state).kernel := by
  rw [rtTableInsert_of_none config offer fresh]
  dsimp only
  split
  · exact rtTbl_releaseBuffered ..
  · exact ⟨rfl, rfl⟩

theorem entryAt_rtTableInsert (fresh : entryAt state offer.dest = none) (dest : Addr) :
    entryAt (rtTableInsert config offer state).1 dest =
      if offer.dest = dest then some offer.entry else entryAt state dest := by
  obtain ⟨timers, result⟩ := insertRoute_eq config offer state
  rw [entryAt, (rtTbl_rtTableInsert config offer fresh).1, result]
  exact entryAt_attachEntry offer.entry dest state

theorem sound_offer_entry : offer.entry.Sound := ⟨rfl, rfl, List.nodup_nil⟩

theorem RoutingTable.Sound.rtTableInsert (sound : state.rtTbl.Sound) (config : Config)
    (offer : Offer) : (Aodvd.rtTableInsert config offer state).1.rtTbl.Sound := by
  cases found : entryAt state offer.dest with
  | some rt =>
    rw [rtTableInsert_of_some config offer found]
    exact sound
  | none =>
    obtain ⟨timers, result⟩ := insertRoute_eq config offer state
    rw [(rtTbl_rtTableInsert config offer found).1, result]
    exact (sound.attachEntry found (sound_offer_entry offer)).of_tbl rfl rfl

/-! ### Update -/

theorem RoutingTable.Sound.updateKernel (sound : state.rtTbl.Sound) (rt : RtEntry) (offer : Offer) :
    (Aodvd.updateKernel rt offer state).rtTbl.Sound := by
  unfold Aodvd.updateKernel
  split
  · exact sound.of_tbl rfl rfl
  · split <;> exact sound

theorem RoutingTable.Sound.updateLinkBreak (sound : state.rtTbl.Sound) (config : Config)
    (rt : RtEntry) (offer : Offer) : (Aodvd.updateLinkBreak config rt offer state).rtTbl.Sound := by
  unfold Aodvd.updateLinkBreak
  split
  · refine (neighborLinkBreak_acts config rt.destAddr _).sound ?_
    exact sound.setEntry cosmetic_forgetHellos.toGentle rt.destAddr
  · exact sound

/-- The entry as `rt_table_update` leaves it, from what it was after a possible link break. -/
def RtEntry.renewed (rt : RtEntry) (offer : Offer) (base : RtEntry) : RtEntry :=
  (base.adopt (updateFlags rt offer) offer).setState offer.state

theorem gentle_renewed (rt : RtEntry) (offer : Offer) : Gentle (RtEntry.renewed rt offer) :=
  .of_same (fun _ => rfl) (fun _ => rfl) (fun _ => rfl) (fun _ => rfl)

/-- The table after an update: one write on what the kernel message and the link break left. -/
theorem rtTbl_updateRoute (rt : RtEntry) (offer : Offer) (state : State) :
    (updateRoute config rt offer state).rtTbl =
      (setEntry rt.destAddr (RtEntry.renewed rt offer)
        (updateLinkBreak config rt offer (updateKernel rt offer state))).rtTbl := by
  have timed : ∀ current : State, (if (updateFlags rt offer).inetDest = true then current
      else rtTableUpdateTimeout rt.destAddr offer.life current).rtTbl = current.rtTbl := by
    intro current
    split
    · rfl
    · exact (rtTableUpdateTimeout_acts ..).rtTbl
  unfold updateRoute
  dsimp only [setEntry]
  rw [timed]
  exact congrArg (RoutingTable.mk _ _) (ChainedTable.modify_modify rt.destAddr
    (gentle_adopt (updateFlags rt offer) offer).dest (RtEntry.setState offer.state))

theorem RoutingTable.Sound.updateRoute (sound : state.rtTbl.Sound) (config : Config)
    (rt : RtEntry) (offer : Offer) : (Aodvd.updateRoute config rt offer state).rtTbl.Sound := by
  rw [rtTbl_updateRoute]
  exact ((sound.updateKernel rt offer).updateLinkBreak config rt offer).setEntry
    (gentle_renewed rt offer) rt.destAddr

theorem rtTbl_rtTableUpdate (found : entryAt state offer.dest = some rt) :
    (rtTableUpdate config offer state).rtTbl = (updateRoute config rt offer state).rtTbl := by
  unfold rtTableUpdate
  rw [found]
  dsimp only
  split
  · exact (rtTbl_releaseBuffered ..).1
  · rfl

theorem RoutingTable.Sound.rtTableUpdate (sound : state.rtTbl.Sound) (config : Config)
    (offer : Offer) : (Aodvd.rtTableUpdate config offer state).rtTbl.Sound := by
  cases found : entryAt state offer.dest with
  | none =>
    unfold Aodvd.rtTableUpdate
    rw [found]
    exact sound
  | some rt =>
    rw [rtTbl_rtTableUpdate config offer found]
    exact sound.updateRoute config rt offer

/-! ### Deletion -/

theorem rtTableDelete_of_some {dest : Addr} (found : entryAt state dest = some rt) :
    ∃ timers, rtTableDelete dest state =
      { state with
        rtTbl := ⟨uintSub state.rtTbl.numEntries 1,
          if rt.state = .valid then uintSub state.rtTbl.numActive 1 else state.rtTbl.numActive,
          ChainedTable.remove rtScheme state.rtTbl.tbl dest⟩
        kernel := if rt.state = .valid then state.kernel.delRoute dest rt.hcnt rt.nextHop
          else state.kernel
        timers := timers } := by
  refine ⟨(rtTableDelete dest state).timers, ?_⟩
  unfold rtTableDelete
  simp only [found, entryAt_destAddr found]
  cases rt.state <;> simp only [reduceCtorEq, if_false, if_true] <;>
    simp only [removeEntryTimers, removeTimer, detachEntry, decrActive, nlSendDelRouteMsg]

theorem entryAt_rtTableDelete (state : State) :
    entryAt (rtTableDelete dest state) other =
      if other = dest then none else entryAt state other := by
  cases found : entryAt state dest with
  | none =>
    unfold rtTableDelete
    rw [found]
    dsimp only
    split
    · rename_i same
      rw [same, found]
    · rfl
  | some rt =>
    obtain ⟨timers, result⟩ := rtTableDelete_of_some found
    rw [result]
    exact entryAt_detachEntry dest other state

theorem RoutingTable.Sound.rtTableDelete (sound : state.rtTbl.Sound) (dest : Addr) :
    (Aodvd.rtTableDelete dest state).rtTbl.Sound := by
  cases found : entryAt state dest with
  | none =>
    unfold Aodvd.rtTableDelete
    rw [found]
    exact sound
  | some rt =>
    obtain ⟨timers, result⟩ := rtTableDelete_of_some found
    rw [result]
    exact (sound.detachEntry found).of_tbl rfl rfl

/-! ### Sequences of operations -/

/-- The calls that `routing_table.c` offers on the table. A pointer argument is the
destination of the entry it points to. -/
inductive TableOp
  | init
  | insert (offer : Offer)
  | update (offer : Offer)
  | invalidate (dest : Addr)
  | delete (dest : Addr)
  | precursorAdd (dest addr : Addr)
  | precursorRemove (dest addr : Addr)
  | precursorListDestroy (dest : Addr)

def TableOp.apply (config : Config) (state : State) : TableOp → State
  | .init => rtTableInit state
  | .insert offer => (rtTableInsert config offer state).1
  | .update offer => rtTableUpdate config offer state
  | .invalidate dest => rtTableInvalidate config dest state
  | .delete dest => rtTableDelete dest state
  | .precursorAdd dest addr => Aodvd.precursorAdd dest addr state
  | .precursorRemove dest addr => Aodvd.precursorRemove dest addr state
  | .precursorListDestroy dest => Aodvd.precursorListDestroy dest state

def runOps (config : Config) (ops : List TableOp) (state : State) : State :=
  ops.foldl (TableOp.apply config) state

theorem RoutingTable.Sound.apply (sound : state.rtTbl.Sound) (config : Config) (op : TableOp) :
    (op.apply config state).rtTbl.Sound := by
  cases op with
  | init => exact sound_rtTableInit state
  | insert offer => exact sound.rtTableInsert config offer
  | update offer => exact sound.rtTableUpdate config offer
  | invalidate dest => exact sound.rtTableInvalidate config dest
  | delete dest => exact sound.rtTableDelete dest
  | precursorAdd dest addr => exact sound.setEntry (gentle_precursorAdd addr) dest
  | precursorRemove dest addr => exact sound.setEntry (gentle_precursorRemove addr) dest
  | precursorListDestroy dest => exact sound.setEntry gentle_precursorListDestroy dest

theorem sound_runOps (ops : List TableOp) (state : State) :
    (runOps config ops (rtTableInit state)).rtTbl.Sound := by
  refine List.foldlRecOn ops _ (motive := fun table : State => table.rtTbl.Sound)
    (sound_rtTableInit state) ?_
  intro table sound op _
  exact sound.apply config op

/-- The routing table as a finite map: where its entries lie, what its counters count, and
what looking up, inserting and deleting do. -/
structure IsFiniteMap (config : Config) (state : State) : Prop where
  bucket : ∀ index, ∀ rt ∈ state.rtTbl.tbl index,
    index.val = (rt.destAddr &&& rtTableMask).toNat ∧ rt.hash = rt.destAddr
  distinct : ((rtEntries state).map RtEntry.destAddr).Nodup
  numEntries : state.rtTbl.numEntries = (rtEntries state).length
  nprec : ∀ rt ∈ rtEntries state, rt.nprec = rt.precursors.length ∧ rt.precursors.Nodup
  find_some : ∀ dest rt, rtTableFind state dest = some rt ↔ rt ∈ rtEntries state ∧ rt.destAddr = dest
  find_none : ∀ dest, rtTableFind state dest = none ↔ ∀ rt ∈ rtEntries state, rt.destAddr ≠ dest
  insert_existing : ∀ offer, (∃ rt ∈ rtEntries state, rt.destAddr = offer.dest) →
    rtTableInsert config offer state = (state, none)
  insert_new : ∀ offer, (∀ rt ∈ rtEntries state, rt.destAddr ≠ offer.dest) →
    rtTableFind (rtTableInsert config offer state).1 offer.dest = some offer.entry
  insert_other : ∀ offer dest, dest ≠ offer.dest →
    rtTableFind (rtTableInsert config offer state).1 dest = rtTableFind state dest
  delete_self : ∀ dest, rtTableFind (rtTableDelete dest state) dest = none
  delete_other : ∀ dest other, other ≠ dest →
    rtTableFind (rtTableDelete dest state) other = rtTableFind state other

/-- After every sequence of calls the table is a finite map. A call on an entry that is no
longer there changes nothing in the model, so the sequences of calls on live entries are
among these. -/
theorem runOps_isFiniteMap (config : Config) (ops : List TableOp) (state : State) :
    IsFiniteMap config (runOps config ops (rtTableInit state)) := by
  have sound := sound_runOps config ops state
  refine
    { bucket := fun index rt member => ?_
      distinct := sound.wellFormed.nodup_keys
      numEntries := sound.counted
      nprec := fun rt member => ⟨(sound.entry rt member).counted, (sound.entry rt member).distinct⟩
      find_some := fun dest rt => ?_
      find_none := fun dest => ?_
      insert_existing := ?_
      insert_new := fun offer fresh => ?_
      insert_other := fun offer dest different => ?_
      delete_self := fun dest => ?_
      delete_other := fun dest other different => ?_ }
  · have entrySound := sound.entry rt (ChainedTable.mem_entries.mpr ⟨index, member⟩)
    exact ⟨(congrArg Fin.val (sound.wellFormed.placed index rt member)).symm, entrySound.hashed⟩
  · rw [rtTableFind_eq_entryAt sound]
    exact sound.entryAt_eq_some_iff
  · rw [rtTableFind_eq_entryAt sound]
    exact sound.entryAt_eq_none_iff
  · rintro offer ⟨rt, member, same⟩
    exact rtTableInsert_of_some config offer (sound.entryAt_eq_some_iff.mpr ⟨member, same⟩)
  · rw [rtTableFind_eq_entryAt (sound.rtTableInsert config offer),
      entryAt_rtTableInsert config offer (sound.entryAt_eq_none_iff.mpr fresh), if_pos rfl]
  · rw [rtTableFind_eq_entryAt sound, rtTableFind_eq_entryAt (sound.rtTableInsert config offer)]
    cases found : entryAt (runOps config ops (rtTableInit state)) offer.dest with
    | some rt => rw [rtTableInsert_of_some config offer found]
    | none => rw [entryAt_rtTableInsert config offer found, if_neg different.symm]
  · rw [rtTableFind_eq_entryAt (sound.rtTableDelete dest), entryAt_rtTableDelete, if_pos rfl]
  · rw [rtTableFind_eq_entryAt sound, rtTableFind_eq_entryAt (sound.rtTableDelete dest),
      entryAt_rtTableDelete, if_neg different]

end Aodvd
