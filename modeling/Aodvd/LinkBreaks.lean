/-
This file says exactly what `neighbor_link_break` does.

It takes the routes over the lost neighbour away and no others, and the RERR it sends lists those
of them that somebody uses and that are not to be repaired.
-/

import Mathlib
import Aodvd.Datagrams
import Aodvd.Reachable

namespace Aodvd

/-! ### Routes over a neighbour -/

/-- The valid route leads over the neighbour that the entry `rt` is about. -/
def RtEntry.DependsOn (rt entry : RtEntry) : Prop :=
  entry.state = .valid ∧ entry.nextHop = rt.destAddr ∧ entry.destAddr ≠ rt.destAddr

/-- A route is repaired together with the link, if it is short enough. -/
def RtEntry.RepairedWith (rt entry : RtEntry) : Prop :=
  rt.flags.repair = true ∧ entry.hcnt ≤ maxRepairTtl

/-- The loss of the link is reported for the entry: it has precursors and is not to be repaired. -/
def RtEntry.ReportedWith (rt entry : RtEntry) : Prop :=
  entry.precursors ≠ [] ∧
    (entry.destAddr = rt.destAddr ∧ entry.flags.repair = false ∨
      rt.DependsOn entry ∧ ¬ rt.RepairedWith entry)

instance (rt entry : RtEntry) : Decidable (rt.DependsOn entry) :=
  inferInstanceAs (Decidable (_ ∧ _ ∧ _))

instance (rt entry : RtEntry) : Decidable (rt.RepairedWith entry) :=
  inferInstanceAs (Decidable (_ ∧ _))

instance (rt entry : RtEntry) : Decidable (rt.ReportedWith entry) :=
  inferInstanceAs (Decidable (_ ∧ (_ ∨ _)))

theorem RtEntry.Sound.nprec_ne_zero_iff {rt : RtEntry} (sound : rt.Sound) :
    rt.nprec ≠ 0 ↔ rt.precursors ≠ [] := by
  rw [sound.counted, ne_eq, Int.natCast_eq_zero, List.length_eq_zero_iff]

theorem RtEntry.Sound.reportedWith_iff {rt entry : RtEntry} (sound : entry.Sound) :
    rt.ReportedWith entry ↔
      (decide (entry.nprec ≠ 0) && entry.lostBy rt.destAddr rt.flags.repair) = true := by
  unfold ReportedWith DependsOn RepairedWith lostBy
  rw [Bool.and_eq_true, decide_eq_true_eq, sound.nprec_ne_zero_iff]
  refine and_congr_right fun _ => ?_
  by_cases same : entry.destAddr = rt.destAddr
  · simp [same]
  · cases repair : rt.flags.repair <;> simp [same]

/-- The entries of the table, with the lost link first. -/
theorem perm_linkBreak {state : State} {rt : RtEntry} (sound : state.rtTbl.Sound)
    (found : entryAt state rt.destAddr = some rt) :
    (rt :: (rtEntries state).filter fun entry => decide (entry.destAddr ≠ rt.destAddr)).Perm
      (rtEntries state) := by
  have nodup : (rtEntries state).Nodup := sound.wellFormed.nodup_keys.of_map _
  refine (List.perm_ext_iff_of_nodup (List.nodup_cons.mpr ⟨?_, nodup.filter _⟩) nodup).mpr ?_
  · intro member
    exact absurd rfl (of_decide_eq_true (List.mem_filter.mp member).2)
  · intro entry
    rw [List.mem_cons, List.mem_filter, decide_eq_true_eq]
    constructor
    · rintro (rfl | ⟨member, _⟩)
      · exact (sound.entryAt_eq_some_iff.mp found).1
      · exact member
    · intro member
      by_cases same : entry.destAddr = rt.destAddr
      · refine .inl (Option.some.inj (Eq.trans ?_ found))
        rw [← same]
        exact (sound.entryAt_of_mem member).symm
      · exact .inr ⟨member, same⟩

section

variable {config : Config} {state : State} {rt : RtEntry}

/-- The entries that a link break lists, as the table has them. -/
theorem mem_linkBreakListed_iff (sound : state.rtTbl.Sound)
    (found : entryAt state rt.destAddr = some rt) {listed : RtEntry} :
    listed ∈ linkBreakListed rt state ↔
      ∃ entry, entryAt state entry.destAddr = some entry ∧ rt.ReportedWith entry ∧
        listed = entry.retired := by
  unfold linkBreakListed reported
  rw [List.mem_map]
  constructor
  · rintro ⟨entry, member, rfl⟩
    obtain ⟨visited, lost⟩ := List.mem_filter.mp member
    have inTable := (perm_linkBreak sound found).mem_iff.mp visited
    exact ⟨entry, sound.entryAt_of_mem inTable,
      (sound.entry entry inTable).reportedWith_iff.mpr lost, rfl⟩
  · rintro ⟨entry, there, reported, rfl⟩
    have inTable := (sound.entryAt_eq_some_iff.mp there).1
    exact ⟨entry, List.mem_filter.mpr ⟨(perm_linkBreak sound found).mem_iff.mpr inTable,
      (sound.entry entry inTable).reportedWith_iff.mp reported⟩, rfl⟩

theorem length_linkBreakListed (sound : state.rtTbl.Sound)
    (found : entryAt state rt.destAddr = some rt) :
    (linkBreakListed rt state).length =
      (rtEntries state).countP fun entry => decide (rt.ReportedWith entry) := by
  unfold linkBreakListed reported
  rw [List.length_map, ← List.countP_eq_length_filter, (perm_linkBreak sound found).countP_eq]
  refine List.countP_congr fun entry member => ?_
  rw [decide_eq_true_eq, (sound.entry entry member).reportedWith_iff]

theorem nodup_linkBreakListed (sound : state.rtTbl.Sound)
    (found : entryAt state rt.destAddr = some rt) :
    ((linkBreakListed rt state).map RtEntry.destAddr).Nodup := by
  have keys := (perm_linkBreak sound found).map RtEntry.destAddr
  unfold linkBreakListed reported
  rw [List.map_map]
  have same : RtEntry.destAddr ∘ RtEntry.retired = RtEntry.destAddr :=
    funext fun entry => gentle_retired.dest entry
  rw [same]
  exact (keys.nodup_iff.mpr sound.wellFormed.nodup_keys).sublist
    (List.filter_sublist.map RtEntry.destAddr)

end

/-! ### The RERR -/

/-- Up to 255 entries, the RERR lists each of them in its place. -/
theorem rerrOf_of_length_le (noDelete : Bool) {listed : List RtEntry} (few : listed.length ≤ 255) :
    rerrOf noDelete listed =
      .rerr ⟨noDelete, listed.length, listed.map fun rt => (rt.destAddr, rt.destSeqno)⟩ := by
  induction listed using List.reverseRecOn with
  | nil => rfl
  | append_singleton listed rt inductionHypothesis =>
    rw [List.length_append, List.length_singleton] at few
    by_cases none : listed = []
    · rw [none]
      rfl
    · rw [rerrOf_append noDelete none, inductionHypothesis (by omega), AodvMsg.addUdest,
        if_neg (by rw [List.length_map]; exact Nat.lt_irrefl _),
        Nat.mod_eq_of_lt (show listed.length + 1 < 256 by omega), List.length_append,
        List.length_singleton, List.map_append, List.map_singleton]

/-- The datagram is the RERR about the listed entries. It goes to a single node only if there is
one of them, and the loop has found a precursor to send it to. -/
structure Carries (noDelete : Bool) (listed : List RtEntry) (draft : RerrDraft)
    (datagram : Datagram) : Prop where
  message : datagram.msg = rerrOf noDelete listed
  whole : datagram.len = rerrCalcSize listed.length
  alone : datagram.dst ≠ aodvBroadcast → listed.length = 1 ∧ draft.unicastDest ≠ 0#32

/-- A RERR that lists something is handed to `aodv_socket_send`, for the one precursor of the one
destination or on every interface. -/
theorem Drafts.sends {noDelete : Bool} {before : State} {listed : List RtEntry}
    {loop : State × RerrDraft} (drafts : Drafts noDelete before listed loop)
    (some : listed ≠ []) (few : listed.length ≤ 255) (config : Config) :
    (listed.length = 1 ∧ loop.2.unicastDest ≠ 0#32 ∧ ∃ dev,
      rerrSend config loop.2 loop.1 = aodvSocketSend config loop.2.unicastDest
        (rerrCalcSize listed.length) 1 dev loop.1) ∨
      rerrSend config loop.2 loop.1 = sendOnAll config (rerrCalcSize listed.length) 1 loop.1 := by
  have created : loop.2.created = true := by rw [drafts.created]; simp [some]
  have holds : loop.1.sendBuf = rerrOf noDelete listed := by rw [drafts.buffer, if_neg some]
  have filled : 0 < listed.length := List.length_pos_iff.mpr some
  rw [rerrSend, created, holds.trans (rerrOf_of_length_le noDelete few)]
  simp only [if_pos filled]
  split
  · split
    · rename_i single
      exact .inl ⟨single.1, single.2, _, rfl⟩
    · exact .inr rfl
  · exact .inr rfl

theorem Drafts.emits {noDelete : Bool} {before : State} {listed : List RtEntry}
    {loop : State × RerrDraft} (drafts : Drafts noDelete before listed loop)
    (few : listed.length ≤ 255) (config : Config) :
    Emits (Carries noDelete listed loop.2) before (rerrSend config loop.2 loop.1) := by
  refine .trans (.of_out drafts.out) ?_
  by_cases none : listed = []
  · have uncreated : loop.2.created = false := by rw [drafts.created, none]; rfl
    rw [rerrSend, uncreated]
    exact .refl _ _
  have holds : loop.1.sendBuf = rerrOf noDelete listed := by rw [drafts.buffer, if_neg none]
  obtain ⟨one, named, dev, sends⟩ | sends := drafts.sends none few config
  · rw [sends]
    exact emits_aodvSocketSend config fun _ _ => ⟨holds, rfl, fun _ => ⟨one, named⟩⟩
  · rw [sends]
    exact emits_sendOnAll fun _ _ => ⟨holds, rfl, fun alone => absurd rfl alone⟩

/-- The precursor that a RERR about one entry is sent to is the only one. -/
theorem Drafts.single {noDelete : Bool} {before : State} {rt : RtEntry} {loop : State × RerrDraft}
    (drafts : Drafts noDelete before [rt] loop) (sound : rt.Sound) (some : rt.precursors ≠ [])
    (named : loop.2.unicastDest ≠ 0#32) : rt.precursors.length = 1 := by
  have same := drafts.unicast named rt List.mem_cons_self
  have distinct := sound.distinct
  cases precursors : rt.precursors with
  | nil => exact absurd precursors some
  | cons first rest =>
    rw [precursors] at same distinct
    cases rest with
    | nil => rfl
    | cons second rest =>
      have first_eq := same first List.mem_cons_self
      have second_eq := same second (List.mem_cons_of_mem _ List.mem_cons_self)
      refine absurd (first_eq.trans second_eq.symm) fun equal => ?_
      exact (List.nodup_cons.mp distinct).1 (equal ▸ List.mem_cons_self)

/-! ### Timers of the other routes -/

/-- The timers in the entry of a destination. -/
def routeTimers (dest : Addr) : List TimerId := [.rtTimer dest, .helloTimer dest, .ackTimer dest]

theorem routeTimers_disjoint {dest other : Addr} (different : other ≠ dest) {id : TimerId}
    (own : id ∈ routeTimers other) :
    id ≠ .rtTimer dest ∧ id ≠ .helloTimer dest ∧ id ≠ .ackTimer dest := by
  simp only [routeTimers, List.mem_cons, List.not_mem_nil, or_false] at own
  rcases own with rfl | rfl | rfl <;> simp [different]

theorem timer_removeEntryTimers {dest other : Addr} (different : other ≠ dest) {id : TimerId}
    (own : id ∈ routeTimers other) (state : State) :
    (removeEntryTimers dest state).timers.timer id = state.timers.timer id := by
  obtain ⟨notRoute, notHello, notAck⟩ := routeTimers_disjoint different own
  unfold removeEntryTimers removeTimer
  rw [timer_timerRemove, if_neg notAck, timer_timerRemove, if_neg notHello, timer_timerRemove,
    if_neg notRoute]

theorem timer_rearm {dest other : Addr} (different : other ≠ dest) {id : TimerId}
    (own : id ∈ routeTimers other) (handler : Handler) (msec : Int) (state : State) :
    (setTimeout (.rtTimer dest) msec (setHandler (.rtTimer dest) handler state)).timers.timer id =
      state.timers.timer id := by
  obtain ⟨notRoute, _, _⟩ := routeTimers_disjoint different own
  unfold setTimeout setHandler
  rw [timer_timerSetTimeout, if_neg notRoute, timer_timerSetHandler, if_neg notRoute]

theorem timer_rtTableInvalidate (config : Config) {dest other : Addr} (different : other ≠ dest)
    {id : TimerId} (own : id ∈ routeTimers other) (state : State) :
    (rtTableInvalidate config dest state).timers.timer id = state.timers.timer id := by
  unfold rtTableInvalidate
  split
  · rfl
  · split
    · rfl
    · dsimp only
      split
      · exact (timer_rearm different own ..).trans (timer_removeEntryTimers different own state)
      · exact (timer_rearm different own ..).trans (timer_removeEntryTimers different own state)

section

variable {config : Config} {broken other : Addr} {id : TimerId}

theorem timer_linkBreakSelf (different : other ≠ broken) (own : id ∈ routeTimers other)
    (state : State) :
    (linkBreakSelf config broken state).1.timers.timer id = state.timers.timer id := by
  have invalidated := timer_rtTableInvalidate config different own state
  unfold linkBreakSelf
  dsimp only
  split
  · exact invalidated
  · split
    · exact invalidated
    · refine Eq.trans ?_ invalidated
      show (ite _ _ _ : State × RerrDraft).1.timers.timer id = _
      split
      · rfl
      · rw [(aside_rerrInclude ..).timers]

theorem timer_linkBreakVisit {visited : Addr} (different : other ≠ visited)
    (own : id ∈ routeTimers other) (loop : State × RerrDraft) :
    (linkBreakVisit config broken visited loop).1.timers.timer id = loop.1.timers.timer id := by
  unfold linkBreakVisit
  split
  · split
    · split
      · exact timer_rtTableInvalidate config different own _
      · refine Eq.trans ?_ (timer_rtTableInvalidate config different own loop.1)
        dsimp only
        split
        · split
          · rfl
          · exact congrArg (fun timers => timers.timer id) (aside_rerrInclude ..).timers
        · rfl
    · rfl
  · rfl

/-- The loop leaves the timers of a route alone that does not lead over the lost link. -/
theorem timer_linkBreakLoop (different : other ≠ broken) (own : id ∈ routeTimers other)
    (visits : List Addr) (loop : State × RerrDraft) {rt : RtEntry}
    (found : entryAt loop.1 broken = some rt)
    (free : ∀ entry, entryAt loop.1 other = some entry →
      ¬ (entry.state = .valid ∧ entry.nextHop = broken)) :
    (visits.foldl (fun loop visited => linkBreakVisit config broken visited loop)
      loop).1.timers.timer id = loop.1.timers.timer id := by
  induction visits generalizing loop with
  | nil => rfl
  | cons visited rest inductionHypothesis =>
    have visit := view_linkBreakVisit config visited found
    have stillFound := entryAt_linkBreakVisit_broken config visited found
    have stillThere : entryAt (linkBreakVisit config broken visited loop).1 other =
        entryAt loop.1 other := by
      refine (congrArg RouteView.entry (visit other)).trans ?_
      split
      · rename_i here
        obtain ⟨rfl, _⟩ := here
        rw [RouteView.cut_of_not_uses different free]
        rfl
      · rfl
    rw [List.foldl_cons, inductionHypothesis _ stillFound (stillThere ▸ free)]
    by_cases same : other = visited
    · subst same
      have skipped : linkBreakVisit config broken other loop = loop := by
        unfold linkBreakVisit
        rw [found]
        split
        · rename_i first second
          obtain rfl := Option.some.inj first
          refine if_neg fun uses => free _ second ⟨uses.1, ?_⟩
          rw [uses.2.1, entryAt_destAddr found]
        · rfl
      rw [skipped]
    · exact timer_linkBreakVisit same own loop

end

/-! ### What a link break does -/

/-- The RERR of a link break between two states. -/
structure BreakReport (rt : RtEntry) (before after : State) (datagram : Datagram) (rerr : Rerr) :
    Prop where
  message : datagram.msg = .rerr rerr
  counted : rerr.destCount = rerr.udest.length
  whole : datagram.len = rerrCalcSize rerr.destCount
  once : (rerr.udest.map Prod.fst).Nodup
  listed : ∀ dest, dest ∈ rerr.udest.map Prod.fst ↔
    ∃ entry, entryAt before dest = some entry ∧ rt.ReportedWith entry
  current : ∀ pair ∈ rerr.udest, ∃ entry, entryAt after pair.1 = some entry ∧
    entry.destSeqno = pair.2
  unicast : datagram.dst ≠ aodvBroadcast → ∃ dest entry, rerr.udest.map Prod.fst = [dest] ∧
    entryAt before dest = some entry ∧ entry.precursors.length = 1

/-- A RERR that lists exactly what is to be reported is handed to `aodv_socket_send`, for one node
or once for each interface. -/
def ReportHanded (config : Config) (rt : RtEntry) (before after : State) : Prop :=
  ∃ drafted rerr, drafted.out = before.out ∧ drafted.sendBuf = .rerr rerr ∧
    (∀ dest, dest ∈ rerr.udest.map Prod.fst ↔
      ∃ entry, entryAt before dest = some entry ∧ rt.ReportedWith entry) ∧
    ((∃ dst dev, after = aodvSocketSend config dst (rerrCalcSize rerr.destCount) 1 dev drafted) ∨
      after = sendOnAll config (rerrCalcSize rerr.destCount) 1 drafted)

/-- The effect of a link break on the table and on what is sent. -/
structure LinkBroken (config : Config) (rt : RtEntry) (before after : State) : Prop where
  self : ∃ entry, entryAt after rt.destAddr = some entry ∧ entry.state = .invalid
  dependents : ∀ dest entry, entryAt before dest = some entry → rt.DependsOn entry →
    ∃ lost, entryAt after dest = some lost ∧ lost.state = .invalid ∧
      lost.destSeqno = seqnoIncr entry.destSeqno ∧
      if rt.RepairedWith entry then
        lost.flags.repair = true ∧ lost.precursors = entry.precursors
      else lost.precursors = []
  others : ∀ dest, dest ≠ rt.destAddr →
    (∀ entry, entryAt before dest = some entry → ¬ rt.DependsOn entry) →
    entryAt after dest = entryAt before dest ∧
      ∀ id ∈ routeTimers dest, after.timers.timer id = before.timers.timer id
  report : ((rtEntries before).countP fun entry => decide (rt.ReportedWith entry)) ≤ 101 →
    Emits (fun datagram => ∃ rerr, BreakReport rt before after datagram rerr) before after
  handed : ((rtEntries before).countP fun entry => decide (rt.ReportedWith entry)) ≤ 101 →
    (∃ dest entry, entryAt before dest = some entry ∧ rt.ReportedWith entry) →
    ReportHanded config rt before after
  silent : (∀ dest entry, entryAt before dest = some entry → ¬ rt.ReportedWith entry) →
    after.out = before.out

section

variable {config : Config} {state : State} {rt : RtEntry}

theorem timer_neighborLinkBreak (found : entryAt state rt.destAddr = some rt) {other : Addr}
    (different : other ≠ rt.destAddr)
    (free : ∀ entry, entryAt state other = some entry → ¬ rt.DependsOn entry) {id : TimerId}
    (own : id ∈ routeTimers other) :
    (neighborLinkBreak config rt.destAddr state).timers.timer id = state.timers.timer id := by
  unfold neighborLinkBreak
  rw [found]
  dsimp only
  split
  · rw [(aside_rerrSend ..).timers]
    refine (timer_linkBreakLoop different own _ _ (entryAt_linkBreakSelf config found)
      fun entry there uses => ?_).trans (timer_linkBreakSelf different own state)
    rw [entryAt_linkBreakSelf_of_ne config found different] at there
    exact free entry there ⟨uses.1, uses.2, entryAt_destAddr there ▸ different⟩
  · rfl

/-- What a link break lists carries the number that the entry has afterwards. -/
theorem linkBreakListed_current (sound : state.rtTbl.Sound)
    (found : entryAt state rt.destAddr = some rt) (near : rt.hcnt = 1) {listed : RtEntry}
    (member : listed ∈ linkBreakListed rt state) :
    ∃ entry, entryAt (neighborLinkBreak config rt.destAddr state) listed.destAddr = some entry ∧
      entry.destSeqno = listed.destSeqno := by
  obtain ⟨entry, there, reported, rfl⟩ := (mem_linkBreakListed_iff sound found).mp member
  rw [gentle_retired.dest, entryAt_neighborLinkBreak config sound found near, there]
  refine ⟨_, rfl, ?_⟩
  unfold RtEntry.cut
  rcases reported.2 with ⟨same, unmarked⟩ | ⟨depends, unrepaired⟩
  · rw [if_pos same, unmarked]
    rfl
  · have retired : entry.retired = entry.invalidated := if_pos depends.1
    have lost : ¬ (rt.flags.repair = true ∧ entry.hcnt ≤ maxRepairTtl) := unrepaired
    rw [if_neg depends.2.2, if_pos ⟨depends.1, depends.2.1⟩, if_neg lost, retired]
    rfl

theorem mem_linkBreakListed_dest (sound : state.rtTbl.Sound)
    (found : entryAt state rt.destAddr = some rt) (dest : Addr) :
    dest ∈ ((linkBreakListed rt state).map fun rt => (rt.destAddr, rt.destSeqno)).map Prod.fst ↔
      ∃ entry, entryAt state dest = some entry ∧ rt.ReportedWith entry := by
  rw [List.map_map, List.mem_map]
  constructor
  · rintro ⟨listed, member, rfl⟩
    obtain ⟨entry, there, reported, rfl⟩ := (mem_linkBreakListed_iff sound found).mp member
    exact ⟨entry, (congrArg (entryAt state) (gentle_retired.dest entry)).trans there, reported⟩
  · rintro ⟨entry, there, reported⟩
    obtain rfl := entryAt_destAddr there
    exact ⟨entry.retired, (mem_linkBreakListed_iff sound found).mpr ⟨entry, there, reported, rfl⟩,
      gentle_retired.dest entry⟩

theorem breakReport_of_listed (sound : state.rtTbl.Sound)
    (found : entryAt state rt.destAddr = some rt) (near : rt.hcnt = 1)
    (few : (linkBreakListed rt state).length ≤ 255) {loop : State × RerrDraft}
    (drafts : Drafts false state (linkBreakListed rt state) loop) {datagram : Datagram}
    (carries : Carries false (linkBreakListed rt state) loop.2 datagram) :
    BreakReport rt state (neighborLinkBreak config rt.destAddr state) datagram
      ⟨false, (linkBreakListed rt state).length,
        (linkBreakListed rt state).map fun rt => (rt.destAddr, rt.destSeqno)⟩ := by
  have keys : ((linkBreakListed rt state).map fun rt => (rt.destAddr, rt.destSeqno)).map Prod.fst =
      (linkBreakListed rt state).map RtEntry.destAddr := by
    rw [List.map_map]
    rfl
  refine ⟨carries.message.trans (rerrOf_of_length_le false few), (List.length_map ..).symm,
    carries.whole, ?_, mem_linkBreakListed_dest sound found, ?_, ?_⟩
  · rw [keys]
    exact nodup_linkBreakListed sound found
  · intro pair member
    obtain ⟨listed, isListed, rfl⟩ := List.mem_map.mp member
    exact linkBreakListed_current sound found near isListed
  · intro unicast
    obtain ⟨one, named⟩ := carries.alone unicast
    obtain ⟨listed, only⟩ := List.length_eq_one_iff.mp one
    have member : listed ∈ linkBreakListed rt state := only ▸ List.mem_cons_self
    obtain ⟨entry, there, reported, rfl⟩ := (mem_linkBreakListed_iff sound found).mp member
    have entrySound := sound.entry entry (sound.entryAt_eq_some_iff.mp there).1
    rw [only] at drafts
    have single := drafts.single (gentle_retired.sound entry entrySound)
      (entry.retired_precursors ▸ reported.1) named
    refine ⟨entry.destAddr, entry, ?_, there, entry.retired_precursors ▸ single⟩
    rw [keys, only, List.map_singleton, gentle_retired.dest]

/-- A link break takes exactly the routes over the lost link away. -/
theorem linkBroken_neighborLinkBreak (config : Config) (state : State) (sound : state.rtTbl.Sound)
    (rt : RtEntry) (found : entryAt state rt.destAddr = some rt) (near : rt.hcnt = 1) :
    LinkBroken config rt state (neighborLinkBreak config rt.destAddr state) := by
  have entries := entryAt_neighborLinkBreak config sound found near
  obtain ⟨loop, result, drafts⟩ := neighborLinkBreak_drafts config sound found near
  refine ⟨?_, ?_, ?_, ?_, ?_, ?_⟩
  · rw [entries, found]
    refine ⟨_, rfl, ?_⟩
    unfold RtEntry.cut RtEntry.retired
    rw [if_pos rfl]
    cases states : rt.state <;> cases rt.flags.repair <;> simp [RtEntry.invalidated,
      RtEntry.precursorListDestroy, states]
  · intro dest entry there depends
    obtain rfl := entryAt_destAddr there
    rw [entries, there]
    refine ⟨_, rfl, ?_⟩
    unfold RtEntry.cut
    rw [if_neg depends.2.2, if_pos ⟨depends.1, depends.2.1⟩]
    by_cases repaired : rt.flags.repair = true ∧ entry.hcnt ≤ maxRepairTtl
    · rw [if_pos repaired]
      refine ⟨rfl, rfl, ?_⟩
      rw [if_pos (show rt.RepairedWith entry from repaired)]
      exact ⟨rfl, rfl⟩
    · rw [if_neg repaired]
      refine ⟨rfl, rfl, ?_⟩
      rw [if_neg (show ¬ rt.RepairedWith entry from repaired)]
      rfl
  · intro dest different free
    refine ⟨?_, fun id own => timer_neighborLinkBreak found different free own⟩
    rw [entries]
    cases there : entryAt state dest with
    | none => rfl
    | some entry =>
      have unused : ¬ (entry.state = .valid ∧ entry.nextHop = rt.destAddr) := fun uses =>
        free entry there ⟨uses.1, uses.2, entryAt_destAddr there ▸ different⟩
      rw [Option.map_some, RtEntry.cut_eq_self _ different unused]
  · intro few
    rw [← length_linkBreakListed sound found] at few
    have emits := drafts.emits (by omega) config
    rw [← result] at emits
    exact emits.mono fun datagram carries =>
      ⟨_, breakReport_of_listed sound found near (by omega) drafts carries⟩
  · rintro few ⟨dest, entry, there, reported⟩
    obtain rfl := entryAt_destAddr there
    rw [← length_linkBreakListed sound found] at few
    have some : linkBreakListed rt state ≠ [] :=
      List.ne_nil_of_mem ((mem_linkBreakListed_iff sound found).mpr ⟨entry, there, reported, rfl⟩)
    have holds := (drafts.buffer.trans (if_neg some)).trans (rerrOf_of_length_le false (by omega))
    refine ⟨loop.1, _, drafts.out, holds, mem_linkBreakListed_dest sound found, ?_⟩
    obtain ⟨-, -, dev, sends⟩ | sends := drafts.sends some (by omega) config
    · exact .inl ⟨_, dev, result.trans sends⟩
    · exact .inr (result.trans sends)
  · intro none
    have nothing : linkBreakListed rt state = [] := by
      refine List.eq_nil_iff_forall_not_mem.mpr fun listed member => ?_
      obtain ⟨entry, there, reported, _⟩ := (mem_linkBreakListed_iff sound found).mp member
      exact none _ entry there reported
    have uncreated : loop.2.created = false := by rw [drafts.created, nothing]; rfl
    rw [result, rerrSend, uncreated]
    exact drafts.out

end

/-- A neighbour, and a route over it that the node 3 uses on behalf of the node 9. -/
def usedRoute : List Input :=
  [inputAt 16000 (helloFrom 2#32 5#32), inputAt 16100 (rreqFrom 3#32 9#32 5#32 1 50#32),
    inputAt 16200 (.message ⟨.rrep ⟨false, false, 1, 4#32, 7#32, 9#32, 6000, []⟩, rrepSize, 2#32,
      1#32, 5, 1⟩)]

theorem linkBroken_neighborLinkBreak_usedRoute :
    ∃ rt, entryAt (run loneConfig timevalZero 0 usedRoute) 2#32 = some rt ∧ rt.hcnt = 1 ∧
      LinkBroken loneConfig rt (run loneConfig timevalZero 0 usedRoute)
        (neighborLinkBreak loneConfig rt.destAddr (run loneConfig timevalZero 0 usedRoute)) ∧
      ReportHanded loneConfig rt (run loneConfig timevalZero 0 usedRoute)
        (neighborLinkBreak loneConfig rt.destAddr (run loneConfig timevalZero 0 usedRoute)) := by
  have sound := (atRest_run loneConfig timevalZero 0 usedRoute).sound
  have neighbor : (entryAt (run loneConfig timevalZero 0 usedRoute) 2#32).any (fun rt =>
      decide (rt.hcnt = 1 ∧ ((rtEntries (run loneConfig timevalZero 0 usedRoute)).countP
          fun entry => decide (rt.ReportedWith entry)) ≤ 101 ∧
        ∃ entry ∈ rtEntries (run loneConfig timevalZero 0 usedRoute), rt.ReportedWith entry)) =
      true := by decide +kernel
  obtain ⟨rt, found, facts⟩ := (Option.any_eq_true ..).mp neighbor
  obtain ⟨near, few, entry, member, reported⟩ := of_decide_eq_true facts
  have broken := linkBroken_neighborLinkBreak loneConfig _ sound rt
    ((entryAt_destAddr found).symm ▸ found) near
  exact ⟨rt, found, near, broken,
    broken.handed few ⟨entry.destAddr, entry, sound.entryAt_of_mem member, reported⟩⟩

end Aodvd
