/-
This file asks whom a RERR reaches.

A RERR lists destinations, and the precursors of each of them should hear of it: on the
interface of the precursor's own entry a copy should leave, to the precursor or to everyone.
Four functions send RERRs about routes with precursors. `neighbor_link_break` and
`rerr_process` reach every precursor: they send to one precursor only where it is the only
one of all the entries listed, on the interface of its own entry, and otherwise on all
interfaces. `local_repair_timeout` sends to an only precursor on the interface of the broken
route, and `rrep_process` broadcasts on that interface alone; so both reach the precursors
exactly where these are on the interface of the route.
-/

import Aodvd.Datagrams
import Aodvd.NeighborSets

namespace Aodvd

variable {config : Config} {state : State} {rerr : Rerr} {sent : List Datagram} {rt : RtEntry}
  (dest : Addr)

/-! ### Sending without a rate limit -/

/-- A RERR leaves if its interface is enabled. -/
theorem out_send_rerr (unlimited : config.ratelimit = false) (dst : Addr) (len : Nat)
    (dev : Option Dev) (buffer : state.sendBuf = .rerr rerr) :
    (aodvSocketSend config dst len 1 dev state).out =
      state.out ++ dev.toList.map fun dev => ⟨dev.ipaddr, dst, 1, len, state.sendBuf⟩ := by
  have free : heldOnReboot state = false := by rw [heldOnReboot, buffer]
  have passed : ratelimitSend config state = some state := by
    rw [ratelimitSend, unlimited, if_neg Bool.false_ne_true]
  cases dev with
  | none =>
    rw [Option.toList_none, List.map_nil, List.append_nil]
    rfl
  | some dev =>
    rw [aodvSocketSend, free, if_neg (by decide), passed]
    rfl

theorem out_sendOnAll_rerr (unlimited : config.ratelimit = false) (len : Nat)
    (buffer : state.sendBuf = .rerr rerr) :
    (sendOnAll config len 1 state).out =
      state.out ++ config.devs.map fun dev => ⟨dev.ipaddr, aodvBroadcast, 1, len, state.sendBuf⟩ := by
  unfold sendOnAll
  generalize config.devs = devs
  induction devs generalizing state with
  | nil => rw [List.map_nil, List.append_nil, List.foldl_nil]
  | cons dev rest inductionHypothesis =>
    have sent := out_send_rerr unlimited aodvBroadcast len (some dev) buffer
    have kept := sendBuf_aodvSocketSend config aodvBroadcast len 1 (some dev) state
    rw [List.foldl_cons, inductionHypothesis (kept.trans buffer), sent, kept, List.append_assoc]
    rfl

/-! ### Notices -/

/-- The destinations a RERR lists. -/
def Rerr.listed (rerr : Rerr) : List Addr := (rerr.udest.take rerr.destCount).map Prod.fst

/-- A precursor with an entry is told: a copy of the message leaves on the interface of the entry,
to the precursor or to everyone. -/
def Tells (config : Config) (state : State) (sent : List Datagram) (message : AodvMsg)
    (precursor : Addr) : Prop :=
  ∀ rt dev, entryAt state precursor = some rt → devIfindex config rt.ifindex = some dev →
    ∃ copy ∈ sent, copy.msg = message ∧ copy.src = dev.ipaddr ∧
      (copy.dst = precursor ∨ copy.dst = aodvBroadcast)

/-- Every RERR that is sent is told to the precursors of every destination it lists. -/
def Notifies (config : Config) (state : State) (sent : List Datagram) : Prop :=
  ∀ datagram ∈ sent, ∀ rerr, datagram.msg = .rerr rerr → ∀ dest ∈ rerr.listed,
    ∀ rt, entryAt state dest = some rt → ∀ precursor ∈ rt.precursors,
      Tells config state sent datagram.msg precursor

theorem Tells.mono {some more : List Datagram} {message : AodvMsg} {precursor : Addr}
    (tells : Tells config state some message precursor)
    (within : ∀ datagram ∈ some, datagram ∈ more) : Tells config state more message precursor := by
  intro rt dev found enabled
  obtain ⟨copy, member, rest⟩ := tells rt dev found enabled
  exact ⟨copy, within copy member, rest⟩

theorem Notifies.append {first second : List Datagram} (early : Notifies config state first)
    (late : Notifies config state second) : Notifies config state (first ++ second) := by
  intro datagram member rerr isRerr dest listed rt found precursor precedes
  rcases List.mem_append.mp member with member | member
  · exact (early datagram member rerr isRerr dest listed rt found precursor precedes).mono
      fun _ => List.mem_append_left _
  · exact (late datagram member rerr isRerr dest listed rt found precursor precedes).mono
      fun _ => List.mem_append_right _

/-- Without a RERR nobody has to be told. -/
theorem notifies_of_no_rerr (config : Config) (state : State)
    (noRerr : ∀ datagram ∈ sent, ∀ rerr, datagram.msg ≠ .rerr rerr) : Notifies config state sent :=
  fun datagram member rerr isRerr => absurd isRerr (noRerr datagram member rerr)

/-- Two states have the same entries with the same precursors and interfaces. -/
def SamePrecursors (first second : State) : Prop :=
  ∀ dest rt, entryAt first dest = some rt → ∃ other, entryAt second dest = some other ∧
    other.precursors = rt.precursors ∧ other.ifindex = rt.ifindex

theorem Notifies.of_same {first second : State} (notifies : Notifies config second sent)
    (same : SamePrecursors first second) : Notifies config first sent := by
  intro datagram member rerr isRerr dest listed rt found precursor precedes
  obtain ⟨other, otherFound, precursors, _⟩ := same dest rt found
  have tells := notifies datagram member rerr isRerr dest listed other otherFound precursor
    (precursors ▸ precedes)
  intro entry dev entryFound enabled
  obtain ⟨copy, copyFound, _, ifindex⟩ := same precursor entry entryFound
  exact tells copy dev copyFound (ifindex ▸ enabled)

/-! ### RERRs that a loop has assembled -/

/-- The entries a loop has listed had their precursors at its start. -/
def Recalls (before : State) (listed : List RtEntry) : Prop :=
  ∀ rt ∈ listed, ∃ old, entryAt before rt.destAddr = some old ∧ rt.precursors = old.precursors

/-- The entries a loop leaves were there before, on the same interface. -/
def KeepsInterfaces (before after : State) : Prop :=
  ∀ dest rt, entryAt after dest = some rt →
    ∃ old, entryAt before dest = some old ∧ rt.ifindex = old.ifindex

/-- A broadcast on all interfaces tells everyone. -/
theorem notifies_everywhere (config : Config) (state : State) (len : Nat) (message : AodvMsg) :
    Notifies config state
      (config.devs.map fun dev => ⟨dev.ipaddr, aodvBroadcast, 1, len, message⟩) := by
  intro datagram member rerr _ dest _ rt _ precursor _ entry dev _ enabled
  obtain ⟨sender, _, rfl⟩ := List.mem_map.mp member
  exact ⟨_, List.mem_map_of_mem (listed_devIfindex config _ dev enabled), rfl, rfl, .inr rfl⟩

/-- A RERR to the only precursor of the destinations it lists, on the interface of the
precursor's entry. -/
theorem notifies_single {target : Addr} (found : entryAt state target = some rt) (len : Nat)
    {message : AodvMsg}
    (only : ∀ rerr, message = .rerr rerr → ∀ dest ∈ rerr.listed, ∀ rt,
      entryAt state dest = some rt → ∀ precursor ∈ rt.precursors, precursor = target) :
    Notifies config state
      ((devIfindex config rt.ifindex).toList.map fun dev => ⟨dev.ipaddr, target, 1, len, message⟩) := by
  intro datagram member rerr isRerr dest listed entry there precursor precedes known dev
    knownFound enabled
  obtain ⟨sender, _, rfl⟩ := List.mem_map.mp member
  obtain rfl := only rerr isRerr dest listed entry there precursor precedes
  obtain rfl := Option.some.inj (found.symm.trans knownFound)
  exact ⟨_, List.mem_map_of_mem (Option.mem_toList.mpr enabled), rfl, rfl, .inl rfl⟩

/-- The destinations of a RERR about a list of entries are those of the entries. -/
theorem mem_listed_rerrOf {noDelete : Bool} {entries : List RtEntry}
    (message : rerrOf noDelete entries = .rerr rerr) {dest : Addr} (listed : dest ∈ rerr.listed) :
    ∃ rt ∈ entries, rt.destAddr = dest := by
  obtain ⟨udest, shape, named⟩ := rerrOf_eq noDelete entries
  obtain rfl := AodvMsg.rerr.inj (shape.symm.trans message)
  obtain ⟨pair, member, rfl⟩ := List.mem_map.mp listed
  obtain ⟨rt, included, rfl⟩ := named pair (List.mem_of_mem_take member)
  exact ⟨rt, included, rfl⟩

/-- The RERR a loop has assembled is told to the precursors of every entry it lists. -/
theorem notifies_rerrSend (unlimited : config.ratelimit = false) {noDelete : Bool}
    {before : State} {listed : List RtEntry} {loop : State × RerrDraft}
    (drafts : Drafts noDelete before listed loop) (recalls : Recalls before listed)
    (sound : loop.1.rtTbl.Sound) (keeps : KeepsInterfaces before loop.1) :
    ∃ sent, (rerrSend config loop.2 loop.1).out = before.out ++ sent ∧
      Notifies config before sent := by
  have silent : ∃ sent, loop.1.out = before.out ++ sent ∧ Notifies config before sent :=
    ⟨[], by rw [drafts.out, List.append_nil], fun _ member => absurd member List.not_mem_nil⟩
  by_cases none : listed = []
  · have uncreated : loop.2.created = false := by rw [drafts.created, none]; rfl
    rw [rerrSend, uncreated]
    exact silent
  have created : loop.2.created = true := by
    rw [drafts.created]
    simp [none]
  have holds : loop.1.sendBuf = rerrOf noDelete listed := by rw [drafts.buffer, if_neg none]
  obtain ⟨udest, shape, _⟩ := rerrOf_eq noDelete listed
  have buffer := holds.trans shape
  have broadcast (len : Nat) : ∃ sent, (sendOnAll config len 1 loop.1).out = before.out ++ sent ∧
      Notifies config before sent :=
    ⟨_, by rw [out_sendOnAll_rerr unlimited len buffer, drafts.out],
      notifies_everywhere config before len loop.1.sendBuf⟩
  rw [rerrSend, created, buffer]
  dsimp only
  split
  · rename_i rt found
    rw [rtTableFind_eq_entryAt sound] at found
    split
    · rename_i single
      obtain ⟨old, oldFound, ifindex⟩ := keeps _ rt found
      refine ⟨_, by rw [out_send_rerr unlimited _ _ _ buffer, drafts.out], ?_⟩
      rw [ifindex]
      refine notifies_single oldFound _ fun rerr isRerr dest named entry there precursor precedes => ?_
      obtain ⟨entry', member, rfl⟩ := mem_listed_rerrOf (holds.symm.trans isRerr) named
      obtain ⟨recalled, recalledFound, precursors⟩ := recalls entry' member
      obtain rfl := Option.some.inj (recalledFound.symm.trans there)
      exact drafts.unicast single.2 entry' member precursor (precursors ▸ precedes)
    · split
      · exact broadcast _
      · exact silent
  · split
    · exact broadcast _
    · exact silent

/-! ### Link breaks -/

theorem RtEntry.cut_ifindex (neighbor dest : Addr) (repair : Bool) (rt : RtEntry) :
    (rt.cut neighbor repair dest).ifindex = rt.ifindex := by
  rcases rt.cut_cases neighbor repair dest with retired | same
  · exact retired.ifindex
  · exact same.ifindex

/-- What a link break can list are entries of the table. -/
theorem entryAt_of_visited {broken : RtEntry} (sound : state.rtTbl.Sound)
    (found : entryAt state broken.destAddr = some broken)
    (member : rt ∈ broken :: (rtEntries state).filter fun other =>
      decide (other.destAddr ≠ broken.destAddr)) :
    entryAt state rt.destAddr = some rt := by
  rcases List.mem_cons.mp member with rfl | inTable
  · exact found
  · exact sound.entryAt_of_mem (List.mem_filter.mp inTable).1

theorem recalls_linkBreakListed (sound : state.rtTbl.Sound)
    (found : entryAt state rt.destAddr = some rt) : Recalls state (linkBreakListed rt state) := by
  intro listed member
  obtain ⟨old, oldMember, rfl⟩ := List.mem_map.mp member
  refine ⟨old, ?_, old.retired_precursors⟩
  rw [gentle_retired.dest]
  exact entryAt_of_visited sound found (List.mem_filter.mp oldMember).1

/-- A link break tells all precursors of the routes it reports. -/
theorem notifies_neighborLinkBreak (unlimited : config.ratelimit = false) (dest : Addr)
    (sound : state.rtTbl.Sound) :
    ∃ sent, (neighborLinkBreak config dest state).out = state.out ++ sent ∧
      Notifies config state sent := by
  rcases neighborLinkBreak_cases config dest state with far | ⟨rt, found, hcnt⟩
  · rw [far]
    exact ⟨[], (List.append_nil _).symm, fun _ member => absurd member List.not_mem_nil⟩
  · obtain rfl := entryAt_destAddr found
    have entries := entryAt_neighborLinkBreak config sound found hcnt
    have broken := (neighborLinkBreak_acts config rt.destAddr state).sound sound
    obtain ⟨loop, result, drafts⟩ := neighborLinkBreak_drafts config sound found hcnt
    have aside := aside_rerrSend config loop.2 loop.1
    rw [result] at entries broken ⊢
    refine notifies_rerrSend unlimited drafts (recalls_linkBreakListed sound found)
      (aside.rtTbl ▸ broken) fun other new there => ?_
    rw [← aside.entryAt, entries] at there
    obtain ⟨old, oldFound, rfl⟩ := Option.map_eq_some_iff.mp there
    exact ⟨old, oldFound, RtEntry.cut_ifindex ..⟩

/-! ### Received RERRs -/

/-- What the loop of `rerr_process` has done so far. -/
structure Forwards (noDelete : Bool) (before : State) (listed : List RtEntry)
    (loop : State × RerrDraft) : Prop where
  drafts : Drafts noDelete before listed loop
  recalls : Recalls before listed
  sound : loop.1.rtTbl.Sound
  keeps : ∀ dest rt, entryAt loop.1 dest = some rt → ∃ old, entryAt before dest = some old ∧
    rt.ifindex = old.ifindex ∧ (rt.state = .valid → rt.precursors = old.precursors)

theorem forwards_none (noDelete : Bool) (sound : state.rtTbl.Sound) :
    Forwards noDelete state [] (state, .none) :=
  ⟨drafts_none noDelete state, fun _ member => absurd member List.not_mem_nil, sound,
    fun _ rt found => ⟨rt, found, rfl, fun _ => rfl⟩⟩

/-- The entry of a destination after a RERR has hit it. -/
def RtEntry.hitBy (noDelete : Bool) (seqno : Seqno) (rt : RtEntry) : RtEntry :=
  (if noDelete then rt else rt.invalidated).setSeqno seqno

/-- It keeps its precursors and its interface. -/
theorem RtEntry.hitBy_same (noDelete : Bool) (seqno : Seqno) (rt : RtEntry) :
    (rt.hitBy noDelete seqno).destAddr = rt.destAddr ∧
      (rt.hitBy noDelete seqno).ifindex = rt.ifindex ∧
      (rt.hitBy noDelete seqno).precursors = rt.precursors := by
  cases noDelete <;> exact ⟨rfl, rfl, rfl⟩

/-- What one destination of a received RERR adds to the RERR that is assembled. -/
def rerrLists (noDelete : Bool) (ipSrc : Addr) (state : State) (udest : Addr × Seqno) :
    List RtEntry :=
  match entryAt state udest.1 with
  | none => []
  | some rt =>
    if rt.state = .valid ∧ rt.nextHop = ipSrc then
      if (rt.hitBy noDelete udest.2).nprec = 0 ∨ (rt.hitBy noDelete udest.2).flags.repair = true then []
      else [rt.hitBy noDelete udest.2]
    else []

/-- The entries that the loop of `rerr_process` lists. -/
def rerrListed (config : Config) (noDelete : Bool) (ipSrc : Addr) :
    List (Addr × Seqno) → State × RerrDraft → List RtEntry
  | [], _ => []
  | udest :: rest, loop => rerrLists noDelete ipSrc loop.1 udest ++
      rerrListed config noDelete ipSrc rest (rerrVisit config noDelete ipSrc loop udest)

theorem rerrInvalidate_quiet (config : Config) (noDelete : Bool) (dest : Addr) (seqno : Seqno)
    (state : State) :
    (rerrInvalidate config noDelete dest seqno state).out = state.out ∧
      (rerrInvalidate config noDelete dest seqno state).sendBuf = state.sendBuf := by
  cases noDelete
  · exact rtTableInvalidate_quiet config dest state
  · exact ⟨rfl, rfl⟩

section

variable {noDelete : Bool} {before : State} {listed : List RtEntry} {loop : State × RerrDraft}

/-- A valid entry is hit. -/
theorem Forwards.hit (forwards : Forwards noDelete before listed loop) (config : Config)
    (found : entryAt loop.1 rt.destAddr = some rt) (valid : rt.state = .valid) (seqno : Seqno) :
    Forwards noDelete before listed
      (rerrInvalidate config noDelete rt.destAddr seqno loop.1, loop.2) where
  drafts := by
    obtain ⟨out, buffer⟩ := rerrInvalidate_quiet config noDelete rt.destAddr seqno loop.1
    exact forwards.drafts.of_quiet out buffer
  recalls := forwards.recalls
  sound := forwards.sound.rerrInvalidate config noDelete rt.destAddr seqno
  keeps dest new there := by
    rw [entryAt_rerrInvalidate config noDelete seqno found valid] at there
    split at there
    · rename_i here
      obtain rfl := Option.some.inj there
      obtain ⟨old, oldFound, ifindex, precursors⟩ := forwards.keeps _ rt found
      obtain ⟨_, sameIfindex, samePrecursors⟩ := rt.hitBy_same noDelete seqno
      exact ⟨old, here ▸ oldFound, sameIfindex.trans ifindex,
        fun _ => samePrecursors.trans (precursors valid)⟩
    · exact forwards.keeps dest new there

/-- An entry with its first precursors is listed. -/
theorem Forwards.include (forwards : Forwards noDelete before listed loop)
    (found : entryAt loop.1 rt.destAddr = some rt)
    (recalled : ∃ old, entryAt before rt.destAddr = some old ∧ rt.precursors = old.precursors) :
    Forwards noDelete before (listed ++ [rt]) (rerrInclude noDelete rt loop.2 loop.1) := by
  have aside := aside_rerrInclude noDelete rt loop.2 loop.1
  have sound := forwards.sound.entry rt (forwards.sound.entryAt_eq_some_iff.mp found).1
  refine ⟨forwards.drafts.include sound, fun other member => ?_, aside.rtTbl ▸ forwards.sound,
    fun dest new there => forwards.keeps dest new ((aside.entryAt dest).symm.trans there)⟩
  rcases List.mem_append.mp member with early | last
  · exact forwards.recalls other early
  · obtain rfl := List.mem_singleton.mp last
    exact recalled

/-- The precursors of an invalid entry are dropped. -/
theorem Forwards.destroy (forwards : Forwards noDelete before listed loop) {dest : Addr}
    (found : entryAt loop.1 dest = some rt) (invalid : rt.state = .invalid) :
    Forwards noDelete before listed (precursorListDestroy dest loop.1, loop.2) where
  drafts := forwards.drafts.setEntry dest _
  recalls := forwards.recalls
  sound := forwards.sound.setEntry gentle_precursorListDestroy dest
  keeps other new there := by
    rw [precursorListDestroy, entryAt_setEntry gentle_precursorListDestroy.dest] at there
    split at there
    · rename_i here
      rw [found, Option.map_some] at there
      obtain rfl := Option.some.inj there
      obtain ⟨old, oldFound, ifindex, _⟩ := forwards.keeps dest rt found
      exact ⟨old, here ▸ oldFound, ifindex,
        fun valid => RouteState.noConfusion (invalid.symm.trans valid)⟩
    · exact forwards.keeps other new there

/-- An entry that was hit is listed if it has precursors and no repair runs. -/
theorem Forwards.report (forwards : Forwards noDelete before listed loop)
    (found : entryAt loop.1 rt.destAddr = some rt)
    (recalled : ∃ old, entryAt before rt.destAddr = some old ∧ rt.precursors = old.precursors) :
    ∃ included, (if rt.nprec = 0 ∨ rt.flags.repair = true then loop
        else rerrInclude noDelete rt loop.2 loop.1) = included ∧
      Forwards noDelete before
        (listed ++ if rt.nprec = 0 ∨ rt.flags.repair = true then [] else [rt]) included ∧
      entryAt included.1 rt.destAddr = some rt := by
  split
  · exact ⟨loop, rfl, by rwa [List.append_nil], found⟩
  · exact ⟨_, rfl, forwards.include found recalled,
      ((aside_rerrInclude noDelete rt loop.2 loop.1).entryAt _).trans found⟩

/-- One destination of a received RERR. -/
theorem Forwards.visit (forwards : Forwards noDelete before listed loop) (config : Config)
    (ipSrc : Addr) (udest : Addr × Seqno) :
    Forwards noDelete before (listed ++ rerrLists noDelete ipSrc loop.1 udest)
      (rerrVisit config noDelete ipSrc loop udest) := by
  have unchanged : Forwards noDelete before (listed ++ []) loop := by rwa [List.append_nil]
  rw [rerrVisit, rerrLists, rtTableFind_eq_entryAt forwards.sound]
  cases found : entryAt loop.1 udest.1 with
  | none => exact unchanged
  | some rt =>
    dsimp only
    split
    · rename_i hits
      rw [← entryAt_destAddr found] at found
      have hit := forwards.hit config found hits.1 udest.2
      have there : entryAt (rerrInvalidate config noDelete rt.destAddr udest.2 loop.1)
          rt.destAddr = some (rt.hitBy noDelete udest.2) :=
        (entryAt_rerrInvalidate config noDelete udest.2 found hits.1 rt.destAddr).trans (if_pos rfl)
      obtain ⟨sameDest, _, samePrecursors⟩ := rt.hitBy_same noDelete udest.2
      obtain ⟨old, oldFound, _, precursors⟩ := forwards.keeps _ rt found
      generalize rt.hitBy noDelete udest.2 = new at *
      have newFound : entryAt (rerrInvalidate config noDelete rt.destAddr udest.2 loop.1)
          new.destAddr = some new := sameDest ▸ there
      obtain ⟨included, result, reported, stays⟩ := hit.report newFound
        ⟨old, sameDest ▸ oldFound, samePrecursors.trans (precursors hits.1)⟩
      rw [there]
      dsimp only
      rw [result]
      by_cases invalid : new.state = .invalid
      · rw [if_pos invalid]
        exact reported.destroy stays invalid
      · rw [if_neg invalid]
        exact reported
    · exact unchanged

/-- The loop over the destinations of a received RERR. -/
theorem Forwards.visits (config : Config) (ipSrc : Addr) (udests : List (Addr × Seqno))
    (forwards : Forwards noDelete before listed loop) :
    Forwards noDelete before (listed ++ rerrListed config noDelete ipSrc udests loop)
      (udests.foldl (rerrVisit config noDelete ipSrc) loop) := by
  induction udests generalizing listed loop with
  | nil => rwa [rerrListed, List.append_nil]
  | cons udest rest inductionHypothesis =>
    rw [rerrListed, ← List.append_assoc]
    exact inductionHypothesis (forwards.visit config ipSrc udest)

end

/-- A received RERR is told to all precursors of the routes it takes away. -/
theorem notifies_rerrProcess (unlimited : config.ratelimit = false) (rerr : Rerr) (len : Nat)
    (ipSrc : Addr) (sound : state.rtTbl.Sound) :
    ∃ sent, (rerrProcess config rerr len ipSrc state).out = state.out ++ sent ∧
      Notifies config state sent := by
  rw [rerrProcess]
  split
  · exact ⟨[], (List.append_nil _).symm, fun _ member => absurd member List.not_mem_nil⟩
  · have forwards := (forwards_none rerr.noDelete sound).visits config ipSrc
      (rerr.udest.take rerr.destCount)
    exact notifies_rerrSend unlimited forwards.drafts forwards.recalls forwards.sound
      fun dest rt found =>
        (forwards.keeps dest rt found).imp fun _ kept => ⟨kept.1, kept.2.1⟩

/-! ### A RERR on the interface of its route -/

/-- The precursors of a route are on the interface of the route, as far as they have entries. -/
def OneInterface (config : Config) (state : State) (rt : RtEntry) : Prop :=
  ∀ sender, devIfindex config rt.ifindex = some sender → ∀ precursor ∈ rt.precursors,
    ∀ entry dev, entryAt state precursor = some entry → devIfindex config entry.ifindex = some dev →
      dev.ipaddr = sender.ipaddr

/-- A RERR about a route that leaves on the interface of the route only. -/
theorem notifies_along_iff (found : entryAt state rt.destAddr = some rt) (noDelete : Bool)
    (seqno : Seqno) (len : Nat) {dst : Addr}
    (addressed : ∀ precursor ∈ rt.precursors, dst = precursor ∨ dst = aodvBroadcast) :
    Notifies config state ((devIfindex config rt.ifindex).toList.map fun dev =>
        ⟨dev.ipaddr, dst, 1, len, .rerr ⟨noDelete, 1, [(rt.destAddr, seqno)]⟩⟩) ↔
      OneInterface config state rt := by
  cases enabled : devIfindex config rt.ifindex with
  | none =>
    refine iff_of_true (fun _ member => absurd member List.not_mem_nil) fun sender other => ?_
    exact nomatch enabled.symm.trans other
  | some sender =>
    rw [Option.toList_some, List.map_singleton]
    constructor
    · intro notifies other same precursor precedes entry dev entryFound devEnabled
      obtain rfl := Option.some.inj (enabled.symm.trans same)
      obtain ⟨copy, member, _, source, _⟩ := notifies _ (List.mem_singleton.mpr rfl) _ rfl rt.destAddr
        (List.mem_singleton.mpr rfl) rt found precursor precedes entry dev entryFound devEnabled
      rw [List.mem_singleton.mp member] at source
      exact source.symm
    · intro single datagram member rerr isRerr dest listed other otherFound precursor precedes entry
        dev entryFound devEnabled
      obtain rfl := List.mem_singleton.mp member
      obtain rfl := AodvMsg.rerr.inj isRerr
      obtain rfl : dest = rt.destAddr := List.mem_singleton.mp listed
      obtain rfl := Option.some.inj (found.symm.trans otherFound)
      exact ⟨_, List.mem_singleton.mpr rfl, rfl,
        (single sender enabled precursor precedes entry dev entryFound devEnabled).symm,
        addressed precursor precedes⟩

/-! ### Failed repairs -/

theorem out_localRepairTimeout (unlimited : config.ratelimit = false) {dest : Addr}
    (found : entryAt state dest = some rt) :
    (localRepairTimeout config dest state).out = state.out ++
      if rt.nprec = 0 then []
      else if rt.nprec = 1 then (devIfindex config rt.ifindex).toList.map fun dev =>
        ⟨dev.ipaddr, rt.precursors.headD 0#32, 1, rerrCalcSize 1,
          .rerr ⟨false, 1, [(rt.destAddr, rt.destSeqno)]⟩⟩
      else config.devs.map fun dev => ⟨dev.ipaddr, aodvBroadcast, 1, rerrCalcSize 1,
        .rerr ⟨false, 1, [(rt.destAddr, rt.destSeqno)]⟩⟩ := by
  rw [localRepairTimeout, found]
  dsimp only
  show (repairReport config rt _).out = _
  rw [repairReport]
  split
  · exact (List.append_nil _).symm
  · dsimp only
    split
    · rw [out_send_rerr unlimited _ _ _ rfl]
      rfl
    · rw [out_sendOnAll_rerr unlimited _ rfl]
      rfl

/-- A failed repair reaches its precursors exactly if it has not one only, on another interface. -/
theorem notifies_localRepairTimeout (unlimited : config.ratelimit = false) (dest : Addr)
    (sound : state.rtTbl.Sound) :
    ∃ sent, (localRepairTimeout config dest state).out = state.out ++ sent ∧
      (Notifies config state sent ↔
        ∀ rt, entryAt state dest = some rt → rt.nprec = 1 → OneInterface config state rt) := by
  cases found : entryAt state dest with
  | none =>
    refine ⟨[], ?_, iff_of_true (fun _ member => absurd member List.not_mem_nil) fun _ there => ?_⟩
    · rw [localRepairTimeout, found, List.append_nil]
    · exact nomatch there
  | some rt =>
    obtain rfl := entryAt_destAddr found
    refine ⟨_, out_localRepairTimeout unlimited found, ?_⟩
    have only : (∀ other, some rt = some other → other.nprec = 1 → OneInterface config state other) ↔
        (rt.nprec = 1 → OneInterface config state rt) :=
      ⟨fun all => all rt rfl, fun one other same => Option.some.inj same ▸ one⟩
    rw [only]
    by_cases none : rt.nprec = 0
    · rw [if_pos none]
      exact iff_of_true (fun _ member => absurd member List.not_mem_nil) fun one =>
        absurd (none.symm.trans one) (by decide)
    rw [if_neg none]
    by_cases one : rt.nprec = 1
    · rw [if_pos one, forall_prop_of_true one]
      have entrySound := sound.entry rt (sound.entryAt_eq_some_iff.mp found).1
      exact notifies_along_iff found _ _ _ fun precursor precedes =>
        .inl (entrySound.single one precedes).symm
    · rw [if_neg one]
      exact iff_of_true (notifies_everywhere config state _ _) fun single => absurd single one

/-! ### Repaired routes that have become longer -/

/-- Only other messages than RERRs leave. -/
abbrev NoRerr (before after : State) : Prop :=
  Emits (fun datagram => ∀ rerr, datagram.msg ≠ .rerr rerr) before after

/-- What goes along a route is the send buffer. -/
theorem emits_sendAlong (config : Config) (revDest : Addr) (size : Nat) (ttl : Int) (state : State) :
    Emits (fun datagram => datagram.msg = state.sendBuf) state
      (sendAlong config revDest size ttl state) := by
  rw [sendAlong]
  split
  · exact .refl _ _
  · exact emits_aodvSocketSend config fun _ _ => rfl

theorem noRerr_sendAlong (config : Config) (revDest : Addr) (size : Nat) (ttl : Int)
    (buffer : ∀ rerr, state.sendBuf ≠ .rerr rerr) :
    NoRerr state (sendAlong config revDest size ttl state) :=
  (emits_sendAlong config revDest size ttl state).mono fun _ carries rerr isRerr =>
    buffer rerr (carries.symm.trans isRerr)

/-- A call of `hello_start` sends HELLOs only. -/
theorem emits_helloOnDemand {quality : Datagram → Prop}
    (good : ∀ current numbered, quality (helloDatagram config current numbered)) (state : State) :
    Emits quality state (helloOnDemand config state) := by
  have sends (state : State) : Emits quality state (helloSend config state) := by
    rcases out_helloSend config state with silent | sent
    · exact .of_out silent
    · refine ⟨_, sent, fun datagram member => ?_⟩
      obtain ⟨numbered, _, rfl⟩ := List.mem_map.mp member
      exact good state numbered
  rw [helloOnDemand]
  split
  · rw [helloStart]
    split
    · exact .refl _ _
    · exact .trans (.of_out rfl) (sends _)
  · exact .refl _ _

theorem noRerr_helloOnDemand (config : Config) (state : State) :
    NoRerr state (helloOnDemand config state) :=
  emits_helloOnDemand (fun _ _ _ isRerr => AodvMsg.noConfusion isRerr) state

theorem noRerr_rrepAcknowledge (config : Config) (rrep : Rrep) (state : State) :
    NoRerr state (rrepAcknowledge config rrep state) := by
  rw [rrepAcknowledge]
  split
  · exact .trans (.of_out rfl) (noRerr_sendAlong config _ _ _ fun _ other => AodvMsg.noConfusion other)
  · exact .refl _ _

theorem noRerr_rrepForward (config : Config) (rrep : Rrep) (size : Nat) (revDest fwdDest : Addr)
    (ttl : Int) (state : State) :
    NoRerr state (rrepForward config rrep size revDest fwdDest ttl state) := by
  have queued (current : State) (out : current.out = state.out)
      (buffer : ∀ rerr, current.sendBuf ≠ .rerr rerr) :
      NoRerr state (rtTableUpdateTimeout revDest (activeRouteTimeout config)
        (updatePrecursors fwdDest revDest (sendAlong config revDest size ttl current))) := by
    have sent : NoRerr state (sendAlong config revDest size ttl current) :=
      .trans (.of_out out) (noRerr_sendAlong config revDest size ttl buffer)
    refine .trans (.trans sent (.of_out ?_)) (.of_out (out_timerActs (rtTableUpdateTimeout_acts ..)))
    unfold updatePrecursors
    split <;> rfl
  rw [rrepForward]
  split
  · exact .refl _ _
  · exact queued _ rfl fun _ other => AodvMsg.noConfusion other

theorem noRerr_rrepPassOn (config : Config) (rrep : Rrep) (len : Nat) (ipTtl : Int)
    (revRt : Option RtEntry) (state : State) :
    NoRerr state (rrepPassOn config rrep len ipTtl revRt state) := by
  unfold rrepPassOn
  split
  · split
    · exact noRerr_rrepForward ..
    · exact .refl _ _
  · exact .refl _ _

/-- The RERR of `rrep_process` about a repaired route. -/
def repairNotice (config : Config) (before : Option RtEntry) (after : Option RtEntry) :
    List Datagram :=
  match before, after with
  | some old, some fwdRt =>
    if old.flags.repair = true ∧ old.hcnt < fwdRt.hcnt ∧ fwdRt.nprec ≠ 0 then
      (devIfindex config fwdRt.ifindex).toList.map fun dev =>
        ⟨dev.ipaddr, aodvBroadcast, 1, rerrCalcSize 1,
          .rerr ⟨true, 1, [(fwdRt.destAddr, fwdRt.destSeqno)]⟩⟩
    else []
  | _, _ => []

theorem out_rrepReportRepair (unlimited : config.ratelimit = false) (rrep : Rrep)
    (before : Option RtEntry) (state : State) :
    (rrepReportRepair config rrep before state).out =
      state.out ++ repairNotice config before (entryAt state rrep.destAddr) := by
  unfold rrepReportRepair
  cases before with
  | none => exact (List.append_nil _).symm
  | some old =>
    cases found : entryAt state rrep.destAddr with
    | none => exact (List.append_nil _).symm
    | some fwdRt =>
      dsimp only [repairNotice]
      by_cases longer : old.flags.repair = true ∧ old.hcnt < fwdRt.hcnt
      · rw [if_pos longer]
        by_cases none : fwdRt.nprec = 0
        · rw [if_pos none, if_neg fun all => all.2.2 none, List.append_nil]
          rfl
        · rw [if_neg none, if_pos ⟨longer.1, longer.2, none⟩, out_send_rerr unlimited _ _ _ rfl]
          rfl
      · rw [if_neg longer, if_neg fun all => longer ⟨all.1, all.2.1⟩, List.append_nil]

/-- After the forward route has been made, the only RERR is the one about a repair. -/
theorem out_rrepContinue (unlimited : config.ratelimit = false) (rrep : Rrep) (len : Nat)
    (ipTtl : Int) (ifindex : Nat) (fwdRt revRt : Option RtEntry) (state : State) :
    ∃ first last,
      (rrepContinue config rrep len ipTtl ifindex fwdRt revRt state).out = state.out ++ (first ++
        (if rrep.origAddr = ipaddrOf config ifindex then
          repairNotice config fwdRt (entryAt state rrep.destAddr) else []) ++ last) ∧
      (∀ datagram ∈ first, ∀ rerr, datagram.msg ≠ .rerr rerr) ∧
      ∀ datagram ∈ last, ∀ rerr, datagram.msg ≠ .rerr rerr := by
  obtain ⟨first, firstOut, firstOther⟩ := noRerr_rrepAcknowledge config rrep state
  have entries := (aside_rrepAcknowledge config rrep state).entryAt rrep.destAddr
  rw [rrepContinue]
  split
  · obtain ⟨last, lastOut, lastOther⟩ := noRerr_helloOnDemand config
      (rrepReportRepair config rrep fwdRt (rrepAcknowledge config rrep state))
    refine ⟨first, last, ?_, firstOther, lastOther⟩
    rw [lastOut, out_rrepReportRepair unlimited, firstOut, entries]
    simp only [List.append_assoc]
  · obtain ⟨last, lastOut, lastOther⟩ :=
      (noRerr_rrepPassOn config rrep len ipTtl revRt (rrepAcknowledge config rrep state)).trans
        (noRerr_helloOnDemand config _)
    refine ⟨first, last, ?_, firstOther, lastOther⟩
    rw [lastOut, firstOut]
    simp only [List.append_assoc, List.nil_append]

/-- A neighbour that is about to be broken has forgotten its HELLOs. -/
theorem samePrecursors_forgetHellos {first second : State}
    (entries : ∀ other,
      entryAt second other = entryAt (setEntry dest RtEntry.forgetHellos first) other) :
    SamePrecursors first second := by
  intro other rt found
  by_cases here : other = dest
  · refine ⟨rt.forgetHellos, ?_, rfl, rfl⟩
    rw [entries, entryAt_setEntry cosmetic_forgetHellos.dest, if_pos here, ← here, found]
    rfl
  · refine ⟨rt, ?_, rfl, rfl⟩
    rw [entries, entryAt_setEntry cosmetic_forgetHellos.dest, if_neg here, found]

/-- An update tells all precursors of the routes its link break reports. -/
theorem notifies_rtTableUpdate (unlimited : config.ratelimit = false) (offer : Offer)
    (sound : state.rtTbl.Sound) (found : entryAt state offer.dest = some rt) :
    ∃ sent, (rtTableUpdate config offer state).out = state.out ++ sent ∧
      Notifies config state sent ∧ ∀ datagram ∈ sent, Reports config datagram := by
  have told : ∃ sent, (rtTableUpdate config offer state).out = state.out ++ sent ∧
      Notifies config state sent := by
    have kernel := entryAt_updateKernel rt offer state
    have kernelOut := out_updateKernel rt offer state
    have kernelSound := sound.updateKernel rt offer
    rw [out_rtTableUpdate config offer found, updateLinkBreak]
    split
    · have forgotten : (removeTimer (.helloTimer rt.destAddr) (setEntry rt.destAddr
          RtEntry.forgetHellos (updateKernel rt offer state))).rtTbl.Sound :=
        kernelSound.setEntry cosmetic_forgetHellos.toGentle rt.destAddr
      obtain ⟨sent, out, notifies⟩ :=
        notifies_neighborLinkBreak unlimited rt.destAddr forgotten
      refine ⟨sent, out.trans (congrArg (· ++ sent) kernelOut), notifies.of_same ?_⟩
      refine samePrecursors_forgetHellos rt.destAddr fun other => ?_
      show entryAt (setEntry _ _ (updateKernel rt offer state)) other = _
      rw [entryAt_setEntry cosmetic_forgetHellos.dest, entryAt_setEntry cosmetic_forgetHellos.dest,
        kernel, kernel]
    · exact ⟨[], kernelOut.trans (List.append_nil _).symm,
        fun _ member => absurd member List.not_mem_nil⟩
  obtain ⟨sent, out, notifies⟩ := told
  obtain ⟨same, sameOut, reports⟩ := emits_rtTableUpdate config offer state
  obtain rfl := List.append_cancel_left (out.symm.trans sameOut)
  exact ⟨sent, out, notifies, reports⟩

/-- RERRs of two kinds are told separately. -/
theorem notifies_mixed_iff {first own last : List Datagram} (early : Notifies config state first)
    (late : Notifies config state last)
    (firstOther : ∀ datagram ∈ first, ∀ rerr, datagram.msg = .rerr rerr → rerr.noDelete = false)
    (lastOther : ∀ datagram ∈ last, ∀ rerr, datagram.msg = .rerr rerr → rerr.noDelete = false)
    (ownKind : ∀ datagram ∈ own, ∀ rerr, datagram.msg = .rerr rerr → rerr.noDelete = true) :
    Notifies config state (first ++ own ++ last) ↔ Notifies config state own := by
  refine ⟨fun notifies => ?_, fun notifies => (early.append notifies).append late⟩
  intro datagram member rerr isRerr dest listed rt found precursor precedes entry dev entryFound
    enabled
  obtain ⟨copy, copied, same, rest⟩ := notifies datagram
    (List.mem_append_left _ (List.mem_append_right _ member)) rerr isRerr dest listed rt found
    precursor precedes entry dev entryFound enabled
  have kind := ownKind datagram member rerr isRerr
  have other (deletes : rerr.noDelete = false) : False :=
    Bool.false_ne_true (deletes.symm.trans kind)
  refine ⟨copy, ?_, same, rest⟩
  rcases List.mem_append.mp copied with inside | after
  · rcases List.mem_append.mp inside with before | here
    · exact absurd (firstOther copy before rerr (same.trans isRerr)) other
    · exact here
  · exact absurd (lastOther copy after rerr (same.trans isRerr)) other

/-- A RREP repairs a route of this node's own and makes it longer. -/
structure LengthensRepair (config : Config) (rrep : Rrep) (len ifindex : Nat) (fwdRt : RtEntry) :
    Prop where
  long : rrepSize ≤ len
  notOwn : rrep.destAddr ≠ ipaddrOf config ifindex
  accepts : rrepAccepts rrep fwdRt = true
  mine : rrep.origAddr = ipaddrOf config ifindex
  repairs : fwdRt.flags.repair = true
  longer : fwdRt.hcnt < (rrep.hcnt + 1) % 256

/-- The repaired entry keeps its precursors. -/
theorem precursors_rtTableUpdate (config : Config) (offer : Offer) (sound : state.rtTbl.Sound)
    (found : entryAt state offer.dest = some rt) (repairs : rt.flags.repair = true) :
    ∃ new, entryAt (rtTableUpdate config offer state) offer.dest = some new ∧
      new.destAddr = rt.destAddr ∧ new.ifindex = rt.ifindex ∧ new.hcnt = offer.hcnt ∧
      new.nprec = rt.nprec := by
  refine ⟨_, entryAt_rtTableUpdate_eq config offer sound found, ?_⟩
  split
  · have marked : rt.forgetHellos.flags.repair = true := repairs
    rw [RtEntry.cut, if_pos rfl, if_pos marked, RtEntry.retired]
    split <;> exact ⟨rfl, rfl, rfl, rfl⟩
  · exact ⟨rfl, rfl, rfl, rfl⟩

/-- The notice about a repair reaches the precursors exactly if they are on the interface of the
route. -/
theorem notifies_repairNotice_iff {old new : RtEntry} (sound : old.Sound)
    (found : entryAt state old.destAddr = some old) (dest : new.destAddr = old.destAddr)
    (ifindex : new.ifindex = old.ifindex) (nprec : new.nprec = old.nprec) :
    Notifies config state (repairNotice config (some old) (some new)) ↔
      (old.flags.repair = true → old.hcnt < new.hcnt → OneInterface config state old) := by
  have silent : Notifies config state [] := fun _ member => absurd member List.not_mem_nil
  rw [repairNotice]
  by_cases repairs : old.flags.repair = true ∧ old.hcnt < new.hcnt
  · rw [forall_prop_of_true repairs.1, forall_prop_of_true repairs.2]
    by_cases none : new.nprec = 0
    · rw [if_neg fun all => all.2.2 none]
      refine iff_of_true silent fun _ _ precursor precedes => ?_
      have counted := sound.counted
      have empty : old.precursors = [] := List.length_eq_zero_iff.mp (by omega)
      exact absurd (empty ▸ precedes) List.not_mem_nil
    · rw [if_pos ⟨repairs.1, repairs.2, none⟩, dest, ifindex]
      exact notifies_along_iff found _ _ _ fun _ _ => .inr rfl
  · rw [if_neg fun all => repairs ⟨all.1, all.2.1⟩]
    exact iff_of_true silent fun repair longer => absurd ⟨repair, longer⟩ repairs

theorem repairNotice_noDelete (config : Config) (before after : Option RtEntry) :
    ∀ datagram ∈ repairNotice config before after, ∀ rerr, datagram.msg = .rerr rerr →
      rerr.noDelete = true := by
  intro datagram member rerr isRerr
  unfold repairNotice at member
  split at member
  · split at member
    · obtain ⟨dev, _, rfl⟩ := List.mem_map.mp member
      obtain rfl := AodvMsg.rerr.inj isRerr
      rfl
    · exact absurd member List.not_mem_nil
  · exact absurd member List.not_mem_nil

theorem repairNotice_of_unmarked (config : Config) {old : RtEntry} (after : Option RtEntry)
    (unmarked : ¬ old.flags.repair = true) : repairNotice config (some old) after = [] := by
  cases after with
  | none => rfl
  | some new => exact if_neg fun all => unmarked all.1

/-- The notice of an accepted RREP, from what the state was before. -/
theorem notifies_ownNotice_iff {rrep : Rrep} {len ifindex : Nat} {ipSrc : Addr} {fwdRt : RtEntry}
    (sound : state.rtTbl.Sound) (found : entryAt state rrep.destAddr = some fwdRt)
    (long : rrepSize ≤ len) (notOwn : rrep.destAddr ≠ ipaddrOf config ifindex)
    (accepts : rrepAccepts rrep fwdRt = true) :
    Notifies config state (if rrep.origAddr = ipaddrOf config ifindex then
        repairNotice config (some fwdRt) (entryAt (rtTableUpdate config
          (rrepOffer rrep ipSrc ifindex fwdRt.flags) state) rrep.destAddr) else []) ↔
      (LengthensRepair config rrep len ifindex fwdRt → OneInterface config state fwdRt) := by
  have silent : Notifies config state [] := fun _ member => absurd member List.not_mem_nil
  by_cases mine : rrep.origAddr = ipaddrOf config ifindex
  · rw [if_pos mine]
    by_cases repairs : fwdRt.flags.repair = true
    · obtain ⟨new, there, dest, sameIfindex, hcnt, nprec⟩ := precursors_rtTableUpdate config
        (rrepOffer rrep ipSrc ifindex fwdRt.flags) sound found repairs
      have self := entryAt_destAddr found
      have updated : entryAt (rtTableUpdate config (rrepOffer rrep ipSrc ifindex fwdRt.flags) state)
          rrep.destAddr = some new := there
      rw [updated, notifies_repairNotice_iff
        (sound.entry fwdRt (sound.entryAt_eq_some_iff.mp found).1) (self ▸ found) dest sameIfindex
        nprec, forall_prop_of_true repairs]
      refine ⟨fun told lengthens => told (lengthens.longer.trans_eq hcnt.symm),
        fun told longer => told ?_⟩
      exact ⟨long, notOwn, accepts, mine, repairs, longer.trans_eq hcnt⟩
    · rw [repairNotice_of_unmarked config _ repairs]
      exact iff_of_true silent fun lengthens => absurd lengthens.repairs repairs
  · rw [if_neg mine]
    exact iff_of_true silent fun lengthens => absurd lengthens.mine mine

/-- A RREP is told to the precursors of the routes it breaks, and to those of the route it
repairs exactly if they are on its interface. -/
theorem notifies_rrepProcess (unlimited : config.ratelimit = false) (rrep : Rrep) (len : Nat)
    (ipSrc : Addr) (ipTtl : Int) (ifindex : Nat) (sound : state.rtTbl.Sound) :
    ∃ sent, (rrepProcess config rrep len ipSrc ipTtl ifindex state).out = state.out ++ sent ∧
      (Notifies config state sent ↔ ∀ fwdRt, entryAt state rrep.destAddr = some fwdRt →
        LengthensRepair config rrep len ifindex fwdRt → OneInterface config state fwdRt) := by
  have silent : Notifies config state [] := fun _ member => absurd member List.not_mem_nil
  rw [rrepProcess]
  by_cases short : len < rrepSize
  · rw [if_pos short]
    exact ⟨[], (List.append_nil _).symm, iff_of_true silent fun _ _ lengthens =>
      absurd lengthens.long (Nat.not_le_of_lt short)⟩
  rw [if_neg short]
  by_cases own : rrep.destAddr = ipaddrOf config ifindex
  · rw [if_pos own]
    exact ⟨[], (List.append_nil _).symm, iff_of_true silent fun _ _ lengthens =>
      absurd own lengthens.notOwn⟩
  rw [if_neg own, rtTableFind_eq_entryAt sound rrep.destAddr]
  cases found : entryAt state rrep.destAddr with
  | none =>
    obtain ⟨first, last, out, firstOther, lastOther⟩ := out_rrepContinue unlimited rrep len ipTtl
      ifindex none (rtTableFind state rrep.origAddr)
      (rtTableInsert config (rrepOffer rrep ipSrc ifindex .none) state).1
    rw [out_rtTableInsert config found] at out
    refine ⟨_, out, iff_of_true (Notifies.append (Notifies.append ?_ ?_) ?_) fun _ there => ?_⟩
    · exact notifies_of_no_rerr config state firstOther
    · split
      · exact silent
      · exact silent
    · exact notifies_of_no_rerr config state lastOther
    · exact nomatch there
  | some fwdRt =>
    dsimp only
    by_cases accepts : rrepAccepts rrep fwdRt = true
    · rw [if_pos accepts]
      have offered : entryAt state (rrepOffer rrep ipSrc ifindex fwdRt.flags).dest = some fwdRt :=
        found
      obtain ⟨broken, brokenOut, told, reports⟩ := notifies_rtTableUpdate unlimited _ sound offered
      obtain ⟨first, last, out, firstOther, lastOther⟩ := out_rrepContinue unlimited rrep len ipTtl
        ifindex (some fwdRt) (rtTableFind state rrep.origAddr)
        (rtTableUpdate config (rrepOffer rrep ipSrc ifindex fwdRt.flags) state)
      rw [brokenOut, List.append_assoc, ← List.append_assoc broken, ← List.append_assoc broken]
        at out
      refine ⟨_, out, ?_⟩
      rw [notifies_mixed_iff (told.append (notifies_of_no_rerr config state firstOther))
        (notifies_of_no_rerr config state lastOther)]
      · rw [notifies_ownNotice_iff sound found (Nat.not_lt.mp short) own accepts]
        exact ⟨fun told other same => Option.some.inj same ▸ told, fun told => told fwdRt rfl⟩
      · intro datagram member rerr isRerr
        rcases List.mem_append.mp member with report | other
        · obtain ⟨same, isSame, deletes⟩ := (reports datagram report).deletes
          obtain rfl := AodvMsg.rerr.inj (isSame.symm.trans isRerr)
          exact deletes
        · exact absurd isRerr (firstOther datagram other rerr)
      · exact fun datagram member rerr isRerr => absurd isRerr (lastOther datagram member rerr)
      · intro datagram member
        split at member
        · exact repairNotice_noDelete config _ _ datagram member
        · exact absurd member List.not_mem_nil
    · rw [if_neg accepts]
      refine ⟨[], (List.append_nil _).symm, iff_of_true silent fun other same lengthens => ?_⟩
      obtain rfl := Option.some.inj same
      exact absurd lengthens.accepts accepts

/-! ### The four senders of RERRs about routes -/

/-- A call of one of the functions that report routes with precursors. -/
inductive Reporter
  | neighborLinkBreak (dest : Addr)
  | rerrProcess (rerr : Rerr) (len : Nat) (ipSrc : Addr)
  | localRepairTimeout (dest : Addr)
  | rrepProcess (rrep : Rrep) (len : Nat) (ipSrc : Addr) (ipTtl : Int) (ifindex : Nat)

def Reporter.call (config : Config) (state : State) : Reporter → State
  | .neighborLinkBreak dest => Aodvd.neighborLinkBreak config dest state
  | .rerrProcess rerr len ipSrc => Aodvd.rerrProcess config rerr len ipSrc state
  | .localRepairTimeout dest => Aodvd.localRepairTimeout config dest state
  | .rrepProcess rrep len ipSrc ipTtl ifindex =>
    Aodvd.rrepProcess config rrep len ipSrc ipTtl ifindex state

/-- Where a call reaches all precursors. -/
def Reporter.Reaches (config : Config) (state : State) : Reporter → Prop
  | .neighborLinkBreak _ => True
  | .rerrProcess _ _ _ => True
  | .localRepairTimeout dest =>
    ∀ rt, entryAt state dest = some rt → rt.nprec = 1 → OneInterface config state rt
  | .rrepProcess rrep len _ _ ifindex =>
    ∀ fwdRt, entryAt state rrep.destAddr = some fwdRt →
      LengthensRepair config rrep len ifindex fwdRt → OneInterface config state fwdRt

/-- The datagrams that leave between two states. -/
def sentBetween (before after : State) : List Datagram := after.out.drop before.out.length

theorem sentBetween_of_out {before after : State} (out : after.out = before.out ++ sent) :
    sentBetween before after = sent := by
  rw [sentBetween, out, List.drop_left]

/-- In every state with a sound table, a call tells every RERR it sends to all precursors of
the destinations listed, exactly where it reaches them. -/
theorem reporter_notifies_iff (config : Config) (unlimited : config.ratelimit = false)
    (state : State) (sound : state.rtTbl.Sound) (reporter : Reporter) :
    Notifies config state (sentBetween state (reporter.call config state)) ↔
      reporter.Reaches config state := by
  cases reporter with
  | neighborLinkBreak dest =>
    obtain ⟨sent, out, notifies⟩ := notifies_neighborLinkBreak unlimited dest sound
    rw [Reporter.call, sentBetween_of_out out]
    exact iff_of_true notifies trivial
  | rerrProcess rerr len ipSrc =>
    obtain ⟨sent, out, notifies⟩ := notifies_rerrProcess unlimited rerr len ipSrc sound
    rw [Reporter.call, sentBetween_of_out out]
    exact iff_of_true notifies trivial
  | localRepairTimeout dest =>
    obtain ⟨sent, out, notifies⟩ := notifies_localRepairTimeout unlimited dest sound
    rw [Reporter.call, sentBetween_of_out out]
    exact notifies
  | rrepProcess rrep len ipSrc ipTtl ifindex =>
    obtain ⟨sent, out, notifies⟩ := notifies_rrepProcess unlimited rrep len ipSrc ipTtl ifindex sound
    rw [Reporter.call, sentBetween_of_out out]
    exact notifies

/-! ### A relay whose precursor is on the other interface -/

/-- A relay with two interfaces that repairs routes. -/
def repairRelay : Config := { relayConfig with localRepair := true, ratelimit := false }

/-- Node 2 on the first interface has asked for node 9 and been answered over neighbour 3 on the
second, which sends HELLOs. -/
def relaying : List Input :=
  [inputAt 15000 .timers,
    inputAt 16000 (.message ⟨.rrep ⟨false, false, 0, 3#32, 1#32, 3#32, 2000, []⟩, rrepSize, 3#32,
      aodvBroadcast, 1, 2⟩),
    inputAt 16100 (.message ⟨.rreq ⟨.none, 0, 1#32, 9#32, 0#32, 2#32, 1#32, []⟩, rreqSize, 2#32,
      aodvBroadcast, 5, 1⟩),
    inputAt 16200 (.message ⟨.rrep ⟨false, false, 1, 9#32, 5#32, 2#32, 6000, []⟩, rrepSize, 3#32,
      0x101#32, 5, 2⟩)]

/-- The break of the link to neighbour 3 is told to node 2 on its own interface. -/
theorem reporter_notifies_iff_linkBreak :
    sentBetween (run repairRelay timevalZero 0 relaying)
        (Reporter.call repairRelay (run repairRelay timevalZero 0 relaying)
          (.neighborLinkBreak 3#32)) =
        [⟨1#32, 2#32, 1, 12, .rerr ⟨false, 1, [(9#32, 6#32)]⟩⟩] ∧
      Notifies repairRelay (run repairRelay timevalZero 0 relaying)
        (sentBetween (run repairRelay timevalZero 0 relaying)
          (Reporter.call repairRelay (run repairRelay timevalZero 0 relaying)
            (.neighborLinkBreak 3#32))) :=
  ⟨by decide +kernel, (reporter_notifies_iff repairRelay rfl _
    (atRest_run repairRelay timevalZero 0 relaying).sound (.neighborLinkBreak 3#32)).mpr trivial⟩

/-- Neighbour 3 falls silent, and the route to node 9 is to be repaired. -/
def repairing : List Input := relaying ++ [inputAt 18300 .timers]

/-- The reply that repairs the route, with more hops. -/
def detour : Rrep := ⟨false, false, 5, 9#32, 7#32, 0x101#32, 6000, []⟩

theorem not_oneInterface_repairing :
    ∃ rt, entryAt (run repairRelay timevalZero 0 repairing) 9#32 = some rt ∧ rt.nprec = 1 ∧
      LengthensRepair repairRelay detour rrepSize 2 rt ∧
      ¬ OneInterface repairRelay (run repairRelay timevalZero 0 repairing) rt := by
  have route : (entryAt (run repairRelay timevalZero 0 repairing) 9#32).map (fun rt =>
      (rt.ifindex, rt.precursors, rt.nprec, rt.hcnt, rt.flags.repair, rrepAccepts detour rt)) =
      some (2, [2#32], 1, 2, true, true) := by decide +kernel
  have precursor : (entryAt (run repairRelay timevalZero 0 repairing) 2#32).map RtEntry.ifindex =
      some 1 := by decide +kernel
  obtain ⟨rt, found, fields⟩ := Option.map_eq_some_iff.mp route
  obtain ⟨entry, entryFound, entryIfindex⟩ := Option.map_eq_some_iff.mp precursor
  simp only [Prod.mk.injEq] at fields
  obtain ⟨ifindex, precursors, nprec, hcnt, repairs, accepts⟩ := fields
  refine ⟨rt, found, nprec, ⟨le_rfl, by decide, accepts, rfl, repairs, by rw [hcnt]; decide⟩, ?_⟩
  intro single
  have same := single _ (by rw [ifindex]; rfl) 2#32 (by rw [precursors]; exact List.mem_cons_self)
    entry _ entryFound (by rw [entryIfindex]; rfl)
  exact absurd same (by decide)

/-- Neither a failed repair nor a repair by a longer route reaches node 2, the precursor of the
route to node 9. -/
theorem reporter_unreached :
    ¬ Notifies repairRelay (run repairRelay timevalZero 0 repairing)
        (sentBetween (run repairRelay timevalZero 0 repairing)
          (Reporter.call repairRelay (run repairRelay timevalZero 0 repairing)
            (.localRepairTimeout 9#32))) ∧
      ¬ Notifies repairRelay (run repairRelay timevalZero 0 repairing)
        (sentBetween (run repairRelay timevalZero 0 repairing)
          (Reporter.call repairRelay (run repairRelay timevalZero 0 repairing)
            (.rrepProcess detour rrepSize 4#32 5 2))) := by
  have sound := (atRest_run repairRelay timevalZero 0 repairing).sound
  have unlimited : repairRelay.ratelimit = false := rfl
  obtain ⟨rt, found, one, lengthens, apart⟩ := not_oneInterface_repairing
  constructor
  · obtain ⟨sent, out, exactly⟩ := notifies_localRepairTimeout unlimited 9#32 sound
    rw [Reporter.call, sentBetween_of_out out, exactly]
    exact fun told => apart (told rt found one)
  · obtain ⟨sent, out, exactly⟩ := notifies_rrepProcess unlimited detour rrepSize 4#32 5 2
      sound
    rw [Reporter.call, sentBetween_of_out out, exactly]
    exact fun told => apart (told rt found lengthens)

end Aodvd
