/-
This file says which RERR a loop over unreachable destinations assembles.

The loops of `neighbor_link_break` and `rerr_process` keep the RERR in the send buffer and
the precursor it may be sent to in a local variable. After some entries have been listed,
the buffer holds the RERR about them, or what it held before if none has been, and the
variable names a precursor only if it is the one precursor of every entry listed. The writes into
the buffer are followed through the same loop.
-/

import Mathlib
import Aodvd.RouteViews

namespace Aodvd

variable {rt : RtEntry} (config : Config) (dest : Addr) (state : State)

/-! ### RERRs as messages -/

/-- `rerr_add_udest` on the message in the buffer. -/
def AodvMsg.addUdest (udest : Addr) (udestSeqno : Seqno) : AodvMsg → AodvMsg
  | .rerr draft => .rerr ⟨draft.noDelete, (draft.destCount + 1) % 256,
      if draft.destCount < draft.udest.length then
        draft.udest.set draft.destCount (udest, udestSeqno)
      else draft.udest ++ [(udest, udestSeqno)]⟩
  | message => message

theorem rerrAddUdest_eq (udest : Addr) (udestSeqno : Seqno) (state : State) :
    rerrAddUdest udest udestSeqno state =
      { state with sendBuf := state.sendBuf.addUdest udest udestSeqno } := by
  unfold rerrAddUdest
  split
  · rename_i draft buffer
    rw [buffer]
    rfl
  · rename_i notRerr
    unfold AodvMsg.addUdest
    split
    · exact absurd ‹_› (notRerr _)
    · rfl

/-- The RERR about a list of entries. -/
def rerrOf (noDelete : Bool) : List RtEntry → AodvMsg
  | [] => .rerr ⟨noDelete, 0, []⟩
  | first :: rest => rest.foldl (fun message rt => message.addUdest rt.destAddr rt.destSeqno)
      (.rerr ⟨noDelete, 1, [(first.destAddr, first.destSeqno)]⟩)

theorem rerrOf_append (noDelete : Bool) {listed : List RtEntry} (some : listed ≠ []) (rt : RtEntry) :
    rerrOf noDelete (listed ++ [rt]) =
      (rerrOf noDelete listed).addUdest rt.destAddr rt.destSeqno := by
  cases listed with
  | nil => exact absurd rfl some
  | cons first rest => exact List.foldl_append

/-- A RERR counts its entries in eight bits, and names only entries that were listed. -/
theorem rerrOf_eq (noDelete : Bool) (listed : List RtEntry) :
    ∃ udest, rerrOf noDelete listed = .rerr ⟨noDelete, listed.length % 256, udest⟩ ∧
      ∀ pair ∈ udest, ∃ rt ∈ listed, pair = (rt.destAddr, rt.destSeqno) := by
  induction listed using List.reverseRecOn with
  | nil => exact ⟨[], rfl, fun _ member => absurd member List.not_mem_nil⟩
  | append_singleton listed rt inductionHypothesis =>
    by_cases none : listed = []
    · subst none
      refine ⟨[(rt.destAddr, rt.destSeqno)], rfl, fun pair member => ?_⟩
      exact ⟨rt, List.mem_singleton.mpr rfl, List.mem_singleton.mp member⟩
    · obtain ⟨udest, message, named⟩ := inductionHypothesis
      rw [rerrOf_append noDelete none, message]
      refine ⟨if listed.length % 256 < udest.length then
          udest.set (listed.length % 256) (rt.destAddr, rt.destSeqno)
        else udest ++ [(rt.destAddr, rt.destSeqno)], ?_, ?_⟩
      · rw [AodvMsg.addUdest, List.length_append, List.length_singleton, Nat.mod_add_mod]
      · intro pair member
        have cases : pair ∈ udest ∨ pair = (rt.destAddr, rt.destSeqno) := by
          split at member
          · exact (List.mem_or_eq_of_mem_set member).imp id id
          · rwa [List.mem_append, List.mem_singleton] at member
        rcases cases with old | new
        · obtain ⟨entry, entryMember, same⟩ := named pair old
          exact ⟨entry, List.mem_append_left _ entryMember, same⟩
        · exact ⟨rt, List.mem_append_right _ (List.mem_singleton.mpr rfl), new⟩

/-! ### Drafts -/

/-- A loop that started in a state has listed some entries and sent nothing yet. -/
structure Drafts (noDelete : Bool) (before : State) (listed : List RtEntry)
    (loop : State × RerrDraft) : Prop where
  out : loop.1.out = before.out
  created : loop.2.created = !listed.isEmpty
  buffer : loop.1.sendBuf = if listed = [] then before.sendBuf else rerrOf noDelete listed
  unnamed : listed = [] → loop.2.unicastDest = 0#32
  unicast : loop.2.unicastDest ≠ 0#32 →
    ∀ rt ∈ listed, ∀ precursor ∈ rt.precursors, precursor = loop.2.unicastDest

theorem drafts_none (noDelete : Bool) (state : State) : Drafts noDelete state [] (state, .none) :=
  ⟨rfl, rfl, rfl, fun _ => rfl, fun _ _ member => absurd member List.not_mem_nil⟩

section

variable {noDelete : Bool} {before : State} {listed : List RtEntry}

theorem Drafts.of_quiet {first second : State} {draft : RerrDraft}
    (drafts : Drafts noDelete before listed (first, draft)) (out : second.out = first.out)
    (buffer : second.sendBuf = first.sendBuf) : Drafts noDelete before listed (second, draft) :=
  ⟨out.trans drafts.out, drafts.created, buffer.trans drafts.buffer, drafts.unnamed, drafts.unicast⟩

/-- An entry with one precursor counts it. -/
theorem RtEntry.Sound.single (sound : rt.Sound) (one : rt.nprec = 1) {precursor : Addr}
    (member : precursor ∈ rt.precursors) : precursor = rt.precursors.headD 0#32 := by
  have length : rt.precursors.length = 1 := by
    have counted := sound.counted
    omega
  obtain ⟨only, is⟩ := List.length_eq_one_iff.mp length
  rw [is] at member ⊢
  exact List.mem_singleton.mp member

theorem out_rerrInclude (noDelete : Bool) (rt : RtEntry) (draft : RerrDraft) (state : State) :
    (rerrInclude noDelete rt draft state).1.out = state.out := by
  unfold rerrInclude
  split
  · rw [rerrAddUdest_eq]
  · rfl

theorem Drafts.include {loop : State × RerrDraft} (drafts : Drafts noDelete before listed loop)
    (sound : rt.Sound) :
    Drafts noDelete before (listed ++ [rt]) (rerrInclude noDelete rt loop.2 loop.1) := by
  have nonempty : listed ++ [rt] ≠ [] := by simp
  have out := (out_rerrInclude noDelete rt loop.2 loop.1).trans drafts.out
  have created := drafts.created
  have buffer := drafts.buffer
  refine ⟨out, ?_, ?_, fun absent => absurd absent nonempty, ?_⟩ <;> unfold rerrInclude <;>
    by_cases none : listed = []
  · subst none
    rw [if_neg (by rw [created]; exact Bool.false_ne_true)]
    rfl
  · rw [if_pos (by rw [created]; simp [none])]
    simp
  · subst none
    rw [if_neg (by rw [created]; exact Bool.false_ne_true)]
    rfl
  · rw [if_pos (by rw [created]; simp [none]), if_neg nonempty, rerrOf_append noDelete none,
      rerrAddUdest_eq]
    rw [if_neg none] at buffer
    show loop.1.sendBuf.addUdest _ _ = _
    rw [buffer]
  · subst none
    rw [if_neg (by rw [created]; exact Bool.false_ne_true)]
    intro named other member precursor precursorMember
    rw [List.nil_append, List.mem_singleton] at member
    subst member
    dsimp only at named ⊢
    split at named
    · rename_i one
      rw [if_pos one]
      exact sound.single one precursorMember
    · exact absurd (drafts.unnamed rfl) named
  · rw [if_pos (by rw [created]; simp [none])]
    intro named other member precursor precursorMember
    dsimp only at named ⊢
    split at named
    · exact absurd rfl named
    · rename_i agree
      rw [if_neg agree]
      rcases List.mem_append.mp member with old | new
      · exact drafts.unicast named other old precursor precursorMember
      · rw [List.mem_singleton.mp new] at precursorMember
        by_contra different
        exact agree (List.any_eq_true.mpr ⟨precursor, precursorMember, decide_eq_true different⟩)

/-- Routes are invalidated without a datagram, and the send buffer is left alone. -/
theorem rtTableInvalidate_quiet :
    (rtTableInvalidate config dest state).out = state.out ∧
      (rtTableInvalidate config dest state).sendBuf = state.sendBuf := by
  obtain ⟨rtTbl, kernel, timers, result⟩ := rtTableInvalidate_eq config dest state
  rw [result]
  exact ⟨rfl, rfl⟩

theorem Drafts.invalidate {loop : State × RerrDraft} (drafts : Drafts noDelete before listed loop)
    (config : Config) (dest : Addr) :
    Drafts noDelete before listed (rtTableInvalidate config dest loop.1, loop.2) :=
  drafts.of_quiet (rtTableInvalidate_quiet config dest loop.1).1
    (rtTableInvalidate_quiet config dest loop.1).2

/-- Entries are written in place without a datagram. -/
theorem Drafts.setEntry {loop : State × RerrDraft} (drafts : Drafts noDelete before listed loop)
    (dest : Addr) (change : RtEntry → RtEntry) :
    Drafts noDelete before listed (Aodvd.setEntry dest change loop.1, loop.2) :=
  drafts.of_quiet rfl rfl

/-- An entry without precursors is not listed. -/
theorem Drafts.include_of_nprec {loop : State × RerrDraft}
    (drafts : Drafts noDelete before listed loop) (sound : rt.Sound) :
    Drafts noDelete before (listed ++ [rt].filter fun rt => decide (rt.nprec ≠ 0))
      (if rt.nprec = 0 then loop else rerrInclude noDelete rt loop.2 loop.1) := by
  by_cases none : rt.nprec = 0
  · rw [if_pos none, List.filter_cons_of_neg (by simp [none]), List.filter_nil, List.append_nil]
    exact drafts
  · rw [if_neg none, List.filter_cons_of_pos (by simp [none]), List.filter_nil]
    exact drafts.include sound

end

/-! ### Writes into the send buffer -/

/-- A write into the send buffer. -/
structure BufWrite where
  offset : Nat
  size : Nat
  deriving DecidableEq, Repr

/-- What `rerr_create` or `rerr_add_udest` writes: the fixed part, or a destination behind those
that the count in the buffer stands for. -/
def rerrIncludeWrite (draft : RerrDraft) (state : State) : BufWrite :=
  if draft.created then
    match state.sendBuf with
    | .rerr rerr => ⟨rerrCalcSize rerr.destCount, 8⟩
    | _ => ⟨0, 0⟩
  else ⟨0, rerrCalcSize 1⟩

/-- The write for a destination that follows a number of others. -/
def writeAfter (count : Nat) : BufWrite :=
  if count = 0 then ⟨0, rerrCalcSize 1⟩ else ⟨rerrCalcSize (count % 256), 8⟩

/-- The writes for a number of destinations. -/
def writesFor (count : Nat) : List BufWrite := (List.range count).map writeAfter

theorem writesFor_succ (count : Nat) :
    writesFor (count + 1) = writesFor count ++ [writeAfter count] := by
  rw [writesFor, List.range_succ, List.map_append]
  rfl

section

variable {noDelete : Bool} {before : State} {listed : List RtEntry}
  {trace : (State × RerrDraft) × List BufWrite}

theorem Drafts.write {loop : State × RerrDraft} (drafts : Drafts noDelete before listed loop) :
    rerrIncludeWrite loop.2 loop.1 = writeAfter listed.length := by
  unfold rerrIncludeWrite writeAfter
  by_cases none : listed = []
  · rw [if_neg (by rw [drafts.created, none]; exact Bool.false_ne_true), none]
    rfl
  · obtain ⟨udest, message, _⟩ := rerrOf_eq noDelete listed
    have buffer := drafts.buffer
    rw [if_neg none, message] at buffer
    rw [if_pos (by rw [drafts.created]; simp [none]), buffer,
      if_neg (mt List.length_eq_zero_iff.mp none)]

/-- A loop has listed some entries and made the writes for their number. -/
structure Traces (before : State) (listed : List RtEntry)
    (trace : (State × RerrDraft) × List BufWrite) : Prop where
  drafts : Drafts false before listed trace.1
  writes : trace.2 = writesFor listed.length

theorem Traces.invalidate (traces : Traces before listed trace) (config : Config) (dest : Addr) :
    Traces before listed ((rtTableInvalidate config dest trace.1.1, trace.1.2), trace.2) :=
  ⟨traces.drafts.invalidate config dest, traces.writes⟩

theorem Traces.setEntry (traces : Traces before listed trace) (dest : Addr)
    (change : RtEntry → RtEntry) :
    Traces before listed ((Aodvd.setEntry dest change trace.1.1, trace.1.2), trace.2) :=
  ⟨traces.drafts.setEntry dest change, traces.writes⟩

/-- An entry with precursors is listed, with one write. -/
theorem Traces.include (traces : Traces before listed trace) (sound : rt.Sound) :
    Traces before (listed ++ [rt].filter fun rt => decide (rt.nprec ≠ 0))
      (if rt.nprec = 0 then trace.1 else rerrInclude false rt trace.1.2 trace.1.1,
        trace.2 ++ if rt.nprec = 0 then [] else [rerrIncludeWrite trace.1.2 trace.1.1]) := by
  refine ⟨traces.drafts.include_of_nprec sound, ?_⟩
  dsimp only
  by_cases none : rt.nprec = 0
  · rw [if_pos none, List.filter_cons_of_neg (by simp [none]), List.filter_nil, List.append_nil,
      List.append_nil]
    exact traces.writes
  · rw [if_neg none, List.filter_cons_of_pos (by simp [none]), List.filter_nil, List.length_append,
      List.length_singleton, writesFor_succ, traces.writes, traces.drafts.write]

end

/-! ### The RERR of a link break -/

/-- The link break of a neighbour, whose repair flag is given, reports the loss of an entry. -/
def RtEntry.lostBy (neighbor : Addr) (repair : Bool) (rt : RtEntry) : Bool :=
  if rt.destAddr = neighbor then !rt.flags.repair
  else decide (rt.state = .valid) && decide (rt.nextHop = neighbor) &&
    !(repair && decide (rt.hcnt ≤ maxRepairTtl))

/-- The entries of a list that a link break reports, as they are when it lists them. -/
def reported (neighbor : Addr) (repair : Bool) (entries : List RtEntry) : List RtEntry :=
  (entries.filter fun rt => decide (rt.nprec ≠ 0) && rt.lostBy neighbor repair).map RtEntry.retired

/-- The entries that the link break of a neighbour lists: its own first, then the routes over it
in table order. -/
def linkBreakListed (broken : RtEntry) (state : State) : List RtEntry :=
  reported broken.destAddr broken.flags.repair
    (broken :: (rtEntries state).filter fun rt => decide (rt.destAddr ≠ broken.destAddr))

theorem RtEntry.retired_nprec (rt : RtEntry) : rt.retired.nprec = rt.nprec := by
  unfold RtEntry.retired
  split <;> rfl

theorem RtEntry.retired_flags (rt : RtEntry) : rt.retired.flags = rt.flags := by
  unfold RtEntry.retired
  split <;> rfl

theorem RtEntry.retired_precursors (rt : RtEntry) : rt.retired.precursors = rt.precursors := by
  unfold RtEntry.retired
  split <;> rfl

theorem reported_append (neighbor : Addr) (repair : Bool) (first second : List RtEntry) :
    reported neighbor repair (first ++ second) =
      reported neighbor repair first ++ reported neighbor repair second := by
  unfold reported
  rw [List.filter_append, List.map_append]

/-- One lost entry is listed if it has precursors. -/
theorem reported_of_lost {neighbor : Addr} {repair : Bool}
    (lost : rt.lostBy neighbor repair = true) :
    reported neighbor repair [rt] =
      [rt.retired].filter fun rt => decide (rt.nprec ≠ 0) := by
  by_cases none : rt.nprec = 0
  · simp [reported, none, rt.retired_nprec]
  · simp [reported, none, lost, rt.retired_nprec]

theorem reported_of_kept {neighbor : Addr} {repair : Bool}
    (kept : rt.lostBy neighbor repair = false) : reported neighbor repair [rt] = [] := by
  simp [reported, kept]

/-- An entry over the broken link is reported unless it is repaired with the link. -/
theorem RtEntry.lostBy_iff {neighbor : Addr} (repair : Bool) (different : rt.destAddr ≠ neighbor) :
    rt.lostBy neighbor repair = true ↔
      (rt.state = .valid ∧ rt.nextHop = neighbor ∧ rt.destAddr ≠ neighbor) ∧
        ¬ (repair = true ∧ rt.hcnt ≤ maxRepairTtl) := by
  unfold RtEntry.lostBy
  rw [if_neg different]
  cases repair
  · simp [different]
  · simp [different]

/-- The writes of the body of the loop of `neighbor_link_break`. -/
def linkBreakVisitWrites (config : Config) (broken visited : Addr) (loop : State × RerrDraft) :
    List BufWrite :=
  match entryAt loop.1 broken, entryAt loop.1 visited with
  | some rt, some rtU =>
    if rtU.state = .valid ∧ rtU.nextHop = rt.destAddr ∧ rtU.destAddr ≠ rt.destAddr then
      if rt.flags.repair = true ∧ rtU.hcnt ≤ maxRepairTtl then []
      else
        let state := rtTableInvalidate config visited loop.1
        match entryAt state visited with
        | some rtU => if rtU.nprec = 0 then [] else [rerrIncludeWrite loop.2 state]
        | none => []
    else []
  | _, _ => []

/-- The writes of `neighbor_link_break` before its loop. -/
def linkBreakSelfWrites (config : Config) (dest : Addr) (state : State) : List BufWrite :=
  let state := rtTableInvalidate config dest state
  match entryAt state dest with
  | none => []
  | some rt =>
    if rt.flags.repair then []
    else if rt.nprec = 0 then [] else [rerrIncludeWrite .none state]

/-- The loop together with the writes it has made. -/
def linkBreakTrace (config : Config) (broken : Addr) (trace : (State × RerrDraft) × List BufWrite)
    (visited : Addr) : (State × RerrDraft) × List BufWrite :=
  (linkBreakVisit config broken visited trace.1,
    trace.2 ++ linkBreakVisitWrites config broken visited trace.1)

theorem linkBreakSelf_traces {state : State} (found : entryAt state rt.destAddr = some rt)
    (sound : rt.Sound) :
    Traces state (reported rt.destAddr rt.flags.repair [rt])
      (linkBreakSelf config rt.destAddr state, linkBreakSelfWrites config rt.destAddr state) := by
  have invalidated : Traces state [] ((rtTableInvalidate config rt.destAddr state, .none), []) :=
    ⟨(drafts_none false state).invalidate config rt.destAddr, rfl⟩
  have lost : rt.lostBy rt.destAddr rt.flags.repair = !rt.flags.repair := if_pos rfl
  unfold linkBreakSelf linkBreakSelfWrites
  dsimp only
  rw [entryAt_rtTableInvalidate, if_pos rfl, found, Option.map_some]
  dsimp only
  rw [rt.retired_flags]
  cases repair : rt.flags.repair
  · rw [repair] at lost
    rw [if_neg Bool.false_ne_true, if_neg Bool.false_ne_true, reported_of_lost lost]
    exact (invalidated.include (gentle_retired.sound rt sound)).setEntry _ _
  · rw [repair] at lost
    rw [if_pos rfl, if_pos rfl, reported_of_kept lost]
    exact invalidated

/-- The body of the loop lists its entry if the broken link takes it away. -/
theorem linkBreakTrace_traces {broken : Addr} {before : State} {listed : List RtEntry}
    {trace : (State × RerrDraft) × List BufWrite} {rtU : RtEntry}
    (traces : Traces before listed trace) (found : entryAt trace.1.1 broken = some rt)
    (visited : entryAt trace.1.1 rtU.destAddr = some rtU) (sound : rtU.Sound)
    (different : rtU.destAddr ≠ broken) :
    Traces before (listed ++ reported broken rt.flags.repair [rtU])
      (linkBreakTrace config broken trace rtU.destAddr) := by
  have lost := rtU.lostBy_iff rt.flags.repair different
  unfold linkBreakTrace linkBreakVisit linkBreakVisitWrites
  rw [found, visited]
  dsimp only
  rw [entryAt_destAddr found]
  by_cases uses : rtU.state = .valid ∧ rtU.nextHop = broken ∧ rtU.destAddr ≠ broken
  · rw [if_pos uses, if_pos uses]
    by_cases repaired : rt.flags.repair = true ∧ rtU.hcnt ≤ maxRepairTtl
    · rw [if_pos repaired, if_pos repaired, List.append_nil,
        reported_of_kept (Bool.eq_false_iff.mpr fun isLost => (lost.mp isLost).2 repaired),
        List.append_nil]
      exact (traces.setEntry rtU.destAddr RtEntry.markRepair).invalidate config rtU.destAddr
    · rw [if_neg repaired, if_neg repaired, reported_of_lost (lost.mpr ⟨uses, repaired⟩),
        entryAt_rtTableInvalidate, if_pos rfl, visited, Option.map_some]
      dsimp only
      exact ((traces.invalidate config rtU.destAddr).include
        (gentle_retired.sound rtU sound)).setEntry _ _
  · rw [if_neg uses, if_neg uses, List.append_nil,
      reported_of_kept (Bool.eq_false_iff.mpr fun isLost => uses (lost.mp isLost).1),
      List.append_nil]
    exact traces

theorem linkBreakTrace_self (broken : Addr) (trace : (State × RerrDraft) × List BufWrite) :
    linkBreakTrace config broken trace broken = trace := by
  unfold linkBreakTrace linkBreakVisit linkBreakVisitWrites
  cases entryAt trace.1.1 broken with
  | none => exact Prod.ext rfl (List.append_nil _)
  | some rt =>
    have apart : ¬ (rt.state = .valid ∧ rt.nextHop = rt.destAddr ∧ rt.destAddr ≠ rt.destAddr) :=
      fun uses => uses.2.2 rfl
    dsimp only
    rw [if_neg apart, if_neg apart, List.append_nil]

/-- The loop lists the entries that the broken link takes away, in their order. -/
theorem linkBreakTraces_traces {broken : Addr} {before : State} (entries : List RtEntry)
    {listed : List RtEntry} {trace : (State × RerrDraft) × List BufWrite}
    (traces : Traces before listed trace) (found : entryAt trace.1.1 broken = some rt)
    (visited : ∀ rtU ∈ entries, rtU.destAddr ≠ broken →
      entryAt trace.1.1 rtU.destAddr = some rtU)
    (sound : ∀ rtU ∈ entries, rtU.Sound) (distinct : (entries.map RtEntry.destAddr).Nodup) :
    Traces before (listed ++ reported broken rt.flags.repair
        (entries.filter fun rtU => decide (rtU.destAddr ≠ broken)))
      ((entries.map RtEntry.destAddr).foldl (linkBreakTrace config broken) trace) := by
  induction entries generalizing listed trace with
  | nil =>
    rw [List.filter_nil, reported, List.filter_nil, List.map_nil, List.append_nil]
    exact traces
  | cons rtU rest inductionHypothesis =>
    obtain ⟨fresh, distinctRest⟩ := List.nodup_cons.mp distinct
    have soundRest : ∀ other ∈ rest, other.Sound := fun other member =>
      sound other (List.mem_cons_of_mem _ member)
    rw [List.map_cons, List.foldl_cons]
    by_cases self : rtU.destAddr = broken
    · rw [self, linkBreakTrace_self, List.filter_cons_of_neg (by simp [self])]
      exact inductionHypothesis traces found
        (fun other member => visited other (List.mem_cons_of_mem _ member)) soundRest distinctRest
    · have here := visited rtU List.mem_cons_self self
      have views := view_linkBreakVisit config rtU.destAddr found
      have stillFound := entryAt_linkBreakVisit_broken config rtU.destAddr found
      have listedHere := linkBreakTrace_traces config traces found here
        (sound rtU List.mem_cons_self) self
      rw [List.filter_cons_of_pos (by simp [self]), ← List.singleton_append, reported_append,
        ← List.append_assoc]
      refine inductionHypothesis listedHere stillFound (fun other member notBroken => ?_) soundRest
        distinctRest
      have different : other.destAddr ≠ rtU.destAddr := fun same =>
        fresh (same ▸ List.mem_map_of_mem member)
      refine (congrArg RouteView.entry (views other.destAddr)).trans ?_
      rw [if_neg fun both => different both.1]
      exact visited other (List.mem_cons_of_mem _ member) notBroken

/-- A link break lists its own entry first, then those that the loop lists. -/
theorem linkBreakLoop_traces {state : State} (sound : state.rtTbl.Sound)
    (found : entryAt state rt.destAddr = some rt) :
    Traces state (linkBreakListed rt state)
      (((rtEntries state).map RtEntry.destAddr).foldl (linkBreakTrace config rt.destAddr)
        (linkBreakSelf config rt.destAddr state, linkBreakSelfWrites config rt.destAddr state)) := by
  have entrySound : ∀ rtU ∈ rtEntries state, rtU.Sound := sound.entry
  have visited : ∀ rtU ∈ rtEntries state, rtU.destAddr ≠ rt.destAddr →
      entryAt (linkBreakSelf config rt.destAddr state).1 rtU.destAddr = some rtU := by
    intro rtU member different
    rw [entryAt_linkBreakSelf_of_ne config found different]
    exact sound.entryAt_of_mem member
  have traces := linkBreakTraces_traces config (rtEntries state)
    (linkBreakSelf_traces config found (entrySound rt (sound.entryAt_eq_some_iff.mp found).1))
    (entryAt_linkBreakSelf config found) visited entrySound sound.wellFormed.nodup_keys
  rwa [RtEntry.cut_flags_self, ← reported_append] at traces

theorem linkBreakTrace_fst (broken : Addr) (visits : List Addr)
    (trace : (State × RerrDraft) × List BufWrite) :
    (visits.foldl (linkBreakTrace config broken) trace).1 =
      visits.foldl (fun loop visited => linkBreakVisit config broken visited loop) trace.1 := by
  induction visits generalizing trace with
  | nil => rfl
  | cons visited rest inductionHypothesis => exact inductionHypothesis _

/-- A link break sends the RERR about the entries it lists. -/
theorem neighborLinkBreak_drafts {state : State} (sound : state.rtTbl.Sound)
    (found : entryAt state rt.destAddr = some rt) (near : rt.hcnt = 1) :
    ∃ loop, neighborLinkBreak config rt.destAddr state = rerrSend config loop.2 loop.1 ∧
      Drafts false state (linkBreakListed rt state) loop := by
  have drafts := (linkBreakLoop_traces config sound found).drafts
  rw [linkBreakTrace_fst] at drafts
  refine ⟨_, ?_, drafts⟩
  unfold neighborLinkBreak
  rw [found]
  exact if_pos near

theorem sendBuf_sendOnAll (len : Nat) (ttl : Int) (state : State) :
    (sendOnAll config len ttl state).sendBuf = state.sendBuf := by
  unfold sendOnAll
  refine List.foldlRecOn config.devs _
    (motive := fun current : State => current.sendBuf = state.sendBuf) rfl ?_
  intro current buffer dev _
  rw [sendBuf_aodvSocketSend, buffer]

theorem sendBuf_rerrSend (draft : RerrDraft) (state : State) :
    (rerrSend config draft state).sendBuf = state.sendBuf := by
  unfold rerrSend
  split
  · dsimp only
    split
    · split
      · exact sendBuf_aodvSocketSend ..
      · split
        · exact sendBuf_sendOnAll ..
        · rfl
    · split
      · exact sendBuf_sendOnAll ..
      · rfl
  · rfl

/-- A link break leaves the send buffer alone exactly if it lists nothing. -/
theorem sendBuf_neighborLinkBreak {state : State} (sound : state.rtTbl.Sound)
    (found : entryAt state rt.destAddr = some rt) (near : rt.hcnt = 1) :
    (neighborLinkBreak config rt.destAddr state).sendBuf =
      if linkBreakListed rt state = [] then state.sendBuf
      else rerrOf false (linkBreakListed rt state) := by
  obtain ⟨loop, result, drafts⟩ := neighborLinkBreak_drafts config sound found near
  rw [result, sendBuf_rerrSend]
  exact drafts.buffer

/-- A link break leaves the message in the send buffer alone or writes a RERR over it. -/
theorem sendBuf_neighborLinkBreak_cases {state : State} (sound : state.rtTbl.Sound) :
    (neighborLinkBreak config dest state).sendBuf = state.sendBuf ∨
      ∃ rerr, (neighborLinkBreak config dest state).sendBuf = .rerr rerr := by
  rcases neighborLinkBreak_cases config dest state with far | ⟨rt, found, hcnt⟩
  · rw [far]
    exact .inl rfl
  · obtain rfl := entryAt_destAddr found
    rw [sendBuf_neighborLinkBreak config sound found hcnt]
    split
    · exact .inl rfl
    · obtain ⟨udest, message, _⟩ := rerrOf_eq false (linkBreakListed rt state)
      exact .inr ⟨_, message⟩

end Aodvd
