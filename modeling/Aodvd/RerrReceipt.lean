/-
This file says what a received RERR does to the routing table and to the send buffer.

The loop of `rerr_process` reads the destinations of the datagram one by one, invalidates those
that are routed over the sender, and lists the ones with precursors in a RERR of its own. A
destination that occurs again finds its entry invalid, so only its first occurrence counts. The
length check keeps the reads inside the datagram, and a datagram that fits the receive buffer lists
no more destinations than fit the send buffer.
-/

import Aodvd.ReplyRules
import Aodvd.RerrBounds
import Aodvd.SendBuffer
import Aodvd.NeighborSets
import Aodvd.RecvBuffer
import Aodvd.TimerOrder

namespace Aodvd

variable {rt : RtEntry} (noDelete : Bool)

/-! ### One destination -/

/-- The entry is a valid route over the sender of a RERR. -/
def RtEntry.Over (ipSrc : Addr) (rt : RtEntry) : Prop := rt.state = .valid ∧ rt.nextHop = ipSrc

instance (ipSrc : Addr) (rt : RtEntry) : Decidable (rt.Over ipSrc) :=
  inferInstanceAs (Decidable (_ ∧ _))

/-- The entry after a RERR without the `N` flag has taken it away. -/
def RtEntry.lostTo (seqno : Seqno) (rt : RtEntry) : RtEntry :=
  (rt.hitBy false seqno).precursorListDestroy

theorem RtEntry.not_over_lostTo (ipSrc : Addr) (seqno : Seqno) (rt : RtEntry) :
    ¬(rt.lostTo seqno).Over ipSrc :=
  fun through => RouteState.noConfusion through.1

section

variable {config : Config} {ipSrc : Addr} {loop : State × RerrDraft}

theorem rerrVisit_of_not_over (sound : loop.1.rtTbl.Sound) {udest : Addr × Seqno}
    (miss : ∀ rt, entryAt loop.1 udest.1 = some rt → ¬rt.Over ipSrc) :
    rerrVisit config false ipSrc loop udest = loop :=
  rerrVisit_miss config false fun rt found =>
    miss rt ((rtTableFind_eq_entryAt sound udest.1).symm.trans found)

/-- A round that finds a route over the sender. -/
theorem rerrVisit_of_over (config : Config) (sound : loop.1.rtTbl.Sound) {udest : Addr × Seqno}
    (found : entryAt loop.1 udest.1 = some rt) (through : rt.Over ipSrc) :
    ∃ included : State × RerrDraft,
      included = (if rt.nprec = 0 ∨ rt.flags.repair = true then
          (rerrInvalidate config false udest.1 udest.2 loop.1, loop.2)
        else rerrInclude false (rt.hitBy false udest.2) loop.2
          (rerrInvalidate config false udest.1 udest.2 loop.1)) ∧
      rerrVisit config false ipSrc loop udest =
        (precursorListDestroy udest.1 included.1, included.2) := by
  obtain ⟨dest, seqno⟩ := udest
  obtain rfl : rt.destAddr = dest := entryAt_destAddr found
  have hit : entryAt (rerrInvalidate config false rt.destAddr seqno loop.1) rt.destAddr =
      some (rt.hitBy false seqno) :=
    (entryAt_rerrInvalidate config false seqno found through.1 rt.destAddr).trans (if_pos rfl)
  refine ⟨_, rfl, ?_⟩
  unfold rerrVisit
  rw [rtTableFind_eq_entryAt sound, found]
  dsimp only
  rw [if_pos (show rt.state = .valid ∧ rt.nextHop = ipSrc from through), hit]
  rfl

/-- The entries after one round of the loop. -/
theorem entryAt_rerrVisit (sound : loop.1.rtTbl.Sound) (udest : Addr × Seqno) (dest : Addr) :
    entryAt (rerrVisit config false ipSrc loop udest).1 dest =
      (entryAt loop.1 dest).map fun rt =>
        if dest = udest.1 ∧ rt.Over ipSrc then rt.lostTo udest.2 else rt := by
  by_cases hits : ∃ rt, entryAt loop.1 udest.1 = some rt ∧ rt.Over ipSrc
  · obtain ⟨rt, found, through⟩ := hits
    obtain ⟨included, writes, result⟩ := rerrVisit_of_over config sound found through
    have table (other : Addr) : entryAt included.1 other =
        entryAt (rerrInvalidate config false udest.1 udest.2 loop.1) other := by
      rw [writes]
      split
      · rfl
      · exact (aside_rerrInclude ..).entryAt other
    rw [result, precursorListDestroy, entryAt_setEntry gentle_precursorListDestroy.dest, table,
      table, entryAt_rerrInvalidate config false udest.2 found through.1,
      entryAt_rerrInvalidate config false udest.2 found through.1, if_pos rfl]
    by_cases here : dest = udest.1
    · have self : udest.1 = udest.1 ∧ rt.Over ipSrc := ⟨rfl, through⟩
      rw [if_pos here, here, found, Option.map_some, Option.map_some, if_pos self]
      rfl
    · rw [if_neg here, if_neg here]
      simp only [here, false_and, if_false, Option.map_id']
  · have kept : ∀ rt, entryAt loop.1 dest = some rt → ¬(dest = udest.1 ∧ rt.Over ipSrc) := by
      rintro rt found ⟨rfl, through⟩
      exact hits ⟨rt, found, through⟩
    rw [rerrVisit_of_not_over sound fun rt found through => hits ⟨rt, found, through⟩]
    cases found : entryAt loop.1 dest with
    | none => rfl
    | some rt => rw [Option.map_some, if_neg (kept rt found)]

end

/-! ### The table after the loop -/

/-- The entry of a destination after a list of destinations: its first occurrence counts. -/
def RtEntry.afterRerr (ipSrc : Addr) (pairs : List (Addr × Seqno)) (dest : Addr) (rt : RtEntry) :
    RtEntry :=
  match pairs.lookup dest with
  | some seqno => if rt.Over ipSrc then rt.lostTo seqno else rt
  | none => rt

theorem RtEntry.afterRerr_of_not_over {ipSrc : Addr} (other : ¬rt.Over ipSrc)
    (pairs : List (Addr × Seqno)) (dest : Addr) : rt.afterRerr ipSrc pairs dest = rt := by
  unfold RtEntry.afterRerr
  split
  · exact if_neg other
  · rfl

/-- The first pair is met first. -/
theorem RtEntry.afterRerr_cons (ipSrc : Addr) (udest : Addr × Seqno) (pairs : List (Addr × Seqno))
    (dest : Addr) (rt : RtEntry) :
    rt.afterRerr ipSrc (udest :: pairs) dest =
      (if dest = udest.1 ∧ rt.Over ipSrc then rt.lostTo udest.2 else rt).afterRerr ipSrc pairs
        dest := by
  by_cases through : rt.Over ipSrc
  · by_cases here : dest = udest.1
    · rw [if_pos ⟨here, through⟩,
        RtEntry.afterRerr_of_not_over (rt.not_over_lostTo ipSrc udest.2) pairs dest]
      unfold RtEntry.afterRerr
      rw [List.lookup_cons, beq_iff_eq.mpr here]
      exact if_pos through
    · rw [if_neg fun both => here both.1]
      unfold RtEntry.afterRerr
      rw [List.lookup_cons, beq_eq_false_iff_ne.mpr here]
  · rw [if_neg fun both => through both.2, RtEntry.afterRerr_of_not_over through,
      RtEntry.afterRerr_of_not_over through]

/-- The loop over a list of destinations. -/
theorem entryAt_rerrVisits (config : Config) (ipSrc : Addr) (pairs : List (Addr × Seqno))
    {loop : State × RerrDraft} (sound : loop.1.rtTbl.Sound) (dest : Addr) :
    entryAt (pairs.foldl (rerrVisit config false ipSrc) loop).1 dest =
      (entryAt loop.1 dest).map (RtEntry.afterRerr ipSrc pairs dest) := by
  induction pairs generalizing loop with
  | nil => exact Option.map_id'.symm
  | cons udest pairs inductionHypothesis =>
    rw [List.foldl_cons, inductionHypothesis ((errorRule_sound config).rerrVisit sound ..),
      entryAt_rerrVisit sound, Option.map_map]
    refine congrArg (fun change => (entryAt loop.1 dest).map change) (funext fun rt => ?_)
    exact (rt.afterRerr_cons ipSrc udest pairs dest).symm

/-! ### The destinations that are told -/

/-- The pairs of the RERR that the loop assembles. -/
def rerrTold (config : Config) (ipSrc : Addr) (pairs : List (Addr × Seqno))
    (loop : State × RerrDraft) : List (Addr × Seqno) :=
  (rerrListed config false ipSrc pairs loop).map fun rt => (rt.destAddr, rt.destSeqno)

/-- The entry is lost and has precursors that are to be told. -/
def RtEntry.Tells (ipSrc : Addr) (rt : RtEntry) : Prop :=
  rt.Over ipSrc ∧ rt.precursors ≠ [] ∧ rt.flags.repair = false

instance (ipSrc : Addr) (rt : RtEntry) : Decidable (rt.Tells ipSrc) :=
  inferInstanceAs (Decidable (_ ∧ _))

/-- The entry of a destination is lost and has precursors that are to be told. -/
def tellsAt (ipSrc : Addr) (state : State) (dest : Addr) : Bool :=
  (entryAt state dest).any fun rt => decide (rt.Tells ipSrc)

/-- The pairs of a list that name a destination for the first time, in order. -/
def firstOccurrences : List (Addr × Seqno) → List (Addr × Seqno)
  | [] => []
  | udest :: pairs => udest :: (firstOccurrences pairs).filter fun other => other.1 ≠ udest.1

theorem firstOccurrences_sublist (pairs : List (Addr × Seqno)) :
    (firstOccurrences pairs).Sublist pairs := by
  induction pairs with
  | nil => exact List.Sublist.refl _
  | cons udest pairs inductionHypothesis =>
    exact (List.filter_sublist.trans inductionHypothesis).cons_cons udest

section

variable {config : Config} {ipSrc : Addr} {loop : State × RerrDraft}

/-- What one round adds. -/
theorem rerrLists_eq (ipSrc : Addr) (sound : loop.1.rtTbl.Sound) (udest : Addr × Seqno) :
    (∃ rt, entryAt loop.1 udest.1 = some rt ∧ rt.Tells ipSrc ∧
      rerrLists false ipSrc loop.1 udest = [rt.hitBy false udest.2]) ∨
    (∀ rt, entryAt loop.1 udest.1 = some rt → ¬rt.Tells ipSrc) ∧
      rerrLists false ipSrc loop.1 udest = [] := by
  unfold rerrLists
  cases found : entryAt loop.1 udest.1 with
  | none => exact .inr ⟨fun _ absent => absurd absent (by simp), rfl⟩
  | some rt =>
    have counted := (sound.entry rt (sound.entryAt_eq_some_iff.mp
      ((entryAt_destAddr found).symm ▸ found)).1).counted
    have empty : rt.nprec = 0 ↔ rt.precursors = [] := by
      rw [counted, ← List.length_eq_zero_iff]
      exact Int.natCast_eq_zero
    dsimp only
    by_cases through : rt.Over ipSrc
    · rw [if_pos (show rt.state = .valid ∧ rt.nextHop = ipSrc from through)]
      by_cases quiet : rt.nprec = 0 ∨ rt.flags.repair = true
      · refine .inr ⟨fun other same tells => ?_, if_pos quiet⟩
        obtain rfl := Option.some.inj same
        obtain none | repair := quiet
        · exact tells.2.1 (empty.mp none)
        · exact absurd (tells.2.2.symm.trans repair) Bool.false_ne_true
      · refine .inl ⟨rt, rfl, ⟨through, ?_, ?_⟩, if_neg quiet⟩
        · exact fun none => quiet (.inl (empty.mpr none))
        · exact Bool.eq_false_iff.mpr fun repair => quiet (.inr repair)
    · refine .inr ⟨fun other same tells => through ?_, if_neg through⟩
      exact Option.some.inj same ▸ tells.1

theorem rerrTold_cons (udest : Addr × Seqno) (pairs : List (Addr × Seqno)) :
    rerrTold config ipSrc (udest :: pairs) loop =
      (rerrLists false ipSrc loop.1 udest).map (fun rt => (rt.destAddr, rt.destSeqno)) ++
        rerrTold config ipSrc pairs (rerrVisit config false ipSrc loop udest) :=
  List.map_append

/-- An entry that is listed is told as it was received. -/
theorem hitBy_pair {udest : Addr × Seqno} {state : State}
    (found : entryAt state udest.1 = some rt) :
    ((rt.hitBy false udest.2).destAddr, (rt.hitBy false udest.2).destSeqno) = udest :=
  Prod.ext (show rt.destAddr = udest.1 from entryAt_destAddr found) rfl

theorem tellsAt_eq_false_iff (ipSrc : Addr) (state : State) (dest : Addr) :
    tellsAt ipSrc state dest = false ↔ ∀ rt, entryAt state dest = some rt → ¬rt.Tells ipSrc := by
  unfold tellsAt
  cases entryAt state dest with
  | none => simp
  | some rt => simp

theorem tellsAt_of_found {state : State} {dest : Addr} (found : entryAt state dest = some rt)
    (tells : rt.Tells ipSrc) : tellsAt ipSrc state dest = true := by
  rw [tellsAt, found]
  exact decide_eq_true tells

/-- After a round, the destination it was about is told no more, and the others as before. -/
theorem tellsAt_rerrVisit (sound : loop.1.rtTbl.Sound) (udest : Addr × Seqno) (dest : Addr) :
    tellsAt ipSrc (rerrVisit config false ipSrc loop udest).1 dest =
      (decide (dest ≠ udest.1) && tellsAt ipSrc loop.1 dest) := by
  by_cases here : dest = udest.1
  · rw [decide_eq_false (not_not_intro here), Bool.false_and, tellsAt_eq_false_iff,
      entryAt_rerrVisit sound]
    rintro rt found tells
    obtain ⟨old, -, rfl⟩ := Option.map_eq_some_iff.mp found
    split at tells
    · exact old.not_over_lostTo ipSrc udest.2 tells.1
    · rename_i other
      exact other ⟨here, tells.1⟩
  · rw [decide_eq_true here, Bool.true_and, tellsAt, tellsAt, entryAt_rerrVisit sound]
    simp only [here, false_and, if_false, Option.map_id']

/-- The told destinations are the first occurrences that have someone to be told. -/
theorem rerrTold_eq (pairs : List (Addr × Seqno)) (sound : loop.1.rtTbl.Sound) :
    rerrTold config ipSrc pairs loop =
      (firstOccurrences pairs).filter fun udest => tellsAt ipSrc loop.1 udest.1 := by
  induction pairs generalizing loop with
  | nil => rfl
  | cons udest pairs inductionHypothesis =>
    have later := inductionHypothesis ((errorRule_sound config).rerrVisit sound false ipSrc udest)
    simp only [tellsAt_rerrVisit sound] at later
    rw [rerrTold_cons, later, firstOccurrences, List.filter_cons, List.filter_filter]
    simp only [Bool.and_comm]
    obtain ⟨rt, found, tells, listed⟩ | ⟨quiet, listed⟩ := rerrLists_eq ipSrc sound udest
    · rw [listed, List.map_singleton, hitBy_pair found, if_pos (tellsAt_of_found found tells)]
      rfl
    · rw [listed, if_neg (Bool.eq_false_iff.mp ((tellsAt_eq_false_iff ..).mpr quiet))]
      rfl

theorem length_rerrTold_le (pairs : List (Addr × Seqno)) (sound : loop.1.rtTbl.Sound) :
    (rerrTold config ipSrc pairs loop).length ≤ pairs.length := by
  rw [rerrTold_eq pairs sound]
  exact (List.length_filter_le _ _).trans (firstOccurrences_sublist pairs).length_le

end

/-! ### Writes into the send buffer -/

/-- The writes of the body of the loop of `rerr_process`. -/
def rerrVisitWrites (config : Config) (noDelete : Bool) (ipSrc : Addr) (loop : State × RerrDraft)
    (udest : Addr × Seqno) : List BufWrite :=
  match rtTableFind loop.1 udest.1 with
  | none => []
  | some rt =>
    if rt.state = .valid ∧ rt.nextHop = ipSrc then
      let state := rerrInvalidate config noDelete rt.destAddr udest.2 loop.1
      match entryAt state rt.destAddr with
      | none => []
      | some rt =>
        if rt.nprec = 0 ∨ rt.flags.repair = true then [] else [rerrIncludeWrite loop.2 state]
    else []

/-- The loop together with the writes it has made. -/
def rerrTrace (config : Config) (noDelete : Bool) (ipSrc : Addr)
    (trace : (State × RerrDraft) × List BufWrite) (udest : Addr × Seqno) :
    (State × RerrDraft) × List BufWrite :=
  (rerrVisit config noDelete ipSrc trace.1 udest,
    trace.2 ++ rerrVisitWrites config noDelete ipSrc trace.1 udest)

/-- The writes of `rerr_process` into the send buffer. -/
def rerrProcessWrites (config : Config) (rerr : Rerr) (len : Nat) (ipSrc : Addr) (state : State) :
    List BufWrite :=
  if len < rerrCalcSize rerr.destCount then []
  else
    ((rerr.udest.take rerr.destCount).foldl (rerrTrace config rerr.noDelete ipSrc)
      ((state, .none), [])).2

section

variable {config : Config} {ipSrc : Addr} {before : State} {listed : List RtEntry}
  {loop : State × RerrDraft}

/-- A round writes what it lists. -/
theorem rerrVisitWrites_eq (config : Config) (forwards : Forwards false before listed loop)
    (udest : Addr × Seqno) :
    writesFor listed.length ++ rerrVisitWrites config false ipSrc loop udest =
      writesFor (listed ++ rerrLists false ipSrc loop.1 udest).length := by
  have unchanged : writesFor listed.length ++ [] = writesFor (listed ++ []).length := by
    rw [List.append_nil, List.append_nil]
  unfold rerrVisitWrites rerrLists
  rw [rtTableFind_eq_entryAt forwards.sound]
  cases found : entryAt loop.1 udest.1 with
  | none => exact unchanged
  | some rt =>
    dsimp only
    by_cases through : rt.state = .valid ∧ rt.nextHop = ipSrc
    · rw [← entryAt_destAddr found] at found
      have hit : entryAt (rerrInvalidate config false rt.destAddr udest.2 loop.1) rt.destAddr =
          some (rt.hitBy false udest.2) :=
        (entryAt_rerrInvalidate config false udest.2 found through.1 rt.destAddr).trans (if_pos rfl)
      have write := (forwards.hit config found through.1 udest.2).drafts.write
      rw [if_pos through, if_pos through, hit]
      dsimp only
      split
      · exact unchanged
      · rw [write, List.length_append, List.length_singleton, writesFor_succ]
    · rw [if_neg through, if_neg through]
      exact unchanged

/-- The loop has written what it has listed. -/
theorem rerrTrace_writes (config : Config) (ipSrc : Addr) (pairs : List (Addr × Seqno))
    (forwards : Forwards false before listed loop) :
    (pairs.foldl (rerrTrace config false ipSrc) (loop, writesFor listed.length)).2 =
      writesFor (listed ++ rerrListed config false ipSrc pairs loop).length := by
  induction pairs generalizing listed loop with
  | nil =>
    rw [rerrListed, List.append_nil]
    rfl
  | cons udest pairs inductionHypothesis =>
    have later := inductionHypothesis (forwards.visit config ipSrc udest)
    rw [← rerrVisitWrites_eq config forwards, List.append_assoc] at later
    rw [rerrListed]
    exact later

end

/-! ### Reads from the datagram -/

/-- The reads of the loop of `rerr_process`, with what they find: the pointer `udest` moves on
while `dest_count` is counted down. -/
def rerrReads (bytes : List (BitVec 8)) : Nat → Nat → List (Nat × Addr × Seqno)
  | 0, _ => []
  | count + 1, offset =>
    (offset, addrAt bytes offset, networkWordAt bytes (offset + 4)) ::
      rerrReads bytes count (offset + 8)

theorem rerrReads_eq (bytes : List (BitVec 8)) (count offset : Nat) :
    rerrReads bytes count offset = (List.range count).map fun index =>
      (offset + 8 * index, addrAt bytes (offset + 8 * index),
        networkWordAt bytes (offset + 4 + 8 * index)) := by
  induction count generalizing offset with
  | zero => rfl
  | succ count inductionHypothesis =>
    rw [rerrReads, inductionHypothesis, List.range_succ_eq_map, List.map_cons, List.map_map]
    refine congrArg₂ List.cons rfl (List.map_congr_left fun index _ => ?_)
    rw [Function.comp_apply, show offset + 8 + 8 * index = offset + 8 * (index + 1) by omega,
      show offset + 8 + 4 + 8 * index = offset + 4 + 8 * (index + 1) by omega]

/-- The reads find the destinations that the header counts. -/
theorem rerrReads_view (bytes : List (BitVec 8)) :
    (rerrReads bytes (rerrView bytes).destCount 4).map Prod.snd =
      (rerrView bytes).udest.take (rerrView bytes).destCount := by
  rw [rerrReads_eq, List.map_map, List.take_of_length_le]
  · rfl
  · exact (List.length_map _).trans_le (List.length_range).le

/-- A datagram that is as long as its header counts holds all that the loop reads. -/
theorem rerrReads_inside {bytes : List (BitVec 8)} {count len : Nat}
    (whole : rerrCalcSize count ≤ len) : ∀ read ∈ rerrReads bytes count 4, read.1 + 8 ≤ len := by
  intro read member
  rw [rerrReads_eq] at member
  obtain ⟨index, below, rfl⟩ := List.mem_map.mp member
  have counted := List.mem_range.mp below
  rw [rerrCalcSize] at whole
  dsimp only
  omega

/-! ### The whole datagram -/

/-- What `rerr_process` makes of a datagram that lists `pairs`. -/
structure RerrOutcome (config : Config) (rerr : Rerr) (len : Nat) (ipSrc : Addr)
    (pairs : List (Addr × Seqno)) (before : State) : Prop where
  lost : ∀ dest rt seqno, entryAt before dest = some rt → rt.Over ipSrc →
    pairs.lookup dest = some seqno → ∃ new,
      entryAt (rerrProcess config rerr len ipSrc before) dest = some new ∧
      new.state = .invalid ∧ new.destSeqno = seqno
  kept : ∀ dest, ¬(dest ∈ pairs.map Prod.fst ∧ ∃ rt, entryAt before dest = some rt ∧
      rt.Over ipSrc) →
    entryAt (rerrProcess config rerr len ipSrc before) dest = entryAt before dest
  sent : ∃ told sent,
    told = (firstOccurrences pairs).filter (fun udest => tellsAt ipSrc before udest.1) ∧
    (rerrProcess config rerr len ipSrc before).out = before.out ++ sent ∧
    (told = [] → sent = []) ∧ sent.length ≤ config.devs.length ∧
    ∀ datagram ∈ sent, datagram.msg = .rerr ⟨false, told.length, told⟩ ∧
      datagram.len = rerrCalcSize told.length ∧ datagram.len ≤ sendBufSize
  written : ∀ write ∈ rerrProcessWrites config rerr len ipSrc before,
    write.offset + write.size ≤ sendBufSize

theorem RtEntry.afterRerr_of_lookup {ipSrc : Addr} (through : rt.Over ipSrc)
    {pairs : List (Addr × Seqno)} {dest : Addr} {seqno : Seqno}
    (listed : pairs.lookup dest = some seqno) : rt.afterRerr ipSrc pairs dest = rt.lostTo seqno := by
  unfold RtEntry.afterRerr
  rw [listed]
  exact if_pos through

theorem RtEntry.afterRerr_of_not_mem (ipSrc : Addr) (rt : RtEntry) {pairs : List (Addr × Seqno)}
    {dest : Addr} (other : dest ∉ pairs.map Prod.fst) : rt.afterRerr ipSrc pairs dest = rt := by
  have unlisted : pairs.lookup dest = none := by
    rw [List.lookup_eq_none_iff]
    intro udest member
    exact bne_iff_ne.mpr fun same => other (List.mem_map.mpr ⟨udest, member, same.symm⟩)
  unfold RtEntry.afterRerr
  rw [unlisted]

section

variable {config : Config} {rerr : Rerr} {len : Nat} {ipSrc : Addr} {state : State}

/-- The loop on a datagram that passes the length check. -/
theorem rerrProcess_of_whole (config : Config) (ipSrc : Addr) (state : State)
    (clear : rerr.noDelete = false) (whole : rerrCalcSize rerr.destCount ≤ len) :
    rerrProcess config rerr len ipSrc state =
      rerrSend config ((rerr.udest.take rerr.destCount).foldl (rerrVisit config false ipSrc)
          (state, .none)).2
        ((rerr.udest.take rerr.destCount).foldl (rerrVisit config false ipSrc)
          (state, .none)).1 := by
  rw [rerrProcess, if_neg (Nat.not_lt.mpr whole), clear]

theorem entryAt_rerrProcess (config : Config) (ipSrc : Addr) (sound : state.rtTbl.Sound)
    (clear : rerr.noDelete = false) (whole : rerrCalcSize rerr.destCount ≤ len) (dest : Addr) :
    entryAt (rerrProcess config rerr len ipSrc state) dest =
      (entryAt state dest).map
        (RtEntry.afterRerr ipSrc (rerr.udest.take rerr.destCount) dest) := by
  rw [rerrProcess_of_whole config ipSrc state clear whole, (aside_rerrSend ..).entryAt,
    entryAt_rerrVisits config ipSrc _ sound]

/-- The RERR that is sent on. -/
theorem rerrProcess_sent (config : Config) (ipSrc : Addr) (sound : state.rtTbl.Sound)
    (clear : rerr.noDelete = false) (whole : rerrCalcSize rerr.destCount ≤ len)
    (few : rerr.destCount ≤ 101) :
    ∃ told sent,
      told = (firstOccurrences (rerr.udest.take rerr.destCount)).filter
        (fun udest => tellsAt ipSrc state udest.1) ∧
      (rerrProcess config rerr len ipSrc state).out = state.out ++ sent ∧
      (told = [] → sent = []) ∧ sent.length ≤ config.devs.length ∧
      ∀ datagram ∈ sent, datagram.msg = .rerr ⟨false, told.length, told⟩ ∧
        datagram.len = rerrCalcSize told.length ∧ datagram.len ≤ sendBufSize := by
  rw [rerrProcess_of_whole config ipSrc state clear whole]
  set pairs := rerr.udest.take rerr.destCount
  have drafts := ((forwards_none false sound).visits config ipSrc pairs).drafts
  rw [List.nil_append] at drafts
  set listed := rerrListed config false ipSrc pairs (state, .none)
  set loop := pairs.foldl (rerrVisit config false ipSrc) (state, .none)
  have told : listed.map (fun rt => (rt.destAddr, rt.destSeqno)) =
      (firstOccurrences pairs).filter fun udest => tellsAt ipSrc state udest.1 :=
    rerrTold_eq pairs sound
  have bound : listed.length ≤ 101 := by
    have counted : (rerrTold config ipSrc pairs (state, .none)).length ≤ pairs.length :=
      length_rerrTold_le pairs sound
    rw [rerrTold, List.length_map] at counted
    exact counted.trans ((List.length_take_le _ _).trans few)
  obtain ⟨sent, out, carried⟩ := drafts.emits (by omega) config
  obtain ⟨same, out', copies⟩ := drafts.hands config
  obtain rfl : sent = same := List.append_cancel_left (out.symm.trans out')
  refine ⟨_, sent, told, out, fun none => ?_, ?_, fun datagram member => ?_⟩
  · have uncreated : loop.2.created = false := by
      rw [drafts.created, List.map_eq_nil_iff.mp none]
      rfl
    rw [rerrSend, uncreated] at out
    exact List.append_right_eq_self.mp (out.symm.trans drafts.out)
  · have length := copies.length_le
    rwa [List.length_map, List.length_replicate] at length
  · have carries := carried datagram member
    rw [List.length_map, carries.message, carries.whole,
      rerrOf_of_length_le false (bound.trans (by decide))]
    refine ⟨rfl, rfl, ?_⟩
    have size : sendBufSize = 812 := rfl
    rw [rerrCalcSize]
    omega

theorem rerrProcess_written (config : Config) (len : Nat) (ipSrc : Addr)
    (sound : state.rtTbl.Sound) (clear : rerr.noDelete = false) (few : rerr.destCount ≤ 101) :
    ∀ write ∈ rerrProcessWrites config rerr len ipSrc state,
      write.offset + write.size ≤ sendBufSize := by
  unfold rerrProcessWrites
  split
  · exact fun _ member => absurd member List.not_mem_nil
  · have counted : (rerrTold config ipSrc (rerr.udest.take rerr.destCount)
        (state, .none)).length ≤ (rerr.udest.take rerr.destCount).length :=
      length_rerrTold_le _ sound
    have writes := rerrTrace_writes config ipSrc (rerr.udest.take rerr.destCount)
      (forwards_none false sound)
    rw [rerrTold, List.length_map] at counted
    rw [List.nil_append] at writes
    rw [clear]
    exact writes ▸ (writesFor_inside_iff _).mpr
      (counted.trans ((List.length_take_le _ _).trans few))

/-- A datagram that fits the receive buffer counts at most 101 destinations. -/
theorem destCount_le_of_whole {count : Nat} (fits : len ≤ recvBufSize)
    (whole : rerrCalcSize count ≤ len) : count ≤ 101 := by
  have size : recvBufSize = 812 := rfl
  rw [rerrCalcSize] at whole
  omega

theorem rerrOutcome (config : Config) (ipSrc : Addr) (sound : state.rtTbl.Sound)
    (clear : rerr.noDelete = false) (fits : len ≤ recvBufSize)
    (whole : rerrCalcSize rerr.destCount ≤ len) :
    RerrOutcome config rerr len ipSrc (rerr.udest.take rerr.destCount) state where
  lost := by
    intro dest rt seqno found through listed
    refine ⟨rt.lostTo seqno, ?_, rfl, rfl⟩
    rw [entryAt_rerrProcess config ipSrc sound clear whole, found, Option.map_some,
      RtEntry.afterRerr_of_lookup through listed]
  kept := by
    intro dest spared
    rw [entryAt_rerrProcess config ipSrc sound clear whole]
    cases found : entryAt state dest with
    | none => rfl
    | some rt =>
      rw [Option.map_some]
      by_cases listed : dest ∈ (rerr.udest.take rerr.destCount).map Prod.fst
      · rw [RtEntry.afterRerr_of_not_over fun through => spared ⟨listed, rt, found, through⟩]
      · rw [RtEntry.afterRerr_of_not_mem ipSrc rt listed]
  sent := rerrProcess_sent config ipSrc sound clear whole (destCount_le_of_whole fits whole)
  written := rerrProcess_written config len ipSrc sound clear (destCount_le_of_whole fits whole)

end

/-! ### The RERR in bytes -/

/-- The bytes that `htonl` makes of a number. -/
def networkBytes (word : BitVec 32) : List (BitVec 8) :=
  [word.extractLsb' 24 8, word.extractLsb' 16 8, word.extractLsb' 8 8, word.extractLsb' 0 8]

/-- A `RERR_udest`. -/
def udestBytes (udest : Addr × Seqno) : List (BitVec 8) :=
  addrBytes udest.1 ++ networkBytes udest.2

/-- Bytes written over those of a buffer, if they stay inside. -/
def writeBytes (offset : Nat) (new bytes : List (BitVec 8)) : Option (List (BitVec 8)) :=
  if offset + new.length ≤ bytes.length then
    some (bytes.take offset ++ new ++ bytes.drop (offset + new.length))
  else none

/-- `rerr_create` on the send buffer, which `aodv_socket_new_msg` has cleared. -/
def rerrCreateBytes (noDelete : Bool) (udest : Addr × Seqno) : Option (List (BitVec 8)) :=
  writeBytes 0 ([3#8, if noDelete then 0x80#8 else 0#8, 0#8, 1#8] ++ udestBytes udest)
    (List.replicate sendBufSize 0#8)

/-- `rerr_add_udest` on the send buffer. -/
def rerrAddUdestBytes (bytes : List (BitVec 8)) (udest : Addr × Seqno) :
    Option (List (BitVec 8)) :=
  (writeBytes (rerrCalcSize (byteAt bytes 3).toNat) (udestBytes udest) bytes).bind fun bytes =>
    writeBytes 3 [byteAt bytes 3 + 1#8] bytes

/-- A RERR assembled from a list of destinations. -/
def rerrEncode (noDelete : Bool) (first : Addr × Seqno) (rest : List (Addr × Seqno)) :
    Option (List (BitVec 8)) :=
  rest.foldl (fun bytes udest => bytes.bind fun bytes => rerrAddUdestBytes bytes udest)
    (rerrCreateBytes noDelete first)

/-- The first four bytes of a RERR. -/
def rerrHeader (noDelete : Bool) (count : Nat) : List (BitVec 8) :=
  [3#8, if noDelete then 0x80#8 else 0#8, 0#8, BitVec.ofNat 8 count]

/-- The send buffer with a RERR about a list of destinations. -/
def rerrBytes (noDelete : Bool) (pairs : List (Addr × Seqno)) : List (BitVec 8) :=
  rerrHeader noDelete pairs.length ++
    (pairs.flatMap udestBytes ++ List.replicate (808 - 8 * pairs.length) 0#8)

theorem networkWordAt_networkBytes (word : BitVec 32) :
    networkWordAt (networkBytes word) 0 = word := by
  simp only [networkWordAt, byteAt, networkBytes, List.getD_cons_zero, List.getD_cons_succ,
    Nat.reduceAdd]
  rw [BitVec.extractLsb'_append_extractLsb'_eq_extractLsb' (by rfl),
    BitVec.extractLsb'_append_extractLsb'_eq_extractLsb' (by rfl),
    BitVec.extractLsb'_append_extractLsb'_eq_extractLsb' (by rfl)]
  exact BitVec.extractLsb'_eq_self

theorem addrAt_udestBytes (udest : Addr × Seqno) (rest : List (BitVec 8)) :
    addrAt (udestBytes udest ++ rest) 0 = udest.1 :=
  addrAt_addrBytes_zero udest.1

theorem networkWordAt_udestBytes (udest : Addr × Seqno) (rest : List (BitVec 8)) :
    networkWordAt (udestBytes udest ++ rest) 4 = udest.2 :=
  networkWordAt_networkBytes udest.2

theorem length_udestBytes (udest : Addr × Seqno) : (udestBytes udest).length = 8 := rfl

theorem length_flatMap_udestBytes (pairs : List (Addr × Seqno)) :
    (pairs.flatMap udestBytes).length = 8 * pairs.length := by
  induction pairs with
  | nil => rfl
  | cons udest pairs inductionHypothesis =>
    rw [List.flatMap_cons, List.length_append, inductionHypothesis, List.length_cons,
      length_udestBytes]
    omega

theorem drop_flatMap_udestBytes (pairs : List (Addr × Seqno)) (index : Nat) :
    (pairs.flatMap udestBytes).drop (8 * index) = (pairs.drop index).flatMap udestBytes := by
  induction index generalizing pairs with
  | zero => rfl
  | succ index inductionHypothesis =>
    cases pairs with
    | nil => rw [List.drop_nil, List.flatMap_nil, List.drop_nil]
    | cons udest pairs =>
      rw [List.flatMap_cons, List.drop_succ_cons, ← inductionHypothesis, Nat.mul_succ,
        Nat.add_comm, ← List.drop_drop, List.drop_left' (length_udestBytes udest)]

theorem length_rerrBytes {pairs : List (Addr × Seqno)} (few : pairs.length ≤ 101) :
    (rerrBytes noDelete pairs).length = recvBufSize := by
  rw [rerrBytes, List.length_append, List.length_append, length_flatMap_udestBytes,
    List.length_replicate, show recvBufSize = 812 from rfl,
    show (rerrHeader noDelete pairs.length).length = 4 from rfl]
  omega

/-- New bytes in place of as many old ones. -/
theorem writeBytes_append (first last : List (BitVec 8)) {old new : List (BitVec 8)}
    (length : new.length = old.length) :
    writeBytes first.length new (first ++ (old ++ last)) = some (first ++ (new ++ last)) := by
  have fits : first.length + new.length ≤ (first ++ (old ++ last)).length := by
    rw [List.length_append, List.length_append, length]
    omega
  rw [writeBytes, if_pos fits, List.take_left, ← List.drop_drop, List.drop_left, length,
    List.drop_left, List.append_assoc]

theorem rerrCreateBytes_eq (udest : Addr × Seqno) :
    rerrCreateBytes noDelete udest = some (rerrBytes noDelete [udest]) := by
  have cleared : List.replicate sendBufSize 0#8 =
      [] ++ (List.replicate 12 0#8 ++ List.replicate 800 0#8) := by
    rw [List.nil_append, List.replicate_append_replicate]
    rfl
  have written := writeBytes_append [] (List.replicate 800 0#8)
    (show (rerrHeader noDelete 1 ++ udestBytes udest).length = (List.replicate 12 0#8).length
      from rfl)
  rw [rerrCreateBytes, cleared]
  refine written.trans (congrArg some ?_)
  rw [rerrBytes, List.flatMap_singleton, List.nil_append, List.append_assoc]
  rfl

/-- The place of the next destination is free. -/
theorem rerrBytes_eq {pairs : List (Addr × Seqno)} (few : pairs.length ≤ 100) :
    rerrBytes noDelete pairs =
      (rerrHeader noDelete pairs.length ++ pairs.flatMap udestBytes) ++
        (List.replicate 8 0#8 ++ List.replicate (808 - 8 * (pairs.length + 1)) 0#8) := by
  rw [rerrBytes, List.append_assoc, List.replicate_append_replicate,
    show 8 + (808 - 8 * (pairs.length + 1)) = 808 - 8 * pairs.length by omega]

theorem byteAt_rerrHeader_three (count : Nat) (rest : List (BitVec 8)) :
    byteAt (rerrHeader noDelete count ++ rest) 3 = BitVec.ofNat 8 count := rfl

theorem rerrCalcSize_rerrBytes {pairs : List (Addr × Seqno)} (few : pairs.length ≤ 100) :
    rerrCalcSize (byteAt (rerrBytes noDelete pairs) 3).toNat =
      (rerrHeader noDelete pairs.length ++ pairs.flatMap udestBytes).length := by
  rw [rerrBytes, byteAt_rerrHeader_three, BitVec.toNat_ofNat, Nat.mod_eq_of_lt (by omega),
    List.length_append, length_flatMap_udestBytes, rerrCalcSize,
    show (rerrHeader noDelete pairs.length).length = 4 from rfl]

theorem rerrAddUdestBytes_eq {pairs : List (Addr × Seqno)} (few : pairs.length ≤ 100)
    (udest : Addr × Seqno) :
    rerrAddUdestBytes (rerrBytes noDelete pairs) udest =
      some (rerrBytes noDelete (pairs ++ [udest])) := by
  have place := rerrCalcSize_rerrBytes noDelete few
  set free := List.replicate (808 - 8 * (pairs.length + 1)) 0#8 with rest
  have added := writeBytes_append
    (rerrHeader noDelete pairs.length ++ pairs.flatMap udestBytes) free
    (show (udestBytes udest).length = (List.replicate 8 0#8).length from rfl)
  rw [← place, rest, ← rerrBytes_eq noDelete few, ← rest, List.append_assoc] at added
  have counted := writeBytes_append [3#8, if noDelete then 0x80#8 else 0#8, 0#8]
    (pairs.flatMap udestBytes ++ (udestBytes udest ++ free))
    (show [BitVec.ofNat 8 pairs.length + 1#8].length = [BitVec.ofNat 8 pairs.length].length
      from rfl)
  rw [rerrAddUdestBytes, added, Option.bind_some, byteAt_rerrHeader_three]
  refine Eq.trans counted (congrArg some ?_)
  rw [rerrBytes, List.flatMap_append, List.flatMap_singleton, List.length_append,
    List.length_singleton, rerrHeader, BitVec.ofNat_add, List.append_assoc]
  rfl

/-- The bytes from a destination on. -/
theorem drop_rerrBytes {pairs : List (Addr × Seqno)} {index : Nat} (listed : index < pairs.length) :
    ∃ rest, (rerrBytes noDelete pairs).drop (4 + 8 * index) = udestBytes pairs[index] ++ rest := by
  have inside : 8 * index ≤ (pairs.flatMap udestBytes).length := by
    rw [length_flatMap_udestBytes]
    omega
  rw [rerrBytes, ← show (rerrHeader noDelete pairs.length).length = 4 from rfl, ← List.drop_drop,
    List.drop_left, List.drop_append_of_le_length inside, drop_flatMap_udestBytes,
    List.drop_eq_getElem_cons listed, List.flatMap_cons, List.append_assoc]
  exact ⟨_, rfl⟩

theorem rerrView_rerrBytes {pairs : List (Addr × Seqno)} (few : pairs.length ≤ 101) :
    rerrView (rerrBytes noDelete pairs) = ⟨noDelete, pairs.length, pairs⟩ := by
  have count : (byteAt (rerrBytes noDelete pairs) 3).toNat = pairs.length := by
    rw [rerrBytes, byteAt_rerrHeader_three, BitVec.toNat_ofNat, Nat.mod_eq_of_lt (by omega)]
  have flag : (byteAt (rerrBytes noDelete pairs) 1).getLsbD 7 = noDelete := by
    show (if noDelete = true then 0x80#8 else 0#8).getLsbD 7 = noDelete
    cases noDelete <;> rfl
  unfold rerrView
  rw [count, flag]
  congr 1
  refine List.ext_getElem ((List.length_map _).trans List.length_range) fun index _ listed => ?_
  obtain ⟨rest, here⟩ := drop_rerrBytes noDelete listed
  have addr := addrAt_drop (rerrBytes noDelete pairs) (4 + 8 * index) 0
  have seqno := networkWordAt_drop (rerrBytes noDelete pairs) (4 + 8 * index) 4
  rw [here, addrAt_udestBytes] at addr
  rw [here, networkWordAt_udestBytes] at seqno
  rw [List.getElem_map, List.getElem_range]
  refine Prod.ext addr.symm ?_
  rw [show 8 + 8 * index = 4 + 8 * index + 4 by omega]
  exact seqno.symm

/-- At most 101 destinations are assembled inside the send buffer. -/
theorem rerrEncode_eq (first : Addr × Seqno) {rest : List (Addr × Seqno)}
    (few : rest.length ≤ 100) :
    rerrEncode noDelete first rest = some (rerrBytes noDelete (first :: rest)) := by
  induction rest using List.reverseRecOn with
  | nil => rw [rerrEncode, List.foldl_nil, rerrCreateBytes_eq]
  | append_singleton rest udest inductionHypothesis =>
    rw [List.length_append, List.length_singleton] at few
    have before := inductionHypothesis (by omega)
    rw [rerrEncode] at before
    rw [rerrEncode, List.foldl_append, before]
    exact rerrAddUdestBytes_eq noDelete (show (first :: rest).length ≤ 100 from few) udest

/-- A node that receives such a RERR reads the destinations that were put in. -/
theorem rerrView_of_encoded {noDelete : Bool} {pairs : List (Addr × Seqno)}
    (few : pairs.length ≤ 101) {buffer : RecvBuf}
    (received : buffer.bytes.take (rerrCalcSize pairs.length) =
      (rerrBytes noDelete pairs).take (rerrCalcSize pairs.length)) :
    rerrView buffer.bytes = ⟨noDelete, pairs.length, pairs⟩ := by
  have view := rerrView_rerrBytes noDelete few
  have agrees : RecvBuf.Agrees (rerrCalcSize pairs.length)
      ⟨rerrBytes noDelete pairs, length_rerrBytes noDelete few⟩ buffer := received.symm
  rw [agrees.rerrView, view]
  exact (congrArg (fun rerr => rerrCalcSize rerr.destCount) view).le

/-! ### Received RERRs -/

/-- For a table and a RERR without the `N` flag that passes the length check: the listed routes
over the sender become invalid with the number of their first occurrence, all other entries stay,
the first occurrences with precursors and not under repair are told in one RERR that fits the send
buffer, and the destinations are read from the datagram. A RERR assembled from at most 101
destinations is read as these. -/
theorem rerrProcess_outcome :
    (∀ (config : Config) (state : State) (buffer : RecvBuf) (len : Nat) (ipSrc : Addr),
      state.rtTbl.Sound → (rerrView buffer.bytes).noDelete = false → len ≤ recvBufSize →
      rerrCalcSize (rerrView buffer.bytes).destCount ≤ len →
        RerrOutcome config (rerrView buffer.bytes) len ipSrc
          ((rerrReads buffer.bytes (rerrView buffer.bytes).destCount 4).map Prod.snd) state ∧
        ∀ read ∈ rerrReads buffer.bytes (rerrView buffer.bytes).destCount 4, read.1 + 8 ≤ len) ∧
    ∀ (noDelete : Bool) (first : Addr × Seqno) (rest : List (Addr × Seqno)), rest.length ≤ 100 →
      ∃ bytes, rerrEncode noDelete first rest = some bytes ∧
        ∀ buffer : RecvBuf,
          buffer.bytes.take (rerrCalcSize (first :: rest).length) =
            bytes.take (rerrCalcSize (first :: rest).length) →
          (rerrView buffer.bytes).noDelete = noDelete ∧
            (rerrReads buffer.bytes (rerrView buffer.bytes).destCount 4).map Prod.snd =
              first :: rest := by
  refine ⟨?_, ?_⟩
  · intro config state buffer len ipSrc sound clear fits whole
    refine ⟨?_, rerrReads_inside whole⟩
    rw [rerrReads_view]
    exact rerrOutcome config ipSrc sound clear fits whole
  · intro noDelete first rest few
    refine ⟨_, rerrEncode_eq noDelete first few, fun buffer received => ?_⟩
    have view := rerrView_of_encoded
      (show (first :: rest).length ≤ 101 from Nat.succ_le_succ few) received
    rw [rerrReads_view, view]
    exact ⟨rfl, List.take_length⟩

/-- Neighbour 3 reports node 9 twice, with different numbers. -/
def reportedTwice : RecvBuf :=
  ⟨rerrBytes false [(9#32, 7#32), (9#32, 8#32)], length_rerrBytes false (by decide)⟩

/-- The route to node 9 is lost with the first number, which node 2 is told. -/
theorem rerrProcess_outcome_reportedTwice :
    (entryAt (rerrProcess repairRelay (rerrView reportedTwice.bytes) 20 3#32
        (run repairRelay timevalZero 0 relaying)) 9#32).map (fun rt => (rt.state, rt.destSeqno)) =
        some (.invalid, 7#32) ∧
      (rerrProcess repairRelay (rerrView reportedTwice.bytes) 20 3#32
        (run repairRelay timevalZero 0 relaying)).out =
        (run repairRelay timevalZero 0 relaying).out ++
          [⟨1#32, 2#32, 1, 12, .rerr ⟨false, 1, [(9#32, 7#32)]⟩⟩] ∧
      RerrOutcome repairRelay (rerrView reportedTwice.bytes) 20 3#32
        ((rerrReads reportedTwice.bytes (rerrView reportedTwice.bytes).destCount 4).map Prod.snd)
        (run repairRelay timevalZero 0 relaying) :=
  ⟨by decide +kernel, by decide +kernel,
    (rerrProcess_outcome.1 repairRelay _ reportedTwice 20 3#32
      (atRest_run repairRelay timevalZero 0 relaying).sound (by decide) (by decide)
      (by decide)).1⟩

end Aodvd
