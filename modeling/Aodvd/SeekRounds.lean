/-
This file counts the rounds of a route discovery.

An entry of the seek list leaves the list at two places: when its destination becomes valid, and
when `route_discovery_timeout` gives it up. Each time its timer fires before that, the radius grows
by the increment while it is below the threshold, and is the network diameter for each retry after
that; without expanding ring search every firing is a retry. So the number of firings is known when
the entry is made.
-/

import Aodvd.Numbers
import Aodvd.Seeks

namespace Aodvd

/-! ### Rounds -/

/-- How often the radius grows until it reaches the threshold. -/
def ringRounds (ttl : Nat) : Nat := (ttlThreshold - ttl + (ttlIncrement - 1)) / ttlIncrement

/-- How often the timer of a discovery fires, from its first radius on. -/
def seekRounds (config : Config) (ttl : Nat) : Nat :=
  (if config.expandingRingSearch then ringRounds ttl else 0) + rreqRetries + 1

section

variable {config : Config} {entry : SeekEntry}

theorem iterate_seekRetry_expanding (expanding : config.expandingRingSearch = true)
    (fresh : entry.reqs = 0) (count : Nat) :
    ((seekRetry config)^[count] entry).reqs = count - ringRounds entry.ttl ∧
      ((seekRetry config)^[count] entry).ttl =
        if count ≤ ringRounds entry.ttl then entry.ttl + ttlIncrement * count else netDiameter := by
  have threshold : ttlThreshold = 7 := rfl
  have increment : ttlIncrement = 2 := rfl
  have rings : ringRounds entry.ttl = (7 - entry.ttl + 1) / 2 := rfl
  rw [increment]
  induction count with
  | zero => exact ⟨by simpa using fresh, by simp⟩
  | succ count inductionHypothesis =>
    obtain ⟨reqs, ttl⟩ := inductionHypothesis
    rw [Function.iterate_succ_apply', seekRetry, if_pos expanding, threshold, increment]
    by_cases growing : count + 1 ≤ ringRounds entry.ttl
    · rw [if_pos (by omega)] at ttl
      rw [if_pos (by omega)]
      dsimp only
      rw [if_pos growing]
      omega
    · have far : ¬((seekRetry config)^[count] entry).ttl < 7 := by
        rw [ttl]
        split
        · omega
        · decide
      rw [if_neg far]
      dsimp only
      rw [if_neg growing]
      omega

theorem iterate_seekRetry_flat (flat : config.expandingRingSearch = false) (entry : SeekEntry)
    (count : Nat) :
    ((seekRetry config)^[count] entry).reqs = entry.reqs + count ∧
      ((seekRetry config)^[count] entry).ttl = entry.ttl := by
  induction count with
  | zero => exact ⟨rfl, rfl⟩
  | succ count inductionHypothesis =>
    rw [Function.iterate_succ_apply', seekRetry, flat, if_neg Bool.false_ne_true]
    exact ⟨congrArg (· + 1) inductionHypothesis.1, inductionHypothesis.2⟩

/-- A discovery is tried again until its last round. -/
theorem reqs_lt_iff (fresh : entry.reqs = 0) (count : Nat) :
    ((seekRetry config)^[count] entry).reqs < rreqRetries ↔
      count + 1 < seekRounds config entry.ttl := by
  have retries : rreqRetries = 2 := rfl
  unfold seekRounds
  cases expanding : config.expandingRingSearch with
  | true =>
    rw [(iterate_seekRetry_expanding expanding fresh count).1, if_pos rfl]
    omega
  | false =>
    rw [(iterate_seekRetry_flat expanding entry count).1, fresh, if_neg Bool.false_ne_true]
    omega

end

/-! ### Expired timers -/

section

variable {config : Config} {state : State} {dest : Addr}

theorem seekListFind_setSeekEntry {change : SeekEntry → SeekEntry}
    (keepsDest : ∀ entry, (change entry).destAddr = entry.destAddr) (written dest : Addr)
    (state : State) :
    seekListFind (setSeekEntry written change state) dest =
      if dest = written then (seekListFind state dest).map change else seekListFind state dest := by
  show (state.seekhead.map fun entry =>
      if entry.destAddr = written then change entry else entry).find?
        (fun entry => decide (entry.destAddr = dest)) = _
  have address (entry : SeekEntry) : (if entry.destAddr = written then change entry
      else entry).destAddr = entry.destAddr := by
    split
    · exact keepsDest entry
    · rfl
  rw [List.find?_map]
  simp only [Function.comp_def, address]
  show (seekListFind state dest).map _ = _
  cases found : seekListFind state dest with
  | none => split <;> rfl
  | some entry =>
    have here := (seekListFind_some found).2
    subst here
    split
    · rename_i same
      exact congrArg some (if_pos same)
    · rename_i different
      exact congrArg some (if_neg different)

theorem seekhead_localRepairTimeout (config : Config) (dest : Addr) (state : State) :
    (localRepairTimeout config dest state).seekhead = state.seekhead :=
  ((tableRule_routesOnly config state).localRepairTimeout (.refl _) (.inr trivial)).seekhead

theorem seekhead_rreqBlacklistInsert (dest : Addr) (state : State) :
    (rreqBlacklistInsert dest state).seekhead = state.seekhead := by
  unfold rreqBlacklistInsert
  split
  · rfl
  · rfl

/-- Only `route_discovery_timeout` touches the discoveries. -/
theorem RunsHandler.seekhead {id : TimerId} {handler : Handler} {final : State}
    (runs : RunsHandler config state id handler final) (other : handler ≠ .routeDiscoveryTimeout) :
    final.seekhead = state.seekhead := by
  cases runs with
  | expire dest =>
    exact ((tableRule_routesOnly config state).breakActs (.refl _)
      (routeExpireTimeout_breaks ..)).seekhead
  | delete dest => exact ((tableRule_routesOnly config state).rtTableDelete (.refl _) dest).seekhead
  | repair dest => exact seekhead_localRepairTimeout ..
  | blacklist dest => exact seekhead_rreqBlacklistInsert ..
  | hello dest => exact ((tableRule_routesOnly config state).helloTimeout (.refl _) dest).seekhead
  | discovery dest => exact absurd rfl other
  | greet => exact (helloSend_frame ..).2.1
  | _ => rfl

/-- One more round: the entry is changed, its timer armed again, and one RREQ is flooded. -/
structure Retries (config : Config) (entry : SeekEntry) (state after : State) : Prop where
  next : seekListFind after entry.destAddr = some (seekRetry config entry)
  floods : ∃ prepared, prepared.out = state.out ∧ prepared.rreqId = state.rreqId ∧
    after = rreqSend config entry.destAddr entry.destSeqno (seekRetry config entry).ttl entry.flags
      prepared

/-- The discovery is given up: its entry is removed, and every packet that is buffered for its
destination is dropped. -/
structure GivesUp (dest : Addr) (state after : State) : Prop where
  removed : seekListFind after dest = none
  flushed : after.pq.head = state.pq.head.filter fun qp => decide (qp.destAddr ≠ dest)
  dropped : ∃ cause, after.history = state.history ++
    (state.pq.head.filter fun qp => decide (qp.destAddr = dest)).map fun qp =>
      .verdict qp.packetId .drop cause

theorem seekListFind_discoveryRetry (config : Config) (entry : SeekEntry) (state : State)
    (dest : Addr) :
    seekListFind (discoveryRetry config entry state) dest =
      if dest = entry.destAddr then (seekListFind state dest).map (seekRetry config)
      else seekListFind state dest := by
  rw [← seekListFind_setSeekEntry (seekRetry_destAddr config)]
  unfold discoveryRetry
  dsimp only
  rw [seekListFind_of_seekhead (rreqSend_acts config (show Event.timers.Local from trivial) state
    ..).2.seekhead]
  refine seekListFind_of_seekhead ?_ dest
  split
  · rfl
  · exact (keepForDiscovery_acts ..).silent.seekhead

theorem discoveryRetry_retries {entry : SeekEntry}
    (found : seekListFind state dest = some entry) :
    Retries config entry state (discoveryRetry config entry state) where
  next := by
    have here := (seekListFind_some found).2
    rw [seekListFind_discoveryRetry, if_pos rfl, here, found, Option.map_some]
  floods := by
    refine ⟨_, ?_, ?_, rfl⟩
    · split
      · rfl
      · exact (keepForDiscovery_acts ..).silent.out
    · split
      · rfl
      · exact (keepForDiscovery_acts ..).silent.rreqId

theorem discoveryGiveUp_frame (config : Config) (entry : SeekEntry) (state : State) :
    RoutesOnly (seekListRemove entry.destAddr (packetQueueDrop entry.destAddr state))
      (discoveryGiveUp config entry state) := by
  unfold discoveryGiveUp
  dsimp only
  split
  · exact .refl _
  · rename_i rt _
    split
    · exact (tableRule_routesOnly config _).localRepairTimeout (.refl _) (.inr trivial)
    · exact .refl _

theorem seekListFind_eq_none_iff : seekListFind state dest = none ↔ ¬ Sought state dest := by
  refine ⟨not_sought_of_find, fun unsought => List.find?_eq_none.mpr fun entry member same => ?_⟩
  exact unsought ⟨entry, member, of_decide_eq_true same⟩

theorem discoveryGiveUp_givesUp (config : Config) (entry : SeekEntry)
    (distinct : (state.seekhead.map SeekEntry.destAddr).Nodup) :
    GivesUp entry.destAddr state (discoveryGiveUp config entry state) where
  removed := by
    rw [seekListFind_of_seekhead (discoveryGiveUp_frame config entry state).seekhead,
      seekListFind_eq_none_iff]
    exact not_sought_seekListRemove distinct entry.destAddr
  flushed := by
    rw [(discoveryGiveUp_frame config entry state).pq]
    show state.pq.head.filter (fun qp => !decide (qp.destAddr = entry.destAddr)) = _
    simp only [decide_not]
  dropped := by
    refine ⟨.released entry.destAddr state.rtTbl state.kernel, ?_⟩
    rw [(discoveryGiveUp_frame config entry state).history]
    rfl

/-- A discovery goes on when the timer of another one fires. -/
theorem seekListFind_routeDiscoveryTimeout {sought : Addr} (different : dest ≠ sought)
    (config : Config) (state : State) :
    seekListFind (routeDiscoveryTimeout config sought state) dest = seekListFind state dest := by
  unfold routeDiscoveryTimeout
  split
  · rfl
  · rename_i entry found
    have elsewhere : dest ≠ entry.destAddr := (seekListFind_some found).2 ▸ different
    split
    · rw [seekListFind_discoveryRetry, if_neg elsewhere]
    · rw [seekListFind_of_seekhead (discoveryGiveUp_frame config entry state).seekhead]
      exact seekListFind_seekListRemove elsewhere _

theorem seekListFind_runTimer {id : TimerId} (other : id ≠ .seekTimer dest) (config : Config)
    (rest : List TimerId) (state : State) :
    seekListFind (runTimer config id rest state) dest = seekListFind state dest := by
  rw [runTimer_eq]
  split
  · rfl
  · rename_i handler _
    by_cases seeks : handler = .routeDiscoveryTimeout
    · subst seeks
      cases id with
      | seekTimer sought =>
        exact seekListFind_routeDiscoveryTimeout (fun same => other (congrArg _ same.symm)) config _
      | _ => rfl
    · exact seekListFind_of_seekhead ((runHandler_runs config id handler _).seekhead seeks) dest

/-- No timer starts a discovery. -/
theorem seekListFind_runTimer_of_none (unsought : seekListFind state dest = none) (config : Config)
    (id : TimerId) (rest : List TimerId) :
    seekListFind (runTimer config id rest state) dest = none := by
  by_cases here : id = .seekTimer dest
  · subst here
    have popped : seekListFind (popTimer (.seekTimer dest) rest state) dest = none := unsought
    rw [runTimer_eq]
    split
    · exact popped
    · rename_i handler _
      by_cases seeks : handler = .routeDiscoveryTimeout
      · subst seeks
        show seekListFind (routeDiscoveryTimeout config dest _) dest = none
        unfold routeDiscoveryTimeout
        rw [popped]
        exact popped
      · have runs := runHandler_runs config (.seekTimer dest) handler
          (popTimer (.seekTimer dest) rest state)
        exact (seekListFind_of_seekhead (runs.seekhead seeks) dest).trans popped
  · exact (seekListFind_runTimer here config rest state).trans unsought

/-- The timer of a discovery runs `route_discovery_timeout` on its entry. -/
theorem runTimer_seekTimer {entry : SeekEntry} (clocked : Clocked state)
    (found : seekListFind state dest = some entry) (config : Config) (rest : List TimerId) :
    runTimer config (.seekTimer dest) rest state =
      if entry.reqs < rreqRetries then
        discoveryRetry config entry (popTimer (.seekTimer dest) rest state)
      else discoveryGiveUp config entry (popTimer (.seekTimer dest) rest state) := by
  have there : seekListFind (popTimer (.seekTimer dest) rest state) dest = some entry := found
  rw [runTimer_eq, (clocked.armed dest ⟨entry, seekListFind_some found⟩).2]
  show routeDiscoveryTimeout config dest (popTimer (.seekTimer dest) rest state) = _
  unfold routeDiscoveryTimeout
  rw [there]

theorem runTimer_retries (config : Config) {entry : SeekEntry} (clocked : Clocked state)
    (found : seekListFind state dest = some entry) (rest : List TimerId)
    (more : entry.reqs < rreqRetries) :
    Retries config entry state (runTimer config (.seekTimer dest) rest state) := by
  have there : seekListFind (popTimer (.seekTimer dest) rest state) dest = some entry := found
  rw [runTimer_seekTimer clocked found, if_pos more]
  exact ⟨(discoveryRetry_retries there).next, (discoveryRetry_retries there).floods⟩

theorem runTimer_givesUp (config : Config) {entry : SeekEntry} (clocked : Clocked state)
    (found : seekListFind state dest = some entry) (rest : List TimerId)
    (last : ¬ entry.reqs < rreqRetries) :
    GivesUp dest state (runTimer config (.seekTimer dest) rest state) := by
  rw [runTimer_seekTimer clocked found, if_neg last]
  obtain rfl := (seekListFind_some found).2
  have popped : GivesUp entry.destAddr (popTimer (.seekTimer entry.destAddr) rest state)
      (discoveryGiveUp config entry (popTimer (.seekTimer entry.destAddr) rest state)) :=
    discoveryGiveUp_givesUp config entry clocked.distinct
  exact ⟨popped.removed, popped.flushed, popped.dropped⟩

end

/-! ### Moves -/

/-- The move fires the timer of the discovery for a destination. -/
def firesSeek (dest : Addr) (state : State) : Move → Bool
  | .fire => decide (state.timers.expTq.head? = some (.seekTimer dest))
  | _ => false

/-- The destinations that a move makes valid. -/
def moveServed (config : Config) (state : State) : Move → List Addr
  | .handle ⟨now, jitter, .message received⟩ =>
    messageServed config received (arrive ⟨now, jitter, .message received⟩ state)
  | _ => []

/-- How often the timer of the discovery for a destination fires in a course of moves. -/
def firings (config : Config) (dest : Addr) (state : State) (moves : List Move) : Nat :=
  (Runs.trace (makeMove config)
    (fun state move => if firesSeek dest state move then [move] else []) state moves).length

theorem firings_concat (config : Config) (dest : Addr) (state : State) (moves : List Move)
    (last : Move) :
    firings config dest state (moves ++ [last]) = firings config dest state moves +
      if firesSeek dest (moves.foldl (makeMove config) state) last then 1 else 0 := by
  rw [firings, Runs.trace_concat, List.length_append]
  congr 1
  split
  · rfl
  · rfl

section

variable {config : Config} {state : State} {dest : Addr} {entry : SeekEntry}

/-- An event other than the timers' ends at most the discoveries that it serves and creates no RREQ,
or it is a packet that starts the discovery of its destination. -/
theorem makeMove_handle (poised : Poised config state) {input : Input}
    (allowed : (Move.handle input).Allowed state) :
    SeekStep (moveServed config state (.handle input)) state
          (makeMove config state (.handle input)) ∧
        (makeMove config state (.handle input)).rreqId = state.rreqId ∨
      ∃ packet ip entry, input.event = .packet packet ∧ packet.payload = some ip ∧
        SeekStart config ip (arrive input state) entry (makeMove config state (.handle input)) := by
  have regular := poised.toRegular.arrive input
  obtain ⟨now, jitter, event⟩ := input
  cases event with
  | timers => exact absurd rfl allowed.1
  | message received =>
    have told : Utters config (Numbering received.msg.Numbered False) _ _ :=
      utters_aodvSocketRead regular
    exact .inl ⟨(seekStep_aodvSocketRead regular received).preceded rfl, told.rreqId not_false⟩
  | packet packet =>
    rcases nfqueuePacketCb_seeks config packet regular.sound with same | ⟨ip, entry, payload, start⟩
    · exact .inl ⟨.of_seekhead same.seekhead, same.rreqId⟩
    · exact .inr ⟨packet, ip, entry, rfl, payload, start⟩
  | txDrop ip =>
    refine .inl ?_
    rw [makeMove, step, handleEvent]
    split
    · exact ⟨.of_seekhead rfl, rfl⟩
    · rename_i rt _
      have told : Utters config (Numbering True False) (arrive ⟨now, jitter, .txDrop ip⟩ state)
          (neighborLinkBreak config rt.destAddr _) := (utters_neighborLinkBreak ..).numbering
      exact ⟨.of_seekhead (routesOnly_neighborLinkBreak ..).seekhead, told.rreqId not_false⟩

/-- Only a packet starts a discovery. -/
theorem makeMove_starts (poised : Poised config state) {move : Move} (allowed : move.Allowed state)
    (unsought : seekListFind state dest = none)
    (made : seekListFind (makeMove config state move) dest = some entry) :
    ∃ input packet ip, move = .handle input ∧ input.event = .packet packet ∧
      packet.payload = some ip ∧ ip.daddr = dest ∧
      SeekStart config ip (arrive input state) entry (makeMove config state move) := by
  have nothing (still : seekListFind (makeMove config state move) dest = none) : False :=
    Option.some_ne_none _ (made.symm.trans still)
  cases move with
  | collect input => exact (nothing unsought).elim
  | fire =>
    refine (nothing ?_).elim
    rw [makeMove]
    split
    · exact unsought
    · exact seekListFind_runTimer_of_none unsought ..
  | handle input =>
    rcases makeMove_handle poised allowed with
      ⟨ends, _⟩ | ⟨packet, ip, started, isPacket, payload, start⟩
    · exact (nothing (ends.fresh dest unsought)).elim
    · have found := start.seekListFind dest
      by_cases here : dest = ip.daddr
      · rw [if_pos here, made] at found
        obtain rfl := Option.some.inj found
        exact ⟨input, packet, ip, rfl, isPacket, payload, here.symm, start⟩
      · rw [if_neg here] at found
        exact (nothing (found.trans unsought)).elim

/-- What a move does to a discovery whose destination it does not make valid: it is left alone, or
its timer fires. -/
theorem seekListFind_makeMove (poised : Poised config state) {move : Move}
    (allowed : move.Allowed state) (unserved : dest ∉ moveServed config state move)
    (found : seekListFind state dest = some entry) (idle : firesSeek dest state move = false) :
    seekListFind (makeMove config state move) dest = some entry := by
  cases move with
  | collect input => exact found
  | fire =>
    rw [makeMove]
    split
    · exact found
    · rename_i id rest batch
      have other : id ≠ .seekTimer dest := by
        rintro rfl
        refine absurd idle ?_
        rw [firesSeek, batch]
        simp
      exact (seekListFind_runTimer other config rest state).trans found
  | handle input =>
    rcases makeMove_handle poised allowed with ⟨ends, _⟩ | ⟨_, ip, _, _, _, start⟩
    · exact (ends.kept dest unserved).trans found
    · have elsewhere : dest ≠ ip.daddr := by
        rintro rfl
        exact Option.some_ne_none _ (found.symm.trans start.unsought)
      exact (start.seekListFind dest).trans ((if_neg elsewhere).trans found)

theorem makeMove_of_firesSeek (config : Config) {move : Move}
    (fires : firesSeek dest state move = true) :
    ∃ rest, makeMove config state move = runTimer config (.seekTimer dest) rest state := by
  cases move with
  | fire =>
    obtain ⟨rest, batch⟩ := List.head?_eq_some_iff.mp (of_decide_eq_true fires)
    refine ⟨rest, ?_⟩
    rw [makeMove, batch]
  | collect input => exact absurd fires Bool.false_ne_true
  | handle input => exact absurd fires Bool.false_ne_true

/-- While fewer firings have passed than the discovery has rounds, its entry is the one of that
round. -/
theorem seekListFind_rounds (fresh : entry.reqs = 0) (poised : Poised config state)
    (found : seekListFind state dest = some entry) {moves : List Move}
    (allowed : Runs.Meets (makeMove config) (fun state move => move.Allowed state) state moves)
    (unserved : Runs.Meets (makeMove config)
      (fun state move => dest ∉ moveServed config state move) state moves)
    (few : firings config dest state moves < seekRounds config entry.ttl) :
    seekListFind (moves.foldl (makeMove config) state) dest =
      some ((seekRetry config)^[firings config dest state moves] entry) := by
  induction moves using List.reverseRecOn with
  | nil => exact found
  | append_singleton moves last inductionHypothesis =>
    obtain ⟨allowed, lastAllowed⟩ := Runs.meets_concat.mp allowed
    obtain ⟨unserved, lastUnserved⟩ := Runs.meets_concat.mp unserved
    rw [firings_concat] at few ⊢
    have earlier := inductionHypothesis allowed unserved (by omega)
    have reached : Poised config (moves.foldl (makeMove config) state) :=
      Runs.invariant (Poised config) (fun _ _ poised allowed => poised.makeMove allowed) poised
        allowed
    rw [List.foldl_append]
    show seekListFind (makeMove config (moves.foldl (makeMove config) state) last) dest = _
    cases fires : firesSeek dest (moves.foldl (makeMove config) state) last with
    | false => exact seekListFind_makeMove reached lastAllowed lastUnserved earlier fires
    | true =>
      rw [fires, if_pos rfl] at few
      obtain ⟨rest, runs⟩ := makeMove_of_firesSeek config fires
      have retried := runTimer_retries config reached.clocked earlier rest
        ((reqs_lt_iff fresh _).mpr few)
      rw [runs, if_pos rfl, Function.iterate_succ_apply', ← retried.next,
        (seekListFind_some earlier).2]

end

/-! ### The end of a discovery -/

/-- A discovery after some firings of its timer: its entry is the one of that round, and its timer
is armed. The next firing sends one RREQ and arms the timer again, or gives the discovery up when
it is the last; the last retries of an expanding ring search span the network. -/
structure Seeking (config : Config) (entry : SeekEntry) (fired : Nat) (state : State) : Prop where
  found : seekListFind state entry.destAddr = some ((seekRetry config)^[fired] entry)
  armed : timerUsed state (.seekTimer entry.destAddr) = true
  again : ∀ move, firesSeek entry.destAddr state move = true →
    fired + 1 < seekRounds config entry.ttl →
      Retries config ((seekRetry config)^[fired] entry) state (makeMove config state move) ∧
        timerUsed (makeMove config state move) (.seekTimer entry.destAddr) = true
  widest : config.expandingRingSearch = true → fired + 1 < seekRounds config entry.ttl →
    seekRounds config entry.ttl ≤ fired + 1 + rreqRetries →
      (seekRetry config ((seekRetry config)^[fired] entry)).ttl = netDiameter
  last : ∀ move, firesSeek entry.destAddr state move = true →
    fired + 1 = seekRounds config entry.ttl →
      GivesUp entry.destAddr state (makeMove config state move)

section

variable {config : Config} {state : State} {entry : SeekEntry}

theorem ttl_seekRetry_of_widest (expanding : config.expandingRingSearch = true)
    (fresh : entry.reqs = 0) {fired : Nat}
    (late : seekRounds config entry.ttl ≤ fired + 1 + rreqRetries) :
    (seekRetry config ((seekRetry config)^[fired] entry)).ttl = netDiameter := by
  have ttl := (iterate_seekRetry_expanding expanding fresh (fired + 1)).2
  rw [Function.iterate_succ_apply'] at ttl
  rw [ttl, if_neg]
  rw [seekRounds, if_pos expanding] at late
  omega

theorem seeking_of_found (fresh : entry.reqs = 0) (poised : Poised config state) {fired : Nat}
    (found : seekListFind state entry.destAddr = some ((seekRetry config)^[fired] entry)) :
    Seeking config entry fired state where
  found := found
  armed := (poised.clocked.armed _ ⟨_, seekListFind_some found⟩).1
  again := by
    intro move fires more
    obtain ⟨rest, runs⟩ := makeMove_of_firesSeek config fires
    have retried := runTimer_retries config poised.clocked found rest
      ((reqs_lt_iff fresh fired).mpr more)
    rw [← runs] at retried
    have allowed : move.Allowed state := by
      cases move with
      | fire =>
        intro idle
        rw [firesSeek, idle] at fires
        exact nomatch fires
      | collect input => exact nomatch fires
      | handle input => exact nomatch fires
    have next := retried.next
    rw [(seekListFind_some found).2] at next
    exact ⟨retried, ((poised.makeMove allowed).clocked.armed _ ⟨_, seekListFind_some next⟩).1⟩
  widest expanding _ late := ttl_seekRetry_of_widest expanding fresh late
  last := by
    intro move fires last
    obtain ⟨rest, runs⟩ := makeMove_of_firesSeek config fires
    rw [runs]
    refine runTimer_givesUp config poised.clocked found rest fun more => ?_
    have := (reqs_lt_iff fresh fired).mp more
    omega

end

theorem course_append (config : Config) (now : Timeval) (jitter : Int) (early late : List Move) :
    course config now jitter (early ++ late) =
      late.foldl (makeMove config) (course config now jitter early) := List.foldl_append ..

/-- A route discovery ends: from the move on that makes an entry of the seek list, as long as its
destination is not made valid, the timer of the discovery fires a number of times that its first
radius decides. Every firing but the last sends one RREQ and arms the timer again, and the last
removes the entry and drops the packets that are buffered for the destination. -/
theorem discovery_ends (config : Config) (now : Timeval) (jitter : Int) (earlier : List Move)
    (creation : Move) (later : List Move) (dest : Addr) (entry : SeekEntry)
    (orderly : Orderly config now jitter (earlier ++ [creation] ++ later))
    (unsought : seekListFind (course config now jitter earlier) dest = none)
    (created : seekListFind (course config now jitter (earlier ++ [creation])) dest = some entry)
    (unserved : Runs.Meets (makeMove config)
      (fun state move => dest ∉ moveServed config state move)
      (course config now jitter (earlier ++ [creation])) later)
    (few : firings config dest (course config now jitter (earlier ++ [creation])) later <
      seekRounds config entry.ttl) :
    entry.destAddr = dest ∧ Seeking config entry
      (firings config dest (course config now jitter (earlier ++ [creation])) later)
      (course config now jitter (earlier ++ [creation] ++ later)) := by
  obtain ⟨creationOrderly, laterAllowed⟩ := Runs.meets_append.mp orderly
  obtain ⟨earlierOrderly, creationAllowed⟩ := Runs.meets_concat.mp creationOrderly
  have whole : course config now jitter (earlier ++ [creation]) =
      makeMove config (course config now jitter earlier) creation := course_append ..
  have here := (seekListFind_some created).2
  obtain ⟨_, _, _, _, _, _, _, start⟩ := makeMove_starts
    (Orderly.poised earlierOrderly) creationAllowed unsought (whole ▸ created)
  subst here
  have found := seekListFind_rounds start.reqs (Orderly.poised creationOrderly) created
    laterAllowed unserved few
  rw [← course_append] at found
  exact ⟨rfl, seeking_of_found start.reqs (Orderly.poised orderly) found⟩

/-- A packet for node 9 starts a discovery. -/
def seekingNine : Move := .handle (inputAt 1000 (packetTo 7#32 9#32))

/-- Nobody answers, and the timers run up to the last one of the discovery. -/
def unanswered : List Move :=
  [.collect (inputAt 1400 .timers), .fire, .fire, .fire, .collect (inputAt 1900 .timers), .fire,
    .collect (inputAt 2600 .timers), .fire, .fire, .fire, .collect (inputAt 3500 .timers), .fire,
    .fire, .collect (inputAt 6500 .timers), .fire, .fire, .fire, .collect (inputAt 9600 .timers),
    .fire, .fire]

/-- Five firings are retries, and the sixth gives the discovery up. -/
theorem discovery_ends_unanswered :
    firings loneConfig 9#32 (course loneConfig timevalZero 0 ([] ++ [seekingNine])) unanswered = 5 ∧
      GivesUp 9#32 (course loneConfig timevalZero 0 ([] ++ [seekingNine] ++ unanswered))
        (makeMove loneConfig (course loneConfig timevalZero 0 ([] ++ [seekingNine] ++ unanswered))
          .fire) := by
  have fired : firings loneConfig 9#32 (course loneConfig timevalZero 0 ([] ++ [seekingNine]))
      unanswered = 5 := by decide +kernel
  have ends := discovery_ends loneConfig timevalZero 0 [] seekingNine unanswered 9#32
    ⟨9#32, 0#32, .none, 0, 2⟩ (by decide +kernel) (by decide +kernel) (by decide +kernel)
    (by decide +kernel) (by decide +kernel)
  rw [fired] at ends
  exact ⟨fired, ends.2.last .fire (by decide +kernel) (by decide +kernel)⟩

end Aodvd
