/-
This file is about the radius of the floods that a route discovery sends out.

`rreq_send` hands its radius to `aodv_socket_send`, which takes eight bits of it. The first radius
comes from the hop count of an old entry plus an increment, for a local repair perhaps from half the
hop count to the source; it may be larger than the network diameter. Then the retries, which use the
diameter, shrink it again, and a radius of 256 or more is cut off. When the hop counts are such that
the first radius is at most the diameter, the radii of the discovery never fall and never exceed it.
-/

import Aodvd.SeekRounds

namespace Aodvd

/-! ### Floods -/

/-- The radii with which a move calls `rreq_send` for a destination: `rreq_route_discovery` and
`rreq_local_repair` use the radius that they store in the entry they make, and
`route_discovery_timeout` uses that of the next round. -/
def moveFloods (config : Config) (dest : Addr) (state : State) (move : Move) : List Nat :=
  match seekListFind state dest with
  | none =>
    match seekListFind (makeMove config state move) dest with
    | none => []
    | some entry => [entry.ttl]
  | some entry =>
    if firesSeek dest state move = true ∧ entry.reqs < rreqRetries then
      [(seekRetry config entry).ttl]
    else []

/-- The radii of the floods for a destination in a course of moves. -/
def courseFloods (config : Config) (dest : Addr) : State → List Move → List Nat :=
  Runs.trace (makeMove config) (moveFloods config dest)

/-- The step floods a RREQ for a destination with a radius, and then at most makes the entry of the
discovery and arms its timer. -/
def Floods (config : Config) (dest : Addr) (ttl : Nat) (state after : State) : Prop :=
  ∃ destSeqno flags prepared, prepared.rreqId = state.rreqId ∧
    (after = rreqSend config dest destSeqno ttl flags prepared ∨
      ∃ msec, after = setTimeout (.seekTimer dest) msec (seekListInsert dest destSeqno ttl flags
        (rreqSend config dest destSeqno ttl flags prepared)))

section

variable {config : Config} {state : State} {dest : Addr} {entry : SeekEntry}

/-- `rreq_send` counts `rreq_id` on once for each interface. -/
theorem rreqId_rreqSend (config : Config) (destAddr : Addr) (destSeqno : Seqno) (ttl : Nat)
    (flags : RreqFlags) (state : State) :
    (rreqSend config destAddr destSeqno ttl flags state).rreqId =
      state.rreqId + BitVec.ofNat 32 config.devs.length := by
  unfold rreqSend
  dsimp only
  generalize (if config.rreqGratuitous then { flags with gratuitous := true } else flags) = flags
  induction config.devs generalizing state with
  | nil => exact (BitVec.add_zero _).symm
  | cons dev rest inductionHypothesis =>
    rw [List.foldl_cons, inductionHypothesis, (numbers_aodvSocketSend ..).1]
    show state.rreqId + 1#32 + BitVec.ofNat 32 rest.length = _
    rw [List.length_cons, BitVec.ofNat_add, BitVec.add_assoc, BitVec.add_comm 1#32]

theorem Floods.rreqId {ttl : Nat} {after : State} (floods : Floods config dest ttl state after) :
    after.rreqId = state.rreqId + BitVec.ofNat 32 config.devs.length := by
  obtain ⟨destSeqno, flags, prepared, same, rfl | ⟨msec, rfl⟩⟩ := floods
  · rw [rreqId_rreqSend, same]
  · exact (rreqId_rreqSend ..).trans (by rw [same])

/-- A discovery that starts floods with the radius that it stores. -/
theorem SeekStart.floods {ip : IpPacket} {after : State}
    (start : SeekStart config ip state entry after) :
    Floods config ip.daddr entry.ttl state after := by
  obtain ⟨prepared, msec, rfl, silent⟩ := start.starts
  refine ⟨entry.destSeqno, entry.flags, prepared, silent.rreqId, .inr ⟨msec, ?_⟩⟩
  rw [startSeek, start.dest]

/-- A discovery with a round to come floods with the radius of that round. -/
theorem runTimer_floods (clocked : Clocked state) (found : seekListFind state dest = some entry)
    (rest : List TimerId) (more : entry.reqs < rreqRetries) :
    Floods config dest (seekRetry config entry).ttl state
      (runTimer config (.seekTimer dest) rest state) := by
  obtain ⟨prepared, _, rreqId, sends⟩ := (runTimer_retries config clocked found rest more).floods
  rw [(seekListFind_some found).2] at sends
  exact ⟨entry.destSeqno, entry.flags, prepared, rreqId, .inl sends⟩

/-- A timer other than that of a discovery with a round to come asks for no route. -/
theorem rreqId_runTimer (config : Config) {id : TimerId} (rest : List TimerId)
    (last : ∀ dest entry, id = .seekTimer dest → seekListFind state dest = some entry →
      ¬ entry.reqs < rreqRetries) :
    (runTimer config id rest state).rreqId = state.rreqId := by
  rw [runTimer_eq]
  split
  · rfl
  · rename_i handler _
    have runs := runHandler_runs config id handler (popTimer id rest state)
    generalize runHandler config id handler (popTimer id rest state) = final at *
    by_cases seeks : ∃ dest, id = .seekTimer dest
    · obtain ⟨dest, rfl⟩ := seeks
      cases runs with
      | discovery =>
        unfold routeDiscoveryTimeout
        split
        · rfl
        · rename_i entry found
          rw [if_neg (last dest entry rfl found)]
          have told : Utters config (Numbering True False) (popTimer (.seekTimer dest) rest state) _ :=
            (utters_discoveryGiveUp config entry _).numbering
          exact told.rreqId not_false
      | idle => rfl
    · have told : Utters config (Numbering True False) (popTimer id rest state) final :=
        runs.utters fun dest same => seeks ⟨dest, same⟩
      exact told.rreqId not_false

/-- A move lists no radius for a destination whose discovery it neither starts nor takes to a new
round. -/
theorem moveFloods_eq_nil {move : Move}
    (still : seekListFind state dest = none → seekListFind (makeMove config state move) dest = none)
    (idle : ∀ entry, seekListFind state dest = some entry →
      ¬ (firesSeek dest state move = true ∧ entry.reqs < rreqRetries)) :
    moveFloods config dest state move = [] := by
  unfold moveFloods
  cases found : seekListFind state dest with
  | none => rw [still found]
  | some entry => exact if_neg (idle entry found)

/-- A move calls `rreq_send` for the one destination for which it lists a radius, with that radius,
or for none: then it lists no radius and `rreq_id` stays as it is. -/
theorem moveFloods_sends (poised : Poised config state) {move : Move}
    (allowed : move.Allowed state) :
    ((∀ dest, moveFloods config dest state move = []) ∧
      (makeMove config state move).rreqId = state.rreqId) ∨
    ∃ dest ttl, moveFloods config dest state move = [ttl] ∧
      (∀ other, other ≠ dest → moveFloods config other state move = []) ∧
      Floods config dest ttl state (makeMove config state move) ∧
      (makeMove config state move).rreqId =
        state.rreqId + BitVec.ofNat 32 config.devs.length := by
  cases move with
  | collect input =>
    exact .inl ⟨fun _ => moveFloods_eq_nil id fun _ _ fires => absurd fires.1 Bool.false_ne_true,
      rfl⟩
  | fire =>
    cases batch : state.timers.expTq with
    | nil => exact absurd batch allowed
    | cons id rest =>
      have moves : makeMove config state .fire = runTimer config id rest state := by
        rw [makeMove, batch]
      have fires (dest : Addr) : firesSeek dest state .fire = true ↔ id = .seekTimer dest := by
        rw [firesSeek, batch, List.head?_cons, decide_eq_true_iff, Option.some.injEq]
      have still (dest : Addr) (unsought : seekListFind state dest = none) :
          seekListFind (makeMove config state .fire) dest = none :=
        moves ▸ seekListFind_runTimer_of_none unsought config id rest
      by_cases asks : ∃ dest entry, id = .seekTimer dest ∧ seekListFind state dest = some entry ∧
          entry.reqs < rreqRetries
      · obtain ⟨dest, entry, rfl, found, more⟩ := asks
        have floods : Floods config dest (seekRetry config entry).ttl state
            (makeMove config state .fire) := moves ▸ runTimer_floods poised.clocked found rest more
        refine .inr ⟨dest, _, ?_, fun other different => moveFloods_eq_nil (still other) ?_, floods,
          floods.rreqId⟩
        · unfold moveFloods
          rw [found]
          exact if_pos ⟨(fires dest).mpr rfl, more⟩
        · rintro _ _ ⟨fired, _⟩
          exact different (TimerId.seekTimer.inj ((fires other).mp fired)).symm
      · refine .inl ⟨fun dest => moveFloods_eq_nil (still dest) ?_, ?_⟩
        · rintro entry found ⟨fired, more⟩
          exact asks ⟨dest, entry, (fires dest).mp fired, found, more⟩
        · rw [moves]
          exact rreqId_runTimer config rest fun dest entry same found more =>
            asks ⟨dest, entry, same, found, more⟩
  | handle input =>
    have unlisted {dest : Addr} (still : seekListFind state dest = none →
        seekListFind (makeMove config state (.handle input)) dest = none) :
        moveFloods config dest state (.handle input) = [] :=
      moveFloods_eq_nil still fun _ _ fires => absurd fires.1 Bool.false_ne_true
    rcases makeMove_handle poised allowed with ⟨ends, rreqId⟩ | ⟨_, ip, entry, _, _, start⟩
    · exact .inl ⟨fun dest => unlisted (ends.fresh dest), rreqId⟩
    · have floods : Floods config ip.daddr entry.ttl state
          (makeMove config state (.handle input)) := start.floods
      refine .inr ⟨ip.daddr, entry.ttl, ?_, fun other different => unlisted fun unsought => ?_,
        floods, floods.rreqId⟩
      · have unsought : seekListFind state ip.daddr = none := start.unsought
        unfold moveFloods
        rw [unsought, start.seekListFind, if_pos rfl]
      · exact (start.seekListFind other).trans ((if_neg different).trans unsought)

/-- The floods of a discovery are those of its rounds. -/
theorem courseFloods_rounds (fresh : entry.reqs = 0) (poised : Poised config state)
    (found : seekListFind state dest = some entry) {moves : List Move}
    (allowed : Runs.Meets (makeMove config) (fun state move => move.Allowed state) state moves)
    (unserved : Runs.Meets (makeMove config)
      (fun state move => dest ∉ moveServed config state move) state moves)
    (few : firings config dest state moves < seekRounds config entry.ttl) :
    courseFloods config dest state moves =
      (List.range (firings config dest state moves)).map fun count =>
        ((seekRetry config)^[count + 1] entry).ttl := by
  induction moves using List.reverseRecOn with
  | nil => rfl
  | append_singleton moves last inductionHypothesis =>
    obtain ⟨earlyAllowed, _⟩ := Runs.meets_concat.mp allowed
    obtain ⟨earlyUnserved, _⟩ := Runs.meets_concat.mp unserved
    rw [firings_concat] at few ⊢
    have earlyFew : firings config dest state moves < seekRounds config entry.ttl := by omega
    have earlier := seekListFind_rounds fresh poised found earlyAllowed earlyUnserved earlyFew
    rw [courseFloods, Runs.trace_concat, ← courseFloods,
      inductionHypothesis earlyAllowed earlyUnserved earlyFew, moveFloods, earlier]
    dsimp only
    cases fires : firesSeek dest (moves.foldl (makeMove config) state) last with
    | false => simp
    | true =>
      rw [fires, if_pos rfl] at few
      rw [if_pos rfl, if_pos ⟨rfl, (reqs_lt_iff fresh _).mpr few⟩, List.range_succ, List.map_append,
        List.map_singleton, Function.iterate_succ_apply']

/-! ### Radii -/

/-- The radii are between one and the network diameter, eight bits hold them, and none is smaller
than one before it. -/
structure RadiusKept (ttls : List Nat) : Prop where
  bounded : ∀ ttl ∈ ttls, 1 ≤ ttl ∧ ttl ≤ netDiameter
  held : ∀ ttl ∈ ttls, (ttl : Int) % 256 = ttl
  grows : ttls.Pairwise (· ≤ ·)

/-- A round widens the radius up to the network diameter. -/
theorem ttl_seekRetry_bounds (config : Config) (within : entry.ttl ≤ netDiameter) :
    entry.ttl ≤ (seekRetry config entry).ttl ∧ (seekRetry config entry).ttl ≤ netDiameter := by
  have threshold : ttlThreshold = 7 := rfl
  have increment : ttlIncrement = 2 := rfl
  have diameter : netDiameter = 35 := rfl
  unfold seekRetry
  split
  · split
    · dsimp only
      omega
    · exact ⟨within, Nat.le_refl _⟩
  · exact ⟨Nat.le_refl _, within⟩

theorem ttl_iterate_seekRetry_le (config : Config) (within : entry.ttl ≤ netDiameter)
    (count : Nat) : ((seekRetry config)^[count] entry).ttl ≤ netDiameter := by
  induction count with
  | zero => exact within
  | succ count inductionHypothesis =>
    rw [Function.iterate_succ_apply']
    exact (ttl_seekRetry_bounds config inductionHypothesis).2

theorem monotone_ttl_iterate_seekRetry (config : Config) (within : entry.ttl ≤ netDiameter) :
    Monotone fun count => ((seekRetry config)^[count] entry).ttl := by
  refine monotone_nat_of_le_succ fun count => ?_
  rw [Function.iterate_succ_apply']
  exact (ttl_seekRetry_bounds config (ttl_iterate_seekRetry_le config within count)).1

/-- The radii of the rounds are kept exactly if the first of them is. -/
theorem radiusKept_rounds_iff (config : Config) (positive : 1 ≤ entry.ttl) (fired : Nat) :
    RadiusKept ((List.range (fired + 1)).map fun count => ((seekRetry config)^[count] entry).ttl) ↔
      entry.ttl ≤ netDiameter := by
  constructor
  · intro kept
    refine (kept.bounded entry.ttl (List.mem_map.mpr ⟨0, ?_, rfl⟩)).2
    exact List.mem_range.mpr (Nat.succ_pos fired)
  · intro within
    have bounded : ∀ ttl ∈ (List.range (fired + 1)).map fun count =>
        ((seekRetry config)^[count] entry).ttl, 1 ≤ ttl ∧ ttl ≤ netDiameter := by
      intro ttl member
      obtain ⟨count, _, rfl⟩ := List.mem_map.mp member
      exact ⟨positive.trans (monotone_ttl_iterate_seekRetry config within (Nat.zero_le count)),
        ttl_iterate_seekRetry_le config within count⟩
    refine ⟨bounded, fun ttl member => ?_, ?_⟩
    · have diameter : netDiameter = 35 := rfl
      have := bounded ttl member
      omega
    · rw [List.pairwise_map]
      exact List.pairwise_le_range.imp fun le => monotone_ttl_iterate_seekRetry config within le

end

/-! ### First radii -/

/-- The hop counts from which the first radius is made keep it within the network diameter: that of
the old entry for a route discovery with expanding ring search, that of the entry and half of that
of the source's entry for a local repair. -/
def WithinReach (config : Config) (ip : IpPacket) (state : State) : Prop :=
  match rtTableFind state ip.daddr with
  | none => True
  | some rt =>
    if rt.flags.repair then
      rt.hcnt + localAddTtl ≤ netDiameter ∧
        ∀ src, rtTableFind state ip.saddr = some src → src.hcnt / 2 + localAddTtl ≤ netDiameter
    else config.expandingRingSearch = true → rt.hcnt + ttlIncrement ≤ netDiameter

theorem seekTtl_le_iff (config : Config) (ip : IpPacket) (state : State) :
    seekTtl config ip state ≤ netDiameter ↔ WithinReach config ip state := by
  unfold seekTtl WithinReach
  cases rtTableFind state ip.daddr with
  | none =>
    refine iff_of_true ?_ trivial
    show discoveryTtl config none ≤ netDiameter
    unfold discoveryTtl
    split
    · decide
    · exact Nat.le_refl _
  | some rt =>
    dsimp only
    split
    · unfold repairTtl
      cases rtTableFind state ip.saddr with
      | none => simp
      | some src =>
        simp only [Option.some.injEq, forall_eq']
        omega
    · unfold discoveryTtl
      split
      · rename_i expanding
        exact ⟨fun within _ => within, fun within => within expanding⟩
      · rename_i flat
        exact iff_of_true (Nat.le_refl _) fun expanding => absurd expanding flat

theorem seekTtl_pos (config : Config) (ip : IpPacket) (state : State) :
    1 ≤ seekTtl config ip state := by
  have added : localAddTtl = 2 := rfl
  have increment : ttlIncrement = 2 := rfl
  have discovery (found : Option RtEntry) : 1 ≤ discoveryTtl config found := by
    unfold discoveryTtl
    cases found with
    | none => split <;> decide
    | some rt =>
      split
      · show 1 ≤ rt.hcnt + ttlIncrement
        omega
      · decide
  unfold seekTtl
  split
  · split
    · unfold repairTtl
      split
      · omega
      · omega
    · exact discovery _
  · exact discovery _

/-- From the packet on that starts a discovery or a local repair until the
discovery ends, the radii of its floods are between one and the network diameter and never fall,
exactly if the hop counts that the first radius is made from are within reach. -/
theorem radiusKept_iff_withinReach (config : Config) (now : Timeval) (jitter : Int)
    (earlier : List Move) (input : Input) (packet : NfPacket) (ip : IpPacket) (later : List Move)
    (isPacket : input.event = .packet packet) (payload : packet.payload = some ip)
    (orderly : Orderly config now jitter (earlier ++ [.handle input] ++ later))
    (unsought : seekListFind (course config now jitter earlier) ip.daddr = none) {entry : SeekEntry}
    (created : seekListFind (course config now jitter (earlier ++ [.handle input])) ip.daddr =
      some entry)
    (unserved : Runs.Meets (makeMove config)
      (fun state move => ip.daddr ∉ moveServed config state move)
      (course config now jitter (earlier ++ [.handle input])) later)
    (few : firings config ip.daddr (course config now jitter (earlier ++ [.handle input])) later <
      seekRounds config entry.ttl) :
    RadiusKept (courseFloods config ip.daddr (course config now jitter earlier)
        ([.handle input] ++ later)) ↔
      WithinReach config ip (course config now jitter earlier) := by
  obtain ⟨creationOrderly, laterAllowed⟩ := Runs.meets_append.mp orderly
  obtain ⟨earlierOrderly, creationAllowed⟩ := Runs.meets_concat.mp creationOrderly
  have whole : course config now jitter (earlier ++ [.handle input]) =
      makeMove config (course config now jitter earlier) (.handle input) := course_append ..
  obtain ⟨_, _, other, sameInput, sameEvent, samePayload, _, start⟩ := makeMove_starts
    (Orderly.poised earlierOrderly) creationAllowed unsought (whole ▸ created)
  obtain rfl := Move.handle.inj sameInput
  obtain rfl := Event.packet.inj (isPacket.symm.trans sameEvent)
  obtain rfl := Option.some.inj (payload.symm.trans samePayload)
  have ttl : entry.ttl = seekTtl config ip (course config now jitter earlier) := start.ttl
  have rounds := courseFloods_rounds start.reqs (Orderly.poised creationOrderly) created
    laterAllowed unserved few
  have first : moveFloods config ip.daddr (course config now jitter earlier) (.handle input) =
      [entry.ttl] := by
    unfold moveFloods
    rw [unsought, ← whole, created]
  have floods : courseFloods config ip.daddr (course config now jitter earlier)
      ([.handle input] ++ later) = (List.range (firings config ip.daddr
        (course config now jitter (earlier ++ [.handle input])) later + 1)).map
        fun count => ((seekRetry config)^[count] entry).ttl := by
    rw [List.range_succ_eq_map, List.map_cons, List.map_map]
    show moveFloods .. ++ courseFloods config ip.daddr (makeMove config _ _) later = _
    rw [first, ← whole, rounds]
    rfl
  rw [floods, radiusKept_rounds_iff config (ttl ▸ seekTtl_pos ..), ttl, seekTtl_le_iff]

/-- A reply from far away makes a route, its link breaks, and a packet seeks the destination. -/
def lostFar (hcnt : Nat) : List Move :=
  [.handle (inputAt 1000 (rrepFrom 2#32 9#32 5#32 hcnt)), .handle (inputAt 1100 (.txDrop 2#32))]

def seekingFar : Input := inputAt 1200 (packetTo 7#32 9#32)

/-- The first timers after the packet, with that of the discovery. -/
def firstRound : List Move := [.collect (inputAt 7000 .timers), .fire, .fire, .fire]

theorem moveFloods_sends_near :
    moveFloods loneConfig 9#32 (course loneConfig timevalZero 0 (lostFar 4))
        (.handle seekingFar) = [7] ∧
      Floods loneConfig 9#32 7 (course loneConfig timevalZero 0 (lostFar 4))
        (makeMove loneConfig (course loneConfig timevalZero 0 (lostFar 4))
          (.handle seekingFar)) := by
  have listed : moveFloods loneConfig 9#32 (course loneConfig timevalZero 0 (lostFar 4))
      (.handle seekingFar) = [7] := by decide +kernel
  have orderly : Orderly loneConfig timevalZero 0 (lostFar 4) := by decide +kernel
  have allowed : (Move.handle seekingFar).Allowed (course loneConfig timevalZero 0 (lostFar 4)) := by
    decide +kernel
  refine ⟨listed, ?_⟩
  rcases moveFloods_sends orderly.poised allowed with ⟨none, _⟩ | ⟨dest, ttl, one, others, floods, _⟩
  · exact absurd (listed.symm.trans (none 9#32)) (List.cons_ne_nil _ _)
  · have here : dest = 9#32 := by
      by_contra different
      exact List.cons_ne_nil _ _ (listed.symm.trans (others 9#32 (Ne.symm different)))
    subst here
    obtain rfl := (List.cons.inj (listed.symm.trans one)).1
    exact floods

/-- A destination at five hops is sought with radius seven, and then with the network diameter. -/
theorem radiusKept_iff_withinReach_near :
    courseFloods loneConfig 9#32 (course loneConfig timevalZero 0 (lostFar 4))
        ([.handle seekingFar] ++ firstRound) = [7, 35] ∧
      RadiusKept (courseFloods loneConfig 9#32 (course loneConfig timevalZero 0 (lostFar 4))
        ([.handle seekingFar] ++ firstRound)) := by
  refine ⟨by decide +kernel, ?_⟩
  refine (radiusKept_iff_withinReach loneConfig timevalZero 0 (lostFar 4) seekingFar
    ⟨7#32, some ⟨40, 5, 17, 1#32, 9#32, 1000, 2000⟩, .other, 0, 1⟩
    ⟨40, 5, 17, 1#32, 9#32, 1000, 2000⟩ firstRound rfl rfl (by decide +kernel) (by decide +kernel)
    (show _ = some ⟨9#32, 6#32, .none, 0, 7⟩ by decide +kernel) (by decide +kernel)
    (by decide +kernel)).mpr ?_
  rw [← seekTtl_le_iff]
  decide +kernel

/-- A destination at 41 hops is sought with radius 43, beyond the network diameter, and then with
the smaller diameter. One at 255 hops is sought with radius 257, which leaves as TTL one. -/
theorem not_radiusKept_far :
    courseFloods loneConfig 9#32 (course loneConfig timevalZero 0 (lostFar 40))
        ([.handle seekingFar] ++ firstRound) = [43, 35] ∧
      courseFloods loneConfig 9#32 (course loneConfig timevalZero 0 (lostFar 254))
        [.handle seekingFar] = [257] ∧
      (course loneConfig timevalZero 0 (lostFar 254 ++ [.handle seekingFar])).out.map Datagram.ttl =
        [1] ∧
      ¬ RadiusKept (courseFloods loneConfig 9#32 (course loneConfig timevalZero 0 (lostFar 40))
        ([.handle seekingFar] ++ firstRound)) := by
  have floods : courseFloods loneConfig 9#32 (course loneConfig timevalZero 0 (lostFar 40))
      ([.handle seekingFar] ++ firstRound) = [43, 35] := by decide +kernel
  refine ⟨floods, by decide +kernel, by decide +kernel, fun kept => ?_⟩
  rw [floods] at kept
  exact absurd (kept.bounded 43 List.mem_cons_self).2 (by decide)

end Aodvd
