/-
This file says how the list of route discoveries changes.

An entry of the seek list is made by `rreq_route_discovery` and `rreq_local_repair` alone, for the
destination of a packet that is buffered. A control message takes entries away, those of the
destinations that it makes valid: there `rt_table_insert` or `rt_table_update` releases the buffered
packets. All the other things that a message does leave the list alone.
-/

import Aodvd.LocalRepairs
import Aodvd.PacketReleases

namespace Aodvd

/-! ### Discoveries that go on -/

theorem seekListFind_of_seekhead {before after : State}
    (seekhead : after.seekhead = before.seekhead) (dest : Addr) :
    seekListFind after dest = seekListFind before dest := by
  rw [seekListFind, seekListFind, seekhead]

theorem seekListFind_seekListRemove {dest other : Addr} (different : other ≠ dest) (state : State) :
    seekListFind (seekListRemove dest state) other = seekListFind state other := by
  show (state.seekhead.eraseP fun entry => decide (entry.destAddr = dest)).find?
      (fun entry => decide (entry.destAddr = other)) = state.seekhead.find? _
  induction state.seekhead with
  | nil => rfl
  | cons entry entries inductionHypothesis =>
    by_cases here : entry.destAddr = dest
    · rw [List.eraseP_cons_of_pos (by simpa using here),
        List.find?_cons_of_neg (by simpa [here] using different.symm)]
    · rw [List.eraseP_cons_of_neg (by simpa using here), List.find?_cons, List.find?_cons,
        inductionHypothesis]

/-- Nothing is sought that was not sought before an entry was removed. -/
theorem seekListFind_seekListRemove_of_none {removed dest : Addr} {state : State}
    (unsought : seekListFind state dest = none) :
    seekListFind (seekListRemove removed state) dest = none :=
  List.find?_eq_none.mpr fun entry member =>
    List.find?_eq_none.mp unsought entry (List.mem_of_mem_eraseP member)

/-- Only discoveries of the destinations that are served change, and none is started. -/
structure SeekStep (served : List Addr) (before after : State) : Prop where
  kept : ∀ dest, dest ∉ served → seekListFind after dest = seekListFind before dest
  fresh : ∀ dest, seekListFind before dest = none → seekListFind after dest = none

section

variable {before between after : State} {served : List Addr}

theorem SeekStep.of_seekhead (seekhead : after.seekhead = before.seekhead) :
    SeekStep served before after where
  kept dest _ := seekListFind_of_seekhead seekhead dest
  fresh dest unsought := (seekListFind_of_seekhead seekhead dest).trans unsought

theorem SeekStep.trans (early : SeekStep served before between)
    (late : SeekStep served between after) : SeekStep served before after where
  kept dest outside := (late.kept dest outside).trans (early.kept dest outside)
  fresh dest unsought := late.fresh dest (early.fresh dest unsought)

theorem SeekStep.preceded (step : SeekStep served between after)
    (seekhead : between.seekhead = before.seekhead) : SeekStep served before after where
  kept dest outside := (step.kept dest outside).trans (seekListFind_of_seekhead seekhead dest)
  fresh dest unsought := step.fresh dest ((seekListFind_of_seekhead seekhead dest).trans unsought)

/-- A release ends the discovery of its destination. -/
theorem Releases.seekStep {config : Config} {released : Addr}
    (releases : Releases config before after released) (member : released ∈ served) :
    SeekStep served before after := by
  obtain ⟨routed, rt, only, sound, found, valid, rfl⟩ := releases
  have seeks (dest : Addr) : seekListFind (releaseBuffered config released routed) dest =
      seekListFind (seekListRemove released routed) dest :=
    seekListFind_of_seekhead (seekhead_releaseBuffered config sound found) dest
  refine SeekStep.preceded ⟨fun dest outside => ?_, fun dest unsought => ?_⟩ only.seekhead
  · have different : dest ≠ released := fun same => outside (same ▸ member)
    exact (seeks dest).trans (seekListFind_seekListRemove different routed)
  · exact (seeks dest).trans (seekListFind_seekListRemove_of_none unsought)

end

/-! ### Destinations that a message serves -/

/-- The destination of a HELLO is made valid. -/
def helloServed (config : Config) (hello : Rrep) (len ifindex : Nat) (state : State) : List Addr :=
  match rtTableFind state hello.destAddr with
  | none => if config.receiveNHellos ≠ 0 then [] else [hello.destAddr]
  | some rt =>
    if (helloRead config hello len ifindex (some rt)).1.unidir = true ∧ rt.state = .valid ∧
        1 < rt.hcnt then []
    else if config.receiveNHellos ≠ 0 ∧ rt.helloCnt + 1 < config.receiveNHellos then []
    else [hello.destAddr]

/-- The sender of a message is made valid by `neighbor_add`. -/
def neighborServed (source : Addr) (state : State) : List Addr :=
  match rtTableFind state source with
  | none => [source]
  | some rt => if rt.flags.unidir then [] else [source]

/-- The route that a message offers is taken: there is no entry, or the message is accepted. -/
def offerServed (dest : Addr) (accepts : RtEntry → Bool) (state : State) : List Addr :=
  match rtTableFind state dest with
  | none => [dest]
  | some rt => if accepts rt then [dest] else []

/-- The destinations that `rreq_process` or `rrep_process` makes valid. -/
def processServed (config : Config) (received : Received) (state : State) : List Addr :=
  match received.msg with
  | .rreq rreq =>
    if rreq.origAddr = ipaddrOf config received.ifindex ∨ received.len < rreqSize ∨
        rreqBlacklistFind state received.src = true ∨
        rreqRecordFind state rreq.origAddr rreq.rreqId = true then []
    else offerServed rreq.origAddr (rreqAccepts rreq) state
  | .rrep rrep =>
    if received.len < rrepSize ∨ rrep.destAddr = ipaddrOf config received.ifindex then []
    else offerServed rrep.destAddr (rrepAccepts rrep) state
  | _ => []

/-- The destinations that a control message makes valid: those for which `rt_table_insert` or
`rt_table_update` is called with the state `VALID`. -/
def messageServed (config : Config) (received : Received) (state : State) : List Addr :=
  if received.src ∈ ownAddrs config then []
  else
    match received.hello with
    | some hello => helloServed config hello received.len received.ifindex state
    | none =>
      neighborServed received.src state ++
        processServed config received (neighborAdd config received.src received.ifindex state)

/-! ### Control messages -/

section

variable {config : Config} {origin state : State} {received : Received}

/-- The route that a message offers is taken by an entry like the one that it meets. -/
theorem Introduced.mem_offerServed {dest : Addr} {accepts : RtEntry → Bool}
    (introduced : Introduced config origin received state)
    (congr : ∀ {rt met}, SameRoute rt met → accepts rt = accepts met)
    (takes : ∀ met, metEntry config origin received dest = some met → accepts met = true) :
    dest ∈ offerServed dest accepts state := by
  have meets := introduced.meets dest
  unfold offerServed
  rw [rtTableFind_eq_entryAt introduced.regular.sound]
  cases found : entryAt state dest with
  | none => exact List.mem_singleton.mpr rfl
  | some rt =>
    obtain ⟨met, metFound, same⟩ := relRoute_some (found ▸ meets)
    dsimp only
    rw [congr same, if_pos (takes met metFound)]
    exact List.mem_singleton.mpr rfl

/-- A route that a message makes valid is one that it serves. -/
theorem Offered.served {found : Option RtEntry} {offer : Offer} (regular : Regular config origin)
    (offered : Offered config (.message received) origin state found offer)
    (valid : offer.state = .valid) : offer.dest ∈ messageServed config received origin := by
  have entries := rtTableFind_eq_entryAt regular.sound
  unfold messageServed
  cases offered with
  | neighbor other arrives notHello met bidirectional =>
    obtain rfl := Event.message.inj arrives.event
    rw [if_neg arrives.foreign, notHello]
    refine List.mem_append_left _ ?_
    unfold neighborServed
    rw [entries, met]
    cases found with
    | none => exact List.mem_singleton.mpr rfl
    | some rt => simp [bidirectional rt rfl, neighborOffer]
  | hello other hello handles routeState met single renews =>
    obtain rfl := Event.message.inj handles.event
    rw [if_neg handles.foreign, handles.isHello]
    dsimp only
    unfold helloServed
    rw [entries, met]
    cases found with
    | none => simp [single rfl valid, helloOffer]
    | some rt =>
      dsimp only
      rw [if_neg (renews rt rfl).1, if_neg (renews rt rfl).2]
      exact List.mem_singleton.mpr rfl
  | rreq other rreq handles _ takes =>
    obtain rfl := Event.message.inj handles.event
    have notHello := Received.hello_eq_none_of_rreq handles.isRreq
    have introduced := neighborAdd_introduced regular handles.toArrives notHello
    rw [if_neg handles.foreign, notHello]
    refine List.mem_append_right _ ?_
    unfold processServed
    rw [handles.isRreq]
    dsimp only
    rw [rreqBlacklistFind, rreqRecordFind, introduced.records.rreqBlacklist,
      introduced.records.rreqRecords, if_neg]
    · exact introduced.mem_offerServed (rreqAccepts_congr rreq) takes
    · rintro (own | short | shunned | seen)
      · exact handles.notOwn own
      · exact Nat.not_lt.mpr handles.long short
      · exact Bool.false_ne_true (handles.unlisted.symm.trans shunned)
      · exact Bool.false_ne_true (handles.unseen.symm.trans seen)
  | rrep other rrep handles _ takes =>
    obtain rfl := Event.message.inj handles.event
    have introduced := neighborAdd_introduced regular handles.toArrives handles.notHello
    rw [if_neg handles.foreign, handles.notHello]
    refine List.mem_append_right _ ?_
    unfold processServed
    rw [handles.isRrep]
    dsimp only
    rw [if_neg fun any => any.elim (Nat.not_lt.mpr handles.long) handles.notOwn]
    exact introduced.mem_offerServed (rrepAccepts_congr rrep) takes

theorem Act.seekStep {before after : State} (regular : Regular config origin)
    (act : Act config (.message received) origin before after) (sound : before.rtTbl.Sound) :
    SeekStep (messageServed config received origin) before after := by
  cases act with
  | aside aside => exact .of_seekhead aside.seekhead
  | timer act =>
    obtain ⟨timers, rfl⟩ := act.same
    exact .of_seekhead rfl
  | record origAddr rreqId =>
    refine .of_seekhead ?_
    unfold rreqRecordInsert
    split <;> rfl
  | blacklist dest =>
    refine .of_seekhead ?_
    unfold rreqBlacklistInsert
    split <;> rfl
  | send => exact .of_seekhead (aside_aodvSocketSend ..).seekhead
  | route act =>
    rcases act.routesOnly_or_releases sound with only | ⟨_, offer, offered, valid, releases⟩
    · exact .of_seekhead only.seekhead
    · exact releases.seekStep (offered.served regular valid)
  | seek _ _ _ _ _ _ _ _ quiet => exact quiet.elim
  | retry _ _ _ _ _ due => exact Event.noConfusion due
  | giveUp _ _ _ _ due => exact Event.noConfusion due
  | _ => exact .of_seekhead rfl

/-- A control message ends at most the discoveries of the destinations it makes valid. -/
theorem seekStep_aodvSocketRead (regular : Regular config state) (received : Received) :
    SeekStep (messageServed config received state) state
      (aodvSocketRead config received state) := by
  have acts := aodvSocketRead_acts regular received
  generalize aodvSocketRead config received state = after at acts
  induction acts with
  | refl => exact .of_seekhead rfl
  | tail earlier act inductionHypothesis =>
    exact inductionHypothesis.trans
      (act.seekStep regular (Acts.regular earlier regular).sound)

end

/-! ### Where a discovery starts -/

/-- The first radius of a route discovery. -/
def discoveryTtl (config : Config) (found : Option RtEntry) : Nat :=
  if config.expandingRingSearch then (found.map fun rt => rt.hcnt + ttlIncrement).getD ttlStart
  else netDiameter

/-- The first radius of the discovery or the local repair that a packet starts. -/
def seekTtl (config : Config) (ip : IpPacket) (state : State) : Nat :=
  match rtTableFind state ip.daddr with
  | some rt =>
    if rt.flags.repair then repairTtl rt (rtTableFind state ip.saddr)
    else discoveryTtl config (some rt)
  | none => discoveryTtl config none

/-- The end of `rreq_route_discovery` and `rreq_local_repair`: the first flood, the entry and its
timer. -/
def startSeek (config : Config) (entry : SeekEntry) (msec : Int) (prepared : State) : State :=
  setTimeout (.seekTimer entry.destAddr) msec
    (seekListInsert entry.destAddr entry.destSeqno entry.ttl entry.flags
      (rreqSend config entry.destAddr entry.destSeqno entry.ttl entry.flags prepared))

/-- Neither the discoveries nor what has been sent changes. -/
structure Silent (before after : State) : Prop where
  seekhead : after.seekhead = before.seekhead
  out : after.out = before.out
  rreqId : after.rreqId = before.rreqId

theorem Silent.refl (state : State) : Silent state state := ⟨rfl, rfl, rfl⟩

theorem Silent.trans {first second third : State} (early : Silent first second)
    (late : Silent second third) : Silent first third :=
  ⟨late.seekhead.trans early.seekhead, late.out.trans early.out, late.rreqId.trans early.rreqId⟩

theorem TimerActs.silent {before after : State} (acts : TimerActs before after) :
    Silent before after := by
  obtain ⟨timers, rfl⟩ := acts.same
  exact ⟨rfl, rfl, rfl⟩

/-- No discovery starts or ends, and no RREQ is created. -/
structure Unasked (before after : State) : Prop where
  seekhead : after.seekhead = before.seekhead
  rreqId : after.rreqId = before.rreqId

theorem Unasked.trans {first second third : State} (early : Unasked first second)
    (late : Unasked second third) : Unasked first third :=
  ⟨late.seekhead.trans early.seekhead, late.rreqId.trans early.rreqId⟩

theorem Silent.unasked {before after : State} (silent : Silent before after) :
    Unasked before after :=
  ⟨silent.seekhead, silent.rreqId⟩

theorem silent_packetQueueAdd (packetId : BitVec 32) (dest : Addr) (state : State) :
    Silent state (packetQueueAdd packetId dest state) := by
  obtain ⟨_, _, added⟩ := packetQueueAdd_eq packetId dest state
  rw [added]
  exact ⟨rfl, rfl, rfl⟩

/-- A discovery for the destination of a packet starts, with the entry that is made. -/
structure SeekStart (config : Config) (ip : IpPacket) (state : State) (entry : SeekEntry)
    (after : State) : Prop where
  dest : entry.destAddr = ip.daddr
  ttl : entry.ttl = seekTtl config ip state
  reqs : entry.reqs = 0
  unsought : seekListFind state ip.daddr = none
  starts : ∃ prepared msec, after = startSeek config entry msec prepared ∧ Silent state prepared

section

variable {config : Config} {state : State}

theorem seekListFind_startSeek (config : Config) (entry : SeekEntry) (fresh : entry.reqs = 0)
    (msec : Int) (prepared : State) (dest : Addr) :
    seekListFind (startSeek config entry msec prepared) dest =
      if dest = entry.destAddr then some entry else seekListFind prepared dest := by
  have sent : (rreqSend config entry.destAddr entry.destSeqno entry.ttl entry.flags
      prepared).seekhead = prepared.seekhead :=
    (rreqSend_acts config (show Event.timers.Local from trivial) prepared ..).2.seekhead
  show (⟨entry.destAddr, entry.destSeqno, entry.flags, 0, entry.ttl⟩ :: (rreqSend config
    entry.destAddr entry.destSeqno entry.ttl entry.flags prepared).seekhead).find? _ = _
  rw [sent, ← fresh]
  by_cases here : dest = entry.destAddr
  · rw [if_pos here]
    exact List.find?_cons_of_pos (decide_eq_true here.symm)
  · rw [if_neg here]
    exact List.find?_cons_of_neg fun same => here (of_decide_eq_true same).symm

/-- The discovery that starts is that of the packet's destination. -/
theorem SeekStart.seekListFind {after : State} {ip : IpPacket} {entry : SeekEntry}
    (start : SeekStart config ip state entry after) (dest : Addr) :
    Aodvd.seekListFind after dest =
      if dest = ip.daddr then some entry else Aodvd.seekListFind state dest := by
  obtain ⟨prepared, msec, rfl, silent⟩ := start.starts
  rw [seekListFind_startSeek config entry start.reqs, start.dest,
    seekListFind_of_seekhead silent.seekhead]

theorem SeekStart.preceded {before after : State} {ip : IpPacket} {entry : SeekEntry}
    (start : SeekStart config ip state entry after) (silent : Silent before state)
    (rtTbl : state.rtTbl = before.rtTbl) : SeekStart config ip before entry after where
  dest := start.dest
  ttl := by
    rw [start.ttl, seekTtl, seekTtl, rtTableFind, rtTableFind, rtTableFind, rtTableFind, rtTbl]
  reqs := start.reqs
  unsought := (seekListFind_of_seekhead silent.seekhead ip.daddr).symm.trans start.unsought
  starts :=
    let ⟨prepared, msec, starts, quiet⟩ := start.starts
    ⟨prepared, msec, starts, silent.trans quiet⟩

theorem rreqRouteDiscovery_seeks (config : Config) (ip : IpPacket) (flags : RreqFlags)
    (state : State)
    (ttl : seekTtl config ip state = discoveryTtl config (rtTableFind state ip.daddr)) :
    rreqRouteDiscovery config ip.daddr flags state = state ∨
      ∃ entry, SeekStart config ip state entry
        (rreqRouteDiscovery config ip.daddr flags state) := by
  unfold rreqRouteDiscovery
  cases unsought : seekListFind state ip.daddr with
  | some entry => exact .inl rfl
  | none =>
    let entry : SeekEntry :=
      ⟨ip.daddr, ((rtTableFind state ip.daddr).map RtEntry.destSeqno).getD 0#32, flags, 0,
        discoveryTtl config (rtTableFind state ip.daddr)⟩
    refine .inr ⟨entry, rfl, ttl.symm, rfl, unsought, _, _, rfl, ?_⟩
    split
    · exact .refl _
    · exact (keepForDiscovery_acts ..).silent

theorem rreqLocalRepair_seeks (config : Config) (ip : IpPacket) {rt : RtEntry}
    (here : rt.destAddr = ip.daddr)
    (ttl : seekTtl config ip state = repairTtl rt (rtTableFind state ip.saddr)) :
    rreqLocalRepair config rt ip.saddr state = state ∨
      ∃ entry, SeekStart config ip state entry (rreqLocalRepair config rt ip.saddr state) := by
  unfold rreqLocalRepair
  cases unsought : seekListFind state rt.destAddr with
  | some entry => exact .inl rfl
  | none =>
    dsimp only
    split
    · have undertaken : Silent state
          (setHandler (.rtTimer rt.destAddr) .routeExpireTimeout state) := ⟨rfl, rfl, rfl⟩
      have kept := undertaken.trans (keepForDiscovery_acts rt _).silent
      rw [← ttl]
      exact .inr ⟨⟨rt.destAddr, rt.destSeqno, .none, 0, seekTtl config ip state⟩,
        here, rfl, rfl, here ▸ unsought, _, _, rfl, kept⟩
    · exact .inl rfl

theorem seekRoute_seeks (config : Config) (ip : IpPacket) (sound : state.rtTbl.Sound) :
    seekRoute config ip (rtTableFind state ip.daddr) state = state ∨
      ∃ entry, SeekStart config ip state entry
        (seekRoute config ip (rtTableFind state ip.daddr) state) := by
  unfold seekRoute
  cases found : rtTableFind state ip.daddr with
  | none =>
    refine rreqRouteDiscovery_seeks config ip _ state ?_
    rw [seekTtl, found]
  | some rt =>
    dsimp only
    split
    · rename_i repair
      have here : rt.destAddr = ip.daddr :=
        entryAt_destAddr ((rtTableFind_eq_entryAt sound _).symm.trans found)
      refine rreqLocalRepair_seeks config ip here ?_
      rw [seekTtl, found]
      exact if_pos repair
    · rename_i plain
      refine rreqRouteDiscovery_seeks config ip _ state ?_
      rw [seekTtl, found]
      exact if_neg plain

theorem unasked_sendRerrForUnknownDest (config : Config) (destAddr : Addr)
    (fwdRt revRt : Option RtEntry) (ifindex : Nat) (state : State) :
    Unasked state (sendRerrForUnknownDest config destAddr fwdRt revRt ifindex state) := by
  obtain ⟨created, dst, timed, waits⟩ :=
    sendRerrForUnknownDest_eq config destAddr fwdRt revRt ifindex state
  have drafted : Unasked state _ := ⟨timed.silent.seekhead, timed.silent.rreqId⟩
  exact (drafted.trans ⟨(aside_aodvSocketSend ..).seekhead, (numbers_aodvSocketSend ..).1⟩).trans
    waits.silent.unasked

/-- A packet leaves the discoveries as they are, or starts one for its destination. -/
theorem packetInputRoute_seeks (config : Config) (packet : NfPacket) (ip : IpPacket)
    (sound : state.rtTbl.Sound) :
    Unasked state (packetInputRoute config packet ip state).1 ∨
      ∃ entry, SeekStart config ip state entry (packetInputRoute config packet ip state).1 ∧
        (packetInputRoute config packet ip state).2 = .queued := by
  have refreshed := rtTableUpdateRouteTimeouts_acts config (rtTableFind state ip.daddr)
    (rtTableFind state ip.saddr) state
  unfold packetInputRoute
  dsimp only
  generalize rtTableUpdateRouteTimeouts config (rtTableFind state ip.daddr)
    (rtTableFind state ip.saddr) state = fresh at *
  split
  · split
    · exact .inl (refreshed.silent.unasked.trans (unasked_sendRerrForUnknownDest ..))
    · have buffered := refreshed.silent.trans (silent_packetQueueAdd packet.packetId ip.daddr fresh)
      have rtTbl := (rtTbl_packetQueueAdd packet.packetId ip.daddr fresh).trans refreshed.rtTbl
      have same : rtTableFind state ip.daddr =
          rtTableFind (packetQueueAdd packet.packetId ip.daddr fresh) ip.daddr := by
        rw [rtTableFind, rtTableFind, rtTbl]
      rw [same]
      rcases seekRoute_seeks config ip (show (packetQueueAdd packet.packetId ip.daddr
        fresh).rtTbl.Sound from rtTbl ▸ sound) with idle | ⟨entry, start⟩
      · rw [idle]
        exact .inl buffered.unasked
      · exact .inr ⟨entry, start.preceded buffered rtTbl, rfl⟩
  · exact .inl refreshed.silent.unasked

/-- A packet that NFQUEUE hands over leaves the discoveries as they are, or starts one for its
destination. -/
theorem nfqueuePacketCb_seeks (config : Config) (packet : NfPacket) (sound : state.rtTbl.Sound) :
    Unasked state (nfqueuePacketCb config packet state) ∨
      ∃ ip entry, packet.payload = some ip ∧
        SeekStart config ip state entry (nfqueuePacketCb config packet state) := by
  have handled : Unasked state (packetInputHandlePacket config packet (deliver packet state)).1 ∨
      ∃ ip entry, packet.payload = some ip ∧
        SeekStart config ip state entry
          (packetInputHandlePacket config packet (deliver packet state)).1 ∧
        (packetInputHandlePacket config packet (deliver packet state)).2 = .queued := by
    unfold packetInputHandlePacket
    split
    · exact .inl ⟨rfl, rfl⟩
    · rename_i ip payload
      dsimp only
      generalize (if packet.hook = .forward then packet.indev else packet.outdev) = ifindex
      split
      · exact .inl ⟨rfl, rfl⟩
      · split
        · exact .inl ⟨rfl, rfl⟩
        · rcases packetInputRoute_seeks config packet ip
            (show (deliver packet state).rtTbl.Sound from sound) with same | ⟨entry, start, queued⟩
          · exact .inl ⟨same.seekhead, same.rreqId⟩
          · exact .inr ⟨ip, entry, payload, start.preceded ⟨rfl, rfl, rfl⟩ rfl, queued⟩
  rcases handled with same | ⟨ip, entry, payload, start, queued⟩
  · exact .inl (nfqueuePacketCb_of_handled (motive := Unasked state) same
      fun _ _ _ kept => ⟨kept.seekhead, kept.rreqId⟩)
  · refine .inr ⟨ip, entry, payload, ?_⟩
    unfold nfqueuePacketCb
    unfold deliver at queued start
    dsimp only
    rw [queued]
    exact start

end

end Aodvd
