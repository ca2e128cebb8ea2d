/-
This file follows the sequence number of a destination through one event.

RREQs and RREPs are compared with the stored number before they are taken over, a lost
route increments it, and `neighbor_add` copies it. A HELLO that renews the entry of its
sender and a RERR from the next hop write their number without looking at the stored one.
These two are computed exactly, from the state in which the message arrives; everything
else raises the number or leaves it, unless a RREQ has brought the greatest positive number:
a link break that follows in the same event increments it past 2^31.
-/

import Aodvd.RouteClocks

namespace Aodvd

variable {seqno : Seqno} {received first second : Received} {hello : Rrep} {rerr : Rerr}
  {before : State} {old new rt : RtEntry} (state : State) (noDelete : Bool)

/-! ### Signed numbers -/

theorem signed_of_lt (below : seqno.toNat < 2 ^ 31) : signed seqno = seqno.toNat :=
  BitVec.toInt_eq_toNat_of_lt (by omega)

theorem toNat_of_signed_pos (positive : 0 < signed seqno) :
    seqno.toNat < 2 ^ 31 ∧ signed seqno = seqno.toNat := by
  have below : seqno.toNat < 2 ^ 31 := by
    by_contra large
    have negative : signed seqno = (seqno.toNat : Int) - 2 ^ 32 := by
      rw [signed, BitVec.toInt_eq_toNat_cond, if_neg (by omega)]
      norm_cast
    have bound := seqno.isLt
    omega
  exact ⟨below, signed_of_lt below⟩

/-- The greatest number that is positive when it is read as a signed one. -/
def topSeqno : Seqno := 0x7FFFFFFF#32

/-- Below the greatest number an increment counts up. -/
theorem signed_seqnoIncr (positive : 0 < signed seqno) (notTop : seqno ≠ topSeqno) :
    signed (seqnoIncr seqno) = signed seqno + 1 := by
  obtain ⟨below, value⟩ := toNat_of_signed_pos positive
  have notTopNat : seqno.toNat ≠ 2 ^ 31 - 1 := fun same =>
    notTop (BitVec.eq_of_toNat_eq (same.trans rfl))
  have notZero : seqno ≠ 0#32 := by
    rintro rfl
    exact absurd positive (by decide)
  have notMax : seqno ≠ 0xFFFFFFFF#32 := by
    rintro rfl
    exact absurd positive (by decide)
  have sum : (seqno + 1#32).toNat = seqno.toNat + 1 := by
    rw [BitVec.toNat_add]
    exact Nat.mod_eq_of_lt (by show seqno.toNat + 1 < _; omega)
  rw [seqnoIncr, if_neg notZero, if_neg notMax, signed_of_lt (by omega), sum, value]
  omega

/-! ### Numbers that are written without a comparison -/

/-- The numbers a RERR lists for a destination. -/
def listedSeqnos (rerr : Rerr) (dest : Addr) : List Seqno :=
  ((rerr.udest.take rerr.destCount).filter fun udest => decide (udest.1 = dest)).map Prod.snd

/-- The number that stays when those listed are written one after the other. The first one
makes the entry invalid, unless the RERR asks to keep it. -/
def lastWritten (noDelete : Bool) (listed : List Seqno) : Option Seqno :=
  if noDelete then listed.getLast? else listed.head?

/-- The number a RERR writes into the entry of a destination. -/
def rerrSeqno (config : Config) (origin : State) (received : Received) (rerr : Rerr)
    (dest : Addr) : Option Seqno :=
  match metEntry config origin received dest with
  | none => none
  | some met =>
    if met.state = .valid ∧ met.nextHop = received.src then
      lastWritten rerr.noDelete (listedSeqnos rerr dest)
    else none

/-- The number an event writes into the entry of a destination without comparing it with the
stored one. -/
def writtenSeqno (config : Config) (origin : State) (dest : Addr) : Event → Option Seqno
  | .message received =>
    if received.src ∈ ownAddrs config then none
    else
      match received.hello with
      | some hello =>
        if hello.destAddr = dest ∧ helloUpdates config origin received hello ≠ [] then
          some hello.destSeqno
        else none
      | none =>
        match received.msg with
        | .rerr rerr =>
          if received.len < rerrCalcSize rerr.destCount then none
          else rerrSeqno config origin received rerr dest
        | _ => none
  | _ => none

section

variable {config : Config} {event : Event} {origin : State} {dest : Addr}

/-- Only HELLOs and RERRs write a number unseen. -/
theorem writtenSeqno_eq_none
    (noHello : ∀ received hello, ¬ HandlesHello config event received hello)
    (noRerr : ∀ received rerr, ¬ HandlesRerr config event received rerr) :
    writtenSeqno config origin dest event = none := by
  cases event with
  | message received =>
    rw [writtenSeqno]
    split
    · rfl
    · rename_i foreign
      split
      · rename_i hello isHello
        exact absurd ⟨⟨rfl, foreign⟩, isHello⟩ (noHello received hello)
      · split
        · rename_i rerr isRerr
          split
          · rfl
          · rename_i long
            exact absurd ⟨⟨rfl, foreign⟩, isRerr, Nat.le_of_not_lt long⟩ (noRerr received rerr)
        · rfl
  | _ => rfl

theorem HandlesHello.writtenSeqno (handles : HandlesHello config event received hello) :
    writtenSeqno config origin dest event =
      if hello.destAddr = dest ∧ helloUpdates config origin received hello ≠ [] then
        some hello.destSeqno
      else none := by
  rw [handles.event, Aodvd.writtenSeqno, if_neg handles.foreign, handles.isHello]

theorem HandlesRerr.writtenSeqno (handles : HandlesRerr config event received rerr) :
    writtenSeqno config origin dest event = rerrSeqno config origin received rerr dest := by
  have notHello : received.hello = none := by rw [Received.hello, handles.isRerr]
  rw [handles.event, Aodvd.writtenSeqno, if_neg handles.foreign, notHello, handles.isRerr]
  exact if_neg (Nat.not_lt.mpr handles.long)

/-! ### The number after a HELLO -/

theorem helloUpdateTimeout_same (sender : Addr) (time : Nat) :
    SameRoutes state (helloUpdateTimeout sender time state) :=
  .touch (touch_heardAt state.now) sender (setTimeout (.helloTimer sender) _ state)

theorem helloOffer_not_breaks (hello : Rrep) (read : RtFlags × BitVec 32) (routeState : RouteState)
    (ifindex : Nat) (rt : RtEntry) : ¬ (helloOffer hello read routeState ifindex).Breaks rt :=
  fun breaks => absurd breaks.1 (Nat.lt_irrefl 1)

theorem destSeqno_of_sameRoutes {after : State} (same : SameRoutes before after)
    (found : entryAt before dest = some old) (stays : entryAt after dest = some new) :
    new.destSeqno = old.destSeqno := by
  obtain ⟨rt, rtFound, agree⟩ := same.some found
  obtain rfl := Option.some.inj (rtFound.symm.trans stays)
  exact agree.destSeqno

/-- A HELLO writes its number into the entry it renews and leaves the others alone. -/
theorem helloProcess_destSeqno (sound : origin.rtTbl.Sound)
    (found : entryAt origin dest = some old)
    (stays : entryAt (helloProcess config hello received.len received.ifindex origin) dest =
      some new) :
    new.destSeqno =
      if hello.destAddr = dest ∧ helloUpdates config origin received hello ≠ [] then
        hello.destSeqno
      else old.destSeqno := by
  unfold helloProcess at stays
  rw [rtTableFind_eq_entryAt sound] at stays
  unfold helloUpdates
  cases sender : entryAt origin hello.destAddr with
  | none =>
    rw [sender] at stays
    have other : hello.destAddr ≠ dest := by
      rintro rfl
      exact absurd (sender.symm.trans found) (by simp)
    rw [if_neg fun both => other both.1]
    have inserted := (entryAt_rtTableInsert config (helloOffer hello
      (helloRead config hello received.len received.ifindex none)
      (if config.receiveNHellos ≠ 0 then .invalid else .valid) received.ifindex) sender dest).trans
      (if_neg other)
    dsimp only at stays
    exact destSeqno_of_sameRoutes ((SameRoutes.touch (touch_setHelloCnt 1) _ _).trans
      (helloUpdateTimeout_same _ _ _)) (inserted.trans found) stays
  | some rt =>
    rw [sender] at stays
    dsimp only at stays ⊢
    split at stays
    · rename_i longer
      rw [if_neg fun both => both.2 (if_neg fun renews => renews.1 longer)]
      exact destSeqno_of_sameRoutes (helloUpdateTimeout_same _ _ _) found stays
    · rename_i notLonger
      split at stays
      · rename_i counts
        rw [if_neg fun both => both.2 (if_neg fun renews => renews.2 counts)]
        exact destSeqno_of_sameRoutes ((SameRoutes.touch (touch_setHelloCnt _) _ origin).trans
          (.touch (touch_heardAt _) _ _)) found stays
      · rename_i enough
        have renews : HelloRenews config
            (helloRead config hello received.len received.ifindex (some rt)).1 rt :=
          ⟨notLonger, enough⟩
        by_cases here : hello.destAddr = dest
        · subst here
          obtain ⟨base, updated, _⟩ := entryAt_rtTableUpdate_self config (helloOffer hello
            (helloRead config hello received.len received.ifindex (some rt)) .valid
            received.ifindex) sound sender
          rw [if_pos ⟨rfl, by rw [if_pos renews]; simp⟩,
            destSeqno_of_sameRoutes (helloUpdateTimeout_same _ _ _) updated stays]
          rfl
        · have untouched := (entryAt_rtTableUpdate_other config (helloOffer hello
            (helloRead config hello received.len received.ifindex (some rt)) .valid
            received.ifindex) sound sender (Ne.symm here)).trans
            (if_neg (helloOffer_not_breaks _ _ _ _ _))
          rw [if_neg fun both => here both.1]
          exact destSeqno_of_sameRoutes (helloUpdateTimeout_same _ _ _) (untouched.trans found) stays

/-! ### The number after a RERR -/

/-- An entry once a RERR has written its number into it. -/
def RtEntry.erred (noDelete : Bool) (seqno : Seqno) (rt : RtEntry) : RtEntry :=
  { rt with destSeqno := seqno, state := if noDelete then .valid else .invalid }

/-- A round that hits an entry adds only precursors and the outgoing RERR to its number. -/
theorem rerrVisit_of_hit (config : Config) (noDelete : Bool) {source : Addr}
    {loop : State × RerrDraft} (sound : loop.1.rtTbl.Sound) {udest : Addr × Seqno}
    (found : entryAt loop.1 udest.1 = some rt) (valid : rt.state = .valid)
    (through : rt.nextHop = source) :
    SameRoutes (rerrInvalidate config noDelete udest.1 udest.2 loop.1)
      (rerrVisit config noDelete source loop udest).1 := by
  obtain ⟨included, writes, result⟩ := rerrVisit_hit config noDelete
    ((rtTableFind_eq_entryAt sound udest.1).trans found) ⟨valid, through⟩
  rw [entryAt_destAddr found] at writes
  have written : SameRoutes (rerrInvalidate config noDelete udest.1 udest.2 loop.1) included.1 := by
    rcases writes with rfl | ⟨current, rfl⟩
    · exact .refl _
    · exact .of_rtTbl (aside_rerrInclude ..).rtTbl
  rcases result with same | dropped
  · rw [same]
    exact written
  · rw [dropped]
    exact written.trans (.touch touch_precursorListDestroy _ _)

theorem rerrVisit_of_miss (config : Config) (noDelete : Bool) {source : Addr} {loop : State × RerrDraft}
    (sound : loop.1.rtTbl.Sound) {udest : Addr × Seqno}
    (miss : ∀ rt, entryAt loop.1 udest.1 = some rt → ¬ (rt.state = .valid ∧ rt.nextHop = source)) :
    rerrVisit config noDelete source loop udest = loop :=
  rerrVisit_miss config noDelete fun rt found =>
    miss rt ((rtTableFind_eq_entryAt sound udest.1).symm.trans found)

/-- The entry of a destination after one round of the loop over a RERR: a valid entry over the
sender has taken the number, any other is as it was. -/
theorem rerrVisit_entry (config : Config) (noDelete : Bool) (source : Addr)
    {loop : State × RerrDraft} (sound : loop.1.rtTbl.Sound) (udest : Addr × Seqno)
    (found : entryAt loop.1 dest = some rt) :
    ∃ new, entryAt (rerrVisit config noDelete source loop udest).1 dest = some new ∧
      SamePath new (if udest.1 = dest ∧ rt.state = .valid ∧ rt.nextHop = source then
        rt.erred noDelete udest.2 else rt) := by
  by_cases hit : ∃ listed, entryAt loop.1 udest.1 = some listed ∧ listed.state = .valid ∧
      listed.nextHop = source
  · obtain ⟨listed, listedFound, valid, through⟩ := hit
    have later := rerrVisit_of_hit config noDelete sound listedFound valid through
    have written := entryAt_rerrInvalidate config noDelete udest.2 listedFound valid dest
    by_cases here : dest = udest.1
    · subst here
      obtain rfl := Option.some.inj (listedFound.symm.trans found)
      rw [if_pos ⟨rfl, valid, through⟩]
      obtain ⟨new, newFound, same⟩ := later.some (written.trans (if_pos rfl))
      refine ⟨new, newFound, same.samePath.trans ?_⟩
      cases noDelete with
      | true => exact ⟨rfl, rfl, rfl, rfl, rfl, valid⟩
      | false => exact ⟨rfl, rfl, rfl, rfl, rfl, rfl⟩
    · obtain ⟨new, newFound, same⟩ := later.some ((written.trans (if_neg here)).trans found)
      rw [if_neg fun both => here both.1.symm]
      exact ⟨new, newFound, same.samePath⟩
  · have miss := rerrVisit_of_miss config noDelete sound
      fun listed listedFound both => hit ⟨listed, listedFound, both⟩
    have kept : ¬ (udest.1 = dest ∧ rt.state = .valid ∧ rt.nextHop = source) := fun both =>
      hit ⟨rt, both.1 ▸ found, both.2⟩
    rw [miss, if_neg kept]
    exact ⟨rt, found, (SameRoute.refl rt).samePath⟩

/-- The numbers listed for a destination in a part of a RERR. -/
theorem lastWritten_cons (first : Seqno) (rest : List Seqno) (stored : Seqno) :
    (lastWritten noDelete (first :: rest)).getD stored =
      if noDelete then (lastWritten true rest).getD first else first := by
  cases noDelete with
  | false => rfl
  | true =>
    show (first :: rest).getLast?.getD stored = rest.getLast?.getD first
    rw [List.getLast?_cons]
    rfl

/-- The entry of a destination after the whole loop. -/
theorem rerrLoop_destSeqno {message : Rerr} (handles : HandlesRerr config event received message)
    (udests : List (Addr × Seqno))
    (listed : ∀ udest ∈ udests, udest ∈ message.udest.take message.destCount)
    {loop : State × RerrDraft} (regular : Regular config loop.1)
    (drafted : Drafted message.noDelete loop) (found : entryAt loop.1 dest = some rt) :
    ∃ new, entryAt (udests.foldl (rerrVisit config message.noDelete received.src) loop).1 dest =
        some new ∧
      new.destSeqno = (if rt.state = .valid ∧ rt.nextHop = received.src then
          lastWritten message.noDelete
            ((udests.filter fun udest => decide (udest.1 = dest)).map Prod.snd)
        else none).getD rt.destSeqno := by
  induction udests generalizing loop rt with
  | nil =>
    refine ⟨rt, found, ?_⟩
    split
    · cases message.noDelete <;> rfl
    · rfl
  | cons udest rest inductionHypothesis =>
    have visit : Acts config event loop.1 loop.1
          (rerrVisit config message.noDelete received.src loop udest).1 ∧
        Drafted message.noDelete (rerrVisit config message.noDelete received.src loop udest) :=
      rerrVisit_acts handles regular drafted (listed udest List.mem_cons_self)
    obtain ⟨visited, visitedFound, path⟩ := rerrVisit_entry config message.noDelete received.src
      regular.sound udest found
    obtain ⟨new, newFound, destSeqno⟩ := inductionHypothesis
      (fun other member => listed other (List.mem_cons_of_mem _ member))
      (visit.1.regular regular) visit.2 visitedFound
    refine ⟨new, newFound, destSeqno.trans ?_⟩
    by_cases here : udest.1 = dest
    · by_cases hit : rt.state = .valid ∧ rt.nextHop = received.src
      · rw [if_pos ⟨here, hit⟩] at path
        rw [path.state, path.nextHop, path.destSeqno, if_pos hit,
          List.filter_cons_of_pos (by simpa using here), List.map_cons, lastWritten_cons]
        unfold RtEntry.erred
        -- a RERR that deletes has made the entry invalid, so that no later number counts
        cases message.noDelete with
        | true =>
          simp only [if_true]
          rw [if_pos ⟨trivial, hit.2⟩]
        | false => simp
      · rw [if_neg fun both => hit both.2] at path
        rw [path.state, path.nextHop, path.destSeqno, if_neg hit, if_neg hit]
    · rw [if_neg fun both => here both.1] at path
      rw [path.state, path.nextHop, path.destSeqno, List.filter_cons_of_neg (by simpa using here)]

/-- The entry that a message meets has the number that is stored when it arrives. -/
theorem metEntry_of_some (config : Config) (received : Received)
    (found : entryAt origin dest = some old) :
    ∃ met, metEntry config origin received dest = some met ∧ met.destSeqno = old.destSeqno := by
  unfold metEntry
  rw [found]
  split
  · refine ⟨_, rfl, ?_⟩
    dsimp only
    unfold RtEntry.refreshed
    split <;> rfl
  · exact ⟨old, rfl, rfl⟩

/-- An entry that is there when a message arrives is there when the message is looked at. -/
theorem Introduced.stored {state : State} (introduced : Introduced config origin received state)
    (found : entryAt origin dest = some old) :
    ∃ stored met, entryAt state dest = some stored ∧
      metEntry config origin received dest = some met ∧ SameRoute stored met ∧
      met.destSeqno = old.destSeqno := by
  obtain ⟨met, meets, same⟩ := metEntry_of_some config received found
  have agree := introduced.meets dest
  rw [meets] at agree
  generalize current : entryAt state dest = stored at agree
  cases agree with
  | some agree => exact ⟨_, met, rfl, meets, agree, same⟩

/-- A RERR leaves the number it writes in the entry of a destination, and the stored one where
it writes none. -/
theorem rerrProcess_destSeqno (regular : Regular config origin)
    (handles : HandlesRerr config (.message received) received rerr)
    (found : entryAt origin dest = some old)
    (stays : entryAt (rerrProcess config rerr received.len received.src
      (neighborAdd config received.src received.ifindex origin)) dest = some new) :
    new.destSeqno = (rerrSeqno config origin received rerr dest).getD old.destSeqno := by
  have notHello : received.hello = none := by rw [Received.hello, handles.isRerr]
  have introduced := neighborAdd_introduced regular handles.toArrives notHello
  obtain ⟨rt, met, current, meets, agree, same⟩ := introduced.stored found
  unfold rerrProcess at stays
  rw [if_neg (Nat.not_lt.mpr handles.long)] at stays
  dsimp only at stays
  have drafted : Drafted rerr.noDelete
      (neighborAdd config received.src received.ifindex origin, RerrDraft.none) :=
    fun created => absurd created Bool.false_ne_true
  obtain ⟨final, finalFound, destSeqno⟩ := rerrLoop_destSeqno handles
    (rerr.udest.take rerr.destCount) (fun _ => id) introduced.regular drafted current
  rw [(aside_rerrSend ..).entryAt] at stays
  obtain rfl := Option.some.inj (finalFound.symm.trans stays)
  rw [destSeqno, agree.state, agree.nextHop, agree.destSeqno, same, rerrSeqno, meets]
  rfl

/-! ### The number after any other event -/

/-- The number that a RREQ or RREP carries for a destination. -/
inductive Advertised (config : Config) (event : Event) (origin : State) (dest : Addr) :
    Seqno → Prop
  | rreq (received : Received) (rreq : Rreq) (handles : HandlesRreq config event origin received rreq)
      (here : rreq.origAddr = dest) : Advertised config event origin dest rreq.origSeqno
  | rrep (received : Received) (rrep : Rrep) (handles : HandlesRrep config event received rrep)
      (here : rrep.destAddr = dest) : Advertised config event origin dest rrep.destSeqno

theorem Advertised.not_local (advertised : Advertised config event origin dest seqno) :
    ¬ event.Local := by
  cases advertised with
  | rreq _ _ handles => exact handles.toArrives.not_local
  | rrep _ _ handles => exact handles.toArrives.not_local

theorem HandlesRreq.unique {rreq other : Rreq}
    (handles : HandlesRreq config event origin first rreq)
    (again : HandlesRreq config event origin second other) : rreq = other := by
  obtain rfl := Event.message.inj (handles.event.symm.trans again.event)
  exact AodvMsg.rreq.inj (handles.isRreq.symm.trans again.isRreq)

theorem HandlesRrep.unique {rrep other : Rrep} (handles : HandlesRrep config event first rrep)
    (again : HandlesRrep config event second other) : rrep = other := by
  obtain rfl := Event.message.inj (handles.event.symm.trans again.event)
  exact AodvMsg.rrep.inj (handles.isRrep.symm.trans again.isRrep)

theorem HandlesRreq.not_rrep {rreq : Rreq} {rrep : Rrep}
    (handles : HandlesRreq config event origin first rreq) :
    ¬ HandlesRrep config event second rrep := by
  intro other
  obtain rfl := Event.message.inj (handles.event.symm.trans other.event)
  exact absurd (handles.isRreq.symm.trans other.isRrep) (by simp)

/-- A RREQ brings the greatest positive number: a link break that follows in the same event
increments it to a negative one. -/
def BringsTop (config : Config) (origin : State) (dest : Addr) (event : Event) : Prop :=
  ∃ received rreq, HandlesRreq config event origin received rreq ∧ rreq.origAddr = dest ∧
    rreq.origSeqno = topSeqno

/-- The entry of a destination during an event: its number has not gone down, and one that may
still be incremented is the stored one or has just been brought by a RREQ or RREP. -/
structure Grown (config : Config) (event : Event) (origin : State) (dest : Addr) (old rt : RtEntry) :
    Prop where
  least : signed old.destSeqno ≤ signed rt.destSeqno
  fresh : rt.state = .valid →
    rt.destSeqno = old.destSeqno ∨ Advertised config event origin dest rt.destSeqno

theorem least_of_accepts {stored offered : Seqno} (positive : 0 < signed stored) {rest : Bool}
    (accepts : (decide (stored = 0#32) || decide (signed stored < signed offered) ||
      (decide (offered = stored) && rest)) = true) : signed stored ≤ signed offered := by
  simp only [Bool.or_eq_true, Bool.and_eq_true, decide_eq_true_eq] at accepts
  rcases accepts with (zero | less) | ⟨same, _⟩
  · rw [zero] at positive
    exact absurd positive (by decide)
  · exact Int.le_of_lt less
  · rw [same]

/-- An accepted RREQ or RREP raises the number; `neighbor_add` copies it. -/
theorem Updates.grown {offer : Offer} (cause : Updates config event origin before rt offer)
    (adopted : Adopted new offer rt) (found : entryAt origin offer.dest = some old)
    (positive : 0 < signed old.destSeqno)
    (noHello : ∀ received hello, ¬ HandlesHello config event received hello) :
    Grown config event origin offer.dest old new := by
  have met : ∀ received met, metEntry config origin received offer.dest = some met →
      SameRoute rt met → rt.destSeqno = old.destSeqno := by
    intro received met meets same
    obtain ⟨stored, storedMeets, destSeqno⟩ := metEntry_of_some config received found
    obtain rfl := Option.some.inj (storedMeets.symm.trans meets)
    exact same.destSeqno.trans destSeqno
  cases cause with
  | neighbor received arrives notHello meets =>
    obtain rfl := Option.some.inj (meets.symm.trans found)
    exact ⟨Int.le_of_eq (congrArg signed adopted.destSeqno.symm), fun _ => .inl adopted.destSeqno⟩
  | hello received hello handles => exact absurd handles (noHello received hello)
  | rreq received rreq handles ready stored meets same accepts =>
    have seqno := met received stored meets same
    refine ⟨?_, fun _ => .inr (adopted.destSeqno ▸ .rreq received rreq handles rfl)⟩
    rw [adopted.destSeqno, ← seqno]
    exact least_of_accepts (seqno ▸ positive) accepts
  | rrep received rrep handles ready stored meets same accepts =>
    have seqno := met received stored meets same
    refine ⟨?_, fun _ => .inr (adopted.destSeqno ▸ .rrep received rrep handles rfl)⟩
    rw [adopted.destSeqno, ← seqno]
    exact least_of_accepts (seqno ▸ positive) accepts

/-- A RREQ or RREP about a destination moves no other destination away. -/
theorem Advertised.dest_of_breaks {offer : Offer}
    (advertised : Advertised config event origin dest seqno)
    (cause : Updates config event origin before rt offer) (breaks : offer.Breaks rt)
    (noHello : ∀ received hello, ¬ HandlesHello config event received hello) :
    offer.dest = dest := by
  cases cause with
  | neighbor => exact absurd breaks (neighborOffer_not_breaks _ _ _ _ _ _)
  | hello received hello handles => exact absurd handles (noHello received hello)
  | rreq received rreq handles =>
    cases advertised with
    | rreq _ _ heard here =>
      obtain rfl := handles.unique heard
      exact here
    | rrep _ _ heard => exact absurd heard handles.not_rrep
  | rrep received rrep handles =>
    cases advertised with
    | rreq _ _ heard => exact absurd handles heard.not_rrep
    | rrep _ _ heard here =>
      obtain rfl := handles.unique heard
      exact here

/-- A number that is lost with its route is not the greatest one: a RREQ or RREP that has just
brought it is not followed by a link break, unless an acknowledgement is asked for. -/
theorem Loses.not_top (cause : Loses config event origin before dest)
    (grown : Grown config event origin dest old rt) (valid : rt.state = .valid)
    (below : old.destSeqno ≠ topSeqno)
    (noHello : ∀ received hello, ¬ HandlesHello config event received hello)
    (plain : ¬ BringsTop config origin dest event) : rt.destSeqno ≠ topSeqno := by
  intro top
  rcases grown.fresh valid with same | advertised
  · exact below (same ▸ top)
  · rw [top] at advertised
    cases cause with
    | quiet quiet => exact advertised.not_local quiet
    | suspect _ received rreq handles =>
      generalize number : topSeqno = seqno at advertised
      cases advertised with
      | rreq _ _ heard here => exact plain ⟨_, _, heard, here, number.symm⟩
      | rrep _ _ heard => exact handles.not_rrep heard
    | farther offer met other breaks update =>
      exact other (advertised.dest_of_breaks update breaks noHello)

/-- The entry of a destination stays grown through every change, unless a HELLO or a RERR is
handled. -/
theorem EntryChange.grown {entry after : Option RtEntry}
    (change : EntryChange config event origin before dest entry after)
    (found : entryAt origin dest = some old) (positive : 0 < signed old.destSeqno)
    (below : old.destSeqno ≠ topSeqno)
    (noHello : ∀ received hello, ¬ HandlesHello config event received hello)
    (noRerr : ∀ received rerr, ¬ HandlesRerr config event received rerr)
    (plain : ¬ BringsTop config origin dest event) (there : ¬ event.Local → entry ≠ none)
    (grown : ∀ rt, entry = some rt → Grown config event origin dest old rt) :
    (¬ event.Local → after ≠ none) ∧
      ∀ rt, after = some rt → Grown config event origin dest old rt := by
  have held : ∀ new, Grown config event origin dest old new →
      (¬ event.Local → some new ≠ none) ∧
        ∀ rt, some new = some rt → Grown config event origin dest old rt := by
    intro new grown
    refine ⟨fun _ => by simp, fun rt same => ?_⟩
    obtain rfl := Option.some.inj same
    exact grown
  cases change with
  | absent => exact ⟨there, grown⟩
  | @keep rt new same =>
    have before := grown rt rfl
    refine held new ⟨same.destSeqno ▸ before.least, fun valid => ?_⟩
    rw [same.destSeqno]
    exact before.fresh (same.state ▸ valid)
  | @mark rt new same =>
    have before := grown rt rfl
    refine held new ⟨same.destSeqno ▸ before.least, fun valid => ?_⟩
    rw [same.destSeqno]
    exact before.fresh (same.state ▸ valid)
  | insert offer _ cause =>
    obtain ⟨received, arrives⟩ := cause.offered.arrives
    exact absurd rfl (there arrives.not_local)
  | update offer here cause adopted =>
    subst here
    exact held _ (cause.grown adopted found positive noHello)
  | @retire rt new retired cause =>
    have before := grown rt rfl
    have notTop := cause.not_top before retired.valid below noHello plain
    have raised := signed_seqnoIncr (Int.lt_of_lt_of_le positive before.least) notTop
    refine held new ⟨?_, fun valid => absurd (retired.invalid.symm.trans valid) (by simp)⟩
    rw [retired.destSeqno, raised]
    have least := before.least
    omega
  | error received message seqno handles => exact absurd handles (noRerr received message)
  | delete _ _ due =>
    exact ⟨fun heard => absurd (due ▸ trivial) heard, fun _ missing => absurd missing (by simp)⟩

/-- An event that handles neither a HELLO nor a RERR does not lower the number. -/
theorem Handled.signed_le {final : State} (handled : Handled config origin event final)
    (regular : Regular config origin) (found : entryAt origin dest = some old)
    (positive : 0 < signed old.destSeqno) (below : old.destSeqno ≠ topSeqno)
    (noHello : ∀ received hello, ¬ HandlesHello config event received hello)
    (noRerr : ∀ received rerr, ¬ HandlesRerr config event received rerr)
    (plain : ¬ BringsTop config origin dest event) (stays : entryAt final dest = some new) :
    signed old.destSeqno ≤ signed new.destSeqno := by
  have kept := handled.entryInvariant regular dest
    (fun entry => (¬ event.Local → entry ≠ none) ∧
      ∀ rt, entry = some rt → Grown config event origin dest old rt)
    (fun _ _ _ change current =>
      change.grown found positive below noHello noRerr plain current.1 current.2)
    ⟨fun _ => by simp [found], fun rt same => by
      obtain rfl := Option.some.inj (found.symm.trans same)
      exact ⟨Int.le_refl _, fun _ => .inl rfl⟩⟩
  exact (kept.2 new stays).least

end

end Aodvd
