/-
This file follows what a node has told others about its routes.

A RREQ tells of the route to its originator and a RREP of the route to its destination. What a
node has told is backed by its own entry: the entry is newer, or equally new, valid and not
longer. RREQs, RREPs, link breaks and expiries keep every advert backed, since they only make an
entry newer, shorter or invalid with a greater number. Five things may not, and can be read off
the state before the event and the message: a HELLO or a RERR that brings back an old number, the
deletion of an entry, a gratuitous reply about an invalid route, and a hop count that overflows.
-/

import Aodvd.Datagrams
import Aodvd.SequenceNumbers

namespace Aodvd

variable {rt old new : RtEntry} {rerr : Rerr} {offer : Offer}

/-! ### Adverts -/

/-- A route that a message tells of. -/
structure Advert where
  dest : Addr
  seqno : Seqno
  hops : Nat
  deriving DecidableEq, Repr

/-- The route a message tells of, with the hop count at its sender. -/
def AodvMsg.advert : AodvMsg → Option Advert
  | .rreq request => some ⟨request.origAddr, request.origSeqno, request.hcnt⟩
  | .rrep reply => some ⟨reply.destAddr, reply.destSeqno, reply.hcnt⟩
  | _ => none

/-- The adverts among the datagrams of a node. -/
def adverts (sent : List Datagram) : List Advert :=
  sent.filterMap fun datagram => datagram.msg.advert

theorem mem_adverts {sent : List Datagram} {advert : Advert} :
    advert ∈ adverts sent ↔ ∃ datagram ∈ sent, datagram.msg.advert = some advert :=
  List.mem_filterMap

theorem adverts_append (early late : List Datagram) :
    adverts (early ++ late) = adverts early ++ adverts late :=
  List.filterMap_append

/-- The entry is newer than the advert, or equally new, valid and not longer. -/
def Advert.BackedBy (advert : Advert) (rt : RtEntry) : Prop :=
  advert.seqno.toNat < rt.destSeqno.toNat ∨
    advert.seqno = rt.destSeqno ∧ rt.state = .valid ∧ rt.hcnt ≤ advert.hops

theorem Advert.BackedBy.le {advert : Advert} (backed : advert.BackedBy rt) :
    advert.seqno.toNat ≤ rt.destSeqno.toNat := by
  rcases backed with newer | ⟨same, _⟩
  · exact Nat.le_of_lt newer
  · rw [same]

/-- A newer entry backs what an entry has backed. -/
theorem Advert.BackedBy.of_newer {advert : Advert} (backed : advert.BackedBy old)
    (newer : old.destSeqno.toNat < new.destSeqno.toNat) : advert.BackedBy new :=
  .inl (Nat.lt_of_le_of_lt backed.le newer)

/-- So does an equally new one that is valid and not longer if the old one was. -/
theorem Advert.BackedBy.of_same {advert : Advert} (backed : advert.BackedBy old)
    (same : new.destSeqno = old.destSeqno) (valid : old.state = .valid → new.state = .valid)
    (shorter : old.state = .valid → old.hcnt ≤ advert.hops → new.hcnt ≤ advert.hops) :
    advert.BackedBy new := by
  rcases backed with newer | ⟨equal, isValid, short⟩
  · exact .inl (same.symm ▸ newer)
  · exact .inr ⟨equal.trans same.symm, valid isValid, shorter isValid short⟩

theorem Advert.BackedBy.of_samePath {advert : Advert} (backed : advert.BackedBy old)
    (same : SamePath new old) : advert.BackedBy new :=
  backed.of_same same.destSeqno (fun valid => same.state.trans valid)
    fun _ short => same.hcnt ▸ short

/-! ### What keeps adverts backed -/

/-- The entry of a destination will be deleted when the timers run. -/
def Doomed (origin : State) (dest : Addr) : Prop :=
  .rtTimer dest ∈ (gather origin).timers.expTq ∧
    rtHandler origin dest = some .routeDeleteTimeout

instance (origin : State) (dest : Addr) : Decidable (Doomed origin dest) :=
  inferInstanceAs (Decidable (_ ∧ _))

/-- A RERR hits the entry of a destination. -/
def RerrHits (config : Config) (origin : State) (received : Received) (dest : Addr) : Prop :=
  ∃ met ∈ metEntry config origin received dest, met.state = .valid ∧ met.nextHop = received.src

instance (config : Config) (origin : State) (received : Received) (dest : Addr) :
    Decidable (RerrHits config origin received dest) :=
  inferInstanceAs (Decidable (∃ met ∈ _, _))

/-- A message does not make an entry worse than what the node has told about it. -/
def Received.Harmless (config : Config) (sent : List Datagram) (origin : State)
    (received : Received) : Prop :=
  match received.hello with
  | some hello => ∀ advert ∈ adverts sent, advert.dest = hello.destAddr →
      advert.seqno.toNat ≤ hello.destSeqno.toNat
  | none =>
    match received.msg with
    | .rreq rreq => rreq.hcnt < 255 ∧ (rreq.flags.gratuitous = true →
        ∀ met ∈ metEntry config origin received rreq.origAddr, met.state = .invalid →
          rreqAccepts rreq met = true)
    | .rrep rrep => rrep.hcnt < 255
    | .rerr rerr => ∀ udest ∈ rerr.udest.take rerr.destCount,
        RerrHits config origin received udest.1 →
          ∀ advert ∈ adverts sent, advert.dest = udest.1 → advert.seqno.toNat < udest.2.toNat
    | _ => True

instance (config : Config) (sent : List Datagram) (origin : State) (received : Received) :
    Decidable (received.Harmless config sent origin) := by
  unfold Received.Harmless
  split
  · infer_instance
  · split <;> infer_instance

/-- An event does not make an entry worse than what the node has told about it. -/
def Event.Harmless (config : Config) (sent : List Datagram) (origin : State) : Event → Prop
  | .timers => ∀ advert ∈ adverts sent, ¬ Doomed origin advert.dest
  | .message received => received.src ∉ ownAddrs config → received.Harmless config sent origin
  | _ => True

instance (config : Config) (sent : List Datagram) (origin : State) :
    (event : Event) → Decidable (event.Harmless config sent origin)
  | .timers => inferInstanceAs (Decidable (∀ advert ∈ adverts sent, _))
  | .message received => inferInstanceAs (Decidable (_ → received.Harmless config sent origin))
  | .packet _ => .isTrue trivial
  | .txDrop _ => .isTrue trivial

/-- The sequence numbers that meet in an event are below 2^31. -/
def Event.Below (origin : State) (event : Event) : Prop :=
  (∀ rt ∈ rtEntries origin, rt.destSeqno.toNat < 2 ^ 31) ∧
    match event with
    | .message received => ∀ advert ∈ received.msg.advert, advert.seqno.toNat < 2 ^ 31
    | _ => True

instance (origin : State) : (event : Event) → Decidable (event.Below origin)
  | .message received => inferInstanceAs (Decidable (_ ∧ ∀ advert ∈ received.msg.advert, _))
  | .packet _ => inferInstanceAs (Decidable (_ ∧ True))
  | .txDrop _ => inferInstanceAs (Decidable (_ ∧ True))
  | .timers => inferInstanceAs (Decidable (_ ∧ True))

section

variable {config : Config} {event : Event} {origin before : State} {dest : Addr}
  {sent : List Datagram}

theorem HandlesHello.harmless {received : Received} {hello : Rrep}
    (handles : HandlesHello config event received hello)
    (harmless : event.Harmless config sent origin) {advert : Advert} (told : advert ∈ adverts sent)
    (here : advert.dest = hello.destAddr) : advert.seqno.toNat ≤ hello.destSeqno.toNat := by
  rw [handles.event] at harmless
  have kept := harmless handles.foreign
  rw [Received.Harmless, handles.isHello] at kept
  exact kept advert told here

theorem HandlesRreq.harmless {received : Received} {rreq : Rreq}
    (handles : HandlesRreq config event origin received rreq)
    (harmless : event.Harmless config sent origin) :
    rreq.hcnt < 255 ∧ (rreq.flags.gratuitous = true →
      ∀ met ∈ metEntry config origin received rreq.origAddr, met.state = .invalid →
        rreqAccepts rreq met = true) := by
  rw [handles.event] at harmless
  have kept := harmless handles.foreign
  rwa [Received.Harmless, Received.hello_eq_none_of_rreq handles.isRreq, handles.isRreq] at kept

theorem HandlesRrep.harmless {received : Received} {rrep : Rrep}
    (handles : HandlesRrep config event received rrep)
    (harmless : event.Harmless config sent origin) : rrep.hcnt < 255 := by
  rw [handles.event] at harmless
  have kept := harmless handles.foreign
  rwa [Received.Harmless, handles.notHello, handles.isRrep] at kept

theorem HandlesRerr.harmless {received : Received}
    (handles : HandlesRerr config event received rerr)
    (harmless : event.Harmless config sent origin) {seqno : Seqno}
    (listed : (dest, seqno) ∈ rerr.udest.take rerr.destCount)
    (hits : RerrHits config origin received dest) {advert : Advert} (told : advert ∈ adverts sent)
    (here : advert.dest = dest) : advert.seqno.toNat < seqno.toNat := by
  have notHello : received.hello = none := by rw [Received.hello, handles.isRerr]
  rw [handles.event] at harmless
  have kept := harmless handles.foreign
  rw [Received.Harmless, notHello, handles.isRerr] at kept
  exact kept (dest, seqno) listed hits advert told here

/-- What is assumed about an event: links are bidirectional, numbers are small, nothing is made
worse than told, and no RERR asks to keep a route. -/
structure Tame (config : Config) (sent : List Datagram) (origin : State) (event : Event) : Prop where
  regular : Regular config origin
  bidirectional : config.unidirHack = false
  below : event.Below origin
  harmless : event.Harmless config sent origin
  deletes : ∀ received rerr, HandlesRerr config event received rerr → rerr.noDelete = false

theorem Tame.stored (tame : Tame config sent origin event) (found : entryAt origin dest = some rt) :
    rt.destSeqno.toNat < 2 ^ 31 :=
  tame.below.1 rt (tame.regular.sound.entryAt_eq_some_iff.mp found).1

/-- The number of the entry that a message meets is small. -/
theorem Tame.met (tame : Tame config sent origin event) {received : Received} {met : RtEntry}
    (meets : metEntry config origin received dest = some met) : met.destSeqno.toNat < 2 ^ 31 := by
  cases found : entryAt origin dest with
  | some old =>
    obtain ⟨stored, storedMeets, same⟩ := metEntry_of_some config received found
    obtain rfl := Option.some.inj (storedMeets.symm.trans meets)
    rw [same]
    exact tame.stored found
  | none =>
    unfold metEntry at meets
    rw [found] at meets
    split at meets
    · obtain rfl := Option.some.inj meets
      exact Nat.two_pow_pos 31
    · exact absurd meets (by simp)

theorem Tame.heard (tame : Tame config sent origin event) {received : Received}
    (arrives : Arrives config event received) {advert : Advert}
    (tells : received.msg.advert = some advert) : advert.seqno.toNat < 2 ^ 31 := by
  have numbers := tame.below.2
  rw [arrives.event] at numbers
  exact numbers advert tells

theorem HandlesHello.isRrep {received : Received} {hello : Rrep}
    (handles : HandlesHello config event received hello) : received.msg = .rrep hello := by
  have isHello := handles.isHello
  unfold Received.hello at isHello
  split at isHello
  · rename_i rrep is
    split at isHello
    · exact is.trans (congrArg _ (Option.some.inj isHello))
    · exact absurd isHello (by simp)
  · exact absurd isHello (by simp)

theorem HandlesRerr.unique_msg {first second : Received}
    (handles : HandlesRerr config event first rerr) (arrives : Arrives config event second) :
    second.msg = .rerr rerr := by
  obtain rfl := Event.message.inj (handles.event.symm.trans arrives.event)
  exact handles.isRerr

/-- While a RERR is handled, only the entry of its source is renewed. -/
theorem HandlesRerr.offered {received : Received}
    (handles : HandlesRerr config event received rerr) {found : Option RtEntry}
    (offered : Offered config event origin before found offer) : offer.dest = received.src := by
  cases offered with
  | neighbor other arrives => exact (Event.message.inj (handles.event.symm.trans arrives.event)) ▸ rfl
  | hello other hello heard =>
    exact absurd (heard.isRrep.symm.trans (handles.unique_msg heard.toArrives)) (by simp)
  | rreq other rreq heard =>
    exact absurd (heard.isRreq.symm.trans (handles.unique_msg heard.toArrives)) (by simp)
  | rrep other rrep heard =>
    exact absurd (heard.isRrep.symm.trans (handles.unique_msg heard.toArrives)) (by simp)

/-- The entry of the source of a RERR is hit. -/
theorem Tame.hits_source (tame : Tame config sent origin event) (received : Received) :
    RerrHits config origin received received.src := by
  unfold RerrHits metEntry
  rw [if_pos rfl]
  refine ⟨_, rfl, ?_⟩
  split
  · exact ⟨rfl, rfl⟩
  · rename_i rt found
    have bidirectional := tame.regular.bidirectional tame.bidirectional _ rt found
    rw [RtEntry.refreshed, if_neg (Bool.eq_false_iff.mp bidirectional)]
    exact ⟨rfl, rfl⟩

/-- The entry of a destination while an event is handled: it has a hop count, its number is small
if it is valid, and a RERR that hits it hits the entry that it has met. -/
structure Fit (config : Config) (event : Event) (origin : State) (dest : Addr)
    (entry : Option RtEntry) : Prop where
  far : ∀ rt, entry = some rt → 1 ≤ rt.hcnt
  below : ∀ rt, entry = some rt → rt.state = .valid → rt.destSeqno.toNat < 2 ^ 31
  hit : ∀ received rerr, HandlesRerr config event received rerr → ∀ rt, entry = some rt →
    rt.state = .valid → rt.nextHop = received.src → RerrHits config origin received dest

theorem Tame.fit (tame : Tame config sent origin event)
    (far : ∀ rt, entryAt origin dest = some rt → 1 ≤ rt.hcnt) :
    Fit config event origin dest (entryAt origin dest) where
  far := far
  below rt found _ := tame.stored found
  hit received rerr handles rt found valid through := by
    by_cases source : dest = received.src
    · exact source ▸ tame.hits_source received
    · exact ⟨rt, (if_neg source).trans found, valid, through⟩

theorem Offer.hcnt_of_small {hops : Nat} (is : offer.hops = hops + 1) (small : hops < 255) :
    offer.hcnt = hops + 1 := by
  rw [Offer.hcnt, is, Nat.mod_eq_of_lt (by omega)]

theorem Tame.offered (tame : Tame config sent origin event) {found : Option RtEntry}
    (offered : Offered config event origin before found offer) :
    1 ≤ offer.hcnt ∧ offer.seqno.toNat < 2 ^ 31 := by
  cases offered with
  | neighbor received arrives _ met =>
    refine ⟨Nat.le_refl 1, ?_⟩
    cases found with
    | none => exact Nat.two_pow_pos 31
    | some rt => exact tame.stored met
  | hello received hello handles =>
    exact ⟨Nat.le_refl 1, tame.heard handles.toArrives (congrArg AodvMsg.advert handles.isRrep)⟩
  | rreq received rreq handles =>
    rw [Offer.hcnt_of_small rfl (handles.harmless tame.harmless).1]
    exact ⟨Nat.le_add_left .., tame.heard handles.toArrives (congrArg AodvMsg.advert handles.isRreq)⟩
  | rrep received rrep handles =>
    rw [Offer.hcnt_of_small rfl (handles.harmless tame.harmless)]
    exact ⟨Nat.le_add_left .., tame.heard handles.toArrives (congrArg AodvMsg.advert handles.isRrep)⟩

theorem EntryChange.fit {old new : Option RtEntry}
    (change : EntryChange config event origin before dest old new)
    (tame : Tame config sent origin event) (fit : Fit config event origin dest old) :
    Fit config event origin dest new := by
  have single {rt : RtEntry} (far : 1 ≤ rt.hcnt)
      (below : rt.state = .valid → rt.destSeqno.toNat < 2 ^ 31)
      (hit : ∀ received rerr, HandlesRerr config event received rerr → rt.state = .valid →
        rt.nextHop = received.src → RerrHits config origin received dest) :
      Fit config event origin dest (some rt) :=
    ⟨fun other is => Option.some.inj is ▸ far, fun other is => Option.some.inj is ▸ below,
      fun received rerr handles other is => Option.some.inj is ▸ hit received rerr handles⟩
  cases change with
  | absent => exact fit
  | @keep old new same =>
    refine single (same.hcnt ▸ fit.far old rfl) (fun valid => ?_)
      fun received rerr handles valid through =>
        fit.hit received rerr handles old rfl (same.state ▸ valid) (same.nextHop ▸ through)
    exact same.destSeqno ▸ fit.below old rfl (same.state ▸ valid)
  | @mark old new same =>
    refine single (same.hcnt ▸ fit.far old rfl) (fun valid => ?_)
      fun received rerr handles valid through =>
        fit.hit received rerr handles old rfl (same.state ▸ valid) (same.nextHop ▸ through)
    exact same.destSeqno ▸ fit.below old rfl (same.state ▸ valid)
  | insert offer here cause =>
    obtain ⟨far, below⟩ := tame.offered cause.offered
    refine single far (fun _ => below) fun received rerr handles _ _ => ?_
    rw [← here, handles.offered cause.offered]
    exact tame.hits_source received
  | update offer here cause adopted =>
    obtain ⟨far, below⟩ := tame.offered cause.offered
    refine single (adopted.hcnt.symm ▸ far) (fun _ => adopted.destSeqno.symm ▸ below)
      fun received rerr handles _ _ => ?_
    rw [← here, handles.offered cause.offered]
    exact tame.hits_source received
  | @retire old new retired =>
    have invalid : new.state ≠ .valid := fun valid =>
      RouteState.noConfusion (retired.invalid.symm.trans valid)
    exact single (retired.hcnt ▸ fit.far old rfl) (fun valid => absurd valid invalid)
      fun _ _ _ valid => absurd valid invalid
  | @error old new received message seqno handles listed valid through same =>
    have invalid : new.state ≠ .valid := fun isValid => by
      have state := same.state
      rw [tame.deletes received message handles] at state
      exact RouteState.noConfusion (state.symm.trans isValid)
    have hcnt : new.hcnt = old.hcnt := same.hcnt
    exact single (hcnt ▸ fit.far old rfl) (fun valid => absurd valid invalid)
      fun _ _ _ valid => absurd valid invalid
  | delete =>
    exact ⟨fun _ is => absurd is (by simp), fun _ is => absurd is (by simp),
      fun _ _ _ _ is => absurd is (by simp)⟩

/-! ### Entries that back adverts -/

theorem toNat_ne_zero {seqno : Seqno} (counted : seqno ≠ 0#32) : seqno.toNat ≠ 0 :=
  fun zero => counted (BitVec.eq_of_toNat_eq zero)

theorem toNat_lt_of_signed_lt {first second : Seqno} (firstBelow : first.toNat < 2 ^ 31)
    (secondBelow : second.toNat < 2 ^ 31) (less : signed first < signed second) :
    first.toNat < second.toNat := by
  rw [signed_of_lt firstBelow, signed_of_lt secondBelow] at less
  exact Int.ofNat_lt.mp less

/-- A lost route gets a greater number. -/
theorem toNat_seqnoIncr {seqno : Seqno} (counted : seqno.toNat ≠ 0)
    (below : seqno.toNat < 2 ^ 31) : seqno.toNat < (seqnoIncr seqno).toNat := by
  have notZero : seqno ≠ 0#32 := by
    rintro rfl
    exact counted rfl
  have notMax : seqno ≠ 0xFFFFFFFF#32 := by
    rintro rfl
    exact absurd below (by decide)
  have sum : (seqno + 1#32).toNat = seqno.toNat + 1 := by
    rw [BitVec.toNat_add]
    exact Nat.mod_eq_of_lt (by show seqno.toNat + 1 < _; omega)
  rw [seqnoIncr, if_neg notZero, if_neg notMax, sum]
  exact Nat.lt_succ_self _

/-- A RREQ or RREP is taken over if it is newer than the stored route, or equally new and shorter,
or equally new when the stored route is invalid. -/
theorem Advert.BackedBy.of_accepted {advert : Advert} {seqno : Seqno} {hops : Nat}
    (backed : advert.BackedBy old) (counted : advert.seqno ≠ 0#32)
    (oldBelow : old.destSeqno.toNat < 2 ^ 31) (below : seqno.toNat < 2 ^ 31)
    (accepts : old.destSeqno = 0#32 ∨ signed old.destSeqno < signed seqno ∨
      seqno = old.destSeqno ∧ (old.state = .invalid ∨ hops < old.hcnt))
    (destSeqno : new.destSeqno = seqno) (state : new.state = .valid) (hcnt : new.hcnt = hops) :
    advert.BackedBy new := by
  rcases accepts with zero | newer | ⟨same, better⟩
  · have least := backed.le
    rw [zero] at least
    exact absurd (Nat.le_zero.mp least) (toNat_ne_zero counted)
  · exact backed.of_newer (destSeqno ▸ toNat_lt_of_signed_lt oldBelow below newer)
  · refine backed.of_same (destSeqno.trans same) (fun _ => state) fun valid short => ?_
    rcases better with invalid | shorter
    · exact RouteState.noConfusion (invalid.symm.trans valid)
    · exact hcnt ▸ Nat.le_of_lt (Nat.lt_of_lt_of_le shorter short)

theorem rreqAccepts_iff (rreq : Rreq) (rt : RtEntry) :
    rreqAccepts rreq rt = true ↔ rt.destSeqno = 0#32 ∨
      signed rt.destSeqno < signed rreq.origSeqno ∨
      rreq.origSeqno = rt.destSeqno ∧ (rt.state = .invalid ∨ rreq.hcnt + 1 < rt.hcnt) := by
  simp only [rreqAccepts, Bool.or_eq_true, Bool.and_eq_true, decide_eq_true_eq, or_assoc]

theorem rrepAccepts_iff (rrep : Rrep) (bidirectional : rt.flags.unidir = false) :
    rrepAccepts rrep rt = true ↔ rt.destSeqno = 0#32 ∨
      signed rt.destSeqno < signed rrep.destSeqno ∨
      rrep.destSeqno = rt.destSeqno ∧ (rt.state = .invalid ∨ rrep.hcnt + 1 < rt.hcnt) := by
  simp only [rrepAccepts, bidirectional, Bool.or_false, Bool.or_eq_true, Bool.and_eq_true,
    decide_eq_true_eq, or_assoc]

/-- What an advert needs of the event: it has been sent before, or the event is a RREQ or RREP. -/
structure Counts (config : Config) (event : Event) (origin : State) (sent : List Datagram)
    (advert : Advert) : Prop where
  counted : advert.seqno ≠ 0#32
  far : 1 ≤ advert.hops
  known : advert ∈ adverts sent ∨ Replies config event origin

theorem Counts.told {advert : Advert} (counts : Counts config event origin sent advert)
    {received : Received} (arrives : Arrives config event received)
    (noRreq : ∀ rreq, received.msg ≠ .rreq rreq)
    (noRrep : ∀ rrep, received.msg = .rrep rrep → received.hello ≠ none) :
    advert ∈ adverts sent := by
  rcases counts.known with told | replies
  · exact told
  · cases replies with
    | rreq other rreq handles =>
      obtain rfl := Event.message.inj (arrives.event.symm.trans handles.event)
      exact absurd handles.isRreq (noRreq rreq)
    | rrep other rrep handles =>
      obtain rfl := Event.message.inj (arrives.event.symm.trans handles.event)
      exact absurd handles.notHello (noRrep rrep handles.isRrep)

theorem Updates.backed {advert : Advert} (cause : Updates config event origin before old offer)
    (adopted : Adopted new offer old) (tame : Tame config sent origin event)
    (unmarked : old.flags.unidir = false) (counts : Counts config event origin sent advert)
    (here : advert.dest = offer.dest) (backed : advert.BackedBy old) : advert.BackedBy new := by
  have valid : new.state = .valid := adopted.state.trans cause.valid
  cases cause with
  | neighbor received arrives notHello met bidirectional =>
    exact backed.of_same adopted.destSeqno (fun _ => valid) fun _ _ => adopted.hcnt ▸ counts.far
  | hello received hello handles met renews =>
    have told := counts.told handles.toArrives
      (fun rreq isRreq => absurd (handles.isRrep.symm.trans isRreq) (by simp))
      fun rrep _ none => absurd (handles.isHello.symm.trans none) (by simp)
    have number : new.destSeqno = hello.destSeqno := adopted.destSeqno
    have hcnt : new.hcnt = 1 := adopted.hcnt
    rcases Nat.lt_or_eq_of_le (handles.harmless tame.harmless told here) with older | same
    · exact .inl (number.symm ▸ older)
    · exact .inr ⟨(BitVec.eq_of_toNat_eq same).trans number.symm, valid, hcnt ▸ counts.far⟩
  | rreq received rreq handles ready met meets same accepts =>
    exact backed.of_accepted counts.counted (same.destSeqno ▸ tame.met meets)
      (tame.heard handles.toArrives (congrArg AodvMsg.advert handles.isRreq))
      ((rreqAccepts_iff rreq old).mp accepts) adopted.destSeqno valid
      (adopted.hcnt.trans (Offer.hcnt_of_small rfl (handles.harmless tame.harmless).1))
  | rrep received rrep handles ready met meets same accepts =>
    exact backed.of_accepted counts.counted (same.destSeqno ▸ tame.met meets)
      (tame.heard handles.toArrives (congrArg AodvMsg.advert handles.isRrep))
      ((rrepAccepts_iff rrep unmarked).mp accepts) adopted.destSeqno valid
      (adopted.hcnt.trans (Offer.hcnt_of_small rfl (handles.harmless tame.harmless)))

/-- A tame event keeps an advert backed, unless the entry is deleted. -/
theorem EntryChange.backed {advert : Advert} {new : Option RtEntry}
    (change : EntryChange config event origin before dest (some old) new)
    (tame : Tame config sent origin event) (fit : Fit config event origin dest (some old))
    (unmarked : old.flags.unidir = false) (counts : Counts config event origin sent advert)
    (here : advert.dest = dest) (backed : advert.BackedBy old) :
    (∃ rt, new = some rt ∧ advert.BackedBy rt) ∨ new = none ∧ event = .timers := by
  cases change with
  | keep same => exact .inl ⟨_, rfl, backed.of_samePath same.samePath⟩
  | mark same => exact .inl ⟨_, rfl, backed.of_samePath same⟩
  | update offer isHere cause adopted =>
    exact .inl ⟨_, rfl, cause.backed adopted tame unmarked counts (here.trans isHere.symm) backed⟩
  | retire retired =>
    have counted : old.destSeqno.toNat ≠ 0 := fun zero =>
      toNat_ne_zero counts.counted (Nat.le_zero.mp (zero ▸ backed.le))
    have newer := toNat_seqnoIncr counted (fit.below old rfl retired.valid)
    exact .inl ⟨_, rfl, backed.of_newer (retired.destSeqno.symm ▸ newer)⟩
  | error received message seqno handles listed valid through same =>
    have told := counts.told handles.toArrives
      (fun rreq isRreq => absurd (handles.isRerr.symm.trans isRreq) (by simp))
      fun rrep isRrep => absurd (handles.isRerr.symm.trans isRrep) (by simp)
    have hits := fit.hit received message handles old rfl valid through
    have older := handles.harmless tame.harmless listed hits told here
    have number : _ = seqno := same.destSeqno
    exact .inl ⟨_, rfl, .inl (number.symm ▸ older)⟩
  | delete _ _ due => exact .inr ⟨rfl, due⟩

/-! ### Datagrams that tell -/

theorem signed_le_iff_toNat {first second : Seqno} (below : first.toNat < 2 ^ 31)
    (least : signed first ≤ signed second) : first.toNat ≤ second.toNat := by
  rw [signed_of_lt below] at least
  rcases Nat.lt_or_ge second.toNat (2 ^ 31) with small | large
  · rw [signed_of_lt small] at least
    exact Int.ofNat_le.mp least
  · exact Nat.le_trans (Nat.le_of_lt below) large

/-- The reverse entry of a RREQ that is forwarded backs it. -/
theorem backedBy_of_settled {rreq : Rreq} (small : rreq.hcnt < 255)
    (below : rreq.origSeqno.toNat < 2 ^ 31) (settled : ¬ rreqAccepts rreq rt = true) :
    Advert.BackedBy ⟨rreq.origAddr, rreq.origSeqno, (rreq.hcnt + 1) % 256⟩ rt := by
  rw [rreqAccepts_iff, not_or, not_or, not_and, not_or, Int.not_lt, Nat.not_lt] at settled
  obtain ⟨_, newer, better⟩ := settled
  rcases Nat.lt_or_eq_of_le (signed_le_iff_toNat below newer) with older | same
  · exact .inl older
  · have number : rreq.origSeqno = rt.destSeqno := BitVec.eq_of_toNat_eq same
    obtain ⟨notInvalid, short⟩ := better number
    refine .inr ⟨number, ?_, ?_⟩
    · cases state : rt.state with
      | valid => rfl
      | invalid => exact absurd state notInvalid
    · exact short.trans (Nat.le_of_eq (Nat.mod_eq_of_lt (by omega)).symm)

/-- A route that is told in a reply is valid. -/
theorem Advertisable.valid (advertisable : Advertisable config event origin rt)
    (tame : Tame config sent origin event) : rt.state = .valid := by
  rcases advertisable with valid | ⟨received, rreq, met, handles, gratuitous, _, meets, same, rejects⟩
  · exact valid
  · cases state : rt.state with
    | valid => rfl
    | invalid =>
      have accepts := (handles.harmless tame.harmless).2 gratuitous met meets
        (same.state.symm.trans state)
      exact absurd (rejects.symm.trans accepts) Bool.false_ne_true

theorem devIfindex_own {ifindex : Nat} {dev : Dev} (enabled : devIfindex config ifindex = some dev) :
    ipaddrOf config ifindex ∈ ownAddrs config := by
  rw [ipaddrOf, enabled]
  exact mem_ownAddrs (List.mem_of_find?_eq_some enabled)

/-- What a tame event tells about others is backed. -/
theorem Departs.backed {datagram : Datagram} {advert : Advert}
    (departs : Departs config event origin before datagram) (tame : Tame config sent origin event)
    (far : ∀ dest rt, entryAt before dest = some rt → 1 ≤ rt.hcnt)
    (tells : datagram.msg.advert = some advert) (foreign : advert.dest ∉ ownAddrs config)
    (counted : advert.seqno ≠ 0#32) :
    Counts config event origin sent advert ∧
      ∃ rt, entryAt before advert.dest = some rt ∧ advert.BackedBy rt := by
  cases departs with
  | report reports =>
    obtain ⟨rerr, isRerr, _⟩ := reports.deletes
    rw [isRerr] at tells
    exact absurd tells (by simp [AodvMsg.advert])
  | send sender ttl listed source lifetime contents sendable =>
    rw [contents] at tells
    cases sendable with
    | hello other rrep sends otherListed _ _ buffer own =>
      rw [buffer] at tells
      obtain rfl := Option.some.inj tells
      exact absurd (own ▸ mem_ownAddrs otherListed) foreign
    | request other rreq sends otherListed _ buffer own =>
      rw [buffer] at tells
      obtain rfl := Option.some.inj tells
      exact absurd (own ▸ mem_ownAddrs otherListed) foreign
    | relay received rreq destSeqno rt handles _ _ buffer found settled =>
      rw [buffer] at tells
      obtain rfl := Option.some.inj tells
      have small := (handles.harmless tame.harmless).1
      refine ⟨⟨counted, ?_, .inr (.rreq received rreq handles)⟩, rt, found, ?_⟩
      · show 1 ≤ (rreq.hcnt + 1) % 256
        omega
      · exact backedBy_of_settled small
          (tame.heard handles.toArrives (congrArg AodvMsg.advert handles.isRreq))
          fun accepts => counted (settled accepts)
    | answer revDest revRt rrep _ _ sends buffer own =>
      rw [buffer] at tells
      obtain rfl := Option.some.inj tells
      exact absurd (own ▸ devIfindex_own sends.symm) foreign
    | reply revDest revRt rt rrep _ _ _ buffer found hcnt destSeqno fresh heard =>
      rw [buffer] at tells
      obtain rfl := Option.some.inj tells
      exact ⟨⟨counted, hcnt ▸ far _ rt found, .inr heard⟩, rt, found,
        .inr ⟨destSeqno, fresh.valid tame, Nat.le_of_eq hcnt.symm⟩⟩
    | suspect _ _ hack => exact absurd (tame.bidirectional.symm.trans hack) Bool.false_ne_true
    | error rerr buffer =>
      rw [buffer] at tells
      exact absurd tells (by simp [AodvMsg.advert])
    | acknowledgement buffer =>
      rw [buffer] at tells
      exact absurd tells (by simp [AodvMsg.advert])

/-! ### Events -/

/-- The entry of an advertised destination backs the advert, or the timers have deleted it. -/
def Stands (event : Event) (state : State) (advert : Advert) : Prop :=
  (∃ rt, entryAt state advert.dest = some rt ∧ advert.BackedBy rt) ∨
    entryAt state advert.dest = none ∧ event = .timers

/-- While an event is handled, its entries are fit and what has been told stands. -/
structure Honest (config : Config) (event : Event) (origin : State) (sent : List Datagram)
    (state : State) : Prop where
  fit : ∀ dest, Fit config event origin dest (entryAt state dest)
  stands : ∀ advert ∈ adverts (sent ++ state.out), advert.dest ∉ ownAddrs config →
    advert.seqno ≠ 0#32 → Counts config event origin sent advert ∧ Stands event state advert

theorem Stands.act {after : State} {advert : Advert} (stands : Stands event before advert)
    (act : Act config event origin before after) (regular : Regular config before)
    (tame : Tame config sent origin event)
    (fit : Fit config event origin advert.dest (entryAt before advert.dest))
    (counts : Counts config event origin sent advert) : Stands event after advert := by
  have change := act.entryChange regular.sound advert.dest
  rcases stands with ⟨rt, found, backed⟩ | ⟨gone, due⟩
  · rw [found] at change fit
    exact change.backed tame fit (regular.bidirectional tame.bidirectional _ rt found) counts rfl
      backed
  · rw [gone] at change
    refine .inr ⟨?_, due⟩
    generalize entryAt after advert.dest = entry at change
    cases change with
    | absent => rfl
    | insert offer _ cause =>
      obtain ⟨received, arrives⟩ := cause.offered.arrives
      exact Event.noConfusion (due.symm.trans arrives.event)

theorem Act.honest {after : State} (act : Act config event origin before after)
    (regular : Regular config before) (tame : Tame config sent origin event)
    (honest : Honest config event origin sent before) :
    Honest config event origin sent after where
  fit dest := (act.entryChange regular.sound dest).fit tame (honest.fit dest)
  stands advert told foreign counted := by
    obtain ⟨late, out, departs⟩ := act.emits
    rw [out, ← List.append_assoc, adverts_append] at told
    rcases List.mem_append.mp told with earlier | now
    · obtain ⟨counts, stands⟩ := honest.stands advert earlier foreign counted
      exact ⟨counts, stands.act act regular tame (honest.fit _) counts⟩
    · obtain ⟨datagram, member, tells⟩ := mem_adverts.mp now
      obtain ⟨counts, backed⟩ := (departs datagram member).backed tame
        (fun dest => (honest.fit dest).far) tells foreign counted
      exact ⟨counts, Stands.act (.inl backed) act regular tame (honest.fit _) counts⟩

theorem Honest.congr {first second : State} (honest : Honest config event origin sent first)
    (rtTbl : second.rtTbl = first.rtTbl) (out : second.out = first.out) :
    Honest config event origin sent second := by
  have entries (dest : Addr) : entryAt second dest = entryAt first dest := by
    rw [entryAt, entryAt, rtTbl]
  refine ⟨fun dest => entries dest ▸ honest.fit dest, fun advert told foreign counted => ?_⟩
  rw [out] at told
  obtain ⟨counts, stands⟩ := honest.stands advert told foreign counted
  rw [Stands, ← entries advert.dest] at stands
  exact ⟨counts, stands⟩

/-- The entries of a node have hop counts, and what it has told about others is backed. -/
structure Backs (config : Config) (sent : List Datagram) (state : State) : Prop where
  far : ∀ dest rt, entryAt state dest = some rt → 1 ≤ rt.hcnt
  backed : ∀ advert ∈ adverts sent, advert.dest ∉ ownAddrs config → advert.seqno ≠ 0#32 →
    1 ≤ advert.hops ∧ ∃ rt, entryAt state advert.dest = some rt ∧ advert.BackedBy rt

theorem Backs.honest (backs : Backs config sent origin) (tame : Tame config sent origin event)
    (silent : origin.out = []) : Honest config event origin sent origin where
  fit dest := tame.fit (backs.far dest)
  stands advert told foreign counted := by
    rw [silent, List.append_nil] at told
    obtain ⟨far, backed⟩ := backs.backed advert told foreign counted
    exact ⟨⟨counted, far, .inl told⟩, .inl backed⟩

theorem Handled.honest {final : State} (handled : Handled config origin event final)
    (tame : Tame config sent origin event) (honest : Honest config event origin sent origin) :
    Honest config event origin sent final :=
  handled.invariant_of_congr (Honest config event origin sent) tame.regular
    (fun _ _ rtTbl out honest => honest.congr rtTbl out)
    (fun _ _ regular act => act.honest regular tame) honest

/-- Nothing is told about others while the timers run. -/
theorem Counts.of_timers {advert : Advert} (counts : Counts config .timers origin sent advert) :
    advert ∈ adverts sent := by
  rcases counts.known with told | replies
  · exact told
  · cases replies with
    | rreq _ _ handles => exact Event.noConfusion handles.event
    | rrep _ _ handles => exact Event.noConfusion handles.event

/-- An event keeps what a node has told backed, if the timers spare the entries. -/
theorem Handled.backs {final : State} (handled : Handled config origin event final)
    (tame : Tame config sent origin event) (silent : origin.out = [])
    (spared : event = .timers → ∀ dest, entryAt origin dest ≠ none → ¬ Doomed origin dest →
      entryAt final dest ≠ none)
    (backs : Backs config sent origin) : Backs config (sent ++ final.out) final := by
  have honest := handled.honest tame (backs.honest tame silent)
  refine ⟨fun dest => (honest.fit dest).far, fun advert told foreign counted => ?_⟩
  obtain ⟨counts, stands⟩ := honest.stands advert told foreign counted
  refine ⟨counts.far, ?_⟩
  rcases stands with backed | ⟨gone, due⟩
  · exact backed
  · subst due
    have earlier := counts.of_timers
    obtain ⟨_, rt, found, _⟩ := backs.backed advert earlier foreign counted
    have spares := tame.harmless advert earlier
    exact absurd gone (spared rfl advert.dest (by simp [found]) spares)

end

end Aodvd
