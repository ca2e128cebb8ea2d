/-
This file compares the two ends of the neighbour set extension of `aodv_hello.c`: the bytes
`hello_send` writes after the header of a HELLO, and the addresses the extension loop of
`hello_process` reads there.

The writer copies every heard neighbour to the same four bytes, so only the last one is on the
wire; it adds four to an 8-bit length for each of them, and it leaves one extension header of
zeros for every interface before the current one. The reader takes the length at its word and
stops at the first extension it does not know. What it reads is therefore computed exactly
(`helloNeighborSet_written`), and is the set of heard neighbours only where they are none, or
one on the first interface, up to the address 0.0.0.0.
-/

import Mathlib
import Aodvd.Reachable

namespace Aodvd

variable (config : Config) (state : State) (number fuel : Nat) (addr : Addr)

/-! ### The reader -/

/-- The addresses in the slots of one neighbour set extension. -/
def neighborSetSlots (bytes : List (BitVec 8)) (length : Nat) : List Addr :=
  (List.range ((length + 3) / 4)).map fun index => addrAt bytes (aodvExtHdrSize + 4 * index)

/-- The neighbour set the extension loop of `hello_process` goes through. -/
def helloNeighborSet : Nat → Nat → List (BitVec 8) → List Addr
  | 0, _, _ => []
  | fuel + 1, remaining, bytes =>
    if remaining ≤ rrepSize then []
    else
      let length := (byteAt bytes 1).toNat
      let continued := helloNeighborSet fuel (remaining - (aodvExtHdrSize + length))
        (bytes.drop (aodvExtHdrSize + length))
      if (byteAt bytes 0).toNat = rrepHelloIntervalExt then continued
      else if (byteAt bytes 0).toNat = rrepHelloNeighborSetExt then
        neighborSetSlots bytes length ++ continued
      else []

/-- The neighbour set of a received HELLO. -/
def Datagram.neighborSet (datagram : Datagram) : List Addr :=
  match datagram.msg with
  | .rrep hello => helloNeighborSet datagram.len datagram.len hello.ext
  | _ => []

theorem neighborSetNames_iff (own : Addr) (bytes : List (BitVec 8)) (length : Nat) :
    neighborSetNames own bytes length = true ↔ own ∈ neighborSetSlots bytes length := by
  simp only [neighborSetNames, neighborSetSlots, List.any_eq_true, decide_eq_true_eq, List.mem_map]

/-- The loop clears the unidirectional mark exactly when the set names this node. -/
theorem helloExtensions_unidir (own : Addr) (fuel remaining : Nat) (bytes : List (BitVec 8))
    (found : RtFlags × BitVec 32) :
    (helloExtensions own fuel remaining bytes found).1.unidir = true ↔
      found.1.unidir = true ∧ own ∉ helloNeighborSet fuel remaining bytes := by
  induction fuel generalizing remaining bytes found with
  | zero => simp only [helloExtensions, helloNeighborSet, List.not_mem_nil, not_false_iff, and_true]
  | succ fuel inductionHypothesis =>
    rw [helloExtensions, helloNeighborSet]
    by_cases ended : remaining ≤ rrepSize
    · simp only [if_pos ended, List.not_mem_nil, not_false_iff, and_true]
    simp only [if_neg ended]
    by_cases interval : (byteAt bytes 0).toNat = rrepHelloIntervalExt
    · simp only [if_pos interval, inductionHypothesis]
      split <;> rfl
    by_cases neighbors : (byteAt bytes 0).toNat = rrepHelloNeighborSetExt
    · simp only [if_neg interval, if_pos neighbors, inductionHypothesis, List.mem_append, not_or]
      by_cases named : neighborSetNames own bytes (byteAt bytes 1).toNat = true
      · have member := (neighborSetNames_iff own bytes _).mp named
        simp only [if_pos named, member, not_true, false_and, and_false, Bool.false_eq_true]
      · have absent := mt (neighborSetNames_iff own bytes _).mpr named
        simp only [if_neg named, absent, not_false_iff, true_and]
    · simp only [if_neg interval, if_neg neighbors, List.not_mem_nil, not_false_iff, and_true]

/-- With the hack on, a HELLO makes its neighbour unidirectional exactly when its neighbour set
leaves out the receiving interface. -/
theorem helloRead_unidir (config : Config) (hello : Rrep) (len ifindex : Nat)
    (found : Option RtEntry) (hack : config.unidirHack = true) :
    (helloRead config hello len ifindex found).1.unidir = true ↔
      ipaddrOf config ifindex ∉ helloNeighborSet len len hello.ext := by
  simp only [helloRead, helloExtensions_unidir, hack, if_true, true_and]

/-! ### The writer -/

/-- The HELLO of an interface as it leaves. -/
def helloDatagram (config : Config) (state : State) (numbered : Dev × Nat) : Datagram :=
  ⟨numbered.1.ipaddr, aodvBroadcast, 1, helloSize config state,
    (helloCreate config numbered.2 numbered.1 state).sendBuf⟩

/-- What a HELLO is made from. -/
def SameHello (state next : State) : Prop :=
  heardNeighbors next = heardNeighbors state ∧ next.seqno = state.seqno ∧
    next.waitOnReboot = state.waitOnReboot

theorem SameHello.helloDatagram {state next : State} (same : SameHello state next)
    (config : Config) (numbered : Dev × Nat) :
    helloDatagram config next numbered = helloDatagram config state numbered := by
  obtain ⟨heard, seqno, _⟩ := same
  have length : neighborSetLength next = neighborSetLength state := by
    rw [neighborSetLength, heard, neighborSetLength]
  simp only [Aodvd.helloDatagram, helloCreate, helloSize, neighborSetExt, heard, length, seqno]

/-- The datagrams of one round of HELLOs: none leaves during the wait on reboot. -/
def helloDatagrams (config : Config) (state : State) (numbered : List (Dev × Nat)) :
    List Datagram :=
  if state.waitOnReboot then [] else numbered.map (helloDatagram config state)

theorem SameHello.helloDatagrams {state next : State} (same : SameHello state next)
    (config : Config) (numbered : List (Dev × Nat)) :
    helloDatagrams config next numbered = helloDatagrams config state numbered := by
  simp only [Aodvd.helloDatagrams, same.2.2, funext (same.helloDatagram config)]

/-- A HELLO is not rate limited. -/
theorem ratelimitSend_helloCreate (dev : Dev) (state : State) :
    ratelimitSend config (helloCreate config number dev state) =
      some (helloCreate config number dev state) := by
  rw [ratelimitSend]
  split <;> rfl

/-- One round of the loop of `hello_send`. -/
def helloRound (config : Config) (state : State) (numbered : Dev × Nat) : State :=
  aodvSocketSend config aodvBroadcast (helloSize config state) 1 (some numbered.1)
    (helloCreate config numbered.2 numbered.1 state)

theorem sameHello_helloRound (numbered : Dev × Nat) :
    SameHello state (helloRound config state numbered) := by
  rw [helloRound, aodvSocketSend]
  split
  · exact ⟨rfl, rfl, rfl⟩
  · rw [ratelimitSend_helloCreate]
    exact ⟨rfl, rfl, rfl⟩

theorem out_helloRound (numbered : Dev × Nat) :
    (helloRound config state numbered).out =
      state.out ++ helloDatagrams config state [numbered] := by
  have held : heldOnReboot (helloCreate config numbered.2 numbered.1 state) =
      state.waitOnReboot := rfl
  rw [helloRound, aodvSocketSend, helloDatagrams, held]
  cases waiting : state.waitOnReboot
  · rw [if_neg (by decide), ratelimitSend_helloCreate]
    rfl
  · rw [if_pos (Or.inl rfl), if_pos rfl, List.append_nil]
    rfl

theorem out_helloRounds (numbered : List (Dev × Nat)) (state : State) :
    (numbered.foldl (helloRound config) state).out =
      state.out ++ helloDatagrams config state numbered := by
  induction numbered generalizing state with
  | nil => simp only [List.foldl_nil, helloDatagrams, List.map_nil, ite_self, List.append_nil]
  | cons first rest inductionHypothesis =>
    have same := sameHello_helloRound config state first
    rw [List.foldl_cons, inductionHypothesis, same.helloDatagrams, out_helloRound, List.append_assoc]
    cases waiting : state.waitOnReboot <;>
      simp only [helloDatagrams, waiting, if_true, if_false, Bool.false_eq_true, List.map_cons,
        List.map_nil, List.cons_append, List.nil_append]

/-- `hello_send` adds to the output one HELLO for each interface, in order, or nothing. -/
theorem out_helloSend :
    (helloSend config state).out = state.out ∨
      (helloSend config state).out =
        state.out ++ config.devs.zipIdx.map (helloDatagram config state) := by
  rw [helloSend]
  split
  · exact Or.inl rfl
  dsimp only
  split
  · have sent : (helloSendAll config state).out = state.out ++ _ :=
      out_helloRounds config config.devs.zipIdx state
    cases waiting : state.waitOnReboot
    · refine Or.inr (sent.trans ?_)
      rw [helloDatagrams, waiting, if_neg Bool.false_ne_true]
    · refine Or.inl (sent.trans ?_)
      rw [helloDatagrams, waiting, if_pos rfl, List.append_nil]
  · split <;> exact Or.inl rfl

/-- The HELLO at a place of the output of `hello_send` is that of the interface there. -/
theorem eq_helloDatagram_of_transmitted {config : Config} {state : State} {number : Nat}
    {datagram : Datagram}
    (transmitted : (helloSend config state).out[state.out.length + number]? = some datagram) :
    ∃ dev, config.devs[number]? = some dev ∧
      datagram = helloDatagram config state (dev, number) := by
  rcases out_helloSend config state with silent | sent
  · rw [silent, List.getElem?_eq_none (Nat.le_add_right _ _)] at transmitted
    exact nomatch transmitted
  · rw [sent, List.getElem?_append_right (Nat.le_add_right _ _), Nat.add_sub_cancel_left,
      List.getElem?_map, List.getElem?_zipIdx] at transmitted
    cases listed : config.devs[number]? with
    | none => rw [listed] at transmitted; exact nomatch transmitted
    | some dev =>
      rw [listed] at transmitted
      simp only [Option.map_some, Nat.zero_add, Option.some.injEq] at transmitted
      exact ⟨dev, rfl, transmitted.symm⟩

/-! ### What the reader finds in what the writer wrote -/

/-- An address is read as it was written. -/
theorem addrAt_addrBytes_zero : addrAt (addrBytes addr) 0 = addr := by
  simp only [addrAt, byteAt, addrBytes, List.getD_cons_zero, List.getD_cons_succ, Nat.reduceAdd]
  rw [BitVec.extractLsb'_append_extractLsb'_eq_extractLsb' (by rfl),
    BitVec.extractLsb'_append_extractLsb'_eq_extractLsb' (by rfl),
    BitVec.extractLsb'_append_extractLsb'_eq_extractLsb' (by rfl)]
  exact BitVec.extractLsb'_eq_self

/-- The address after an extension header is read as it was written. -/
theorem addrAt_addrBytes (type length : BitVec 8) (addr : Addr) :
    addrAt ([type, length] ++ addrBytes addr) aodvExtHdrSize = addr :=
  addrAt_addrBytes_zero addr

/-- The buffer past what has been written reads as 0.0.0.0. -/
theorem addrAt_of_length_le (bytes : List (BitVec 8)) (offset : Nat)
    (past : bytes.length ≤ offset) : addrAt bytes offset = 0#32 := by
  have zero (place : Nat) (beyond : offset ≤ place) : byteAt bytes place = 0#8 :=
    List.getD_eq_default _ _ (past.trans beyond)
  rw [addrAt, zero offset le_rfl, zero _ (Nat.le_add_right _ _), zero _ (Nat.le_add_right _ _),
    zero _ (Nat.le_add_right _ _)]
  rfl

/-- The slots of an extension that holds one address and says it holds more. -/
theorem neighborSetSlots_single (type length : BitVec 8) (addr : Addr) (count : Nat)
    (counted : (length.toNat + 3) / 4 = count + 1) :
    neighborSetSlots ([type, length] ++ addrBytes addr) length.toNat =
      addr :: List.replicate count 0#32 := by
  have later (index : Nat) :
      addrAt ([type, length] ++ addrBytes addr) (aodvExtHdrSize + 4 * (index + 1)) = 0#32 :=
    addrAt_of_length_le _ _ (by simp only [List.length_append, List.length_cons, List.length_nil,
      addrBytes, aodvExtHdrSize]; omega)
  rw [neighborSetSlots, counted, List.range_succ_eq_map, List.map_cons, List.map_map,
    Nat.mul_zero, Nat.add_zero, addrAt_addrBytes]
  congr 1
  refine List.eq_replicate_iff.mpr ⟨by rw [List.length_map, List.length_range], ?_⟩
  intro slot member
  obtain ⟨index, _, rfl⟩ := List.mem_map.mp member
  exact later index

/-- The length byte is read as it was written. -/
theorem toNat_neighborSetLength :
    (BitVec.ofNat 8 (neighborSetLength state)).toNat = neighborSetLength state := by
  rw [BitVec.toNat_ofNat, neighborSetLength, Nat.mod_mod]

theorem neighborSetLength_eq :
    neighborSetLength state = 4 * ((heardNeighbors state).length % 64) := by
  rw [neighborSetLength]
  omega

/-- On the first interface the reader finds the last heard neighbour, and one address 0.0.0.0
for each other neighbour that the length counts. -/
theorem helloNeighborSet_first (hack : config.unidirHack = true) (last : Addr) (count : Nat)
    (heard : (heardNeighbors state).getLast? = some last)
    (counted : (heardNeighbors state).length % 64 = count + 1) (fuel : Nat) (enough : 2 ≤ fuel) :
    helloNeighborSet fuel (helloSize config state) (neighborSetExt state 0) =
      last :: List.replicate count 0#32 := by
  obtain ⟨fuel, rfl⟩ := Nat.exists_eq_add_of_le' enough
  have length : neighborSetLength state = 4 * (count + 1) := by rw [neighborSetLength_eq, counted]
  have size : helloSize config state = rrepSize + aodvExtHdrSize + neighborSetLength state :=
    if_pos ⟨hack, by omega⟩
  have written : neighborSetExt state 0 =
      [3#8, BitVec.ofNat 8 (neighborSetLength state)] ++ addrBytes last := by
    rw [neighborSetExt, heard]
    rfl
  have slots := neighborSetSlots_single 3#8 (BitVec.ofNat 8 (neighborSetLength state)) last count
    (by rw [toNat_neighborSetLength, length]; omega)
  have type : byteAt (neighborSetExt state 0) 0 = 3#8 := by rw [written]; rfl
  have said : byteAt (neighborSetExt state 0) 1 = BitVec.ofNat 8 (neighborSetLength state) := by
    rw [written]; rfl
  rw [helloNeighborSet, if_neg (by rw [size, aodvExtHdrSize]; omega)]
  dsimp only
  rw [type, said, if_neg (by decide), if_pos (by decide), written, slots, helloNeighborSet,
    if_pos (by rw [toNat_neighborSetLength, size]; omega), List.append_nil]

/-- On any later interface the reader meets the zeros first. -/
theorem helloNeighborSet_later (remaining : Nat) :
    helloNeighborSet fuel remaining (neighborSetExt state (number + 1)) = [] := by
  have type : byteAt (neighborSetExt state (number + 1)) 0 = 0#8 := rfl
  cases fuel with
  | zero => rfl
  | succ fuel =>
    rw [helloNeighborSet]
    split
    · rfl
    · dsimp only
      rw [type, if_neg (by decide), if_neg (by decide)]

/-- A length byte of zero sends no extension. -/
theorem helloNeighborSet_none (uncounted : (heardNeighbors state).length % 64 = 0) :
    helloNeighborSet fuel (helloSize config state) (neighborSetExt state number) = [] := by
  have size : helloSize config state = rrepSize :=
    if_neg fun sized => sized.2 (by rw [neighborSetLength_eq, uncounted])
  cases fuel with
  | zero => rfl
  | succ fuel => rw [helloNeighborSet, size, if_pos le_rfl]

theorem neighborSet_helloDatagram (dev : Dev) (number : Nat) (hack : config.unidirHack = true) :
    (helloDatagram config state (dev, number)).neighborSet =
      helloNeighborSet (helloSize config state) (helloSize config state)
        (neighborSetExt state number) := by
  simp only [Datagram.neighborSet, helloDatagram, helloCreate, hack, if_true]

theorem two_le_helloSize : 2 ≤ helloSize config state := by
  rw [helloSize, rrepSize]
  split <;> omega

/-- A list whose last element is read with zeros for the others is read right exactly when the
others are zeros. -/
theorem perm_cons_replicate_iff {Element : Type} (front : List Element) (last zero : Element) :
    (last :: List.replicate front.length zero).Perm (front ++ [last]) ↔
      ∀ other ∈ front, other = zero := by
  rw [List.perm_comm, List.perm_append_singleton _ _ |>.congr_left, List.perm_cons,
    List.perm_replicate, List.eq_replicate_iff]
  exact and_iff_right rfl

/-- The HELLO of the interface with a number carries the set of the heard neighbours exactly
when there are none, or it is the first interface, they are fewer than 64 and all but the last
one have the address 0.0.0.0. -/
theorem helloSend_neighborSet_iff (config : Config) (state : State) (number : Nat)
    (datagram : Datagram) (hack : config.unidirHack = true)
    (transmitted : (helloSend config state).out[state.out.length + number]? = some datagram) :
    datagram.neighborSet.Perm (heardNeighbors state) ↔
      heardNeighbors state = [] ∨ (number = 0 ∧ (heardNeighbors state).length < 64 ∧
        ∀ other ∈ (heardNeighbors state).dropLast, other = 0#32) := by
  obtain ⟨dev, _, rfl⟩ := eq_helloDatagram_of_transmitted transmitted
  rw [neighborSet_helloDatagram config state dev number hack]
  rcases List.eq_nil_or_concat (heardNeighbors state) with none | ⟨front, last, heard⟩
  · rw [helloNeighborSet_none config state number _ (by rw [none]; rfl), none]
    simp only [true_or, List.Perm.refl]
  have counted : (heardNeighbors state).length = front.length + 1 := by
    rw [heard, List.length_concat]
  have nonempty : heardNeighbors state ≠ [] := fun none => by simp [none] at counted
  have unheard : ¬ ([] : List Addr).Perm (heardNeighbors state) := fun same =>
    nonempty same.nil_eq.symm
  rw [or_iff_right nonempty]
  cases number with
  | succ number =>
    rw [helloNeighborSet_later]
    exact iff_of_false unheard fun first => Nat.succ_ne_zero number first.1
  | zero =>
    by_cases wrapped : (heardNeighbors state).length % 64 = 0
    · rw [helloNeighborSet_none config state 0 _ wrapped]
      exact iff_of_false unheard fun small => by omega
    obtain ⟨count, remainder⟩ := Nat.exists_eq_succ_of_ne_zero wrapped
    rw [helloNeighborSet_first config state hack last count (by rw [heard]; simp) remainder _
      (two_le_helloSize config state)]
    by_cases small : (heardNeighbors state).length < 64
    · have same : count = front.length := by omega
      rw [and_iff_right rfl, and_iff_right small, same, heard, List.concat_eq_append,
        perm_cons_replicate_iff, List.dropLast_concat]
    · refine iff_of_false (fun same => ?_) fun bounded => small bounded.2.1
      have lengths := same.length_eq
      rw [List.length_cons, List.length_replicate] at lengths
      omega

/-- One interface, with the option for unidirectional links. -/
def hackConfig : Config := { loneConfig with unidirHack := true }

/-- A HELLO that names another node only. -/
theorem helloRead_unidir_unnamed :
    (helloRead hackConfig ⟨false, false, 0, 2#32, 5#32, 2#32, 2000,
      [3#8, 4#8, 9#8, 0#8, 0#8, 0#8]⟩ 26 1 none).1.unidir = true :=
  (helloRead_unidir hackConfig _ 26 1 none rfl).mpr (by decide)

/-- A node past its wait on reboot, whose last HELLO left at 16 seconds, hears the given HELLOs. -/
def hearing (hellos : List Input) : List Input :=
  [inputAt 15000 .timers, inputAt 16000 .timers] ++ hellos

/-- The node when its next HELLO is due, with one neighbour. -/
def oneHeard : State :=
  arrive (inputAt 17100 .timers)
    (run hackConfig timevalZero 0 (hearing [inputAt 16100 (helloFrom 2#32 5#32)]))

/-- Its HELLO names that neighbour. -/
theorem helloSend_neighborSet_iff_oneHeard :
    ∃ datagram, (helloSend hackConfig oneHeard).out[oneHeard.out.length + 0]? = some datagram ∧
      datagram.neighborSet.Perm (heardNeighbors oneHeard) := by
  have transmitted : (helloSend hackConfig oneHeard).out[oneHeard.out.length + 0]? =
      some ⟨1#32, aodvBroadcast, 1, 26, .rrep ⟨false, false, 0, 1#32, 1#32, 1#32, 2000,
        [3#8, 4#8, 2#8, 0#8, 0#8, 0#8]⟩⟩ :=
    by decide +kernel
  have one : heardNeighbors oneHeard = [2#32] := by decide +kernel
  refine ⟨_, transmitted, ?_⟩
  rw [helloSend_neighborSet_iff hackConfig oneHeard 0 _ rfl transmitted, one]
  exact Or.inr ⟨rfl, by decide, fun other member => nomatch member⟩

/-- The node hears two neighbours. -/
def twoHeard : List Input :=
  hearing [inputAt 16100 (helloFrom 2#32 5#32), inputAt 16200 (helloFrom 3#32 5#32)]

/-- The HELLO of a node that hears two neighbours names the second and 0.0.0.0. -/
theorem run_neighborSet_lost :
    heardNeighbors (run hackConfig timevalZero 0 (twoHeard ++ [inputAt 17100 .timers])) =
        [2#32, 3#32] ∧
      (run hackConfig timevalZero 0 (twoHeard ++ [inputAt 17100 .timers])).out.map
        Datagram.neighborSet = [[3#32, 0#32]] := by
  constructor <;> decide +kernel

end Aodvd
