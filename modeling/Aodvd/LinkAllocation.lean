/-
This file asks whether the names and addresses of the links of the dashboard are fit for use.

The name of an interface is made of the first letters of two nodes and the number of the link, and
nothing stands between them. Two links have the same names exactly if the letters of one continue
those of the other by the digits with which the number of the other begins. The number also gives
the second and the third byte of the addresses, and the second one grows past a byte at 65280. Below
that the names are short enough as well. No two links are given the same number, so the names and
addresses of the links that were created are fit for use exactly if no number has reached 65280 and
no two links continue each other.
-/

import Aodvd.Interleavings

namespace Aodvd.Dashboard

open PythonText

/-! ### Creations -/

/-- A link that is created: its nodes and its number. -/
structure Creation where
  src : List Char
  dst : List Char
  index : Nat
  deriving DecidableEq

/-- The names of its interfaces. -/
def Creation.names (creation : Creation) : List (List Char) :=
  [(vethNames creation.src creation.dst creation.index).1,
    (vethNames creation.src creation.dst creation.index).2]

/-- Its addresses. -/
def Creation.ips (creation : Creation) : List (List Char) :=
  [(linkIps creation.index).1, (linkIps creation.index).2]

/-- The links that a task creates when it runs on: the last command of `_create_veth_link` has
returned. -/
def Task.creates : Task → List Creation
  | .wiring src dst index 0 => [⟨src, dst, index⟩]
  | _ => []

/-- The links that are created in a step. -/
def creates (pool : Pool) : Input → List Creation
  | .request _ => []
  | .reply position _ =>
    match pool.tasks[position]? with
    | some task => task.creates
    | none => []

/-- The links that are created in a run. -/
def created (table : DigitTable) (nfqueueEnabled : Bool) (inputs : List Input) : List Creation :=
  Runs.trace (step table) creates (initial nfqueueEnabled) inputs

/-- The first three bytes of an address. -/
def subnet (addr : Addr) : List (BitVec 8) := (addrBytes addr).take 3

/-- No two interfaces have the same name, no name is longer than 15 characters, the addresses are
addresses, those of one link are in one subnet, and those of two links in two. -/
structure Allotted (creations : List Creation) : Prop where
  names : (creations.flatMap Creation.names).Nodup
  short : ∀ creation ∈ creations, ∀ name ∈ creation.names, name.length ≤ 15
  valid : ∀ creation ∈ creations, ∀ ip ∈ creation.ips, ∃ addr, ipToStr addr = ip
  joined : ∀ creation ∈ creations, ∀ addr other, ipToStr addr ∈ creation.ips →
    ipToStr other ∈ creation.ips → subnet addr = subnet other
  subnets : creations.Pairwise fun first second => ∀ addr other, ipToStr addr ∈ first.ips →
    ipToStr other ∈ second.ips → subnet addr ≠ subnet other

/-! ### Names -/

/-- The letters of the nodes in the names of a link. -/
def Creation.stem (creation : Creation) : List Char :=
  (withoutNs creation.src).take 4 ++ (withoutNs creation.dst).take 4

/-- The letters of a link continue those of another by the digits with which the number of the other
begins, before its own number. -/
def Continues (first second : Creation) : Prop :=
  ∃ digits, digits ≠ [] ∧ first.stem = second.stem ++ digits ∧
    decimal second.index = digits ++ decimal first.index

section

variable {creation first second : Creation}

theorem names_eq (creation : Creation) : creation.names =
    ['v' :: (creation.stem ++ decimal creation.index ++ ['s']),
      'v' :: (creation.stem ++ decimal creation.index ++ ['d'])] := by
  unfold Creation.names vethNames Creation.stem
  simp only [List.append_assoc]
  rfl

theorem length_stem_le (creation : Creation) : creation.stem.length ≤ 8 := by
  have source := List.length_take_le 4 (withoutNs creation.src)
  have target := List.length_take_le 4 (withoutNs creation.dst)
  unfold Creation.stem
  rw [List.length_append]
  omega

/-- A number of five digits leaves the names short enough. -/
theorem length_name_le (below : creation.index < 100000) {name : List Char}
    (found : name ∈ creation.names) : name.length ≤ 15 := by
  have stem := length_stem_le creation
  have digits : (decimal creation.index).length ≤ 5 :=
    (Nat.length_toDigits_le_iff (by decide) (by decide)).mpr below
  rw [names_eq, List.mem_pair] at found
  rcases found with rfl | rfl
  · simp only [List.length_cons, List.length_append, List.length_nil]
    omega
  · simp only [List.length_cons, List.length_append, List.length_nil]
    omega

theorem nodup_names (creation : Creation) : creation.names.Nodup := by
  rw [names_eq]
  refine List.nodup_cons.mpr ⟨fun found => ?_, List.nodup_singleton _⟩
  have same := List.append_cancel_left (List.cons.inj (List.mem_singleton.mp found)).2
  exact absurd same (by decide)

/-- Two links have names in common exactly if the letters and numbers read the same. -/
theorem disjoint_names_iff : List.Disjoint first.names second.names ↔
    first.stem ++ decimal first.index ≠ second.stem ++ decimal second.index := by
  constructor
  · intro apart same
    have source : 'v' :: (first.stem ++ decimal first.index ++ ['s']) ∈ first.names := by
      rw [names_eq]
      exact List.mem_cons_self
    refine apart source ?_
    rw [same, names_eq]
    exact List.mem_cons_self
  · intro different name found shared
    rw [names_eq, List.mem_pair] at found shared
    rcases found with rfl | rfl <;> rcases shared with same | same
    · exact different (List.append_cancel_right (List.cons.inj same).2)
    · exact absurd (List.append_inj_right' (List.cons.inj same).2 rfl) (by decide)
    · exact absurd (List.append_inj_right' (List.cons.inj same).2 rfl) (by decide)
    · exact different (List.append_cancel_right (List.cons.inj same).2)

theorem same_iff_continues (different : first.index ≠ second.index) :
    first.stem ++ decimal first.index = second.stem ++ decimal second.index ↔
      Continues first second ∨ Continues second first := by
  constructor
  · intro same
    -- one of the two stems begins with the other, and what it has more are digits of the number
    rcases List.append_eq_append_iff.mp same with ⟨digits, stem, number⟩ | ⟨digits, stem, number⟩
    · refine .inr ⟨digits, ?_, stem, number⟩
      rintro rfl
      exact different (decimal_injective number)
    · refine .inl ⟨digits, ?_, stem, number⟩
      rintro rfl
      exact different (decimal_injective number).symm
  · rintro (⟨digits, _, stem, number⟩ | ⟨digits, _, stem, number⟩)
    · rw [stem, number, List.append_assoc]
    · rw [stem, number, List.append_assoc]

end

/-! ### Addresses -/

section

variable {creation : Creation} {addr other : Addr} {index : Nat} {host : List Char}

/-- The bytes of an address of a link. -/
theorem bytes_of_linkIp (same : ipToStr addr = linkIp host index) :
    (addr.extractLsb' 0 8).toNat = 10 ∧ (addr.extractLsb' 8 8).toNat = index / 255 ∧
      (addr.extractLsb' 16 8).toNat = index % 255 + 1 := by
  have ten : linkIp host index = decimal 10 ++ '.' :: (decimal (index / 255) ++
      '.' :: (decimal (index % 255 + 1) ++ '.' :: host)) := rfl
  rw [ipToStr_eq, ten] at same
  have first := cut_of_append_cons same (not_mem_decimal rfl _) (not_mem_decimal rfl _)
  have second := cut_of_append_cons first.2 (not_mem_decimal rfl _) (not_mem_decimal rfl _)
  have third := cut_of_append_cons second.2 (not_mem_decimal rfl _) (not_mem_decimal rfl _)
  exact ⟨decimal_injective first.1, decimal_injective second.1, decimal_injective third.1⟩

theorem index_lt_of_linkIp (same : ipToStr addr = linkIp host index) : index < 65280 := by
  have second := (bytes_of_linkIp same).2.1
  have small := (addr.extractLsb' 8 8).isLt
  omega

/-- Four numbers below 256 are the bytes of an address. -/
theorem exists_ipToStr {first second third fourth : Nat} (one : first < 256) (two : second < 256)
    (three : third < 256) (four : fourth < 256) :
    ∃ addr, ipToStr addr = decimal first ++ '.' :: (decimal second ++
      '.' :: (decimal third ++ '.' :: decimal fourth)) := by
  obtain ⟨total, sum⟩ : ∃ total, total = first + 256 * second + 65536 * third +
    16777216 * fourth := ⟨_, rfl⟩
  have fits : total % 2 ^ 32 = total := Nat.mod_eq_of_lt (by omega)
  have byteOne : total / 2 ^ 0 % 2 ^ 8 = first := by omega
  have byteTwo : total / 2 ^ 8 % 2 ^ 8 = second := by omega
  have byteThree : total / 2 ^ 16 % 2 ^ 8 = third := by omega
  have byteFour : total / 2 ^ 24 % 2 ^ 8 = fourth := by omega
  refine ⟨BitVec.ofNat 32 total, ?_⟩
  rw [ipToStr_eq]
  simp only [BitVec.extractLsb'_toNat, BitVec.toNat_ofNat, Nat.shiftRight_eq_div_pow, fits]
  rw [byteOne, byteTwo, byteThree, byteFour]

/-- A number below 65280 gives addresses. -/
theorem exists_addr {last : Nat} (small : last < 256) (below : index < 65280) :
    ∃ addr, ipToStr addr = linkIp (decimal last) index :=
  exists_ipToStr (by decide : 10 < 256) (by omega) (by omega) small

theorem subnet_of_linkIp (same : ipToStr addr = linkIp host index) :
    subnet addr = [BitVec.ofNat 8 10, BitVec.ofNat 8 (index / 255),
      BitVec.ofNat 8 (index % 255 + 1)] := by
  have bytes := bytes_of_linkIp same
  show [addr.extractLsb' 0 8, addr.extractLsb' 8 8, addr.extractLsb' 16 8] = _
  rw [← bytes.1, ← bytes.2.1, ← bytes.2.2]
  simp only [BitVec.ofNat_toNat, BitVec.setWidth_eq]

theorem mem_creation_ips {ip : List Char} :
    ip ∈ creation.ips ↔ ip = linkIp ['1'] creation.index ∨ ip = linkIp ['2'] creation.index := by
  unfold Creation.ips
  rw [linkIps_eq, List.mem_pair]

theorem linkIp_of_mem {ip : List Char} (found : ip ∈ creation.ips) :
    ∃ host, ip = linkIp host creation.index := by
  rcases mem_creation_ips.mp found with same | same
  · exact ⟨_, same⟩
  · exact ⟨_, same⟩

theorem valid_iff : (∀ ip ∈ creation.ips, ∃ addr, ipToStr addr = ip) ↔ creation.index < 65280 := by
  constructor
  · intro valid
    obtain ⟨addr, same⟩ := valid _ (mem_creation_ips.mpr (.inl rfl))
    exact index_lt_of_linkIp same
  · intro below ip found
    rcases mem_creation_ips.mp found with rfl | rfl
    · exact exists_addr (by decide : 1 < 256) below
    · exact exists_addr (by decide : 2 < 256) below

example : linkIps 65280 = ("10.256.1.1".toList, "10.256.1.2".toList) := by decide +kernel

theorem joined_subnet (creation : Creation) (here : ipToStr addr ∈ creation.ips)
    (there : ipToStr other ∈ creation.ips) : subnet addr = subnet other := by
  obtain ⟨host, same⟩ := linkIp_of_mem here
  obtain ⟨guest, alike⟩ := linkIp_of_mem there
  rw [subnet_of_linkIp same, subnet_of_linkIp alike]

theorem subnet_ne {second : Creation} (different : creation.index ≠ second.index)
    (here : ipToStr addr ∈ creation.ips) (there : ipToStr other ∈ second.ips) :
    subnet addr ≠ subnet other := by
  obtain ⟨host, same⟩ := linkIp_of_mem here
  obtain ⟨guest, alike⟩ := linkIp_of_mem there
  intro shared
  have bytes := bytes_of_linkIp same
  have others := bytes_of_linkIp alike
  obtain ⟨_, rest⟩ := List.cons.inj shared
  obtain ⟨high, low⟩ := List.cons.inj rest
  have low := (List.cons.inj low).1
  rw [high, others.2.1] at bytes
  rw [low, others.2.2] at bytes
  omega

end

/-! ### Numbers that are given once -/

theorem allotted_iff_of_distinct {creations : List Creation}
    (distinct : creations.Pairwise fun first second => first.index ≠ second.index) :
    Allotted creations ↔ (∀ creation ∈ creations, creation.index < 65280) ∧
      creations.Pairwise fun first second =>
        ¬ (Continues first second ∨ Continues second first) := by
  constructor
  · intro allotted
    refine ⟨fun creation member => valid_iff.mp (allotted.valid creation member), ?_⟩
    have apart := (List.nodup_flatMap.mp allotted.names).2
    refine (apart.and distinct).imp fun {first second} both continues => ?_
    exact disjoint_names_iff.mp both.1 ((same_iff_continues both.2).mpr continues)
  · rintro ⟨below, free⟩
    refine ⟨List.nodup_flatMap.mpr ⟨fun creation _ => nodup_names creation, ?_⟩, ?_, ?_, ?_, ?_⟩
    · refine (free.and distinct).imp fun both => disjoint_names_iff.mpr fun same => ?_
      exact both.1 ((same_iff_continues both.2).mp same)
    · exact fun creation member name found =>
        length_name_le (Nat.lt_trans (below creation member) (by decide)) found
    · exact fun creation member => valid_iff.mpr (below creation member)
    · exact fun creation _ addr other => joined_subnet creation
    · exact distinct.imp fun different addr other => subnet_ne different

/-- The number of the link that a task is about to enter. -/
def Task.index : Task → Option Nat
  | .wiring _ _ index _ => some index
  | _ => none

/-- The numbers that have been given, to links that were created or are about to be. -/
def given (creations : List Creation) (tasks : List Task) : List Nat :=
  creations.map Creation.index ++ tasks.filterMap Task.index

/-- Numbers are given once, from below the counter. -/
structure Numbered (creations : List Creation) (topology : Topology) (tasks : List Task) :
    Prop where
  below : ∀ index ∈ given creations tasks, index < topology.linkCounter
  once : (given creations tasks).Nodup

section

variable {creations : List Creation} {topology later : Topology} {tasks others : List Task}
  {task : Task} {next : Option Task}

theorem Task.Quiet.index (quiet : task.Quiet) : task.index = none := by
  cases task with
  | wiring src dst index left => exact nomatch quiet.2
  | _ => rfl

theorem index_unlinkNext (ns : List Char) (wires : List Wire) :
    (unlinkNext ns wires).index = none := by
  cases wires with
  | nil => rfl
  | cons wire rest => rfl

theorem Numbered.of_perm (numbered : Numbered creations topology tasks)
    (order : tasks.Perm others) : Numbered creations topology others := by
  have same : (given creations tasks).Perm (given creations others) :=
    (order.filterMap Task.index).append_left _
  exact ⟨fun index found => numbered.below index (same.mem_iff.mpr found),
    same.nodup_iff.mp numbered.once⟩

theorem filterMap_index_toList (next : Option Task) :
    next.toList.filterMap Task.index = (next.bind Task.index).toList := by
  cases next with
  | none => rfl
  | some task =>
    show [task].filterMap Task.index = task.index.toList
    cases found : task.index with
    | none => exact List.filterMap_cons_none found
    | some index => exact List.filterMap_cons_some found

/-- A task draws no number, and it keeps its own until the link is created. -/
theorem Proceeds.index {reply : Reply} (proceeds : Proceeds reply topology task later next) :
    (task.creates.map Creation.index ++ (next.bind Task.index).toList).Sublist
      task.index.toList := by
  have quiet {next : Option Task} (without : ∀ after ∈ next, after.index = none) :
      (task.creates.map Creation.index ++ (next.bind Task.index).toList).Sublist
        task.index.toList := by
    rw [Option.bind_eq_none_iff.mpr without, Option.toList_none, List.append_nil]
    cases task with
    | wiring src dst index left =>
      cases left with
      | zero => exact List.Sublist.refl [index]
      | succ left => exact List.nil_sublist _
    | _ => exact List.nil_sublist _
  cases proceeds with
  | idle _ _ free => exact quiet fun after found => (free after found).quiet.index
  | create ns => exact quiet fun _ found => Option.some.inj found ▸ rfl
  | raise ns => exact quiet fun _ found => Option.some.inj found ▸ rfl
  | enter ns => exact quiet fun _ found => Option.some.inj found ▸ rfl
  | unlink ns wire rest =>
    unfold removeNodeLoop
    split
    · exact quiet fun _ found => Option.some.inj found ▸ index_unlinkNext ns rest
    · exact quiet nofun
  | delete ns =>
    unfold removeNodeEnd
    split
    · exact quiet fun _ found => Option.some.inj found ▸ rfl
    · exact quiet nofun
  | wait src dst index left => exact List.Sublist.refl [index]
  | wire src dst index =>
    unfold addLinkEnd
    dsimp only
    split
    · split
      · exact quiet fun _ found => Option.some.inj found ▸ (free_startChores _ _).quiet.index
      · exact quiet nofun
    · exact quiet nofun
  | detach wire =>
    unfold removeLinkEnd
    split
    · exact quiet fun _ found => Option.some.inj found ▸ rfl
    · exact quiet nofun
  | toggle wire up =>
    exact quiet fun _ found => Option.some.inj found ▸ (free_startChores _ _).quiet.index
  | clear => exact quiet fun _ found => Option.some.inj found ▸ rfl

theorem Proceeds.linkCounter {reply : Reply} (proceeds : Proceeds reply topology task later next) :
    later.linkCounter = topology.linkCounter := by
  cases proceeds with
  | enter ns => exact setNode_linkCounter
  | unlink ns wire rest =>
    unfold removeNodeLoop
    split <;> rfl
  | delete ns =>
    unfold removeNodeEnd
    split <;> rfl
  | wire src dst index =>
    unfold addLinkEnd
    dsimp only
    split
    · split <;> rfl
    · rfl
  | detach wire =>
    unfold removeLinkEnd
    split <;> rfl
  | _ => rfl

/-- A task runs on, and its number is its link's once that is created. -/
theorem Numbered.resume (table : DigitTable) (reply : Reply)
    (numbered : Numbered creations topology (task :: others)) :
    Numbered (creations ++ task.creates) (Dashboard.resume table task reply topology).1
      ((Dashboard.resume table task reply topology).2.toList ++ others) := by
  have proceeds := proceeds_resume table task reply topology
  have before : given creations (task :: others) =
      creations.map Creation.index ++ (task.index.toList ++ others.filterMap Task.index) := by
    show _ ++ ((some task).toList ++ others).filterMap Task.index = _
    rw [List.filterMap_append, filterMap_index_toList]
    rfl
  have after : given (creations ++ task.creates)
      ((Dashboard.resume table task reply topology).2.toList ++ others) =
        creations.map Creation.index ++ ((task.creates.map Creation.index ++
          ((Dashboard.resume table task reply topology).2.bind Task.index).toList) ++
            others.filterMap Task.index) := by
    unfold given
    rw [List.filterMap_append, filterMap_index_toList, List.map_append]
    simp only [List.append_assoc]
  have fewer : (given (creations ++ task.creates)
      ((Dashboard.resume table task reply topology).2.toList ++ others)).Sublist
        (given creations (task :: others)) := by
    rw [before, after]
    exact (proceeds.index.append (List.Sublist.refl _)).append_left _
  refine ⟨fun index found => ?_, numbered.once.sublist fewer⟩
  rw [proceeds.linkCounter]
  exact numbered.below index (fewer.subset found)

theorem Begins.numbered (begins : Begins topology later next)
    (numbered : Numbered creations topology tasks) :
    Numbered creations later (next.toList ++ tasks) := by
  have without : ∀ (after : Topology) {next : Option Task}, next.bind Task.index = none →
      after.linkCounter = topology.linkCounter →
        Numbered creations after (next.toList ++ tasks) := by
    intro after next none counter
    have same : given creations (next.toList ++ tasks) = given creations tasks := by
      unfold given
      rw [List.filterMap_append, filterMap_index_toList, none]
      rfl
    refine ⟨fun index found => ?_, ?_⟩
    · rw [counter]
      exact numbered.below index (same ▸ found)
    · rw [same]
      exact numbered.once
  cases begins with
  | idle free =>
    exact without _ (Option.bind_eq_none_iff.mpr fun task found => (free task found).quiet.index) rfl
  | adds ns => exact without _ rfl rfl
  | removes ns => exact without _ (index_unlinkNext ns _) rfl
  | @draws src dst different =>
    have order : (given creations (.wiring src dst topology.linkCounter 6 :: tasks)).Perm
        (topology.linkCounter :: given creations tasks) := List.perm_middle
    refine ⟨fun index found => ?_, order.nodup_iff.mpr (List.nodup_cons.mpr ⟨?_, numbered.once⟩)⟩
    · rcases List.mem_cons.mp (order.mem_iff.mp found) with rfl | old
      · exact Nat.lt_succ_self _
      · exact Nat.lt_succ_of_lt (numbered.below index old)
    · exact fun found => Nat.lt_irrefl _ (numbered.below _ found)
  | clears => exact without _ rfl rfl

end

/-! ### Runs -/

section

variable (table : DigitTable)

theorem creates_reply {pool : Pool} {position : Nat} {reply : Reply} {task : Task}
    (found : pool.tasks[position]? = some task) :
    creates pool (.reply position reply) = task.creates := by
  unfold creates
  simp only [found]

theorem numbered_step (pool : Pool) (input : Input) {creations : List Creation}
    (numbered : Numbered creations pool.shared pool.tasks) :
    Numbered (creations ++ creates pool input) (step table pool input).shared
      (step table pool input).tasks := by
  cases input with
  | request request =>
    rw [show creates pool (.request request) = [] from rfl, List.append_nil]
    exact ((begins_start request pool.shared).numbered numbered).of_perm List.perm_append_comm
  | reply position reply =>
    cases found : pool.tasks[position]? with
    | none =>
      have nothing : creates pool (.reply position reply) = [] := by
        unfold creates
        simp only [found]
      have still : step table pool (.reply position reply) = pool := by
        unfold step Cooperation.step
        simp only [found]
      rw [nothing, still, List.append_nil]
      exact numbered
    | some task =>
      rw [creates_reply found]
      have kept := (numbered.of_perm (Cooperation.perm_eraseIdx found)).resume table reply
      unfold step Cooperation.step
      simp only [found]
      refine kept.of_perm ?_
      rw [List.eraseIdx_eq_take_drop_succ, List.append_assoc]
      exact List.perm_append_comm_assoc _ _ _

theorem numbered_run (nfqueueEnabled : Bool) (inputs : List Input) :
    Numbered (created table nfqueueEnabled inputs) (run table nfqueueEnabled inputs).shared
      (run table nfqueueEnabled inputs).tasks := by
  induction inputs using List.reverseRecOn with
  | nil => exact ⟨nofun, List.nodup_nil⟩
  | append_singleton inputs last inductionHypothesis =>
    have trace : created table nfqueueEnabled (inputs ++ [last]) =
        created table nfqueueEnabled inputs ++ creates (run table nfqueueEnabled inputs) last :=
      Runs.trace_concat creates _ inputs last
    have state : run table nfqueueEnabled (inputs ++ [last]) =
        step table (run table nfqueueEnabled inputs) last := List.foldl_concat ..
    rw [trace, state]
    exact numbered_step table _ last inductionHypothesis

/-- The names and addresses of the links that are created in a run are fit for use exactly if every
number is below 65280 and no two links continue each other. -/
theorem allotted_iff (nfqueueEnabled : Bool) (inputs : List Input) :
    Allotted (created table nfqueueEnabled inputs) ↔
      (∀ creation ∈ created table nfqueueEnabled inputs, creation.index < 65280) ∧
        (created table nfqueueEnabled inputs).Pairwise fun first second =>
          ¬ (Continues first second ∨ Continues second first) := by
  have once := (numbered_run table nfqueueEnabled inputs).once
  exact allotted_iff_of_distinct (List.pairwise_map.mp (List.nodup_append.mp once).1)

end

/-- Twelve links between two nodes, and one between two others. -/
def thirteenLinks : List Input :=
  alone (.addNode (some "ns-abcdX".toList)) 4 ++ alone (.addNode (some "ns-B1".toList)) 4 ++
    alone (.addNode (some "ns-abcdY".toList)) 4 ++ alone (.addNode (some "ns-B".toList)) 4 ++
    (List.replicate 12 (alone (.addLink "ns-abcdX".toList "ns-B1".toList) 8)).flatten ++
    alone (.addLink "ns-abcdY".toList "ns-B".toList) 8

/-- The links with the numbers 2 and 12 have the same names. -/
theorem not_allotted_thirteenLinks :
    (vethNames "ns-abcdX".toList "ns-B1".toList 2).1 = "vabcdB12s".toList ∧
      (vethNames "ns-abcdY".toList "ns-B".toList 12).1 = "vabcdB12s".toList ∧
      ¬ Allotted (created asciiTable false thirteenLinks) := by
  refine ⟨by decide +kernel, by decide +kernel, fun allotted => ?_⟩
  have names : ¬ ((created asciiTable false thirteenLinks).flatMap Creation.names).Nodup := by
    decide +kernel
  exact names allotted.names

end Aodvd.Dashboard
