/-
This file models how the kernel module takes messages from the daemon (`kaodv-netlink.c`) and asks
whether its routes are those that the daemon has told it last.

On `KAODVM_ADDROUTE` the module chooses between an update and an addition by whether
`kaodv_expl_get` returns a negative value, which it never does. So a route is only ever added, and
`kaodv_expl_add` leaves a destination alone that is already there. What the module knows of a
destination is the first route that it was told since the last deletion, and not the last one.
-/

import Mathlib
import Aodvd.KernelExpl

namespace Aodvd.Kaodv

/-! ### Messages -/

/-- The fields of `struct kaodv_rt_msg` that the module reads. -/
structure RtMsg where
  dst : Addr
  nhop : Addr
  flags : BitVec 8
  ifindex : BitVec 32
  time : BitVec 64
  deriving DecidableEq, Repr

/-- `struct kaodv_conf_msg`. -/
structure ConfMsg where
  activeRouteTimeout : BitVec 32
  qualTh : BitVec 32
  isGateway : BitVec 32
  deriving DecidableEq, Repr

/-- A message by its type; other types are unknown to the module. -/
inductive NlMsg
  | addRoute (msg : RtMsg)
  | delRoute (msg : RtMsg)
  | noRouteFound (msg : RtMsg)
  | config (msg : ConfMsg)
  | other
  deriving DecidableEq, Repr

/-- A message with its length, the time at which it comes, and whether `kmalloc` has memory. -/
structure Input where
  msg : NlMsg
  len : Nat
  jiffies : BitVec 64
  allocated : Bool
  deriving DecidableEq, Repr

/-- `sizeof(struct kaodv_rt_msg)` and `sizeof(struct kaodv_conf_msg)`. -/
def rtMsgSize : Nat := 32
def confMsgSize : Nat := 12

/-- The globals that the messages write. -/
structure Kernel where
  expl : Expl
  conf : ConfMsg
  deriving DecidableEq, Repr

/-- `KAODV_QUEUE_DROP` and `KAODV_QUEUE_SEND`. -/
inductive QueueVerdict
  | drop
  | send
  deriving DecidableEq, Repr

/-- What a message leads to: the status, the call of `kaodv_queue_set_verdict`, if any, and the
globals. -/
structure Received where
  status : Int
  verdict : Option (QueueVerdict × Addr)
  kernel : Kernel

/-- The route that a message carries. -/
def RtMsg.route (msg : RtMsg) : Route :=
  ⟨msg.dst, msg.nhop, msg.time, msg.flags.setWidth 16, msg.ifindex⟩

/-- The call that `KAODVM_ADDROUTE` leads to. -/
def addRouteCall (hz : Nat) (jiffies : BitVec 64) (allocated : Bool) (msg : RtMsg) (expl : Expl) :
    Int × Expl :=
  if (explGet msg.dst expl).1 < 0 then explUpdate hz jiffies msg.route expl
  else explAdd hz jiffies allocated msg.route expl

/-- `kaodv_netlink_receive_peer`. -/
def receivePeer (hz : Nat) (kernel : Kernel) (input : Input) : Received :=
  match input.msg with
  | .addRoute msg =>
    if input.len < rtMsgSize then ⟨-einval, none, kernel⟩
    else
      let (status, expl) := addRouteCall hz input.jiffies input.allocated msg kernel.expl
      ⟨status, some (.send, msg.dst), { kernel with expl := expl }⟩
  | .delRoute msg =>
    if input.len < rtMsgSize then ⟨-einval, none, kernel⟩
    else ⟨0, some (.drop, msg.dst), { kernel with expl := (explDel msg.dst kernel.expl).2 }⟩
  | .noRouteFound msg =>
    if input.len < rtMsgSize then ⟨-einval, none, kernel⟩
    else ⟨0, some (.drop, msg.dst), kernel⟩
  | .config conf =>
    if input.len < confMsgSize then ⟨-einval, none, kernel⟩
    else ⟨0, none, { kernel with conf := conf }⟩
  | .other => ⟨-einval, none, kernel⟩

/-- The globals after a message. -/
def receive (hz : Nat) (kernel : Kernel) (input : Input) : Kernel :=
  (receivePeer hz kernel input).kernel

/-- The module when it is loaded. -/
def loaded : Kernel := ⟨explInit, ⟨3000#32, 0#32, 1#32⟩⟩

/-- The module after a sequence of messages. -/
def received (hz : Nat) (inputs : List Input) : Kernel := inputs.foldl (receive hz) loaded

/-! ### What the messages say -/

/-- What a message tells of which destination: a route to it, or that there is none. A message that
is too short tells nothing. -/
def Input.tells (input : Input) : Option (Addr × Option RtMsg) :=
  if input.len < rtMsgSize then none
  else
    match input.msg with
    | .addRoute msg => some (msg.dst, some msg)
    | .delRoute msg => some (msg.dst, none)
    | _ => none

/-- What a message tells of a given destination. -/
def Input.about (dest : Addr) (input : Input) : Option (Option RtMsg) :=
  match input.tells with
  | some (daddr, what) => if daddr = dest then some what else none
  | none => none

/-- The last message about a destination. -/
def lastMessage (dest : Addr) (inputs : List Input) : Option (Option RtMsg) :=
  inputs.reverse.findSome? (Input.about dest)

/-- The route of the last message about a destination, if it told one. -/
def lastRoute (dest : Addr) (inputs : List Input) : Option RtMsg := (lastMessage dest inputs).join

/-- The messages since the last one that deleted a destination. -/
def sinceDeletion (dest : Addr) (inputs : List Input) : List Input :=
  inputs.rtakeWhile fun input => decide (input.about dest ≠ some none)

/-- The first route to a destination since its last deletion for which there was memory. -/
def firstRoute (dest : Addr) (inputs : List Input) : Option RtMsg :=
  (sinceDeletion dest inputs).findSome? fun input =>
    if input.allocated then (input.about dest).join else none

/-- The destinations to which the messages told a route. -/
def destinations (inputs : List Input) : List Addr :=
  inputs.filterMap fun input => (input.tells.bind Prod.snd).map RtMsg.dst

/-- The next hop, the flags and the interface of a route. -/
def RtMsg.path (msg : RtMsg) : Addr × BitVec 16 × BitVec 32 :=
  (msg.nhop, msg.flags.setWidth 16, msg.ifindex)

def ExplEntry.path (entry : ExplEntry) : Addr × BitVec 16 × BitVec 32 :=
  (entry.nhop, entry.flags, entry.ifindex)

/-- The module finds a destination if the last message about it was a route, and then what it finds
is that route. -/
structure Follows (dest : Addr) (inputs : List Input) (expl : Expl) : Prop where
  found : (explGet dest expl).1 = 1 ↔ ∃ msg, lastMessage dest inputs = some (some msg)
  path : ∀ entry msg, (explGet dest expl).2 = some entry →
    lastMessage dest inputs = some (some msg) → entry.path = msg.path

/-! ### One more message -/

section

variable {hz : Nat} {jiffies : BitVec 64} {allocated : Bool} {route : Route} {expl : Expl}
  {dest daddr : Addr} {inputs : List Input}

/-- `kaodv_expl_get` never returns a negative value, so a route is always added. -/
theorem addRouteCall_eq (hz : Nat) (jiffies : BitVec 64) (allocated : Bool) (msg : RtMsg)
    (expl : Expl) :
    addRouteCall hz jiffies allocated msg expl = explAdd hz jiffies allocated msg.route expl := by
  refine if_neg ?_
  unfold explGet
  cases explFind msg.dst expl with
  | none => exact Int.lt_irrefl 0
  | some entry => exact Int.not_lt.mpr Int.one_nonneg

/-- The list after a message, by what the message tells. -/
theorem receive_expl (hz : Nat) (kernel : Kernel) (input : Input) :
    (receive hz kernel input).expl =
      match input.tells with
      | none => kernel.expl
      | some (_, some msg) => (explAdd hz input.jiffies input.allocated msg.route kernel.expl).2
      | some (daddr, none) => (explDel daddr kernel.expl).2 := by
  obtain ⟨msg, len, jiffies, allocated⟩ := input
  cases msg with
  | addRoute msg =>
    by_cases short : len < rtMsgSize
    · simp only [receive, receivePeer, Input.tells, if_pos short]
    · simp only [receive, receivePeer, Input.tells, if_neg short, addRouteCall_eq]
  | delRoute msg =>
    by_cases short : len < rtMsgSize
    · simp only [receive, receivePeer, Input.tells, if_pos short]
    · simp only [receive, receivePeer, Input.tells, if_neg short]
  | noRouteFound msg =>
    by_cases short : len < rtMsgSize
    · simp only [receive, receivePeer, Input.tells, if_pos short]
    · simp only [receive, receivePeer, Input.tells, if_neg short]
  | config conf =>
    simp only [receive, receivePeer, Input.tells]
    split_ifs <;> rfl
  | other =>
    simp only [receive, receivePeer, Input.tells]
    split_ifs <;> rfl

theorem received_concat (hz : Nat) (inputs : List Input) (input : Input) :
    received hz (inputs ++ [input]) = receive hz (received hz inputs) input :=
  List.foldl_concat _ _ _ _

theorem firstRoute_concat (dest : Addr) (inputs : List Input) (input : Input) :
    firstRoute dest (inputs ++ [input]) =
      if input.about dest = some none then none
      else (firstRoute dest inputs).or
        (if input.allocated then (input.about dest).join else none) := by
  unfold firstRoute sinceDeletion
  rw [List.rtakeWhile_concat]
  by_cases deleted : input.about dest = some none
  · have ends : ¬decide (input.about dest ≠ some none) = true :=
      fun other => of_decide_eq_true other deleted
    rw [if_neg ends, if_pos deleted, List.findSome?_nil]
  · rw [if_pos (decide_eq_true deleted), if_neg deleted, List.findSome?_append,
      List.findSome?_singleton]

/-- A message about a destination is one that tells of it. -/
theorem tells_of_about {input : Input} {what : Option RtMsg}
    (told : input.about dest = some what) : input.tells = some (dest, what) := by
  unfold Input.about at told
  cases same : input.tells with
  | none =>
    rw [same] at told
    exact absurd told nofun
  | some pair =>
    obtain ⟨daddr, other⟩ := pair
    rw [same] at told
    by_cases equal : daddr = dest
    · rw [equal, Option.some.inj ((if_pos equal).symm.trans told)]
    · exact absurd ((if_neg equal).symm.trans told) nofun

/-- A message that tells a route carries the destination itself. -/
theorem dst_of_tells {input : Input} {msg : RtMsg} (told : input.tells = some (daddr, some msg)) :
    msg.dst = daddr := by
  obtain ⟨content, len, jiffies, allocated⟩ := input
  unfold Input.tells at told
  split at told
  · exact absurd told nofun
  · cases content with
    | addRoute other =>
      obtain ⟨first, second⟩ := Prod.mk.inj (Option.some.inj told)
      rw [← Option.some.inj second, first]
    | delRoute other => exact absurd (Prod.mk.inj (Option.some.inj told)).2 nofun
    | noRouteFound other => exact absurd told nofun
    | config conf => exact absurd told nofun
    | other => exact absurd told nofun

/-- A destination with a first route is one of those to which a route was told. -/
theorem mem_destinations (first : firstRoute dest inputs ≠ none) :
    dest ∈ destinations inputs := by
  obtain ⟨msg, same⟩ := Option.ne_none_iff_exists'.mp first
  obtain ⟨input, member, found⟩ := List.exists_of_findSome?_eq_some same
  have told : input.about dest = some (some msg) := by
    split at found
    · exact Option.join_eq_some_iff.mp found
    · exact absurd found nofun
  refine List.mem_filterMap.mpr
    ⟨input, (List.rtakeWhile_suffix _ _).subset member, ?_⟩
  rw [tells_of_about told, Option.bind_some, Option.map_some, dst_of_tells (tells_of_about told)]

/-! ### What is found after an addition and after a deletion -/

theorem daddr_of_explFind {entry : ExplEntry} (found : explFind dest expl = some entry) :
    entry.daddr = dest := by
  have same := List.find?_some found
  exact of_decide_eq_true same

/-- Destinations being distinct, what is found is what is in the list. -/
theorem explFind_eq_some_iff (distinct : (expl.list.map ExplEntry.daddr).Nodup)
    {entry : ExplEntry} :
    explFind dest expl = some entry ↔ entry ∈ expl.list ∧ entry.daddr = dest := by
  constructor
  · intro found
    exact ⟨List.mem_of_find?_eq_some found, daddr_of_explFind found⟩
  · rintro ⟨member, rfl⟩
    have present : explFind entry.daddr expl ≠ none := fun absent =>
      explFind_eq_none_iff.mp absent (List.mem_map_of_mem member)
    obtain ⟨other, found⟩ := Option.ne_none_iff_exists'.mp present
    rw [found, List.inj_on_of_nodup_map distinct (List.mem_of_find?_eq_some found) member
      (daddr_of_explFind found)]

/-- An addition is found if the destination was not there. -/
theorem explFind_explAdd (sound : Sound expl) (room : expl.len < explMaxLen) :
    explFind dest (explAdd hz jiffies allocated route expl).2 =
      (explFind dest expl).or
        (if allocated = true ∧ route.daddr = dest then some (route.entry hz jiffies)
          else none) := by
  by_cases absent : explFind route.daddr expl = none
  · rw [explAdd_of_not_found absent]
    cases allocated with
    | false => rw [if_pos rfl, if_neg (fun both => absurd both.1 nofun), Option.or_none]
    | true =>
      rw [if_neg nofun, if_neg (Nat.not_le_of_lt room)]
      have kept : Sound ⟨explInsert (route.entry hz jiffies) expl.list, (expl.len + 1) % 2 ^ 32⟩ :=
        sound.insert _ (explFind_eq_none_iff.mp absent) room
      refine Option.ext fun entry => ?_
      rw [explFind_eq_some_iff kept.distinct, (perm_explInsert _ _).mem_iff, List.mem_cons]
      by_cases same : route.daddr = dest
      · rw [← same, absent, Option.none_or, if_pos ⟨rfl, rfl⟩, Option.some_inj]
        constructor
        · rintro ⟨rfl | member, equal⟩
          · rfl
          · exact absurd (List.mem_map.mpr ⟨entry, member, equal⟩)
              (explFind_eq_none_iff.mp absent)
        · rintro rfl
          exact ⟨.inl rfl, rfl⟩
      · rw [if_neg (fun both => same both.2), Option.or_none, explFind_eq_some_iff sound.distinct]
        constructor
        · rintro ⟨rfl | member, equal⟩
          · exact absurd equal same
          · exact ⟨member, equal⟩
        · exact fun both => ⟨.inr both.1, both.2⟩
  · rw [explAdd_of_found absent]
    by_cases same : route.daddr = dest
    · rw [same] at absent
      obtain ⟨entry, found⟩ := Option.ne_none_iff_exists'.mp absent
      rw [found, Option.some_or]
    · rw [if_neg (fun both => same both.2), Option.or_none]

/-- A deletion takes away what is found of its destination, and nothing else. -/
theorem explFind_explDel (sound : Sound expl) :
    explFind dest (explDel daddr expl).2 = if daddr = dest then none else explFind dest expl := by
  unfold explDel
  cases found : explFind daddr expl with
  | none =>
    by_cases same : daddr = dest
    · rw [if_pos same, ← same, found]
    · rw [if_neg same]
  | some entry =>
    by_cases same : daddr = dest
    · rw [if_pos same, ← same, explFind_eq_none_iff]
      exact not_mem_explUnlink sound.distinct
    · rw [if_neg same]
      have part := (explUnlink_sublist daddr expl.list).map ExplEntry.daddr
      refine Option.ext fun other => ?_
      rw [explFind_eq_some_iff (part.nodup sound.distinct), explFind_eq_some_iff sound.distinct]
      refine and_congr_left fun equal => List.mem_eraseP_of_neg fun reached => same ?_
      exact (of_decide_eq_true reached).symm.trans equal

/-! ### What the module knows -/

/-- What one more message does to what is known of a destination. -/
theorem path_receive {kernel : Kernel} (sound : Sound kernel.expl)
    (room : kernel.expl.len < explMaxLen) (input : Input) (dest : Addr) :
    (explFind dest (receive hz kernel input).expl).map ExplEntry.path =
      if input.about dest = some none then none
      else ((explFind dest kernel.expl).map ExplEntry.path).or
        ((if input.allocated then (input.about dest).join else none).map RtMsg.path) := by
  rw [receive_expl]
  unfold Input.about
  cases told : input.tells with
  | none => simp
  | some pair =>
    obtain ⟨daddr, what⟩ := pair
    cases what with
    | none =>
      show (explFind dest (explDel daddr kernel.expl).2).map ExplEntry.path = _
      rw [explFind_explDel sound]
      by_cases same : daddr = dest
      · simp [same]
      · simp [same]
    | some msg =>
      have itself : msg.route.daddr = daddr := dst_of_tells told
      show (explFind dest (explAdd hz input.jiffies input.allocated msg.route kernel.expl).2).map
        ExplEntry.path = _
      rw [explFind_explAdd sound room, itself]
      by_cases same : daddr = dest
      · have entered : (msg.route.entry hz input.jiffies).path = msg.path := rfl
        cases input.allocated with
        | false => simp [same]
        | true => cases explFind dest kernel.expl <;> simp [same, entered]
      · simp [same]

/-- The list is sound and knows of each destination the first route since its last deletion. -/
structure Knows (inputs : List Input) (expl : Expl) : Prop where
  sound : Sound expl
  first : ∀ dest, (explFind dest expl).map ExplEntry.path =
    (firstRoute dest inputs).map RtMsg.path

/-- Every destination in the list was told, so with few destinations there is room. -/
theorem Knows.room (knows : Knows inputs expl)
    (few : (destinations inputs).toFinset.card < explMaxLen) : expl.len < explMaxLen := by
  have told : (expl.list.map ExplEntry.daddr).toFinset ⊆ (destinations inputs).toFinset := by
    intro dest member
    rw [List.mem_toFinset] at member ⊢
    refine mem_destinations fun none => ?_
    have absent := knows.first dest
    rw [none, Option.map_none, Option.map_eq_none_iff, explFind_eq_none_iff] at absent
    exact absent member
  have count := Finset.card_le_card told
  rw [List.toFinset_card_of_nodup knows.sound.distinct, List.length_map,
    ← knows.sound.counted] at count
  exact Nat.lt_of_le_of_lt count few

theorem sound_receive {kernel : Kernel} (sound : Sound kernel.expl)
    (room : kernel.expl.len < explMaxLen) (input : Input) :
    Sound (receive hz kernel input).expl := by
  rw [receive_expl]
  cases input.tells with
  | none => exact sound
  | some pair =>
    obtain ⟨daddr, what⟩ := pair
    cases what with
    | none => exact sound.explDel
    | some msg => exact (sound_explAdd_iff sound).mpr (.inr (.inr room))

/-- The destinations of a shorter sequence of messages are no more. -/
theorem card_destinations_le (inputs : List Input) (input : Input) :
    (destinations inputs).toFinset.card ≤ (destinations (inputs ++ [input])).toFinset.card := by
  refine Finset.card_le_card fun dest member => ?_
  rw [List.mem_toFinset] at member ⊢
  unfold destinations
  rw [List.filterMap_append]
  exact List.mem_append_left _ member

theorem knows_received (hz : Nat) (inputs : List Input)
    (few : (destinations inputs).toFinset.card < explMaxLen) :
    Knows inputs (received hz inputs).expl := by
  -- One more message at the end; the messages before it have few destinations too.
  induction inputs using List.reverseRecOn with
  | nil => exact ⟨sound_explInit, fun dest => rfl⟩
  | append_singleton inputs input inductionHypothesis =>
    have fewBefore := Nat.lt_of_le_of_lt (card_destinations_le inputs input) few
    have knows := inductionHypothesis fewBefore
    have room := knows.room fewBefore
    rw [received_concat]
    refine ⟨sound_receive knows.sound room input, fun dest => ?_⟩
    rw [path_receive knows.sound room, firstRoute_concat, knows.first]
    split
    · rfl
    · rw [Option.map_or]

end

/-- For every sequence of messages with fewer destinations than the list has room for, what the
module finds of a destination is what the daemon told last exactly if the first route told since
the last deletion, of those for which there was memory, has the path of the last one. -/
theorem follows_iff (hz : Nat) (inputs : List Input) (dest : Addr)
    (few : (destinations inputs).toFinset.card < explMaxLen) :
    Follows dest inputs (received hz inputs).expl ↔
      (firstRoute dest inputs).map RtMsg.path = (lastRoute dest inputs).map RtMsg.path := by
  rw [← (knows_received hz inputs few).first dest]
  unfold lastRoute
  constructor
  · rintro ⟨found, path⟩
    unfold explGet at found path
    cases same : explFind dest (received hz inputs).expl with
    | none =>
      rw [same] at found
      cases last : (lastMessage dest inputs).join with
      | none => rfl
      | some msg =>
        exact absurd (found.mpr ⟨msg, Option.join_eq_some_iff.mp last⟩) nofun
    | some entry =>
      rw [same] at found path
      obtain ⟨msg, last⟩ := found.mp rfl
      rw [last, Option.join_some, Option.map_some, Option.map_some, path entry msg rfl last]
  · intro agree
    cases same : explFind dest (received hz inputs).expl with
    | none =>
      have absent : explGet dest (received hz inputs).expl = (0, none) := by
        unfold explGet
        rw [same]
      rw [same, Option.map_none, eq_comm, Option.map_eq_none_iff] at agree
      refine ⟨⟨fun one => ?_, fun ⟨msg, last⟩ => ?_⟩, fun entry msg found => ?_⟩
      · rw [absent] at one
        exact absurd one nofun
      · rw [last] at agree
        exact absurd agree nofun
      · rw [absent] at found
        exact absurd found nofun
    | some entry =>
      have present : explGet dest (received hz inputs).expl = (1, some entry) := by
        unfold explGet
        rw [same]
      rw [same, Option.map_some, eq_comm, Option.map_eq_some_iff] at agree
      obtain ⟨msg, last, path⟩ := agree
      have told := Option.join_eq_some_iff.mp last
      refine ⟨⟨fun _ => ⟨msg, told⟩, fun _ => congrArg Prod.fst present⟩, fun other message found =>
        fun lastly => ?_⟩
      rw [present] at found
      rw [told] at lastly
      rw [← Option.some.inj found, ← Option.some.inj (Option.some.inj lastly), path]

/-- A route to the destination 9 is told. -/
def via (nhop : Addr) : Input :=
  ⟨.addRoute ⟨9#32, nhop, 0#8, 2#32, 3000#64⟩, rtMsgSize, 0#64, true⟩

def gone : Input := ⟨.delRoute ⟨9#32, 0#32, 0#8, 0#32, 0#64⟩, rtMsgSize, 0#64, true⟩

theorem follows_iff_toldAnew :
    Follows 9#32 [via 2#32, gone, via 3#32] (received 100 [via 2#32, gone, via 3#32]).expl :=
  (follows_iff 100 [via 2#32, gone, via 3#32] 9#32 (by decide)).mpr (by decide)

/-- A route through 2 and then one through 3 are told; the module keeps the one through 2. -/
theorem not_follows_toldTwice :
    (destinations [via 2#32, via 3#32]).toFinset.card < explMaxLen ∧
      ((explGet 9#32 (received 100 [via 2#32, via 3#32]).expl).2.map ExplEntry.nhop = some 2#32) ∧
      ¬Follows 9#32 [via 2#32, via 3#32] (received 100 [via 2#32, via 3#32]).expl := by
  refine ⟨by decide, by decide, fun follows => ?_⟩
  have path := follows.path ⟨300#64, 0#16, 9#32, 2#32, 2#32⟩ ⟨9#32, 3#32, 0#8, 2#32, 3000#64⟩
    (by decide) (by decide)
  exact absurd path (by decide)

end Aodvd.Kaodv
