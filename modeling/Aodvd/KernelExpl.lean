/-
This file models the expiry list of the kernel module (`kaodv-expl.c`) and asks for its invariant.

The list holds the routes of the daemon in the order in which they expire, and a counter holds its
length. `__kaodv_expl_add` refuses an entry when the counter has reached `EXPL_MAX_LEN`. Its callers
do not take that for a failure: `kaodv_expl_add` counts the entry that was not added, and
`kaodv_expl_update` has already taken the entry out that it cannot put back. Below the limit the
invariant is kept, and at the limit it is lost exactly with such a call.

The module is built without `EXPL_TIMER`. The locks are left out, since each function holds the lock
while it works on the list.
-/

import Mathlib
import Aodvd.Params
import Aodvd.Library.Runs

namespace Aodvd.Kaodv

/-! ### The list -/

/-- `struct expl_entry` without its links. -/
structure ExplEntry where
  expires : BitVec 64
  flags : BitVec 16
  daddr : Addr
  nhop : Addr
  ifindex : BitVec 32
  deriving DecidableEq, Repr

/-- `expl_head` and `expl_len`. -/
structure Expl where
  list : List ExplEntry
  len : Nat
  deriving DecidableEq, Repr

def explMaxLen : Nat := 1024

def enomem : Int := 12
def einval : Int := 22
def enospc : Int := 28

/-- The arguments of `kaodv_expl_add` and `kaodv_expl_update`. -/
structure Route where
  daddr : Addr
  nhop : Addr
  time : BitVec 64
  flags : BitVec 16
  ifindex : BitVec 32
  deriving DecidableEq, Repr

/-- The entry of a route. -/
def Route.entry (hz : Nat) (jiffies : BitVec 64) (route : Route) : ExplEntry where
  expires := jiffies + route.time * BitVec.ofNat 64 hz / 1000#64
  flags := route.flags
  daddr := route.daddr
  nhop := route.nhop
  ifindex := route.ifindex

/-- The entry comes before the first one that expires later. -/
def explInsert (entry : ExplEntry) (list : List ExplEntry) : List ExplEntry :=
  list.orderedInsert (fun new curr => new.expires < curr.expires) entry

/-- `__kaodv_expl_add`. -/
def explAddEntry (entry : ExplEntry) (expl : Expl) : Int × Expl :=
  if explMaxLen ≤ expl.len then (-enospc, expl)
  else (1, { expl with list := explInsert entry expl.list })

/-- `__kaodv_expl_find`. -/
def explFind (daddr : Addr) (expl : Expl) : Option ExplEntry :=
  expl.list.find? fun entry => decide (entry.daddr = daddr)

/-- `list_del` of the entry that `__kaodv_expl_find` has found. -/
def explUnlink (daddr : Addr) (list : List ExplEntry) : List ExplEntry :=
  list.eraseP fun entry => decide (entry.daddr = daddr)

/-- `kaodv_expl_del`. -/
def explDel (daddr : Addr) (expl : Expl) : Int × Expl :=
  match explFind daddr expl with
  | none => (0, expl)
  | some _ => (1, ⟨explUnlink daddr expl.list, uintSub expl.len 1⟩)

/-- `kaodv_expl_get`, with the entry that it copies. -/
def explGet (daddr : Addr) (expl : Expl) : Int × Option ExplEntry :=
  match explFind daddr expl with
  | none => (0, none)
  | some entry => (1, some entry)

/-- `kaodv_expl_add`; `kmalloc` may fail. -/
def explAdd (hz : Nat) (jiffies : BitVec 64) (allocated : Bool) (route : Route) (expl : Expl) :
    Int × Expl :=
  if (explGet route.daddr expl).1 ≠ 0 then (0, expl)
  else if allocated = false then (-enomem, expl)
  else
    let (status, expl) := explAddEntry (route.entry hz jiffies) expl
    (status, if status ≠ 0 then { expl with len := (expl.len + 1) % 2 ^ 32 } else expl)

/-- `kaodv_expl_update`. -/
def explUpdate (hz : Nat) (jiffies : BitVec 64) (route : Route) (expl : Expl) : Int × Expl :=
  match explFind route.daddr expl with
  | none => (-1, expl)
  | some _ => (0, (explAddEntry (route.entry hz jiffies)
      { expl with list := explUnlink route.daddr expl.list }).2)

/-- `kaodv_expl_flush`. -/
def explFlush (expl : Expl) : Expl :=
  ⟨[], expl.list.foldl (fun len _ => uintSub len 1) expl.len⟩

/-- The state that `kaodv_expl_init` sets up. -/
def explInit : Expl := ⟨[], 0⟩

/-! ### Calls -/

/-- A call of one of the functions that write the list, with the time at which it comes. -/
inductive Call
  | add (jiffies : BitVec 64) (allocated : Bool) (route : Route)
  | update (jiffies : BitVec 64) (route : Route)
  | del (daddr : Addr)
  | flush
  deriving DecidableEq, Repr

/-- The list after a call. -/
def call (hz : Nat) (expl : Expl) : Call → Expl
  | .add jiffies allocated route => (explAdd hz jiffies allocated route expl).2
  | .update jiffies route => (explUpdate hz jiffies route expl).2
  | .del daddr => (explDel daddr expl).2
  | .flush => explFlush expl

/-- The length is counted and bounded, the list is sorted, and no destination occurs twice. -/
structure Sound (expl : Expl) : Prop where
  counted : expl.len = expl.list.length
  bounded : expl.len ≤ explMaxLen
  sorted : expl.list.Pairwise fun first second => first.expires ≤ second.expires
  distinct : (expl.list.map ExplEntry.daddr).Nodup

/-- A call that fails to add changes nothing, and an update does not remove. -/
def Steady (hz : Nat) (expl : Expl) : Call → Prop
  | .add jiffies allocated route =>
    (explAdd hz jiffies allocated route expl).1 < 0 →
      (explAdd hz jiffies allocated route expl).2 = expl
  | .update jiffies route => explFind route.daddr expl ≠ none →
    explFind route.daddr (explUpdate hz jiffies route expl).2 ≠ none
  | _ => True

/-- A call does not put an entry into a full list. -/
def Within (expl : Expl) : Call → Prop
  | .add _ allocated route =>
    explFind route.daddr expl ≠ none ∨ allocated = false ∨ expl.len < explMaxLen
  | .update _ route => explFind route.daddr expl = none ∨ expl.len < explMaxLen
  | _ => True

/-! ### What the functions do -/

section

variable {hz : Nat} {jiffies : BitVec 64} {allocated : Bool} {route : Route} {expl : Expl}
  {daddr : Addr} {entry : ExplEntry} {list : List ExplEntry}

theorem explFind_eq_none_iff :
    explFind daddr expl = none ↔ daddr ∉ expl.list.map ExplEntry.daddr := by
  unfold explFind
  rw [List.find?_eq_none, List.mem_map]
  simp only [decide_eq_true_eq, not_exists, not_and]

theorem explGet_ne_zero_iff : (explGet daddr expl).1 ≠ 0 ↔ explFind daddr expl ≠ none := by
  unfold explGet
  cases explFind daddr expl with
  | none => exact iff_of_false (fun other => other rfl) fun other => other rfl
  | some entry => exact iff_of_true (show (1 : Int) ≠ 0 by decide) nofun

theorem explAdd_of_found (found : explFind route.daddr expl ≠ none) :
    explAdd hz jiffies allocated route expl = (0, expl) :=
  if_pos (explGet_ne_zero_iff.mpr found)

theorem explAdd_of_not_found (absent : explFind route.daddr expl = none) :
    explAdd hz jiffies allocated route expl =
      if allocated = false then (-enomem, expl)
      else if explMaxLen ≤ expl.len then (-enospc, { expl with len := (expl.len + 1) % 2 ^ 32 })
      else (1, ⟨explInsert (route.entry hz jiffies) expl.list, (expl.len + 1) % 2 ^ 32⟩) := by
  unfold explAdd explAddEntry
  rw [if_neg fun found => explGet_ne_zero_iff.mp found absent]
  by_cases full : explMaxLen ≤ expl.len
  · rw [if_pos full, if_pos full]
    rfl
  · rw [if_neg full, if_neg full]
    rfl

theorem explUpdate_of_found (found : explFind route.daddr expl ≠ none) :
    explUpdate hz jiffies route expl =
      (0, if explMaxLen ≤ expl.len then { expl with list := explUnlink route.daddr expl.list }
        else { expl with
          list := explInsert (route.entry hz jiffies) (explUnlink route.daddr expl.list) }) := by
  unfold explUpdate explAddEntry
  cases present : explFind route.daddr expl with
  | none => exact absurd present found
  | some entry =>
    dsimp only
    split <;> rfl

theorem explUpdate_of_not_found (absent : explFind route.daddr expl = none) :
    explUpdate hz jiffies route expl = (-1, expl) := by
  unfold explUpdate
  rw [absent]

theorem perm_explInsert (entry : ExplEntry) (list : List ExplEntry) :
    (explInsert entry list).Perm (entry :: list) :=
  List.perm_orderedInsert _ entry list

theorem sorted_explInsert
    (sorted : list.Pairwise fun first second => first.expires ≤ second.expires) :
    (explInsert entry list).Pairwise fun first second => first.expires ≤ second.expires := by
  induction list with
  | nil => exact List.pairwise_singleton ..
  | cons curr rest inductionHypothesis =>
    have split := List.pairwise_cons.mp sorted
    unfold explInsert
    rw [List.orderedInsert_cons]
    by_cases later : entry.expires < curr.expires
    · rw [if_pos later]
      refine List.pairwise_cons.mpr ⟨fun other member => ?_, sorted⟩
      rcases List.mem_cons.mp member with rfl | found
      · exact BitVec.le_of_lt later
      · exact BitVec.le_trans (BitVec.le_of_lt later) (split.1 other found)
    · rw [if_neg later]
      refine List.pairwise_cons.mpr ⟨fun other member => ?_, inductionHypothesis split.2⟩
      rcases List.mem_cons.mp ((perm_explInsert entry rest).mem_iff.mp member) with rfl | found
      · exact BitVec.not_lt.mp later
      · exact split.1 other found

theorem explUnlink_sublist (daddr : Addr) (list : List ExplEntry) :
    (explUnlink daddr list).Sublist list :=
  List.eraseP_sublist

theorem length_explUnlink (found : explFind daddr expl ≠ none) :
    (explUnlink daddr expl.list).length + 1 = expl.list.length := by
  rw [Ne, explFind_eq_none_iff, not_not, List.mem_map] at found
  obtain ⟨entry, member, same⟩ := found
  have shorter := List.length_eraseP_of_mem
    (p := fun entry : ExplEntry => decide (entry.daddr = daddr)) member (decide_eq_true same)
  have positive := List.length_pos_of_mem member
  unfold explUnlink
  omega

/-- An entry that is unlinked is the only one of its destination. -/
theorem not_mem_explUnlink (distinct : (list.map ExplEntry.daddr).Nodup) :
    daddr ∉ (explUnlink daddr list).map ExplEntry.daddr := by
  induction list with
  | nil => exact nofun
  | cons entry rest inductionHypothesis =>
    have split := List.nodup_cons.mp distinct
    by_cases same : entry.daddr = daddr
    · have unlinked : explUnlink daddr (entry :: rest) = rest :=
        List.eraseP_cons_of_pos (decide_eq_true same)
      rw [unlinked, ← same]
      exact split.1
    · have kept : explUnlink daddr (entry :: rest) = entry :: explUnlink daddr rest :=
        List.eraseP_cons_of_neg (by rwa [decide_eq_true_eq])
      rw [kept]
      exact List.not_mem_cons_of_ne_of_not_mem (Ne.symm same) (inductionHypothesis split.2)

theorem foldl_uintSub (list : List ExplEntry) {len : Nat} (enough : list.length ≤ len) :
    list.foldl (fun len _ => uintSub len 1) len = len - list.length := by
  induction list generalizing len with
  | nil => rfl
  | cons entry rest inductionHypothesis =>
    rw [List.length_cons] at enough
    have one : uintSub len 1 = len - 1 := if_pos (by omega)
    rw [List.foldl_cons, one, inductionHypothesis (by omega), List.length_cons]
    omega

/-! ### One call -/

theorem Sound.insert (sound : Sound expl) (entry : ExplEntry)
    (absent : entry.daddr ∉ expl.list.map ExplEntry.daddr)
    (room : expl.len < explMaxLen) :
    Sound ⟨explInsert entry expl.list, (expl.len + 1) % 2 ^ 32⟩ := by
  have order := perm_explInsert entry expl.list
  have small : (expl.len + 1) % 2 ^ 32 = expl.len + 1 :=
    Nat.mod_eq_of_lt (Nat.lt_of_le_of_lt room (by decide))
  rw [small]
  refine ⟨?_, room, sorted_explInsert sound.sorted, ?_⟩
  · rw [order.length_eq, List.length_cons, sound.counted]
  · exact (order.map _).nodup_iff.mpr (List.nodup_cons.mpr ⟨absent, sound.distinct⟩)

theorem Sound.unlink (sound : Sound expl) (found : explFind daddr expl ≠ none) :
    Sound ⟨explUnlink daddr expl.list, expl.len - 1⟩ := by
  have shorter := length_explUnlink found
  have part := explUnlink_sublist daddr expl.list
  refine ⟨?_, ?_, sound.sorted.sublist part, sound.distinct.sublist (part.map _)⟩
  · show expl.len - 1 = (explUnlink daddr expl.list).length
    rw [sound.counted]
    omega
  · exact Nat.le_trans (Nat.sub_le ..) sound.bounded

theorem sound_explAdd_iff (sound : Sound expl) :
    Sound (explAdd hz jiffies allocated route expl).2 ↔
      explFind route.daddr expl ≠ none ∨ allocated = false ∨ expl.len < explMaxLen := by
  by_cases absent : explFind route.daddr expl = none
  · rw [explAdd_of_not_found absent, or_iff_right (not_not.mpr absent)]
    by_cases fails : allocated = false
    · rw [if_pos fails]
      exact iff_of_true sound (.inl fails)
    · rw [if_neg fails, or_iff_right fails]
      by_cases full : explMaxLen ≤ expl.len
      · rw [if_pos full]
        refine iff_of_false (fun counts => ?_) (Nat.not_lt.mpr full)
        -- the counter has gone past the length of the list
        have counted : (expl.len + 1) % 2 ^ 32 = expl.list.length := counts.counted
        have bounded := sound.bounded
        rw [← sound.counted, Nat.mod_eq_of_lt (Nat.lt_of_le_of_lt (Nat.succ_le_succ bounded)
          (by decide))] at counted
        omega
      · rw [if_neg full]
        have room := Nat.not_le.mp full
        exact iff_of_true (sound.insert _ (explFind_eq_none_iff.mp absent) room) room
  · rw [explAdd_of_found absent]
    exact iff_of_true sound (.inl absent)

theorem sound_explUpdate_iff (sound : Sound expl) :
    Sound (explUpdate hz jiffies route expl).2 ↔
      explFind route.daddr expl = none ∨ expl.len < explMaxLen := by
  by_cases absent : explFind route.daddr expl = none
  · rw [explUpdate_of_not_found absent]
    exact iff_of_true sound (.inl absent)
  · rw [explUpdate_of_found absent, or_iff_right absent]
    have shorter := length_explUnlink absent
    have counted := sound.counted
    by_cases full : explMaxLen ≤ expl.len
    · rw [if_pos full]
      refine iff_of_false (fun counts => ?_) (Nat.not_lt.mpr full)
      -- the counter still counts the entry that could not be put back
      have left : expl.len = (explUnlink route.daddr expl.list).length := counts.counted
      omega
    · rw [if_neg full]
      have room := Nat.not_le.mp full
      have inserted := (sound.unlink absent).insert (route.entry hz jiffies)
        (not_mem_explUnlink sound.distinct) (Nat.lt_of_le_of_lt (Nat.sub_le ..) room)
      refine iff_of_true ?_ room
      have same : (expl.len - 1 + 1) % 2 ^ 32 = expl.len := by
        rw [Nat.sub_add_cancel (by omega)]
        exact Nat.mod_eq_of_lt (Nat.lt_trans room (by decide))
      dsimp only at inserted
      rwa [same] at inserted

theorem Sound.explDel (sound : Sound expl) : Sound (explDel daddr expl).2 := by
  unfold Kaodv.explDel
  cases found : explFind daddr expl with
  | none => exact sound
  | some entry =>
    have present : explFind daddr expl ≠ none := by
      rw [found]
      exact nofun
    have shorter := length_explUnlink present
    have one : uintSub expl.len 1 = expl.len - 1 := if_pos (by rw [sound.counted]; omega)
    show Sound ⟨_, uintSub expl.len 1⟩
    rw [one]
    exact sound.unlink present

theorem Sound.explFlush (sound : Sound expl) : Sound (explFlush expl) := by
  have none : expl.list.foldl (fun len _ => uintSub len 1) expl.len = 0 := by
    rw [foldl_uintSub _ (Nat.le_of_eq sound.counted.symm), sound.counted, Nat.sub_self]
  unfold Kaodv.explFlush
  rw [none]
  exact ⟨rfl, Nat.zero_le _, List.Pairwise.nil, List.nodup_nil⟩

/-- A call keeps the invariant exactly if it does not put an entry into a full list. -/
theorem sound_call_iff (hz : Nat) (expl : Expl) (next : Call) (sound : Sound expl) :
    Sound (call hz expl next) ↔ Within expl next := by
  cases next with
  | add jiffies allocated route => exact sound_explAdd_iff sound
  | update jiffies route => exact sound_explUpdate_iff sound
  | del daddr => exact iff_of_true sound.explDel trivial
  | flush => exact iff_of_true sound.explFlush trivial

/-- Such a call also changes nothing when it fails to add, and does not remove by an update. -/
theorem steady_of_within {next : Call} (within : Within expl next) : Steady hz expl next := by
  cases next with
  | add jiffies allocated route =>
    show (explAdd hz jiffies allocated route expl).1 < 0 → _
    by_cases absent : explFind route.daddr expl = none
    · rw [explAdd_of_not_found absent]
      have within := within.resolve_left (not_not.mpr absent)
      by_cases fails : allocated = false
      · rw [if_pos fails]
        exact fun _ => rfl
      · have room := within.resolve_left fails
        rw [if_neg fails, if_neg (Nat.not_le.mpr room)]
        exact fun negative => absurd negative (show ¬ (1 : Int) < 0 by decide)
    · rw [explAdd_of_found absent]
      exact fun _ => rfl
  | update jiffies route =>
    intro found
    have room := within.resolve_left found
    rw [explUpdate_of_found found, if_neg (Nat.not_le.mpr room), Ne, explFind_eq_none_iff, not_not]
    exact ((perm_explInsert _ _).map _).mem_iff.mpr List.mem_cons_self
  | del daddr => trivial
  | flush => trivial

end

/-! ### Runs -/

theorem sound_explInit : Sound explInit :=
  ⟨rfl, Nat.zero_le _, List.Pairwise.nil, List.nodup_nil⟩

/-- The list after a sequence of calls. -/
def calls (hz : Nat) (sequence : List Call) : Expl := sequence.foldl (call hz) explInit

/-- The invariant holds throughout a sequence of calls, and each of them is steady, exactly if no
call puts an entry into a full list. -/
theorem expl_invariant_iff (hz : Nat) (sequence : List Call) :
    ((∀ count, Sound (calls hz (sequence.take count))) ∧
        Runs.Meets (call hz) (Steady hz) explInit sequence) ↔
      Runs.Meets (call hz) Within explInit sequence := by
  have invariant := Runs.forall_take_iff (fun _ => True) Sound (fun _ _ _ => trivial)
    (fun expl next _ sound => sound_call_iff hz expl next sound) trivial sound_explInit sequence
  constructor
  · exact fun both => invariant.mp both.1
  · intro within
    refine ⟨invariant.mpr within, ?_⟩
    exact within.imp Sound (fun expl next sound allowed => (sound_call_iff hz expl next sound).mpr
      allowed) (fun _ _ _ allowed => steady_of_within allowed) sound_explInit

/-! ### A full list -/

/-- A route to a destination with a number. -/
def numberedRoute (index : Nat) : Route := ⟨BitVec.ofNat 32 index, 9#32, 3000#64, 0#16, 2#32⟩

/-- Routes to as many destinations are added. -/
def filling (count : Nat) : List Call :=
  (List.range count).map fun index => .add 0#64 true (numberedRoute index)

/-- The list after it has been filled. -/
structure Filled (count : Nat) (expl : Expl) : Prop where
  sound : Sound expl
  len : expl.len = count
  dests : ∀ daddr, daddr ∈ expl.list.map ExplEntry.daddr ↔
    ∃ index < count, daddr = BitVec.ofNat 32 index

theorem Filled.find_eq_none {count : Nat} {expl : Expl} (filled : Filled count expl)
    (small : count < 2 ^ 32) : explFind (BitVec.ofNat 32 count) expl = none := by
  rw [explFind_eq_none_iff, filled.dests]
  rintro ⟨index, below, same⟩
  have numbers := congrArg BitVec.toNat same
  rw [BitVec.toNat_ofNat, BitVec.toNat_ofNat, Nat.mod_eq_of_lt small,
    Nat.mod_eq_of_lt (Nat.lt_trans below small)] at numbers
  omega

theorem filled_calls (hz : Nat) {count : Nat} (room : count ≤ explMaxLen) :
    Filled count (calls hz (filling count)) := by
  induction count with
  | zero =>
    refine ⟨sound_explInit, rfl, fun daddr => iff_of_false nofun ?_⟩
    rintro ⟨index, below, _⟩
    exact absurd below (Nat.not_lt_zero index)
  | succ count inductionHypothesis =>
    have filled := inductionHypothesis (Nat.le_of_succ_le room)
    have absent := filled.find_eq_none (Nat.lt_trans room (by decide))
    have space : (calls hz (filling count)).len < explMaxLen := by
      rw [filled.len]
      exact room
    have last : calls hz (filling (count + 1)) =
        ⟨explInsert ((numberedRoute count).entry hz 0#64) (calls hz (filling count)).list,
          ((calls hz (filling count)).len + 1) % 2 ^ 32⟩ := by
      unfold filling calls
      rw [List.range_succ, List.map_append, List.foldl_append]
      show (explAdd hz 0#64 true (numberedRoute count) (calls hz (filling count))).2 = _
      rw [explAdd_of_not_found absent, if_neg nofun, if_neg (Nat.not_le.mpr space)]
      rfl
    rw [last]
    have sound := filled.sound.insert ((numberedRoute count).entry hz 0#64)
      (explFind_eq_none_iff.mp absent) space
    refine ⟨sound, ?_, fun daddr => ?_⟩
    · show (_ + 1) % 2 ^ 32 = count + 1
      rw [filled.len]
      exact Nat.mod_eq_of_lt (Nat.lt_of_le_of_lt room (by decide))
    · rw [((perm_explInsert _ _).map ExplEntry.daddr).mem_iff, List.map_cons, List.mem_cons,
        filled.dests]
      constructor
      · rintro (same | ⟨index, below, same⟩)
        · exact ⟨count, Nat.lt_succ_self count, same⟩
        · exact ⟨index, Nat.lt_succ_of_lt below, same⟩
      · rintro ⟨index, below, same⟩
        rcases Nat.lt_succ_iff_lt_or_eq.mp below with earlier | rfl
        · exact .inr ⟨index, earlier, same⟩
        · exact .inl same

theorem Filled.explAdd_eq {hz : Nat} {jiffies : BitVec 64} {expl : Expl}
    (filled : Filled explMaxLen expl) :
    explAdd hz jiffies true (numberedRoute explMaxLen) expl =
      (-enospc, { expl with len := explMaxLen + 1 }) := by
  have absent := filled.find_eq_none (by decide)
  have full : explMaxLen ≤ expl.len := Nat.le_of_eq filled.len.symm
  rw [explAdd_of_not_found absent, if_neg nofun, if_pos full, filled.len]
  rfl

theorem Filled.update_removes {hz count : Nat} {jiffies : BitVec 64} {expl : Expl}
    (filled : Filled count expl) (full : explMaxLen ≤ count) {index : Nat} (below : index < count) :
    explFind (numberedRoute index).daddr expl ≠ none ∧
      explFind (numberedRoute index).daddr
        (explUpdate hz jiffies (numberedRoute index) expl).2 = none := by
  have found : explFind (numberedRoute index).daddr expl ≠ none := by
    rw [Ne, explFind_eq_none_iff, not_not]
    exact (filled.dests _).mpr ⟨index, below, rfl⟩
  refine ⟨found, ?_⟩
  rw [explUpdate_of_found found, if_pos (filled.len.symm ▸ full)]
  exact explFind_eq_none_iff.mpr (not_mem_explUnlink filled.sound.distinct)

/-- When the list is full, an addition that fails is counted and an update removes. -/
theorem expl_full :
    explAdd 100 0#64 true (numberedRoute explMaxLen) (calls 100 (filling explMaxLen)) =
        (-28, { calls 100 (filling explMaxLen) with len := explMaxLen + 1 }) ∧
      (calls 100 (filling explMaxLen)).len = explMaxLen ∧
      (calls 100 (filling explMaxLen)).list.length = explMaxLen ∧
      explFind 0#32 (calls 100 (filling explMaxLen)) ≠ none ∧
      explFind 0#32
        (explUpdate 100 0#64 (numberedRoute 0) (calls 100 (filling explMaxLen))).2 = none := by
  have filled := filled_calls 100 (Nat.le_refl explMaxLen)
  refine ⟨filled.explAdd_eq, filled.len, ?_, ?_⟩
  · exact filled.sound.counted.symm.trans filled.len
  · exact filled.update_removes (Nat.le_refl explMaxLen) (by decide)

end Aodvd.Kaodv
