/-
This file is a small library about ledgers of tickets.

A ticket is opened and later settled, with a note that says how; the ledger lists both
kinds of entries, oldest first. A ticket that has been settled may be opened again, so an
opening is told from others of the same ticket by its arrival number, its place in the
ledger. A queue of tickets accounts for a ledger when it holds exactly the outstanding
ones, and then every opening has been settled at most once, and once if it is not queued
any more.
-/

import Mathlib

namespace Ledger

/-- An entry of the ledger. -/
inductive Entry (Id Note : Type)
  | opened (id : Id)
  | settled (id : Id) (note : Note)
  deriving DecidableEq

variable {Id Note : Type} [DecidableEq Id]

/-! ### Reading a ledger -/

/-- The tickets that were opened, oldest first. -/
def openings (ledger : List (Entry Id Note)) : List Id :=
  ledger.filterMap fun entry => match entry with
    | .opened id => some id
    | .settled _ _ => none

/-- A ticket is outstanding when the last entry about it is its opening. -/
def outstanding (id : Id) (ledger : List (Entry Id Note)) : Bool :=
  ledger.foldl (fun found entry => match entry with
    | .opened other => if other = id then true else found
    | .settled other _ => if other = id then false else found) false

/-- How often a ticket is settled before it is opened again. -/
def settlements (id : Id) : List (Entry Id Note) → Nat
  | [] => 0
  | .opened other :: later => if other = id then 0 else settlements id later
  | .settled other _ :: later => settlements id later + if other = id then 1 else 0

/-- The arrival number of the last opening of a ticket in a ledger read newest first. -/
def arrivalBack (id : Id) : List (Entry Id Note) → Nat
  | [] => 0
  | .opened other :: older => if other = id then older.length + 1 else arrivalBack id older
  | .settled _ _ :: older => arrivalBack id older

/-- The arrival number of the last opening of a ticket. -/
def arrival (id : Id) (ledger : List (Entry Id Note)) : Nat := arrivalBack id ledger.reverse

/-- The arrival numbers of the settlements with a chosen note, in a ledger read newest
first. -/
def settledBack (chosen : Note → Bool) : List (Entry Id Note) → List Nat
  | [] => []
  | .opened _ :: older => settledBack chosen older
  | .settled id note :: older =>
    settledBack chosen older ++ if chosen note then [arrivalBack id older] else []

/-- The arrival numbers of the settlements with a chosen note, in the order in which they were
settled. -/
def settledNumbers (chosen : Note → Bool) (ledger : List (Entry Id Note)) : List Nat :=
  settledBack chosen ledger.reverse

/-! ### One more entry -/

variable {ledger : List (Entry Id Note)}

omit [DecidableEq Id] in
theorem openings_settledAll (ids : List Id) (note : Note) :
    openings (ledger ++ ids.map fun id => .settled id note) = openings ledger := by
  rw [openings, List.filterMap_append, List.filterMap_map]
  simp [openings]

theorem outstanding_opened (id other : Id) :
    outstanding id (ledger ++ [.opened other]) =
      if other = id then true else outstanding id ledger := by
  unfold outstanding
  rw [List.foldl_append]
  rfl

theorem outstanding_settled (id other : Id) (note : Note) :
    outstanding id (ledger ++ [.settled other note]) =
      if other = id then false else outstanding id ledger := by
  unfold outstanding
  rw [List.foldl_append]
  rfl

theorem settlements_opened (id other : Id) :
    settlements id (ledger ++ [.opened other]) = settlements id ledger := by
  induction ledger with
  | nil =>
    show (if other = id then 0 else 0) = 0
    split <;> rfl
  | cons first later inductionHypothesis =>
    cases first <;> simp only [List.cons_append, settlements, inductionHypothesis]

/-- A settlement counts for the openings that have not been opened again. -/
theorem settlements_settled [DecidableEq Note] (id other : Id) (note : Note) :
    settlements id (ledger ++ [.settled other note]) =
      settlements id ledger + if other = id ∧ Entry.opened id ∉ ledger then 1 else 0 := by
  induction ledger with
  | nil => simp only [List.nil_append, settlements, List.not_mem_nil, not_false_eq_true, and_true]
  | cons first later inductionHypothesis =>
    cases first with
    | opened opened =>
      simp only [List.cons_append, settlements, inductionHypothesis, List.mem_cons]
      by_cases same : opened = id
      · subst same
        simp only [if_true, true_or, not_true_eq_false, and_false, if_false]
      · have different : Entry.opened id ≠ (Entry.opened opened : Entry Id Note) :=
          fun equal => same (Entry.opened.inj equal).symm
        simp only [same, if_false, different, false_or]
    | settled settled note =>
      simp only [List.cons_append, settlements, inductionHypothesis, List.mem_cons, reduceCtorEq,
        false_or]
      exact Nat.add_right_comm ..

theorem arrival_opened (id other : Id) :
    arrival id (ledger ++ [.opened other]) =
      if other = id then ledger.length + 1 else arrival id ledger := by
  have length : ledger.reverse.length = ledger.length := List.length_reverse
  unfold arrival
  rw [List.reverse_append, ← length]
  rfl

theorem arrival_settled (id other : Id) (note : Note) :
    arrival id (ledger ++ [.settled other note]) = arrival id ledger := by
  unfold arrival
  rw [List.reverse_append]
  rfl

theorem settledNumbers_opened (chosen : Note → Bool) (other : Id) :
    settledNumbers chosen (ledger ++ [.opened other]) = settledNumbers chosen ledger := by
  unfold settledNumbers
  rw [List.reverse_append]
  rfl

theorem settledNumbers_settled (chosen : Note → Bool) (other : Id) (note : Note) :
    settledNumbers chosen (ledger ++ [.settled other note]) =
      settledNumbers chosen ledger ++ if chosen note then [arrival other ledger] else [] := by
  unfold settledNumbers
  rw [List.reverse_append]
  rfl

theorem arrival_le (id : Id) (ledger : List (Entry Id Note)) :
    arrival id ledger ≤ ledger.length := by
  induction ledger using List.reverseRecOn with
  | nil => exact Nat.le_refl 0
  | append_singleton ledger last inductionHypothesis =>
    rw [List.length_append, List.length_singleton]
    cases last with
    | opened other =>
      rw [arrival_opened]
      split <;> omega
    | settled other note =>
      rw [arrival_settled]
      omega

theorem le_of_mem_settledNumbers {chosen : Note → Bool} {number : Nat}
    (member : number ∈ settledNumbers chosen ledger) : number ≤ ledger.length := by
  induction ledger using List.reverseRecOn with
  | nil => exact absurd member List.not_mem_nil
  | append_singleton ledger last inductionHypothesis =>
    rw [List.length_append, List.length_singleton]
    cases last with
    | opened other =>
      rw [settledNumbers_opened] at member
      exact Nat.le_succ_of_le (inductionHypothesis member)
    | settled other note =>
      rw [settledNumbers_settled, List.mem_append] at member
      rcases member with earlier | latest
      · exact Nat.le_succ_of_le (inductionHypothesis earlier)
      · split at latest
        · rw [List.mem_singleton.mp latest]
          exact Nat.le_succ_of_le (arrival_le other ledger)
        · exact absurd latest List.not_mem_nil

/-! ### Queues that account for a ledger -/

/-- The queue holds the outstanding tickets, and every opening has been settled once, except the
last ones of the tickets in the queue, which have not been settled. -/
structure Accounted (ledger : List (Entry Id Note)) (queue : List Id) : Prop where
  nodup : queue.Nodup
  mem : ∀ id, id ∈ queue ↔ outstanding id ledger = true
  once : ∀ early id later, ledger = early ++ .opened id :: later →
    (settlements id later = 0 ∧ Entry.opened id ∉ later ∧ id ∈ queue) ∨
      (settlements id later = 1 ∧ (Entry.opened id ∈ later ∨ id ∉ queue))

theorem accounted_nil : Accounted ([] : List (Entry Id Note)) [] where
  nodup := List.nodup_nil
  mem id := ⟨fun member => absurd member List.not_mem_nil,
    fun found => absurd found (by simp [outstanding])⟩
  once early id later split := absurd split (by simp)

theorem Accounted.perm {first second : List Id} (accounted : Accounted ledger first)
    (perm : first.Perm second) : Accounted ledger second where
  nodup := perm.nodup_iff.mp accounted.nodup
  mem id := perm.mem_iff.symm.trans (accounted.mem id)
  once early id later split := by
    rcases accounted.once early id later split with ⟨none, last, member⟩ | ⟨one, gone⟩
    · exact .inl ⟨none, last, perm.mem_iff.mp member⟩
    · exact .inr ⟨one, gone.imp_right fun absent member => absent (perm.mem_iff.mpr member)⟩

omit [DecidableEq Id] in
/-- An entry of a ledger that has just grown is the new one or an old one. -/
theorem split_of_append {last : Entry Id Note} {early later : List (Entry Id Note)}
    {entry : Entry Id Note} (split : ledger ++ [last] = early ++ entry :: later) :
    (later = [] ∧ last = entry) ∨
      ∃ middle, later = middle ++ [last] ∧ ledger = early ++ entry :: middle := by
  rcases List.eq_nil_or_concat' later with rfl | ⟨middle, final, rfl⟩
  · have parts := List.append_inj' split rfl
    exact .inl ⟨rfl, List.head_eq_of_cons_eq parts.2⟩
  · have regrouped : ledger ++ [last] = (early ++ entry :: middle) ++ [final] := by
      rw [split, List.append_assoc, List.cons_append]
    have parts := List.append_inj' regrouped rfl
    exact .inr ⟨middle, by rw [List.head_eq_of_cons_eq parts.2], parts.1⟩

/-- A ticket that is not outstanding is opened and queued. -/
theorem Accounted.opened {queue : List Id} (accounted : Accounted ledger queue) {id : Id}
    (free : outstanding id ledger = false) :
    Accounted (ledger ++ [.opened id]) (queue ++ [id]) := by
  have absent : id ∉ queue := fun member =>
    absurd (((accounted.mem id).mp member).symm.trans free) (by simp)
  refine ⟨?_, fun other => ?_, fun early other later split => ?_⟩
  · exact List.Nodup.append accounted.nodup (List.nodup_singleton id)
      (List.disjoint_singleton.mpr absent)
  · rw [outstanding_opened, List.mem_append, List.mem_singleton, accounted.mem]
    by_cases same : other = id
    · simp only [same, or_true, if_true]
    · simp only [same, or_false, Ne.symm same, if_false]
  · rcases split_of_append split with ⟨rfl, same⟩ | ⟨middle, rfl, earlier⟩
    · obtain rfl := Entry.opened.inj same
      exact .inl ⟨rfl, List.not_mem_nil, List.mem_append_right _ (List.mem_singleton.mpr rfl)⟩
    · rw [settlements_opened]
      rcases accounted.once early other middle earlier with ⟨none, last, member⟩ | ⟨one, gone⟩
      · refine .inl ⟨none, fun reopened => ?_, List.mem_append_left _ member⟩
        rcases List.mem_append.mp reopened with before | now
        · exact last before
        · have same : other = id := Entry.opened.inj (List.mem_singleton.mp now)
          exact absent (same ▸ member)
      · by_cases same : other = id
        · subst same
          exact .inr ⟨one, .inl (List.mem_append_right _ (List.mem_singleton.mpr rfl))⟩
        · refine .inr ⟨one, gone.imp (List.mem_append_left _) fun missing member => ?_⟩
          rcases List.mem_append.mp member with before | now
          · exact missing before
          · exact same (List.mem_singleton.mp now)

/-- A queued ticket is settled and leaves the queue. -/
theorem Accounted.settled [DecidableEq Note] {id : Id} {rest : List Id}
    (accounted : Accounted ledger (id :: rest)) (note : Note) :
    Accounted (ledger ++ [.settled id note]) rest := by
  obtain ⟨absent, nodup⟩ := List.nodup_cons.mp accounted.nodup
  refine ⟨nodup, fun other => ?_, fun early other later split => ?_⟩
  · have member := accounted.mem other
    rw [List.mem_cons] at member
    rw [outstanding_settled]
    by_cases same : other = id
    · subst same
      simp only [absent, if_true, Bool.false_eq_true]
    · simp only [same, false_or] at member
      simp only [Ne.symm same, if_false, member]
  · rcases split_of_append split with ⟨_, clash⟩ | ⟨middle, rfl, earlier⟩
    · exact absurd clash (by simp)
    · have still : Entry.opened other ∈ middle ++ [.settled id note] ↔ Entry.opened other ∈ middle := by
        simp only [List.mem_append, List.mem_singleton, reduceCtorEq, or_false]
      rw [settlements_settled, still]
      have once := accounted.once early other middle earlier
      rw [List.mem_cons] at once
      by_cases same : other = id
      · subst same
        simp only [true_or, and_true, not_true_eq_false, or_false] at once
        rcases once with ⟨none, last⟩ | ⟨one, reopened⟩
        · exact .inr ⟨by rw [none, if_pos ⟨rfl, last⟩], .inr absent⟩
        · exact .inr ⟨by rw [one, if_neg fun both => both.2 reopened], .inl reopened⟩
      · simp only [same, false_or] at once
        rw [if_neg fun both => same both.1.symm, Nat.add_zero]
        exact once

/-- The tickets at the front of the queue are settled. -/
theorem Accounted.settledAll [DecidableEq Note] {first rest : List Id}
    (accounted : Accounted ledger (first ++ rest)) (note : Note) :
    Accounted (ledger ++ first.map fun id => .settled id note) rest := by
  induction first generalizing ledger with
  | nil => rwa [List.map_nil, List.append_nil]
  | cons id first inductionHypothesis =>
    have one : Accounted (ledger ++ [.settled id note]) (first ++ rest) := accounted.settled note
    have all := inductionHypothesis one
    rwa [List.append_assoc] at all

/-! ### Settling in order -/

/-- The settlements with a chosen note came in the order of arrival, and the tickets of a group
follow them in the order of arrival. -/
def InOrder (chosen : Note → Bool) (ledger : List (Entry Id Note)) (group : List Id) : Prop :=
  (settledNumbers chosen ledger ++ group.map fun id => arrival id ledger).Pairwise (· < ·)

variable {chosen : Note → Bool} {group : List Id}

theorem inOrder_nil : InOrder chosen ([] : List (Entry Id Note)) [] := List.Pairwise.nil

theorem InOrder.sublist {smaller : List Id} (inOrder : InOrder chosen ledger group)
    (sublist : smaller.Sublist group) : InOrder chosen ledger smaller :=
  List.Pairwise.sublist (List.Sublist.append_left (sublist.map _) _) inOrder

/-- What has been settled is in the order of arrival. -/
theorem InOrder.past (inOrder : InOrder chosen ledger group) :
    (settledNumbers chosen ledger).Pairwise (· < ·) :=
  (List.pairwise_append.mp inOrder).1

/-- The group is in the order of arrival. -/
theorem InOrder.waiting (inOrder : InOrder chosen ledger group) :
    (group.map fun id => arrival id ledger).Pairwise (· < ·) :=
  (List.pairwise_append.mp inOrder).2.1

/-- A ticket outside the group arrives last. -/
theorem InOrder.opened (inOrder : InOrder chosen ledger group) {id : Id} (absent : id ∉ group) :
    InOrder chosen (ledger ++ [.opened id]) (group ++ [id]) := by
  have old : ∀ other ∈ group, arrival other (ledger ++ [.opened id]) = arrival other ledger := by
    intro other member
    have different : id ≠ other := fun same => absent (same ▸ member)
    rw [arrival_opened, if_neg different]
  unfold InOrder
  rw [settledNumbers_opened, List.map_append, List.map_congr_left old, ← List.append_assoc,
    List.map_singleton, arrival_opened, if_pos rfl]
  refine List.pairwise_append.mpr ⟨inOrder, List.pairwise_singleton _ _, ?_⟩
  intro number member last isLast
  rw [List.mem_singleton.mp isLast]
  rcases List.mem_append.mp member with past | waiting
  · exact Nat.lt_succ_of_le (le_of_mem_settledNumbers past)
  · obtain ⟨other, _, rfl⟩ := List.mem_map.mp waiting
    exact Nat.lt_succ_of_le (arrival_le other ledger)

/-- Another settlement does not disturb the order. -/
theorem InOrder.settledOther (inOrder : InOrder chosen ledger group) (id : Id) {note : Note}
    (other : chosen note = false) : InOrder chosen (ledger ++ [.settled id note]) group := by
  unfold InOrder
  rw [settledNumbers_settled, other]
  simp only [Bool.false_eq_true, if_false, List.append_nil, arrival_settled]
  exact inOrder

/-- The first ticket of the group is settled. -/
theorem InOrder.settledFirst {id : Id} {rest : List Id}
    (inOrder : InOrder chosen ledger (id :: rest)) {note : Note} (isChosen : chosen note = true) :
    InOrder chosen (ledger ++ [.settled id note]) rest := by
  unfold InOrder
  rw [settledNumbers_settled, isChosen]
  simp only [if_true, arrival_settled]
  rw [List.append_assoc]
  exact inOrder

theorem InOrder.settledOthers (inOrder : InOrder chosen ledger group) (settled : List Id)
    {note : Note} (other : chosen note = false) :
    InOrder chosen (ledger ++ settled.map fun id => .settled id note) group := by
  induction settled generalizing ledger with
  | nil => rwa [List.map_nil, List.append_nil]
  | cons id settled inductionHypothesis =>
    have all := inductionHypothesis (inOrder.settledOther id other)
    rwa [List.append_assoc] at all

/-- The tickets at the front of the group are settled. -/
theorem InOrder.settledAll {first rest : List Id} (inOrder : InOrder chosen ledger (first ++ rest))
    {note : Note} (isChosen : chosen note = true) :
    InOrder chosen (ledger ++ first.map fun id => .settled id note) rest := by
  induction first generalizing ledger with
  | nil => rwa [List.map_nil, List.append_nil]
  | cons id first inductionHypothesis =>
    have one : InOrder chosen (ledger ++ [.settled id note]) (first ++ rest) :=
      inOrder.settledFirst isChosen
    have all := inductionHypothesis one
    rwa [List.append_assoc] at all

end Ledger
