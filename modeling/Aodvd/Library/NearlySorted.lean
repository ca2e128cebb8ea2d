/-
This file is a small library about lists that are sorted up to a slack.

Comparisons that round their result do not order a list: an element may stand before one
whose measure is smaller, as long as the difference is below the rounding step. Such
lists survive removal, and insertion before the first element that the rounded comparison
puts later. A scan that stops at the first element beyond a bound, in the rounded sense,
leaves nothing below the bound behind.
-/

import Mathlib

namespace NearlySorted

variable {α : Type} {measure : α → Int} {slack : Int} {list : List α}

/-- Every element is less than the slack above each later one. -/
def Ordered (measure : α → Int) (slack : Int) (list : List α) : Prop :=
  list.Pairwise fun early late => measure early < measure late + slack

theorem ordered_nil : Ordered measure slack [] := List.Pairwise.nil

theorem Ordered.sublist {shorter : List α} (ordered : Ordered measure slack list)
    (sub : shorter.Sublist list) : Ordered measure slack shorter :=
  List.Pairwise.sublist sub ordered

/-- Only the measures of the elements in the list matter. -/
theorem Ordered.congr {other : α → Int} (ordered : Ordered measure slack list)
    (same : ∀ element ∈ list, other element = measure element) : Ordered other slack list := by
  refine List.Pairwise.imp_of_mem (fun {early late} earlyMember lateMember less => ?_) ordered
  rw [same early earlyMember, same late lateMember]
  exact less

/-- A scan that stops at the first element a whole slack beyond the bound leaves only elements
above the bound. -/
theorem Ordered.lt_of_mem_dropWhile {passes : α → Bool} {bound : Int}
    (ordered : Ordered measure slack list) (positive : 0 < slack)
    (stops : ∀ element ∈ list, passes element = false → bound + slack ≤ measure element)
    {element : α} (left : element ∈ list.dropWhile passes) : bound < measure element := by
  have rest : Ordered measure slack (list.dropWhile passes) :=
    ordered.sublist (List.dropWhile_sublist passes)
  cases remaining : list.dropWhile passes with
  | nil =>
    rw [remaining] at left
    exact absurd left List.not_mem_nil
  | cons first others =>
    rw [remaining] at left rest
    have firstMember : first ∈ list :=
      (List.dropWhile_sublist passes).subset (remaining ▸ List.mem_cons_self)
    have stopped : passes first = false := by
      have head := List.head?_dropWhile_not passes list
      rw [remaining, List.head?_cons] at head
      exact head
    have beyond := stops first firstMember stopped
    rcases List.mem_cons.mp left with rfl | later
    · omega
    · have close := List.rel_of_pairwise_cons rest later
      omega

/-- Insertion before the first element that is a whole slack later. -/
theorem Ordered.insert {passes : α → Bool} {new : α} (ordered : Ordered measure slack list)
    (positive : 0 < slack)
    (before : ∀ element ∈ list, passes element = true → measure element < measure new + slack)
    (after : ∀ element ∈ list, passes element = false → measure new + slack ≤ measure element) :
    Ordered measure slack (list.takeWhile passes ++ new :: list.dropWhile passes) := by
  have split : (list.takeWhile passes ++ list.dropWhile passes).Pairwise
      fun early late => measure early < measure late + slack := by
    rw [List.takeWhile_append_dropWhile]
    exact ordered
  obtain ⟨front, back, across⟩ := List.pairwise_append.mp split
  refine List.pairwise_append.mpr ⟨front, List.pairwise_cons.mpr ⟨?_, back⟩, ?_⟩
  · intro element left
    have above := ordered.lt_of_mem_dropWhile positive after left
    omega
  · intro element taken other member
    rcases List.mem_cons.mp member with rfl | later
    · exact before element ((List.takeWhile_sublist passes).subset taken)
        (List.mem_takeWhile_imp taken)
    · exact across element taken other later

end NearlySorted
