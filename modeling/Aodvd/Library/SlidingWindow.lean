/-
This file is a small library about the times at which something was let pass, and the last few of
them.

A limiter that remembers the last `size` times and refuses a newcomer that comes too early after the
oldest of them keeps entries that are `size` places apart at least a gap apart in time. With times
in order, the oldest of the last `size` is recent exactly if `size` of all of them are.
-/

import Mathlib

namespace SlidingWindow

variable {α : Type} {time : α → Int} {size : Nat} {gap : Int} {passed : List α}

/-- Entries that are `size` places apart are at least `gap` apart in time. -/
def Spaced (time : α → Int) (size : Nat) (gap : Int) (passed : List α) : Prop :=
  ∀ (place : Nat) (early late : α), passed[place]? = some early →
    passed[place + size]? = some late → time early + gap ≤ time late

theorem spaced_nil : Spaced time size gap [] := by
  intro place early late found
  exact absurd found (by simp)

/-- The last entries of a list that is long enough. -/
theorem exists_rtake_eq_cons (positive : 0 < size) (long : size ≤ passed.length) :
    ∃ front oldest rest, passed = front ++ oldest :: rest ∧ rest.length + 1 = size ∧
      passed.rtake size = oldest :: rest := by
  have split := (List.take_append_drop (passed.length - size) passed).symm
  cases window : passed.drop (passed.length - size) with
  | nil =>
    have nothing := congrArg List.length window
    rw [List.length_drop, List.length_nil] at nothing
    omega
  | cons oldest rest =>
    have count := congrArg List.length window
    rw [List.length_drop, List.length_cons] at count
    rw [window] at split
    exact ⟨_, oldest, rest, split, by omega, window⟩

theorem Spaced.concat (spaced : Spaced time size gap passed) (positive : 0 < size) {newcomer : α}
    (far : ∀ oldest rest, size ≤ passed.length → passed.rtake size = oldest :: rest →
      time oldest + gap ≤ time newcomer) :
    Spaced time size gap (passed ++ [newcomer]) := by
  intro place early late found later
  have inside := (List.getElem?_eq_some_iff.mp later).1
  rw [List.length_append, List.length_singleton] at inside
  rw [List.getElem?_append_left (by omega)] at found
  by_cases old : place + size < passed.length
  · rw [List.getElem?_append_left old] at later
    exact spaced place early late found later
  · obtain ⟨front, oldest, rest, split, count, window⟩ :=
      exists_rtake_eq_cons positive (show size ≤ passed.length by omega)
    have length := congrArg List.length split
    rw [List.length_append, List.length_cons] at length
    obtain rfl : place = front.length := by omega
    rw [split, List.getElem?_append_right (Nat.le_refl _), Nat.sub_self] at found
    obtain rfl := Option.some.inj found
    rw [List.getElem?_append_right (by omega),
      show front.length + size - passed.length = 0 by omega] at later
    obtain rfl := Option.some.inj later
    exact far oldest rest (by omega) window

/-- With times in order, `size` of them are recent exactly if the oldest of the last `size` is. -/
theorem le_length_recent_iff (sorted : passed.Pairwise fun early late => time early ≤ time late)
    (positive : 0 < size) (now : Int) :
    size ≤ (passed.filter fun entry => decide (now < time entry + gap)).length ↔
      size ≤ passed.length ∧
        ∀ oldest rest, passed.rtake size = oldest :: rest → now < time oldest + gap := by
  constructor
  · intro many
    have long := many.trans (List.length_filter_le _ _)
    refine ⟨long, fun oldest rest window => ?_⟩
    obtain ⟨front, first, others, split, count, same⟩ := exists_rtake_eq_cons positive long
    obtain ⟨rfl, rfl⟩ := List.cons.inj (same.symm.trans window)
    by_contra late
    -- Whatever is not after the oldest entry is not recent either.
    have stale : (front ++ [first]).filter (fun entry => decide (now < time entry + gap)) = [] := by
      rw [split, List.pairwise_append] at sorted
      rw [List.filter_eq_nil_iff]
      intro entry member
      rw [decide_eq_true_iff]
      rcases List.mem_append.mp member with before | last
      · have ordered := sorted.2.2 entry before first List.mem_cons_self
        omega
      · rw [List.mem_singleton.mp last]
        exact late
    rw [split, List.append_cons, List.filter_append, stale, List.nil_append] at many
    have few := List.length_filter_le (fun entry => decide (now < time entry + gap)) others
    omega
  · rintro ⟨long, recent⟩
    obtain ⟨front, oldest, rest, split, count, window⟩ := exists_rtake_eq_cons positive long
    have fresh : (oldest :: rest).filter (fun entry => decide (now < time entry + gap)) =
        oldest :: rest := by
      rw [split, List.pairwise_append] at sorted
      rw [List.filter_eq_self]
      intro entry member
      rw [decide_eq_true_iff]
      have latest := recent oldest rest window
      rcases List.mem_cons.mp member with rfl | later
      · exact latest
      · have ordered := List.rel_of_pairwise_cons sorted.2.1 later
        omega
    rw [split, List.filter_append, fresh, List.length_append, List.length_cons]
    omega

end SlidingWindow
