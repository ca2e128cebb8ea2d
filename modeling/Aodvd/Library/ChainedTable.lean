/-
This file is a small library about chained hash tables.

A table is a family of buckets, each a list of entries. A scheme says which key an
entry carries and which bucket a key belongs to. A table is well formed when every
entry sits in the bucket of its key and no bucket holds one key twice. On well-formed
tables looking a key up is a finite-map lookup, and adding, modifying and removing an
entry are the finite-map operations; the list of all entries changes by exactly that
entry, which is what counting arguments read.
-/

import Mathlib

namespace ChainedTable

/-- Which key an entry carries and which bucket a key belongs to. -/
structure Scheme (Key Entry : Type) (size : Nat) where
  key : Entry → Key
  slot : Key → Fin size

/-- The buckets of a table, in index order. -/
abbrev Buckets (Entry : Type) (size : Nat) := Fin size → List Entry

section Operations

variable {Key Entry : Type} [DecidableEq Key] {size : Nat}

/-- The first entry of the key's bucket that carries the key. -/
def lookup (scheme : Scheme Key Entry size) (buckets : Buckets Entry size) (key : Key) :
    Option Entry :=
  (buckets (scheme.slot key)).find? fun entry => decide (scheme.key entry = key)

/-- Put an entry first in its bucket. -/
def add (scheme : Scheme Key Entry size) (buckets : Buckets Entry size) (entry : Entry) :
    Buckets Entry size :=
  Function.update buckets (scheme.slot (scheme.key entry))
    (entry :: buckets (scheme.slot (scheme.key entry)))

/-- Apply a change to the entry a key is carried by. -/
def changeAt (scheme : Scheme Key Entry size) (key : Key) (change : Entry → Entry)
    (entry : Entry) : Entry :=
  if scheme.key entry = key then change entry else entry

/-- Change the entry of a key in place. -/
def modify (scheme : Scheme Key Entry size) (buckets : Buckets Entry size) (key : Key)
    (change : Entry → Entry) : Buckets Entry size :=
  Function.update buckets (scheme.slot key)
    ((buckets (scheme.slot key)).map (changeAt scheme key change))

/-- Take the entry of a key out of its bucket. -/
def remove (scheme : Scheme Key Entry size) (buckets : Buckets Entry size) (key : Key) :
    Buckets Entry size :=
  Function.update buckets (scheme.slot key)
    ((buckets (scheme.slot key)).filter fun entry => decide (scheme.key entry ≠ key))

end Operations

variable {Key Entry : Type} {size : Nat}

/-- All entries, bucket after bucket. -/
def entries (buckets : Buckets Entry size) : List Entry :=
  (List.finRange size).flatMap buckets

/-- Every entry sits in the bucket of its key, and no bucket holds a key twice. -/
structure WellFormed (scheme : Scheme Key Entry size) (buckets : Buckets Entry size) : Prop where
  placed : ∀ index, ∀ entry ∈ buckets index, scheme.slot (scheme.key entry) = index
  distinct : ∀ index, ((buckets index).map scheme.key).Nodup

variable {scheme : Scheme Key Entry size} {buckets : Buckets Entry size}

theorem mem_entries {entry : Entry} :
    entry ∈ entries buckets ↔ ∃ index, entry ∈ buckets index := by
  simp [entries]

theorem wellFormed_empty : WellFormed scheme fun _ : Fin size => ([] : List Entry) where
  placed _ _ member := absurd member List.not_mem_nil
  distinct _ := List.nodup_nil

theorem entries_empty : entries (fun _ : Fin size => ([] : List Entry)) = [] := by
  simp [entries]

/-- Two entries of one duplicate-free bucket with one key are one entry. -/
theorem WellFormed.eq_of_key (wellFormed : WellFormed scheme buckets) {index : Fin size}
    {first second : Entry} (firstMember : first ∈ buckets index)
    (secondMember : second ∈ buckets index) (same : scheme.key first = scheme.key second) :
    first = second :=
  List.inj_on_of_nodup_map (wellFormed.distinct index) firstMember secondMember same

/-- The keys of a well-formed table are pairwise distinct. -/
theorem WellFormed.nodup_keys (wellFormed : WellFormed scheme buckets) :
    ((entries buckets).map scheme.key).Nodup := by
  rw [entries, List.map_flatMap, List.nodup_flatMap]
  refine ⟨fun index _ => wellFormed.distinct index, ?_⟩
  refine (List.nodup_finRange size).imp_of_mem ?_
  intro first second _ _ different key firstMember secondMember
  obtain ⟨firstEntry, inFirst, rfl⟩ := List.mem_map.mp firstMember
  obtain ⟨secondEntry, inSecond, same⟩ := List.mem_map.mp secondMember
  apply different
  rw [← wellFormed.placed first firstEntry inFirst, ← wellFormed.placed second secondEntry inSecond,
    same]

/-- Replacing one bucket of a duplicate-free index list by what is left of it without one
entry takes that entry out of the concatenation. -/
theorem flatMap_update_perm {indices : List (Fin size)} (nodup : indices.Nodup)
    {index : Fin size} (member : index ∈ indices) {bucket : List Entry} {entry : Entry}
    (bucketPerm : (buckets index).Perm (entry :: bucket)) :
    (indices.flatMap buckets).Perm
      (entry :: indices.flatMap (Function.update buckets index bucket)) := by
  induction indices with
  | nil => exact absurd member List.not_mem_nil
  | cons first rest inductionHypothesis =>
    obtain ⟨notMember, restNodup⟩ := List.nodup_cons.mp nodup
    rw [List.flatMap_cons, List.flatMap_cons]
    by_cases here : first = index
    · subst here
      have unchanged : rest.flatMap (Function.update buckets first bucket) = rest.flatMap buckets := by
        refine List.flatMap_congr fun other otherMember => ?_
        have different : other ≠ first := by
          rintro rfl
          exact notMember otherMember
        exact Function.update_of_ne different _ _
      rw [Function.update_self, unchanged]
      exact bucketPerm.append_right _
    · have inRest : index ∈ rest := (List.mem_cons.mp member).resolve_left (Ne.symm here)
      rw [Function.update_of_ne here]
      exact ((inductionHypothesis restNodup inRest).append_left _).trans List.perm_middle

/-- Taking one entry out of its bucket takes it out of the list of all entries. -/
theorem entries_update_perm {index : Fin size} {bucket : List Entry} {entry : Entry}
    (bucketPerm : (buckets index).Perm (entry :: bucket)) :
    (entries buckets).Perm (entry :: entries (Function.update buckets index bucket)) :=
  flatMap_update_perm (List.nodup_finRange size) (List.mem_finRange index) bucketPerm

variable [DecidableEq Key]

/-! ### Looking a key up -/

theorem lookup_key {key : Key} {entry : Entry} (found : lookup scheme buckets key = some entry) :
    scheme.key entry = key := by
  simpa using List.find?_some found

theorem mem_bucket_of_lookup {key : Key} {entry : Entry}
    (found : lookup scheme buckets key = some entry) : entry ∈ buckets (scheme.slot key) :=
  List.mem_of_find?_eq_some found

theorem mem_entries_of_lookup {key : Key} {entry : Entry}
    (found : lookup scheme buckets key = some entry) : entry ∈ entries buckets :=
  mem_entries.mpr ⟨_, mem_bucket_of_lookup found⟩

/-- A well-formed table finds exactly the entry that carries the key. -/
theorem WellFormed.lookup_eq_some_iff (wellFormed : WellFormed scheme buckets) {key : Key}
    {entry : Entry} :
    lookup scheme buckets key = some entry ↔ entry ∈ entries buckets ∧ scheme.key entry = key := by
  constructor
  · intro found
    exact ⟨mem_entries_of_lookup found, lookup_key found⟩
  · rintro ⟨member, rfl⟩
    obtain ⟨index, inBucket⟩ := mem_entries.mp member
    have place := wellFormed.placed index entry inBucket
    cases found : lookup scheme buckets (scheme.key entry) with
    | none =>
      have missing := List.find?_eq_none.mp found entry (by rw [place]; exact inBucket)
      simp at missing
    | some other =>
      have otherMember := mem_bucket_of_lookup found
      rw [place] at otherMember
      rw [wellFormed.eq_of_key otherMember inBucket (lookup_key found)]

theorem WellFormed.lookup_eq_none_iff (wellFormed : WellFormed scheme buckets) {key : Key} :
    lookup scheme buckets key = none ↔ ∀ entry ∈ entries buckets, scheme.key entry ≠ key := by
  rw [Option.eq_none_iff_forall_not_mem]
  simp only [Option.mem_def, wellFormed.lookup_eq_some_iff, not_and, ne_eq]

/-! ### Adding an entry -/

theorem lookup_add (entry : Entry) (key : Key) :
    lookup scheme (add scheme buckets entry) key =
      if scheme.key entry = key then some entry else lookup scheme buckets key := by
  unfold lookup add
  by_cases same : scheme.key entry = key
  · subst same
    simp
  · rw [if_neg same]
    by_cases slotSame : scheme.slot key = scheme.slot (scheme.key entry)
    · rw [slotSame, Function.update_self, List.find?_cons_of_neg (by simpa using same)]
    · rw [Function.update_of_ne slotSame]

theorem WellFormed.add (wellFormed : WellFormed scheme buckets) {entry : Entry}
    (fresh : lookup scheme buckets (scheme.key entry) = none) :
    WellFormed scheme (ChainedTable.add scheme buckets entry) where
  placed index other member := by
    by_cases here : index = scheme.slot (scheme.key entry)
    · subst here
      rw [ChainedTable.add, Function.update_self] at member
      rcases List.mem_cons.mp member with rfl | old
      · rfl
      · exact wellFormed.placed _ other old
    · rw [ChainedTable.add, Function.update_of_ne here] at member
      exact wellFormed.placed index other member
  distinct index := by
    by_cases here : index = scheme.slot (scheme.key entry)
    · subst here
      rw [ChainedTable.add, Function.update_self, List.map_cons, List.nodup_cons]
      refine ⟨?_, wellFormed.distinct _⟩
      intro member
      obtain ⟨other, inBucket, same⟩ := List.mem_map.mp member
      exact wellFormed.lookup_eq_none_iff.mp fresh other (mem_entries.mpr ⟨_, inBucket⟩) same
    · rw [ChainedTable.add, Function.update_of_ne here]
      exact wellFormed.distinct index

omit [DecidableEq Key] in
theorem entries_add_perm (entry : Entry) :
    (entries (add scheme buckets entry)).Perm (entry :: entries buckets) := by
  have bucketPerm : (add scheme buckets entry (scheme.slot (scheme.key entry))).Perm
      (entry :: buckets (scheme.slot (scheme.key entry))) := by
    rw [add, Function.update_self]
  have step := entries_update_perm bucketPerm
  rw [add, Function.update_idem, Function.update_eq_self] at step
  exact step

/-! ### Changing an entry in place -/

theorem changeAt_of_ne {key : Key} {change : Entry → Entry} {entry : Entry}
    (different : scheme.key entry ≠ key) : changeAt scheme key change entry = entry :=
  if_neg different

theorem key_changeAt {key : Key} {change : Entry → Entry}
    (keepsKey : ∀ entry, scheme.key (change entry) = scheme.key entry) (entry : Entry) :
    scheme.key (changeAt scheme key change entry) = scheme.key entry := by
  unfold changeAt
  split
  · exact keepsKey entry
  · rfl

/-- A list that does not carry the key is left as it is. -/
theorem map_changeAt_of_absent {key : Key} {change : Entry → Entry} {list : List Entry}
    (absent : ∀ entry ∈ list, scheme.key entry ≠ key) :
    list.map (changeAt scheme key change) = list := by
  have same : list.map (changeAt scheme key change) = list.map id :=
    List.map_congr_left fun entry member => changeAt_of_ne (absent entry member)
  rw [same, List.map_id]

/-- Changing the entry of one key changes the lookup of that key only. -/
theorem lookup_modify {change : Entry → Entry}
    (keepsKey : ∀ entry, scheme.key (change entry) = scheme.key entry) (key other : Key) :
    lookup scheme (modify scheme buckets key change) other =
      if other = key then (lookup scheme buckets key).map change
      else lookup scheme buckets other := by
  unfold lookup modify
  by_cases slotSame : scheme.slot other = scheme.slot key
  · rw [slotSame, Function.update_self, List.find?_map]
    have sameTest : (fun entry => decide (scheme.key entry = other)) ∘ changeAt scheme key change =
        fun entry => decide (scheme.key entry = other) := by
      funext entry
      simp only [Function.comp_apply, key_changeAt keepsKey]
    rw [sameTest]
    by_cases same : other = key
    · subst same
      rw [if_pos rfl]
      refine Option.map_congr fun entry found => ?_
      have keyEq : scheme.key entry = other := by simpa using List.find?_some found
      exact if_pos keyEq
    · rw [if_neg same]
      refine (Option.map_congr fun entry found => ?_).trans Option.map_id'
      have keyEq : scheme.key entry = other := by simpa using List.find?_some found
      exact changeAt_of_ne (by rw [keyEq]; exact same)
  · have different : other ≠ key := fun same => slotSame (congrArg scheme.slot same)
    rw [Function.update_of_ne slotSame, if_neg different]

theorem WellFormed.modify (wellFormed : WellFormed scheme buckets) {key : Key}
    {change : Entry → Entry} (keepsKey : ∀ entry, scheme.key (change entry) = scheme.key entry) :
    WellFormed scheme (ChainedTable.modify scheme buckets key change) where
  placed index other member := by
    by_cases here : index = scheme.slot key
    · subst here
      rw [ChainedTable.modify, Function.update_self] at member
      obtain ⟨entry, old, rfl⟩ := List.mem_map.mp member
      rw [key_changeAt keepsKey]
      exact wellFormed.placed _ entry old
    · rw [ChainedTable.modify, Function.update_of_ne here] at member
      exact wellFormed.placed index other member
  distinct index := by
    by_cases here : index = scheme.slot key
    · subst here
      rw [ChainedTable.modify, Function.update_self, List.map_map]
      have sameKeys : scheme.key ∘ changeAt scheme key change = scheme.key :=
        funext fun entry => key_changeAt keepsKey entry
      rw [sameKeys]
      exact wellFormed.distinct _
    · rw [ChainedTable.modify, Function.update_of_ne here]
      exact wellFormed.distinct index

/-- On a well-formed table, changing an entry in place is a map over all entries. -/
theorem WellFormed.entries_modify (wellFormed : WellFormed scheme buckets) (key : Key)
    (change : Entry → Entry) :
    entries (ChainedTable.modify scheme buckets key change) =
      (entries buckets).map (changeAt scheme key change) := by
  rw [entries, entries, List.map_flatMap]
  refine List.flatMap_congr fun index _ => ?_
  by_cases here : index = scheme.slot key
  · subst here
    rw [ChainedTable.modify, Function.update_self]
  · rw [ChainedTable.modify, Function.update_of_ne here]
    refine (map_changeAt_of_absent fun entry member keyEq => here ?_).symm
    rw [← wellFormed.placed index entry member, keyEq]

/-- Two changes of the entry of one key are one change. -/
theorem modify_modify (key : Key) {first : Entry → Entry}
    (keepsKey : ∀ entry, scheme.key (first entry) = scheme.key entry) (second : Entry → Entry) :
    ChainedTable.modify scheme (ChainedTable.modify scheme buckets key first) key second =
      ChainedTable.modify scheme buckets key (second ∘ first) := by
  unfold ChainedTable.modify
  rw [Function.update_self, Function.update_idem, List.map_map]
  congr 2
  funext entry
  by_cases same : scheme.key entry = key
  · have changed : scheme.key (first entry) = key := (keepsKey entry).trans same
    simp only [Function.comp_apply, changeAt, same, changed, if_true]
  · simp only [Function.comp_apply, changeAt, same, if_false]

/-! ### Taking an entry out -/

theorem lookup_remove (key other : Key) :
    lookup scheme (remove scheme buckets key) other =
      if other = key then none else lookup scheme buckets other := by
  unfold lookup remove
  by_cases slotSame : scheme.slot other = scheme.slot key
  · rw [slotSame, Function.update_self, List.find?_filter]
    by_cases same : other = key
    · subst same
      rw [if_pos rfl, List.find?_eq_none]
      intro entry _
      simp
    · rw [if_neg same]
      congr 1
      funext entry
      by_cases keyEq : scheme.key entry = other
      · simp [keyEq, same]
      · simp [keyEq]
  · have different : other ≠ key := fun same => slotSame (congrArg scheme.slot same)
    rw [Function.update_of_ne slotSame, if_neg different]

theorem WellFormed.remove (wellFormed : WellFormed scheme buckets) (key : Key) :
    WellFormed scheme (ChainedTable.remove scheme buckets key) where
  placed index other member := by
    by_cases here : index = scheme.slot key
    · subst here
      rw [ChainedTable.remove, Function.update_self] at member
      exact wellFormed.placed _ other (List.mem_of_mem_filter member)
    · rw [ChainedTable.remove, Function.update_of_ne here] at member
      exact wellFormed.placed index other member
  distinct index := by
    by_cases here : index = scheme.slot key
    · subst here
      rw [ChainedTable.remove, Function.update_self]
      exact (wellFormed.distinct _).sublist (List.filter_sublist.map scheme.key)
    · rw [ChainedTable.remove, Function.update_of_ne here]
      exact wellFormed.distinct index

/-- Filtering one key out of a duplicate-free list takes exactly its entry out. -/
theorem perm_cons_filter_key {list : List Entry} (distinct : (list.map scheme.key).Nodup)
    {entry : Entry} (member : entry ∈ list) :
    list.Perm (entry :: list.filter fun other => decide (scheme.key other ≠ scheme.key entry)) := by
  induction list with
  | nil => exact absurd member List.not_mem_nil
  | cons first rest inductionHypothesis =>
    rw [List.map_cons, List.nodup_cons] at distinct
    obtain ⟨notMember, restDistinct⟩ := distinct
    rcases List.mem_cons.mp member with rfl | inRest
    · have kept : rest.filter (fun other => decide (scheme.key other ≠ scheme.key entry)) = rest := by
        refine List.filter_eq_self.mpr fun other otherMember => ?_
        rw [decide_eq_true_eq]
        intro same
        exact notMember (same ▸ List.mem_map_of_mem otherMember)
      rw [List.filter_cons_of_neg (by simp), kept]
    · have different : scheme.key first ≠ scheme.key entry := by
        intro same
        exact notMember (same ▸ List.mem_map_of_mem inRest)
      rw [List.filter_cons_of_pos (by simpa using different)]
      exact ((inductionHypothesis restDistinct inRest).cons first).trans (List.Perm.swap _ _ _)

theorem WellFormed.entries_remove_perm (wellFormed : WellFormed scheme buckets) {key : Key}
    {entry : Entry} (found : lookup scheme buckets key = some entry) :
    (entries buckets).Perm (entry :: entries (ChainedTable.remove scheme buckets key)) := by
  have keyEq := lookup_key found
  subst keyEq
  exact entries_update_perm
    (perm_cons_filter_key (wellFormed.distinct _) (mem_bucket_of_lookup found))

/-- Changing an entry in place swaps it for the changed one among all entries. -/
theorem WellFormed.entries_modify_perm (wellFormed : WellFormed scheme buckets) {key : Key}
    {entry : Entry} (found : lookup scheme buckets key = some entry) (change : Entry → Entry) :
    (entries (ChainedTable.modify scheme buckets key change)).Perm
      (change entry :: entries (ChainedTable.remove scheme buckets key)) := by
  rw [wellFormed.entries_modify]
  refine ((wellFormed.entries_remove_perm found).map _).trans ?_
  have rest : (entries (ChainedTable.remove scheme buckets key)).map (changeAt scheme key change) =
      entries (ChainedTable.remove scheme buckets key) := by
    refine map_changeAt_of_absent ((wellFormed.remove key).lookup_eq_none_iff.mp ?_)
    rw [lookup_remove, if_pos rfl]
  rw [List.map_cons, rest, changeAt, if_pos (lookup_key found)]

end ChainedTable
