/-
This file models the lists of `list.c` and `list.h`, by which timers, table entries, precursors,
seek records and waiting packets are linked.

An element carries the two pointers itself, and the heap holds any number of lists at once. The
functions write four pointers at most, and which of these belong to the same node depends on the
size of the list and on the place. Whatever the place, an element enters or leaves one list, and the
others stay as they are. A loop with `list_foreach_safe` has read the next element before its body
runs, so the body may detach the current one.
-/

import Aodvd.Library.Rings

namespace Aodvd

open Rings

/-! ### Any number of lists -/

section

variable {Node Index : Type} [DecidableEq Index] {links changed : Links Node} {head : Index → Node}
  {elements : Index → List Node} {index : Index} {nodes : List Node}

/-- The heap holds a list for each index, and no node is in two of them. -/
structure Lists (links : Links Node) (head : Index → Node) (elements : Index → List Node) :
    Prop where
  ring : ∀ index, Ring links (head index) (elements index)
  apart : ∀ index other, index ≠ other →
    ∀ node ∈ head index :: elements index, node ∉ head other :: elements other

/-- One list changes, and what is written lies apart from the other ones. -/
theorem Lists.replace {touched : List Node} (lists : Lists links head elements)
    (ring : Ring changed (head index) nodes) (agree : links.AgreeOutside touched changed)
    (foreign : ∀ other, other ≠ index →
      ∀ node ∈ head other :: elements other, node ∉ touched)
    (within : ∀ node ∈ head index :: nodes, node ∈ touched) :
    Lists changed head (Function.update elements index nodes) where
  ring := by
    intro other
    by_cases same : other = index
    · rw [same, Function.update_self]
      exact ring
    · rw [Function.update_of_ne same]
      exact (lists.ring other).of_agree agree (foreign other same)
  apart := by
    intro one other different node here there
    by_cases first : one = index
    · subst first
      rw [Function.update_self] at here
      rw [Function.update_of_ne different.symm] at there
      exact foreign other different.symm node there (within node here)
    · rw [Function.update_of_ne first] at here
      by_cases second : other = index
      · subst second
        rw [Function.update_self] at there
        exact foreign one first node here (within node there)
      · rw [Function.update_of_ne second] at there
        exact lists.apart one other different node here there

end

section

variable {Node : Type} [DecidableEq Node]

/-! ### The functions -/

def listNull : Int := -1
def listSuccess : Int := 1

/-- `p->next = q`, which needs a node `p`. -/
def setNext (pointer target : Option Node) (links : Links Node) : Option (Links Node) :=
  pointer.map fun node => { links with next := Function.update links.next node target }

/-- `p->prev = q`. -/
def setPrev (pointer target : Option Node) (links : Links Node) : Option (Links Node) :=
  pointer.map fun node => { links with prev := Function.update links.prev node target }

/-- `listelm_detach`. -/
def listelmDetach (prev next : Option Node) (links : Links Node) : Option (Links Node) :=
  (setPrev next prev links).bind (setNext prev next)

/-- `listelm_add`. -/
def listelmAdd (le prev next : Option Node) (links : Links Node) : Option (Links Node) :=
  (((setNext prev le links).bind (setPrev le prev)).bind (setNext le next)).bind (setPrev next le)

/-- `list_add`. The outer option is missing where a null pointer would be followed. -/
def listAdd (head le : Option Node) (links : Links Node) : Option (Int × Links Node) :=
  match head, le with
  | some head, some le =>
    (listelmAdd (some le) (some head) (links.next head) links).map (listSuccess, ·)
  | _, _ => some (listNull, links)

/-- `list_add_tail`. -/
def listAddTail (head le : Option Node) (links : Links Node) : Option (Int × Links Node) :=
  match head, le with
  | some head, some le =>
    (listelmAdd (some le) (links.prev head) (some head) links).map (listSuccess, ·)
  | _, _ => some (listNull, links)

/-- `list_detach`. -/
def listDetach (le : Option Node) (links : Links Node) : Option (Int × Links Node) :=
  match le with
  | some le =>
    (((listelmDetach (links.prev le) (links.next le) links).bind (setPrev (some le) none)).bind
      (setNext (some le) none)).map (listSuccess, ·)
  | none => some (listNull, links)

/-- `list_unattached`. -/
def listUnattached (links : Links Node) (le : Node) : Prop :=
  links.next le = none ∧ links.prev le = none

/-- The rounds of `list_foreach_safe`: the nodes visited, and the state and the links at the end. A
body may use and change a state of its own. -/
def foreachSafeFrom {State : Type} (body : Node → State × Links Node → State × Links Node)
    (head : Node) : Nat → Node → Option Node → State × Links Node →
      Option (List Node × State × Links Node)
  | 0, _, _, _ => none
  | limit + 1, pos, tmp, state =>
    if pos = head then some ([], state)
    else
      let state := body pos state
      tmp.bind fun pos' =>
        (foreachSafeFrom body head limit pos' (state.2.next pos') state).map fun result =>
          (pos :: result.1, result.2)

/-- `list_foreach_safe`. -/
def listForeachSafe {State : Type} (body : Node → State × Links Node → State × Links Node)
    (head : Node) (limit : Nat) (state : State × Links Node) :
    Option (List Node × State × Links Node) :=
  (state.2.next head).bind fun pos => foreachSafeFrom body head limit pos (state.2.next pos) state

/-- A body detaches the current element, or leaves the links alone. -/
def DetachesAtMost {State : Type} (body : Node → State × Links Node → State × Links Node) : Prop :=
  ∀ pos state, (body pos state).2 = state.2 ∨
    listDetach (some pos) state.2 = some (listSuccess, (body pos state).2)

/-! ### The functions and the operations on rings -/

theorem listAdd_eq (place le : Node) (links : Links Node) :
    listAdd (some place) (some le) links =
      (links.addAfter place le).map (listSuccess, ·) := by
  show (listelmAdd (some le) (some place) (links.next place) links).map _ =
    ((links.next place).map fun after => links.insert le place after).map _
  cases links.next place with
  | none => rfl
  | some after => rfl

theorem listAddTail_eq (place le : Node) (links : Links Node) :
    listAddTail (some place) (some le) links =
      (links.addBefore place le).map (listSuccess, ·) := by
  show (listelmAdd (some le) (links.prev place) (some place) links).map _ =
    ((links.prev place).map fun before => links.insert le before place).map _
  cases links.prev place with
  | none => rfl
  | some before => rfl

theorem listDetach_eq (le : Node) (links : Links Node) :
    listDetach (some le) links = (links.detach le).map (listSuccess, ·) := by
  unfold Links.detach
  show (((listelmDetach (links.prev le) (links.next le) links).bind (setPrev (some le) none)).bind
    (setNext (some le) none)).map _ = _
  cases links.prev le with
  | none => cases links.next le <;> rfl
  | some before => cases links.next le <;> rfl

/-- To put an element behind the one before a place, as `timer_add` does, is to put it before that
place. -/
theorem listAdd_prev {links : Links Node} {head place : Node} {nodes : List Node}
    (ring : Ring links head nodes) (member : place ∈ head :: nodes) (le : Node) :
    listAdd (links.prev place) (some le) links = listAddTail (some place) (some le) links := by
  obtain ⟨first, last, rfl, rfl⟩ := exists_parts_before member
  rw [ring.prev_between, listAdd_eq, listAddTail_eq, Links.addAfter, Links.addBefore,
    ring.next_between, ring.prev_between]
  rfl

/-! ### Entering and leaving a list -/

variable {Index : Type} [DecidableEq Index] {links : Links Node} {head : Index → Node}
  {elements : Index → List Node} {index : Index} {le : Node} {first last : List Node}

/-- An element that is in no list enters one between two parts of it. -/
theorem Lists.insert (lists : Lists links head elements) (parts : elements index = first ++ last)
    (fresh : ∀ other, le ∉ head other :: elements other) :
    Lists (links.insert le (first.getLastD (head index)) (last.headD (head index))) head
      (Function.update elements index (first ++ le :: last)) := by
  have ring := lists.ring index
  have new := fresh index
  rw [parts] at ring new
  obtain ⟨entered, agree⟩ := ring.insert new
  refine lists.replace entered agree (fun other different node member touched => ?_)
    fun node member => member
  have old : node = le ∨ node ∈ head index :: elements index := by
    rw [parts]
    simp only [List.mem_cons, List.mem_append] at touched ⊢
    tauto
  obtain rfl | old := old
  · exact fresh other member
  · exact lists.apart index other different.symm node old member

/-- An element leaves the list it is in. -/
theorem Lists.detach (lists : Lists links head elements)
    (parts : elements index = first ++ le :: last) :
    ∃ changed, listDetach (some le) links = some (listSuccess, changed) ∧
      Lists changed head (Function.update elements index (first ++ last)) ∧
      listUnattached changed le ∧
      links.AgreeOutside (head index :: elements index) changed := by
  have ring := lists.ring index
  rw [parts] at ring
  obtain ⟨changed, detached, shorter, noNext, noPrev, agree⟩ := ring.detach
  have part : (first ++ last).Sublist (first ++ le :: last) :=
    (List.sublist_cons_self le last).append_left first
  rw [← parts] at agree part
  refine ⟨changed, by rw [listDetach_eq, detached]; rfl, ?_, ⟨noNext, noPrev⟩, agree⟩
  exact lists.replace shorter agree
    (fun other different node member touched =>
      lists.apart other index different node member touched)
    fun node member => (part.cons_cons (head index)).subset member

/-! ### The safe loop -/

variable {State : Type} {body : Node → State × Links Node → State × Links Node}

/-- One round of a loop: the current element stays where it is, or it leaves the list and is
unattached. -/
theorem DetachesAtMost.round (gentle : DetachesAtMost body) (state : State × Links Node)
    {pos : Node}
    (lists : Lists state.2 head (Function.update elements index (first ++ pos :: last))) :
    ∃ kept : List Node, kept.Sublist [pos] ∧
      Lists (body pos state).2 head (Function.update elements index (first ++ kept ++ last)) ∧
      (pos ∉ kept → listUnattached (body pos state).2 pos) ∧
      state.2.AgreeOutside (head index :: (first ++ pos :: last)) (body pos state).2 := by
  obtain same | detached := gentle pos state
  · refine ⟨[pos], List.Sublist.refl _, ?_, fun left => absurd List.mem_cons_self left, ?_⟩
    · rw [same, List.append_assoc]
      exact lists
    · rw [same]
      exact fun other _ => ⟨rfl, rfl⟩
  · obtain ⟨changed, found, shorter, unattached, agree⟩ :=
      lists.detach (Function.update_self index (first ++ pos :: last) elements)
    have equal : changed = (body pos state).2 :=
      congrArg Prod.snd (Option.some.inj (found.symm.trans detached))
    rw [Function.update_idem, equal] at shorter
    rw [Function.update_self, equal] at agree
    rw [equal] at unattached
    exact ⟨[], List.nil_sublist _, by rwa [List.append_nil], fun _ => unattached, agree⟩

/-- From a place in a list on, the loop runs its body on the rest of it. The elements before that
place are those that the body has left in the list. -/
theorem foreachSafeFrom_visits (gentle : DetachesAtMost body) {limit : Nat}
    (enough : last.length < limit) (state : State × Links Node)
    (lists : Lists state.2 head (Function.update elements index (first ++ last))) :
    ∃ kept : List Node,
      foreachSafeFrom body (head index) limit (last.headD (head index))
          (state.2.next (last.headD (head index))) state =
        some (last, last.foldl (fun state pos => body pos state) state) ∧
      kept.Sublist last ∧
      Lists (last.foldl (fun state pos => body pos state) state).2 head
        (Function.update elements index (first ++ kept)) ∧
      (∀ pos ∈ last, pos ∉ kept →
        listUnattached (last.foldl (fun state pos => body pos state) state).2 pos) ∧
      state.2.AgreeOutside (head index :: (first ++ last))
        (last.foldl (fun state pos => body pos state) state).2 := by
  induction last generalizing limit first state with
  | nil =>
    obtain ⟨limit, rfl⟩ := Nat.exists_eq_add_of_lt enough
    exact ⟨[], if_pos rfl, List.Sublist.refl _, lists, fun pos member => absurd member
      List.not_mem_nil, fun other _ => ⟨rfl, rfl⟩⟩
  | cons pos last inductionHypothesis =>
    obtain ⟨limit, rfl⟩ : ∃ rounds, limit = rounds + 1 :=
      ⟨limit - 1, (Nat.succ_pred_eq_of_pos (Nat.zero_lt_of_lt enough)).symm⟩
    have rounds : last.length < limit := Nat.lt_of_succ_lt_succ enough
    have ring := lists.ring index
    rw [Function.update_self] at ring
    have inside : pos ≠ head index := fun same =>
      (List.nodup_cons.mp ring.distinct).1 (same ▸ List.mem_append_right first List.mem_cons_self)
    have distinct : (head index :: first ++ pos :: last).Nodup := ring.distinct
    have once := (List.nodup_cons.mp (List.nodup_middle.mp distinct)).1
    have tmp : state.2.next pos = some (last.headD (head index)) := ring.next_node
    -- Whether the body detaches `pos` or not, the rest of the list stays in place behind it.
    obtain ⟨mine, single, later, gone, agree⟩ := gentle.round state lists
    obtain ⟨kept, visits, fewer, final, unattached, agreeLater⟩ :=
      inductionHypothesis rounds (body pos state) later
    have within : ∀ node ∈ head index :: (first ++ mine ++ last),
        node ∈ head index :: (first ++ pos :: last) := by
      have part := (single.append_left first).append_right last
      rw [List.append_assoc first [pos]] at part
      exact (part.cons_cons (head index)).subset
    refine ⟨mine ++ kept, ?_, single.append fewer, ?_, ?_, ?_⟩
    · show foreachSafeFrom body (head index) (limit + 1) pos (state.2.next pos) state = _
      rw [foreachSafeFrom, if_neg inside, tmp]
      show (foreachSafeFrom body (head index) limit (last.headD (head index))
        ((body pos state).2.next (last.headD (head index))) (body pos state)).map _ = _
      rw [visits]
      rfl
    · rw [← List.append_assoc]
      exact final
    · intro node member left
      obtain ⟨notMine, notKept⟩ := not_or.mp (List.mem_append.not.mp left)
      obtain rfl | member := List.mem_cons.mp member
      · -- The later rounds do not write the links of an element that is out of the list.
        have outside : node ∉ head index :: (first ++ mine ++ last) := fun inner => by
          simp only [List.mem_cons, List.mem_append] at inner once
          tauto
        obtain ⟨next, prev⟩ := agreeLater node outside
        exact ⟨next.trans (gone notMine).1, prev.trans (gone notMine).2⟩
      · exact unattached node member notKept
    · intro other outside
      obtain ⟨next, prev⟩ := agree other outside
      obtain ⟨nextLater, prevLater⟩ := agreeLater other fun inner => outside (within other inner)
      exact ⟨nextLater.trans next, prevLater.trans prev⟩

/-- The whole loop: its body runs on every element of the list, in order, and those stay in the list
that it has not detached. -/
theorem listForeachSafe_visits (gentle : DetachesAtMost body) (state : State × Links Node)
    (lists : Lists state.2 head elements) {limit : Nat}
    (enough : (elements index).length < limit) :
    ∃ remaining : List Node,
      listForeachSafe body (head index) limit state =
        some (elements index, (elements index).foldl (fun state pos => body pos state) state) ∧
      remaining.Sublist (elements index) ∧
      (∀ pos ∈ elements index, pos ∈ remaining ↔ ¬ listUnattached
        ((elements index).foldl (fun state pos => body pos state) state).2 pos) ∧
      Lists ((elements index).foldl (fun state pos => body pos state) state).2 head
        (Function.update elements index remaining) := by
  have start : Lists state.2 head (Function.update elements index ([] ++ elements index)) := by
    rw [List.nil_append, Function.update_eq_self]
    exact lists
  obtain ⟨remaining, visits, fewer, final, unattached, -⟩ :=
    foreachSafeFrom_visits gentle enough state start
  refine ⟨remaining, ?_, fewer, fun pos member => ⟨fun stays alone => ?_, fun attached => ?_⟩,
    final⟩
  · unfold listForeachSafe
    rw [(lists.ring index).next_head]
    exact visits
  · obtain ⟨first, last, parts⟩ := List.append_of_mem stays
    have ring := final.ring index
    rw [Function.update_self, List.nil_append, parts] at ring
    exact absurd (ring.next_node.symm.trans alone.1) (Option.some_ne_none _)
  · by_contra left
    exact attached (unattached pos member left)

end

/-- For every heap with any number of lists: an element in no list is put right behind or right
before any node of a list; an element of a list is taken out of it and is unattached; all lists are
well formed after that, the others as before; and the safe loop, if its body detaches at most the
current element, runs it on the elements of a list once each and in order, and exactly those stay in
the list that are not unattached at the end. -/
theorem lists_correct {Node Index : Type} [DecidableEq Node] [DecidableEq Index]
    {links : Links Node} {head : Index → Node} {elements : Index → List Node}
    (lists : Lists links head elements) (index : Index) :
    (∀ place ∈ head index :: elements index, ∀ le,
      (∀ other, le ∉ head other :: elements other) →
        ∃ first last changed, elements index = first ++ last ∧
          first.getLastD (head index) = place ∧
          listAdd (some place) (some le) links = some (listSuccess, changed) ∧
          Lists changed head (Function.update elements index (first ++ le :: last))) ∧
    (∀ place ∈ head index :: elements index, ∀ le,
      (∀ other, le ∉ head other :: elements other) →
        ∃ first last changed, elements index = first ++ last ∧
          last.headD (head index) = place ∧
          listAddTail (some place) (some le) links = some (listSuccess, changed) ∧
          Lists changed head (Function.update elements index (first ++ le :: last))) ∧
    (∀ le ∈ elements index, ∃ first last changed, elements index = first ++ le :: last ∧
      listDetach (some le) links = some (listSuccess, changed) ∧
      Lists changed head (Function.update elements index (first ++ last)) ∧
      listUnattached changed le ∧ links.AgreeOutside (head index :: elements index) changed) ∧
    (∀ (State : Type) (body : Node → State × Links Node → State × Links Node) (start : State)
      (limit : Nat), DetachesAtMost body → (elements index).length < limit →
        ∃ remaining : List Node,
          listForeachSafe body (head index) limit (start, links) = some (elements index,
            (elements index).foldl (fun state pos => body pos state) (start, links)) ∧
          remaining.Sublist (elements index) ∧
          (∀ pos ∈ elements index, pos ∈ remaining ↔ ¬ listUnattached
            ((elements index).foldl (fun state pos => body pos state) (start, links)).2 pos) ∧
          Lists ((elements index).foldl (fun state pos => body pos state) (start, links)).2 head
            (Function.update elements index remaining)) := by
  have ring := lists.ring index
  refine ⟨fun place member le fresh => ?_, fun place member le fresh => ?_, fun le member => ?_,
    fun State body start limit gentle enough =>
      listForeachSafe_visits gentle (start, links) lists enough⟩
  · obtain ⟨first, last, parts, rfl⟩ := exists_parts_after member
    rw [parts] at ring
    refine ⟨first, last, _, parts, rfl, ?_, lists.insert parts fresh⟩
    rw [listAdd_eq, Links.addAfter, ring.next_between]
    rfl
  · obtain ⟨first, last, parts, rfl⟩ := exists_parts_before member
    rw [parts] at ring member
    refine ⟨first, last, _, parts, rfl, ?_, lists.insert parts fresh⟩
    rw [← listAdd_prev ring member, ring.prev_between, listAdd_eq, Links.addAfter, ring.next_between]
    rfl
  · obtain ⟨first, last, parts⟩ := List.append_of_mem member
    obtain ⟨changed, detached, shorter, unattached, agree⟩ := lists.detach parts
    exact ⟨first, last, changed, parts, detached, shorter, unattached, agree⟩

/-- The head 0 with the elements 1 and 2, the head 3 alone, and no other links. -/
def twoLists : Links Nat where
  next := fun node => [some 1, some 2, some 0, some 3].getD node none
  prev := fun node => [some 2, some 0, some 1, some 3].getD node none

theorem lists_twoLists :
    Lists twoLists (fun second : Bool => bif second then 3 else 0)
      (fun second => bif second then [] else [1, 2]) where
  ring := by
    intro second
    cases second with
    | false => exact ⟨by decide, ⟨rfl, rfl, rfl⟩, ⟨rfl, rfl, rfl⟩⟩
    | true => exact ⟨by decide, rfl, rfl⟩
  apart := by decide

/-- A body that detaches every element. -/
def detachEach (pos : Nat) (state : Unit × Links Nat) : Unit × Links Nat :=
  match listDetach (some pos) state.2 with
  | some result => ((), result.2)
  | none => state

theorem detachesAtMost_detachEach : DetachesAtMost detachEach := by
  intro pos state
  unfold detachEach
  rw [listDetach_eq]
  cases state.2.detach pos with
  | none => exact .inl rfl
  | some changed => exact .inr rfl

theorem lists_correct_twoLists :
    (∃ first last changed, [1, 2] = first ++ last ∧ first.getLastD 0 = 1 ∧
      listAdd (some 1) (some 4) twoLists = some (listSuccess, changed) ∧
      Lists changed (fun second : Bool => bif second then 3 else 0)
        (Function.update (fun second => bif second then [] else [1, 2]) false
          (first ++ 4 :: last))) ∧
    (∃ first last changed, [1, 2] = first ++ last ∧ last.headD 0 = 0 ∧
      listAddTail (some 0) (some 4) twoLists = some (listSuccess, changed) ∧
      Lists changed (fun second : Bool => bif second then 3 else 0)
        (Function.update (fun second => bif second then [] else [1, 2]) false
          (first ++ 4 :: last))) ∧
    (∃ changed, listDetach (some 2) twoLists = some (listSuccess, changed) ∧
      listUnattached changed 2) ∧
    (∃ result, listForeachSafe detachEach 0 3 ((), twoLists) = some ([1, 2], result) ∧
      listUnattached result.2 1 ∧ listUnattached result.2 2 ∧
      Lists result.2 (fun second : Bool => bif second then 3 else 0) (fun _ => [])) := by
  obtain ⟨after, before, detached, visits⟩ := lists_correct lists_twoLists false
  refine ⟨after 1 (by decide) 4 (by decide), before 0 (by decide) 4 (by decide), ?_, ?_⟩
  · obtain ⟨-, -, changed, -, found, -, unattached, -⟩ := detached 2 (by decide)
    exact ⟨changed, found, unattached⟩
  · obtain ⟨remaining, visited, part, stays, final⟩ :=
      visits Unit detachEach () 3 detachesAtMost_detachEach (by decide)
    have none : remaining = [] := List.eq_nil_iff_forall_not_mem.mpr fun pos member => by
      have known := part.subset member
      refine (stays pos known).mp member ?_
      obtain rfl | rfl : pos = 1 ∨ pos = 2 := by simpa using known
      · exact ⟨rfl, rfl⟩
      · exact ⟨rfl, rfl⟩
    refine ⟨_, visited, ⟨rfl, rfl⟩, ⟨rfl, rfl⟩, ?_⟩
    rw [none] at final
    convert final using 1
    funext second
    cases second with
    | false => rfl
    | true => rfl

end Aodvd
