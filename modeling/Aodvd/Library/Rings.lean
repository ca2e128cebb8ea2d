/-
This file is a small library about circular doubly linked lists.

Every node has two link fields, which may be null. A list is a ring: from its head, the links lead
through its nodes and back to the head, in either direction. A node is taken out of the ring it is
in by its own links alone, so whoever detaches it need not know which ring that is; the other rings
are left as they are.
-/

import Mathlib

namespace Rings

/-- The link fields of all nodes; `none` is the null pointer. -/
structure Links (Node : Type) where
  next : Node → Option Node
  prev : Node → Option Node

/-! ### Paths along one field -/

/-- The field leads from the first node through the list to the last one. -/
def Path {Node : Type} (field : Node → Option Node) : Node → List Node → Node → Prop
  | start, [], stop => field start = some stop
  | start, node :: nodes, stop => field start = some node ∧ Path field node nodes stop

section

variable {Node : Type} {field other : Node → Option Node} {start stop node : Node}
  {nodes first last : List Node}

theorem Path.start_eq (path : Path field start nodes stop) :
    field start = some (nodes.headD stop) := by
  cases nodes with
  | nil => exact path
  | cons node nodes => exact path.1

theorem Path.congr (path : Path field start nodes stop)
    (same : ∀ node ∈ start :: nodes, other node = field node) : Path other start nodes stop := by
  induction nodes generalizing start with
  | nil => exact (same start List.mem_cons_self).trans path
  | cons node nodes inductionHypothesis =>
    exact ⟨(same start List.mem_cons_self).trans path.1,
      inductionHypothesis path.2 fun node member => same node (List.mem_cons_of_mem _ member)⟩

/-- A path through a node is a path to it and one from it. -/
theorem path_append_cons : Path field start (first ++ node :: last) stop ↔
    Path field start first node ∧ Path field node last stop := by
  induction first generalizing start with
  | nil => exact Iff.rfl
  | cons head first inductionHypothesis =>
    exact (and_congr_right fun _ => inductionHypothesis).trans and_assoc.symm

variable [DecidableEq Node]

/-- A path that is led elsewhere at its last node. -/
theorem Path.redirect (path : Path field start nodes stop) (distinct : (start :: nodes).Nodup)
    (goal : Node) :
    Path (Function.update field (nodes.getLastD start) (some goal)) start nodes goal := by
  induction nodes generalizing start with
  | nil => exact Function.update_self ..
  | cons node nodes inductionHypothesis =>
    obtain ⟨absent, distinct⟩ := List.nodup_cons.mp distinct
    rw [List.getLastD_cons]
    refine ⟨?_, inductionHypothesis path.2 distinct⟩
    have away : start ≠ nodes.getLastD node := fun same => absent (same ▸ List.getLastD_mem_cons)
    rw [Function.update_of_ne away]
    exact path.1

/-- A path from which a node is left out. -/
theorem Path.leave (path : Path field start (first ++ node :: last) stop)
    (distinct : ((start :: first) ++ node :: last).Nodup) :
    Path (Function.update (Function.update field (first.getLastD start) (some (last.headD stop)))
      node none) start (first ++ last) stop := by
  obtain ⟨early, late, apart⟩ := List.nodup_append.mp distinct
  obtain ⟨toNode, fromNode⟩ := path_append_cons.mp path
  have before : first.getLastD start ∈ start :: first := List.getLastD_mem_cons
  have led : Path (Function.update (Function.update field (first.getLastD start)
      (some (last.headD stop))) node none) start first (last.headD stop) :=
    (toNode.redirect early (last.headD stop)).congr fun other member =>
      Function.update_of_ne (apart other member node List.mem_cons_self) ..
  cases last with
  | nil =>
    rw [List.append_nil]
    exact led
  | cons next last =>
    refine path_append_cons.mpr ⟨led, fromNode.2.congr fun other member => ?_⟩
    have elsewhere : other ≠ node := fun same => (List.nodup_cons.mp late).1 (same ▸ member)
    rw [Function.update_of_ne elsewhere,
      Function.update_of_ne (apart _ before other (List.mem_cons_of_mem node member)).symm]

/-- A path into which a node is put. -/
theorem Path.enter (path : Path field start (first ++ last) stop)
    (distinct : ((start :: first) ++ last).Nodup) (fresh : node ∉ (start :: first) ++ last) :
    Path (Function.update (Function.update field (first.getLastD start) (some node))
      node (some (last.headD stop))) start (first ++ node :: last) stop := by
  obtain ⟨early, -, apart⟩ := List.nodup_append.mp distinct
  have before : first.getLastD start ∈ start :: first := List.getLastD_mem_cons
  have led (goal : Node) (toGoal : Path field start first goal) :
      Path (Function.update (Function.update field (first.getLastD start) (some node))
        node (some (last.headD stop))) start first node :=
    (toGoal.redirect early node).congr fun other member => Function.update_of_ne
      (show other ≠ node from fun same => fresh (same ▸ List.mem_append_left last member)) ..
  refine path_append_cons.mpr ?_
  cases last with
  | nil =>
    rw [List.append_nil] at path
    exact ⟨led _ path, Function.update_self ..⟩
  | cons next last =>
    obtain ⟨toNext, fromNext⟩ := path_append_cons.mp path
    refine ⟨led _ toNext, Function.update_self .., fromNext.congr fun other member => ?_⟩
    have elsewhere : other ≠ node := fun same =>
      fresh (same ▸ List.mem_append_right (start :: first) member)
    rw [Function.update_of_ne elsewhere, Function.update_of_ne (apart _ before other member).symm]

end

/-! ### Operations -/

section

variable {Node : Type} [DecidableEq Node]

/-- One node is made to follow another. -/
def Links.join (before after : Node) (links : Links Node) : Links Node where
  next := Function.update links.next before (some after)
  prev := Function.update links.prev after (some before)

/-- A node is taken out from between its neighbours, and its links become null. There is no result
if a null pointer would be followed. -/
def Links.detach (node : Node) (links : Links Node) : Option (Links Node) :=
  match links.prev node, links.next node with
  | some before, some after =>
    some ⟨Function.update (links.join before after).next node none,
      Function.update (links.join before after).prev node none⟩
  | _, _ => none

/-- A node is put between two others. -/
def Links.insert (node before after : Node) (links : Links Node) : Links Node :=
  (links.join before node).join node after

/-- A node is put behind another one. -/
def Links.addAfter (place node : Node) (links : Links Node) : Option (Links Node) :=
  (links.next place).map fun after => links.insert node place after

/-- A node is put before another one. -/
def Links.addBefore (place node : Node) (links : Links Node) : Option (Links Node) :=
  (links.prev place).map fun before => links.insert node before place

/-- The links differ at most at some nodes. -/
def Links.AgreeOutside (nodes : List Node) (links changed : Links Node) : Prop :=
  ∀ other ∉ nodes, changed.next other = links.next other ∧ changed.prev other = links.prev other

end

/-! ### Rings -/

/-- The links lead from the head through the nodes and back, in both directions. -/
structure Ring {Node : Type} (links : Links Node) (head : Node) (nodes : List Node) : Prop where
  distinct : (head :: nodes).Nodup
  forward : Path links.next head nodes head
  backward : Path links.prev head nodes.reverse head

section

variable {Node : Type} {links changed : Links Node} {head node : Node}
  {nodes first last : List Node}

theorem getLastD_reverse (nodes : List Node) (default : Node) :
    nodes.reverse.getLastD default = nodes.headD default := by
  rw [List.getLastD_eq_getLast?, List.getLast?_reverse, List.headD_eq_head?_getD]

theorem headD_reverse (nodes : List Node) (default : Node) :
    nodes.reverse.headD default = nodes.getLastD default := by
  rw [List.headD_eq_head?_getD, List.head?_reverse, List.getLastD_eq_getLast?]

theorem Ring.next_head (ring : Ring links head nodes) :
    links.next head = some (nodes.headD head) :=
  ring.forward.start_eq

theorem Ring.prev_head (ring : Ring links head nodes) :
    links.prev head = some (nodes.getLastD head) :=
  ring.backward.start_eq.trans (congrArg some (headD_reverse nodes head))

theorem Ring.next_node (ring : Ring links head (first ++ node :: last)) :
    links.next node = some (last.headD head) :=
  (path_append_cons.mp ring.forward).2.start_eq

theorem Ring.backward_append (ring : Ring links head (first ++ node :: last)) :
    Path links.prev head (last.reverse ++ node :: first.reverse) head := by
  have backward := ring.backward
  rwa [List.reverse_append, List.reverse_cons, List.append_assoc] at backward

theorem Ring.prev_node (ring : Ring links head (first ++ node :: last)) :
    links.prev node = some (first.getLastD head) :=
  (path_append_cons.mp ring.backward_append).2.start_eq.trans
    (congrArg some (headD_reverse first head))

/-- What is done elsewhere leaves a ring alone. -/
theorem Ring.of_agree {nodes changes : List Node} (ring : Ring links head nodes)
    (agree : links.AgreeOutside changes changed) (apart : ∀ node ∈ head :: nodes, node ∉ changes) :
    Ring changed head nodes where
  distinct := ring.distinct
  forward := ring.forward.congr fun node member => (agree node (apart node member)).1
  backward := ring.backward.congr fun node member => (agree node (apart node (by
    rwa [List.mem_cons, List.mem_reverse, ← List.mem_cons] at member))).2

/-- The nodes in the other direction. -/
theorem Ring.distinct_reverse (ring : Ring links head nodes) : (head :: nodes.reverse).Nodup :=
  ((List.reverse_perm nodes).cons head).nodup_iff.mpr ring.distinct

theorem headD_mem (first last : List Node) (head : Node) :
    last.headD head ∈ head :: (first ++ last) := by
  cases last with
  | nil => exact List.mem_cons_self
  | cons node last => exact List.mem_cons_of_mem _ (List.mem_append_right _ List.mem_cons_self)

theorem getLastD_mem (first last : List Node) (head : Node) :
    first.getLastD head ∈ head :: (first ++ last) :=
  List.mem_append_left last (show _ ∈ head :: first from List.getLastD_mem_cons)

/-- Every node of a ring ends the part of it up to there; that of the head is empty. -/
theorem exists_parts_after {place : Node} (member : place ∈ head :: nodes) :
    ∃ first last, nodes = first ++ last ∧ first.getLastD head = place := by
  obtain rfl | member := List.mem_cons.mp member
  · exact ⟨[], nodes, rfl, rfl⟩
  · obtain ⟨first, last, rfl⟩ := List.append_of_mem member
    exact ⟨first ++ [place], last, by rw [List.append_assoc]; rfl, List.getLastD_concat ..⟩

/-- Every node of a ring starts the part of it from there on; that of the head is empty. -/
theorem exists_parts_before {place : Node} (member : place ∈ head :: nodes) :
    ∃ first last, nodes = first ++ last ∧ last.headD head = place := by
  obtain rfl | member := List.mem_cons.mp member
  · exact ⟨nodes, [], (List.append_nil nodes).symm, rfl⟩
  · obtain ⟨first, last, rfl⟩ := List.append_of_mem member
    exact ⟨first, place :: last, rfl, rfl⟩

/-- The link behind the first nodes of a ring. -/
theorem Ring.next_between (ring : Ring links head (first ++ last)) :
    links.next (first.getLastD head) = some (last.headD head) := by
  induction first using List.reverseRecOn with
  | nil => exact ring.next_head
  | append_singleton first node _ =>
    rw [List.append_assoc] at ring
    rw [List.getLastD_concat]
    exact ring.next_node

/-- The link before the last nodes of a ring. -/
theorem Ring.prev_between (ring : Ring links head (first ++ last)) :
    links.prev (last.headD head) = some (first.getLastD head) := by
  cases last with
  | nil =>
    rw [List.append_nil] at ring
    exact ring.prev_head
  | cons node last => exact ring.prev_node

/-- A ring has no nodes if the head follows itself. -/
theorem Ring.next_head_eq_iff (ring : Ring links head nodes) :
    links.next head = some head ↔ nodes = [] := by
  rw [ring.next_head, Option.some_inj]
  constructor
  · intro same
    cases nodes with
    | nil => rfl
    | cons node nodes =>
      exact absurd (List.mem_cons.mpr (.inl same.symm)) (List.nodup_cons.mp ring.distinct).1
  · rintro rfl
    rfl

/-- A ring without nodes. -/
theorem ring_nil (next : links.next head = some head) (prev : links.prev head = some head) :
    Ring links head [] :=
  ⟨List.nodup_singleton head, next, prev⟩

variable [DecidableEq Node]

/-- A node is taken out of the ring it is in. -/
theorem Ring.detach (ring : Ring links head (first ++ node :: last)) :
    ∃ changed, links.detach node = some changed ∧ Ring changed head (first ++ last) ∧
      changed.next node = none ∧ changed.prev node = none ∧
      links.AgreeOutside (head :: (first ++ node :: last)) changed := by
  have shorter : (first ++ last).Sublist (first ++ node :: last) :=
    (List.sublist_cons_self node last).append_left first
  refine ⟨_, by rw [Links.detach, ring.prev_node, ring.next_node], ⟨?_, ?_, ?_⟩,
    Function.update_self .., Function.update_self .., fun other outside => ?_⟩
  · exact ring.distinct.sublist (shorter.cons_cons head)
  · exact ring.forward.leave ring.distinct
  · have distinct := ring.distinct_reverse
    rw [List.reverse_append, List.reverse_cons, List.append_assoc] at distinct
    have led := ring.backward_append.leave distinct
    rw [getLastD_reverse, headD_reverse] at led
    rw [List.reverse_append]
    exact led
  · have self : other ≠ node := fun same => outside (by simp [same])
    have notBefore : other ≠ first.getLastD head :=
      fun same => outside (same ▸ getLastD_mem first _ head)
    have notAfter : other ≠ last.headD head :=
      fun same => outside (same ▸ (shorter.cons_cons head).subset (headD_mem first last head))
    exact ⟨(Function.update_of_ne self ..).trans (Function.update_of_ne notBefore ..),
      (Function.update_of_ne self ..).trans (Function.update_of_ne notAfter ..)⟩

/-- A node is put into a ring. -/
theorem Ring.insert (ring : Ring links head (first ++ last))
    (fresh : node ∉ head :: (first ++ last)) :
    Ring (links.insert node (first.getLastD head) (last.headD head)) head (first ++ node :: last) ∧
      links.AgreeOutside (head :: (first ++ node :: last))
        (links.insert node (first.getLastD head) (last.headD head)) := by
  have longer : (first ++ last).Sublist (first ++ node :: last) :=
    (List.sublist_cons_self node last).append_left first
  have after : node ≠ last.headD head := fun same => fresh (same ▸ headD_mem first last head)
  refine ⟨⟨?_, ?_, ?_⟩, fun other outside => ?_⟩
  · have perm : (head :: (first ++ node :: last)).Perm (node :: head :: (first ++ last)) :=
      (List.perm_middle.cons head).trans (List.Perm.swap node head _)
    exact perm.nodup_iff.mpr (List.nodup_cons.mpr ⟨fresh, ring.distinct⟩)
  · exact ring.forward.enter ring.distinct fresh
  · have distinct := ring.distinct_reverse
    have backward := ring.backward
    rw [List.reverse_append] at distinct backward
    have entered := backward.enter distinct
      (show node ∉ (head :: last.reverse) ++ first.reverse by
        rwa [List.cons_append, ← List.reverse_append, List.mem_cons, List.mem_reverse,
          ← List.mem_cons])
    rw [getLastD_reverse, headD_reverse, Function.update_comm after.symm] at entered
    rw [List.reverse_append, List.reverse_cons, List.append_assoc]
    exact entered
  · have self : other ≠ node := fun same => outside (by simp [same])
    have notBefore : other ≠ first.getLastD head :=
      fun same => outside (same ▸ getLastD_mem first _ head)
    have notAfter : other ≠ last.headD head :=
      fun same => outside (same ▸ (longer.cons_cons head).subset (headD_mem first last head))
    exact ⟨(Function.update_of_ne self ..).trans (Function.update_of_ne notBefore ..),
      (Function.update_of_ne notAfter ..).trans (Function.update_of_ne self ..)⟩

end

end Rings
