/-
This file asks whether the topology of the dashboard is consistent however its requests interleave.

A request looks at the topology, waits for commands, and then writes. Meanwhile others may have
written: a node may be gone when a link to it is entered, a node may be deleted under a link that
was entered after its links were listed, and the removal of a node may give up half way. A step is
uncontested if none of this happens in it. Apart from the addresses of nodes that are being
removed, a step leaves the topology consistent exactly if it is uncontested. So the topology is
consistent whenever no request is in progress, if every step of the run was uncontested.
-/

import Aodvd.TopologyWrites

namespace Aodvd.Dashboard

/-! ### Requests in progress -/

/-- The node that a task removes. -/
def Task.removing : Task → Option (List Char)
  | .unlinking ns _ _ => some ns
  | .deleting ns => some ns
  | _ => none

/-- The link that a task is about to enter. -/
def Task.wired : Task → Option Wire
  | .wiring src dst index _ => some (newWire src dst index)
  | _ => none

/-- A task neither removes a node nor enters a link. -/
def Task.Quiet (task : Task) : Prop := task.removing = none ∧ task.wired = none

/-- A task does not depend on what it has looked at. -/
def Task.Free : Task → Prop
  | .detaching _ | .toggling _ _ _ | .cleaning _ => True
  | .configuring _ _ | .restoring _ _ | .commanding _ _ _ | .reporting => True
  | _ => False

/-- A node is being removed. -/
def Removing (tasks : List Task) (ns : List Char) : Prop :=
  ∃ task ∈ tasks, task.removing = some ns

instance (tasks : List Task) (ns : List Char) : Decidable (Removing tasks ns) :=
  inferInstanceAs (Decidable (∃ task ∈ tasks, _))

/-- The addresses of a node, if there is such a node, are those of its links. -/
def Exact (ns : List Char) (topology : Topology) : Prop :=
  ∀ node ∈ topology.nodes, node.name = ns → node.ips = addressesOf ns topology.wires

instance (ns : List Char) (topology : Topology) : Decidable (Exact ns topology) :=
  inferInstanceAs (Decidable (∀ node ∈ topology.nodes, _))

/-- What a task is about to write goes with what the others have written since it looked. A node is
entered or deleted while no link ends at it. A link is entered between nodes. The removal of a node
finds its next link, or nothing of it has been removed, or another removal goes on. -/
def Uncontested (others : List Task) (task : Task) (reply : Reply) (topology : Topology) : Prop :=
  match task with
  | .listing ns => nsExists ns reply = true → touching ns topology = [] ∨ Removing others ns
  | .raising ns => touching ns topology = [] ∨ Removing others ns
  | .unlinking ns wire _ =>
    topology.hasLink wire = true ∨ Exact ns topology ∨ Removing others ns
  | .deleting ns => touching ns topology = []
  | .wiring src dst _ 0 => topology.hasNode src = true ∧ topology.hasNode dst = true
  | _ => True

instance (others : List Task) (reply : Reply) (topology : Topology) :
    ∀ task, Decidable (Uncontested others task reply topology)
  | .listing ns => inferInstanceAs
    (Decidable (nsExists ns reply = true → touching ns topology = [] ∨ Removing others ns))
  | .raising ns => inferInstanceAs (Decidable (touching ns topology = [] ∨ Removing others ns))
  | .unlinking ns wire _ => inferInstanceAs
    (Decidable (topology.hasLink wire = true ∨ Exact ns topology ∨ Removing others ns))
  | .deleting ns => inferInstanceAs (Decidable (touching ns topology = []))
  | .wiring src dst _ 0 => inferInstanceAs
    (Decidable (topology.hasNode src = true ∧ topology.hasNode dst = true))
  | .wiring _ _ _ (_ + 1) => .isTrue trivial
  | .adding _ => .isTrue trivial
  | .detaching _ => .isTrue trivial
  | .toggling _ _ _ => .isTrue trivial
  | .cleaning _ => .isTrue trivial
  | .configuring _ _ => .isTrue trivial
  | .restoring _ _ => .isTrue trivial
  | .commanding _ _ _ => .isTrue trivial
  | .reporting => .isTrue trivial

/-- The topology is consistent but for the nodes that are being removed. -/
structure Sound (topology : Topology) (tasks : List Task) : Prop where
  ends : ∀ wire ∈ topology.wires,
    topology.hasNode wire.src = true ∧ topology.hasNode wire.dst = true
  ips : ∀ node ∈ topology.nodes,
    Removing tasks node.name ∨ node.ips = addressesOf node.name topology.wires

/-- The links, and those that are about to be entered. -/
def drawn (topology : Topology) (tasks : List Task) : List Wire :=
  topology.wires ++ tasks.filterMap Task.wired

/-- A link has been given a number below the counter. -/
def Made (counter : Nat) (wire : Wire) : Prop :=
  ∃ src dst index, wire = newWire src dst index ∧ src ≠ dst ∧ index < counter

/-- Links have different numbers, and the removal of a node is about links that end at it. -/
structure Issued (topology : Topology) (tasks : List Task) : Prop where
  made : ∀ wire ∈ drawn topology tasks, Made topology.linkCounter wire
  apart : (drawn topology tasks).Pairwise Apart
  touches : ∀ ns wire rest, .unlinking ns wire rest ∈ tasks →
    ∀ other ∈ wire :: rest, other.src = ns ∨ other.dst = ns

/-! ### Removals in progress -/

section

variable {topology : Topology} {tasks others : List Task} {task : Task} {ns : List Char}

theorem removing_cons :
    Removing (task :: tasks) ns ↔ task.removing = some ns ∨ Removing tasks ns := by
  simp only [Removing, List.mem_cons, exists_eq_or_imp]

theorem removing_cons_of_none (idle : task.removing = none) :
    Removing (task :: tasks) ns ↔ Removing tasks ns := by
  rw [removing_cons, idle]
  exact or_iff_right nofun

/-- A topology is sound by the nodes that are being removed. -/
theorem Sound.congr (sound : Sound topology tasks)
    (same : ∀ node ∈ topology.nodes, Removing tasks node.name → Removing others node.name) :
    Sound topology others :=
  ⟨sound.ends, fun node member => (sound.ips node member).imp_left (same node member)⟩

theorem sound_unordered : Cooperation.Unordered Sound := by
  intro topology tasks others order sound
  refine sound.congr fun node _ => ?_
  rintro ⟨task, member, removes⟩
  exact ⟨task, order.mem_iff.mp member, removes⟩

theorem Task.Free.quiet (free : task.Free) : task.Quiet := by
  cases task with
  | listing | adding | raising | unlinking | deleting | wiring => exact free.elim
  | _ => exact ⟨rfl, rfl⟩

theorem free_startChores (enabled : Bool) (chores : List Chore) :
    (startChores enabled chores).Free :=
  startChores_cases enabled chores (fun _ _ => trivial) (fun _ _ => trivial) trivial

theorem removing_unlinkNext (ns : List Char) (wires : List Wire) :
    (unlinkNext ns wires).removing = some ns := by
  cases wires with
  | nil => rfl
  | cons wire rest => rfl

/-! ### One write -/

/-- A task runs on and neither writes nor begins or ends a removal. -/
theorem sound_idle (next : Option Task) (idle : task.removing = none)
    (quiet : ∀ after ∈ next, after.removing = none) (sound : Sound topology (task :: others)) :
    Sound topology (next.toList ++ others) := by
  refine sound.congr fun node _ removes => ?_
  rw [removing_cons_of_none idle] at removes
  cases next with
  | none => exact removes
  | some after => exact (removing_cons_of_none (quiet after rfl)).mpr removes

theorem sound_addNodeEnd (idle : task.removing = none) (sound : Sound topology (task :: others)) :
    Sound (addNodeEnd ns topology).1 ((addNodeEnd ns topology).2.toList ++ others) ↔
      touching ns topology = [] ∨ Removing others ns := by
  show Sound (topology.setNode ns) (.reporting :: others) ↔ _
  constructor
  · intro kept
    rcases kept.ips ⟨ns, []⟩ (mem_setNode.mpr (.inl rfl)) with removes | ips
    · exact .inr ((removing_cons_of_none rfl).mp removes)
    · rw [setNode_wires] at ips
      exact .inl (addressesOf_eq_nil_iff.mp ips.symm)
  · intro free
    refine ⟨fun wire member => ?_, fun node member => ?_⟩
    · rw [setNode_wires] at member
      exact (sound.ends wire member).imp hasNode_setNode hasNode_setNode
    · rw [setNode_wires, removing_cons_of_none rfl]
      rcases mem_setNode.mp member with rfl | ⟨old, _⟩
      · rcases free with none | removes
        · exact .inr (addressesOf_eq_nil_iff.mpr none).symm
        · exact .inl removes
      · exact (sound.ips node old).imp_left (removing_cons_of_none idle).mp

theorem sound_removeNodeEnd (sound : Sound topology (.deleting ns :: others)) :
    Sound (removeNodeEnd ns topology).1 ((removeNodeEnd ns topology).2.toList ++ others) ↔
      touching ns topology = [] := by
  -- the task spoke for this node only
  have spoken : ∀ name ≠ ns, Removing (.deleting ns :: others) name → Removing others name := by
    intro name other removes
    exact (removing_cons.mp removes).resolve_left fun same => other (Option.some.inj same).symm
  unfold removeNodeEnd
  by_cases there : topology.hasNode ns = true
  · rw [if_pos there]
    show Sound (topology.delNode ns) (.reporting :: others) ↔ _
    constructor
    · intro kept
      refine touching_eq_nil_iff.mpr fun wire member => ?_
      exact ⟨(hasNode_delNode.mp (kept.ends wire member).1).2,
        (hasNode_delNode.mp (kept.ends wire member).2).2⟩
    · intro free
      refine ⟨fun wire member => ?_, fun node member => ?_⟩
      · have apart := touching_eq_nil_iff.mp free wire member
        exact ⟨hasNode_delNode.mpr ⟨(sound.ends wire member).1, apart.1⟩,
          hasNode_delNode.mpr ⟨(sound.ends wire member).2, apart.2⟩⟩
      · obtain ⟨old, other⟩ := mem_delNode.mp member
        rw [removing_cons_of_none rfl]
        exact (sound.ips node old).imp_left (spoken node.name other)
  · rw [if_neg there]
    refine iff_of_true (sound.congr fun node member => spoken node.name ?_)
      (touching_eq_nil_iff.mpr fun wire member => ⟨?_, ?_⟩)
    · exact fun named => there (hasNode_iff.mpr ⟨node, member, named⟩)
    · exact fun named => there (named ▸ (sound.ends wire member).1)
    · exact fun named => there (named ▸ (sound.ends wire member).2)

theorem sound_toggleLinkEnd {wire : Wire} {up : Bool} (idle : task.removing = none)
    (sound : Sound topology (task :: others)) :
    Sound (toggleLinkEnd wire up topology).1
      ((toggleLinkEnd wire up topology).2.toList ++ others) := by
  have kept := sound_idle (toggleLinkEnd wire up topology).2 idle
    (fun _ started => Option.some.inj started ▸ (free_startChores _ _).quiet.1) sound
  refine ⟨fun other member => kept.ends other ?_, fun node member => ?_⟩
  · exact flipLink_wires ▸ member
  · show _ ∨ node.ips = addressesOf node.name (topology.flipLink wire).wires
    rw [flipLink_wires]
    exact kept.ips node member

/-- A link goes, and the address that it had at one end. At its other end a node is being
removed. -/
theorem sound_removeNodeLoop_release {wire : Wire} {other ip : List Char}
    (apart : topology.wires.Pairwise Apart) (member : wire ∈ topology.wires)
    (ips : wire.ipsAt other = [ip])
    (elsewhere : ∀ name, name ≠ ns → name ≠ other → wire.src ≠ name ∧ wire.dst ≠ name)
    (sound : Sound topology tasks) (kept : ∀ name, Removing tasks name → Removing others name)
    (removes : Removing others ns) :
    Sound ((topology.removeLink wire).mapIps other (withoutIp ip)) others := by
  refine ⟨fun left found => ?_, fun node found => ?_⟩
  · have old : left ∈ topology.wires := List.mem_of_mem_erase (removeLink_wires ▸ found)
    rw [hasNode_mapIps, hasNode_mapIps]
    exact sound.ends left old
  · obtain ⟨old, present, name, changed⟩ := mem_mapIps.mp found
    show _ ∨ _ = addressesOf node.name (topology.removeLink wire).wires
    rw [name, changed, removeLink_wires]
    by_cases own : old.name = ns
    · exact .inl (own ▸ removes)
    rcases sound.ips old present with gone | exact
    · exact .inl (kept old.name gone)
    right
    by_cases named : old.name = other
    · rw [if_pos named, exact, named, addressesOf_erase apart member ips]
    · have far := elsewhere old.name own named
      rw [if_neg named, exact, addressesOf_erase_of_ne far.1 far.2]

theorem sound_removeNodeLoop {wire : Wire} {rest : List Wire}
    (apart : topology.wires.Pairwise Apart)
    (loopless : ∀ other ∈ topology.wires, other.src ≠ other.dst)
    (touches : wire.src = ns ∨ wire.dst = ns)
    (sound : Sound topology (.unlinking ns wire rest :: others)) :
    Sound (removeNodeLoop ns wire rest topology).1
        ((removeNodeLoop ns wire rest topology).2.toList ++ others) ↔
      topology.hasLink wire = true ∨ Exact ns topology ∨ Removing others ns := by
  unfold removeNodeLoop
  by_cases there : topology.hasLink wire = true
  · rw [if_pos there]
    refine iff_of_true ?_ (.inl there)
    have member := hasLink_iff.mp there
    have removes : Removing (unlinkNext ns rest :: others) ns :=
      removing_cons.mpr (.inl (removing_unlinkNext ns rest))
    have kept : ∀ name, Removing (.unlinking ns wire rest :: others) name →
        Removing (unlinkNext ns rest :: others) name := by
      intro name gone
      rw [removing_cons, removing_unlinkNext]
      exact removing_cons.mp gone
    by_cases source : wire.src = ns
    · simp only [if_pos source]
      refine sound_removeNodeLoop_release apart member (ipsAt_dst (loopless wire member)) ?_
        sound kept removes
      exact fun name own other => ⟨fun same => own (same.symm.trans source), other.symm⟩
    · have target := touches.resolve_left source
      simp only [if_neg source]
      refine sound_removeNodeLoop_release apart member (ipsAt_src (loopless wire member)) ?_
        sound kept removes
      exact fun name own other => ⟨other.symm, fun same => own (same.symm.trans target)⟩
  · rw [if_neg there]
    constructor
    · intro left
      by_cases removes : Removing others ns
      · exact .inr (.inr removes)
      refine .inr (.inl fun node member named => ?_)
      rw [← named]
      exact (left.ips node member).resolve_left fun gone => removes (named ▸ gone)
    · intro spared
      have spared := spared.resolve_left there
      refine ⟨sound.ends, fun node member => ?_⟩
      by_cases named : node.name = ns
      · rcases spared with exact | removes
        · exact .inr (named ▸ exact node member named)
        · exact .inl (named ▸ removes)
      · refine (sound.ips node member).imp_left fun gone => ?_
        exact (removing_cons.mp gone).resolve_left fun same =>
          named (Option.some.inj same).symm

theorem sound_removeLinkEnd {wire : Wire} (idle : task.removing = none)
    (apart : topology.wires.Pairwise Apart)
    (loopless : ∀ other ∈ topology.wires, other.src ≠ other.dst)
    (sound : Sound topology (task :: others)) :
    Sound (removeLinkEnd wire topology).1
      ((removeLinkEnd wire topology).2.toList ++ others) := by
  unfold removeLinkEnd
  by_cases there : topology.hasLink wire = true
  · rw [if_pos there]
    have member := hasLink_iff.mp there
    have differ := loopless wire member
    refine ⟨fun left found => ?_, fun node found => ?_⟩
    · have old : left ∈ topology.wires := List.mem_of_mem_erase (removeLink_wires ▸ found)
      rw [hasNode_mapIps, hasNode_mapIps, hasNode_mapIps, hasNode_mapIps]
      exact sound.ends left old
    · obtain ⟨middle, present, name, changed⟩ := mem_mapIps.mp found
      obtain ⟨old, member', same, before⟩ := mem_mapIps.mp present
      show Removing (.reporting :: others) node.name ∨
        _ = addressesOf node.name (topology.removeLink wire).wires
      rw [removing_cons_of_none rfl, name, changed, same, before, removeLink_wires]
      refine (sound.ips old member').imp (removing_cons_of_none idle).mp fun exact => ?_
      rw [exact]
      by_cases source : old.name = wire.src
      · rw [if_neg fun target => differ (source.symm.trans target), if_pos source, source,
          addressesOf_erase apart member (ipsAt_src differ)]
      · rw [if_neg source]
        by_cases target : old.name = wire.dst
        · rw [if_pos target, target, addressesOf_erase apart member (ipsAt_dst differ)]
        · rw [if_neg target, addressesOf_erase_of_ne (Ne.symm source) (Ne.symm target)]
  · rw [if_neg there]
    exact sound_idle none idle nofun sound

theorem sound_addLinkEnd {wire : Wire} (idle : task.removing = none)
    (loopless : wire.src ≠ wire.dst) (sound : Sound topology (task :: others)) :
    Sound (addLinkEnd wire topology).1 ((addLinkEnd wire topology).2.toList ++ others) ↔
      topology.hasNode wire.src = true ∧ topology.hasNode wire.dst = true := by
  have last : wire ∈ (topology.appendLink wire).wires := by
    rw [appendLink_wires]
    exact List.mem_append_right _ (List.mem_singleton_self wire)
  by_cases source : topology.hasNode wire.src = true
  · by_cases target : topology.hasNode wire.dst = true
    · rw [addLinkEnd_of_ends source target]
      refine iff_of_true ⟨fun left found => ?_, fun node found => ?_⟩ ⟨source, target⟩
      · simp only [hasNode_mapIps, hasNode_appendLink]
        rcases List.mem_append.mp (appendLink_wires ▸ found) with old | new
        · exact sound.ends left old
        · rw [List.mem_singleton.mp new]
          exact ⟨source, target⟩
      · obtain ⟨middle, present, name, changed⟩ := mem_mapIps.mp found
        obtain ⟨old, member, same, before⟩ := mem_mapIps.mp present
        show Removing (_ :: others) node.name ∨
          _ = addressesOf node.name (topology.appendLink wire).wires
        rw [removing_cons_of_none (free_startChores _ _).quiet.1, name, changed, same, before,
          appendLink_wires]
        refine (sound.ips old member).imp (removing_cons_of_none idle).mp fun exact => ?_
        have entered : addressesOf old.name (topology.wires ++ [wire]) =
            addressesOf old.name topology.wires ++ wire.ipsAt old.name := by
          unfold addressesOf
          rw [List.flatMap_append, List.flatMap_singleton]
        rw [exact, entered]
        by_cases start : old.name = wire.src
        · rw [if_neg fun other => loopless (start.symm.trans other), if_pos start, start,
            ipsAt_src loopless]
        · rw [if_neg start]
          by_cases stop : old.name = wire.dst
          · rw [if_pos stop, stop, ipsAt_dst loopless]
          · rw [if_neg stop, ipsAt_of_ne (Ne.symm start) (Ne.symm stop), List.append_nil]
    · rw [addLinkEnd_of_not_dst source target]
      refine iff_of_false (fun kept => target ?_) fun both => target both.2
      have found := (kept.ends wire last).2
      rw [hasNode_mapIps] at found
      exact found
  · rw [addLinkEnd_of_not_src source]
    exact iff_of_false (fun kept => source (kept.ends wire last).1) fun both => source both.1

end

/-! ### One step -/

section

variable {topology : Topology} {tasks others : List Task} {task : Task}

theorem Issued.apart_wires (issued : Issued topology tasks) : topology.wires.Pairwise Apart :=
  (List.pairwise_append.mp issued.apart).1

theorem Made.loopless {counter : Nat} {wire : Wire} (made : Made counter wire) :
    wire.src ≠ wire.dst := by
  obtain ⟨src, dst, index, rfl, different, _⟩ := made
  exact different

theorem Issued.loopless (issued : Issued topology tasks) :
    ∀ wire ∈ topology.wires, wire.src ≠ wire.dst :=
  fun wire member => (issued.made wire (List.mem_append_left _ member)).loopless

theorem issued_unordered : Cooperation.Unordered Issued := by
  intro topology tasks others order issued
  have same : (drawn topology tasks).Perm (drawn topology others) :=
    (order.filterMap Task.wired).append_left _
  exact ⟨fun wire member => issued.made wire (same.mem_iff.mpr member),
    (same.pairwise_iff Apart.symm).mp issued.apart,
    fun ns wire rest member => issued.touches ns wire rest (order.mem_iff.mpr member)⟩

/-- Links and numbers go, and none comes. -/
theorem Issued.fewer {later : Topology} {after : List Task} (issued : Issued topology tasks)
    (fewer : (drawn later after).Subperm (drawn topology tasks))
    (counter : topology.linkCounter ≤ later.linkCounter)
    (touches : ∀ ns wire rest, .unlinking ns wire rest ∈ after →
      ∀ other ∈ wire :: rest, other.src = ns ∨ other.dst = ns) : Issued later after where
  made wire member := by
    obtain ⟨src, dst, index, same, different, below⟩ := issued.made wire (fewer.subset member)
    exact ⟨src, dst, index, same, different, Nat.lt_of_lt_of_le below counter⟩
  apart := by
    obtain ⟨middle, order, part⟩ := fewer
    exact (order.pairwise_iff Apart.symm).mp (issued.apart.sublist part)
  touches := touches

theorem filterMap_wired_toList (next : Option Task) :
    next.toList.filterMap Task.wired = (next.bind Task.wired).toList := by
  cases next with
  | none => rfl
  | some task =>
    show [task].filterMap Task.wired = task.wired.toList
    cases found : task.wired with
    | none => exact List.filterMap_cons_none found
    | some wire => exact List.filterMap_cons_some found

/-- A task runs on. Its link may have been entered, and others may have gone. -/
theorem Issued.resumed {later : Topology} {next : Option Task}
    (issued : Issued topology (task :: others))
    (fewer : (later.wires ++ (next.bind Task.wired).toList).Subperm
      (topology.wires ++ task.wired.toList))
    (counter : later.linkCounter = topology.linkCounter)
    (touches : ∀ ns wire rest, next = some (.unlinking ns wire rest) →
      ∀ other ∈ wire :: rest, other.src = ns ∨ other.dst = ns) :
    Issued later (next.toList ++ others) := by
  refine issued.fewer ?_ (Nat.le_of_eq counter.symm) ?_
  · have before : drawn topology (task :: others) =
        (topology.wires ++ task.wired.toList) ++ others.filterMap Task.wired := by
      show topology.wires ++ ((some task).toList ++ others).filterMap Task.wired = _
      rw [List.filterMap_append, filterMap_wired_toList, List.append_assoc]
      rfl
    have after : drawn later (next.toList ++ others) =
        (later.wires ++ (next.bind Task.wired).toList) ++ others.filterMap Task.wired := by
      unfold drawn
      rw [List.filterMap_append, filterMap_wired_toList, List.append_assoc]
    rw [before, after]
    exact (List.subperm_append_right _).mpr fewer
  · intro ns wire rest member
    rcases List.mem_append.mp member with new | old
    · exact touches ns wire rest (Option.mem_toList.mp new)
    · exact issued.touches ns wire rest (List.mem_cons_of_mem _ old)

/-- A task runs on, and from then on it neither enters a link nor removes a node. -/
theorem Issued.quiet {later : Topology} {next : Option Task}
    (issued : Issued topology (task :: others)) (fewer : later.wires.Subperm topology.wires)
    (counter : later.linkCounter = topology.linkCounter)
    (quiet : ∀ after ∈ next, after.Quiet) : Issued later (next.toList ++ others) := by
  refine issued.resumed ?_ counter ?_
  · have none : next.bind Task.wired = none :=
      Option.bind_eq_none_iff.mpr fun after found => (quiet after found).2
    rw [none, Option.toList_none, List.append_nil]
    exact List.Subperm.trans fewer (List.sublist_append_left _ _).subperm
  · rintro ns wire rest rfl
    exact nomatch (quiet _ rfl).1

theorem setNode_linkCounter {ns : List Char} :
    (topology.setNode ns).linkCounter = topology.linkCounter := by
  unfold Topology.setNode
  split <;> rfl

theorem issued_addNodeEnd {ns : List Char} (issued : Issued topology (task :: others)) :
    Issued (addNodeEnd ns topology).1 ((addNodeEnd ns topology).2.toList ++ others) := by
  refine issued.quiet ?_ setNode_linkCounter ?_
  · show (topology.setNode ns).wires.Subperm topology.wires
    rw [setNode_wires]
  · rintro _ ⟨⟩
    exact ⟨rfl, rfl⟩

theorem removeLink_subperm {wire : Wire} :
    (topology.removeLink wire).wires.Subperm topology.wires := by
  rw [removeLink_wires]
  exact List.erase_sublist.subperm

theorem issued_removeNodeLoop {ns : List Char} {wire : Wire} {rest : List Wire}
    (issued : Issued topology (.unlinking ns wire rest :: others)) :
    Issued (removeNodeLoop ns wire rest topology).1
      ((removeNodeLoop ns wire rest topology).2.toList ++ others) := by
  have touches := issued.touches ns wire rest List.mem_cons_self
  unfold removeNodeLoop
  split
  · have none : (some (unlinkNext ns rest)).bind Task.wired = none := by
      cases rest with
      | nil => rfl
      | cons next rest => rfl
    refine issued.resumed ?_ rfl ?_
    · rw [none, Option.toList_none, List.append_nil]
      exact List.Subperm.trans removeLink_subperm (List.sublist_append_left _ _).subperm
    · intro name next more same other member
      cases rest with
      | nil => exact nomatch same
      | cons first rest =>
        obtain ⟨rfl, rfl, rfl⟩ := Task.unlinking.inj (Option.some.inj same)
        exact touches other (List.mem_cons_of_mem _ member)
  · exact issued.quiet (List.Subperm.refl _) rfl nofun

theorem issued_removeNodeEnd {ns : List Char} (issued : Issued topology (task :: others)) :
    Issued (removeNodeEnd ns topology).1 ((removeNodeEnd ns topology).2.toList ++ others) := by
  unfold removeNodeEnd
  split
  · exact issued.quiet (List.Subperm.refl _) rfl fun _ found => Option.some.inj found ▸ ⟨rfl, rfl⟩
  · exact issued.quiet (List.Subperm.refl _) rfl nofun

theorem issued_removeLinkEnd {wire : Wire} (issued : Issued topology (task :: others)) :
    Issued (removeLinkEnd wire topology).1 ((removeLinkEnd wire topology).2.toList ++ others) := by
  unfold removeLinkEnd
  split
  · exact issued.quiet removeLink_subperm rfl fun _ found => Option.some.inj found ▸ ⟨rfl, rfl⟩
  · exact issued.quiet (List.Subperm.refl _) rfl nofun

theorem issued_addLinkEnd {src dst : List Char} {index : Nat}
    (issued : Issued topology (.wiring src dst index 0 :: others)) :
    Issued (addLinkEnd (newWire src dst index) topology).1
      ((addLinkEnd (newWire src dst index) topology).2.toList ++ others) := by
  have moved : ∀ next : Option Task, next.bind Task.wired = none →
      ((topology.appendLink (newWire src dst index)).wires ++
        (next.bind Task.wired).toList).Subperm
        (topology.wires ++ (Task.wiring src dst index 0).wired.toList) := by
    intro next none
    rw [none, appendLink_wires, Option.toList_none, List.append_nil]
    exact List.Subperm.refl _
  by_cases source : topology.hasNode (newWire src dst index).src = true
  · by_cases target : topology.hasNode (newWire src dst index).dst = true
    · rw [addLinkEnd_of_ends source target]
      have quiet := (free_startChores topology.nfqueueEnabled (if topology.nfqueueEnabled then
        [.configure (newWire src dst index).src, .configure (newWire src dst index).dst]
        else [])).quiet
      refine issued.resumed (moved _ quiet.2) rfl ?_
      intro ns wire rest same
      rw [Option.some.inj same] at quiet
      exact nomatch quiet.1
    · rw [addLinkEnd_of_not_dst source target]
      exact issued.resumed (moved none rfl) rfl nofun
  · rw [addLinkEnd_of_not_src source]
    exact issued.resumed (moved none rfl) rfl nofun

/-- What a task does when it runs on. -/
inductive Proceeds (reply : Reply) (topology : Topology) : Task → Topology → Option Task → Prop
  /-- It ends, or goes on with what does not depend on the topology. -/
  | idle {task : Task} {next : Option Task} (still : task.removing = none)
      (calm : ∀ others, Uncontested others task reply topology)
      (free : ∀ after ∈ next, after.Free) : Proceeds reply topology task topology next
  /-- The node is not known to the system. -/
  | create (ns : List Char) (unlisted : ¬ nsExists ns reply = true) :
    Proceeds reply topology (.listing ns) topology (some (.adding ns))
  | raise (ns : List Char) : Proceeds reply topology (.adding ns) topology (some (.raising ns))
  | enter (ns : List Char) {task : Task}
      (ends : task = .listing ns ∧ nsExists ns reply = true ∨ task = .raising ns) :
    Proceeds reply topology task (addNodeEnd ns topology).1 (addNodeEnd ns topology).2
  | unlink (ns : List Char) (wire : Wire) (rest : List Wire) :
    Proceeds reply topology (.unlinking ns wire rest) (removeNodeLoop ns wire rest topology).1
      (removeNodeLoop ns wire rest topology).2
  | delete (ns : List Char) : Proceeds reply topology (.deleting ns) (removeNodeEnd ns topology).1
      (removeNodeEnd ns topology).2
  /-- Another command of `_create_veth_link` has returned. -/
  | wait (src dst : List Char) (index left : Nat) :
    Proceeds reply topology (.wiring src dst index (left + 1)) topology
      (some (.wiring src dst index left))
  | wire (src dst : List Char) (index : Nat) :
    Proceeds reply topology (.wiring src dst index 0)
      (addLinkEnd (newWire src dst index) topology).1
      (addLinkEnd (newWire src dst index) topology).2
  | detach (wire : Wire) : Proceeds reply topology (.detaching wire) (removeLinkEnd wire topology).1
      (removeLinkEnd wire topology).2
  | toggle (wire : Wire) (up : Bool) :
    Proceeds reply topology (.toggling wire up 0) (toggleLinkEnd wire up topology).1
      (toggleLinkEnd wire up topology).2
  | clear : Proceeds reply topology (.cleaning []) (cleanupEnd topology).1 (cleanupEnd topology).2

theorem proceeds_resume (table : PythonText.DigitTable) (task : Task) (reply : Reply)
    (topology : Topology) :
    Proceeds reply topology task (resume table task reply topology).1
      (resume table task reply topology).2 := by
  have on {task after : Task} (still : task.removing = none)
      (calm : ∀ others, Uncontested others task reply topology) (free : after.Free) :
      Proceeds reply topology task topology (some after) :=
    .idle still calm fun _ found => Option.some.inj found ▸ free
  have calm (others : List Task) : True := trivial
  cases task with
  | listing ns =>
    rw [resume_listing]
    split
    · next listed => exact .enter ns (.inl ⟨rfl, listed⟩)
    · next unlisted => exact .create ns unlisted
  | adding ns =>
    rw [resume_adding]
    dsimp only
    split
    · exact .idle rfl calm nofun
    · exact .raise ns
  | raising ns => exact .enter ns (.inr rfl)
  | unlinking ns wire rest => exact .unlink ns wire rest
  | deleting ns => exact .delete ns
  | wiring src dst index left =>
    cases left with
    | zero =>
      rw [resume_wiring_zero]
      exact .wire src dst index
    | succ left =>
      rw [resume_wiring_succ]
      dsimp only
      split
      · exact .idle rfl calm nofun
      · exact .wait src dst index left
  | detaching wire => exact .detach wire
  | toggling wire up left =>
    cases left with
    | zero => exact .toggle wire up
    | succ left => exact on rfl calm trivial
  | cleaning rest =>
    cases rest with
    | nil => exact .clear
    | cons _ rest => exact on rfl calm trivial
  | configuring ns later => exact on rfl calm trivial
  | restoring ns later =>
    refine on rfl calm ?_
    split
    · exact free_startChores _ _
    · trivial
  | commanding ns left later =>
    cases left with
    | zero => exact on rfl calm (free_startChores _ _)
    | succ left => exact on rfl calm trivial
  | reporting => exact .idle rfl calm nofun

variable {reply : Reply} {later : Topology} {next : Option Task}

theorem Proceeds.issued (proceeds : Proceeds reply topology task later next)
    (issued : Issued topology (task :: others)) : Issued later (next.toList ++ others) := by
  have same := List.Subperm.refl topology.wires
  cases proceeds with
  | idle _ _ free => exact issued.quiet same rfl fun after found => (free after found).quiet
  | create ns => exact issued.quiet same rfl fun _ found => Option.some.inj found ▸ ⟨rfl, rfl⟩
  | raise ns => exact issued.quiet same rfl fun _ found => Option.some.inj found ▸ ⟨rfl, rfl⟩
  | enter ns => exact issued_addNodeEnd issued
  | unlink ns wire rest => exact issued_removeNodeLoop issued
  | delete ns => exact issued_removeNodeEnd issued
  | wait src dst index left => exact issued.resumed (List.Subperm.refl _) rfl nofun
  | wire src dst index => exact issued_addLinkEnd issued
  | detach wire => exact issued_removeLinkEnd issued
  | toggle wire up =>
    refine issued.quiet ?_ rfl fun _ found => Option.some.inj found ▸ (free_startChores _ _).quiet
    show (topology.flipLink wire).wires.Subperm topology.wires
    rw [flipLink_wires]
  | clear => exact issued.quiet List.nil_subperm rfl fun _ found => Option.some.inj found ▸ ⟨rfl, rfl⟩

/-- A resumption is sound exactly if it is uncontested. -/
theorem Proceeds.sound_iff (proceeds : Proceeds reply topology task later next)
    (issued : Issued topology (task :: others)) (sound : Sound topology (task :: others)) :
    Sound later (next.toList ++ others) ↔ Uncontested others task reply topology := by
  cases proceeds with
  | idle still calm free =>
    refine iff_of_true (sound_idle _ still (fun after found => ?_) sound) (calm others)
    exact (free after found).quiet.1
  | create ns unlisted =>
    refine iff_of_true ?_ fun listed => absurd listed unlisted
    exact sound_idle _ rfl (fun _ found => Option.some.inj found ▸ rfl) sound
  | raise ns =>
    exact iff_of_true (sound_idle _ rfl (fun _ found => Option.some.inj found ▸ rfl) sound) trivial
  | enter ns ends =>
    rcases ends with ⟨rfl, listed⟩ | rfl
    · exact (sound_addNodeEnd rfl sound).trans ⟨fun free _ => free, fun free => free listed⟩
    · exact sound_addNodeEnd rfl sound
  | unlink ns wire rest =>
    exact sound_removeNodeLoop issued.apart_wires issued.loopless
      (issued.touches ns wire rest List.mem_cons_self wire List.mem_cons_self) sound
  | delete ns => exact sound_removeNodeEnd sound
  | wait src dst index left =>
    exact iff_of_true (sound_idle _ rfl (fun _ found => Option.some.inj found ▸ rfl) sound) trivial
  | wire src dst index =>
    have made := issued.made (newWire src dst index) (List.mem_append_right _
      (List.mem_filterMap.mpr ⟨_, List.mem_cons_self, rfl⟩))
    exact sound_addLinkEnd rfl made.loopless sound
  | detach wire =>
    exact iff_of_true (sound_removeLinkEnd rfl issued.apart_wires issued.loopless sound) trivial
  | toggle wire up => exact iff_of_true (sound_toggleLinkEnd rfl sound) trivial
  | clear => exact iff_of_true ⟨nofun, nofun⟩ trivial

/-! ### Requests that come -/

/-- What a request does up to its first command. -/
inductive Begins (topology : Topology) : Topology → Option Task → Prop
  /-- It ends, or goes on with what does not depend on the topology. -/
  | idle {next : Option Task} (free : ∀ task ∈ next, task.Free) : Begins topology topology next
  /-- It looks for a node that is new to the topology. -/
  | adds (ns : List Char) (missing : topology.hasNode ns = false) :
    Begins topology topology (some (.listing ns))
  /-- It lists the links of a node and begins to remove them. -/
  | removes (ns : List Char) :
    Begins topology topology (some (unlinkNext ns (touching ns topology)))
  /-- It draws the number of a link. -/
  | draws {src dst : List Char} (different : src ≠ dst)
      (ends : topology.hasNode src = true ∧ topology.hasNode dst = true) : Begins topology
      { topology with linkCounter := topology.linkCounter + 1 }
      (some (.wiring src dst topology.linkCounter 6))
  /-- It clears a topology without nodes. -/
  | clears : Begins topology { topology with nodes := [], links := [] } (some .reporting)

theorem begins_start (request : Request) (topology : Topology) :
    Begins topology (start request topology).1 (start request topology).2 := by
  have on {after : Task} (free : after.Free) : Begins topology topology (some after) :=
    .idle fun _ found => Option.some.inj found ▸ free
  cases request with
  | addNode name =>
    unfold start
    dsimp only
    split
    · exact .idle nofun
    · split
      · exact .idle nofun
      · next free => exact .adds _ (Bool.eq_false_iff.mpr free)
  | removeNode ns =>
    unfold start
    dsimp only
    split
    · exact .removes ns
    · exact .idle nofun
  | addLink src dst =>
    unfold start addLink
    dsimp only
    split
    · exact .idle nofun
    · next checked =>
      simp only [not_or, Bool.not_eq_false] at checked
      exact .draws checked.2.2.1 checked.2.2.2
  | removeLink linkId =>
    unfold start
    dsimp only
    split
    · exact .idle nofun
    · exact on trivial
  | toggleLink linkId =>
    unfold start
    dsimp only
    split
    · exact .idle nofun
    · exact on trivial
  | cleanup =>
    unfold start
    dsimp only
    split
    · exact .clears
    · exact on trivial

/-- A request that comes is like one that has only to report. -/
theorem Issued.reporting (issued : Issued topology tasks) :
    Issued topology (.reporting :: tasks) := by
  refine ⟨issued.made, issued.apart, fun ns wire rest member => ?_⟩
  exact issued.touches ns wire rest ((List.mem_cons.mp member).resolve_left nofun)

theorem Made.apart {counter : Nat} {wire : Wire} (made : Made counter wire)
    {src dst : List Char} : Apart wire (newWire src dst counter) := by
  obtain ⟨_, _, index, rfl, _, below⟩ := made
  exact apart_newWire (Nat.ne_of_lt below)

theorem Issued.draws {src dst : List Char} (different : src ≠ dst)
    (issued : Issued topology tasks) :
    Issued { topology with linkCounter := topology.linkCounter + 1 }
      (.wiring src dst topology.linkCounter 6 :: tasks) := by
  have order : (drawn { topology with linkCounter := topology.linkCounter + 1 }
      (.wiring src dst topology.linkCounter 6 :: tasks)).Perm
      (newWire src dst topology.linkCounter :: drawn topology tasks) := List.perm_middle
  refine ⟨fun wire member => ?_, ?_, fun ns wire rest member => ?_⟩
  · rcases List.mem_cons.mp (order.mem_iff.mp member) with rfl | old
    · exact ⟨src, dst, _, rfl, different, Nat.lt_succ_self _⟩
    · obtain ⟨src, dst, index, same, different, below⟩ := issued.made wire old
      exact ⟨src, dst, index, same, different, Nat.lt_succ_of_lt below⟩
  · refine (order.pairwise_iff Apart.symm).mpr (List.pairwise_cons.mpr ⟨?_, issued.apart⟩)
    exact fun wire old => (issued.made wire old).apart.symm
  · exact issued.touches ns wire rest ((List.mem_cons.mp member).resolve_left nofun)

theorem Begins.issued (begins : Begins topology later next) (issued : Issued topology tasks) :
    Issued later (next.toList ++ tasks) := by
  cases begins with
  | idle free =>
    exact issued.reporting.quiet (List.Subperm.refl _) rfl fun after found => (free after found).quiet
  | adds ns =>
    exact issued.reporting.quiet (List.Subperm.refl _) rfl fun _ found =>
      Option.some.inj found ▸ ⟨rfl, rfl⟩
  | removes ns =>
    refine issued.reporting.resumed ?_ rfl fun name wire rest same other member => ?_
    · have none : (some (unlinkNext ns (touching ns topology))).bind Task.wired = none := by
        cases touching ns topology with
        | nil => rfl
        | cons wire rest => rfl
      rw [none]
      exact List.Subperm.refl _
    · cases listed : touching ns topology with
      | nil =>
        rw [listed] at same
        exact nomatch same
      | cons first others =>
        rw [listed] at same
        obtain ⟨rfl, rfl, rfl⟩ := Task.unlinking.inj (Option.some.inj same)
        exact (mem_touching.mp (listed ▸ member)).2
  | draws different => exact issued.draws different
  | clears =>
    exact issued.reporting.quiet List.nil_subperm rfl fun _ found =>
      Option.some.inj found ▸ ⟨rfl, rfl⟩

theorem Begins.sound (begins : Begins topology later next) (sound : Sound topology tasks) :
    Sound later (next.toList ++ tasks) := by
  have kept : Sound topology (next.toList ++ tasks) := by
    refine sound.congr fun node _ => ?_
    rintro ⟨task, member, removes⟩
    exact ⟨task, List.mem_append_right _ member, removes⟩
  cases begins with
  | idle _ => exact kept
  | adds ns => exact kept
  | removes ns => exact kept
  | draws _ => exact ⟨kept.ends, kept.ips⟩
  | clears => exact ⟨nofun, nofun⟩

end

/-! ### Runs -/

section

variable (table : PythonText.DigitTable)

theorem issued_step (pool : Pool) (input : Input) (issued : Issued pool.shared pool.tasks) :
    Issued (step table pool input).shared (step table pool input).tasks :=
  Cooperation.step_keeps issued_unordered
    (fun request topology _ => (begins_start request topology).issued)
    (fun _ _ reply _ => (proceeds_resume table _ reply _).issued) issued input

theorem sound_step_iff (pool : Pool) (input : Input) (issued : Issued pool.shared pool.tasks)
    (sound : Sound pool.shared pool.tasks) :
    Sound (step table pool input).shared (step table pool input).tasks ↔
      Cooperation.Resumes Uncontested pool input :=
  Cooperation.step_exact issued_unordered sound_unordered
    (fun request topology _ _ => (begins_start request topology).sound)
    (fun _ _ reply _ => (proceeds_resume table _ reply _).sound_iff) issued sound input

theorem issued_initial (nfqueueEnabled : Bool) :
    Issued (initial nfqueueEnabled).shared (initial nfqueueEnabled).tasks :=
  ⟨nofun, List.Pairwise.nil, nofun⟩

theorem sound_initial (nfqueueEnabled : Bool) :
    Sound (initial nfqueueEnabled).shared (initial nfqueueEnabled).tasks :=
  ⟨nofun, nofun⟩

theorem issued_run (nfqueueEnabled : Bool) (inputs : List Input) :
    Issued (run table nfqueueEnabled inputs).shared (run table nfqueueEnabled inputs).tasks :=
  Runs.invariant_of_step (fun pool : Pool => Issued pool.shared pool.tasks) (issued_step table)
    (issued_initial nfqueueEnabled) inputs

/-- The topology is sound throughout a run exactly if every step was uncontested. -/
theorem sound_run_iff (nfqueueEnabled : Bool) (inputs : List Input) :
    (∀ count, Sound (run table nfqueueEnabled (inputs.take count)).shared
        (run table nfqueueEnabled (inputs.take count)).tasks) ↔
      Runs.Meets (step table) (Cooperation.Resumes Uncontested) (initial nfqueueEnabled) inputs :=
  Runs.forall_take_iff (fun pool : Pool => Issued pool.shared pool.tasks)
    (fun pool : Pool => Sound pool.shared pool.tasks) (issued_step table) (sound_step_iff table)
    (issued_initial nfqueueEnabled) (sound_initial nfqueueEnabled) inputs

theorem Sound.consistent {topology : Topology} (sound : Sound topology [])
    (issued : Issued topology []) : Consistent topology where
  ends := sound.ends
  ids := List.pairwise_map.mpr (issued.apart_wires.imp Apart.id)
  ips node member := (sound.ips node member).resolve_left nofun

theorem consistent_run (nfqueueEnabled : Bool) {inputs : List Input}
    (sound : Sound (run table nfqueueEnabled inputs).shared (run table nfqueueEnabled inputs).tasks)
    (idle : (run table nfqueueEnabled inputs).tasks = []) :
    Consistent (run table nfqueueEnabled inputs).shared := by
  have issued := issued_run table nfqueueEnabled inputs
  rw [idle] at sound issued
  exact sound.consistent issued

/-- In a run whose steps are all uncontested, the topology is consistent whenever no request is in
progress. -/
theorem consistent_of_uncontested (nfqueueEnabled : Bool) (inputs : List Input)
    (uncontested : Runs.Meets (step table) (Cooperation.Resumes Uncontested)
      (initial nfqueueEnabled) inputs)
    (count : Nat) (idle : (run table nfqueueEnabled (inputs.take count)).tasks = []) :
    Consistent (run table nfqueueEnabled (inputs.take count)).shared := by
  have sound := (sound_run_iff table nfqueueEnabled inputs).mpr uncontested count
  exact consistent_run table nfqueueEnabled sound idle

end

/-- The task at a position is answered by a command that succeeds and prints nothing. -/
def succeeds (position : Nat) : Input := .reply position ⟨[], 0⟩

/-- A request alone: it comes, and as many commands of it succeed. -/
def alone (request : Request) (commands : Nat) : List Input :=
  .request request :: List.replicate commands (succeeds 0)

/-- Three nodes in a row. -/
def threeNodes : List Input :=
  alone (.addNode (some "ns-A".toList)) 4 ++ alone (.addNode (some "ns-B".toList)) 4 ++
    alone (.addNode (some "ns-C".toList)) 4 ++
    alone (.addLink "ns-A".toList "ns-B".toList) 8 ++
    alone (.addLink "ns-B".toList "ns-C".toList) 8

/-- A node is removed twice at the same time; the second removal does not find the link. -/
def removedTwice : List Input :=
  threeNodes ++ [.request (.removeNode "ns-A".toList), .request (.removeNode "ns-A".toList)] ++
    [succeeds 0, succeeds 1, succeeds 0, succeeds 0]

theorem consistent_of_uncontested_removedTwice :
    Runs.Meets (step PythonText.asciiTable) (Cooperation.Resumes Uncontested) (initial false)
        removedTwice ∧
      (run PythonText.asciiTable false (removedTwice.take 39)).tasks = [] ∧
      (run PythonText.asciiTable false (removedTwice.take 39)).shared.links.length = 1 ∧
      Consistent (run PythonText.asciiTable false (removedTwice.take 39)).shared :=
  ⟨by decide +kernel, by decide +kernel, by decide +kernel,
    consistent_of_uncontested PythonText.asciiTable false removedTwice (by decide +kernel) 39
      (by decide +kernel)⟩

/-- A node is removed while a link to it is being made: its namespace already has the interface,
but the link is not in the list yet. -/
def removedMeanwhile : List Input :=
  alone (.addNode (some "ns-A".toList)) 4 ++ alone (.addNode (some "ns-B".toList)) 4 ++
    alone (.addLink "ns-A".toList "ns-B".toList) 3 ++
    [.request (.removeNode "ns-B".toList), succeeds 1, succeeds 1] ++
    List.replicate 4 (succeeds 0)

/-- The link is entered after its node has gone. -/
theorem inconsistent_removedMeanwhile :
    (run PythonText.asciiTable false removedMeanwhile).tasks = [] ∧
      ¬ Consistent (run PythonText.asciiTable false removedMeanwhile).shared := by
  decide +kernel

end Aodvd.Dashboard
