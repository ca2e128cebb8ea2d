/-
This file says what the requests of the dashboard write, in terms of the links without their states.

A write is described by the nodes and links that are there after it. As no two links share an
address, to filter the address of a link out of the addresses of a node is to leave the link out of
its links.
-/

import Aodvd.LinkNames

namespace Aodvd.Dashboard

/-! ### Consistency -/

/-- The links without their states. -/
def Topology.wires (topology : Topology) : List Wire := topology.links.map Link.toWire

/-- The addresses that a link has at a node. -/
def Wire.ipsAt (ns : List Char) (wire : Wire) : List (List Char) :=
  (if wire.src = ns then [wire.ipSrc] else []) ++ (if wire.dst = ns then [wire.ipDst] else [])

/-- The addresses of the links that end at a node, in the order of the links. -/
def addressesOf (ns : List Char) (wires : List Wire) : List (List Char) :=
  wires.flatMap (Wire.ipsAt ns)

/-- Links end at nodes, their ids are distinct, and a node has the addresses of its links. -/
structure Consistent (topology : Topology) : Prop where
  ends : ∀ wire ∈ topology.wires,
    topology.hasNode wire.src = true ∧ topology.hasNode wire.dst = true
  ids : (topology.wires.map Wire.id).Nodup
  ips : ∀ node ∈ topology.nodes, node.ips = addressesOf node.name topology.wires

instance (topology : Topology) : Decidable (Consistent topology) :=
  decidable_of_iff ((∀ wire ∈ topology.wires,
      topology.hasNode wire.src = true ∧ topology.hasNode wire.dst = true) ∧
    (topology.wires.map Wire.id).Nodup ∧
    ∀ node ∈ topology.nodes, node.ips = addressesOf node.name topology.wires)
  ⟨fun all => ⟨all.1, all.2.1, all.2.2⟩, fun all => ⟨all.ends, all.ids, all.ips⟩⟩

/-! ### What the writes do -/

section

variable {topology : Topology} {ns other : List Char} {wire : Wire} {node : Node}

theorem hasNode_iff : topology.hasNode ns = true ↔ ∃ node ∈ topology.nodes, node.name = ns := by
  simp only [Topology.hasNode, List.any_eq_true, decide_eq_true_eq]

theorem hasLink_iff : topology.hasLink wire = true ↔ wire ∈ topology.wires := by
  simp only [Topology.hasLink, Topology.wires, List.any_eq_true, decide_eq_true_eq, List.mem_map]

theorem mem_touching : wire ∈ touching ns topology ↔
    wire ∈ topology.wires ∧ (wire.src = ns ∨ wire.dst = ns) := by
  simp only [touching, Topology.wires, List.mem_filter, decide_eq_true_eq]

theorem touching_eq_nil_iff : touching ns topology = [] ↔
    ∀ wire ∈ topology.wires, wire.src ≠ ns ∧ wire.dst ≠ ns := by
  rw [List.eq_nil_iff_forall_not_mem]
  simp only [mem_touching, not_and, not_or]

theorem mem_setNode : node ∈ (topology.setNode ns).nodes ↔
    node = ⟨ns, []⟩ ∨ node ∈ topology.nodes ∧ node.name ≠ ns := by
  unfold Topology.setNode
  by_cases there : topology.hasNode ns = true
  · rw [if_pos there]
    simp only [List.mem_map]
    constructor
    · rintro ⟨old, member, rfl⟩
      by_cases named : old.name = ns
      · exact .inl (if_pos named)
      · rw [if_neg named]
        exact .inr ⟨member, named⟩
    · rintro (rfl | ⟨member, named⟩)
      · obtain ⟨old, member, named⟩ := hasNode_iff.mp there
        exact ⟨old, member, if_pos named⟩
      · exact ⟨node, member, if_neg named⟩
  · rw [if_neg there]
    simp only [List.mem_append, List.mem_singleton]
    rw [or_comm, and_iff_left_of_imp]
    intro member named
    exact there (hasNode_iff.mpr ⟨node, member, named⟩)

theorem setNode_wires : (topology.setNode ns).wires = topology.wires := by
  unfold Topology.setNode
  split <;> rfl

theorem hasNode_setNode (there : topology.hasNode other = true) :
    (topology.setNode ns).hasNode other = true := by
  obtain ⟨node, member, rfl⟩ := hasNode_iff.mp there
  by_cases named : node.name = ns
  · exact hasNode_iff.mpr ⟨⟨ns, []⟩, mem_setNode.mpr (.inl rfl), named.symm⟩
  · exact hasNode_iff.mpr ⟨node, mem_setNode.mpr (.inr ⟨member, named⟩), rfl⟩

theorem mem_delNode : node ∈ (topology.delNode ns).nodes ↔
    node ∈ topology.nodes ∧ node.name ≠ ns := by
  simp only [Topology.delNode, List.mem_filter, decide_eq_true_eq]

theorem hasNode_delNode : (topology.delNode ns).hasNode other = true ↔
    topology.hasNode other = true ∧ other ≠ ns := by
  simp only [hasNode_iff, mem_delNode]
  constructor
  · rintro ⟨node, ⟨member, named⟩, rfl⟩
    exact ⟨⟨node, member, rfl⟩, named⟩
  · rintro ⟨⟨node, member, rfl⟩, named⟩
    exact ⟨node, ⟨member, named⟩, rfl⟩

theorem mem_mapIps {change : List (List Char) → List (List Char)} :
    node ∈ (topology.mapIps ns change).nodes ↔ ∃ old ∈ topology.nodes, node.name = old.name ∧
      node.ips = if old.name = ns then change old.ips else old.ips := by
  simp only [Topology.mapIps, List.mem_map]
  refine exists_congr fun old => and_congr_right fun _ => ?_
  rw [eq_comm, Node.ext_iff]
  by_cases named : old.name = ns
  · rw [if_pos named, if_pos named]
  · rw [if_neg named, if_neg named]

theorem hasNode_mapIps {change : List (List Char) → List (List Char)} :
    (topology.mapIps ns change).hasNode other = topology.hasNode other := by
  unfold Topology.hasNode Topology.mapIps
  rw [List.any_map]
  refine congrArg (topology.nodes.any ·) (funext fun node => ?_)
  show decide ((if node.name = ns then { node with ips := change node.ips } else node).name =
    other) = decide (node.name = other)
  split <;> rfl

theorem hasNode_appendLink : (topology.appendLink wire).hasNode other = topology.hasNode other :=
  rfl

theorem appendLink_wires : (topology.appendLink wire).wires = topology.wires ++ [wire] :=
  List.map_append

theorem removeLink_wires : (topology.removeLink wire).wires = topology.wires.erase wire := by
  unfold Topology.removeLink Topology.wires
  rw [List.erase_eq_eraseP, List.eraseP_map]
  refine congrArg (fun accepts => (topology.links.eraseP accepts).map Link.toWire) ?_
  funext link
  exact decide_eq_decide.mpr eq_comm

theorem flipLink_wires : (topology.flipLink wire).wires = topology.wires := by
  unfold Topology.flipLink Topology.wires
  rw [List.map_map]
  refine congrArg (topology.links.map ·) (funext fun link => ?_)
  show (if link.toWire = wire then { link with up := !link.up } else link).toWire = link.toWire
  split <;> rfl

end

/-! ### Addresses -/

section

variable {topology : Topology} {ns ip : List Char} {wire : Wire} {wires : List Wire}

theorem ipsAt_src (loopless : wire.src ≠ wire.dst) : wire.ipsAt wire.src = [wire.ipSrc] := by
  unfold Wire.ipsAt
  rw [if_pos rfl, if_neg loopless.symm, List.append_nil]

theorem ipsAt_dst (loopless : wire.src ≠ wire.dst) : wire.ipsAt wire.dst = [wire.ipDst] := by
  unfold Wire.ipsAt
  rw [if_neg loopless, if_pos rfl, List.nil_append]

theorem ipsAt_of_ne (source : wire.src ≠ ns) (target : wire.dst ≠ ns) : wire.ipsAt ns = [] := by
  unfold Wire.ipsAt
  rw [if_neg source, if_neg target, List.nil_append]

theorem ipsAt_eq_nil_iff : wire.ipsAt ns = [] ↔ wire.src ≠ ns ∧ wire.dst ≠ ns := by
  unfold Wire.ipsAt
  rw [List.append_eq_nil_iff, ite_eq_right_iff, ite_eq_right_iff]
  exact and_congr (imp_congr_right fun _ => iff_of_false (List.cons_ne_nil _ _) id)
    (imp_congr_right fun _ => iff_of_false (List.cons_ne_nil _ _) id)

theorem mem_of_mem_ipsAt (found : ip ∈ wire.ipsAt ns) : ip ∈ [wire.ipSrc, wire.ipDst] := by
  unfold Wire.ipsAt at found
  rcases List.mem_append.mp found with source | target
  · split at source
    · exact List.mem_pair.mpr (.inl (List.mem_singleton.mp source))
    · exact nomatch source
  · split at target
    · exact List.mem_pair.mpr (.inr (List.mem_singleton.mp target))
    · exact nomatch target

theorem addressesOf_eq_nil_iff :
    addressesOf ns topology.wires = [] ↔ touching ns topology = [] := by
  unfold addressesOf
  rw [List.flatMap_eq_nil_iff, touching_eq_nil_iff]
  exact forall₂_congr fun _ _ => ipsAt_eq_nil_iff

/-- A link that is gone no longer counts. -/
theorem addressesOf_erase_of_ne (source : wire.src ≠ ns) (target : wire.dst ≠ ns) :
    addressesOf ns (wires.erase wire) = addressesOf ns wires := by
  by_cases member : wire ∈ wires
  · obtain ⟨before, after, _, rfl, erased⟩ := List.exists_erase_eq member
    unfold addressesOf
    rw [erased, List.flatMap_append, List.flatMap_append, List.flatMap_cons,
      ipsAt_of_ne source target, List.nil_append]
  · rw [List.erase_of_not_mem member]

theorem withoutIp_of_not_mem {ips : List (List Char)} (absent : ip ∉ ips) :
    withoutIp ip ips = ips := by
  refine List.filter_eq_self.mpr fun other found => decide_eq_true ?_
  rintro rfl
  exact absent found

/-- As addresses are not shared, to filter out the address of a link is to leave the link out. -/
theorem addressesOf_erase (apart : wires.Pairwise Apart) (member : wire ∈ wires)
    (ips : wire.ipsAt ns = [ip]) :
    addressesOf ns (wires.erase wire) = withoutIp ip (addressesOf ns wires) := by
  obtain ⟨before, after, _, rfl, erased⟩ := List.exists_erase_eq member
  have own : ip ∈ wire.ipsAt ns := by
    rw [ips]
    exact List.mem_singleton_self ip
  have split := List.pairwise_append.mp apart
  have early : ip ∉ before.flatMap (Wire.ipsAt ns) := by
    intro found
    obtain ⟨other, present, shared⟩ := List.mem_flatMap.mp found
    exact (split.2.2 other present wire List.mem_cons_self).ips (mem_of_mem_ipsAt shared)
      (mem_of_mem_ipsAt own)
  have late : ip ∉ after.flatMap (Wire.ipsAt ns) := by
    intro found
    obtain ⟨other, present, shared⟩ := List.mem_flatMap.mp found
    exact ((List.pairwise_cons.mp split.2.1).1 other present).ips (mem_of_mem_ipsAt own)
      (mem_of_mem_ipsAt shared)
  have gone : withoutIp ip [ip] = [] := by
    unfold withoutIp
    rw [List.filter_cons_of_neg (by simp), List.filter_nil]
  unfold addressesOf
  rw [erased, List.flatMap_append, List.flatMap_append, List.flatMap_cons, ips]
  calc before.flatMap (Wire.ipsAt ns) ++ after.flatMap (Wire.ipsAt ns)
    _ = withoutIp ip (before.flatMap (Wire.ipsAt ns)) ++
        (withoutIp ip [ip] ++ withoutIp ip (after.flatMap (Wire.ipsAt ns))) := by
      rw [withoutIp_of_not_mem early, withoutIp_of_not_mem late, gone, List.nil_append]
    _ = withoutIp ip (before.flatMap (Wire.ipsAt ns) ++
        ([ip] ++ after.flatMap (Wire.ipsAt ns))) := by
      unfold withoutIp
      rw [List.filter_append, List.filter_append]

end

/-! ### Steps of requests -/

section

variable {topology : Topology}

/-- A chore begins by listing the interfaces, or there is none left. -/
theorem startChores_cases {property : Task → Prop} (enabled : Bool) (chores : List Chore)
    (configuring : ∀ ns later, property (.configuring ns later))
    (restoring : ∀ ns later, property (.restoring ns later)) (reporting : property .reporting) :
    property (startChores enabled chores) := by
  induction chores with
  | nil => exact reporting
  | cons chore later inductionHypothesis =>
    cases chore with
    | configure ns => exact configuring ns later
    | restore ns => exact restoring ns later
    | reapply ns =>
      cases enabled with
      | true => exact configuring ns later
      | false => exact inductionHypothesis

theorem addLinkEnd_of_not_src {wire : Wire} (missing : ¬ topology.hasNode wire.src = true) :
    addLinkEnd wire topology = (topology.appendLink wire, none) :=
  if_neg missing

theorem addLinkEnd_of_not_dst {wire : Wire} (source : topology.hasNode wire.src = true)
    (missing : ¬ topology.hasNode wire.dst = true) :
    addLinkEnd wire topology =
      ((topology.appendLink wire).mapIps wire.src fun ips => ips ++ [wire.ipSrc], none) := by
  refine (if_pos source).trans (if_neg ?_)
  rw [hasNode_mapIps]
  exact missing

theorem addLinkEnd_of_ends {wire : Wire} (source : topology.hasNode wire.src = true)
    (target : topology.hasNode wire.dst = true) :
    addLinkEnd wire topology =
      (((topology.appendLink wire).mapIps wire.src fun ips => ips ++ [wire.ipSrc]).mapIps wire.dst
          fun ips => ips ++ [wire.ipDst],
        some (startChores topology.nfqueueEnabled (if topology.nfqueueEnabled then
          [.configure wire.src, .configure wire.dst] else []))) := by
  refine (if_pos source).trans (if_pos ?_)
  rw [hasNode_mapIps]
  exact target

variable (table : PythonText.DigitTable) (reply : Reply)

theorem resume_listing (ns : List Char) : resume table (.listing ns) reply topology =
    if nsExists ns reply = true then addNodeEnd ns topology else (topology, some (.adding ns)) :=
  rfl

theorem resume_adding (ns : List Char) : resume table (.adding ns) reply topology =
    (topology, if reply.returncode ≠ 0 then none else some (.raising ns)) :=
  rfl

theorem resume_wiring_zero (src dst : List Char) (index : Nat) :
    resume table (.wiring src dst index 0) reply topology =
      addLinkEnd (newWire src dst index) topology :=
  rfl

theorem resume_wiring_succ (src dst : List Char) (index left : Nat) :
    resume table (.wiring src dst index (left + 1)) reply topology =
      (topology, if 4 ≤ left + 1 ∧ reply.returncode ≠ 0 then none
        else some (.wiring src dst index left)) := by
  show (if 4 ≤ left + 1 ∧ reply.returncode ≠ 0 then (topology, none)
    else (topology, some (Task.wiring src dst index left))) = _
  split <;> rfl

end

end Aodvd.Dashboard
