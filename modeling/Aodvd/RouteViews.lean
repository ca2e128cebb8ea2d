/-
This file describes what the routing operations do to one destination.

The view of a destination is its entry in the routing table together with its routes in
the kernel. Every operation acts on views one by one: an invalidation, an update or a
deletion on the view of its own destination, and a link break on the view of every
destination, by a function of that view and of the entry of the broken link. Invariants
that speak of one destination at a time are proved on these functions.
-/

import Aodvd.TableMap

namespace Aodvd

variable {state : State} {rt : RtEntry} {broken : Addr} (dest : Addr) (config : Config)
  (offer : Offer) (other : Addr)

/-! ### Views -/

/-- The routing entry of a destination and its kernel routes by metric. -/
structure RouteView where
  entry : Option RtEntry
  routes : Nat → Option KernelRoute

def view (state : State) (dest : Addr) : RouteView := ⟨entryAt state dest, state.kernel dest⟩

theorem view_congr {first second : State} (rtTbl : second.rtTbl = first.rtTbl)
    (kernel : second.kernel = first.kernel) (dest : Addr) : view second dest = view first dest := by
  unfold view entryAt
  rw [rtTbl, kernel]

theorem Aside.view {before after : State} (aside : Aside before after) (dest : Addr) :
    Aodvd.view after dest = Aodvd.view before dest :=
  view_congr aside.rtTbl aside.kernel dest

theorem TimerActs.view {before after : State} (acts : TimerActs before after) (dest : Addr) :
    Aodvd.view after dest = Aodvd.view before dest :=
  view_congr acts.rtTbl acts.kernel dest

/-! ### Operations on a view -/

namespace RouteView

def change (change : RtEntry → RtEntry) (view : RouteView) : RouteView :=
  { view with entry := view.entry.map change }

def addRoute (metric : Nat) (route : KernelRoute) (view : RouteView) : RouteView :=
  { view with routes := fun other => if other = metric then some route else view.routes other }

def delRoute (metric : Nat) (gateway : Addr) (view : RouteView) : RouteView :=
  { view with routes := fun other =>
      if other = metric ∧ (view.routes other).map KernelRoute.gateway = some gateway then none
      else view.routes other }

/-- `rt_table_invalidate` on the view of its destination. -/
def invalidate (view : RouteView) : RouteView :=
  match view.entry with
  | none => view
  | some rt =>
    if rt.state = .valid then (view.delRoute rt.hcnt rt.nextHop).change RtEntry.invalidated else view

/-- `neighbor_link_break` on the view of a destination: the broken link is the entry of
`neighbor`, and `repair` its repair flag. -/
def cut (neighbor : Addr) (repair : Bool) (dest : Addr) (view : RouteView) : RouteView :=
  match view.entry with
  | none => view
  | some rt =>
    if dest = neighbor then
      if rt.flags.repair then view.invalidate
      else view.invalidate.change RtEntry.precursorListDestroy
    else if rt.state = .valid ∧ rt.nextHop = neighbor then
      if repair = true ∧ rt.hcnt ≤ maxRepairTtl then (view.change RtEntry.markRepair).invalidate
      else view.invalidate.change RtEntry.precursorListDestroy
    else view

end RouteView

/-! ### Elementary writes -/

theorem view_setEntry {change : RtEntry → RtEntry}
    (keepsDest : ∀ rt, (change rt).destAddr = rt.destAddr) (dest other : Addr) (state : State) :
    view (setEntry dest change state) other =
      if other = dest then (view state dest).change change else view state other := by
  unfold view
  rw [entryAt_setEntry keepsDest]
  split
  · rename_i same
    rw [same]
    rfl
  · rfl

theorem newRoute_self (kernel : KernelTable) (dest : Addr) (metric : Nat) (route : KernelRoute) :
    kernel.newRoute dest metric route dest =
      fun other => if other = metric then some route else kernel dest other := by
  funext other
  simp only [KernelTable.newRoute, true_and]

theorem newRoute_of_ne (kernel : KernelTable) {dest other : Addr} (different : other ≠ dest)
    (metric : Nat) (route : KernelRoute) : kernel.newRoute dest metric route other = kernel other := by
  funext metric
  simp only [KernelTable.newRoute, different, false_and, if_false]

theorem delRoute_self (kernel : KernelTable) (dest : Addr) (metric : Nat) (gateway : Addr) :
    kernel.delRoute dest metric gateway dest = fun other =>
      if other = metric ∧ (kernel dest other).map KernelRoute.gateway = some gateway then none
      else kernel dest other := by
  funext other
  simp only [KernelTable.delRoute, true_and]

theorem delRoute_of_ne (kernel : KernelTable) {dest other : Addr} (different : other ≠ dest)
    (metric : Nat) (gateway : Addr) : kernel.delRoute dest metric gateway other = kernel other := by
  funext metric
  simp only [KernelTable.delRoute, different, false_and, if_false]

theorem view_nlSendAddRouteMsg (nextHop : Addr) (metric ifindex : Nat) (state : State)
    (other : Addr) :
    view (nlSendAddRouteMsg dest nextHop metric ifindex state) other =
      if other = dest then (view state dest).addRoute metric ⟨nextHop, ifindex⟩
      else view state other := by
  split
  · rename_i same
    subst same
    exact congrArg (RouteView.mk _) (newRoute_self state.kernel other metric ⟨nextHop, ifindex⟩)
  · exact congrArg (RouteView.mk _) (newRoute_of_ne state.kernel ‹_› metric ⟨nextHop, ifindex⟩)

theorem view_nlSendDelRouteMsg (nextHop : Addr) (metric : Nat) (state : State) (other : Addr) :
    view (nlSendDelRouteMsg dest nextHop metric state) other =
      if other = dest then (view state dest).delRoute metric nextHop else view state other := by
  split
  · rename_i same
    subst same
    exact congrArg (RouteView.mk _) (delRoute_self state.kernel other metric nextHop)
  · exact congrArg (RouteView.mk _) (delRoute_of_ne state.kernel ‹_› metric nextHop)

/-! ### Invalidation and deletion -/

theorem view_rtTableInvalidate (dest other : Addr) (state : State) :
    view (rtTableInvalidate config dest state) other =
      if other = dest then (view state dest).invalidate else view state other := by
  by_cases active : ∃ rt, entryAt state dest = some rt ∧ rt.state = .valid
  · obtain ⟨rt, found, valid⟩ := active
    obtain ⟨timers, result⟩ := rtTableInvalidate_of_valid config found valid
    have views : view (rtTableInvalidate config dest state) other =
        view (setEntry dest RtEntry.invalidated
          (nlSendDelRouteMsg dest rt.nextHop rt.hcnt state)) other := by
      rw [result]
      rfl
    have viewFound : (view state dest).entry = some rt := found
    rw [views, view_setEntry gentle_invalidated.dest, view_nlSendDelRouteMsg,
      view_nlSendDelRouteMsg, if_pos rfl, RouteView.invalidate, viewFound]
    dsimp only
    rw [if_pos valid]
    split <;> rfl
  · have notValid : ∀ rt, entryAt state dest = some rt → rt.state ≠ .valid :=
      fun rt found valid => active ⟨rt, found, valid⟩
    rw [rtTableInvalidate_of_not_valid config notValid]
    split
    · rename_i same
      subst same
      unfold RouteView.invalidate
      split
      · rfl
      · rename_i rt found
        rw [if_neg (notValid rt found)]
    · rfl

/-- `rt_table_delete` on the view of its destination. -/
def RouteView.delete (view : RouteView) : RouteView :=
  match view.entry with
  | none => view
  | some rt =>
    if rt.state = .valid then { view.delRoute rt.hcnt rt.nextHop with entry := none }
    else { view with entry := none }

theorem view_rtTableDelete (state : State) :
    view (rtTableDelete dest state) other =
      if other = dest then (view state dest).delete else view state other := by
  cases found : entryAt state dest with
  | none =>
    have unchanged : rtTableDelete dest state = state := by
      unfold rtTableDelete
      rw [found]
    have viewFound : (view state dest).entry = none := found
    rw [unchanged, RouteView.delete, viewFound]
    split
    · rename_i same
      rw [same]
    · rfl
  | some rt =>
    have viewFound : (view state dest).entry = some rt := found
    obtain ⟨timers, result⟩ := rtTableDelete_of_some found
    have kernel : (rtTableDelete dest state).kernel =
        if rt.state = .valid then state.kernel.delRoute dest rt.hcnt rt.nextHop
        else state.kernel := by rw [result]
    rw [view, entryAt_rtTableDelete, kernel, RouteView.delete, viewFound]
    dsimp only
    by_cases same : other = dest
    · subst same
      rw [if_pos rfl, if_pos rfl]
      split
      · rw [delRoute_self]
        rfl
      · rfl
    · rw [if_neg same, if_neg same]
      split
      · rw [delRoute_of_ne _ same]
        rfl
      · rfl

/-! ### Link breaks -/

theorem view_precursorListDestroy (state : State) :
    view (precursorListDestroy dest state) other =
      if other = dest then (view state dest).change RtEntry.precursorListDestroy
      else view state other :=
  view_setEntry gentle_precursorListDestroy.dest dest other state

/-- The view of an invalidated destination whose precursors are forgotten, with messages
assembled in between. -/
theorem view_destroy_invalidate {dest : Addr} {noted : State}
    (aside : Aside (rtTableInvalidate config dest state) noted) (other : Addr) :
    view (precursorListDestroy dest noted) other =
      if other = dest then (view state dest).invalidate.change RtEntry.precursorListDestroy
      else view state other := by
  rw [view_precursorListDestroy, aside.view, aside.view, view_rtTableInvalidate,
    view_rtTableInvalidate, if_pos rfl]
  split <;> rfl

theorem view_linkBreakSelf {dest : Addr} (found : entryAt state dest = some rt) (other : Addr) :
    view (linkBreakSelf config dest state).1 other =
      if other = dest then (view state dest).cut dest rt.flags.repair dest
      else view state other := by
  have viewFound : (view state dest).entry = some rt := found
  have flags : rt.retired.flags = rt.flags := by
    unfold RtEntry.retired
    split <;> rfl
  unfold linkBreakSelf RouteView.cut
  dsimp only
  rw [entryAt_rtTableInvalidate, if_pos rfl, found, viewFound, Option.map_some]
  dsimp only
  rw [flags, if_pos rfl]
  split
  · exact view_rtTableInvalidate config dest other state
  · refine view_destroy_invalidate config ?_ other
    split
    · exact .refl _
    · exact aside_rerrInclude ..

/-- The body of the loop for a route over the broken link. -/
theorem view_linkBreakVisit_of_uses {visited : Addr} {loop : State × RerrDraft} {rtU : RtEntry}
    (found : entryAt loop.1 broken = some rt) (visitedFound : entryAt loop.1 visited = some rtU)
    (different : visited ≠ broken) (uses : rtU.state = .valid ∧ rtU.nextHop = broken)
    (other : Addr) :
    view (linkBreakVisit config broken visited loop).1 other =
      if other = visited then (view loop.1 visited).cut broken rt.flags.repair visited
      else view loop.1 other := by
  have viewFound : (view loop.1 visited).entry = some rtU := visitedFound
  unfold linkBreakVisit RouteView.cut
  rw [found, visitedFound, viewFound]
  dsimp only
  rw [entryAt_destAddr found, entryAt_destAddr visitedFound, if_pos ⟨uses.1, uses.2, different⟩,
    if_neg different, if_pos uses]
  by_cases repaired : rt.flags.repair = true ∧ rtU.hcnt ≤ maxRepairTtl
  · rw [if_pos repaired, if_pos repaired, view_rtTableInvalidate,
      view_setEntry cosmetic_markRepair.dest, view_setEntry cosmetic_markRepair.dest, if_pos rfl]
    split <;> rfl
  · rw [if_neg repaired, if_neg repaired]
    refine view_destroy_invalidate config ?_ other
    split
    · split
      · exact .refl _
      · exact aside_rerrInclude ..
    · exact .refl _

theorem RouteView.cut_of_not_uses {neighbor dest : Addr} {repair : Bool} {view : RouteView}
    (different : dest ≠ neighbor)
    (notUses : ∀ rt, view.entry = some rt → ¬ (rt.state = .valid ∧ rt.nextHop = neighbor)) :
    view.cut neighbor repair dest = view := by
  unfold RouteView.cut
  split
  · rfl
  · rename_i rt found
    rw [if_neg different, if_neg (notUses rt found)]

theorem view_linkBreakVisit (visited : Addr) {loop : State × RerrDraft}
    (found : entryAt loop.1 broken = some rt) (other : Addr) :
    view (linkBreakVisit config broken visited loop).1 other =
      if other = visited ∧ visited ≠ broken then
        (view loop.1 visited).cut broken rt.flags.repair visited
      else view loop.1 other := by
  by_cases dependent : ∃ rtU, entryAt loop.1 visited = some rtU ∧ visited ≠ broken ∧
      rtU.state = .valid ∧ rtU.nextHop = broken
  · obtain ⟨rtU, visitedFound, different, uses⟩ := dependent
    rw [view_linkBreakVisit_of_uses config found visitedFound different uses]
    by_cases same : other = visited
    · rw [if_pos same, if_pos ⟨same, different⟩]
    · rw [if_neg same, if_neg fun here => same here.1]
  · have unchanged : linkBreakVisit config broken visited loop = loop := by
      unfold linkBreakVisit
      rw [found]
      split
      · rename_i rtU first second
        obtain rfl := Option.some.inj first
        rw [entryAt_destAddr found, entryAt_destAddr second]
        refine if_neg fun uses => dependent ⟨_, second, uses.2.2, uses.1, uses.2.1⟩
      · rfl
    rw [unchanged]
    split
    · rename_i here
      obtain ⟨rfl, different⟩ := here
      refine (RouteView.cut_of_not_uses different fun rtU viewFound uses => ?_).symm
      exact dependent ⟨rtU, viewFound, different, uses⟩
    · rfl

/-- `neighbor_link_break` on the entry of a destination. -/
def RtEntry.cut (neighbor : Addr) (repair : Bool) (dest : Addr) (rt : RtEntry) : RtEntry :=
  if dest = neighbor then if rt.flags.repair then rt.retired else rt.retired.precursorListDestroy
  else if rt.state = .valid ∧ rt.nextHop = neighbor then
    if repair = true ∧ rt.hcnt ≤ maxRepairTtl then rt.markRepair.invalidated
    else rt.invalidated.precursorListDestroy
  else rt

theorem RtEntry.cut_eq_self {rt : RtEntry} {neighbor dest : Addr} (repair : Bool)
    (different : dest ≠ neighbor) (unused : ¬ (rt.state = .valid ∧ rt.nextHop = neighbor)) :
    rt.cut neighbor repair dest = rt := by
  rw [RtEntry.cut, if_neg different, if_neg unused]

theorem RouteView.invalidate_entry (view : RouteView) :
    view.invalidate.entry = view.entry.map RtEntry.retired := by
  unfold RouteView.invalidate
  split
  · rename_i found
    rw [found, Option.map_none]
  · rename_i rt found
    rw [found, Option.map_some, RtEntry.retired]
    split
    · show (view.entry.map RtEntry.invalidated) = _
      rw [found, Option.map_some]
    · exact found

theorem RouteView.cut_entry (neighbor : Addr) (repair : Bool) (dest : Addr) (view : RouteView) :
    (view.cut neighbor repair dest).entry = view.entry.map (RtEntry.cut neighbor repair dest) := by
  unfold RouteView.cut
  split
  · rename_i found
    rw [found, Option.map_none]
  · rename_i rt found
    have destroyed : (view.invalidate.change RtEntry.precursorListDestroy).entry =
        some rt.retired.precursorListDestroy := by
      rw [RouteView.change, RouteView.invalidate_entry, found, Option.map_some, Option.map_some]
    rw [found, Option.map_some, RtEntry.cut]
    split
    · split
      · rw [RouteView.invalidate_entry, found, Option.map_some]
      · exact destroyed
    · split
      · rename_i uses
        have retired : rt.retired = rt.invalidated := if_pos uses.1
        have markedRetired : rt.markRepair.retired = rt.markRepair.invalidated := if_pos uses.1
        split
        · rw [RouteView.invalidate_entry, RouteView.change, found, Option.map_some, Option.map_some,
            markedRetired]
        · rw [destroyed, retired]
      · exact found

theorem RtEntry.cut_flags_self (rt : RtEntry) (repair : Bool) (dest : Addr) :
    (rt.cut dest repair dest).flags = rt.flags := by
  unfold RtEntry.cut RtEntry.retired
  rw [if_pos rfl]
  split <;> split <;> rfl

theorem entryAt_linkBreakSelf {dest : Addr} (found : entryAt state dest = some rt) :
    entryAt (linkBreakSelf config dest state).1 dest = some (rt.cut dest rt.flags.repair dest) := by
  refine (congrArg RouteView.entry (view_linkBreakSelf config found dest)).trans ?_
  rw [if_pos rfl, RouteView.cut_entry]
  show (entryAt state dest).map _ = _
  rw [found, Option.map_some]

theorem entryAt_linkBreakSelf_of_ne {dest other : Addr} (found : entryAt state dest = some rt)
    (different : other ≠ dest) :
    entryAt (linkBreakSelf config dest state).1 other = entryAt state other := by
  refine (congrArg RouteView.entry (view_linkBreakSelf config found other)).trans ?_
  rw [if_neg different]
  rfl

/-- The loop does not visit the entry of the lost link. -/
theorem entryAt_linkBreakVisit_broken (visited : Addr) {loop : State × RerrDraft}
    (found : entryAt loop.1 broken = some rt) :
    entryAt (linkBreakVisit config broken visited loop).1 broken = some rt := by
  refine (congrArg RouteView.entry (view_linkBreakVisit config visited found broken)).trans ?_
  rw [if_neg fun here => here.2 here.1.symm]
  exact found

/-- A route cut once is not cut again. -/
theorem RouteView.cut_cut {neighbor dest : Addr} (different : dest ≠ neighbor) (repair : Bool)
    (view : RouteView) :
    (view.cut neighbor repair dest).cut neighbor repair dest = view.cut neighbor repair dest := by
  refine RouteView.cut_of_not_uses different fun rt found uses => ?_
  rw [RouteView.cut_entry] at found
  obtain ⟨old, _, rfl⟩ := Option.map_eq_some_iff.mp found
  unfold RtEntry.cut at uses
  rw [if_neg different] at uses
  split at uses
  · split at uses
    · exact RouteState.noConfusion uses.1
    · exact RouteState.noConfusion uses.1
  · exact absurd uses ‹_›

/-- The loop over the table cuts every visited route over the broken link. -/
theorem view_linkBreakLoop (broken : Addr) (visits : List Addr) (loop : State × RerrDraft)
    (found : entryAt loop.1 broken = some rt) (other : Addr) :
    view (visits.foldl (fun loop visited => linkBreakVisit config broken visited loop) loop).1 other =
      if other ∈ visits ∧ other ≠ broken then (view loop.1 other).cut broken rt.flags.repair other
      else view loop.1 other := by
  induction visits generalizing loop with
  | nil =>
    rw [if_neg fun here => absurd here.1 List.not_mem_nil]
    rfl
  | cons visited rest inductionHypothesis =>
    have visit := view_linkBreakVisit config visited found
    have stillFound := entryAt_linkBreakVisit_broken config visited found
    rw [List.foldl_cons, inductionHypothesis _ stillFound, visit other]
    by_cases self : other = broken
    · rw [if_neg fun here => here.2 self, if_neg fun here => here.2 (here.1 ▸ self),
        if_neg fun here => here.2 self]
    · by_cases same : other = visited
      · subst same
        simp only [List.mem_cons_self, ne_eq, self, not_false_eq_true, and_true, if_true,
          RouteView.cut_cut self, ite_self]
      · rw [if_neg fun here : other = visited ∧ _ => same here.1]
        simp only [List.mem_cons, same, false_or]

/-- What a link break does to every destination. -/
theorem view_neighborLinkBreak {dest : Addr} (sound : state.rtTbl.Sound)
    (found : entryAt state dest = some rt) (near : rt.hcnt = 1) (other : Addr) :
    view (neighborLinkBreak config dest state) other =
      (view state other).cut dest rt.flags.repair other := by
  have selfView := view_linkBreakSelf config found
  have selfFound := entryAt_linkBreakSelf config found
  unfold neighborLinkBreak
  rw [found]
  dsimp only
  rw [if_pos near, (aside_rerrSend ..).view, view_linkBreakLoop config dest _ _ selfFound,
    RtEntry.cut_flags_self, selfView]
  by_cases self : other = dest
  · subst self
    rw [if_neg fun here => here.2 rfl, if_pos rfl]
  · rw [if_neg self]
    split
    · rfl
    · rename_i unvisited
      refine (RouteView.cut_of_not_uses self fun rtU otherFound _ => unvisited ⟨?_, self⟩).symm
      obtain ⟨member, rfl⟩ := sound.entryAt_eq_some_iff.mp otherFound
      exact List.mem_map_of_mem member

theorem neighborLinkBreak_of_far {dest : Addr}
    (far : ∀ rt, entryAt state dest = some rt → rt.hcnt ≠ 1) :
    neighborLinkBreak config dest state = state := by
  unfold neighborLinkBreak
  split
  · rfl
  · rename_i rt found
    exact if_neg (far rt found)

/-- A link breaks only if its entry has one hop. -/
theorem neighborLinkBreak_cases (dest : Addr) (state : State) :
    neighborLinkBreak config dest state = state ∨
      ∃ rt, entryAt state dest = some rt ∧ rt.hcnt = 1 := by
  by_cases near : ∃ rt, entryAt state dest = some rt ∧ rt.hcnt = 1
  · exact .inr near
  · exact .inl (neighborLinkBreak_of_far config fun rt found hcnt => near ⟨rt, found, hcnt⟩)

/-- What a link break does to the entry of every destination. -/
theorem entryAt_neighborLinkBreak {dest : Addr} (sound : state.rtTbl.Sound)
    (found : entryAt state dest = some rt) (near : rt.hcnt = 1) (other : Addr) :
    entryAt (neighborLinkBreak config dest state) other =
      (entryAt state other).map (RtEntry.cut dest rt.flags.repair other) :=
  (congrArg RouteView.entry (view_neighborLinkBreak config sound found near other)).trans
    (RouteView.cut_entry ..)

/-- A link break neither adds nor removes entries. -/
theorem isSome_neighborLinkBreak (dest other : Addr) (sound : state.rtTbl.Sound) :
    (entryAt (neighborLinkBreak config dest state) other).isSome = (entryAt state other).isSome := by
  rcases neighborLinkBreak_cases config dest state with far | ⟨broken, found, hcnt⟩
  · rw [far]
  · rw [entryAt_neighborLinkBreak config sound found hcnt, Option.isSome_map]

/-! ### Insertion -/

/-- `rt_table_insert` on the view of its destination. -/
def RouteView.insert (offer : Offer) (view : RouteView) : RouteView :=
  if offer.state = .valid then
    { view.addRoute offer.hcnt ⟨offer.next, offer.ifindex⟩ with entry := some offer.entry }
  else { view with entry := some offer.entry }

theorem view_rtTableInsert (fresh : entryAt state offer.dest = none) (other : Addr) :
    view (rtTableInsert config offer state).1 other =
      if other = offer.dest then (view state offer.dest).insert offer else view state other := by
  obtain ⟨timers, result⟩ := insertRoute_eq config offer state
  have kernel : (rtTableInsert config offer state).1.kernel = if offer.state = .valid then
        state.kernel.newRoute offer.dest offer.hcnt ⟨offer.next, offer.ifindex⟩
      else state.kernel := by
    rw [(rtTbl_rtTableInsert config offer fresh).2, result]
  rw [view, entryAt_rtTableInsert config offer fresh, kernel]
  by_cases same : other = offer.dest
  · rw [if_pos same, if_pos same.symm, RouteView.insert, same]
    split
    · rw [newRoute_self]
      rfl
    · rfl
  · rw [if_neg same, if_neg (Ne.symm same)]
    split
    · rw [newRoute_of_ne _ same]
      rfl
    · rfl

/-! ### Update -/

/-- The update turns a neighbour into a route of several hops, which breaks a link. -/
def Offer.Breaks (offer : Offer) (rt : RtEntry) : Prop := 1 < offer.hcnt ∧ rt.hcnt = 1

instance (offer : Offer) (rt : RtEntry) : Decidable (offer.Breaks rt) :=
  inferInstanceAs (Decidable (_ ∧ _))

/-- The update sends the kernel a new route: the route comes up, or its next hop changes. -/
def Offer.Announces (offer : Offer) (rt : RtEntry) : Prop :=
  (rt.state = .invalid ∧ offer.state = .valid) ∨ (rt.nextHop ≠ 0#32 ∧ rt.nextHop ≠ offer.next)

instance (offer : Offer) (rt : RtEntry) : Decidable (offer.Announces rt) :=
  inferInstanceAs (Decidable (_ ∨ _))

/-- The kernel message at the head of `rt_table_update`. -/
def RouteView.announce (rt : RtEntry) (offer : Offer) (view : RouteView) : RouteView :=
  if offer.Announces rt then view.addRoute offer.hcnt ⟨offer.next, rt.ifindex⟩ else view

/-- `rt_table_update` on the view of its destination. -/
def RouteView.update (rt : RtEntry) (offer : Offer) (view : RouteView) : RouteView :=
  RouteView.change (RtEntry.renewed rt offer)
    (if offer.Breaks rt then
      ((view.announce rt offer).change RtEntry.forgetHellos).cut rt.destAddr rt.flags.repair
        rt.destAddr
    else view.announce rt offer)

theorem view_updateKernel (rt : RtEntry) (offer : Offer) (state : State) (other : Addr) :
    view (updateKernel rt offer state) other =
      if other = rt.destAddr then (view state rt.destAddr).announce rt offer
      else view state other := by
  have announced := view_nlSendAddRouteMsg rt.destAddr offer.next offer.hcnt rt.ifindex state other
  unfold updateKernel RouteView.announce
  by_cases revived : rt.state = .invalid ∧ offer.state = .valid
  · have announces : offer.Announces rt := .inl revived
    rw [if_pos revived, if_pos announces]
    exact announced
  · rw [if_neg revived]
    by_cases moved : rt.nextHop ≠ 0#32 ∧ rt.nextHop ≠ offer.next
    · have announces : offer.Announces rt := .inr moved
      rw [if_pos moved, if_pos announces]
      exact announced
    · have silent : ¬ offer.Announces rt := fun announces => announces.elim revived moved
      rw [if_neg moved, if_neg silent]
      split
      · rename_i same
        rw [same]
      · rfl

theorem entryAt_updateKernel (rt : RtEntry) (offer : Offer) (state : State) (dest : Addr) :
    entryAt (updateKernel rt offer state) dest = entryAt state dest := by
  unfold updateKernel
  split
  · rfl
  · split <;> rfl

theorem view_updateLinkBreak (sound : state.rtTbl.Sound)
    (found : entryAt state rt.destAddr = some rt) (other : Addr) :
    view (updateLinkBreak config rt offer state) other =
      if offer.Breaks rt then
        (if other = rt.destAddr then (view state other).change RtEntry.forgetHellos
          else view state other).cut rt.destAddr rt.flags.repair other
      else view state other := by
  by_cases breaks : offer.Breaks rt
  · have cascades : updateLinkBreak config rt offer state = neighborLinkBreak config rt.destAddr
        (removeTimer (.helloTimer rt.destAddr) (setEntry rt.destAddr RtEntry.forgetHellos state)) :=
      if_pos breaks
    rw [cascades, if_pos breaks]
    have forgotten := view_setEntry cosmetic_forgetHellos.dest rt.destAddr
    have forgottenFound : entryAt (removeTimer (.helloTimer rt.destAddr)
        (setEntry rt.destAddr RtEntry.forgetHellos state)) rt.destAddr = some rt.forgetHellos := by
      refine (entryAt_setEntry cosmetic_forgetHellos.dest rt.destAddr rt.destAddr state).trans ?_
      rw [if_pos rfl, found, Option.map_some]
    refine (view_neighborLinkBreak config ?_ forgottenFound breaks.2 other).trans ?_
    · exact sound.setEntry cosmetic_forgetHellos.toGentle rt.destAddr
    · show (view (setEntry rt.destAddr RtEntry.forgetHellos state) other).cut _ _ _ = _
      rw [forgotten other state]
      by_cases same : other = rt.destAddr
      · rw [if_pos same, if_pos same, same]
        rfl
      · rw [if_neg same, if_neg same]
        rfl
  · have untouched : updateLinkBreak config rt offer state = state := if_neg breaks
    rw [untouched, if_neg breaks]

/-- What an update does to every destination. -/
theorem view_rtTableUpdate (sound : state.rtTbl.Sound)
    (found : entryAt state offer.dest = some rt) (other : Addr) :
    view (rtTableUpdate config offer state) other =
      if other = offer.dest then (view state other).update rt offer
      else if offer.Breaks rt then (view state other).cut offer.dest rt.flags.repair other
      else view state other := by
  have dest := entryAt_destAddr found
  have kernelFound : entryAt (updateKernel rt offer state) rt.destAddr = some rt := by
    rw [entryAt_updateKernel, dest, found]
  have broken := view_updateLinkBreak config offer (sound.updateKernel rt offer) kernelFound
  have released : view (rtTableUpdate config offer state) other =
      view (updateRoute config rt offer state) other := by
    unfold rtTableUpdate
    rw [found]
    dsimp only
    split
    · exact view_congr (rtTbl_releaseBuffered ..).1 (rtTbl_releaseBuffered ..).2 other
    · rfl
  have timed : ∀ current : State, view (if (updateFlags rt offer).inetDest = true then current
      else rtTableUpdateTimeout rt.destAddr offer.life current) = view current := by
    intro current
    funext address
    split
    · rfl
    · exact (rtTableUpdateTimeout_acts ..).view address
  rw [released, updateRoute, view_setEntry (gentle_setState offer.state).dest, timed]
  show (if other = rt.destAddr then (view (setEntry _ _ _) _).change _ else view (setEntry _ _ _) _) = _
  rw [view_setEntry (gentle_adopt (updateFlags rt offer) offer).dest,
    view_setEntry (gentle_adopt (updateFlags rt offer) offer).dest, broken, broken,
    view_updateKernel, view_updateKernel, dest]
  by_cases same : other = offer.dest
  · subst same
    simp only [if_true]
    rw [RouteView.update, dest]
    split <;> simp only [RouteView.change, Option.map_map] <;> rfl
  · simp only [same, if_false]

/-- The entry of an update is the old one with the offer taken over. A neighbour that becomes a
route of several hops goes through its own link break first. -/
theorem entryAt_rtTableUpdate_eq (sound : state.rtTbl.Sound)
    (found : entryAt state offer.dest = some rt) :
    entryAt (rtTableUpdate config offer state) offer.dest =
      some (rt.renewed offer (if offer.Breaks rt then
        rt.forgetHellos.cut rt.destAddr rt.flags.repair rt.destAddr else rt)) := by
  have viewFound : (view state offer.dest).entry = some rt := found
  have announced : ((view state offer.dest).announce rt offer).entry = some rt := by
    unfold RouteView.announce
    split
    · exact viewFound
    · exact viewFound
  have updated := congrArg RouteView.entry (view_rtTableUpdate config offer sound found offer.dest)
  rw [if_pos rfl] at updated
  refine updated.trans ?_
  by_cases breaks : offer.Breaks rt
  · rw [RouteView.update, if_pos breaks, if_pos breaks, RouteView.change, RouteView.cut_entry,
      RouteView.change, announced]
    rfl
  · rw [RouteView.update, if_neg breaks, if_neg breaks, RouteView.change, announced]
    rfl

/-- The entry of an update is the old one with the offer taken over; its HELLOs are forgotten
when it has become a route of several hops. -/
theorem entryAt_rtTableUpdate_self (sound : state.rtTbl.Sound)
    (found : entryAt state offer.dest = some rt) :
    ∃ base, entryAt (rtTableUpdate config offer state) offer.dest = some (rt.renewed offer base) ∧
      base.destAddr = rt.destAddr ∧ base.ifindex = rt.ifindex ∧
      (¬ offer.Breaks rt → base = rt) := by
  refine ⟨_, entryAt_rtTableUpdate_eq config offer sound found, ?_⟩
  split
  · rename_i breaks
    refine ⟨?_, ?_, fun kept => absurd breaks kept⟩
    · unfold RtEntry.cut RtEntry.retired
      rw [if_pos rfl]
      split <;> split <;> rfl
    · unfold RtEntry.cut RtEntry.retired
      rw [if_pos rfl]
      split <;> split <;> rfl
  · exact ⟨rfl, rfl, fun _ => rfl⟩

theorem entryAt_rtTableUpdate_other (sound : state.rtTbl.Sound)
    (found : entryAt state offer.dest = some rt) {other : Addr} (different : other ≠ offer.dest) :
    entryAt (rtTableUpdate config offer state) other =
      if offer.Breaks rt then (entryAt state other).map (RtEntry.cut offer.dest rt.flags.repair other)
      else entryAt state other := by
  have updated := congrArg RouteView.entry (view_rtTableUpdate config offer sound found other)
  rw [if_neg different] at updated
  refine updated.trans ?_
  split
  · exact RouteView.cut_entry ..
  · rfl

/-! ### What the routing operations leave alone -/

/-- The packets of a destination with an entry leave with a verdict, and then timers are set. -/
theorem packetQueueSend_acts {dest : Addr} (found : rtTableFind state dest = some rt) :
    TimerActs (detachPackets (fun qp => decide (qp.destAddr = dest)) .accept
      (.released dest state.rtTbl state.kernel) state) (packetQueueSend config dest state) := by
  unfold packetQueueSend
  rw [found]
  exact refreshReleased_acts ..

/-- A release of buffered packets touches the seek list, the queue, its history and timers. -/
theorem releaseBuffered_eq (dest : Addr) (state : State) :
    ∃ seekhead pq timers history, releaseBuffered config dest state =
      { state with seekhead := seekhead, pq := pq, timers := timers, history := history } := by
  unfold releaseBuffered
  split
  · exact ⟨_, _, _, _, rfl⟩
  · cases found : rtTableFind (seekListRemove dest state) dest with
    | none =>
      unfold packetQueueSend
      rw [found]
      exact ⟨_, _, _, _, rfl⟩
    | some rt =>
      obtain ⟨timers, result⟩ := (packetQueueSend_acts config found).same
      exact ⟨_, _, _, _, result⟩

end Aodvd
