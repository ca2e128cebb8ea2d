/-
This file follows the interface of a route.

An entry is made with the interface its message came in on, but `rt_table_update` writes the
next hop and leaves the interface as it is. So a route that moves to a neighbour on another
interface keeps the old one. Where every message that is taken over into an entry comes in on
the interface of that entry, and every HELLO names its own source, the pair of next hop and
interface is at any time the one of the message that installed it.
-/

import Aodvd.RouteClocks

namespace Aodvd

/-! ### What a message installs -/

/-- The message of a step gives a destination a route over a neighbour, and came from that
neighbour on an interface. -/
structure Installs (config : Config) (state : State) (input : Input) (dest hop : Addr)
    (ifindex : Nat) : Prop where
  received : ∃ received, Arrives config input.event received ∧ received.src = hop ∧
    received.ifindex = ifindex
  accepted : (∃ offer ∈ insertsOf config state input.event, offer.dest = dest ∧ offer.next = hop) ∨
    ∃ update ∈ updatesOf config state input.event, update.2.dest = dest ∧ update.2.next = hop

/-- Every route the message of a step gives is over its source, and an entry that takes it over
has the interface the message came in on. -/
def FollowsSource (config : Config) (state : State) (input : Input) : Prop :=
  match input.event with
  | .message received =>
    (∀ offer ∈ insertsOf config state input.event, offer.next = received.src) ∧
      ∀ update ∈ updatesOf config state input.event,
        update.2.next = received.src ∧ update.1.ifindex = received.ifindex
  | _ => True

instance (config : Config) (state : State) (input : Input) :
    Decidable (FollowsSource config state input) := by
  unfold FollowsSource
  split <;> infer_instance

/-- An insertion is offered on the interface of its message. -/
theorem Inserts.ifindex {config : Config} {event : Event} {origin state : State} {offer : Offer}
    (cause : Inserts config event origin state offer) {received : Received}
    (arrives : event = .message received) : offer.ifindex = received.ifindex := by
  cases cause with
  | neighbor other there => exact (Event.message.inj (there.event.symm.trans arrives)) ▸ rfl
  | hello other hello handles =>
    exact (Event.message.inj (handles.event.symm.trans arrives)) ▸ rfl
  | rreq other rreq handles =>
    exact (Event.message.inj (handles.event.symm.trans arrives)) ▸ rfl
  | rrep other rrep handles =>
    exact (Event.message.inj (handles.event.symm.trans arrives)) ▸ rfl

/-- The entry of a destination leads where one did before, or where the step has sent it. -/
def Led (config : Config) (before : State) (input : Input) (dest : Addr) (rt : RtEntry) : Prop :=
  (∃ old, entryAt before dest = some old ∧ rt.nextHop = old.nextHop ∧ rt.ifindex = old.ifindex) ∨
    Installs config before input dest rt.nextHop rt.ifindex

theorem Led.of_same {config : Config} {before : State} {input : Input} {dest : Addr}
    {new old : RtEntry} (led : Led config before input dest old) (nextHop : new.nextHop = old.nextHop)
    (ifindex : new.ifindex = old.ifindex) : Led config before input dest new := by
  unfold Led
  rw [nextHop, ifindex]
  exact led

/-- One change of an entry. -/
theorem EntryChange.led {config : Config} {origin before : State} {input : Input} {dest : Addr}
    {old new : Option RtEntry} (follows : FollowsSource config origin input)
    (change : EntryChange config input.event origin before dest old new)
    (led : ∀ rt, old = some rt → Led config origin input dest rt) :
    ∀ rt, new = some rt → Led config origin input dest rt := by
  intro rt found
  cases change with
  | absent => exact nomatch found
  | keep same =>
    obtain rfl := Option.some.inj found
    exact (led _ rfl).of_same same.nextHop same.ifindex
  | mark same =>
    obtain rfl := Option.some.inj found
    exact (led _ rfl).of_same same.nextHop same.ifindex
  | insert offer here cause =>
    obtain rfl := Option.some.inj found
    obtain ⟨received, arrives⟩ := cause.offered.arrives
    have listed := cause.listed
    rw [FollowsSource, arrives.event] at follows
    have through : offer.next = received.src := follows.1 offer (arrives.event ▸ listed)
    exact .inr ⟨⟨received, arrives, through.symm, (cause.ifindex arrives.event).symm⟩,
      .inl ⟨offer, listed, here, rfl⟩⟩
  | update offer here cause adopted =>
    rw [Option.some.inj found] at adopted
    obtain ⟨received, arrives⟩ := cause.offered.arrives
    obtain ⟨met, same, listed⟩ := cause.listed
    rw [FollowsSource, arrives.event] at follows
    obtain ⟨through, ifindex⟩ := follows.2 (met, offer) (arrives.event ▸ listed)
    have hop : received.src = rt.nextHop := through.symm.trans adopted.nextHop.symm
    have kept : rt.ifindex = received.ifindex :=
      adopted.ifindex.trans (same.ifindex.trans ifindex)
    exact .inr ⟨⟨received, arrives, hop, kept.symm⟩,
      .inr ⟨(met, offer), listed, here, adopted.nextHop.symm⟩⟩
  | retire retired =>
    obtain rfl := Option.some.inj found
    exact (led _ rfl).of_same retired.nextHop retired.ifindex
  | error received message seqno handles listed valid through same =>
    obtain rfl := Option.some.inj found
    exact (led _ rfl).of_same same.nextHop same.ifindex
  | delete => exact nomatch found

/-- One step. -/
theorem led_step {config : Config} {state : State} (atRest : AtRest config state) {input : Input}
    (follows : FollowsSource config state input) (dest : Addr) (rt : RtEntry)
    (found : entryAt (step config state input) dest = some rt) :
    Led config state input dest rt := by
  have arrived : Led config (arrive input state) input dest rt :=
    (step_handled atRest input).entryInvariant (atRest.toRegular.arrive input) dest
      (fun entry => ∀ rt, entry = some rt → Led config (arrive input state) input dest rt)
      (fun _ _ _ change => change.led follows) (fun old there => .inl ⟨old, there, rfl, rfl⟩) rt found
  exact arrived.imp_right fun installs => ⟨installs.received, installs.accepted⟩

/-! ### Runs -/

/-- The last message that gave a destination its next hop came from that neighbour on that
interface: the entry has led there ever since. -/
def Traced (config : Config) (now : Timeval) (jitter : Int) (inputs : List Input)
    (dest hop : Addr) (ifindex : Nat) : Prop :=
  ∃ earlier input later, inputs = earlier ++ input :: later ∧
    Installs config (run config now jitter earlier) input dest hop ifindex ∧
    ∀ between, between <+: later →
      ∃ kept, entryAt (run config now jitter (earlier ++ input :: between)) dest = some kept ∧
        kept.nextHop = hop ∧ kept.ifindex = ifindex

theorem run_concat (config : Config) (now : Timeval) (jitter : Int) (inputs : List Input)
    (last : Input) : run config now jitter (inputs ++ [last]) =
      step config (run config now jitter inputs) last :=
  List.foldl_concat ..

theorem Traced.concat {config : Config} {now : Timeval} {jitter : Int} {inputs : List Input}
    {dest hop : Addr} {ifindex : Nat} (traced : Traced config now jitter inputs dest hop ifindex)
    {last : Input} {rt : RtEntry}
    (found : entryAt (run config now jitter (inputs ++ [last])) dest = some rt)
    (nextHop : rt.nextHop = hop) (interface : rt.ifindex = ifindex) :
    Traced config now jitter (inputs ++ [last]) dest hop ifindex := by
  obtain ⟨earlier, input, later, rfl, installs, led⟩ := traced
  refine ⟨earlier, input, later ++ [last], List.append_assoc .., installs, ?_⟩
  intro between early
  rcases List.prefix_concat_iff.mp early with rfl | early
  · rw [List.append_assoc] at found
    exact ⟨rt, found, nextHop, interface⟩
  · exact led between early

theorem traced_run (config : Config) (now : Timeval) (jitter : Int) (inputs : List Input)
    (follows : Runs.Meets (step config) (FollowsSource config) (boot config now jitter) inputs) :
    ∀ dest rt, entryAt (run config now jitter inputs) dest = some rt →
      Traced config now jitter inputs dest rt.nextHop rt.ifindex := by
  induction inputs using List.reverseRecOn with
  | nil =>
    intro dest rt found
    exact absurd ((entryAt_boot config now jitter dest).symm.trans found) (by simp)
  | append_singleton inputs last inductionHypothesis =>
    intro dest rt found
    obtain ⟨earlier, follows⟩ := Runs.meets_concat.mp follows
    have there := found
    rw [run_concat] at there
    rcases led_step (atRest_run config now jitter inputs) follows dest rt there with
      ⟨old, oldFound, nextHop, ifindex⟩ | installs
    · exact nextHop ▸ ifindex ▸
        (inductionHypothesis earlier dest old oldFound).concat found nextHop ifindex
    · refine ⟨inputs, last, [], rfl, installs, fun between none => ?_⟩
      obtain rfl := List.prefix_nil.mp none
      exact ⟨rt, found, rfl, rfl⟩

/-- Where every message is taken over into entries of its own interface and every HELLO names
its source, the next hop and the interface of a valid entry are those of the message that
installed the next hop. -/
theorem run_interface_followsSource (config : Config) (now : Timeval) (jitter : Int)
    (inputs : List Input)
    (follows : Runs.Meets (step config) (FollowsSource config) (boot config now jitter) inputs) :
    ∀ rt ∈ rtEntries (run config now jitter inputs), rt.state = .valid →
      Traced config now jitter inputs rt.destAddr rt.nextHop rt.ifindex := by
  intro rt member _
  have found := (atRest_run config now jitter inputs).sound.entryAt_of_mem member
  exact traced_run config now jitter inputs follows rt.destAddr rt found

/-! ### A relay between two networks -/

/-- A RREQ of node 9 with a sequence number, received from a source on an interface. -/
def rreqOn (ifindex : Nat) (source : Addr) (seqno : Seqno) : Event :=
  .message ⟨.rreq ⟨.none, 1, seqno, 5#32, 0#32, 9#32, seqno, []⟩, rreqSize, source, aodvBroadcast, 5,
    ifindex⟩

/-- Node 9 is reached over neighbour 2 on the first interface. -/
def settled : List Input := [inputAt 100 (rreqOn 1 2#32 1#32)]

/-- Then over neighbour 3 on the second. -/
def moved : List Input := settled ++ [inputAt 200 (rreqOn 2 3#32 2#32)]

/-- Or over neighbour 4, which is on the first interface too. -/
def rerouted : List Input := settled ++ [inputAt 200 (rreqOn 1 4#32 2#32)]

/-- A HELLO about node 7 that node 2 has sent. -/
def foreignHello : List Input :=
  [inputAt 100 (.message ⟨.rrep ⟨false, false, 0, 7#32, 1#32, 7#32, 2000, []⟩, rrepSize, 2#32,
    aodvBroadcast, 1, 1⟩)]

theorem run_interface_followsSource_rerouted :
    (updatesOf relayConfig (run relayConfig timevalZero 0 settled) (rreqOn 1 4#32 2#32)).map
        (fun update => (update.1.nextHop, update.2.dest, update.2.next)) = [(2#32, 9#32, 4#32)] ∧
      Runs.Meets (step relayConfig) (FollowsSource relayConfig) (boot relayConfig timevalZero 0)
        rerouted ∧
      ∀ rt ∈ rtEntries (run relayConfig timevalZero 0 rerouted), rt.state = .valid →
        Traced relayConfig timevalZero 0 rerouted rt.destAddr rt.nextHop rt.ifindex := by
  have follows : Runs.Meets (step relayConfig) (FollowsSource relayConfig)
      (boot relayConfig timevalZero 0) rerouted := by decide +kernel
  exact ⟨by decide +kernel, follows,
    run_interface_followsSource relayConfig timevalZero 0 rerouted follows⟩

/-- The run has no message from a neighbour on an interface. -/
def Unheard (inputs : List Input) (hop : Addr) (ifindex : Nat) : Prop :=
  ∀ input ∈ inputs, ∀ received, input.event = .message received →
    ¬ (received.src = hop ∧ received.ifindex = ifindex)

/-- The route that moved leads to its new neighbour out of the old interface, and the route of
the foreign HELLO leads over a node that has never been heard. -/
theorem run_interface_stale :
    ((entryAt (run relayConfig timevalZero 0 moved) 9#32).map fun rt =>
        (rt.state, rt.nextHop, rt.ifindex)) = some (.valid, 3#32, 1) ∧
      Unheard moved 3#32 1 ∧
    ((entryAt (run relayConfig timevalZero 0 foreignHello) 7#32).map fun rt =>
        (rt.state, rt.nextHop)) = some (.valid, 7#32) ∧
      ∀ ifindex, Unheard foreignHello 7#32 ifindex := by
  refine ⟨by decide +kernel, ?_, by decide +kernel, ?_⟩
  · intro input member received isMessage
    simp only [moved, settled, List.cons_append, List.nil_append, List.mem_cons, List.not_mem_nil,
      or_false] at member
    rcases member with rfl | rfl
    · obtain rfl := Event.message.inj isMessage
      decide
    · obtain rfl := Event.message.inj isMessage
      decide
  · intro ifindex input member received isMessage
    obtain rfl := List.mem_singleton.mp member
    obtain rfl := Event.message.inj isMessage
    exact fun same => absurd same.1 (by decide)

end Aodvd
