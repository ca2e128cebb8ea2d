/-
This file shows that the two rate limiters of `aodv_socket_send` do what they are for.

Each limiter keeps the times of the last nine messages of its type that it let pass, and drops a
message that comes less than a second after the oldest of them. Over whole runs, messages that are
nine places apart in the order in which they passed are at least a second apart. A message is
dropped exactly if nine of its type have passed within the last second, whatever was sent of the
other type.
-/

import Aodvd.Library.SlidingWindow
import Aodvd.Numbers
import Aodvd.TimerOrder

namespace Aodvd

/-! ### One limiter -/

theorem timevalDiff_lt_thousand (first second : Timeval) :
    timevalDiff first second < 1000 ↔ micros first < micros second + 1000000 := by
  rw [timevalDiff_eq]
  rcases Int.le_total 0 (micros first - micros second) with nonneg | nonpos
  · rw [Int.tdiv_eq_ediv_of_nonneg nonneg]
    omega
  · have negative := tdiv_thousand_pos (micros first - micros second)
    omega

/-- The times that a limiter has let pass come too close to now. -/
def Crowded (limit : Nat) (now : Timeval) (passed : List Timeval) : Prop :=
  limit - 1 ≤ passed.length ∧ ∀ oldest rest, passed.rtake (limit - 1) = oldest :: rest →
    micros now < micros oldest + 1000000

/-- A limiter that keeps the last times drops the next message if they are crowded, and keeps the
last times again otherwise. -/
theorem ratelimitPass_rtake {limit : Nat} (several : 1 < limit) (now : Timeval)
    (passed : List Timeval) :
    (Crowded limit now passed ∧ ratelimitPass limit now (passed.rtake (limit - 1)) = none) ∨
      ¬ Crowded limit now passed ∧ ratelimitPass limit now (passed.rtake (limit - 1)) =
        some ((passed ++ [now]).rtake (limit - 1)) := by
  obtain ⟨size, rfl⟩ : ∃ size, limit = size + 2 := ⟨limit - 2, by omega⟩
  rw [show size + 2 - 1 = size + 1 from rfl, List.rtake_concat_succ]
  by_cases full : size + 1 ≤ passed.length
  · obtain ⟨front, oldest, rest, split, count, window⟩ :=
      SlidingWindow.exists_rtake_eq_cons (Nat.succ_pos size) full
    have later : passed.rtake size = rest := by
      have tail := congrArg List.tail window
      rwa [List.rtake, List.tail_drop, List.tail_cons,
        show passed.length - (size + 1) + 1 = passed.length - size by omega] at tail
    have crowded : Crowded (size + 2) now passed ↔ micros now < micros oldest + 1000000 := by
      refine ⟨fun crowded => crowded.2 oldest rest window, fun close => ⟨full, ?_⟩⟩
      intro first others same
      obtain ⟨rfl, rfl⟩ := List.cons.inj (window.symm.trans same)
      exact close
    rw [crowded, window, later, ratelimitPass,
      if_pos (show (oldest :: rest).length = size + 2 - 1 from count)]
    by_cases close : micros now < micros oldest + 1000000
    · exact .inl ⟨close, if_pos ((timevalDiff_lt_thousand now oldest).mpr close)⟩
    · exact .inr ⟨close, if_neg (mt (timevalDiff_lt_thousand now oldest).mp close)⟩
  · refine .inr ⟨fun crowded => full crowded.1, ?_⟩
    have whole (places : Nat) (enough : passed.length ≤ places) : passed.rtake places = passed := by
      rw [List.rtake, Nat.sub_eq_zero_of_le enough, List.drop_zero]
    rw [whole (size + 1) (by omega), whole size (by omega)]
    cases passed with
    | nil => rfl
    | cons first others => rw [ratelimitPass, if_neg (by omega)]

/-! ### The two limiters -/

/-- The limiter of a type of messages. -/
inductive Limiter where
  | rreq
  | rerr
  deriving DecidableEq

/-- `RREQ_RATELIMIT` and `RERR_RATELIMIT`. -/
def Limiter.limit : Limiter → Nat
  | .rreq => rreqRatelimit
  | .rerr => rerrRatelimit

/-- `rreq_ratel` and `rerr_ratel`. -/
def Limiter.kept : Limiter → State → List Timeval
  | .rreq, state => state.rreqRatel
  | .rerr, state => state.rerrRatel

/-- The times of a limiter are overwritten. -/
def Limiter.keep : Limiter → State → List Timeval → State
  | .rreq, state, times => { state with rreqRatel := times }
  | .rerr, state, times => { state with rerrRatel := times }

/-- The messages that a limiter is for. -/
def Limiter.limits : Limiter → AodvMsg → Bool
  | .rreq, .rreq _ => true
  | .rerr, .rerr _ => true
  | _, _ => false

/-- The times at which a limiter let messages pass that have left since the event arrived. -/
def Limiter.passes (limiter : Limiter) (state : State) : List Timeval :=
  (state.out.filter fun datagram => limiter.limits datagram.msg).map fun _ => state.now

theorem limits_rreq_iff {msg : AodvMsg} :
    Limiter.rreq.limits msg = true ↔ ∃ rreq, msg = .rreq rreq := by
  cases msg <;> simp [Limiter.limits]

theorem limits_rerr_iff {msg : AodvMsg} :
    Limiter.rerr.limits msg = true ↔ ∃ rerr, msg = .rerr rerr := by
  cases msg <;> simp [Limiter.limits]

section

variable {config : Config} {limiter : Limiter} {past : List Timeval} {state next : State}

/-- A limiter decides about the messages of its type by the times it keeps. -/
theorem ratelimitSend_of_limits (limited : config.ratelimit = true)
    (own : limiter.limits state.sendBuf = true) :
    ratelimitSend config state =
      (ratelimitPass limiter.limit state.now (limiter.kept state)).map (limiter.keep state) := by
  unfold ratelimitSend
  rw [if_pos limited]
  cases limiter with
  | rreq =>
    obtain ⟨rreq, buffer⟩ := limits_rreq_iff.mp own
    split
    · rfl
    · rename_i other
      exact absurd (other.symm.trans buffer) (by simp)
    · rename_i other _
      exact absurd buffer (other rreq)
  | rerr =>
    obtain ⟨rerr, buffer⟩ := limits_rerr_iff.mp own
    split
    · rename_i other
      exact absurd (other.symm.trans buffer) (by simp)
    · rfl
    · rename_i _ other
      exact absurd buffer (other rerr)

/-- A message of another type leaves the times of a limiter alone. -/
theorem kept_of_ratelimitSend (other : limiter.limits state.sendBuf = false)
    (pass : ratelimitSend config state = some next) :
    limiter.kept next = limiter.kept state := by
  unfold ratelimitSend at pass
  split at pass
  · split at pass
    · rename_i rreq buffer
      obtain ⟨times, _, rfl⟩ := Option.map_eq_some_iff.mp pass
      cases limiter with
      | rreq => exact absurd (limits_rreq_iff.mpr ⟨rreq, buffer⟩) (by rw [other]; decide)
      | rerr => rfl
    · rename_i rerr buffer
      obtain ⟨times, _, rfl⟩ := Option.map_eq_some_iff.mp pass
      cases limiter with
      | rreq => rfl
      | rerr => exact absurd (limits_rerr_iff.mpr ⟨rerr, buffer⟩) (by rw [other]; decide)
    · obtain rfl := Option.some.inj pass
      rfl
  · obtain rfl := Option.some.inj pass
    rfl

/-! ### What a limiter has let pass -/

/-- A limiter keeps the last of the times at which it let messages pass, in earlier events and in
this one, and they are spaced. -/
structure Limiter.Tracks (limiter : Limiter) (past : List Timeval) (state : State) : Prop where
  kept : limiter.kept state = (past ++ limiter.passes state).rtake (limiter.limit - 1)
  spaced : SlidingWindow.Spaced micros (limiter.limit - 1) 1000000 (past ++ limiter.passes state)

theorem Limiter.several (limiter : Limiter) : 1 < limiter.limit := by
  cases limiter <;> decide

theorem Limiter.kept_keep (limiter : Limiter) (state : State) (times : List Timeval) :
    limiter.kept (limiter.keep state times) = times := by
  cases limiter <;> rfl

theorem Limiter.Tracks.of_same (tracks : limiter.Tracks past state) (now : next.now = state.now)
    (rreqRatel : next.rreqRatel = state.rreqRatel) (rerrRatel : next.rerrRatel = state.rerrRatel)
    (out : next.out = state.out) : limiter.Tracks past next := by
  have passes : limiter.passes next = limiter.passes state := by
    rw [Limiter.passes, Limiter.passes, now, out]
  have kept : limiter.kept next = limiter.kept state := by
    cases limiter
    · exact rreqRatel
    · exact rerrRatel
  constructor
  · rw [kept, passes]
    exact tracks.kept
  · rw [passes]
    exact tracks.spaced

/-- A datagram that leaves counts for the limiter of its type. -/
theorem aodvSocketSend_eq_or_passes (config : Config) (limiter : Limiter) (dst : Addr) (len : Nat)
    (ttl : Int) (dev : Option Dev) (state : State) :
    aodvSocketSend config dst len ttl dev state = state ∨
      ∃ next, ratelimitSend config state = some next ∧
        limiter.kept (aodvSocketSend config dst len ttl dev state) = limiter.kept next ∧
        limiter.passes (aodvSocketSend config dst len ttl dev state) =
          limiter.passes state ++ if limiter.limits state.sendBuf then [state.now] else [] := by
  unfold aodvSocketSend
  split
  · exact .inl rfl
  · split
    · exact .inl rfl
    · split
      · exact .inl rfl
      · rename_i next pass
        obtain ⟨_, _, result⟩ := ratelimitSend_eq pass
        refine .inr ⟨next, pass, by cases limiter <;> rfl, ?_⟩
        unfold Limiter.passes
        dsimp only
        rw [result, List.filter_append, List.map_append, List.filter_cons]
        split <;> rfl

theorem Limiter.Tracks.aodvSocketSend (limited : config.ratelimit = true)
    (tracks : limiter.Tracks past state) (dst : Addr) (len : Nat) (ttl : Int) (dev : Option Dev) :
    limiter.Tracks past (aodvSocketSend config dst len ttl dev state) := by
  rcases aodvSocketSend_eq_or_passes config limiter dst len ttl dev state with
    same | ⟨next, pass, kept, passes⟩
  · rwa [same]
  cases own : limiter.limits state.sendBuf with
  | true =>
    rw [own, if_pos rfl] at passes
    rw [ratelimitSend_of_limits limited own, tracks.kept] at pass
    obtain ⟨times, passed, rfl⟩ := Option.map_eq_some_iff.mp pass
    rw [limiter.kept_keep state times] at kept
    rcases ratelimitPass_rtake limiter.several state.now (past ++ limiter.passes state) with
      ⟨_, drops⟩ | ⟨apart, keeps⟩
    · exact absurd (drops.symm.trans passed) (by simp)
    constructor
    · rw [passes, ← List.append_assoc, kept]
      exact Option.some.inj (passed.symm.trans keeps)
    · rw [passes, ← List.append_assoc]
      refine tracks.spaced.concat (by have := limiter.several; omega) ?_
      intro oldest rest long window
      by_contra close
      refine apart ⟨long, fun first others same => ?_⟩
      obtain ⟨rfl, rfl⟩ := List.cons.inj (window.symm.trans same)
      omega
  | false =>
    rw [own, if_neg Bool.false_ne_true, List.append_nil] at passes
    constructor
    · rw [passes, kept, kept_of_ratelimitSend own pass]
      exact tracks.kept
    · rw [passes]
      exact tracks.spaced

/-- Whatever is said in an event, the limiters keep track. -/
theorem Limiter.Tracks.utters {creates : State → State → Prop} (limited : config.ratelimit = true)
    (utters : Utters config creates state next) (tracks : limiter.Tracks past state) :
    limiter.Tracks past next := by
  refine utters.invariant ?_ tracks
  rintro before after utter tracks
  cases utter with
  | silent same => exact tracks.of_same same.now same.rreqRatel same.rerrRatel same.out
  | create now rreqRatel rerrRatel out _ => exact tracks.of_same now rreqRatel rerrRatel out
  | send dst len ttl dev => exact tracks.aodvSocketSend limited dst len ttl dev

/-! ### Runs -/

theorem tracks_arrive (input : Input)
    (kept : limiter.kept state = past.rtake (limiter.limit - 1))
    (spaced : SlidingWindow.Spaced micros (limiter.limit - 1) 1000000 past) :
    limiter.Tracks past (arrive input state) := by
  have nothing : limiter.passes (arrive input state) = [] := rfl
  constructor
  · rw [nothing, List.append_nil, ← kept]
    cases limiter <;> rfl
  · rw [nothing, List.append_nil]
    exact spaced

/-- The times at which a limiter has let messages pass along a run. -/
def Limiter.passed (limiter : Limiter) (config : Config) : State → List Input → List Timeval
  | state, [] => limiter.passes state
  | state, input :: rest =>
    limiter.passes state ++ limiter.passed config (step config state input) rest

theorem Limiter.passed_concat (limiter : Limiter) (config : Config) (state : State)
    (inputs : List Input) (input : Input) :
    limiter.passed config state (inputs ++ [input]) =
      limiter.passed config state inputs ++
        limiter.passes (runFrom config state (inputs ++ [input])) := by
  induction inputs generalizing state with
  | nil => rfl
  | cons first rest inductionHypothesis =>
    rw [List.cons_append, passed, inductionHypothesis, passed, List.append_assoc]
    rfl

/-- The limiters start empty, and keep the last times of the run. -/
theorem run_tracks (limited : config.ratelimit = true) (limiter : Limiter) (now : Timeval)
    (jitter : Int) (inputs : List Input) :
    limiter.kept (run config now jitter inputs) =
        (limiter.passed config (boot config now jitter) inputs).rtake (limiter.limit - 1) ∧
      SlidingWindow.Spaced micros (limiter.limit - 1) 1000000
        (limiter.passed config (boot config now jitter) inputs) := by
  induction inputs using List.reverseRecOn with
  | nil =>
    have zero : limiter.Tracks [] (zeroState now jitter) := by
      cases limiter <;> exact ⟨rfl, SlidingWindow.spaced_nil⟩
    have started := zero.utters limited (utters_boot config now jitter)
    exact ⟨started.kept, started.spaced⟩
  | append_singleton inputs input inductionHypothesis =>
    have arrived := tracks_arrive input inductionHypothesis.1 inductionHypothesis.2
    have stepped := arrived.utters limited
      (utters_step (atRest_run config now jitter inputs) input)
    have stepRun : step config (run config now jitter inputs) input =
        run config now jitter (inputs ++ [input]) := (List.foldl_concat ..).symm
    rw [stepRun] at stepped
    rw [limiter.passed_concat]
    exact ⟨stepped.kept, stepped.spaced⟩

/-- With a clock that does not go back, the times at which messages pass are in order. -/
theorem sorted_passed (config : Config) (limiter : Limiter) {now : Timeval} (jitter : Int)
    {inputs : List Input}
    (clock : (now :: inputs.map Input.now).Pairwise fun early late => micros early ≤ micros late) :
    (limiter.passed config (boot config now jitter) inputs).Pairwise
        (fun early late => micros early ≤ micros late) ∧
      ∀ time ∈ limiter.passed config (boot config now jitter) inputs,
        time ∈ now :: inputs.map Input.now := by
  have together (state : State) : ∀ time ∈ limiter.passes state, time = state.now := by
    intro time member
    obtain ⟨_, _, rfl⟩ := List.mem_map.mp member
    rfl
  have level (state : State) :
      (limiter.passes state).Pairwise fun early late => micros early ≤ micros late := by
    refine List.pairwise_of_forall_mem_list fun early earlyMember late lateMember => ?_
    rw [together state early earlyMember, together state late lateMember]
  induction inputs using List.reverseRecOn with
  | nil =>
    refine ⟨level _, fun time member => ?_⟩
    rw [together _ time member, (utters_boot config now jitter).now]
    exact List.mem_cons_self
  | append_singleton inputs input inductionHypothesis =>
    rw [List.map_append, ← List.cons_append, List.pairwise_append] at clock
    obtain ⟨sorted, listed⟩ := inductionHypothesis clock.1
    have present : ∀ time ∈ limiter.passes (runFrom config (boot config now jitter)
        (inputs ++ [input])), time = input.now := by
      intro time member
      rw [together _ time member, runFrom, List.foldl_concat]
      exact (utters_step (atRest_run config now jitter inputs) input).now
    rw [limiter.passed_concat]
    refine ⟨List.pairwise_append.mpr ⟨sorted, level _, fun early earlyMember late lateMember => ?_⟩,
      fun time member => ?_⟩
    · rw [present late lateMember]
      exact clock.2.2 early (listed early earlyMember) input.now (List.mem_singleton.mpr rfl)
    · rw [List.map_append, ← List.cons_append]
      rcases List.mem_append.mp member with earlier | latest
      · exact List.mem_append_left _ (listed time earlier)
      · rw [present time latest]
        exact List.mem_append_right _ (List.mem_singleton.mpr rfl)

/-- A limiter that keeps track drops a message of its type exactly if nine have passed within the
last second. -/
theorem Limiter.Tracks.ratelimitSend_eq_none_iff (limited : config.ratelimit = true)
    (tracks : limiter.Tracks past state) (own : limiter.limits state.sendBuf = true)
    (sorted : (past ++ limiter.passes state).Pairwise fun early late => micros early ≤ micros late) :
    ratelimitSend config state = none ↔ limiter.limit - 1 ≤
      ((past ++ limiter.passes state).filter
        fun time => decide (micros state.now < micros time + 1000000)).length := by
  have positive : 0 < limiter.limit - 1 := by
    have several := limiter.several
    omega
  rw [ratelimitSend_of_limits limited own, Option.map_eq_none_iff, tracks.kept,
    SlidingWindow.le_length_recent_iff sorted positive]
  rcases ratelimitPass_rtake limiter.several state.now (past ++ limiter.passes state) with
    ⟨crowded, drops⟩ | ⟨apart, keeps⟩
  · exact iff_of_true drops crowded
  · exact iff_of_false (by rw [keeps]; simp) apart

/-- The rate limiters are exact: with a clock that does not go back, messages of a type that are
nine places apart in the order in which they passed are at least a second apart. Wherever in an event
a message of the type is about to be sent, it is dropped exactly if nine of its type have passed
within the last second. Sending other messages leaves the limiter alone. -/
theorem run_ratelimit (config : Config) (limited : config.ratelimit = true) (limiter : Limiter)
    (now : Timeval) (jitter : Int) (inputs : List Input)
    (clock : (now :: inputs.map Input.now).Pairwise fun early late => micros early ≤ micros late) :
    (∀ place early late,
        (limiter.passed config (boot config now jitter) inputs)[place]? = some early →
        (limiter.passed config (boot config now jitter) inputs)[place + (limiter.limit - 1)]? =
          some late → micros early + 1000000 ≤ micros late) ∧
      (∀ before input after, inputs = before ++ input :: after →
        ∀ sending, Utters config (fun _ _ => True) (arrive input (run config now jitter before))
          sending → limiter.limits sending.sendBuf = true →
        (ratelimitSend config sending = none ↔ limiter.limit - 1 ≤
          ((limiter.passed config (boot config now jitter) before ++ limiter.passes sending).filter
            fun time => decide (micros sending.now < micros time + 1000000)).length)) ∧
      ∀ sending dst len ttl dev, limiter.limits sending.sendBuf = false →
        limiter.kept (aodvSocketSend config dst len ttl dev sending) = limiter.kept sending := by
  refine ⟨(run_tracks limited limiter now jitter inputs).2, ?_, ?_⟩
  · rintro before input after rfl sending utters own
    obtain ⟨kept, spaced⟩ := run_tracks limited limiter now jitter before
    refine ((tracks_arrive input kept spaced).utters limited utters).ratelimitSend_eq_none_iff
      limited own ?_
    rw [List.map_append, ← List.cons_append, List.pairwise_append] at clock
    obtain ⟨sorted, listed⟩ := sorted_passed config limiter jitter clock.1
    have present : ∀ time ∈ limiter.passes sending, time = input.now := by
      intro time member
      obtain ⟨_, _, rfl⟩ := List.mem_map.mp member
      exact utters.now
    refine List.pairwise_append.mpr ⟨sorted, ?_, fun early earlyMember late lateMember => ?_⟩
    · refine List.pairwise_of_forall_mem_list fun early earlyMember late lateMember => ?_
      rw [present early earlyMember, present late lateMember]
    · rw [present late lateMember]
      exact clock.2.2 early (listed early earlyMember) input.now List.mem_cons_self
  · intro sending dst len ttl dev other
    rcases aodvSocketSend_eq_or_passes config limiter dst len ttl dev sending with
      same | ⟨next, pass, kept, _⟩
    · rw [same]
    · rw [kept, kept_of_ratelimitSend other pass]

end

/-- Ten packets to ten destinations within half a second. -/
def tenDiscoveries : List Input :=
  (List.range 10).map fun count : Nat =>
    inputAt (16000 + 50 * count : Nat) (packetTo (BitVec.ofNat 32 count) (BitVec.ofNat 32 (20 + count)))

/-- The first nine requests pass; the tenth is dropped, as is a request half a second later. -/
theorem run_ratelimit_tenDiscoveries :
    (Limiter.rreq.passed loneConfig (boot loneConfig ⟨0, 0⟩ 0) tenDiscoveries).length = 9 ∧
      ∀ rreq, ratelimitSend loneConfig { arrive (inputAt 16900 .timers)
        (run loneConfig ⟨0, 0⟩ 0 tenDiscoveries) with sendBuf := .rreq rreq } = none := by
  have clock : (⟨0, 0⟩ :: (tenDiscoveries ++ [inputAt 16900 .timers]).map Input.now).Pairwise
      fun early late => micros early ≤ micros late := by decide +kernel
  refine ⟨by decide +kernel, fun rreq => ?_⟩
  have decision := (run_ratelimit loneConfig rfl .rreq ⟨0, 0⟩ 0
    (tenDiscoveries ++ [inputAt 16900 .timers]) clock).2.1 tenDiscoveries (inputAt 16900 .timers) []
    rfl _ (utters_buffer loneConfig trivial) (limits_rreq_iff.mpr ⟨rreq, rfl⟩)
  refine decision.mpr ?_
  have crowded : 9 ≤ ((Limiter.rreq.passed loneConfig (boot loneConfig ⟨0, 0⟩ 0)
      tenDiscoveries).filter fun time =>
        decide (micros ⟨16, 900000⟩ < micros time + 1000000)).length := by decide +kernel
  refine crowded.trans ?_
  rw [List.filter_append, List.length_append]
  exact Nat.le_add_right _ _

end Aodvd
