/-
This file is a small library about runs of a deterministic system.

A run feeds a list of inputs to a step function. A condition on a step may speak of the
state before the step and of its input; a run meets it when every step does. A property
that holds at the start and that every step meeting the condition keeps holds at the end
of every run meeting the condition, and so in every state such a run passes through. A property
that a step may also end holds until some step does. What an observer sees of the steps of a run is
its trace.
-/

import Mathlib

namespace Runs

variable {State Input : Type} {step : State → Input → State}
  {condition : State → Input → Prop}
variable {inputs : List Input} {state : State}

/-- Every step of the run meets the condition. -/
def Meets (step : State → Input → State) (condition : State → Input → Prop) :
    State → List Input → Prop
  | _, [] => True
  | state, input :: rest => condition state input ∧ Meets step condition (step state input) rest

instance decidableMeets [∀ state input, Decidable (condition state input)] :
    ∀ (state : State) (inputs : List Input), Decidable (Meets step condition state inputs)
  | _, [] => .isTrue trivial
  | state, input :: rest =>
    match (inferInstance : Decidable (condition state input)),
      decidableMeets (step state input) rest with
    | .isTrue first, .isTrue later => .isTrue ⟨first, later⟩
    | .isFalse first, _ => .isFalse fun meets => first meets.1
    | _, .isFalse later => .isFalse fun meets => later meets.2

/-- A condition on inputs alone is met if every input meets it. -/
theorem meets_of_forall {allowed : Input → Prop} (all : ∀ input ∈ inputs, allowed input)
    (state : State) : Meets step (fun _ input => allowed input) state inputs := by
  induction inputs generalizing state with
  | nil => trivial
  | cons input rest inductionHypothesis =>
    exact ⟨all input List.mem_cons_self,
      inductionHypothesis (fun other member => all other (List.mem_cons_of_mem _ member)) _⟩

/-- The condition on two runs one after the other. -/
theorem meets_append {more : List Input} :
    Meets step condition state (inputs ++ more) ↔
      Meets step condition state inputs ∧ Meets step condition (inputs.foldl step state) more := by
  induction inputs generalizing state with
  | nil => exact (iff_of_eq (true_and _)).symm
  | cons input rest inductionHypothesis =>
    exact (and_congr_right fun _ => inductionHypothesis).trans and_assoc.symm

/-- The condition on a run and on one step more. -/
theorem meets_concat {last : Input} :
    Meets step condition state (inputs ++ [last]) ↔
      Meets step condition state inputs ∧ condition (inputs.foldl step state) last :=
  meets_append.trans (and_congr_right fun _ => iff_of_eq (and_true _))

theorem Meets.take (meets : Meets step condition state inputs) (count : Nat) :
    Meets step condition state (inputs.take count) := by
  rw [← List.take_append_drop count inputs] at meets
  exact (meets_append.mp meets).1

/-- Where two conditions agree on every state that a run may pass through, they agree on the run. -/
theorem meets_congr (context : State → Prop) {other : State → Input → Prop}
    (always : ∀ state input, context state → context (step state input))
    (agree : ∀ state input, context state → (condition state input ↔ other state input))
    (start : context state) (inputs : List Input) :
    Meets step condition state inputs ↔ Meets step other state inputs := by
  induction inputs generalizing state with
  | nil => exact Iff.rfl
  | cons input rest inductionHypothesis =>
    exact and_congr (agree state input start) (inductionHypothesis (always state input start))

/-- Where a condition keeps a context and there implies another, a run that meets it meets both. -/
theorem Meets.imp (context : State → Prop) {other : State → Input → Prop}
    (kept : ∀ state input, context state → condition state input → context (step state input))
    (implies : ∀ state input, context state → condition state input → other state input)
    (start : context state) (meets : Meets step condition state inputs) :
    Meets step other state inputs := by
  induction inputs generalizing state with
  | nil => trivial
  | cons input rest inductionHypothesis =>
    exact ⟨implies state input start meets.1,
      inductionHypothesis (kept state input start meets.1) meets.2⟩

/-- What is observed of the steps of a run, one after the other. -/
def trace {Observation : Type} (step : State → Input → State)
    (observe : State → Input → List Observation) : State → List Input → List Observation
  | _, [] => []
  | state, input :: rest => observe state input ++ trace step observe (step state input) rest

/-- The observations of two runs one after the other. -/
theorem trace_append {Observation : Type} (observe : State → Input → List Observation)
    (state : State) (inputs more : List Input) :
    trace step observe state (inputs ++ more) =
      trace step observe state inputs ++ trace step observe (inputs.foldl step state) more := by
  induction inputs generalizing state with
  | nil => rfl
  | cons input rest inductionHypothesis =>
    show observe state input ++ trace step observe _ (rest ++ more) =
      observe state input ++ trace step observe _ rest ++ _
    rw [inductionHypothesis, List.append_assoc]
    rfl

/-- The observations of a run and of one step more. -/
theorem trace_concat {Observation : Type} (observe : State → Input → List Observation)
    (state : State) (inputs : List Input) (last : Input) :
    trace step observe state (inputs ++ [last]) =
      trace step observe state inputs ++ observe (inputs.foldl step state) last := by
  rw [trace_append]
  exact congrArg _ (List.append_nil _)

/-- What the steps of a run keep holds at its end. -/
theorem invariant (property : State → Prop)
    (kept : ∀ state input, property state → condition state input → property (step state input))
    (initial : property state) (meets : Meets step condition state inputs) :
    property (inputs.foldl step state) := by
  induction inputs generalizing state with
  | nil => exact initial
  | cons input rest inductionHypothesis =>
    exact inductionHypothesis (kept state input initial meets.1) meets.2

/-- The same for a property that every step keeps. -/
theorem invariant_of_step (property : State → Prop)
    (kept : ∀ state input, property state → property (step state input))
    (initial : property state) (inputs : List Input) : property (inputs.foldl step state) := by
  induction inputs generalizing state with
  | nil => exact initial
  | cons input rest inductionHypothesis =>
    exact inductionHypothesis (kept state input initial)

/-- What every step keeps or ends holds at the end of a run, unless a step of the run, taken in
a state where it still held, has ended it. -/
theorem keeps_until (context property : State → Prop) (ends : State → Input → Prop)
    (always : ∀ state input, context state → condition state input → context (step state input))
    (kept : ∀ state input, context state → condition state input → property state →
      property (step state input) ∨ ends state input)
    (start : context state) (initial : property state) (meets : Meets step condition state inputs) :
    property (inputs.foldl step state) ∨ ∃ early input later, inputs = early ++ input :: later ∧
      property (early.foldl step state) ∧ ends (early.foldl step state) input := by
  induction inputs generalizing state with
  | nil => exact .inl initial
  | cons input rest inductionHypothesis =>
    rcases kept state input start meets.1 initial with holds | ended
    · rcases inductionHypothesis (always state input start meets.1) holds meets.2 with
        last | ⟨early, next, later, rfl, before, ended⟩
      · exact .inl last
      · exact .inr ⟨input :: early, next, later, rfl, before, ended⟩
    · exact .inr ⟨[], input, rest, rfl, initial, ended⟩

/-- Where one step keeps a property exactly if it meets the condition, a run has the property in
every state it passes through exactly if every step meets the condition. -/
theorem forall_take_iff (context property : State → Prop)
    (always : ∀ state input, context state → context (step state input))
    (exact : ∀ state input, context state → property state →
      (property (step state input) ↔ condition state input))
    (start : context state) (initial : property state) (inputs : List Input) :
    (∀ count, property ((inputs.take count).foldl step state)) ↔
      Meets step condition state inputs := by
  induction inputs generalizing state with
  | nil => exact ⟨fun _ => trivial, fun _ count => by rwa [List.take_nil]⟩
  | cons input rest inductionHypothesis =>
    have first := exact state input start initial
    constructor
    · intro holds
      have next : property (step state input) := holds 1
      exact ⟨first.mp next, (inductionHypothesis (always state input start) next).mp
        fun count => holds (count + 1)⟩
    · intro meets count
      cases count with
      | zero => exact initial
      | succ count =>
        exact (inductionHypothesis (always state input start) (first.mpr meets.1)).mpr meets.2 count

end Runs
