/-
This file is a small library about tasks that share a state and run one at a time.

A request either ends at once or becomes a task that waits for a reply. When the reply comes the
task runs on, until it waits again or ends; nothing else runs meanwhile. The tasks may be answered
in any order, so the inputs of a run are an interleaving of the requests. A property of the shared
state and the waiting tasks holds in every run if each start and each resumption keeps it.
-/

import Mathlib

namespace Cooperation

/-- How requests start and how tasks resume. A task that ends leaves none. -/
structure System (Shared Task Request Reply : Type) where
  start : Request → Shared → Shared × Option Task
  resume : Task → Reply → Shared → Shared × Option Task

/-- The shared state and the tasks that wait, the oldest first. -/
structure Pool (Shared Task : Type) where
  shared : Shared
  tasks : List Task
  deriving DecidableEq

/-- A request comes, or the task at a position is answered. -/
inductive Input (Request Reply : Type)
  | request (request : Request)
  | reply (position : Nat) (reply : Reply)

variable {Shared Task Request Reply : Type} {system : System Shared Task Request Reply}

/-- One input. -/
def step (system : System Shared Task Request Reply) (pool : Pool Shared Task) :
    Input Request Reply → Pool Shared Task
  | .request request =>
    let started := system.start request pool.shared
    ⟨started.1, pool.tasks ++ started.2.toList⟩
  | .reply position reply =>
    match pool.tasks[position]? with
    | none => pool
    | some task =>
      let resumed := system.resume task reply pool.shared
      ⟨resumed.1, pool.tasks.take position ++ resumed.2.toList ++ pool.tasks.drop (position + 1)⟩

/-! ### Rules -/

/-- It does not matter in which order the tasks stand. -/
def Unordered (property : Shared → List Task → Prop) : Prop :=
  ∀ ⦃shared tasks others⦄, tasks.Perm others → property shared tasks → property shared others

/-- The task that an input resumes meets a condition, which may speak of the other tasks. -/
def Resumes (condition : List Task → Task → Reply → Shared → Prop) (pool : Pool Shared Task) :
    Input Request Reply → Prop
  | .request _ => True
  | .reply position reply => ∀ task ∈ pool.tasks[position]?,
    condition (pool.tasks.eraseIdx position) task reply pool.shared

instance {condition : List Task → Task → Reply → Shared → Prop}
    [∀ others task reply shared, Decidable (condition others task reply shared)]
    (pool : Pool Shared Task) :
    ∀ input : Input Request Reply, Decidable (Resumes condition pool input)
  | .request _ => .isTrue trivial
  | .reply position reply => inferInstanceAs (Decidable (∀ task ∈ pool.tasks[position]?,
    condition (pool.tasks.eraseIdx position) task reply pool.shared))

theorem perm_eraseIdx {tasks : List Task} {position : Nat} {task : Task}
    (found : tasks[position]? = some task) : tasks.Perm (task :: tasks.eraseIdx position) := by
  obtain ⟨inside, rfl⟩ := List.getElem?_eq_some_iff.mp found
  exact (List.getElem_cons_eraseIdx_perm inside).symm

/-- Where a start keeps a property and a resumption keeps it exactly under a condition, an input
keeps it exactly under that condition. -/
theorem step_exact {context property : Shared → List Task → Prop}
    {condition : List Task → Task → Reply → Shared → Prop}
    (orderless : Unordered context) (unordered : Unordered property)
    (starts : ∀ request shared tasks, context shared tasks → property shared tasks →
      property (system.start request shared).1 ((system.start request shared).2.toList ++ tasks))
    (resumes : ∀ others task reply shared, context shared (task :: others) →
      property shared (task :: others) → (property (system.resume task reply shared).1
        ((system.resume task reply shared).2.toList ++ others) ↔
          condition others task reply shared))
    {pool : Pool Shared Task} (fits : context pool.shared pool.tasks)
    (holds : property pool.shared pool.tasks) (input : Input Request Reply) :
    property (step system pool input).shared (step system pool input).tasks ↔
      Resumes condition pool input := by
  cases input with
  | request request =>
    refine iff_of_true ?_ trivial
    exact unordered List.perm_append_comm (starts request pool.shared pool.tasks fits holds)
  | reply position reply =>
    unfold step Resumes
    cases found : pool.tasks[position]? with
    | none =>
      simp only [found]
      exact iff_of_true holds fun _ member => nomatch member
    | some task =>
      have order := perm_eraseIdx found
      have exact := resumes (pool.tasks.eraseIdx position) task reply pool.shared
        (orderless order fits) (unordered order holds)
      have moved : ((system.resume task reply pool.shared).2.toList ++
          pool.tasks.eraseIdx position).Perm (pool.tasks.take position ++
            (system.resume task reply pool.shared).2.toList ++
              pool.tasks.drop (position + 1)) := by
        rw [List.eraseIdx_eq_take_drop_succ, List.append_assoc]
        exact List.perm_append_comm_assoc _ _ _
      simp only [found]
      constructor
      · rintro kept _ ⟨⟩
        exact exact.mp (unordered moved.symm kept)
      · intro meets
        exact unordered moved (exact.mpr (meets task rfl))

/-- What every start and every resumption keeps, an input keeps. -/
theorem step_keeps {property : Shared → List Task → Prop} (unordered : Unordered property)
    (starts : ∀ request shared tasks, property shared tasks →
      property (system.start request shared).1 ((system.start request shared).2.toList ++ tasks))
    (resumes : ∀ others task reply shared, property shared (task :: others) →
      property (system.resume task reply shared).1
        ((system.resume task reply shared).2.toList ++ others))
    {pool : Pool Shared Task} (holds : property pool.shared pool.tasks)
    (input : Input Request Reply) :
    property (step system pool input).shared (step system pool input).tasks := by
  have always : Unordered fun (_ : Shared) (_ : List Task) => True := fun _ _ _ _ _ => trivial
  have exact : property (step system pool input).shared (step system pool input).tasks ↔
      Resumes (fun _ _ _ _ => True) pool input :=
    step_exact always unordered (fun request shared tasks _ => starts request shared tasks)
      (fun others task reply shared _ kept =>
        iff_of_true (resumes others task reply shared kept) trivial) trivial holds input
  refine exact.mpr ?_
  cases input with
  | request request => trivial
  | reply position reply => exact fun _ _ => trivial

end Cooperation
