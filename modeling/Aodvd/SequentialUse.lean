/-
This file shows that requests of the dashboard that come one at a time do not contest each other.

While a request is alone, what it has looked at stays as it was, but for what it writes itself: the
removal of a node finds the links that it has listed one after the other. So every step is
uncontested, and the topology is consistent after each request.
-/

import Aodvd.Interleavings

namespace Aodvd.Dashboard

/-! ### One request at a time -/

/-- A request comes when no other is in progress. -/
def Sequential (pool : Pool) : Input → Prop
  | .request _ => pool.tasks = []
  | .reply _ _ => True

instance (pool : Pool) : (input : Input) → Decidable (Sequential pool input)
  | .request _ => inferInstanceAs (Decidable (pool.tasks = []))
  | .reply _ _ => .isTrue trivial

/-- What a request has looked at is still so. -/
def Fits (topology : Topology) : Task → Prop
  | .listing ns => topology.hasNode ns = false
  | .adding ns => topology.hasNode ns = false
  | .raising ns => topology.hasNode ns = false
  | .unlinking ns wire rest => touching ns topology = wire :: rest
  | .deleting ns => touching ns topology = []
  | .wiring src dst _ _ => topology.hasNode src = true ∧ topology.hasNode dst = true
  | _ => True

section

variable {topology : Topology} {tasks others : List Task} {task : Task}

theorem touching_of_not_node {ns : List Char} (sound : Sound topology tasks)
    (missing : topology.hasNode ns = false) : touching ns topology = [] := by
  have absent : ¬ topology.hasNode ns = true := by
    rw [missing]
    exact Bool.false_ne_true
  refine touching_eq_nil_iff.mpr fun wire member => ⟨?_, ?_⟩
  · exact fun same => absent (same ▸ (sound.ends wire member).1)
  · exact fun same => absent (same ▸ (sound.ends wire member).2)

theorem Fits.uncontested (fits : Fits topology task) (sound : Sound topology tasks)
    (reply : Reply) : Uncontested others task reply topology := by
  cases task with
  | listing ns => exact fun _ => .inl (touching_of_not_node sound fits)
  | raising ns => exact .inl (touching_of_not_node sound fits)
  | unlinking ns wire rest =>
    have listed : wire ∈ touching ns topology := by
      rw [show touching ns topology = wire :: rest from fits]
      exact List.mem_cons_self
    exact .inl (hasLink_iff.mpr (mem_touching.mp listed).1)
  | deleting ns => exact fits
  | wiring src dst index left =>
    cases left with
    | zero => exact fits
    | succ left => trivial
  | _ => trivial

theorem Task.Free.fits (free : task.Free) (topology : Topology) : Fits topology task := by
  cases task with
  | listing | adding | raising | unlinking | deleting | wiring => exact free.elim
  | _ => trivial

theorem fits_unlinkNext {ns : List Char} {wires : List Wire}
    (listed : touching ns topology = wires) : Fits topology (unlinkNext ns wires) := by
  cases wires with
  | nil => exact listed
  | cons wire rest => exact listed

/-- Without its first link, a node has the others. -/
theorem touching_removeLink {ns : List Char} {wire : Wire} {rest : List Wire}
    (apart : topology.wires.Pairwise Apart) (listed : touching ns topology = wire :: rest) :
    touching ns (topology.removeLink wire) = rest := by
  have distinct : topology.wires.Nodup :=
    List.Pairwise.imp (fun far same => far.id (congrArg Wire.id same)) apart
  have filtered : (topology.wires.erase wire).filter
      (fun wire => decide (wire.src = ns ∨ wire.dst = ns)) = (touching ns topology).erase wire := by
    show _ = (topology.wires.filter _).erase wire
    rw [distinct.erase_eq_filter, List.Nodup.erase_eq_filter (distinct.filter _), List.filter_comm]
  calc touching ns (topology.removeLink wire)
    _ = (topology.wires.erase wire).filter
        fun wire => decide (wire.src = ns ∨ wire.dst = ns) := by
      rw [← removeLink_wires]
      rfl
    _ = (wire :: rest).erase wire := by rw [filtered, listed]
    _ = rest := List.erase_cons_head wire rest

variable {reply : Reply} {later : Topology} {next : Option Task}

theorem Proceeds.fits (proceeds : Proceeds reply topology task later next)
    (fits : Fits topology task) (apart : topology.wires.Pairwise Apart) :
    ∀ after ∈ next, Fits later after := by
  cases proceeds with
  | idle _ _ free => exact fun after found => (free after found).fits _
  | create ns => exact fun _ found => Option.some.inj found ▸ fits
  | raise ns => exact fun _ found => Option.some.inj found ▸ fits
  | enter ns => exact fun _ found => Option.some.inj found ▸ trivial
  | unlink ns wire rest =>
    unfold removeNodeLoop
    split
    · exact fun _ found => Option.some.inj found ▸ fits_unlinkNext (touching_removeLink apart fits)
    · exact nofun
  | delete ns =>
    unfold removeNodeEnd
    split
    · exact fun _ found => Option.some.inj found ▸ trivial
    · exact nofun
  | wait src dst index left => exact fun _ found => Option.some.inj found ▸ fits
  | wire src dst index =>
    rw [addLinkEnd_of_ends fits.1 fits.2]
    exact fun _ found => Option.some.inj found ▸ (free_startChores _ _).fits _
  | detach wire =>
    unfold removeLinkEnd
    split
    · exact fun _ found => Option.some.inj found ▸ trivial
    · exact nofun
  | toggle wire up => exact fun _ found => Option.some.inj found ▸ (free_startChores _ _).fits _
  | clear => exact fun _ found => Option.some.inj found ▸ trivial

theorem Begins.fits (begins : Begins topology later next) : ∀ after ∈ next, Fits later after := by
  cases begins with
  | idle free => exact fun after found => (free after found).fits _
  | adds ns missing => exact fun _ found => Option.some.inj found ▸ missing
  | removes ns => exact fun _ found => Option.some.inj found ▸ fits_unlinkNext rfl
  | draws _ ends => exact fun _ found => Option.some.inj found ▸ ends
  | clears => exact fun _ found => Option.some.inj found ▸ trivial

/-- One request at most is in progress, and what it has looked at is still so. -/
structure Attended (pool : Pool) : Prop where
  issued : Issued pool.shared pool.tasks
  sound : Sound pool.shared pool.tasks
  fits : ∀ task ∈ pool.tasks, Fits pool.shared task
  single : pool.tasks.length ≤ 1

variable {pool : Pool} {input : Input}

theorem Attended.uncontested (attended : Attended pool) :
    Cooperation.Resumes Uncontested pool input := by
  cases input with
  | request request => trivial
  | reply position reply =>
    intro task found
    exact (attended.fits task (List.mem_of_getElem? found)).uncontested attended.sound reply

theorem Attended.step (table : PythonText.DigitTable) (attended : Attended pool)
    (sequential : Sequential pool input) : Attended (step table pool input) := by
  have issued := issued_step table pool input attended.issued
  have sound := (sound_step_iff table pool input attended.issued attended.sound).mpr
    attended.uncontested
  cases input with
  | request request =>
    have tasks : (Dashboard.step table pool (.request request)).tasks =
        (start request pool.shared).2.toList := by
      show pool.tasks ++ _ = _
      rw [show pool.tasks = [] from sequential, List.nil_append]
      rfl
    refine ⟨issued, sound, ?_, ?_⟩
    · intro next found
      rw [tasks] at found
      exact (begins_start request pool.shared).fits next (Option.mem_toList.mp found)
    · rw [tasks]
      exact Option.length_toList_le
  | reply position reply =>
    cases found : pool.tasks[position]? with
    | none =>
      have still : Dashboard.step table pool (.reply position reply) = pool := by
        unfold Dashboard.step Cooperation.step
        simp only [found]
      rw [still]
      exact attended
    | some task =>
      have only : pool.tasks.eraseIdx position = [] := by
        have order := (Cooperation.perm_eraseIdx found).length_eq
        have single := attended.single
        rw [List.length_cons] at order
        exact List.length_eq_zero_iff.mp (by omega)
      have after : Dashboard.step table pool (.reply position reply) =
          ⟨(resume table task reply pool.shared).1,
            (resume table task reply pool.shared).2.toList⟩ := by
        rw [List.eraseIdx_eq_take_drop_succ, List.append_eq_nil_iff] at only
        unfold Dashboard.step Cooperation.step
        simp only [found, only.1, only.2, List.nil_append, List.append_nil]
        rfl
      rw [after] at issued sound ⊢
      refine ⟨issued, sound, ?_, Option.length_toList_le⟩
      intro next resumed
      exact (proceeds_resume table task reply pool.shared).fits
        (attended.fits task (List.mem_of_getElem? found)) attended.issued.apart_wires next
        (Option.mem_toList.mp resumed)

/-- Requests that come one at a time do not contest each other, and after each of them the topology
is consistent. -/
theorem consistent_of_sequential (table : PythonText.DigitTable) (nfqueueEnabled : Bool)
    {inputs : List Input}
    (sequential : Runs.Meets (step table) Sequential (initial nfqueueEnabled) inputs) :
    Runs.Meets (step table) (Cooperation.Resumes Uncontested) (initial nfqueueEnabled) inputs ∧
      ∀ count, (run table nfqueueEnabled (inputs.take count)).tasks = [] →
        Consistent (run table nfqueueEnabled (inputs.take count)).shared := by
  have uncontested : Runs.Meets (step table) (Cooperation.Resumes Uncontested)
      (initial nfqueueEnabled) inputs :=
    sequential.imp Attended (fun _ _ attended => attended.step table)
      (fun _ _ attended _ => attended.uncontested)
      ⟨issued_initial nfqueueEnabled, sound_initial nfqueueEnabled,
        fun _ member => absurd member List.not_mem_nil, Nat.zero_le 1⟩
  refine ⟨uncontested, fun count idle => ?_⟩
  have sound := (sound_run_iff table nfqueueEnabled inputs).mpr uncontested count
  exact consistent_run table nfqueueEnabled sound idle

end

theorem consistent_of_sequential_threeNodes :
    Runs.Meets (step PythonText.asciiTable) Sequential (initial false) threeNodes ∧
      (run PythonText.asciiTable false (threeNodes.take 33)).shared.links.length = 2 ∧
      Runs.Meets (step PythonText.asciiTable) (Cooperation.Resumes Uncontested) (initial false)
        threeNodes ∧
      Consistent (run PythonText.asciiTable false (threeNodes.take 33)).shared := by
  have sequential : Runs.Meets (step PythonText.asciiTable) Sequential (initial false)
      threeNodes := by decide +kernel
  obtain ⟨uncontested, consistent⟩ := consistent_of_sequential PythonText.asciiTable false sequential
  exact ⟨sequential, by decide +kernel, uncontested, consistent 33 (by decide +kernel)⟩

end Aodvd.Dashboard
