import Offside.Proofs.Machine.Course
import Offside.Proofs.Machine.Writing

/-!
# Runs that return

A run returns to frames when for the first time the stack is down to them with a value or an
error for them. It returns in one way only, and what waits below makes no difference: a run
over nothing is the same run over any frames, and in front of any goal.
-/

namespace Offside.Machine

/-- A machine comes to be another one, and does not return to the frames before. -/
inductive Reaches (base : List Frame) : Machine → Machine → Prop where
  | refl (machine : Machine) : Reaches base machine machine
  | step {machine next last : Machine} :
      ¬machine.ReturnedTo base → machine.step = .running next → Reaches base next last →
      Reaches base machine last

/-- A machine returns to the frames, and is the last one then. -/
structure Returns (base : List Frame) (start last : Machine) : Prop where
  reaches : Reaches base start last
  returned : last.ReturnedTo base

variable {machine next start middle last last' : Machine} {base lower : List Frame} {goal : Goal}

theorem not_returnedTo_of_length_lt (longer : base.length < machine.stack.length) :
    ¬machine.ReturnedTo base := by
  rintro ⟨returned, _⟩
  rw [returned] at longer
  exact Nat.lt_irrefl _ longer

theorem not_returnedTo_of_control (busy : machine.control.isOutcome = false) :
    ¬machine.ReturnedTo base := by
  rintro ⟨_, outcome⟩
  rw [busy] at outcome
  cases outcome

namespace Reaches

theorem trans (first : Reaches base start middle) (second : Reaches base middle last) :
    Reaches base start last := by
  induction first with
  | refl => exact second
  | step goesOn stepped _ ih => exact .step goesOn stepped (ih second)

theorem above (reaches : Reaches base start last) (above : start.Above base) :
    last.Above base := by
  induction reaches with
  | refl => exact above
  | step goesOn stepped _ ih =>
      obtain ⟨next, stepped', aboveNext⟩ := above.exists_step goesOn
      rw [stepped] at stepped'
      cases stepped'
      exact ih aboveNext

/-- What happens above frames happens above any of them that are lower. -/
theorem toLower (reaches : Reaches base start last) (above : start.Above base)
    (below : lower.length < base.length) : Reaches lower start last := by
  induction reaches with
  | refl => exact .refl _
  | step goesOn stepped _ ih =>
      obtain ⟨next, stepped', aboveNext⟩ := above.exists_step goesOn
      rw [stepped] at stepped'
      cases stepped'
      have longer := not_returnedTo_of_length_lt (Nat.lt_of_lt_of_le below above.length_le)
      exact .step longer stepped (ih aboveNext)

theorem fuel_le_of_step (stepped : machine.step = .running next) : next.fuel ≤ machine.fuel := by
  rcases Prod.lex_def.mp (lessToDo_step stepped) with less | ⟨same, _⟩
  · exact Nat.le_of_lt less
  · exact Nat.le_of_eq same

theorem fuel_le (reaches : Reaches base start last) : last.fuel ≤ start.fuel := by
  induction reaches with
  | refl => exact Nat.le_refl _
  | step _ stepped _ ih => exact Nat.le_trans ih (fuel_le_of_step stepped)

theorem run_eq (reaches : Reaches base start last) : start.run = last.run := by
  induction reaches with
  | refl => rfl
  | step _ stepped _ ih => rw [run_eq_finish, stepped, Next.finish, ih]

/-- A machine that reaches another returns as that one does. -/
theorem returns (reaches : Reaches base start middle) (returns : Returns base middle last) :
    Returns base start last :=
  ⟨reaches.trans returns.reaches, returns.returned⟩

end Reaches

theorem Returns.unique (returns : Returns base start last) (returns' : Returns base start last') :
    last = last' := by
  obtain ⟨reaches, returned⟩ := returns
  obtain ⟨reaches', returned'⟩ := returns'
  induction reaches with
  | refl =>
      cases reaches' with
      | refl => rfl
      | step goesOn => exact (goesOn returned).elim
  | step goesOn stepped _ ih =>
      cases reaches' with
      | refl => exact (goesOn returned').elim
      | step _ stepped' reaches' =>
          rw [stepped] at stepped'
          cases stepped'
          exact ih returned reaches'

/-- The first machine that has returned is the one that the run returns with. -/
theorem Above.returns_after {count : Nat} (above : machine.Above base)
    (goesOn : ∀ earlier, earlier < count → ¬(machine.after earlier).ReturnedTo base)
    (returned : (machine.after count).ReturnedTo base) :
    Returns base machine (machine.after count) := by
  induction count generalizing machine with
  | zero => exact ⟨.refl machine, returned⟩
  | succ count ih =>
      have notYet := goesOn 0 (Nat.succ_pos count)
      obtain ⟨next, stepped, aboveNext⟩ := above.exists_step notYet
      rw [after_succ stepped] at returned ⊢
      have later := ih aboveNext (fun earlier before => ?_) returned
      · exact ⟨.step notYet stepped later.reaches, later.returned⟩
      · rw [← after_succ stepped]
        exact goesOn (earlier + 1) (Nat.succ_lt_succ before)

/-- It is enough to look at the machines before: one that has not returned has no outcome, or has
not as many frames. -/
theorem Above.returns_of_all {count : Nat} (above : machine.Above base)
    (goesOn : (List.range count).all fun earlier =>
      !((machine.after earlier).control.isOutcome &&
        (machine.after earlier).stack.length == base.length))
    (returned : (machine.after count).ReturnedTo base) :
    Returns base machine (machine.after count) := by
  refine above.returns_after (fun earlier before comesBack => ?_) returned
  have busy := List.all_eq_true.mp goesOn earlier (List.mem_range.mpr before)
  rw [comesBack.1, comesBack.2, beq_self_eq_true] at busy
  cases busy

/-- A machine over frames returns to them. -/
theorem Above.exists_returns (above : machine.Above base) :
    ∃ last, Returns base machine last := by
  obtain ⟨length, returned, goesOn, _⟩ := above.exists_returnedTo
  exact ⟨_, above.returns_after goesOn returned⟩

/-! ## Over other frames -/

/-- The machine over frames, in front of a goal. -/
def onto (machine : Machine) (base : List Frame) (goal : Goal) : Machine :=
  { machine with stack := machine.stack ++ base, goal }

theorem finishRendering_onto (machine : Machine) (base : List Frame) (goal : Goal)
    (pieces : List String) (purpose : Purpose) :
    (machine.onto base goal).finishRendering pieces purpose =
      (machine.finishRendering pieces purpose).onto base goal := by
  have output : (machine.onto base goal).output = machine.output := rfl
  have own : (machine.onto base goal).own = machine.own := rfl
  cases purpose with
  | value => rfl
  | output | own =>
      simp only [finishRendering, output, own]
      split <;> rfl

/-- A step with something to do above the frames is the same step over any others. -/
theorem step_onto (stepped : machine.step = .running next) (goesOn : ¬machine.ReturnedTo [])
    (base : List Frame) (goal : Goal) :
    (machine.onto base goal).step = .running (next.onto base goal) := by
  have itself : machine.atop [] machine.output machine.goal = machine := atop_nil machine _ _
  rcases machine.step_atop_cases with
    ⟨text, _, prints⟩ | ⟨after, _, passes⟩ | ⟨value, control, bottom⟩ | ⟨error, control, bottom⟩
  · have alone := prints [] machine.output machine.goal
    rw [itself, stepped] at alone
    cases alone
    rw [← finishRendering_onto]
    exact prints base machine.output goal
  · have alone := passes [] machine.output machine.goal
    rw [itself, stepped, atop_nil] at alone
    cases alone
    exact passes base machine.output goal
  · exact (goesOn ⟨bottom, by rw [control]; rfl⟩).elim
  · exact (goesOn ⟨bottom, by rw [control]; rfl⟩).elim

theorem returnedTo_onto_iff : (machine.onto base goal).ReturnedTo base ↔ machine.ReturnedTo [] := by
  rw [ReturnedTo, ReturnedTo, onto, List.append_left_eq_self]

/-- A run over nothing goes the same way over any frames. -/
theorem Reaches.onto (reaches : Reaches [] start last) (base : List Frame) (goal : Goal) :
    Reaches base (start.onto base goal) (last.onto base goal) := by
  induction reaches with
  | refl => exact .refl _
  | step goesOn stepped _ ih =>
      refine .step ?_ (step_onto stepped goesOn base goal) ih
      intro returned
      exact goesOn (returnedTo_onto_iff.mp returned)

end Offside.Machine
