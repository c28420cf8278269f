import Offside.Proofs.Machine.Bodies
import Offside.Proofs.Machine.Returning
import Offside.Proofs.Machine.Transcript

/-!
# What bodies write

An operation may write to the output in two ways: by itself, or through the bodies that it
starts. Runs in which all writes are those of bodies are set apart here, with the texts that
are written. As long as an operation has nothing else to write, the output grows by exactly
these texts.
-/

namespace Offside.Machine

variable {machine next start middle last : Machine} {base : List Frame} {goal : Goal}
  {texts : List String}

theorem writes?_of_isOutcome (outcome : machine.control.isOutcome) : machine.writes? = none := by
  rw [writes?]
  cases controlled : machine.control with
  | render =>
      rw [controlled] at outcome
      cases outcome
  | _ => rfl

/-- A step leaves the output with the text that it writes. -/
theorem output_of_step (stepped : machine.step = .running next) :
    next.output = machine.output.write (String.join machine.writes?.toList).toUTF8 := by
  have itself : machine.towards machine.output machine.goal = machine := rfl
  have nothing (none : machine.writes? = none) :
      machine.output.write (String.join machine.writes?.toList).toUTF8 = machine.output := by
    rw [none]
    exact machine.output.write_empty.1
  rcases machine.step_atop_cases with
    ⟨text, writes, prints⟩ | ⟨after, none, passes⟩ | ⟨value, control, bottom⟩ |
      ⟨error, control, bottom⟩
  · have printed := prints.prints machine.output machine.goal
    rw [itself, stepped] at printed
    cases printed
    rw [writes, Option.toList_some, String.join_cons, String.join_nil, String.append_empty]
    simp only [finishRendering]
    split <;> rfl
  · have passed := passes.passes machine.output machine.goal
    rw [itself, stepped] at passed
    cases passed
    rw [nothing none]
    rfl
  · have delivered := deliver_withOutput machine machine.output value
    rw [step_of_give control bottom] at stepped
    rw [show machine.withOutput machine.output = machine from rfl, stepped] at delivered
    have same : next = next.withOutput machine.output := Next.running.inj delivered
    rw [nothing (writes?_of_isOutcome (by rw [control]; rfl))]
    exact congrArg (·.output) same
  · obtain ⟨_, _, halted, _⟩ := machine.exists_abandon_eq error
    rw [step_of_fail control bottom, halted] at stepped
    cases stepped

/-- A machine comes to be another one, and does not return to the frames before. Whatever is
written on the way is written inside of bodies, and these are the texts. -/
inductive WritesInside (base : List Frame) : Machine → List String → Machine → Prop where
  | refl (machine : Machine) : WritesInside base machine [] machine
  | step {machine next last : Machine} {texts : List String} :
      ¬machine.ReturnedTo base → machine.step = .running next →
      (machine.writes?.isSome → machine.InBody base) → WritesInside base next texts last →
      WritesInside base machine (machine.writes?.toList ++ texts) last

namespace WritesInside

theorem reaches (writes : WritesInside base start texts last) : Reaches base start last := by
  induction writes with
  | refl => exact .refl _
  | step goesOn stepped _ _ ih => exact .step goesOn stepped ih

theorem trans {later : List String} (first : WritesInside base start texts middle)
    (second : WritesInside base middle later last) :
    WritesInside base start (texts ++ later) last := by
  induction first with
  | refl => exact second
  | step goesOn stepped inside _ ih =>
      rw [List.append_assoc]
      exact .step goesOn stepped inside (ih second)

/-- A step that writes nothing can go first. -/
theorem silent (goesOn : ¬machine.ReturnedTo base) (stepped : machine.step = .running next)
    (nothing : machine.writes? = none) (writes : WritesInside base next texts last) :
    WritesInside base machine texts last := by
  have whole := WritesInside.step goesOn stepped (by rw [nothing]; exact nofun) writes
  rw [nothing] at whole
  exact whole

/-- The output has grown by the texts. -/
theorem output_eq (writes : WritesInside base start texts last) :
    last.output = start.output.write (String.join texts).toUTF8 := by
  induction writes with
  | refl machine => exact machine.output.write_empty.1.symm
  | step _ stepped _ _ ih =>
      rw [ih, output_of_step stepped, Output.write_append, ← Output.toUTF8_append,
        ← String.join_append]

/-- What is written inside of bodies above frames of an operation is so above what the operation
began with. -/
theorem toLower {frames : List Frame} (operational : ∀ frame ∈ frames, frame.isOperational)
    (more : frames ≠ []) (above : start.Above (frames ++ base))
    (writes : WritesInside (frames ++ base) start texts last) :
    WritesInside base start texts last := by
  induction writes with
  | refl => exact .refl _
  | @step machine next last texts goesOn stepped inside _ ih =>
      obtain ⟨next, stepped', aboveNext⟩ := above.exists_step goesOn
      rw [stepped] at stepped'
      cases stepped'
      refine .step (not_returnedTo_of_length_lt ?_) stepped (fun writes => ?_) (ih aboveNext)
      · have longer := above.length_le
        have some := List.length_pos_iff.mpr more
        rw [List.length_append] at longer
        omega
      · obtain ⟨caller, upper, inside, operationalUpper⟩ := inside writes
        refine ⟨caller, upper ++ frames, ?_, ?_⟩
        · rw [List.append_assoc]
          exact inside
        · exact List.forall_mem_append.mpr ⟨operationalUpper, operational⟩

end WritesInside

/-! ## A body over frames -/

section Body

variable {frames : List Frame} {caller : Scope}

theorem not_returnedTo_onto_append (more : frames ≠ []) :
    ¬(machine.onto (frames ++ base) goal).ReturnedTo base := by
  apply not_returnedTo_of_length_lt
  have some := List.length_pos_iff.mpr more
  simp only [onto, List.length_append]
  omega

theorem returnedTo_of_leaving (leaving : machine.ReturnedTo [.leave caller])
    (stepped : machine.step = .running next) : next.ReturnedTo [] := by
  obtain ⟨top, outcome⟩ := leaving
  rw [step, top] at stepped
  rcases Control.eq_give_or_fail outcome with ⟨value, controlled⟩ | ⟨error, controlled⟩
  · rw [controlled] at stepped
    cases stepped
    exact ⟨rfl, rfl⟩
  · rw [controlled] at stepped
    cases stepped
    exact ⟨rfl, rfl⟩

/-- A body that has been entered writes inside of itself, up to its return. -/
theorem Reaches.exists_writesInside (reaches : Reaches [] start last)
    (above : start.Above [.leave caller]) (returned : last.ReturnedTo []) :
    ∃ texts, ∀ frames base goal, (∀ frame ∈ frames, frame.isOperational) → frames ≠ [] →
      WritesInside base (start.onto (frames ++ base) goal) texts
        (last.onto (frames ++ base) goal) := by
  induction reaches with
  | refl => exact ⟨[], fun _ _ _ _ _ => .refl _⟩
  | @step machine next last goesOn stepped reaches ih =>
      by_cases leaving : machine.ReturnedTo [.leave caller]
      · -- The frame of the body is taken away, and that is the return.
        have left := returnedTo_of_leaving leaving stepped
        cases Returns.unique ⟨.refl next, left⟩ ⟨reaches, returned⟩
        refine ⟨[], fun frames base goal _ more => ?_⟩
        exact .silent (not_returnedTo_onto_append more) (step_onto stepped goesOn _ goal)
          (writes?_of_isOutcome leaving.2) (.refl _)
      · obtain ⟨next', stepped', aboveNext⟩ := above.exists_step leaving
        rw [stepped] at stepped'
        cases stepped'
        obtain ⟨texts, writes⟩ := ih aboveNext returned
        refine ⟨machine.writes?.toList ++ texts, fun frames base goal operational more => ?_⟩
        refine .step (not_returnedTo_onto_append more) (step_onto stepped goesOn _ goal)
          (fun _ => ⟨caller, frames, ?_, operational⟩) (writes frames base goal operational more)
        obtain ⟨upper, whole⟩ := above
        refine ⟨upper, ?_⟩
        rw [Machine.onto, ← whole, List.append_assoc]
        rfl

/-- So does a body that is about to be entered. -/
theorem Returns.exists_writesInside {activation : Activation} (returns : Returns [] start last)
    (entering : start.control = .enter activation) (bottom : start.stack = []) :
    ∃ texts, ∀ frames base goal, (∀ frame ∈ frames, frame.isOperational) → frames ≠ [] →
      WritesInside base (start.onto (frames ++ base) goal) texts
        (last.onto (frames ++ base) goal) := by
  obtain ⟨reaches, returned⟩ := returns
  have nothing : start.writes? = none := by simp only [writes?, entering]
  cases reaches with
  | refl =>
      have busy := returned.2
      rw [entering] at busy
      cases busy
  | @step _ next _ goesOn stepped reaches =>
      have entered : next.stack = [.leave start.scope] := by
        simp only [step, entering] at stepped
        cases stepped
        rw [enter, bottom]
      have above : next.Above [.leave start.scope] := ⟨[], entered.symm⟩
      obtain ⟨texts, writes⟩ := reaches.exists_writesInside above returned
      refine ⟨texts, fun frames base goal operational more => ?_⟩
      exact .silent (not_returnedTo_onto_append more) (step_onto stepped goesOn _ goal) nothing
        (writes frames base goal operational more)

end Body

end Offside.Machine
