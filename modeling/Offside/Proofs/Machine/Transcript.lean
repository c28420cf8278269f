import Offside.Command
import Offside.Proofs.Machine.Writing
import Offside.Proofs.Output

/-!
# Transcripts

A run that finds room for all it writes has a transcript: what it writes, taken together.
In front of an output that takes the whole transcript a machine runs to that end; in front
of another one it stops at the write that did not fit, and that is the error it ends with.
-/

namespace Offside

/-- The session with another output. -/
def Session.withOutput (session : Session) (output : Output) : Session :=
  { session with output }

/-- An error ends an evaluation as that error, unless the goal is to print to a limited
output, which answers with the error. -/
def Goal.passesErrors : Goal → Bool
  | .print (some _) | .printed (some _) => false
  | _ => true

namespace Machine

variable {machine after : Machine} {text : String} {result : Except EvalError Answer}
variable {session : Session} {output : Output}

/-- The machine with another output to write to. -/
def withOutput (machine : Machine) (output : Output) : Machine :=
  machine.towards output machine.goal

/-- What a step leads to, with another output. -/
def Next.withOutput : Next → Output → Next
  | .running machine, output => .running (machine.withOutput output)
  | .halted result session, output => .halted result (session.withOutput output)

/-! ## At the bottom -/

theorem runBody_withOutput (session : Session) (output : Output) (fuel : Nat)
    (className name : String) (locals : Scope) :
    runBody (session.withOutput output) fuel className name locals =
      (runBody session fuel className name locals).withOutput output := by
  have classes : (session.withOutput output).classes = session.classes := rfl
  rw [runBody, runBody, classes]
  cases session.classes.find? className with
  | none => rfl
  | some cls =>
      cases found : cls.method? name with
      | none => simp only [found, Next.withOutput, Session.withOutput]
      | some method => cases fuel <;> simp only [found] <;> rfl

theorem deliver_withOutput (machine : Machine) (output : Output) (value : Handle) :
    (machine.withOutput output).deliver value =
      (machine.deliver value).withOutput output := by
  obtain ⟨session, fuel, control, stack, goal, own⟩ := machine
  cases goal with
  | bindLocal className method name rest locals =>
      cases rest with
      | nil =>
          have same := runBody_withOutput
            { session with store := session.store.release (locals.displaced name) } output
          exact same fuel className method (locals.bind name value)
      | cons => rfl
  | inspect | sameLeft | sameRight | print | printed | executed => rfl

theorem abandon_withOutput (machine : Machine) (output : Output) (error : EvalError) :
    (machine.withOutput output).abandon error =
      (machine.abandon error).withOutput output := by
  obtain ⟨session, fuel, control, stack, goal, own⟩ := machine
  cases goal with
  | printed capacity => cases capacity <;> rfl
  | inspect | sameLeft | sameRight | print | bindLocal | executed => rfl

theorem passesErrors_runBody {session : Session} {fuel : Nat} {className name : String}
    {locals : Scope} (started : runBody session fuel className name locals = .running after) :
    after.goal.passesErrors := by
  unfold runBody at started
  split at started
  · cases started
  split at started
  · cases started
  · cases started
  · cases started
    rfl

theorem passesErrors_deliver {value : Handle} (passes : machine.goal.passesErrors)
    (delivered : machine.deliver value = .running after) : after.goal.passesErrors := by
  unfold deliver at delivered
  split at delivered
  next => cases delivered
  next =>
    cases delivered
    rfl
  next => cases delivered
  next capacity goal =>
    cases delivered
    rw [goal] at passes
    cases capacity with
    | none => rfl
    | some capacity => exact passes
  next => cases delivered
  next =>
    split at delivered
    · exact passesErrors_runBody delivered
    · cases delivered
      rfl
  next => cases delivered

theorem step_of_give {value : Handle} (control : machine.control = .give value)
    (bottom : machine.stack = []) : machine.step = machine.deliver value := by
  simp only [step, control, bottom]

theorem step_of_fail {error : EvalError} (control : machine.control = .fail error)
    (bottom : machine.stack = []) : machine.step = machine.abandon error := by
  simp only [step, control, bottom]

theorem exists_abandon_eq (machine : Machine) (error : EvalError) :
    ∃ result session, machine.abandon error = .halted result session ∧
      session.output = machine.output ∧ (machine.goal.passesErrors → result = .error error) := by
  unfold abandon
  split
  next goal =>
    refine ⟨_, _, rfl, rfl, fun passes => ?_⟩
    rw [goal] at passes
    cases passes
  next => exact ⟨_, _, rfl, rfl, fun _ => rfl⟩
  next => exact ⟨_, _, rfl, rfl, fun _ => rfl⟩

/-- After an error nothing is written any more. -/
theorem run_of_fail {error : EvalError} (failed : machine.control = .fail error)
    (passes : machine.goal.passesErrors) :
    machine.run.1 = .error error ∧ machine.run.2.output = machine.output := by
  obtain ⟨session, fuel, control, stack, goal, own⟩ := machine
  subst failed
  change goal.passesErrors at passes
  induction stack generalizing session with
  | nil =>
      let bottom : Machine := ⟨session, fuel, .fail error, [], goal, own⟩
      obtain ⟨result, left, halted, same, failed⟩ := bottom.exists_abandon_eq error
      rw [run_eq_finish, step_of_fail rfl rfl, halted]
      exact ⟨failed passes, same⟩
  | cons frame stack ih =>
      rw [run_eq_finish, step]
      cases frame with
      | leave => exact ih ..
      | _ => exact ih ..

/-! ## Runs -/

/-- A machine that finds room for all it writes writes a text, comes to a result and
leaves a session, whatever its output is. -/
inductive Transcript : Machine → String → Except EvalError Answer → Session → Prop where
  | halts {machine : Machine} {result : Except EvalError Answer} {session : Session} :
      (∀ output, (machine.withOutput output).step =
        .halted result (session.withOutput output)) →
      Transcript machine "" result session
  | passes {machine after : Machine} {text : String} {result : Except EvalError Answer}
      {session : Session} :
      (∀ output, (machine.withOutput output).step = .running (after.withOutput output)) →
      (machine.goal.passesErrors → after.goal.passesErrors) →
      Transcript after text result session → Transcript machine text result session
  | prints {machine : Machine} {first text : String} {result : Except EvalError Answer}
      {session : Session} :
      machine.Prints first → Transcript (machine.give .empty) text result session →
      Transcript machine (first ++ text) result session

theorem finishRendering_of_fits (machine : Machine) {text : String}
    (fits : output.fits text.toUTF8.size) :
    (machine.withOutput output).finishRendering [text] .output =
      (machine.give .empty).withOutput (output.write text.toUTF8) := by
  have room : (machine.withOutput output).output.fits text.toUTF8.size = true := fits
  simp only [finishRendering, Output.join_singleton, room, if_true]
  rfl

theorem finishRendering_of_not_fits (machine : Machine) {text : String}
    (crossed : ¬output.fits text.toUTF8.size) :
    (machine.withOutput output).finishRendering [text] .output =
      (machine.fail .outputFailed).withOutput (output.write text.toUTF8) := by
  have room : (machine.withOutput output).output.fits text.toUTF8.size = false :=
    Bool.eq_false_iff.mpr crossed
  simp only [finishRendering, Output.join_singleton, room, Bool.false_eq_true, if_false]
  rfl

theorem Prints.lessToDo (prints : machine.Prints text) :
    LessToDo (machine.give .empty) machine := by
  have stepped := prints .silent machine.goal
  have room := Output.fits_of_unlimited .silent rfl text.toUTF8.size
  rw [← withOutput, finishRendering_of_fits machine room] at stepped
  have less := lessToDo_step stepped
  exact less

theorem Passes.lessToDo (passes : machine.Passes after) :
    LessToDo (after.towards machine.output machine.goal) machine :=
  lessToDo_step (passes machine.output machine.goal)

theorem Passes.step_withOutput (passes : machine.Passes after) (output : Output) :
    (machine.withOutput output).step =
      .running ((after.towards machine.output machine.goal).withOutput output) :=
  passes output machine.goal

/-- Every machine has a transcript. -/
theorem exists_transcript (machine : Machine) :
    ∃ text result session, machine.Transcript text result session := by
  induction machine using wellFounded_lessToDo.induction with
  | _ machine ih =>
  rcases machine.step_cases with
    ⟨first, prints⟩ | ⟨after, passes⟩ | ⟨value, control, bottom⟩ | ⟨error, control, bottom⟩
  · obtain ⟨text, result, session, transcript⟩ := ih _ prints.lessToDo
    exact ⟨_, _, _, .prints prints transcript⟩
  · obtain ⟨text, result, session, transcript⟩ := ih _ passes.lessToDo
    exact ⟨_, _, _, .passes passes.step_withOutput id transcript⟩
  · have steps (output : Output) : (machine.withOutput output).step =
        (machine.deliver value).withOutput output := by
      rw [← deliver_withOutput]
      exact step_of_give control bottom
    cases delivered : machine.deliver value with
    | halted result session =>
        rw [delivered] at steps
        exact ⟨_, _, _, .halts steps⟩
    | running after =>
        rw [delivered] at steps
        have less := lessToDo_step ((step_of_give control bottom).trans delivered)
        obtain ⟨text, result, session, transcript⟩ := ih after less
        have keeps (passes : machine.goal.passesErrors) := passesErrors_deliver passes delivered
        exact ⟨_, _, _, .passes steps keeps transcript⟩
  · obtain ⟨result, session, halted, _⟩ := machine.exists_abandon_eq error
    have steps (output : Output) : (machine.withOutput output).step =
        (machine.abandon error).withOutput output := by
      rw [← abandon_withOutput]
      exact step_of_fail control bottom
    rw [halted] at steps
    exact ⟨_, _, _, .halts steps⟩

namespace Transcript

variable (transcript : machine.Transcript text result session)
include transcript

/-- In front of an output that takes all of the text, a machine runs to its end. -/
theorem run_of_fits (fits : output.fits text.toUTF8.size) :
    (machine.withOutput output).run =
      (result, session.withOutput (output.write text.toUTF8)) := by
  induction transcript generalizing output with
  | halts steps =>
      rw [run_eq_finish, steps, Next.finish, output.write_empty.1]
  | passes steps _ _ ih => rw [run_eq_finish, steps, Next.finish, ih fits]
  | @prints machine first text result session prints _ ih =>
      rw [Output.toUTF8_append, ByteArray.size_append, Output.fits_append] at fits
      have printed := prints output machine.goal
      rw [← withOutput, finishRendering_of_fits machine fits.1] at printed
      rw [run_eq_finish, printed, Next.finish, ih fits.2, Output.write_append,
        Output.toUTF8_append]

/-- In front of any other output it stops at the write that does not fit. -/
theorem run_of_not_fits (passes : machine.goal.passesErrors)
    (crossed : ¬output.fits text.toUTF8.size) :
    (machine.withOutput output).run.1 = .error .outputFailed ∧
      (machine.withOutput output).run.2.output = output.write text.toUTF8 := by
  induction transcript generalizing output with
  | halts => exact (crossed output.write_empty.2).elim
  | passes steps keeps _ ih =>
      rw [run_eq_finish, steps, Next.finish]
      exact ih (keeps passes) crossed
  | @prints machine first text result session prints _ ih =>
      rw [Output.toUTF8_append, ByteArray.size_append, Output.fits_append] at crossed
      rw [Output.toUTF8_append]
      have printed := prints output machine.goal
      by_cases fits : output.fits first.toUTF8.size
      · rw [← withOutput, finishRendering_of_fits machine fits] at printed
        rw [run_eq_finish, printed, Next.finish, ← Output.write_append]
        exact ih passes fun rest => crossed ⟨fits, rest⟩
      · rw [← withOutput, finishRendering_of_not_fits machine fits] at printed
        rw [run_eq_finish, printed, Next.finish, Output.write_append_of_not_fits _ _ fits]
        exact run_of_fail rfl passes

end Transcript

end Machine

end Offside
