import Offside.Proofs.Machine.Course
import Offside.Proofs.Machine.Transcript

/-!
# Output does not influence evaluation

A command gives the same answer in front of every output that has room for all it writes,
and the output keeps what was written, and no more. In front of an output with limited
room commands give the same answers up to the one whose writing crosses the limit.
-/

namespace Offside

/-- Commands that work on the output itself. -/
def Command.touchesOutput : Command → Bool
  | .write _ | .flush | .clear => true
  | _ => false

/-- Commands that write only by printing, to the output of the session, and end with the
errors that arise. -/
def Command.isPlain : Command → Bool
  | .write _ | .flush | .clear | .print _ (some _) => false
  | _ => true

/-- What a command makes of an output that has room for what the command writes. -/
def Command.effect (text : String) (output : Output) : Command → Output
  | .clear => output.clear
  | _ => output.write text.toUTF8

namespace Command

variable (command : Command) {text : String} {output : Output}

theorem effect_of_ne_clear (keeps : command ≠ .clear) :
    command.effect text output = output.write text.toUTF8 := by
  cases command with
  | clear => exact (keeps rfl).elim
  | _ => rfl

theorem room?_effect (unlimited : output.room? = none) :
    (command.effect text output).room? = none := by
  by_cases clears : command = .clear
  · rw [clears]
    exact output.room?_clear.trans unlimited
  · rw [effect_of_ne_clear command clears]
    exact output.room?_write_of_unlimited unlimited _

theorem clear_effect (unlimited : output.room? = none) :
    (command.effect text output).clear = output.clear := by
  by_cases clears : command = .clear
  · rw [clears]
    exact output.clear_clear
  · rw [effect_of_ne_clear command clears]
    exact output.clear_write unlimited _

end Command

namespace Machine.Next

/-- Wherever a step leads, the run that follows writes a text. It comes to its end in
front of an output that takes all of the text, and stops with an error in front of any
other one. -/
theorem exists_finish (next : Next) :
    ∃ (text : String) (result : Except EvalError Answer) (after : Session),
      (∀ output : Output, output.fits text.toUTF8.size →
        (next.withOutput output).finish =
          (result, after.withOutput (output.write text.toUTF8))) ∧
      ((∀ machine, next = .running machine → machine.goal.passesErrors) →
        ∀ output : Output, ¬output.fits text.toUTF8.size →
          (next.withOutput output).finish.1 = .error .outputFailed ∧
            (next.withOutput output).finish.2.output = output.write text.toUTF8) := by
  cases next with
  | halted result session =>
      refine ⟨"", result, session, fun output _ => ?_, fun _ output crossed => ?_⟩
      · rw [output.write_empty.1]
        rfl
      · exact (crossed output.write_empty.2).elim
  | running machine =>
      obtain ⟨text, result, session, transcript⟩ := machine.exists_transcript
      refine ⟨text, result, session, fun output fits => ?_, fun passes output crossed => ?_⟩
      · exact transcript.run_of_fits fits
      · exact transcript.run_of_not_fits (passes machine rfl) crossed

end Machine.Next

namespace Session

open Machine

variable (session : Session)

theorem begin_withOutput {command : Command} (apart : command.touchesOutput = false)
    (output : Output) :
    (session.withOutput output).begin command = (session.begin command).withOutput output := by
  cases command with
  | write | flush | clear => cases apart
  | execute className method locals =>
      cases locals with
      | nil => exact runBody_withOutput session output fuelPerCommand className method {}
      | cons => rfl
  | defineClass name parent methods =>
      cases parent with
      | none => rfl
      | some parent =>
          have classes : (session.withOutput output).classes = session.classes := rfl
          simp only [begin, classes]
          cases session.classes.find? parent <;> rfl
  | inspect | same | print | summarize | method | describeScope => rfl

theorem passesErrors_begin {command : Command} (plain : command.isPlain) {machine : Machine}
    (begun : session.begin command = .running machine) : machine.goal.passesErrors := by
  cases command with
  | write | flush | clear => cases plain
  | inspect | same =>
      cases begun
      rfl
  | print subject capacity =>
      cases begun
      cases capacity with
      | none => rfl
      | some capacity => cases plain
  | execute className method locals =>
      cases locals with
      | nil => exact passesErrors_runBody begun
      | cons =>
          cases begun
          rfl
  | defineClass name parent methods =>
      cases parent with
      | none => cases begun
      | some parent =>
          simp only [begin] at begun
          split at begun <;> cases begun
  | summarize | method | describeScope => cases begun

/-- A command writes a text, and has the same answer and leaves the same session in front
of every output without a limit. -/
theorem exists_perform_unlimited (command : Command) :
    ∃ (text : String) (result : Except EvalError Answer) (after : Session),
      ∀ output : Output, output.room? = none →
        (session.withOutput output).perform command =
          (result, after.withOutput (command.effect text output)) := by
  by_cases touches : command.touchesOutput
  · cases command with
    | write text =>
        refine ⟨text, .ok (.count text.toUTF8.size), session, fun output unlimited => ?_⟩
        have accepted : output.acceptable text.toUTF8.size = text.toUTF8.size := by
          rw [Output.acceptable, unlimited]
        have written : ¬(text.toUTF8.size = 0 ∧ text.toUTF8.size ≠ 0) := fun both => both.2 both.1
        simp only [perform, begin, write, withOutput, accepted, if_neg written, Machine.Next.finish,
          Command.effect]
    | flush =>
        refine ⟨"", .ok .nothing, session, fun output unlimited => ?_⟩
        have room : output.isFull = false := by
          rw [Output.isFull, unlimited]
          rfl
        simp only [perform, begin, withOutput, room, Machine.Next.finish, Command.effect,
          output.write_empty.1]
        rfl
    | clear => exact ⟨"", .ok .nothing, session, fun output _ => rfl⟩
    | _ => cases touches
  · rw [Bool.not_eq_true] at touches
    obtain ⟨text, result, after, fitting, _⟩ := (session.begin command).exists_finish
    refine ⟨text, result, after, fun output unlimited => ?_⟩
    rw [perform, begin_withOutput session touches,
      fitting output (output.fits_of_unlimited unlimited _)]
    cases command with
    | write | flush | clear => cases touches
    | _ => rfl

/-- A plain command has the same answer and leaves the same session in front of every
output with room for its text. In front of any other one it fails at the limit. -/
theorem exists_perform_plain {command : Command} (plain : command.isPlain) :
    ∃ (text : String) (result : Except EvalError Answer) (after : Session),
      (∀ output : Output, output.fits text.toUTF8.size →
        (session.withOutput output).perform command =
          (result, after.withOutput (output.write text.toUTF8))) ∧
      ∀ output : Output, ¬output.fits text.toUTF8.size →
        ((session.withOutput output).perform command).1 = .error .outputFailed ∧
          ((session.withOutput output).perform command).2.output = output.write text.toUTF8 := by
  have apart : command.touchesOutput = false := by
    cases command with
    | write | flush | clear => cases plain
    | _ => rfl
  obtain ⟨text, result, after, fitting, crossing⟩ := (session.begin command).exists_finish
  refine ⟨text, result, after, fun output fits => ?_, fun output crossed => ?_⟩
  · rw [perform, begin_withOutput session apart, fitting output fits]
  · rw [perform, begin_withOutput session apart]
    exact crossing (fun _ begun => passesErrors_begin session plain begun) output crossed

/-! ## Many commands -/

/-- The session after commands. -/
def after (session : Session) : List Command → Session
  | [] => session
  | command :: commands => (session.perform command).2.after commands

/-- The answers to commands. -/
def results (session : Session) (commands : List Command) : List (Except EvalError Answer) :=
  session.performAll (fun result _ => result) commands

theorem results_cons (session : Session) (command : Command) (commands : List Command) :
    session.results (command :: commands) =
      (session.perform command).1 :: (session.perform command).2.results commands := rfl

/-- In front of outputs without a limit commands that do not clear them have the same
answers, and the outputs keep the same text after what they held. -/
theorem exists_after_of_not_clear {commands : List Command} (keeping : .clear ∉ commands) :
    ∃ (results : List (Except EvalError Answer)) (later : Session) (text : String),
      ∀ output : Output, output.room? = none →
        (session.withOutput output).results commands = results ∧
          (session.withOutput output).after commands =
            later.withOutput (output.write text.toUTF8) := by
  induction commands generalizing session with
  | nil =>
      refine ⟨[], session, "", fun output _ => ⟨rfl, ?_⟩⟩
      rw [output.write_empty.1]
      rfl
  | cons command commands ih =>
      rw [List.mem_cons, not_or] at keeping
      obtain ⟨first, result, between, performed⟩ := session.exists_perform_unlimited command
      obtain ⟨results, later, rest, ih⟩ := ih between keeping.2
      refine ⟨result :: results, later, first ++ rest, fun output unlimited => ?_⟩
      have written : (session.withOutput output).perform command =
          (result, between.withOutput (output.write first.toUTF8)) := by
        rw [performed output unlimited, command.effect_of_ne_clear (Ne.symm keeping.1)]
      obtain ⟨sameResults, kept⟩ := ih _ (output.room?_write_of_unlimited unlimited _)
      rw [results_cons, after, written, sameResults, kept, Output.write_append,
        Output.toUTF8_append]
      exact ⟨rfl, rfl⟩

/-- When the outputs are cleared on the way, they keep the same text after nothing. -/
theorem exists_after_of_clear {commands : List Command} (clearing : .clear ∈ commands) :
    ∃ (results : List (Except EvalError Answer)) (later : Session) (text : String),
      ∀ output : Output, output.room? = none →
        (session.withOutput output).results commands = results ∧
          (session.withOutput output).after commands =
            later.withOutput (output.clear.write text.toUTF8) := by
  induction commands generalizing session with
  | nil => cases clearing
  | cons command commands ih =>
      obtain ⟨first, result, between, performed⟩ := session.exists_perform_unlimited command
      by_cases again : .clear ∈ commands
      · obtain ⟨results, later, rest, ih⟩ := ih between again
        refine ⟨result :: results, later, rest, fun output unlimited => ?_⟩
        obtain ⟨sameResults, kept⟩ := ih _ (command.room?_effect unlimited)
        rw [results_cons, after, performed output unlimited, sameResults, kept,
          command.clear_effect unlimited]
        exact ⟨rfl, rfl⟩
      · have last : command = .clear := by
          rcases List.mem_cons.mp clearing with same | later
          · exact same.symm
          · exact (again later).elim
        obtain ⟨results, later, rest, following⟩ := between.exists_after_of_not_clear again
        refine ⟨result :: results, later, rest, fun output unlimited => ?_⟩
        obtain ⟨sameResults, kept⟩ := following _ (output.room?_clear.trans unlimited)
        subst last
        rw [results_cons, after, performed output unlimited]
        exact ⟨congrArg _ sameResults, kept⟩

theorem results_eq_of_unlimited {first second : Output} (unlimitedFirst : first.room? = none)
    (unlimitedSecond : second.room? = none) (commands : List Command) :
    (session.withOutput first).results commands =
      (session.withOutput second).results commands := by
  by_cases clears : .clear ∈ commands
  · obtain ⟨_, _, _, same⟩ := session.exists_after_of_clear clears
    exact (same first unlimitedFirst).1.trans (same second unlimitedSecond).1.symm
  · obtain ⟨_, _, _, same⟩ := session.exists_after_of_not_clear clears
    exact (same first unlimitedFirst).1.trans (same second unlimitedSecond).1.symm

theorem output_after_silent (commands : List Command) :
    ((session.withOutput .silent).after commands).output = .silent := by
  by_cases clears : .clear ∈ commands
  · obtain ⟨_, _, _, same⟩ := session.exists_after_of_clear clears
    exact congrArg Session.output (same .silent rfl).2
  · obtain ⟨_, _, _, same⟩ := session.exists_after_of_not_clear clears
    exact congrArg Session.output (same .silent rfl).2

/-- What a buffer held stays in front of what is written, until it is cleared. -/
theorem captured_after_ofText (preset : String) (commands : List Command) :
    (.clear ∉ commands → ((session.withOutput (.ofText preset)).after commands).output.captured =
      preset ++ ((session.withOutput .empty).after commands).output.captured) ∧
    (.clear ∈ commands → ((session.withOutput (.ofText preset)).after commands).output.captured =
      ((session.withOutput .empty).after commands).output.captured) := by
  constructor
  · intro keeping
    obtain ⟨_, later, text, same⟩ := session.exists_after_of_not_clear keeping
    have fromPreset := (same (.ofText preset) rfl).2
    have fromEmpty := (same .empty rfl).2
    rw [Output.write_ofText] at fromPreset
    rw [Output.write_empty_eq] at fromEmpty
    rw [fromPreset, fromEmpty]
    exact (Output.captured_ofText _).trans (congrArg _ (Output.captured_ofText text).symm)
  · intro clearing
    obtain ⟨_, _, _, same⟩ := session.exists_after_of_clear clearing
    rw [(same (.ofText preset) rfl).2, (same .empty rfl).2]
    rfl

/-- As long as no command fails for want of room, commands agree in front of an output with
limited room and of a buffer. -/
theorem limited_agrees {capacity : Nat} {text : String} (within : text.toUTF8.size ≤ capacity)
    {commands : List Command} (plain : ∀ command ∈ commands, command.isPlain)
    (unfailed : ∀ result ∈ (session.withOutput (.limited capacity text.toUTF8)).results commands,
      result ≠ .error .outputFailed) :
    (session.withOutput (.limited capacity text.toUTF8)).results commands =
        (session.withOutput (.ofText text)).results commands ∧
      ∃ (later : Session) (whole : String), whole.toUTF8.size ≤ capacity ∧
        (session.withOutput (.limited capacity text.toUTF8)).after commands =
          later.withOutput (.limited capacity whole.toUTF8) ∧
        (session.withOutput (.ofText text)).after commands = later.withOutput (.ofText whole) := by
  induction commands generalizing session text with
  | nil => exact ⟨rfl, session, text, within, rfl, rfl⟩
  | cons command commands ih =>
      obtain ⟨plainFirst, plain⟩ := List.forall_mem_cons.mp plain
      obtain ⟨written, result, between, fitting, crossing⟩ :=
        session.exists_perform_plain plainFirst
      rw [results_cons] at unfailed
      obtain ⟨succeeded, unfailed⟩ := List.forall_mem_cons.mp unfailed
      have fits : (Output.limited capacity text.toUTF8).fits written.toUTF8.size :=
        Decidable.byContradiction fun crossed => succeeded (crossing _ crossed).1
      obtain ⟨kept, within⟩ := Output.write_limited_of_fits within fits
      have limited := fitting _ fits
      have buffered := fitting (.ofText text) (Output.fits_of_unlimited _ rfl _)
      rw [kept] at limited
      rw [Output.write_ofText] at buffered
      rw [limited] at unfailed
      obtain ⟨sameResults, later⟩ := ih between within plain unfailed
      rw [results_cons, results_cons, after, after, limited, buffered, sameResults]
      exact ⟨rfl, later⟩

/-- What a limited output keeps of a plain command is the beginning of what a buffer does. -/
theorem stored_perform_limited {capacity : Nat} {whole : String}
    (within : whole.toUTF8.size ≤ capacity) {command : Command} (plain : command.isPlain) :
    ((session.withOutput (.limited capacity whole.toUTF8)).perform command).2.output.stored =
      ((session.withOutput (.ofText whole)).perform command).2.output.stored.extract 0
        capacity := by
  obtain ⟨text, result, after, fitting, crossing⟩ := session.exists_perform_plain plain
  have buffered := fitting (.ofText whole) (Output.fits_of_unlimited _ rfl _)
  have limited :
      ((session.withOutput (.limited capacity whole.toUTF8)).perform command).2.output =
        (Output.limited capacity whole.toUTF8).write text.toUTF8 := by
    by_cases fits : (Output.limited capacity whole.toUTF8).fits text.toUTF8.size
    · rw [fitting _ fits]
      rfl
    · exact (crossing _ fits).2
  rw [limited, buffered, Output.write_limited_of_size_le within, Output.write_ofText,
    ← Output.toUTF8_append]
  rfl

end Session

/-! ## The whole of it -/

open Session in
/-- Commands have the same answers in front of no output, of an empty buffer and of one
that holds a text, and the buffers keep the same text after what they held. In front of
an output with limited room plain commands have these answers as well and the output
keeps what the buffer keeps, up to a command that fails for want of room; after that one
it keeps the beginning of what the buffer keeps. -/
theorem evaluation_independent_of_output (preset : String) (commands : List Command) :
    (start .silent).results commands = (start .empty).results commands ∧
      (start (.ofText preset)).results commands = (start .empty).results commands ∧
      ((start .silent).after commands).output.captured = "" ∧
      (.clear ∉ commands → ((start (.ofText preset)).after commands).output.captured =
        preset ++ ((start .empty).after commands).output.captured) ∧
      (.clear ∈ commands → ((start (.ofText preset)).after commands).output.captured =
        ((start .empty).after commands).output.captured) ∧
      ∀ capacity : Nat, (∀ command ∈ commands, command.isPlain) →
        (∀ result ∈ (start (.ofCapacity capacity)).results commands,
          result ≠ .error .outputFailed) →
        (start (.ofCapacity capacity)).results commands = (start .empty).results commands ∧
          ((start (.ofCapacity capacity)).after commands).output.stored =
            ((start .empty).after commands).output.stored ∧
          ∀ command : Command, command.isPlain →
            (((start (.ofCapacity capacity)).after commands).perform command).2.output.stored =
              (((start .empty).after commands).perform command).2.output.stored.extract 0
                capacity := by
  have captured := (start .empty).captured_after_ofText preset commands
  refine ⟨?_, ?_, ?_, captured.1, captured.2, ?_⟩
  · exact (start .empty).results_eq_of_unlimited rfl rfl commands
  · exact (start .empty).results_eq_of_unlimited rfl rfl commands
  · have silent : ((start .silent).after commands).output = .silent :=
      (start .empty).output_after_silent commands
    rw [silent]
    decide
  · intro capacity plain unfailed
    have fresh : "".toUTF8.size ≤ capacity := Nat.zero_le capacity
    obtain ⟨sameResults, later, whole, within, limited, buffered⟩ :=
      (start .empty).limited_agrees fresh plain unfailed
    have limited : (start (.ofCapacity capacity)).after commands =
      later.withOutput (.limited capacity whole.toUTF8) := limited
    have buffered : (start .empty).after commands = later.withOutput (.ofText whole) := buffered
    rw [limited, buffered]
    exact ⟨sameResults, rfl, fun command plain => later.stored_perform_limited within plain⟩

/-- A command that prints a text. -/
def printing (text : String) : Command :=
  .inspect .describe (.unary .print (.literal (.text text)))

/-- Such a command ends with the sixth step. -/
theorem perform_printing (session : Session) (text : String) :
    session.perform (printing text) =
      ((session.machine (.unary .print (.literal (.text text))) (.inspect .describe)).after
        5).step.finish :=
  session.perform_inspect _ _ 5

/-- The second of two texts crosses the limit, and its beginning is kept. -/
theorem evaluation_independent_of_output_of_crossing :
    (printing "cd").isPlain ∧
      (((Session.start (.ofCapacity 3)).after [printing "ab"]).perform (printing "cd")).1 =
        .error .outputFailed ∧
      (((Session.start (.ofCapacity 3)).after [printing "ab"]).perform
        (printing "cd")).2.output.stored = "abc".toUTF8 := by
  obtain ⟨_, _, _, _, _, limited⟩ := evaluation_independent_of_output "> " [printing "ab"]
  have plain : ∀ command ∈ [printing "ab"], command.isPlain := by decide
  have unfailed : ∀ result ∈ (Session.start (.ofCapacity 3)).results [printing "ab"],
      result ≠ .error .outputFailed := by
    have answers : (Session.start (.ofCapacity 3)).results [printing "ab"] =
        [.ok (.description { typeName := .nothing, isAlias := false, detail := none })] := by
      rw [Session.results_cons, perform_printing]
      with_unfolding_all rfl
    rw [answers]
    intro result member
    rw [List.mem_singleton.mp member]
    intro same
    cases same
  refine ⟨rfl, ?_, ?_⟩
  · rw [Session.after, Session.after, perform_printing, perform_printing]
    with_unfolding_all rfl
  · rw [(limited 3 plain unfailed).2.2 (printing "cd") rfl, Session.after, Session.after,
      perform_printing, perform_printing]
    with_unfolding_all rfl

end Offside
