import Offside.Command

/-!
# The course of an operation

An operation runs above the frames that were there when it began, and is over when the
stack is down to them with a value or an error for them. Until then no step touches these
frames, and every run comes to that point.
-/

namespace Offside

/-- A control that has something for the topmost frame: a value or an error. -/
def Control.isOutcome : Control → Bool
  | .give _ | .fail _ => true
  | _ => false

theorem Control.eq_give_or_fail {control : Control} (outcome : control.isOutcome) :
    (∃ value, control = .give value) ∨ ∃ error, control = .fail error := by
  cases control with
  | give value => exact .inl ⟨value, rfl⟩
  | fail error => exact .inr ⟨error, rfl⟩
  | _ => cases outcome

namespace Machine

/-- A machine after so many steps. One that halts goes no further. -/
def after (machine : Machine) : Nat → Machine
  | 0 => machine
  | count + 1 =>
      match machine.step with
      | .running next => next.after count
      | .halted _ _ => machine

theorem after_succ {machine next : Machine} (stepped : machine.step = .running next) (count : Nat) :
    machine.after (count + 1) = next.after count := by
  rw [after, stepped]

theorem after_of_step {machine next : Machine} {count : Nat}
    (stepped : (machine.after count).step = .running next) : machine.after (count + 1) = next := by
  induction count generalizing machine with
  | zero => exact after_succ stepped 0
  | succ count ih =>
      cases first : machine.step with
      | running second =>
          rw [after_succ first] at stepped ⊢
          exact ih stepped
      | halted result session =>
          rw [after, first] at stepped
          exact nomatch first.symm.trans stepped

/-- A run goes on from wherever the machine is after so many steps. -/
theorem run_after (machine : Machine) (count : Nat) : (machine.after count).run = machine.run := by
  induction count generalizing machine with
  | zero => rfl
  | succ count ih =>
      rw [after]
      split
      next next stepped => rw [ih, run_eq_finish machine, stepped, Next.finish]
      next => rfl

/-- The frames lie at the bottom of the stack. -/
def Above (base : List Frame) (machine : Machine) : Prop :=
  base <:+ machine.stack

/-- The stack is down to the frames, and there is a value or an error for them. -/
def ReturnedTo (base : List Frame) (machine : Machine) : Prop :=
  machine.stack = base ∧ machine.control.isOutcome

variable {machine : Machine} {base : List Frame}

namespace Above

section Operations

variable (above : machine.Above base)
include above

theorem push (frame : Frame) : (machine.push frame).Above base :=
  above.trans (List.suffix_cons frame machine.stack)

theorem orFail {α : Type} {result : Except EvalError α} {next : α → Machine}
    (going : ∀ value, (next value).Above base) : (machine.orFail result next).Above base := by
  cases result with
  | ok value => exact going value
  | error error => exact above

theorem withClass {name : String} {next : Class → Machine}
    (going : ∀ cls, (next cls).Above base) : (machine.withClass name next).Above base := by
  rw [Machine.withClass]
  split
  · exact going _
  · exact above

theorem invoke (activation : Activation) (frames : List Frame) :
    (machine.invoke activation frames).Above base := by
  rw [Machine.invoke]
  split
  · exact above
  · exact above.trans (List.suffix_append frames machine.stack)

theorem performUnary (operand : Handle) (op : UnaryOp) :
    (machine.performUnary operand op).Above base := by
  cases op with
  | print => exact above
  | render => exact above
  | _ => exact above.orFail fun _ => above

theorem performBinary (left right : Handle) (op : BinaryOp) :
    (machine.performBinary left right op).Above base := by
  cases op with
  | compare => exact above
  | _ => exact above.orFail fun _ => above

theorem dispatch (receiver : Address) (cls : Class) (name : String) (arguments : List Handle)
    (frames : List Frame) :
    (machine.dispatch receiver cls name arguments frames).Above base := by
  rw [Machine.dispatch]
  split
  · exact above
  · exact above.invoke _ _

theorem call (receiver : Handle) (name : String) (arguments : List Handle) :
    (machine.call receiver name arguments).Above base :=
  above.orFail fun _ => above.dispatch _ _ _ _ _

theorem conclude (comparison : Comparison) (relation : Relation) (left right : Handle)
    (holds : Bool) : (machine.conclude comparison relation left right holds).Above base := by
  rw [Machine.conclude]
  split
  · exact above
  · exact above

theorem compare (comparison : Comparison) (relation : Relation) (left right : Handle) :
    (machine.compare comparison relation left right).Above base := by
  refine above.orFail fun verdict => ?_
  cases verdict with
  | decided holds => exact above.conclude comparison relation left right holds
  | ask receiver cls held => exact above.dispatch _ _ _ _ _

theorem finishRendering (pieces : List String) (purpose : Purpose) :
    (machine.finishRendering pieces purpose).Above base := by
  cases purpose with
  | value => exact above
  | output | own =>
      simp only [Machine.finishRendering]
      split
      · exact above
      · exact above

theorem render (purpose : Purpose) (subject : Handle) :
    (machine.render purpose subject).Above base := by
  refine above.orFail fun rendering => ?_
  cases rendering with
  | text pieces => exact above.finishRendering pieces purpose
  | ask receiver cls => exact above.dispatch _ _ _ _ _

theorem evaluate (expr : Expr) : (machine.evaluate expr).Above base := by
  cases expr with
  | literal value => cases value <;> exact above
  | var name => exact above
  | assign name value => exact above.push _
  | unassign name => exact above
  | sequence parts =>
      rcases parts with _ | ⟨first, _ | ⟨next, rest⟩⟩
      · exact above
      · exact above
      · exact above.push _
  | branch condition yes no => exact above.push _
  | create name => exact above.withClass fun _ => above
  | classObject name => exact above.withClass fun _ => above
  | unary op operand => exact above.push _
  | binary op left right => exact above.push _
  | call receiver method arguments => exact above.push _
  | raise message => exact above

theorem resume (value : Handle) (frame : Frame) : (machine.resume value frame).Above base := by
  cases frame with
  | assign name => exact above
  | sequence next rest => exact above
  | branch yes no =>
      have released : (machine.release [value]).Above base := above
      exact released.orFail fun _ => above
  | unary op => exact (above.push _).performUnary value op
  | left op right => exact above.push _
  | right op left => exact (above.push _).performBinary left value op
  | receiver method rest =>
      cases rest with
      | nil => exact (above.push _).call value method []
      | cons first rest => exact above.push _
  | argument receiver method evaluated rest =>
      cases rest with
      | nil => exact (above.push _).call receiver method (evaluated ++ [value])
      | cons next rest => exact above.push _
  | leave caller => exact above
  | release held => exact above
  | judge comparison relation left right held =>
      have released : (machine.release (value :: held)).Above base := above
      exact released.orFail fun holds => released.conclude comparison relation left right holds
  | render purpose => exact above.push _

theorem unwind (error : EvalError) (frame : Frame) : (machine.unwind error frame).Above base := by
  cases frame <;> exact above

end Operations

/-- The topmost frame is not one of those at the bottom, unless these are all there are. -/
theorem of_top {frame : Frame} {stack : List Frame} (above : machine.Above base)
    (top : machine.stack = frame :: stack) (more : machine.stack ≠ base) :
    { machine with stack }.Above base := by
  rw [Above, top] at above
  rcases List.suffix_cons_iff.mp above with same | below
  · exact absurd (top.trans same.symm) more
  · exact below

/-- A step of an operation that is not over goes on above the same frames. -/
theorem exists_step (above : machine.Above base) (goesOn : ¬machine.ReturnedTo base) :
    ∃ next, machine.step = .running next ∧ next.Above base := by
  have inhabited (more : machine.stack ≠ base) : machine.stack ≠ [] := by
    intro none
    rw [Above, none] at above
    exact more (none.trans (List.suffix_nil.mp above).symm)
  rw [step]
  cases controlled : machine.control with
  | eval expr => exact ⟨_, rfl, above.evaluate expr⟩
  | compare comparison relation left right =>
      exact ⟨_, rfl, above.compare comparison relation left right⟩
  | render purpose subject => exact ⟨_, rfl, above.render purpose subject⟩
  | enter activation => exact ⟨_, rfl, above.push (.leave machine.scope)⟩
  | give value =>
      have more : machine.stack ≠ base := fun same => goesOn ⟨same, by rw [controlled]; rfl⟩
      cases top : machine.stack with
      | nil => exact absurd top (inhabited more)
      | cons frame stack => exact ⟨_, rfl, (above.of_top top more).resume value frame⟩
  | fail error =>
      have more : machine.stack ≠ base := fun same => goesOn ⟨same, by rw [controlled]; rfl⟩
      cases top : machine.stack with
      | nil => exact absurd top (inhabited more)
      | cons frame stack => exact ⟨_, rfl, (above.of_top top more).unwind error frame⟩

/-- An operation comes back to the frames below it, and none of its steps touches them
before. -/
theorem exists_returnedTo (above : machine.Above base) :
    ∃ length, (machine.after length).ReturnedTo base ∧
      (∀ count, count < length → ¬(machine.after count).ReturnedTo base) ∧
      ∀ count, count ≤ length → (machine.after count).Above base := by
  induction machine using wellFounded_lessToDo.induction with
  | _ machine ih =>
      by_cases returned : machine.ReturnedTo base
      · refine ⟨0, returned, ?_, ?_⟩
        · exact fun count before => absurd before (Nat.not_lt_zero count)
        · intro count within
          rw [Nat.le_zero.mp within]
          exact above
      · obtain ⟨next, stepped, aboveNext⟩ := above.exists_step returned
        obtain ⟨length, returns, notBefore, stays⟩ := ih next (lessToDo_step stepped) aboveNext
        refine ⟨length + 1, ?_, ?_, ?_⟩
        · rw [after_succ stepped]
          exact returns
        · intro count before
          cases count with
          | zero => exact returned
          | succ count =>
              rw [after_succ stepped]
              exact notBefore count (Nat.lt_of_succ_lt_succ before)
        · intro count within
          cases count with
          | zero => exact above
          | succ count =>
              rw [after_succ stepped]
              exact stays count (Nat.le_of_succ_le_succ within)

end Above

end Machine

/-- An inspection ends as its machine does after so many steps. -/
theorem Session.perform_inspect (session : Session) (inspection : Inspection) (subject : Expr)
    (count : Nat) :
    session.perform (.inspect inspection subject) =
      ((session.machine subject (.inspect inspection)).after count).step.finish := by
  rw [← Machine.run_eq_finish, Machine.run_after]
  rfl

end Offside
