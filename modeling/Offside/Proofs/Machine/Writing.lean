import Offside.Machine.Run
import Offside.Proofs.Output

/-!
# What a step looks at

No step looks at the output of the session, none looks below the frame that it is for, and
only at the bottom of the stack does a step look at the goal. The one step that writes to that
output has the text of a value to print; every other step goes the same way in front of any
output, and above the bottom also over any further frames and in front of any goal.
-/

namespace Offside

namespace Machine

variable (machine : Machine) (base : List Frame) (output : Output) (goal : Goal)

/-- The machine with another output to write to and another goal to reach. -/
def towards : Machine := { machine with output, goal }

/-- The machine over further frames, with another output and another goal besides. -/
def atop : Machine := { machine with output, stack := machine.stack ++ base, goal }

theorem atop_nil : machine.atop [] output goal = machine.towards output goal := by
  rw [atop, towards, List.append_nil]

/-! ## Above the bottom -/

theorem orFail_atop {α : Type} {result : Except EvalError α} {next next' : α → Machine}
    (same : ∀ value, next' value = (next value).atop base output goal) :
    (machine.atop base output goal).orFail result next' =
      (machine.orFail result next).atop base output goal := by
  cases result with
  | ok value => exact same value
  | error error => rfl

theorem withClass_atop {name : String} {next next' : Class → Machine}
    (same : ∀ cls, next' cls = (next cls).atop base output goal) :
    (machine.atop base output goal).withClass name next' =
      (machine.withClass name next).atop base output goal := by
  have classes : (machine.atop base output goal).classes = machine.classes := rfl
  rw [withClass, withClass, classes]
  cases machine.classes.find? name with
  | some cls => exact same cls
  | none => rfl

theorem invoke_atop (activation : Activation) (frames : List Frame) :
    (machine.atop base output goal).invoke activation frames =
      (machine.invoke activation frames).atop base output goal := by
  have fuel : (machine.atop base output goal).fuel = machine.fuel := rfl
  have stack : frames ++ (machine.atop base output goal).stack = frames ++ machine.stack ++ base :=
    (List.append_assoc _ _ _).symm
  rw [invoke, invoke, fuel, stack]
  cases machine.fuel with
  | zero => rfl
  | succ fuel => rfl

theorem evaluate_atop (expr : Expr) :
    (machine.atop base output goal).evaluate expr =
      (machine.evaluate expr).atop base output goal := by
  cases expr with
  | literal value => cases value <;> rfl
  | create name => exact withClass_atop _ _ _ _ fun _ => rfl
  | classObject name => exact withClass_atop _ _ _ _ fun _ => rfl
  | sequence parts => rcases parts with _ | ⟨first, _ | ⟨next, rest⟩⟩ <;> rfl
  | var | assign | unassign | branch | unary | binary | call | raise => rfl

theorem performUnary_atop (operand : Handle) (op : UnaryOp) :
    (machine.atop base output goal).performUnary operand op =
      (machine.performUnary operand op).atop base output goal := by
  cases op with
  | print | render => rfl
  | «alias» | selfOf | field | deleteField | truth => exact orFail_atop _ _ _ _ fun _ => rfl

theorem performBinary_atop (left right : Handle) (op : BinaryOp) :
    (machine.atop base output goal).performBinary left right op =
      (machine.performBinary left right op).atop base output goal := by
  cases op with
  | compare => rfl
  | setField | add => exact orFail_atop _ _ _ _ fun _ => rfl

theorem dispatch_atop (receiver : Address) (cls : Class) (name : String)
    (arguments : List Handle) (frames : List Frame) :
    (machine.atop base output goal).dispatch receiver cls name arguments frames =
      (machine.dispatch receiver cls name arguments frames).atop base output goal := by
  unfold dispatch
  split
  · rfl
  · exact invoke_atop ..

theorem call_atop (receiver : Handle) (name : String) (arguments : List Handle) :
    (machine.atop base output goal).call receiver name arguments =
      (machine.call receiver name arguments).atop base output goal :=
  orFail_atop _ _ _ _ fun _ => dispatch_atop ..

theorem conclude_atop (comparison : Comparison) (relation : Relation) (left right : Handle)
    (holds : Bool) :
    (machine.atop base output goal).conclude comparison relation left right holds =
      (machine.conclude comparison relation left right holds).atop base output goal := by
  unfold conclude
  split <;> rfl

theorem compare_atop (comparison : Comparison) (relation : Relation) (left right : Handle) :
    (machine.atop base output goal).compare comparison relation left right =
      (machine.compare comparison relation left right).atop base output goal := by
  apply orFail_atop
  intro verdict
  cases verdict with
  | decided holds => exact conclude_atop ..
  | ask receiver cls held => exact dispatch_atop ..

theorem judge_atop (comparison : Comparison) (relation : Relation) (left right : Handle)
    (held : List Handle) (value : Handle) :
    (machine.atop base output goal).judge comparison relation left right held value =
      (machine.judge comparison relation left right held value).atop base output goal := by
  refine orFail_atop (machine.release (value :: held)) base output goal fun holds => ?_
  exact conclude_atop (machine.release (value :: held)) ..

theorem resume_atop (value : Handle) (frame : Frame) :
    (machine.atop base output goal).resume value frame =
      (machine.resume value frame).atop base output goal := by
  cases frame with
  | branch yes no => exact orFail_atop (machine.release [value]) _ _ _ fun _ => rfl
  | unary op => exact performUnary_atop (machine.push (.release [value])) _ _ _ _ _
  | right op left => exact performBinary_atop (machine.push (.release [left, value])) _ _ _ _ _ _
  | receiver method rest =>
      cases rest with
      | nil => exact call_atop (machine.push (.release [value])) _ _ _ _ _ _
      | cons => rfl
  | argument receiver method evaluated rest =>
      cases rest with
      | nil => exact call_atop (machine.push (.release _)) _ _ _ _ _ _
      | cons => rfl
  | judge => exact judge_atop ..
  | assign | sequence | left | leave | release | render => rfl

theorem unwind_atop (error : EvalError) (frame : Frame) :
    (machine.atop base output goal).unwind error frame =
      (machine.unwind error frame).atop base output goal := by
  cases frame <;> rfl

theorem finishRendering_atop (pieces : List String) {purpose : Purpose}
    (elsewhere : purpose ≠ .output) :
    (machine.atop base output goal).finishRendering pieces purpose =
      (machine.finishRendering pieces purpose).atop base output goal := by
  have own : (machine.atop base output goal).own = machine.own := rfl
  cases purpose with
  | output => exact absurd rfl elsewhere
  | value => rfl
  | own =>
      simp only [finishRendering, own]
      split <;> rfl

theorem render_atop {subject : Handle} (purpose : Purpose)
    (writesNothing : ∀ pieces, machine.store.rendering subject = .ok (.text pieces) →
      purpose ≠ .output) :
    (machine.atop base output goal).render purpose subject =
      (machine.render purpose subject).atop base output goal := by
  have store : (machine.atop base output goal).store = machine.store := rfl
  rw [render, render, store]
  cases rendered : machine.store.rendering subject with
  | error error => rfl
  | ok rendering =>
      cases rendering with
      | text pieces => exact finishRendering_atop _ _ _ _ _ (writesNothing pieces rendered)
      | ask receiver cls => exact dispatch_atop ..

/-- It makes no difference in which pieces a text is given. -/
theorem finishRendering_join (pieces : List String) (purpose : Purpose) :
    machine.finishRendering [String.join pieces] purpose =
      machine.finishRendering pieces purpose := by
  cases purpose with
  | value | output => simp only [finishRendering, Output.join_singleton]
  | own => simp only [finishRendering, Output.writePieces_eq, Output.join_singleton]

/-! ## Steps -/

/-- A step looks neither at the output nor at the goal. -/
def Passes (machine after : Machine) : Prop :=
  ∀ output goal, (machine.towards output goal).step = .running (after.towards output goal)

/-- A step writes a text. -/
def Prints (machine : Machine) (text : String) : Prop :=
  ∀ output goal, (machine.towards output goal).step =
    .running ((machine.towards output goal).finishRendering [text] .output)

/-- A step looks at no frame below either. -/
def PassesAtop (machine after : Machine) : Prop :=
  ∀ base output goal,
    (machine.atop base output goal).step = .running (after.atop base output goal)

/-- A step writes a text over whatever frames. -/
def PrintsAtop (machine : Machine) (text : String) : Prop :=
  ∀ base output goal, (machine.atop base output goal).step =
    .running ((machine.atop base output goal).finishRendering [text] .output)

/-- The text that the next step writes to the output of the session, if it writes one. -/
def writes? (machine : Machine) : Option String :=
  match machine.control with
  | .render .output subject =>
      match machine.store.rendering subject with
      | .ok (.text pieces) => some (String.join pieces)
      | _ => none
  | _ => none

theorem writes?_eq_some_iff {machine : Machine} {text : String} :
    machine.writes? = some text ↔ ∃ subject pieces,
      machine.control = .render .output subject ∧
        machine.store.rendering subject = .ok (.text pieces) ∧ String.join pieces = text := by
  constructor
  · intro writes
    unfold writes? at writes
    split at writes
    next subject control =>
      split at writes
      next pieces rendered =>
        cases writes
        exact ⟨subject, pieces, control, rendered, rfl⟩
      next => cases writes
    next => cases writes
  · rintro ⟨subject, pieces, control, rendered, rfl⟩
    simp only [writes?, control, rendered]

/-- A step writes, or has nothing to do with the output; only at the bottom of the stack
does it look at what is below or at the goal. -/
theorem step_atop_cases :
    (∃ text, machine.writes? = some text ∧ machine.PrintsAtop text) ∨
      (∃ after, machine.writes? = none ∧ machine.PassesAtop after) ∨
      (∃ value, machine.control = .give value ∧ machine.stack = []) ∨
      ∃ error, machine.control = .fail error ∧ machine.stack = [] := by
  obtain ⟨session, fuel, control, stack, goal, own⟩ := machine
  cases control with
  | eval expr =>
      exact .inr (.inl ⟨_, rfl, fun base output goal => congrArg _ (evaluate_atop _ _ _ _ expr)⟩)
  | compare => exact .inr (.inl ⟨_, rfl, fun base output goal => congrArg _ (compare_atop ..)⟩)
  | enter activation =>
      let entered := enter ⟨session, fuel, .enter activation, stack, goal, own⟩ activation
      exact .inr (.inl ⟨entered, rfl, fun _ _ _ => rfl⟩)
  | render purpose subject =>
      cases writes : writes? ⟨session, fuel, .render purpose subject, stack, goal, own⟩ with
      | some text =>
          left
          refine ⟨text, rfl, fun base output goal => ?_⟩
          obtain ⟨_, pieces, same, rendered, rfl⟩ := writes?_eq_some_iff.mp writes
          cases same
          rw [finishRendering_join]
          simp only [step, atop, render, rendered, orFail]
      | none =>
          right
          left
          refine ⟨_, rfl, fun base output goal => congrArg _ (render_atop _ _ _ _ purpose ?_)⟩
          rintro pieces rendered rfl
          rw [writes?_eq_some_iff.mpr ⟨subject, pieces, rfl, rendered, rfl⟩] at writes
          cases writes
  | give value =>
      cases stack with
      | nil => exact .inr (.inr (.inl ⟨value, rfl, rfl⟩))
      | cons frame stack =>
          have same := resume_atop ⟨session, fuel, .give value, stack, goal, own⟩
          exact .inr (.inl
            ⟨_, rfl, fun base output goal => congrArg _ (same base output goal value frame)⟩)
  | fail error =>
      cases stack with
      | nil => exact .inr (.inr (.inr ⟨error, rfl, rfl⟩))
      | cons frame stack =>
          have same := unwind_atop ⟨session, fuel, .fail error, stack, goal, own⟩
          exact .inr (.inl
            ⟨_, rfl, fun base output goal => congrArg _ (same base output goal error frame)⟩)

variable {machine} {after : Machine} {text : String}

theorem PassesAtop.passes (passes : machine.PassesAtop after) : machine.Passes after := by
  intro output goal
  have stepped := passes [] output goal
  rw [atop_nil, atop_nil] at stepped
  exact stepped

theorem PrintsAtop.prints (prints : machine.PrintsAtop text) : machine.Prints text := by
  intro output goal
  have stepped := prints [] output goal
  rw [atop_nil] at stepped
  exact stepped

/-- A step writes, or has nothing to do with the output; only at the bottom of the stack
does it look at the goal. -/
theorem step_cases (machine : Machine) :
    (∃ text, machine.Prints text) ∨ (∃ after, machine.Passes after) ∨
      (∃ value, machine.control = .give value ∧ machine.stack = []) ∨
      ∃ error, machine.control = .fail error ∧ machine.stack = [] :=
  machine.step_atop_cases.imp (fun ⟨text, _, prints⟩ => ⟨text, prints.prints⟩)
    (Or.imp_left fun ⟨after, _, passes⟩ => ⟨after, passes.passes⟩)

end Machine

end Offside
