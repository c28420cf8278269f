import Offside.Proofs.Machine.Returning

/-!
# An output that no body sees

A command that prints to an output of its own has it for as long as it runs. Only a rendering
that is meant for this output looks at it, and what bodies render is meant for something else.
So a body runs in the same way whatever the output is, and leaves it as it was.
-/

namespace Offside

/-- A control that renders for an output of its own. -/
def Control.isOwn : Control → Bool
  | .render .own _ => true
  | _ => false

/-- A frame that waits for a value to render for an output of its own. -/
def Frame.isOwn : Frame → Bool
  | .render .own => true
  | _ => false

namespace Machine

/-- The machine with another output of its own. -/
def withOwn (machine : Machine) (own : Output) : Machine :=
  { machine with own }

/-- Nothing in the machine is meant for an output of its own. -/
structure IgnoresOwn (machine : Machine) : Prop where
  control : machine.control.isOwn = false
  stack : ∀ frame ∈ machine.stack, frame.isOwn = false

/-- What comes of two machines that differ in an output of their own, and nowhere else, differs
in that and nowhere else, and nothing in it is meant for that output. -/
structure Overlooks (own : Output) (after after' : Machine) : Prop where
  same : after' = after.withOwn own
  ignores : after.IgnoresOwn

section Operations

variable {machine : Machine} {own : Output}
  (ignores : ∀ frame ∈ machine.stack, frame.isOwn = false)
include ignores

theorem Overlooks.orFail {α : Type} {result : Except EvalError α} {next next' : α → Machine}
    (going : ∀ value, Overlooks own (next value) (next' value)) :
    Overlooks own (machine.orFail result next) ((machine.withOwn own).orFail result next') := by
  cases result with
  | ok value => exact going value
  | error error => exact ⟨rfl, rfl, ignores⟩

theorem Overlooks.withClass {name : String} {next next' : Class → Machine}
    (going : ∀ cls, Overlooks own (next cls) (next' cls)) :
    Overlooks own (machine.withClass name next)
      ((machine.withOwn own).withClass name next') := by
  have classes : (machine.withOwn own).classes = machine.classes := rfl
  rw [Machine.withClass, Machine.withClass, classes]
  cases machine.classes.find? name with
  | some cls => exact going cls
  | none => exact ⟨rfl, rfl, ignores⟩

theorem ignores_push {frame : Frame} (other : frame.isOwn = false) :
    ∀ frame' ∈ (machine.push frame).stack, frame'.isOwn = false :=
  List.forall_mem_cons.mpr ⟨other, ignores⟩

theorem overlooks_invoke (activation : Activation) {frames : List Frame}
    (others : ∀ frame ∈ frames, frame.isOwn = false) :
    Overlooks own (machine.invoke activation frames)
      ((machine.withOwn own).invoke activation frames) := by
  have fuel : (machine.withOwn own).fuel = machine.fuel := rfl
  rw [invoke, invoke, fuel]
  cases machine.fuel with
  | zero => exact ⟨rfl, rfl, ignores⟩
  | succ fuel => exact ⟨rfl, rfl, List.forall_mem_append.mpr ⟨others, ignores⟩⟩

theorem overlooks_dispatch (receiver : Address) (cls : Class) (name : String)
    (arguments : List Handle) {frames : List Frame}
    (others : ∀ frame ∈ frames, frame.isOwn = false) :
    Overlooks own (machine.dispatch receiver cls name arguments frames)
      ((machine.withOwn own).dispatch receiver cls name arguments frames) := by
  unfold dispatch
  split
  · exact ⟨rfl, rfl, ignores⟩
  · exact overlooks_invoke ignores _ others

theorem overlooks_evaluate (expr : Expr) :
    Overlooks own (machine.evaluate expr) ((machine.withOwn own).evaluate expr) := by
  cases expr with
  | literal value => cases value <;> exact ⟨rfl, rfl, ignores⟩
  | create name => exact .withClass ignores fun cls => ⟨rfl, rfl, ignores⟩
  | classObject name => exact .withClass ignores fun cls => ⟨rfl, rfl, ignores⟩
  | sequence parts =>
      rcases parts with _ | ⟨first, _ | ⟨next, rest⟩⟩
      · exact ⟨rfl, rfl, ignores⟩
      · exact ⟨rfl, rfl, ignores⟩
      · exact ⟨rfl, rfl, ignores_push ignores rfl⟩
  | var | unassign | raise => exact ⟨rfl, rfl, ignores⟩
  | assign | branch | unary | binary | call => exact ⟨rfl, rfl, ignores_push ignores rfl⟩

theorem overlooks_enter (activation : Activation) :
    Overlooks own (machine.enter activation) ((machine.withOwn own).enter activation) :=
  ⟨rfl, rfl, ignores_push ignores rfl⟩

theorem overlooks_performUnary (operand : Handle) (op : UnaryOp) :
    Overlooks own (machine.performUnary operand op)
      ((machine.withOwn own).performUnary operand op) := by
  cases op with
  | print | render => exact ⟨rfl, rfl, ignores⟩
  | _ => exact .orFail ignores fun _ => ⟨rfl, rfl, ignores⟩

theorem overlooks_performBinary (left right : Handle) (op : BinaryOp) :
    Overlooks own (machine.performBinary left right op)
      ((machine.withOwn own).performBinary left right op) := by
  cases op with
  | compare comparison => exact ⟨rfl, rfl, ignores⟩
  | _ => exact .orFail ignores fun _ => ⟨rfl, rfl, ignores⟩

theorem overlooks_call (receiver : Handle) (name : String) (arguments : List Handle) :
    Overlooks own (machine.call receiver name arguments)
      ((machine.withOwn own).call receiver name arguments) :=
  .orFail ignores fun _ =>
    overlooks_dispatch ignores _ _ _ _ (List.forall_mem_singleton.mpr rfl)

theorem overlooks_conclude (comparison : Comparison) (relation : Relation) (left right : Handle)
    (holds : Bool) :
    Overlooks own (machine.conclude comparison relation left right holds)
      ((machine.withOwn own).conclude comparison relation left right holds) := by
  unfold conclude
  split
  · exact ⟨rfl, rfl, ignores⟩
  · exact ⟨rfl, rfl, ignores⟩

theorem overlooks_compare (comparison : Comparison) (relation : Relation)
    (left right : Handle) :
    Overlooks own (machine.compare comparison relation left right)
      ((machine.withOwn own).compare comparison relation left right) := by
  refine .orFail ignores fun verdict => ?_
  cases verdict with
  | decided holds => exact overlooks_conclude ignores comparison relation left right holds
  | ask receiver cls held =>
      exact overlooks_dispatch ignores _ _ _ _ (List.forall_mem_singleton.mpr rfl)

theorem overlooks_render {purpose : Purpose} (other : purpose ≠ .own) (subject : Handle) :
    Overlooks own (machine.render purpose subject)
      ((machine.withOwn own).render purpose subject) := by
  have output : (machine.withOwn own).output = machine.output := rfl
  refine .orFail ignores fun rendering => ?_
  cases rendering with
  | text pieces =>
      cases purpose with
      | value => exact ⟨rfl, rfl, ignores⟩
      | output =>
          simp only [finishRendering, output]
          split
          · exact ⟨rfl, rfl, ignores⟩
          · exact ⟨rfl, rfl, ignores⟩
      | own => exact absurd rfl other
  | ask receiver cls =>
      have waits : (Frame.render purpose).isOwn = false := by
        cases purpose with
        | value | output => rfl
        | own => exact absurd rfl other
      exact overlooks_dispatch ignores _ _ _ _
        (List.forall_mem_cons.mpr ⟨waits, List.forall_mem_singleton.mpr rfl⟩)

theorem overlooks_resume (value : Handle) {frame : Frame} (other : frame.isOwn = false) :
    Overlooks own (machine.resume value frame) ((machine.withOwn own).resume value frame) := by
  cases frame with
  | branch yes no =>
      have released : ∀ frame ∈ (machine.release [value]).stack, frame.isOwn = false := ignores
      exact .orFail released fun _ => ⟨rfl, rfl, ignores⟩
  | unary op => exact overlooks_performUnary (ignores_push ignores rfl) value op
  | right op left => exact overlooks_performBinary (ignores_push ignores rfl) left value op
  | receiver name rest =>
      cases rest with
      | nil => exact overlooks_call (ignores_push ignores rfl) value name []
      | cons first rest => exact ⟨rfl, rfl, ignores_push ignores rfl⟩
  | argument receiver name evaluated rest =>
      cases rest with
      | nil => exact overlooks_call (ignores_push ignores rfl) receiver name (evaluated ++ [value])
      | cons next rest => exact ⟨rfl, rfl, ignores_push ignores rfl⟩
  | judge comparison relation left right held =>
      have released : ∀ frame ∈ (machine.release (value :: held)).stack, frame.isOwn = false :=
        ignores
      exact .orFail released fun holds =>
        overlooks_conclude released comparison relation left right holds
  | render purpose =>
      cases purpose with
      | value | output => exact ⟨rfl, rfl, ignores_push ignores rfl⟩
      | own => cases other
  | left => exact ⟨rfl, rfl, ignores_push ignores rfl⟩
  | assign | sequence | leave | release => exact ⟨rfl, rfl, ignores⟩

theorem overlooks_unwind (error : EvalError) (frame : Frame) :
    Overlooks own (machine.unwind error frame) ((machine.withOwn own).unwind error frame) := by
  cases frame <;> exact ⟨rfl, rfl, ignores⟩

end Operations

variable {machine next start last : Machine}

/-- As long as nothing is meant for an output of its own, a step above the bottom does not see
it. -/
theorem IgnoresOwn.step (ignores : machine.IgnoresOwn) (goesOn : ¬machine.ReturnedTo [])
    (stepped : machine.step = .running next) (own : Output) :
    (machine.withOwn own).step = .running (next.withOwn own) ∧ next.IgnoresOwn := by
  obtain ⟨other, others⟩ := ignores
  have overlooks {after after' : Machine} (overlooks : Overlooks own after after')
      (went : .running after = Next.running next)
      (goes : (machine.withOwn own).step = .running after') :
      (machine.withOwn own).step = .running (next.withOwn own) ∧ next.IgnoresOwn := by
    cases went
    exact ⟨goes.trans (congrArg Next.running overlooks.same), overlooks.ignores⟩
  obtain ⟨session, fuel, control, stack, goal, before⟩ := machine
  cases control with
  | eval expr => exact overlooks (overlooks_evaluate others expr) stepped rfl
  | compare comparison relation left right =>
      exact overlooks (overlooks_compare others comparison relation left right) stepped rfl
  | render purpose subject =>
      have elsewhere : purpose ≠ .own := by
        rintro rfl
        cases other
      exact overlooks (overlooks_render others elsewhere subject) stepped rfl
  | enter activation => exact overlooks (overlooks_enter others activation) stepped rfl
  | give value =>
      cases stack with
      | nil => exact (goesOn ⟨rfl, rfl⟩).elim
      | cons frame stack =>
          obtain ⟨top, below⟩ := List.forall_mem_cons.mp others
          let popped : Machine := ⟨session, fuel, .give value, stack, goal, before⟩
          have below : ∀ frame ∈ popped.stack, frame.isOwn = false := below
          exact overlooks (overlooks_resume below value top) stepped rfl
  | fail error =>
      cases stack with
      | nil => exact (goesOn ⟨rfl, rfl⟩).elim
      | cons frame stack =>
          obtain ⟨_, below⟩ := List.forall_mem_cons.mp others
          let popped : Machine := ⟨session, fuel, .fail error, stack, goal, before⟩
          have below : ∀ frame ∈ popped.stack, frame.isOwn = false := below
          exact overlooks (overlooks_unwind below error frame) stepped rfl

/-- So a whole run goes the same way. -/
theorem Reaches.withOwn (reaches : Reaches [] start last) (ignores : start.IgnoresOwn)
    (own : Output) : Reaches [] (start.withOwn own) (last.withOwn own) := by
  induction reaches with
  | refl => exact .refl _
  | step goesOn stepped _ ih =>
      obtain ⟨stepped, further⟩ := ignores.step goesOn stepped own
      exact .step goesOn stepped (ih further)

theorem Returns.withOwn (returns : Returns [] start last) (ignores : start.IgnoresOwn)
    (own : Output) : Returns [] (start.withOwn own) (last.withOwn own) :=
  ⟨returns.reaches.withOwn ignores own, returns.returned⟩

end Machine

end Offside
