import Offside.Machine.Step

/-!
# Runs of the abstract machine

Every step either starts a method body, which uses up fuel, or leaves less to do:
less of the expression under control, or fewer frames and expressions that wait.
So a run always comes to an end.
-/

namespace Offside

/-- How many relations may be asked after this one. -/
def Relation.weight : Relation → Nat
  | .equality => 0
  | .order => 1

/-- What is left to do for a control, apart from method bodies that it starts. -/
def Control.weight : Control → Nat
  | .eval expr => 8 * expr.size
  | .compare _ relation _ _ => relation.weight + 1
  | .render _ _ => 1
  | .enter activation => 8 * activation.method.body.size + 2
  | .give _ => 0
  | .fail _ => 0

/-- What is left to do for a frame, apart from method bodies that it starts. -/
def Frame.weight : Frame → Nat
  | .assign _ => 1
  | .sequence next rest => 8 * (2 + next.size + Expr.sizes rest) + 1
  | .branch yes no => 8 * (yes.size + no.size) + 1
  | .unary _ => 3
  | .left _ expr => 8 * expr.size + 5
  | .right _ _ => 4
  | .receiver _ rest => 8 * Expr.sizes rest + 3
  | .argument _ _ _ rest => 8 * Expr.sizes rest + 3
  | .leave _ => 1
  | .release _ => 1
  | .judge _ _ _ _ _ => 2
  | .render _ => 3

theorem Frame.weight_pos (frame : Frame) : 0 < frame.weight := by
  cases frame <;> simp [Frame.weight]

/-- What is left to do for a goal, apart from method bodies that it starts. -/
def Goal.weight : Goal → Nat
  | .sameLeft expr => 8 * expr.size + 1
  | .print _ => 3
  | .bindLocal _ _ _ rest _ => 8 * Expr.sizes (rest.map Prod.snd) + 1
  | _ => 0

namespace Machine

/-- What is left to do for the frames of a stack. -/
def stackWeight : List Frame → Nat
  | [] => 0
  | frame :: stack => frame.weight + stackWeight stack

@[simp] theorem stackWeight_cons (frame : Frame) (stack : List Frame) :
    stackWeight (frame :: stack) = frame.weight + stackWeight stack := rfl

/-- What is left to do, apart from method bodies that are yet to be started. -/
def weight (machine : Machine) : Nat :=
  machine.control.weight + stackWeight machine.stack + machine.goal.weight

/-- A machine has gone on from another if it paid for a method body, or has at most
as much left to do as the frames of the other and something extra. -/
def GoesOn (before : Machine) (extra : Nat) (after : Machine) : Prop :=
  after.fuel < before.fuel ∨
    after.fuel = before.fuel ∧ after.goal = before.goal ∧
      after.control.weight + stackWeight after.stack ≤ stackWeight before.stack + extra

theorem GoesOn.orFail {α : Type} {machine before : Machine} {extra : Nat}
    {result : Except EvalError α} {next : α → Machine}
    (failing : ∀ error, GoesOn before extra (machine.fail error))
    (going : ∀ value, GoesOn before extra (next value)) :
    GoesOn before extra (machine.orFail result next) := by
  cases result with
  | ok value => exact going value
  | error error => exact failing error

theorem goesOn_fail (machine : Machine) (error : EvalError) (extra : Nat) :
    GoesOn machine extra (machine.fail error) := by
  simp [GoesOn, fail, Control.weight]

theorem goesOn_give (machine : Machine) (value : Handle) (extra : Nat) :
    GoesOn machine extra (machine.give value) := by
  simp [GoesOn, give, Control.weight]

theorem goesOn_giveObject (machine : Machine) (object : Object) (extra : Nat) :
    GoesOn machine extra (machine.giveObject object) := by
  simp [GoesOn, giveObject, Control.weight]

theorem goesOn_invoke (machine : Machine) (activation : Activation) (frames : List Frame)
    (extra : Nat) : GoesOn machine extra (machine.invoke activation frames) := by
  unfold invoke
  split
  · exact goesOn_fail _ _ _
  next fuel enough =>
    left
    simp [enough]

theorem goesOn_performUnary (machine : Machine) (operand : Handle) (op : UnaryOp) :
    GoesOn machine 1 (machine.performUnary operand op) := by
  cases op <;> simp only [performUnary]
  case print => simp [GoesOn, Control.weight, Nat.add_comm]
  case render => simp [GoesOn, Control.weight, Nat.add_comm]
  all_goals
    refine GoesOn.orFail (fun error => goesOn_fail _ _ _) fun found => ?_
    simp [GoesOn, give, giveCopy, giveObject, retain, release, Control.weight]

theorem goesOn_performBinary (machine : Machine) (left right : Handle) (op : BinaryOp) :
    GoesOn machine 2 (machine.performBinary left right op) := by
  cases op with
  | compare comparison =>
      cases comparison <;>
        simp +arith [performBinary, GoesOn, Comparison.relation, Control.weight, Relation.weight]
  | setField name =>
      refine GoesOn.orFail (fun error => goesOn_fail _ _ _) fun found => ?_
      simp [GoesOn, give, retain, release, Control.weight]
  | add =>
      exact GoesOn.orFail (fun error => goesOn_fail _ _ _) fun object =>
        goesOn_giveObject _ _ _

theorem goesOn_dispatch (machine : Machine) (receiver : Address) (cls : Class) (name : String)
    (arguments : List Handle) (frames : List Frame) (extra : Nat) :
    GoesOn machine extra (machine.dispatch receiver cls name arguments frames) := by
  unfold dispatch
  split
  · exact goesOn_fail _ _ _
  · exact goesOn_invoke _ _ _ _

theorem goesOn_call (machine : Machine) (receiver : Handle) (name : String)
    (arguments : List Handle) :
    GoesOn machine 0 (machine.call receiver name arguments) :=
  GoesOn.orFail (fun _ => goesOn_fail _ _ _) fun _ => goesOn_dispatch _ _ _ _ _ _ _

theorem goesOn_conclude (machine : Machine) (comparison : Comparison) (relation : Relation)
    (left right : Handle) (holds : Bool) :
    GoesOn machine relation.weight
      (machine.conclude comparison relation left right holds) := by
  unfold conclude
  split
  next asked => simp [GoesOn, Control.weight, Relation.weight, asked.1, Nat.add_comm]
  next => exact goesOn_giveObject _ _ _

theorem goesOn_compare (machine : Machine) (comparison : Comparison) (relation : Relation)
    (left right : Handle) :
    GoesOn machine relation.weight
      (machine.compare comparison relation left right) := by
  refine GoesOn.orFail (fun error => goesOn_fail _ _ _) fun verdict => ?_
  cases verdict with
  | decided holds => exact goesOn_conclude _ _ _ _ _ _
  | ask receiver cls held => exact goesOn_dispatch _ _ _ _ _ _ _

theorem goesOn_finishRendering (machine : Machine) (pieces : List String) (purpose : Purpose) :
    GoesOn machine 0 (machine.finishRendering pieces purpose) := by
  cases purpose with
  | value => exact goesOn_giveObject _ _ _
  | output | own =>
      simp only [finishRendering]
      split <;> simp [GoesOn, give, fail, Control.weight]

theorem goesOn_render (machine : Machine) (purpose : Purpose) (subject : Handle) :
    GoesOn machine 0 (machine.render purpose subject) := by
  refine GoesOn.orFail (fun error => goesOn_fail _ _ _) fun rendering => ?_
  cases rendering with
  | text pieces => exact goesOn_finishRendering _ _ _
  | ask receiver cls => exact goesOn_dispatch _ _ _ _ _ _ _

/-- Going on from a machine with more frames is going on from the one without them. -/
theorem GoesOn.ofPush {machine after : Machine} {frame : Frame} {less more : Nat}
    (further : GoesOn (machine.push frame) less after) (enough : less + frame.weight ≤ more) :
    GoesOn machine more after := by
  simp only [GoesOn, push, stackWeight_cons] at further ⊢
  rcases further with paid | ⟨sameFuel, sameGoal, lighter⟩
  · exact .inl paid
  · exact .inr ⟨sameFuel, sameGoal, by omega⟩

theorem goesOn_resume (machine : Machine) (value : Handle) (frame : Frame) :
    GoesOn machine (frame.weight - 1) (machine.resume value frame) := by
  cases frame with
  | assign name => simp [GoesOn, resume, give, release, Control.weight]
  | sequence next rest =>
      simp [GoesOn, resume, eval, release, Control.weight, Frame.weight, Expr.size, Expr.sizes]
      omega
  | branch yes no =>
      simp only [resume]
      refine GoesOn.orFail (fun error => ?_) fun holds => ?_
      · simp [GoesOn, fail, release, Control.weight]
      · cases holds <;> simp [GoesOn, eval, release, Control.weight, Frame.weight] <;> omega
  | unary op => exact (goesOn_performUnary _ _ _).ofPush (by simp [Frame.weight])
  | left op expr =>
      simp [GoesOn, resume, eval, push, Control.weight, Frame.weight]
      omega
  | right op operand => exact (goesOn_performBinary _ _ _ _).ofPush (by simp [Frame.weight])
  | receiver method rest =>
      cases rest with
      | nil => exact (goesOn_call _ _ _ _).ofPush (by simp [Frame.weight])
      | cons first rest =>
          simp [GoesOn, resume, eval, push, Control.weight, Frame.weight, Expr.sizes]
          omega
  | argument subject method evaluated rest =>
      cases rest with
      | nil => exact (goesOn_call _ _ _ _).ofPush (by simp [Frame.weight])
      | cons next rest =>
          simp [GoesOn, resume, eval, push, Control.weight, Frame.weight, Expr.sizes]
          omega
  | leave caller => simp [GoesOn, resume, release, Control.weight]
  | release held => simp [GoesOn, resume, give, release, Control.weight]
  | judge comparison relation left right held =>
      simp only [resume, judge]
      refine GoesOn.orFail (fun error => ?_) fun holds => ?_
      · simp [GoesOn, fail, release, Control.weight]
      · have concluded := goesOn_conclude (machine.release (value :: held)) comparison relation
          left right holds
        have atMost : relation.weight ≤ 1 := by cases relation <;> simp [Relation.weight]
        rcases concluded with paid | ⟨sameFuel, sameGoal, lighter⟩
        · exact .inl paid
        · refine .inr ⟨sameFuel, sameGoal, Nat.le_trans lighter ?_⟩
          simp only [release, Frame.weight]
          omega
  | render purpose =>
      simp [GoesOn, resume, push, Control.weight, Frame.weight]
      omega

theorem goesOn_unwind (machine : Machine) (error : EvalError) (frame : Frame) :
    GoesOn machine 0 (machine.unwind error frame) := by
  cases frame <;> simp [GoesOn, unwind, fail, release, Control.weight]

/-- One machine has less to do than another: less fuel to use up, or as much fuel and
less weight. -/
def LessToDo (after before : Machine) : Prop :=
  Prod.Lex (· < ·) (· < ·) (after.fuel, after.weight) (before.fuel, before.weight)

theorem GoesOn.lessToDo {before after : Machine} {extra : Nat}
    (further : GoesOn before extra after) (above : extra < before.control.weight) :
    LessToDo after before := by
  rcases further with paid | ⟨sameFuel, sameGoal, lighter⟩
  · exact Prod.Lex.left _ _ paid
  · unfold LessToDo
    rw [sameFuel]
    refine Prod.Lex.right _ ?_
    simp only [weight, sameGoal]
    omega

/-- Taking the topmost frame away pays for less than its weight. -/
theorem GoesOn.ofPop {machine after : Machine} {frame : Frame} {stack : List Frame}
    {extra : Nat} (further : GoesOn { machine with stack } extra after)
    (popped : machine.stack = frame :: stack) (above : extra < frame.weight) :
    LessToDo after machine := by
  rcases further with paid | ⟨sameFuel, sameGoal, lighter⟩
  · exact Prod.Lex.left _ _ paid
  · have whole : stackWeight machine.stack = frame.weight + stackWeight stack := by
      rw [popped, stackWeight_cons]
    unfold LessToDo
    rw [sameFuel]
    refine Prod.Lex.right _ ?_
    simp only [weight, sameGoal]
    simp only at lighter
    omega

theorem goesOn_evaluate (machine : Machine) (expr : Expr) :
    GoesOn machine (8 * expr.size - 1) (machine.evaluate expr) := by
  have positive := expr.size_pos
  cases expr with
  | literal value =>
      cases value <;> simp [evaluate, literal, GoesOn, give, giveObject, Control.weight]
  | var name => simp [evaluate, GoesOn, giveCopy, give, retain, Control.weight]
  | assign name value =>
      simp [evaluate, GoesOn, eval, push, Control.weight, Frame.weight, Expr.size]
      omega
  | unassign name => simp [evaluate, GoesOn, give, release, Control.weight]
  | sequence parts =>
      rcases parts with _ | ⟨first, _ | ⟨next, rest⟩⟩
      · exact goesOn_give _ _ _
      · simp [evaluate, GoesOn, eval, Control.weight, Expr.size, Expr.sizes]
        omega
      · simp [evaluate, GoesOn, eval, push, Control.weight, Frame.weight, Expr.size, Expr.sizes]
        omega
  | branch condition yes no =>
      simp [evaluate, GoesOn, eval, push, Control.weight, Frame.weight, Expr.size]
      omega
  | create name =>
      simp only [evaluate, withClass]
      split <;> simp [GoesOn, giveInstance, fail, Control.weight]
  | classObject name =>
      simp only [evaluate, withClass]
      split <;> simp [GoesOn, giveObject, fail, Control.weight]
  | unary op operand =>
      simp [evaluate, GoesOn, eval, push, Control.weight, Frame.weight, Expr.size]
      omega
  | binary op left right =>
      simp [evaluate, GoesOn, eval, push, Control.weight, Frame.weight, Expr.size]
      omega
  | call receiver method arguments =>
      simp [evaluate, GoesOn, eval, push, Control.weight, Frame.weight, Expr.size]
      omega
  | raise message => exact goesOn_fail _ _ _

/-- Running a body pays for it. -/
theorem fuel_runBody {session : Session} {after : Machine} {fuel : Nat}
    {className name : String} {locals : Scope}
    (started : runBody session fuel className name locals = .running after) :
    after.fuel < fuel := by
  unfold runBody at started
  split at started
  · cases started
  split at started
  · cases started
  · cases started
  · cases started
    exact Nat.lt_succ_self _

theorem lessToDo_deliver {machine after : Machine} {value : Handle}
    (control : machine.control = .give value)
    (delivered : machine.deliver value = .running after) : LessToDo after machine := by
  unfold deliver at delivered
  split at delivered
  next => cases delivered
  next goal =>
    cases delivered
    exact Prod.Lex.right _ (by simp [weight, control, goal, Control.weight, Goal.weight]; omega)
  next => cases delivered
  next goal =>
    cases delivered
    exact Prod.Lex.right _ (by
      simp [weight, push, control, goal, Control.weight, Goal.weight, Frame.weight]; omega)
  next => cases delivered
  next goal =>
    split at delivered
    · exact Prod.Lex.left _ _ (fuel_runBody delivered)
    · cases delivered
      exact Prod.Lex.right _ (by
        simp [weight, release, control, goal, Control.weight, Goal.weight,
          Expr.sizes]
        omega)
  next => cases delivered

/-- Nothing can have less to do for ever. -/
theorem wellFounded_lessToDo : WellFounded LessToDo :=
  InvImage.wf (fun machine : Machine => (machine.fuel, machine.weight))
    (Prod.lex Nat.lt_wfRel Nat.lt_wfRel).wf

/-- Every step leaves less to do. -/
theorem lessToDo_step {machine after : Machine} (stepped : machine.step = .running after) :
    LessToDo after machine := by
  unfold step at stepped
  split at stepped
  next expr control =>
    cases stepped
    have positive := expr.size_pos
    exact (goesOn_evaluate _ _).lessToDo (by simp only [control, Control.weight]; omega)
  next comparison relation left right control =>
    cases stepped
    exact (goesOn_compare _ _ _ _ _).lessToDo (by simp [control, Control.weight])
  next purpose subject control =>
    cases stepped
    exact (goesOn_render _ _ _).lessToDo (by simp [control, Control.weight])
  next activation control =>
    cases stepped
    exact Prod.Lex.right _ (by
      simp [weight, enter, control, Control.weight, Frame.weight]; omega)
  next value control =>
    split at stepped
    next => exact lessToDo_deliver control stepped
    next frame stack rest =>
      cases stepped
      exact (goesOn_resume { machine with stack } value frame).ofPop rest
        (Nat.sub_lt frame.weight_pos Nat.one_pos)
  next error control =>
    split at stepped
    next stack =>
      unfold abandon at stepped
      split at stepped <;> cases stepped
    next frame stack rest =>
      cases stepped
      exact (goesOn_unwind { machine with stack } error frame).ofPop rest frame.weight_pos

/-- Runs a machine until it halts. -/
def run (machine : Machine) : Except EvalError Answer × Session :=
  match _stepped : machine.step with
  | .halted result session => (result, session)
  | .running after => after.run
termination_by (machine.fuel, machine.weight)
decreasing_by exact lessToDo_step ‹_›

/-- Goes on to the end from what a step leads to. -/
def Next.finish : Next → Except EvalError Answer × Session
  | .halted result session => (result, session)
  | .running machine => machine.run

/-- A run is a step and a run from there. -/
theorem run_eq_finish (machine : Machine) : machine.run = machine.step.finish := by
  rw [run]
  split
  next halted => rw [halted, Next.finish]
  next running => rw [running, Next.finish]

end Machine

end Offside
