import Offside.Proofs.Machine.Operation

/-!
# Operations and the bodies they start

An operation evaluates no expression by itself: it decides, renders and waits, and all the
rest is done by the method bodies that it starts. As long as it is under way the machine is
either at the operation itself or inside a body above frames of the operation. The scope of the
caller is in force at the operation, and waits below the bodies that it starts.
-/

namespace Offside

/-- The frames by which operations wait for a body and hold what they need. -/
def Frame.isOperational : Frame → Bool
  | .release _ | .judge _ _ _ _ _ | .render _ => true
  | _ => false

/-- Whether no expression is to be evaluated. -/
def Control.isOperational : Control → Bool
  | .eval _ => false
  | _ => true

namespace Machine

/-- Above the base of an operation there are only frames of operations. -/
def OverOperation (base : List Frame) (machine : Machine) : Prop :=
  ∃ upper, machine.stack = upper ++ base ∧ ∀ frame ∈ upper, frame.isOperational

/-- The machine is at an operation with this base. -/
def AtOperation (base : List Frame) (machine : Machine) : Prop :=
  machine.OverOperation base ∧ machine.control.isOperational

/-- The machine is inside a body that was entered by an operation with this base. -/
def InBody (base : List Frame) (machine : Machine) : Prop :=
  ∃ caller upper, machine.Above (.leave caller :: (upper ++ base)) ∧
    ∀ frame ∈ upper, frame.isOperational

/-- An operation that began in the scope of a caller is under way: either the scope is in force, or
it is put aside below the body that runs. -/
inductive KeepsScope (caller : Scope) (base : List Frame) (machine : Machine) : Prop where
  | inForce : machine.AtOperation base → machine.scope = caller → KeepsScope caller base machine
  | below {upper : List Frame} : machine.Above (.leave caller :: (upper ++ base)) →
      (∀ frame ∈ upper, frame.isOperational) → KeepsScope caller base machine

variable {machine next : Machine} {base : List Frame} {caller : Scope}

namespace OverOperation

theorem refl (machine : Machine) : machine.OverOperation machine.stack :=
  ⟨[], rfl, fun _ member => nomatch member⟩

section Operations

variable (upon : machine.OverOperation base)
include upon

theorem append (frames : List Frame) (same : next.stack = frames ++ machine.stack)
    (operational : ∀ frame ∈ frames, frame.isOperational) : next.OverOperation base := by
  obtain ⟨upper, top, operationalUpper⟩ := upon
  refine ⟨frames ++ upper, ?_, List.forall_mem_append.mpr ⟨operational, operationalUpper⟩⟩
  rw [same, top, List.append_assoc]

theorem push (frame : Frame) (operational : frame.isOperational) :
    (machine.push frame).OverOperation base :=
  upon.append [frame] rfl (List.forall_mem_singleton.mpr operational)

theorem orFail {α : Type} {result : Except EvalError α} {next : α → Machine}
    (going : ∀ value, (next value).AtOperation base) :
    (machine.orFail result next).AtOperation base := by
  cases result with
  | ok value => exact going value
  | error error => exact ⟨upon, rfl⟩

theorem invoke (activation : Activation) {frames : List Frame}
    (operational : ∀ frame ∈ frames, frame.isOperational) :
    (machine.invoke activation frames).AtOperation base := by
  rw [Machine.invoke]
  split
  · exact ⟨upon, rfl⟩
  · exact ⟨upon.append frames rfl operational, rfl⟩

theorem dispatch (receiver : Address) (cls : Class) (name : String) (arguments : List Handle)
    {frames : List Frame} (operational : ∀ frame ∈ frames, frame.isOperational) :
    (machine.dispatch receiver cls name arguments frames).AtOperation base := by
  rw [Machine.dispatch]
  split
  · exact ⟨upon, rfl⟩
  · exact upon.invoke _ operational

theorem call (receiver : Handle) (name : String) (arguments : List Handle) :
    (machine.call receiver name arguments).AtOperation base :=
  upon.orFail fun _ => upon.dispatch _ _ _ _ (List.forall_mem_singleton.mpr rfl)

theorem conclude (comparison : Comparison) (relation : Relation) (left right : Handle)
    (holds : Bool) : (machine.conclude comparison relation left right holds).AtOperation base := by
  rw [Machine.conclude]
  split
  · exact ⟨upon, rfl⟩
  · exact ⟨upon, rfl⟩

theorem compare (comparison : Comparison) (relation : Relation) (left right : Handle) :
    (machine.compare comparison relation left right).AtOperation base := by
  refine upon.orFail fun verdict => ?_
  cases verdict with
  | decided holds => exact upon.conclude comparison relation left right holds
  | ask receiver cls held => exact upon.dispatch _ _ _ _ (List.forall_mem_singleton.mpr rfl)

theorem render (purpose : Purpose) (subject : Handle) :
    (machine.render purpose subject).AtOperation base := by
  refine upon.orFail fun rendering => ?_
  cases rendering with
  | text pieces =>
      cases purpose with
      | value => exact ⟨upon, rfl⟩
      | output | own =>
          simp only [finishRendering]
          split
          · exact ⟨upon, rfl⟩
          · exact ⟨upon, rfl⟩
  | ask receiver cls =>
      exact upon.dispatch _ _ _ _
        (List.forall_mem_cons.mpr ⟨rfl, List.forall_mem_singleton.mpr rfl⟩)

/-- An operational frame that gets a value goes on with the operation. -/
theorem resume (value : Handle) {frame : Frame} (operational : frame.isOperational) :
    (machine.resume value frame).AtOperation base := by
  cases frame with
  | release held => exact ⟨upon, rfl⟩
  | judge comparison relation left right held =>
      have released : (machine.release (value :: held)).OverOperation base := upon
      exact released.orFail fun holds => released.conclude comparison relation left right holds
  | render purpose => exact ⟨upon.push (.release [value]) rfl, rfl⟩
  | _ => cases operational

end Operations

end OverOperation

theorem atOperation_unwind (upon : machine.OverOperation base) (error : EvalError) (frame : Frame) :
    (machine.unwind error frame).AtOperation base := by
  cases frame <;> exact ⟨upon, rfl⟩

section Scopes

variable (machine : Machine)

theorem scope_orFail {α : Type} {result : Except EvalError α} {next : α → Machine}
    (going : ∀ value, (next value).scope = machine.scope) :
    (machine.orFail result next).scope = machine.scope := by
  cases result with
  | ok value => exact going value
  | error error => rfl

theorem scope_invoke (activation : Activation) (frames : List Frame) :
    (machine.invoke activation frames).scope = machine.scope := by
  unfold invoke
  split <;> rfl

theorem scope_dispatch (receiver : Address) (cls : Class) (name : String)
    (arguments : List Handle) (frames : List Frame) :
    (machine.dispatch receiver cls name arguments frames).scope = machine.scope := by
  unfold dispatch
  split
  · rfl
  · exact scope_invoke machine _ _

theorem scope_call (receiver : Handle) (name : String) (arguments : List Handle) :
    (machine.call receiver name arguments).scope = machine.scope :=
  scope_orFail machine fun _ => scope_dispatch machine _ _ _ _ _

theorem scope_conclude (comparison : Comparison) (relation : Relation) (left right : Handle)
    (holds : Bool) :
    (machine.conclude comparison relation left right holds).scope = machine.scope := by
  unfold conclude
  split <;> rfl

theorem scope_compare (comparison : Comparison) (relation : Relation) (left right : Handle) :
    (machine.compare comparison relation left right).scope = machine.scope := by
  apply scope_orFail machine
  intro verdict
  cases verdict with
  | decided holds => exact scope_conclude machine comparison relation left right holds
  | ask receiver cls held => exact scope_dispatch machine _ _ _ _ _

theorem scope_render (purpose : Purpose) (subject : Handle) :
    (machine.render purpose subject).scope = machine.scope := by
  apply scope_orFail machine
  intro rendering
  cases rendering with
  | text pieces =>
      cases purpose with
      | value => rfl
      | output | own =>
          simp only [finishRendering]
          split <;> rfl
  | ask receiver cls => exact scope_dispatch machine _ _ _ _ _

/-- The frames of operations leave the scope as it is. -/
theorem scope_resume (value : Handle) {frame : Frame} (operational : frame.isOperational) :
    (machine.resume value frame).scope = machine.scope := by
  cases frame with
  | release | render => rfl
  | judge comparison relation left right held =>
      exact scope_orFail (machine.release (value :: held)) fun holds =>
        scope_conclude (machine.release (value :: held)) comparison relation left right holds
  | _ => cases operational

theorem scope_unwind (error : EvalError) {frame : Frame} (operational : frame.isOperational) :
    (machine.unwind error frame).scope = machine.scope := by
  cases frame with
  | release | render | judge => rfl
  | _ => cases operational

end Scopes

/-- A step of an operation goes on with it in the same scope, or enters a body and puts the scope
aside. -/
theorem AtOperation.exists_step (here : machine.AtOperation base)
    (goesOn : ¬machine.ReturnedTo base) :
    ∃ next, machine.step = .running next ∧ next.KeepsScope machine.scope base := by
  obtain ⟨upon, operational⟩ := here
  obtain ⟨upper, top, operationalUpper⟩ := id upon
  rw [step]
  cases controlled : machine.control with
  | eval expr =>
      rw [controlled] at operational
      cases operational
  | compare comparison relation left right =>
      exact ⟨_, rfl, .inForce (upon.compare comparison relation left right)
        (machine.scope_compare comparison relation left right)⟩
  | render purpose subject =>
      exact ⟨_, rfl, .inForce (upon.render purpose subject) (machine.scope_render purpose subject)⟩
  | enter activation =>
      refine ⟨_, rfl, .below ?_ operationalUpper⟩
      rw [← top]
      exact List.suffix_refl _
  | give value =>
      cases upper with
      | nil => exact (goesOn ⟨top, by rw [controlled]; rfl⟩).elim
      | cons frame upper =>
          obtain ⟨operationalFrame, operationalUpper⟩ := List.forall_mem_cons.mp operationalUpper
          rw [top]
          have below : { machine with stack := upper ++ base }.OverOperation base :=
            ⟨upper, rfl, operationalUpper⟩
          exact ⟨_, rfl, .inForce (below.resume value operationalFrame)
            (scope_resume _ value operationalFrame)⟩
  | fail error =>
      cases upper with
      | nil => exact (goesOn ⟨top, by rw [controlled]; rfl⟩).elim
      | cons frame upper =>
          obtain ⟨operationalFrame, operationalUpper⟩ := List.forall_mem_cons.mp operationalUpper
          rw [top]
          have below : { machine with stack := upper ++ base }.OverOperation base :=
            ⟨upper, rfl, operationalUpper⟩
          exact ⟨_, rfl, .inForce (atOperation_unwind below error frame)
            (scope_unwind _ error operationalFrame)⟩

namespace KeepsScope

/-- A step of a body stays in it, or leaves it and brings the scope back. -/
theorem exists_step (keeps : machine.KeepsScope caller base) (goesOn : ¬machine.ReturnedTo base) :
    ∃ next, machine.step = .running next ∧ next.KeepsScope caller base := by
  cases keeps with
  | inForce here inForce =>
      rw [← inForce]
      exact here.exists_step goesOn
  | @below upper above operational =>
      by_cases returned : machine.ReturnedTo (.leave caller :: (upper ++ base))
      · obtain ⟨top, outcome⟩ := returned
        rw [step, top]
        rcases Control.eq_give_or_fail outcome with ⟨value, controlled⟩ | ⟨error, controlled⟩
        · rw [controlled]
          exact ⟨_, rfl, .inForce ⟨⟨upper, rfl, operational⟩, rfl⟩ rfl⟩
        · rw [controlled]
          exact ⟨_, rfl, .inForce ⟨⟨upper, rfl, operational⟩, rfl⟩ rfl⟩
      · obtain ⟨next, stepped, stays⟩ := above.exists_step returned
        exact ⟨next, stepped, .below stays operational⟩

theorem atOperation_or_inBody (keeps : machine.KeepsScope caller base) :
    machine.AtOperation base ∨ machine.InBody base := by
  cases keeps with
  | inForce here _ => exact .inl here
  | below above operational => exact .inr ⟨caller, _, above, operational⟩

/-- Until an operation is over, its scope is in force or put aside. -/
theorem after (keeps : machine.KeepsScope caller base) {count : Nat}
    (underWay : ∀ earlier, earlier < count → ¬(machine.after earlier).ReturnedTo base) :
    (machine.after count).KeepsScope caller base := by
  induction count with
  | zero => exact keeps
  | succ count ih =>
      have soFar := ih fun earlier before => underWay earlier (Nat.lt_succ_of_lt before)
      obtain ⟨next, stepped, further⟩ := soFar.exists_step (underWay count (Nat.lt_succ_self count))
      rw [after_of_step stepped]
      exact further

theorem reaches (keeps : machine.KeepsScope caller base) (reaches : Reaches base machine next) :
    next.KeepsScope caller base := by
  induction reaches with
  | refl => exact keeps
  | step goesOn stepped _ ih =>
      obtain ⟨next, stepped', further⟩ := keeps.exists_step goesOn
      cases stepped.symm.trans stepped'
      exact ih further

/-- When an operation is over, its scope is in force again. -/
theorem scope_of_returnedTo (keeps : machine.KeepsScope caller base)
    (returned : machine.ReturnedTo base) : machine.scope = caller := by
  cases keeps with
  | inForce _ inForce => exact inForce
  | @below upper above _ =>
      have deeper := above.length_le
      rw [returned.1, List.length_cons, List.length_append] at deeper
      omega

end KeepsScope

/-- Until an operation is over, the machine is at the operation or inside a body. -/
theorem AtOperation.after (here : machine.AtOperation base) {count : Nat}
    (underWay : ∀ earlier, earlier < count → ¬(machine.after earlier).ReturnedTo base) :
    (machine.after count).AtOperation base ∨ (machine.after count).InBody base :=
  (KeepsScope.after (.inForce here rfl) underWay).atOperation_or_inBody

end Machine

open Machine

/-- Once its operands are there, an operation begins with itself. -/
theorem Operation.exists_atOperation (operation : Operation) (machine : Machine) :
    ∃ started, (operation.awaiting machine).step = .running started ∧
      started.AtOperation (operation.base machine) := by
  have held (machine : Machine) (operands : List Handle) :
      (machine.push (.release operands)).OverOperation (.release operands :: machine.stack) :=
    OverOperation.refl _
  cases operation with
  | truth value =>
      exact ⟨_, rfl, (held (machine.give value) [value]).orFail fun holds =>
        ⟨held (machine.give value) [value], rfl⟩⟩
  | compare comparison left right => exact ⟨_, rfl, held (machine.give right) [left, right], rfl⟩
  | print subject => exact ⟨_, rfl, held (machine.give subject) [subject], rfl⟩
  | render subject => exact ⟨_, rfl, held (machine.give subject) [subject], rfl⟩
  | printTo capacity subject => exact ⟨_, rfl, OverOperation.refl _, rfl⟩
  | call receiver method arguments => exact ⟨_, Operation.step_call .., (held machine _).call ..⟩

/-- What an operation begins with leaves the scope as it is. -/
theorem Operation.scope_of_step_awaiting {machine started : Machine} {operation : Operation}
    (stepped : (operation.awaiting machine).step = .running started) :
    started.scope = machine.scope := by
  cases operation with
  | truth value =>
      cases stepped
      exact scope_orFail ((machine.give value).push (.release [value])) fun _ => rfl
  | call receiver name arguments =>
      rw [Operation.step_call] at stepped
      cases stepped
      exact scope_call _ _ _ _
  | compare | print | render | printTo =>
      cases stepped
      rfl

end Offside
