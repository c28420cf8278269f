import Offside.Proofs.Machine.Course

/-!
# How calls begin

The body of a method is entered for a call, to decide a comparison, or to render an
instance. Each time the receiver was found before, and a frame below the body holds it: the
last of the frames that were put on the stack together with the body.
-/

namespace Offside

namespace Machine

/-- The ways to come to enter a body of a method of a receiver with arguments, above frames
that wait for what the body gives and a frame that holds the receiver. -/
inductive Dispatch (store : Store) (receiver : Address) :
    Method → List Handle → List Frame → Frame → Prop where
  | call {subject : Handle} {cls : Class} {fields : Scope} {name : String} {method : Method}
      {arguments : List Handle} :
      store.getInstance subject = .ok (receiver, cls, fields) →
      cls.methodTaking? name arguments.length = some method →
      Dispatch store receiver method arguments [] (.release [.owner receiver])
  | comparison {relation : Relation} {left right : Handle} {cls : Class} {fields : Scope}
      {rightFound : Option (Address × Object)} {method : Method} (comparison : Comparison) :
      store.resolve left = .ok (some (receiver, .instanceOf cls fields)) →
      store.resolve right = .ok rightFound →
      cls.methodTaking? relation.method 1 = some method →
      Dispatch store receiver method [right] []
        (.judge comparison relation left right [.owner receiver, Store.holdOf rightFound])
  | rendering {subject : Handle} {cls : Class} {fields : Scope} {method : Method}
      (purpose : Purpose) :
      store.resolve subject = .ok (some (receiver, .instanceOf cls fields)) →
      cls.methodTaking? renderMethod 0 = some method →
      Dispatch store receiver method [] [.render purpose] (.release [.owner receiver])

/-- The machine is entering a body after a dispatch that was made in the store. -/
structure Entering (store : Store) (receiver : Address) (method : Method)
    (arguments : List Handle) (waiting : List Frame) (holder : Frame) (rest : List Frame)
    (machine : Machine) : Prop where
  dispatch : Dispatch store receiver method arguments waiting holder
  control : machine.control = .enter (.ofCall receiver method arguments)
  stack : machine.stack = waiting ++ holder :: rest

/-- Whether a method body is to be entered. -/
def entersBody : Control → Bool
  | .enter _ => true
  | _ => false

/-- If the machine is entering a body, it is after a dispatch. -/
def ByDispatch (store : Store) (machine : Machine) : Prop :=
  ∀ activation, machine.control = .enter activation →
    ∃ receiver method arguments waiting holder rest,
      Entering store receiver method arguments waiting holder rest machine

theorem ByDispatch.of_not_enters {store : Store} {machine : Machine}
    (stays : entersBody machine.control = false) : ByDispatch store machine := by
  intro activation entered
  rw [entered] at stays
  cases stays

theorem stack_judge {comparison : Comparison} {relation : Relation} {left right : Handle}
    {held : List Handle} {value : Handle} (machine : Machine) :
    (machine.judge comparison relation left right held value).stack = machine.stack := by
  rw [judge]
  cases machine.store.truth value with
  | error error => rfl
  | ok holds =>
      rw [orFail, conclude]
      split
      · rfl
      · rfl

section Dispatch

variable {store : Store} {receiver : Address} {method : Method} {arguments : List Handle}
  {waiting : List Frame} {holder : Frame}

theorem Dispatch.owner_mem (dispatch : Dispatch store receiver method arguments waiting holder) :
    .owner receiver ∈ holder.handles := by
  cases dispatch with
  | call | comparison | rendering => exact List.mem_cons_self

theorem Dispatch.object?_eq
    (dispatch : Dispatch store receiver method arguments waiting holder) :
    ∃ cls fields, store.object? receiver = some (.instanceOf cls fields) := by
  cases dispatch with
  | call found => exact ⟨_, _, Store.object?_of_getInstance found⟩
  | comparison _ found => exact ⟨_, _, (Store.resolve_eq_some_iff.mp found).2⟩
  | rendering _ found => exact ⟨_, _, (Store.resolve_eq_some_iff.mp found).2⟩

/-- When the frame that holds the receiver gets its turn, it is taken away. -/
theorem Dispatch.exists_step
    (dispatch : Dispatch store receiver method arguments waiting holder) {machine : Machine}
    {rest : List Frame} (top : machine.stack = holder :: rest)
    (outcome : machine.control.isOutcome) :
    ∃ next, machine.step = .running next ∧ next.stack = rest := by
  rw [step, top]
  rcases Control.eq_give_or_fail outcome with ⟨value, controlled⟩ | ⟨error, controlled⟩
  · rw [controlled]
    cases dispatch with
    | call | rendering => exact ⟨_, rfl, rfl⟩
    | comparison => exact ⟨_, rfl, stack_judge _⟩
  · rw [controlled]
    cases dispatch with
    | call | comparison | rendering => exact ⟨_, rfl, rfl⟩

end Dispatch

section Operations

variable {store : Store} {machine : Machine}

theorem ByDispatch.orFail {α : Type} {result : Except EvalError α} {next : α → Machine}
    (going : ∀ value, result = .ok value → ByDispatch store (next value)) :
    ByDispatch store (machine.orFail result next) := by
  cases result with
  | ok value => exact going value rfl
  | error error => exact .of_not_enters rfl

theorem ByDispatch.withClass {name : String} {next : Class → Machine}
    (going : ∀ cls, ByDispatch store (next cls)) :
    ByDispatch store (machine.withClass name next) := by
  unfold Machine.withClass
  split
  · exact going _
  · exact .of_not_enters rfl

theorem byDispatch_invoke {receiver : Address} {method : Method} {arguments : List Handle}
    {waiting : List Frame} {holder : Frame}
    (dispatch : Dispatch store receiver method arguments waiting holder) :
    ByDispatch store
      (machine.invoke (.ofCall receiver method arguments) (waiting ++ [holder])) := by
  unfold invoke
  split
  · exact .of_not_enters rfl
  · intro _ _
    refine ⟨receiver, method, arguments, waiting, holder, machine.stack, dispatch, rfl, ?_⟩
    exact List.append_assoc waiting [holder] machine.stack

theorem byDispatch_dispatch {receiver : Address} {cls : Class} {name : String}
    {arguments : List Handle} {waiting : List Frame} {holder : Frame}
    (dispatch : ∀ method, cls.methodTaking? name arguments.length = some method →
      Dispatch store receiver method arguments waiting holder) :
    ByDispatch store
      (machine.dispatch receiver cls name arguments (waiting ++ [holder])) := by
  unfold Machine.dispatch
  split
  · exact .of_not_enters rfl
  next method taking => exact byDispatch_invoke (dispatch method taking)

theorem byDispatch_call (machine : Machine) (subject : Handle) (name : String)
    (arguments : List Handle) :
    ByDispatch machine.store (machine.call subject name arguments) := by
  apply ByDispatch.orFail
  rintro ⟨receiver, cls, fields⟩ found
  exact byDispatch_dispatch fun method taking => .call found taking

theorem byDispatch_conclude (comparison : Comparison) (relation : Relation) (left right : Handle)
    (holds : Bool) :
    ByDispatch store (machine.conclude comparison relation left right holds) := by
  unfold conclude
  split
  · exact .of_not_enters rfl
  · exact .of_not_enters rfl

theorem byDispatch_compare (machine : Machine) (comparison : Comparison) (relation : Relation)
    (left right : Handle) :
    ByDispatch machine.store (machine.compare comparison relation left right) := by
  apply ByDispatch.orFail
  intro verdict found
  cases verdict with
  | decided holds => exact byDispatch_conclude comparison relation left right holds
  | ask receiver cls held =>
      obtain ⟨fields, rightFound, leftThere, rightThere, _, rfl⟩ := Store.verdict_eq_ask found
      exact byDispatch_dispatch fun method taking =>
        .comparison comparison leftThere rightThere taking

theorem byDispatch_render (machine : Machine) (purpose : Purpose) (subject : Handle) :
    ByDispatch machine.store (machine.render purpose subject) := by
  apply ByDispatch.orFail
  intro rendering found
  cases rendering with
  | text pieces =>
      cases purpose with
      | value => exact .of_not_enters rfl
      | output | own =>
          simp only [finishRendering]
          split
          · exact .of_not_enters rfl
          · exact .of_not_enters rfl
  | ask receiver cls =>
      obtain ⟨fields, there, _⟩ := Store.rendering_eq_ask found
      exact byDispatch_dispatch fun method taking => .rendering purpose there taking

theorem byDispatch_performUnary (operand : Handle) (op : UnaryOp) :
    ByDispatch store (machine.performUnary operand op) := by
  cases op with
  | print | render => exact .of_not_enters rfl
  | _ => exact ByDispatch.orFail fun _ _ => .of_not_enters rfl

theorem byDispatch_performBinary (left right : Handle) (op : BinaryOp) :
    ByDispatch store (machine.performBinary left right op) := by
  cases op with
  | compare comparison => exact .of_not_enters rfl
  | _ => exact ByDispatch.orFail fun _ _ => .of_not_enters rfl

theorem byDispatch_evaluate (expr : Expr) : ByDispatch store (machine.evaluate expr) := by
  cases expr with
  | literal value => cases value <;> exact .of_not_enters rfl
  | sequence parts =>
      rcases parts with _ | ⟨first, _ | ⟨next, rest⟩⟩ <;> exact .of_not_enters rfl
  | create name => exact .withClass fun _ => .of_not_enters rfl
  | classObject name => exact .withClass fun _ => .of_not_enters rfl
  | _ => exact .of_not_enters rfl

theorem byDispatch_resume (machine : Machine) (value : Handle) (frame : Frame) :
    ByDispatch machine.store (machine.resume value frame) := by
  cases frame with
  | branch yes no => exact ByDispatch.orFail fun _ _ => .of_not_enters rfl
  | unary op => exact byDispatch_performUnary value op
  | right op left => exact byDispatch_performBinary left value op
  | receiver name rest =>
      cases rest with
      | nil => exact byDispatch_call (machine.push (.release [value])) value name []
      | cons first rest => exact .of_not_enters rfl
  | argument subject name evaluated rest =>
      cases rest with
      | nil =>
          exact byDispatch_call (machine.push (.release (subject :: (evaluated ++ [value]))))
            subject name (evaluated ++ [value])
      | cons next rest => exact .of_not_enters rfl
  | judge comparison relation left right held =>
      exact ByDispatch.orFail fun holds _ =>
        byDispatch_conclude comparison relation left right holds
  | _ => exact .of_not_enters rfl

theorem byDispatch_unwind (error : EvalError) (frame : Frame) :
    ByDispatch store (machine.unwind error frame) := by
  cases frame <;> exact .of_not_enters rfl

end Operations

/-- A body that is run without a call is not entered. -/
theorem byDispatch_runBody {store : Store} {session : Session} {fuel : Nat}
    {className name : String} {locals : Scope} {next : Machine}
    (started : runBody session fuel className name locals = .running next) :
    ByDispatch store next := by
  unfold runBody at started
  split at started
  next => cases started
  next =>
    split at started
    next => cases started
    next => cases started
    next =>
      cases started
      exact .of_not_enters rfl

theorem byDispatch_deliver {machine next : Machine} {value : Handle}
    (delivered : machine.deliver value = .running next) : ByDispatch machine.store next := by
  unfold deliver at delivered
  split at delivered
  next => cases delivered
  next =>
    cases delivered
    exact .of_not_enters rfl
  next => cases delivered
  next =>
    cases delivered
    exact .of_not_enters rfl
  next => cases delivered
  next =>
    split at delivered
    · exact byDispatch_runBody delivered
    · cases delivered
      exact .of_not_enters rfl
  next => cases delivered

/-- Whenever a step leads to entering a body, it is after a dispatch. -/
theorem byDispatch_step {machine next : Machine} (stepped : machine.step = .running next) :
    ByDispatch machine.store next := by
  unfold step at stepped
  split at stepped
  next expr _ =>
    cases stepped
    exact byDispatch_evaluate expr
  next comparison relation left right _ =>
    cases stepped
    exact byDispatch_compare machine comparison relation left right
  next purpose subject _ =>
    cases stepped
    exact byDispatch_render machine purpose subject
  next =>
    cases stepped
    exact .of_not_enters rfl
  next value _ =>
    split at stepped
    next => exact byDispatch_deliver stepped
    next frame stack _ =>
      cases stepped
      exact byDispatch_resume { machine with stack } value frame
  next error _ =>
    split at stepped
    next =>
      unfold abandon at stepped
      split at stepped <;> cases stepped
    next frame stack _ =>
      cases stepped
      exact byDispatch_unwind error frame

end Machine

end Offside
