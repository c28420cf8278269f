import Offside.Report.Answer

/-!
# States of the abstract machine

Expressions are evaluated by a machine with a control, a stack of frames and a
goal. The control says what happens next, a frame what is to be done with the
value that the control is working on, and the goal what is to be done with the
value at the bottom of the stack.

Whatever an evaluation holds on to stands in the state: in the scope in force, in
the value under control, in the frames and in the goal. The handles found there,
together with the fields of the instances in the store, are all the owners there
are.
-/

namespace Offside

/-- What lasts from one command to the next. During an evaluation `scope` is the
scope in force. -/
structure Session where
  classes : ClassTable := {}
  store : Store := {}
  scope : Scope := {}
  output : Output := .empty

/-- A method body about to be run, and the locals to run it with. -/
structure Activation where
  method : Method
  locals : Scope

/-- The locals of a call: an alias of the receiver under its own name for itself,
and then the arguments under the names of the parameters. -/
def Method.locals (method : Method) (receiver : Address) (arguments : List Handle) : Scope :=
  (Scope.bind {} Store.selfName (.alias receiver)).bindAll (method.params.zip arguments)

/-- The receiver is the one that a call's body knows itself by, unless a parameter hides it. -/
theorem Method.get_selfName_locals {method : Method} (free : Store.selfName ∉ method.params)
    (receiver : Address) (arguments : List Handle) :
    (method.locals receiver arguments).get Store.selfName = .alias receiver := by
  have unbound : Store.selfName ∉ (method.params.zip arguments).map Prod.fst := by
    intro bound
    obtain ⟨pair, member, same⟩ := List.mem_map.mp bound
    rw [← same] at free
    exact free (List.of_mem_zip member).1
  rw [Method.locals, Scope.get_bindAll_of_not_mem unbound, Scope.get_bind_self]

/-- The activation for a call. -/
def Activation.ofCall (receiver : Address) (method : Method) (arguments : List Handle) :
    Activation :=
  { method, locals := method.locals receiver arguments }

/-- What the text of a rendered value is for. -/
inductive Purpose where
  /-- To be written to the output of the session. -/
  | output
  /-- To be written to the output of its own that a command prints to. -/
  | own
  /-- To be the value of an expression. -/
  | value
  deriving DecidableEq, Repr

/-- What the machine does next. The operands of a comparison and the subject of a
rendering are held by a frame. -/
inductive Control where
  | eval (expr : Expr)
  | give (value : Handle)
  | compare (comparison : Comparison) (relation : Relation) (left right : Handle)
  | render (purpose : Purpose) (subject : Handle)
  | enter (activation : Activation)
  | fail (error : EvalError)

/-- What is to be done with a value. -/
inductive Frame where
  | assign (name : String)
  /-- Goes on with the next parts of a sequence. -/
  | sequence (next : Expr) (rest : List Expr)
  | branch (yes no : Expr)
  | unary (op : UnaryOp)
  /-- The value is a left operand. -/
  | left (op : BinaryOp) (right : Expr)
  /-- The value is a right operand. -/
  | right (op : BinaryOp) (left : Handle)
  /-- The value is the receiver of a call. -/
  | receiver (method : String) (arguments : List Expr)
  /-- The value is the next argument of a call. -/
  | argument (receiver : Handle) (method : String) (evaluated : List Handle)
      (rest : List Expr)
  /-- The value is the result of a body: back to the scope of the caller. -/
  | leave (caller : Scope)
  /-- Handles that are held until the value is there. -/
  | release (held : List Handle)
  /-- The value says whether a relation holds. -/
  | judge (comparison : Comparison) (relation : Relation) (left right : Handle)
      (held : List Handle)
  /-- The value is rendered in place of an instance. -/
  | render (purpose : Purpose)

/-- What is to be done with the value at the bottom of the stack. -/
inductive Goal where
  | inspect (inspection : Inspection)
  /-- The value is the first of two handles to be told apart. -/
  | sameLeft (right : Expr)
  | sameRight (left : Handle)
  /-- The value is to be printed to an output of its own, limited or not. -/
  | print (capacity : Option Nat)
  /-- The value has been printed to that output. -/
  | printed (capacity : Option Nat)
  /-- The value is a local of a method body that is to be run. -/
  | bindLocal (className method name : String) (rest : List (String × Expr)) (locals : Scope)
  /-- The value is the result of a method body, whose locals are in force. -/
  | executed (outer : Scope)

/-- A state of the machine. -/
structure Machine extends Session where
  /-- How many more method bodies may be started. -/
  fuel : Nat
  control : Control
  stack : List Frame
  goal : Goal
  /-- The output of its own that a command prints to. -/
  own : Output := .empty

/-- The handles held by a control. -/
def Control.handles : Control → List Handle
  | .give value => [value]
  | .enter activation => activation.locals.handles
  | _ => []

/-- The handles held by a frame. -/
def Frame.handles : Frame → List Handle
  | .right _ operand => [operand]
  | .argument subject _ evaluated _ => subject :: evaluated
  | .leave caller => caller.handles
  | .release held => held
  | .judge _ _ _ _ held => held
  | _ => []

/-- The handles held by a goal. -/
def Goal.handles : Goal → List Handle
  | .sameRight left => [left]
  | .bindLocal _ _ _ _ locals => locals.handles
  | .executed outer => outer.handles
  | _ => []

/-- The handles held by an evaluation, the fields of instances apart. -/
def Machine.roots (machine : Machine) : List Handle :=
  machine.scope.handles ++ machine.control.handles ++
    machine.stack.flatMap Frame.handles ++ machine.goal.handles

end Offside
