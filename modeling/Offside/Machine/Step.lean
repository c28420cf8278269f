import Offside.Comparing
import Offside.Machine.State
import Offside.Rendering

/-!
# Steps of the abstract machine

One step evaluates the outside of an expression, hands a value to the topmost
frame, or takes the topmost frame away after an error. The operands of an
operation are put into a frame first and released when the operation has its
value, so they live as long as the operation needs them, whether it succeeds or
fails. A step starts at most one method body, and pays for it with fuel.
-/

namespace Offside

namespace Machine

/-- Goes on to evaluate an expression. -/
def eval (machine : Machine) (expr : Expr) : Machine :=
  { machine with control := .eval expr }

/-- Goes on with a value that the machine holds from now on. -/
def give (machine : Machine) (value : Handle) : Machine :=
  { machine with control := .give value }

/-- Goes on with an error. -/
def fail (machine : Machine) (error : EvalError) : Machine :=
  { machine with control := .fail error }

/-- Puts a frame on the stack. -/
def push (machine : Machine) (frame : Frame) : Machine :=
  { machine with stack := frame :: machine.stack }

/-- Counts in owners among handles that the machine holds from now on. -/
def retain (machine : Machine) (handles : List Handle) : Machine :=
  { machine with store := machine.store.retain handles }

/-- Counts out owners among handles that the machine holds no longer. -/
def release (machine : Machine) (handles : List Handle) : Machine :=
  { machine with store := machine.store.release handles }

/-- Goes on with another owner, or another alias, of what a handle refers to. -/
def giveCopy (machine : Machine) (value : Handle) : Machine :=
  (machine.retain [value]).give value

/-- Goes on with a new object. -/
def giveObject (machine : Machine) (object : Object) : Machine :=
  let address := machine.store.nextAddress
  { machine with
    store := machine.store.allocate object
    control := .give (.owner address) }

/-- Goes on with a new instance of a class. -/
def giveInstance (machine : Machine) (cls : Class) : Machine :=
  let address := machine.store.nextAddress
  { machine with
    store := machine.store.allocateInstance cls
    control := .give (.owner address) }

/-- Goes on with what `next` makes of a result, unless the result is an error. -/
def orFail {α : Type} (machine : Machine) (result : Except EvalError α)
    (next : α → Machine) : Machine :=
  match result with
  | .ok value => next value
  | .error error => machine.fail error

/-- Goes on with what `next` makes of the class now named so. -/
def withClass (machine : Machine) (name : String) (next : Class → Machine) : Machine :=
  match machine.classes.find? name with
  | some cls => next cls
  | none => machine.fail (.unknownClass name)

/-- Starts a method body under the given frames, if there is fuel for one more. The
handles in the locals and in the frames are held from here on. -/
def invoke (machine : Machine) (activation : Activation) (frames : List Frame) : Machine :=
  match machine.fuel with
  | 0 => machine.fail .outOfFuel
  | fuel + 1 =>
      { machine.retain (activation.locals.handles ++ frames.flatMap Frame.handles) with
        fuel
        control := .enter activation
        stack := frames ++ machine.stack }

/-- Enters a method body: its locals are in force until it gives a value. -/
def enter (machine : Machine) (activation : Activation) : Machine :=
  { machine with
    scope := activation.locals
    control := .eval activation.method.body
    stack := .leave machine.scope :: machine.stack }

/-- Evaluates a literal. -/
def literal (machine : Machine) : Literal → Machine
  | .nothing => machine.give .empty
  | .bool value => machine.giveObject (.bool value)
  | .number value => machine.giveObject (.number value)
  | .text value => machine.giveObject (.text value)

/-- Evaluates the outside of an expression. -/
def evaluate (machine : Machine) : Expr → Machine
  | .literal value => machine.literal value
  | .var name => machine.giveCopy (machine.scope.get name)
  | .assign name value => (machine.push (.assign name)).eval value
  | .unassign name =>
      ({ machine with scope := machine.scope.unbind name }.release
        (machine.scope.displaced name)).give .empty
  | .sequence [] => machine.give .empty
  | .sequence [last] => machine.eval last
  | .sequence (first :: next :: rest) => (machine.push (.sequence next rest)).eval first
  | .branch condition yes no => (machine.push (.branch yes no)).eval condition
  | .create name => machine.withClass name machine.giveInstance
  | .classObject name => machine.withClass name fun cls => machine.giveObject (.classValue cls)
  | .unary op operand => (machine.push (.unary op)).eval operand
  | .binary op left right => (machine.push (.left op right)).eval left
  | .call receiver method arguments =>
      (machine.push (.receiver method arguments)).eval receiver
  | .raise message => machine.fail (.raised message)

/-- Performs an operation on a value that a frame holds. -/
def performUnary (machine : Machine) (operand : Handle) : UnaryOp → Machine
  | .alias =>
      machine.orFail (machine.store.get operand) fun (address, _) =>
        machine.give (.alias address)
  | .selfOf =>
      machine.orFail (machine.store.getInstance operand) fun (address, _) =>
        machine.give (.alias address)
  | .field name =>
      machine.orFail (machine.store.getInstance operand) fun (_, _, fields) =>
        machine.giveCopy (fields.get name)
  | .deleteField name =>
      machine.orFail (machine.store.getInstance operand) fun (address, _, fields) =>
        ({ machine with
          store := machine.store.putFields address (fields.unbind name) }.release
            (fields.displaced name)).give .empty
  | .truth =>
      machine.orFail (machine.store.truth operand) fun value => machine.giveObject (.bool value)
  | .print => { machine with control := .render .output operand }
  | .render => { machine with control := .render .value operand }

/-- Performs an operation on two values that a frame holds. -/
def performBinary (machine : Machine) (left right : Handle) : BinaryOp → Machine
  | .setField name =>
      machine.orFail (machine.store.getInstance left) fun (address, _, fields) =>
        let machine := machine.retain [right]
        ({ machine with
          store := machine.store.putFields address (fields.bind name right) }.release
            (fields.displaced name)).give .empty
  | .compare comparison =>
      { machine with control := .compare comparison comparison.relation left right }
  | .add => machine.orFail (machine.store.sum left right) machine.giveObject

/-- Calls a method of an instance of a class under the given frames, if the class has it
for as many arguments. -/
def dispatch (machine : Machine) (receiver : Address) (cls : Class) (name : String)
    (arguments : List Handle) (frames : List Frame) : Machine :=
  match cls.methodTaking? name arguments.length with
  | none => machine.fail (.noSuchMethod cls.name name arguments.length)
  | some method => machine.invoke (.ofCall receiver method arguments) frames

/-- Calls a method on a receiver, with arguments; a frame holds all of them. The
receiver is held on its own for as long as the call takes. -/
def call (machine : Machine) (receiver : Handle) (name : String) (arguments : List Handle) :
    Machine :=
  machine.orFail (machine.store.getInstance receiver) fun (address, cls, _) =>
    machine.dispatch address cls name arguments [.release [.owner address]]

/-- Goes on after a relation was decided: to the equality, if the comparison asks
for it as well, or to the answer of the comparison. -/
def conclude (machine : Machine) (comparison : Comparison) (relation : Relation)
    (left right : Handle) (holds : Bool) : Machine :=
  if relation = .order ∧ comparison.orEqual ∧ !holds then
    { machine with control := .compare comparison .equality left right }
  else machine.giveObject (.bool (holds != comparison.negated))

/-- Decides a relation between two values that a frame holds. -/
def compare (machine : Machine) (comparison : Comparison) (relation : Relation)
    (left right : Handle) : Machine :=
  machine.orFail (machine.store.verdict relation left right) fun
    | .decided holds => machine.conclude comparison relation left right holds
    | .ask receiver cls held =>
        machine.dispatch receiver cls relation.method [right]
          [.judge comparison relation left right held]

/-- Goes on after a method decided a relation. -/
def judge (machine : Machine) (comparison : Comparison) (relation : Relation)
    (left right : Handle) (held : List Handle) (value : Handle) : Machine :=
  let truth := machine.store.truth value
  let machine := machine.release (value :: held)
  machine.orFail truth (machine.conclude comparison relation left right)

/-- Goes on with the text of a rendered value. A text for the session is put together
before it is written, and one for an output of its own is written in pieces. -/
def finishRendering (machine : Machine) (pieces : List String) : Purpose → Machine
  | .value => machine.giveObject (.text (String.join pieces))
  | .output =>
      let bytes := (String.join pieces).toUTF8
      let fits := machine.output.fits bytes.size
      let written := { machine with output := machine.output.write bytes }
      if fits then written.give .empty else written.fail .outputFailed
  | .own =>
      let result := machine.own.writePieces pieces
      let written := { machine with own := result.1 }
      if result.2 then written.give .empty else written.fail .outputFailed

/-- Renders a value that a frame holds. -/
def render (machine : Machine) (purpose : Purpose) (subject : Handle) : Machine :=
  machine.orFail (machine.store.rendering subject) fun
    | .text pieces => machine.finishRendering pieces purpose
    | .ask receiver cls =>
        machine.dispatch receiver cls renderMethod []
          [.render purpose, .release [.owner receiver]]

/-- Hands a value to a frame that was topmost on the stack. -/
def resume (machine : Machine) (value : Handle) : Frame → Machine
  | .assign name =>
      ({ machine with scope := machine.scope.bind name value }.release
        (machine.scope.displaced name)).give .empty
  | .sequence next rest => (machine.release [value]).eval (.sequence (next :: rest))
  | .branch yes no =>
      let truth := machine.store.truth value
      let machine := machine.release [value]
      machine.orFail truth fun holds => machine.eval (if holds then yes else no)
  | .unary op => (machine.push (.release [value])).performUnary value op
  | .left op right => (machine.push (.right op value)).eval right
  | .right op left => (machine.push (.release [left, value])).performBinary left value op
  | .receiver method [] => (machine.push (.release [value])).call value method []
  | .receiver method (first :: rest) =>
      (machine.push (.argument value method [] rest)).eval first
  | .argument receiver method evaluated [] =>
      let arguments := evaluated ++ [value]
      (machine.push (.release (receiver :: arguments))).call receiver method arguments
  | .argument receiver method evaluated (next :: rest) =>
      (machine.push (.argument receiver method (evaluated ++ [value]) rest)).eval next
  | .leave caller =>
      { machine.release machine.scope.handles with scope := caller, control := .give value }
  | .release held => (machine.release held).give value
  | .judge comparison relation left right held =>
      machine.judge comparison relation left right held value
  | .render purpose =>
      { machine.push (.release [value]) with control := .render purpose value }

/-- Takes a frame away that was topmost on the stack when an error arose. -/
def unwind (machine : Machine) (error : EvalError) : Frame → Machine
  | .leave caller =>
      { machine.release machine.scope.handles with scope := caller, control := .fail error }
  | frame => (machine.release frame.handles).fail error

/-- What a step leads to. -/
inductive Next where
  | running (machine : Machine)
  | halted (result : Except EvalError Answer) (session : Session)

/-- Ends the evaluation. Nothing but the session is held any more. -/
def halt (machine : Machine) (result : Except EvalError Answer) : Next :=
  .halted result machine.toSession

/-- Runs the body of a method with the given locals in force. There is no call: the
scope of the session is put back when the body is done. -/
def runBody (session : Session) (fuel : Nat) (className name : String) (locals : Scope) :
    Next :=
  let stopped (result : Except EvalError Answer) : Next :=
    .halted result { session with store := session.store.release locals.handles }
  match session.classes.find? className with
  | none => stopped (.error (.unknownClass className))
  | some cls =>
      match cls.method? name, fuel with
      | none, _ => stopped (.ok .nothing)
      | some _, 0 => stopped (.error .outOfFuel)
      | some method, fuel + 1 =>
          .running { session with
            scope := locals
            fuel
            control := .eval method.body
            stack := []
            goal := .executed session.scope }

/-- Hands the value at the bottom of the stack to the goal. -/
def deliver (machine : Machine) (value : Handle) : Next :=
  match machine.goal with
  | .inspect inspection =>
      let result := inspection.answer machine.store value
      (machine.release [value]).halt result
  | .sameLeft right => .running { machine with goal := .sameRight value, control := .eval right }
  | .sameRight left =>
      let same := machine.store.same left value
      (machine.release [left, value]).halt (.ok (.flag same))
  | .print capacity =>
      .running { machine.push (.release [value]) with
        goal := .printed capacity, control := .render .own value, own := .ofLimit capacity }
  | .printed capacity =>
      (machine.release [value]).halt (.ok (.ofPrinting machine.own capacity))
  | .bindLocal className method name rest locals =>
      let machine := machine.release (locals.displaced name)
      let locals := locals.bind name value
      match rest with
      | [] => runBody machine.toSession machine.fuel className method locals
      | (name, next) :: rest =>
          .running { machine with
            goal := .bindLocal className method name rest locals
            control := .eval next }
  | .executed outer =>
      let result := .executed (machine.store.describe value)
        (machine.store.describeScope machine.scope)
      { machine.release (value :: machine.scope.handles) with scope := outer }.halt
        (.ok result)

/-- Ends the evaluation after an error. If a value was to be printed to a limited output,
what that has stored is an answer of its own. -/
def abandon (machine : Machine) (error : EvalError) : Next :=
  match machine.goal with
  | .printed (some _) => machine.halt (.ok (.printed machine.own.captured (some error)))
  | .executed outer =>
      { machine.release machine.scope.handles with scope := outer }.halt (.error error)
  | goal => (machine.release goal.handles).halt (.error error)

/-- One step. -/
def step (machine : Machine) : Next :=
  match machine.control with
  | .eval expr => .running (machine.evaluate expr)
  | .compare comparison relation left right =>
      .running (machine.compare comparison relation left right)
  | .render purpose subject => .running (machine.render purpose subject)
  | .enter activation => .running (machine.enter activation)
  | .give value =>
      match machine.stack with
      | [] => machine.deliver value
      | frame :: stack => .running ({ machine with stack }.resume value frame)
  | .fail error =>
      match machine.stack with
      | [] => machine.abandon error
      | frame :: stack => .running ({ machine with stack }.unwind error frame)

end Machine

end Offside
