import Offside.Machine.Run

/-!
# Commands

A session is driven by commands. Most evaluate expressions, in the scope of the
session and with fuel of their own; an error ends its command, and what was done
before it stays done. The others read or change the session directly.
-/

namespace Offside

/-- A command to a session. -/
inductive Command where
  /-- Evaluates an expression and inspects its value. -/
  | inspect (inspection : Inspection) (subject : Expr)
  /-- Whether two expressions have the same object for a value. -/
  | same (left right : Expr)
  /-- Prints the value of an expression to an output of its own, limited or not. -/
  | print (subject : Expr) (capacity : Option Nat)
  /-- Runs the body of a method with the given locals and nothing else. -/
  | execute (className method : String) (locals : List (String × Expr))
  /-- Defines a class. Its parent, if it has one, is looked up first. -/
  | defineClass (name : String) (parent : Option String) (methods : List Method)
  | summarize (className : String)
  /-- The method that a class would answer a name with. -/
  | method (className name : String)
  /-- Writes a text to the output as far as it fits, at once. -/
  | write (text : String)
  | flush
  | clear
  /-- Describes all variables. -/
  | describeScope

namespace Session

/-- The number of method bodies that a command may start. -/
def fuelPerCommand : Nat := 3000

/-- A session before its first command. -/
def start (output : Output) : Session := { output }

/-- A machine that is to evaluate an expression to a goal. -/
def machine (session : Session) (expr : Expr) (goal : Goal) : Machine :=
  { session with fuel := fuelPerCommand, control := .eval expr, stack := [], goal }

/-- Defines a class on top of its parent. -/
def defineClass (session : Session) (name : String) (parent : Option Class)
    (methods : List Method) : Answer × Session :=
  let cls := Class.ofParts name methods parent
  (.text cls.display, { session with classes := session.classes.define cls })

/-- Answers with what is known of the class now named so. -/
def ofClass (session : Session) (name : String) (answer : Class → Answer) :
    Except EvalError Answer :=
  match session.classes.find? name with
  | some cls => .ok (answer cls)
  | none => .error (.unknownClass name)

/-- Writes once to the output. It is an error if nothing fits of a text that is not
empty. -/
def write (session : Session) (text : String) : Except EvalError Answer × Session :=
  let bytes := text.toUTF8
  let accepted := session.output.acceptable bytes.size
  let result := if accepted = 0 ∧ bytes.size ≠ 0 then .error .outputFailed
    else .ok (.count accepted)
  (result, { session with output := session.output.write bytes })

/-- What a command leads to: a machine that is to run, or an answer at once. -/
def begin (session : Session) : Command → Machine.Next
  | .inspect inspection subject => .running (session.machine subject (.inspect inspection))
  | .same left right => .running (session.machine left (.sameLeft right))
  | .print subject capacity => .running (session.machine subject (.print capacity))
  | .execute className method ((name, value) :: rest) =>
      .running (session.machine value (.bindLocal className method name rest {}))
  | .execute className method [] =>
      Machine.runBody session fuelPerCommand className method {}
  | .defineClass name none methods =>
      let (answer, session) := session.defineClass name none methods
      .halted (.ok answer) session
  | .defineClass name (some parent) methods =>
      match session.classes.find? parent with
      | none => .halted (.error (.unknownClass parent)) session
      | some parent =>
          let (answer, session) := session.defineClass name (some parent) methods
          .halted (.ok answer) session
  | .summarize className =>
      .halted (session.ofClass className fun cls => .summary cls.summary) session
  | .method className name =>
      .halted (session.ofClass className fun cls =>
        match cls.method? name with
        | some method => .method method
        | none => .nothing) session
  | .write text =>
      let (result, session) := session.write text
      .halted result session
  | .flush =>
      .halted (if session.output.isFull then .error .outputFailed else .ok .nothing) session
  | .clear => .halted (.ok .nothing) { session with output := session.output.clear }
  | .describeScope =>
      .halted (.ok (.descriptions (session.store.describeScope session.scope))) session

/-- Carries out a command. -/
def perform (session : Session) (command : Command) : Except EvalError Answer × Session :=
  (session.begin command).finish

/-- Carries out commands in turn, and observes every result with the session that it
left. An error does not end the list. -/
def performAll {α : Type} (observe : Except EvalError Answer → Session → α)
    (session : Session) : List Command → List α
  | [] => []
  | command :: commands =>
      let (result, session) := session.perform command
      observe result session :: session.performAll observe commands

end Session

end Offside
