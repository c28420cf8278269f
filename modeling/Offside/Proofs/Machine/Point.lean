import Mathlib.Logic.Relation
import Offside.Command
import Offside.Proofs.Store.Moves

/-!
# Points of a session

A session is at a point between two commands or inside one. Inside, the machine
stands before one of its steps, with all that the operations under way hold and look
at.
-/

namespace Offside

/-- The handles that an operation looks at while others hold them. -/
def Control.borrowed : Control → List Handle
  | .compare _ _ left right => [left, right]
  | .render _ subject => [subject]
  | _ => []

/-- The handles that a waiting operation will look at again while others hold them. -/
def Frame.borrowed : Frame → List Handle
  | .judge _ _ first second _ => [first, second]
  | _ => []

/-- Where a session can be. -/
inductive Point where
  | between (session : Session)
  | inside (machine : Machine)

namespace Point

/-- The point that a step leads to. -/
def ofNext : Machine.Next → Point
  | .running machine => .inside machine
  | .halted _ session => .between session

/-- The store at a point. -/
def store : Point → Store
  | .between session => session.store
  | .inside machine => machine.store

/-- The handles that are held at a point: by the variables, and inside a command also
by the locals of calls and as the operands and the resolved references of operations
under way. -/
def held : Point → List Handle
  | .between session => session.scope.handles
  | .inside machine => machine.roots

/-- The handles that operations under way look at without holding them. -/
def borrowed : Point → List Handle
  | .between _ => []
  | .inside machine => machine.control.borrowed ++ machine.stack.flatMap Frame.borrowed

/-- Every handle that there is at a point. -/
def handles (point : Point) : List Handle :=
  point.held ++ point.store.fieldHandles ++ point.borrowed

/-- The store and the held handles at a point. -/
def holding (point : Point) : Holding :=
  { store := point.store, held := point.held }

/-- From between two commands any command can begin, and inside a command the machine
goes on by one step. -/
inductive Step : Point → Point → Prop where
  | begin (session : Session) (command : Command) :
      Step (.between session) (ofNext (session.begin command))
  | step (machine : Machine) : Step (.inside machine) (ofNext machine.step)

/-- A later point of the same session. -/
abbrev Leads : Point → Point → Prop :=
  Relation.ReflTransGen Step

theorem leads_run (machine : Machine) : Leads (.inside machine) (.between machine.run.2) := by
  induction machine using Machine.run.induct with
  | case1 machine result session halted =>
      have step := Step.step machine
      rw [Machine.run_eq_finish, halted]
      rw [halted] at step
      exact .single step
  | case2 machine after running ih =>
      have step := Step.step machine
      rw [Machine.run_eq_finish, running]
      rw [running] at step
      exact .head step ih

/-- What a command leaves is a later point, however the command ends. -/
theorem leads_perform (session : Session) (command : Command) :
    Leads (.between session) (.between (session.perform command).2) := by
  have step := Step.begin session command
  rw [Session.perform]
  cases begun : session.begin command with
  | halted result after =>
      rw [begun] at step
      exact .single step
  | running machine =>
      rw [begun] at step
      exact .head step (leads_run machine)

end Point

end Offside
