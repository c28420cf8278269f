import Offside.Output
import Offside.Report.Description

/-!
# Answers

What a session answers to a command, and the inspections of one value among the
commands.
-/

namespace Offside

/-- The answer to a command that succeeds. -/
inductive Answer where
  | nothing
  | flag (value : Bool)
  | count (value : Nat)
  | text (value : String)
  | description (value : Description)
  | descriptions (values : List (String × Description))
  /-- The result of a method body and the locals it left. -/
  | executed (result : Description) (locals : List (String × Description))
  | probe (value : Probe)
  | summary (value : ClassSummary)
  | method (value : Method)
  /-- What a limited output stored, and what went wrong. -/
  | printed (stored : String) (failure : Option EvalError)

/-- What can be asked of the value of an expression. -/
inductive Inspection where
  | describe
  | probe
  | display
  | hasMethod (name : String) (arity : Nat)
  | fields
  /-- The display of an instance whose fields are in use elsewhere. -/
  | displayBusy
  deriving DecidableEq, Repr

/-- Answers an inspection. Some ask for an instance. -/
def Inspection.answer (store : Store) (subject : Handle) :
    Inspection → Except EvalError Answer
  | .describe => .ok (.description (store.describe subject))
  | .probe => .ok (.probe (store.probe subject))
  | .display => .ok (.text (store.display subject))
  | .hasMethod name arity =>
      (store.getInstance subject).map fun (_, cls, _) => .flag (cls.hasMethod name arity)
  | .fields =>
      (store.getInstance subject).map fun (_, _, scope) =>
        .descriptions (store.describeScope scope)
  | .displayBusy =>
      (store.getInstance subject).map fun (_, cls, _) => .text (displayInstance cls [])

/-- The answer after a value was printed to an output of its own, limited or not. -/
def Answer.ofPrinting (own : Output) : Option Nat → Answer
  | none => .text own.captured
  | some _ => .printed own.captured none

end Offside
