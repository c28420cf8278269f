import Offside.Object

/-!
# Evaluation errors

Why an evaluation stops, and the message for each cause. No error is recovered
from inside an evaluation.
-/

namespace Offside

/-- The causes for which an evaluation stops. -/
inductive EvalError where
  /-- The chain of a class has no method of this name with this many parameters. -/
  | noSuchMethod (className method : String) (arity : Nat)
  /-- The operands have no comparison of their own and no kind in common. -/
  | cannotCompare (relation : Relation) (left right : TypeName)
  /-- An empty handle, or an alias of an object that is gone, was followed. -/
  | invalidHandle
  /-- The output did not take all that was written to it. -/
  | outputFailed
  /-- No class has this name. -/
  | unknownClass (name : String)
  /-- A value of another kind stands where an instance is needed. -/
  | notAnInstance (kind : Kind)
  /-- The operands are neither two numbers nor two texts. -/
  | cannotAdd (left right : TypeName)
  /-- Too many method bodies were started. -/
  | outOfFuel
  /-- The program failed on purpose. -/
  | raised (message : String)
  deriving DecidableEq, Repr

namespace EvalError

/-- The message of an error. -/
def message : EvalError → String
  | .noSuchMethod className method arity =>
      s!"class {className} has no method \x60{method}\x60 taking {arity} argument(s)"
  | .cannotCompare relation left right =>
      "cannot compare " ++ left.text ++ " and " ++ right.text ++ " for " ++ relation.text
  | .invalidHandle => "dereferenced an empty or dangling object handle"
  | .outputFailed => "failed to write program output"
  | .unknownClass name => "unknown class " ++ name
  | .notAnInstance kind => kind.name ++ " is not an instance"
  | .cannotAdd left right => "cannot add " ++ left.text ++ " and " ++ right.text
  | .outOfFuel => "out of fuel"
  | .raised message => message

end EvalError

end Offside
