/-!
# Expressions

The expressions that make up method bodies and the commands of a session.
-/

namespace Offside

/-- The two questions that operands can be compared for. -/
inductive Relation where
  | equality
  | order
  deriving DecidableEq, Repr

/-- The name of a relation in messages. -/
def Relation.text : Relation → String
  | .equality => "equality"
  | .order => "order"

/-- The six comparisons. -/
inductive Comparison where
  | equal | notEqual | less | lessOrEqual | greater | greaterOrEqual
  deriving DecidableEq, Repr

namespace Comparison

/-- The relation that a comparison asks first. -/
def relation : Comparison → Relation
  | .equal | .notEqual => .equality
  | .less | .lessOrEqual | .greater | .greaterOrEqual => .order

/-- Whether a comparison goes on to ask for equality when the order does not hold. -/
def orEqual : Comparison → Bool
  | .lessOrEqual | .greater => true
  | _ => false

/-- Whether a comparison answers with the opposite of what it asked. -/
def negated : Comparison → Bool
  | .notEqual | .greater | .greaterOrEqual => true
  | _ => false

end Comparison

/-- A value that is written out in an expression. -/
inductive Literal where
  | nothing
  | bool (value : Bool)
  | number (value : Int32)
  | text (value : String)
  deriving DecidableEq, Repr

/-- The operations on one value. -/
inductive UnaryOp where
  /-- A reference to an object that does not keep it alive. -/
  | alias
  /-- The alias that an instance has of itself. -/
  | selfOf
  /-- The value of a field. -/
  | field (name : String)
  /-- Removes a field. -/
  | deleteField (name : String)
  /-- Whether a value counts as true. -/
  | truth
  /-- Writes a value to the output. -/
  | print
  /-- The text that printing a value would write. -/
  | render
  deriving DecidableEq, Repr

/-- The operations on two values. -/
inductive BinaryOp where
  /-- Sets a field of the left value to the right one. -/
  | setField (name : String)
  | compare (comparison : Comparison)
  | add
  deriving DecidableEq, Repr

/-- An expression. -/
inductive Expr where
  | literal (value : Literal)
  /-- The value of a name; a name that is not bound has none. -/
  | var (name : String)
  /-- Binds a name. -/
  | assign (name : String) (value : Expr)
  /-- Removes the binding of a name. -/
  | unassign (name : String)
  /-- Evaluates the parts in turn; the value is that of the last. -/
  | sequence (parts : List Expr)
  | branch (condition yes no : Expr)
  /-- A new instance of a class. -/
  | create (className : String)
  /-- A class as a value. -/
  | classObject (className : String)
  | unary (op : UnaryOp) (operand : Expr)
  | binary (op : BinaryOp) (left right : Expr)
  /-- Calls a method of the value of `receiver`. -/
  | call (receiver : Expr) (method : String) (arguments : List Expr)
  /-- Fails with a message. -/
  | raise (message : String)
  deriving Repr

instance : Inhabited Expr := ⟨.literal .nothing⟩

mutual

/-- The number of expressions that an expression is built from, itself included, with
an allowance for every list of parts. -/
def Expr.size : Expr → Nat
  | .literal _ => 1
  | .var _ => 1
  | .assign _ value => 1 + value.size
  | .unassign _ => 1
  | .sequence parts => 1 + Expr.sizes parts
  | .branch condition yes no => 1 + condition.size + yes.size + no.size
  | .create _ => 1
  | .classObject _ => 1
  | .unary _ operand => 1 + operand.size
  | .binary _ left right => 1 + left.size + right.size
  | .call receiver _ arguments => 1 + receiver.size + Expr.sizes arguments
  | .raise _ => 1

/-- The size of a list of parts: one for the list and one for each part, besides the
sizes of the parts. -/
def Expr.sizes : List Expr → Nat
  | [] => 1
  | part :: parts => 1 + part.size + Expr.sizes parts

end

theorem Expr.size_pos (expr : Expr) : 0 < expr.size := by
  cases expr <;> simp only [Expr.size] <;> omega

end Offside
