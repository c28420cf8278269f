import Offside.Expr

/-!
# Classes

A class has methods of its own and may extend another class. A method is looked
up by name along the chain of classes, and the nearest one counts: it hides those
further up whatever their parameters.
-/

namespace Offside

/-- A method: parameters by position, and an expression to evaluate. -/
structure Method where
  name : String
  params : List String
  body : Expr
  deriving Repr

/-- Number of parameters, the receiver not counted. -/
def Method.arity (method : Method) : Nat :=
  method.params.length

/-- A class, with all that it inherits. -/
inductive Class where
  | root (name : String) (methods : List Method)
  | derived (name : String) (methods : List Method) (parent : Class)
  deriving Repr

namespace Class

/-- The name of a class. -/
def name : Class → String
  | .root name _ => name
  | .derived name _ _ => name

/-- The methods that a class defines itself. -/
def methods : Class → List Method
  | .root _ methods => methods
  | .derived _ methods _ => methods

/-- The class that a class extends. -/
def parent? : Class → Option Class
  | .root _ _ => none
  | .derived _ _ parent => some parent

/-- A class from its parts. -/
def ofParts (name : String) (methods : List Method) : Option Class → Class
  | none => .root name methods
  | some parent => .derived name methods parent

/-- The nearest method of this name along the chain. -/
def method? (name : String) : Class → Option Method
  | .root _ methods => methods.find? (·.name == name)
  | .derived _ methods parent =>
      match methods.find? (·.name == name) with
      | some method => some method
      | none => parent.method? name

/-- The nearest method of this name, if it takes this many arguments. -/
def methodTaking? (cls : Class) (name : String) (arity : Nat) : Option Method :=
  (cls.method? name).filter (·.arity == arity)

/-- Whether a call with this many arguments finds a method. -/
def hasMethod (cls : Class) (name : String) (arity : Nat) : Bool :=
  (cls.methodTaking? name arity).isSome

theorem hasMethod_iff {cls : Class} {name : String} {arity : Nat} :
    cls.hasMethod name arity ↔ ∃ method, cls.methodTaking? name arity = some method :=
  Option.isSome_iff_exists

end Class

/-- The classes that are defined, under their names. -/
structure ClassTable where
  entries : List (String × Class) := []
  deriving Repr

namespace ClassTable

/-- The class now named so. -/
def find? (table : ClassTable) (name : String) : Option Class :=
  table.entries.lookup name

/-- Defines a class under its name, in place of an earlier one. -/
def define (table : ClassTable) (cls : Class) : ClassTable :=
  { entries := (cls.name, cls) :: table.entries.filter (·.1 != cls.name) }

end ClassTable

end Offside
