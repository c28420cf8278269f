import Offside.Class
import Offside.Scope

/-!
# Objects

The values of the language that live in the store. Only instances refer to other
objects, through their fields.
-/

namespace Offside

/-- The kinds of objects. -/
inductive Kind where
  | number | text | bool | classValue | instanceOf
  deriving DecidableEq, Repr

namespace Kind

/-- The name of a kind in messages. -/
def name : Kind → String
  | .number => "Number"
  | .text => "String"
  | .bool => "Bool"
  | .classValue => "Class"
  | .instanceOf => "ClassInstance"

end Kind

/-- What a handle appears to refer to. -/
inductive TypeName where
  /-- The empty handle. -/
  | nothing
  /-- An alias of an object that is gone. -/
  | freed
  | kind (known : Kind)
  deriving DecidableEq, Repr

namespace TypeName

/-- The text of a type name in messages. -/
def text : TypeName → String
  | .nothing => "None"
  | .freed => "<freed>"
  | .kind known => known.name

/-- Every type name. -/
def all : List TypeName :=
  [.nothing, .freed, .kind .number, .kind .text, .kind .bool, .kind .classValue, .kind .instanceOf]

end TypeName

/-- A value in the store. -/
inductive Object where
  | number (value : Int32)
  | text (value : String)
  | bool (value : Bool)
  | classValue (cls : Class)
  | instanceOf (cls : Class) (fields : Scope)
  deriving Repr

namespace Object

/-- The kind of an object. -/
def kind : Object → Kind
  | .number _ => .number
  | .text _ => .text
  | .bool _ => .bool
  | .classValue _ => .classValue
  | .instanceOf _ _ => .instanceOf

/-- The handles that an object holds. -/
def handles : Object → List Handle
  | .instanceOf _ fields => fields.handles
  | _ => []

theorem handles_eq_nil {object : Object} (plain : object.kind ≠ .instanceOf) :
    object.handles = [] := by
  cases object with
  | instanceOf => exact absurd rfl plain
  | _ => rfl

/-- Whether an object counts as true. Classes and instances never do. -/
def truth : Object → Bool
  | .number value => value != 0
  | .text value => !value.isEmpty
  | .bool value => value
  | .classValue _ => false
  | .instanceOf _ _ => false

end Object

end Offside
