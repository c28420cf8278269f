import Offside.Report.Display

/-!
# Descriptions

What a session tells about a handle, a scope, a method or a class. A description
is made without running any method.
-/

namespace Offside

/-- What is told about the object behind a handle. -/
inductive Detail where
  | number (value : Int32)
  | text (value : String)
  | bool (value : Bool)
  | classValue (name : String)
  | instanceOf (className : String) (fields : List String)
  deriving DecidableEq, Repr

/-- A description of a handle. The type of a dangling alias is that of a freed
object. -/
structure Description where
  typeName : TypeName
  isAlias : Bool
  detail : Option Detail
  deriving DecidableEq, Repr

/-- What is told about an object. -/
def Object.detail : Object → Detail
  | .number value => .number value
  | .text value => .text value
  | .bool value => .bool value
  | .classValue cls => .classValue cls.name
  | .instanceOf cls fields => .instanceOf cls.name (sortedNames fields.names)

/-- Describes a handle. -/
def Store.describe (store : Store) (handle : Handle) : Description :=
  { typeName := store.typeName handle
    isAlias := handle.isAlias
    detail := (store.peek? handle).map Object.detail }

/-- Describes everything that a scope binds. -/
def Store.describeScope (store : Store) (scope : Scope) : List (String × Description) :=
  scope.bindings.map fun (name, value) => (name, store.describe value)

/-- All that can be asked of a handle. -/
structure Probe where
  isSome : Bool
  isNone : Bool
  isAlias : Bool
  typeName : TypeName
  asNumber : Option Int32
  asBool : Option Bool
  asText : Option String
  asClass : Option String
  isInstance : Bool
  /-- The kind behind the handle, where there has to be an object. -/
  get : Except EvalError Kind
  /-- The kind behind the handle, if it is not empty. -/
  resolve : Except EvalError (Option Kind)
  /-- Whether there is an object. -/
  found : Bool
  truth : Except EvalError Bool

/-- Asks a handle everything. -/
def Store.probe (store : Store) (handle : Handle) : Probe :=
  let object := store.peek? handle
  { isSome := !handle.isEmpty
    isNone := handle.isEmpty
    isAlias := handle.isAlias
    typeName := store.typeName handle
    asNumber := match object with
      | some (.number value) => some value
      | _ => none
    asBool := match object with
      | some (.bool value) => some value
      | _ => none
    asText := match object with
      | some (.text value) => some value
      | _ => none
    asClass := match object with
      | some (.classValue cls) => some cls.name
      | _ => none
    isInstance := match object with
      | some (.instanceOf _ _) => true
      | _ => false
    get := (store.get handle).map fun found => found.2.kind
    resolve := (store.resolve handle).map fun found => found.map fun object => object.2.kind
    found := object.isSome
    truth := store.truth handle }

/-- A summary of a class. -/
structure ClassSummary where
  name : String
  parent : Option String
  methods : List Method

/-- Summarizes a class: its own methods only, and the name of its parent. -/
def Class.summary (cls : Class) : ClassSummary :=
  { name := cls.name, parent := cls.parent?.map Class.name, methods := cls.methods }

end Offside
