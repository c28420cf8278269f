import Offside.Store
import Offside.Text.Quoted

/-!
# Display for inspection

The texts under which methods, classes, objects and handles are shown to whoever
inspects a session. They run no method.
-/

namespace Offside

open Text

/-- Fields of a record between braces, after its name. -/
def displayRecord (name : String) (fields : List (String × String)) : String :=
  name ++ " \x7b " ++ String.intercalate ", " (fields.map fun (field, value) =>
    field ++ ": " ++ value) ++ " \x7d"

/-- A wrapped value, after the name of the wrapper. -/
def displayWrapped (name value : String) : String :=
  name ++ "(" ++ value ++ ")"

/-- Items between square brackets. -/
def displayList (items : List String) : String :=
  "[" ++ String.intercalate ", " items ++ "]"

/-- A method as its name and its parameters. -/
def Method.display (method : Method) : String :=
  displayWrapped method.name (String.intercalate ", " method.params)

/-- A class as its name, its own methods and the name of its parent. -/
def Class.display (cls : Class) : String :=
  let parent := match cls.parent? with
    | some parent => displayWrapped "Some" (quoted parent.name)
    | none => "None"
  displayRecord "Class"
    [("name", quoted cls.name), ("methods", displayList (cls.methods.map Method.display)),
      ("parent", parent)]

/-- Names in the order of their code points. -/
def sortedNames (names : List String) : List String :=
  names.mergeSort fun left right => decide (left ≤ right)

/-- An instance as the name of its class and the names of its fields. -/
def displayInstance (cls : Class) (fields : List String) : String :=
  displayRecord "ClassInstance"
    [("class", quoted cls.name), ("fields", displayList ((sortedNames fields).map quoted))]

/-- An object as its kind and its value. -/
def Object.display : Object → String
  | .number value => displayWrapped "Number" (toString value.toInt)
  | .text value => displayWrapped "String" (quoted value)
  | .bool value => displayWrapped "Bool" (if value then "true" else "false")
  | .classValue cls => displayWrapped "Class" cls.display
  | .instanceOf cls fields => displayWrapped "Instance" (displayInstance cls fields.names)

/-- A handle as the way it refers to its object. An alias shows only the kind. -/
def Store.display (store : Store) (handle : Handle) : String :=
  match handle with
  | .empty => "None"
  | .owner target =>
      displayWrapped "Owned" (((store.object? target).map Object.display).getD
        TypeName.freed.text)
  | .alias _ => displayWrapped "Alias" (store.typeName handle).text

end Offside
