import Offside.Store

/-!
# Rendering

The text under which a value is printed. An instance that has a method for it is
printed as the result of that method is; any other object has a text of its own.
-/

namespace Offside

/-- The method whose result is printed in place of an instance. -/
def renderMethod : String := "__str__"

/-- How a value is to be printed. -/
inductive Rendering where
  /-- As a text, in the pieces that it is written in. -/
  | text (pieces : List String)
  /-- As the result of the method is printed that the class of the receiver has for that. -/
  | ask (receiver : Address) (cls : Class)

/-- How an object is to be printed. Every address is shown alike. -/
def Object.rendering (address : Address) : Object → Rendering
  | .number value => .text [toString value.toInt]
  | .text value => .text [value]
  | .bool true => .text ["True"]
  | .bool false => .text ["False"]
  | .classValue cls => .text ["Class ", cls.name]
  | .instanceOf cls _ =>
      if cls.hasMethod renderMethod 0 then .ask address cls
      else .text ["<", cls.name, " object at ", "0xPTR", ">"]

/-- How the value of a handle is to be printed. -/
def Store.rendering (store : Store) (handle : Handle) : Except EvalError Rendering :=
  match store.resolve handle with
  | .ok (some (address, object)) => .ok (object.rendering address)
  | .ok none => .ok (.text ["None"])
  | .error error => .error error

/-- The receiver that is called for a rendering is the subject, an instance of a class with
the method. -/
theorem Store.rendering_eq_ask {store : Store} {subject : Handle} {receiver : Address}
    {cls : Class} (asked : store.rendering subject = .ok (.ask receiver cls)) :
    ∃ fields, store.resolve subject = .ok (some (receiver, .instanceOf cls fields)) ∧
      cls.hasMethod renderMethod 0 := by
  unfold Store.rendering at asked
  split at asked
  next address object resolved =>
    have rendered := Except.ok.inj asked
    unfold Object.rendering at rendered
    split at rendered
    all_goals try cases rendered
    split at rendered
    next has =>
      cases rendered
      exact ⟨_, resolved, has⟩
    next => cases rendered
  next => cases asked
  next => cases asked

theorem Store.object?_of_rendering {store : Store} {subject : Handle} {receiver : Address}
    {cls : Class} (asked : store.rendering subject = .ok (.ask receiver cls)) :
    ∃ object, store.object? receiver = some object := by
  obtain ⟨fields, resolved, _⟩ := rendering_eq_ask asked
  exact ⟨_, (resolve_eq_some_iff.mp resolved).2⟩

end Offside
