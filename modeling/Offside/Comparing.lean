import Offside.Store

/-!
# Comparing

A comparison asks a relation of two handles. The left operand decides by itself if
it is an instance with a method for the relation; otherwise two values of one
primitive kind are compared by value, and two empty handles are equal. Nothing
else can be compared.
-/

namespace Offside

/-- The method by which an instance decides a relation, with the other operand as
its only argument. -/
def Relation.method : Relation → String
  | .equality => "__eq__"
  | .order => "__lt__"

/-- Whether a relation holds between two values of one primitive kind. Texts are
ordered by their code points, and false comes before true. -/
def Relation.holds? (relation : Relation) : Object → Object → Option Bool
  | .number left, .number right =>
      some (match relation with
        | .equality => left == right
        | .order => decide (left < right))
  | .text left, .text right =>
      some (match relation with
        | .equality => left == right
        | .order => decide (left < right))
  | .bool left, .bool right =>
      some (match relation with
        | .equality => left == right
        | .order => !left && right)
  | _, _ => none

/-- How a relation between two handles is to be decided. -/
inductive Verdict where
  | decided (holds : Bool)
  /-- The receiver is called to decide, with the method that its class has for that.
  Meanwhile the objects of both operands are held. -/
  | ask (receiver : Address) (cls : Class) (held : List Handle)

namespace Store

/-- The instance that decides a relation, with its class, if the object is one that has
a method for it with a single argument. -/
def override? (relation : Relation) : Option (Address × Object) → Option (Address × Class)
  | some (address, .instanceOf cls _) =>
      if cls.hasMethod relation.method 1 then some (address, cls) else none
  | _ => none

/-- Whether a relation holds between two resolved operands, as far as their values
say. -/
def holds? (relation : Relation) :
    Option (Address × Object) → Option (Address × Object) → Option Bool
  | some (_, left), some (_, right) => relation.holds? left right
  | none, none => if relation = .equality then some true else none
  | _, _ => none

/-- An owner of a resolved object, to hold it with. -/
def holdOf : Option (Address × Object) → Handle
  | some (address, _) => .owner address
  | none => .empty

/-- Decides how a relation between two handles is to be decided. Both have to be
resolved first, the left one before the right one. -/
def verdict (store : Store) (relation : Relation) (left right : Handle) :
    Except EvalError Verdict := do
  let leftFound ← store.resolve left
  let rightFound ← store.resolve right
  match override? relation leftFound with
  | some (receiver, cls) =>
      return .ask receiver cls [holdOf leftFound, holdOf rightFound]
  | none =>
      match holds? relation leftFound rightFound with
      | some holds => return .decided holds
      | none =>
          throw (.cannotCompare relation (store.typeName left) (store.typeName right))

theorem alive_of_holdOf {store : Store} {handle : Handle} {found : Option (Address × Object)}
    (resolved : store.resolve handle = .ok found) :
    ∀ target ∈ (holdOf found).target?, (store.object? target).isSome := by
  intro target refers
  cases found with
  | none => cases refers
  | some located =>
      cases refers
      rw [(resolve_eq_some_iff.mp resolved).2]
      rfl

theorem override?_eq_some {relation : Relation} {found : Option (Address × Object)}
    {receiver : Address} {cls : Class}
    (overrides : override? relation found = some (receiver, cls)) :
    ∃ fields, found = some (receiver, .instanceOf cls fields) ∧
      cls.hasMethod relation.method 1 := by
  unfold override? at overrides
  split at overrides
  next address cls fields =>
    split at overrides
    next has =>
      cases overrides
      exact ⟨fields, rfl, has⟩
    next => cases overrides
  next => cases overrides

/-- A verdict depends on what the operands refer to. -/
theorem verdict_of_resolve {store : Store} {left right : Handle}
    {first second : Option (Address × Object)} (leftFound : store.resolve left = .ok first)
    (rightFound : store.resolve right = .ok second) (relation : Relation) :
    store.verdict relation left right =
      match override? relation first with
      | some (receiver, cls) => .ok (.ask receiver cls [holdOf first, holdOf second])
      | none =>
          match holds? relation first second with
          | some holds => .ok (.decided holds)
          | none =>
              .error (.cannotCompare relation (store.typeName left) (store.typeName right)) := by
  rw [verdict, leftFound, rightFound]
  rfl

/-- The receiver that is called for a verdict is the left operand, an instance of a class with
the method, and both operands are held meanwhile. -/
theorem verdict_eq_ask {store : Store} {relation : Relation} {left right : Handle}
    {receiver : Address} {cls : Class} {held : List Handle}
    (asked : store.verdict relation left right = .ok (.ask receiver cls held)) :
    ∃ fields rightFound,
      store.resolve left = .ok (some (receiver, .instanceOf cls fields)) ∧
        store.resolve right = .ok rightFound ∧
        cls.hasMethod relation.method 1 ∧
        held = [.owner receiver, holdOf rightFound] := by
  cases leftFound : store.resolve left with
  | error error =>
      rw [verdict, leftFound] at asked
      cases asked
  | ok first =>
      cases rightFound : store.resolve right with
      | error error =>
          rw [verdict, leftFound, rightFound] at asked
          cases asked
      | ok second =>
          rw [verdict_of_resolve leftFound rightFound] at asked
          split at asked
          next overrides =>
            cases asked
            obtain ⟨fields, rfl, has⟩ := override?_eq_some overrides
            exact ⟨fields, second, rfl, rfl, has, rfl⟩
          next =>
            split at asked
            · cases asked
            · cases asked

/-- The receiver of a call for a verdict is there, and so is everything that is held
meanwhile. -/
theorem alive_of_verdict {store : Store} {relation : Relation} {left right : Handle}
    {receiver : Address} {cls : Class} {held : List Handle}
    (asked : store.verdict relation left right = .ok (.ask receiver cls held)) :
    (∃ object, store.object? receiver = some object) ∧
      ∀ handle ∈ held, ∀ target ∈ handle.target?, (store.object? target).isSome := by
  obtain ⟨fields, second, leftFound, rightFound, _, rfl⟩ := verdict_eq_ask asked
  constructor
  · exact ⟨_, (resolve_eq_some_iff.mp leftFound).2⟩
  · intro handle member
    rcases List.mem_cons.mp member with rfl | member
    · exact alive_of_holdOf leftFound
    · rw [List.mem_singleton.mp member]
      exact alive_of_holdOf rightFound

/-- The sum of two values: numbers wrap around, texts are joined. -/
def sum (store : Store) (left right : Handle) : Except EvalError Object :=
  match store.peek? left, store.peek? right with
  | some (.number left), some (.number right) => .ok (.number (left + right))
  | some (.text left), some (.text right) => .ok (.text (left ++ right))
  | _, _ => .error (.cannotAdd (store.typeName left) (store.typeName right))

theorem kind_ne_of_sum {store : Store} {left right : Handle} {object : Object}
    (summed : store.sum left right = .ok object) : object.kind ≠ .instanceOf := by
  unfold sum at summed
  split at summed
  · cases summed
    simp [Object.kind]
  · cases summed
    simp [Object.kind]
  · cases summed

end Store

end Offside
