/-!
# Handles

A handle refers to an object of the store, or to nothing. An owner keeps its
object alive; an alias never does, and dangles once the object is gone.
-/

namespace Offside

/-- The place of an object in the store. An address is given out once and never
again, so it also serves as the identity of the object. -/
abbrev Address := Nat

/-- A nullable reference to an object. -/
inductive Handle where
  /-- Refers to nothing: the language's `None`. -/
  | empty
  /-- Keeps its object alive. -/
  | owner (target : Address)
  /-- Refers to an object that others have to keep alive. -/
  | alias (target : Address)
  deriving DecidableEq, Repr

namespace Handle

instance : Inhabited Handle := ⟨.empty⟩

/-- The object that a handle refers to, alive or not. -/
def target? : Handle → Option Address
  | .empty => none
  | .owner target => some target
  | .alias target => some target

/-- The object that a handle keeps alive. -/
def owned? : Handle → Option Address
  | .owner target => some target
  | _ => none

/-- Whether a handle is a reference that owns nothing. -/
def isAlias : Handle → Bool
  | .alias _ => true
  | _ => false

/-- Whether a handle refers to nothing. -/
def isEmpty : Handle → Bool
  | .empty => true
  | _ => false

@[simp] theorem target?_eq_none_iff {handle : Handle} :
    handle.target? = none ↔ handle = .empty := by
  cases handle <;> simp [target?]

/-- The objects that a list of handles keeps alive, once for each owner. -/
def owned (handles : List Handle) : List Address :=
  handles.filterMap owned?

@[simp] theorem owned_nil : owned [] = [] := rfl

@[simp] theorem owned_append (left right : List Handle) :
    owned (left ++ right) = owned left ++ owned right := by
  simp [owned]

@[simp] theorem owned_empty (rest : List Handle) : owned (.empty :: rest) = owned rest := rfl

@[simp] theorem owned_alias (target : Address) (rest : List Handle) :
    owned (.alias target :: rest) = owned rest := rfl

@[simp] theorem owned_owner (target : Address) (rest : List Handle) :
    owned (.owner target :: rest) = target :: owned rest := rfl

end Handle

end Offside
