import Offside.EvalError

/-!
# The object store

Every object sits in a cell that counts the owners of the object. Making an owner
raises the count and releasing one lowers it; when the last owner is released the
cell is vacated, and the owners among the object's own handles are released in
turn. Aliases are not counted. A new object takes a cell that no object has had
before, so an alias never comes to refer to another object.
-/

namespace Offside

/-- An object and the number of its owners. -/
structure Cell where
  object : Object
  owners : Nat
  deriving Repr

/-- The cells in the order in which they were taken. A vacated cell is empty. -/
structure Store where
  cells : Array (Option Cell) := #[]
  deriving Repr

namespace Store

instance : Inhabited Store := ⟨{}⟩

/-- The cell at an address, if it holds an object. -/
def cell? (store : Store) (address : Address) : Option Cell :=
  store.cells[address]?.join

/-- The object at an address, if it is alive. -/
def object? (store : Store) (address : Address) : Option Object :=
  (store.cell? address).map Cell.object

/-- The address that the next object will have. -/
def nextAddress (store : Store) : Address :=
  store.cells.size

/-- Takes a new cell for an object, with one owner. -/
def allocate (store : Store) (object : Object) : Store :=
  { cells := store.cells.push (some { object, owners := 1 }) }

/-- Replaces what a cell holds. -/
def put (store : Store) (address : Address) (cell : Cell) : Store :=
  { cells := store.cells.setIfInBounds address (some cell) }

/-- Empties a cell. -/
def vacate (store : Store) (address : Address) : Store :=
  { cells := store.cells.setIfInBounds address none }

/-- The weight of what a cell holds: the object, and every owner that goes with it. -/
def cellWeight : Option Cell → Nat
  | some cell => (Handle.owned cell.object.handles).length + 1
  | none => 0

/-- The weight of what all of these cells hold. -/
def cellsWeight : List (Option Cell) → Nat
  | [] => 0
  | first :: cells => cellWeight first + cellsWeight cells

theorem lt_size_of_cell? {store : Store} {address : Address} {cell : Cell}
    (found : store.cell? address = some cell) :
    ∃ bound : address < store.cells.size, store.cells[address] = some cell := by
  unfold cell? at found
  rw [Option.join_eq_some_iff] at found
  exact Array.getElem?_eq_some_iff.mp found

/-- What a cell held no longer counts when something else is in its place. -/
theorem cellsWeight_set {cells : List (Option Cell)} {address : Address} {cell : Option Cell}
    (found : cells[address]? = some cell) (replacement : Option Cell) :
    cellsWeight (cells.set address replacement) + cellWeight cell =
      cellsWeight cells + cellWeight replacement := by
  induction cells generalizing address with
  | nil => cases found
  | cons first cells ih =>
      cases address with
      | zero =>
          cases found
          simp only [List.set_cons_zero, cellsWeight]
          omega
      | succ address =>
          have later := ih found
          simp only [List.set_cons_succ, cellsWeight]
          omega

theorem cellsWeight_setIfInBounds {store : Store} {address : Address} {cell : Cell}
    (found : store.cell? address = some cell) (replacement : Option Cell) :
    cellsWeight (store.cells.setIfInBounds address replacement).toList + cellWeight (some cell) =
      cellsWeight store.cells.toList + cellWeight replacement := by
  obtain ⟨bound, holds⟩ := lt_size_of_cell? found
  have there : store.cells.toList[address]? = some (some cell) := by
    rw [Array.getElem?_toList, Array.getElem?_eq_getElem bound, holds]
  rw [Array.toList_setIfInBounds]
  exact cellsWeight_set there replacement

/-- Adds an owner to the object at an address. -/
def addOwner (store : Store) (address : Address) : Store :=
  match store.cell? address with
  | some cell => store.put address { cell with owners := cell.owners + 1 }
  | none => store

/-- Counts in every owner among the handles. -/
def retain (store : Store) (handles : List Handle) : Store :=
  (Handle.owned handles).foldl addOwner store

/-- Takes one owner from each of the objects in a list. An object that loses its
last owner leaves the store, and the objects that it owned each lose an owner. -/
def dropOwners (store : Store) : List Address → Store
  | [] => store
  | address :: rest =>
      match _found : store.cell? address with
      | none => store.dropOwners rest
      | some cell =>
          if cell.owners ≤ 1 then
            (store.vacate address).dropOwners (Handle.owned cell.object.handles ++ rest)
          else
            (store.put address { cell with owners := cell.owners - 1 }).dropOwners rest
termination_by addresses => cellsWeight store.cells.toList + addresses.length
decreasing_by
  · simp
  · have lost := cellsWeight_setIfInBounds ‹_› none
    simp only [vacate, cellWeight, List.length_append, List.length_cons] at lost ⊢
    omega
  · have kept := cellsWeight_setIfInBounds ‹_› (some { cell with owners := cell.owners - 1 })
    simp only [put, cellWeight, List.length_cons] at kept ⊢
    omega

/-- Counts out every owner among the handles. -/
def release (store : Store) (handles : List Handle) : Store :=
  store.dropOwners (Handle.owned handles)

/-- Follows a handle that may be empty. An alias of an object that is gone cannot
be followed. -/
def resolve (store : Store) (handle : Handle) : Except EvalError (Option (Address × Object)) :=
  match handle.target? with
  | none => .ok none
  | some target =>
      match store.object? target with
      | some object => .ok (some (target, object))
      | none => .error .invalidHandle

/-- Follows a handle that must refer to an object. -/
def get (store : Store) (handle : Handle) : Except EvalError (Address × Object) :=
  match store.resolve handle with
  | .ok (some found) => .ok found
  | .ok none => .error .invalidHandle
  | .error error => .error error

theorem resolve_eq_some_iff {store : Store} {handle : Handle} {address : Address}
    {object : Object} :
    store.resolve handle = .ok (some (address, object)) ↔
      handle.target? = some address ∧ store.object? address = some object := by
  unfold resolve
  split
  next none => simp [none]
  next target refers =>
    rw [refers]
    split
    next found there =>
      simp only [Except.ok.injEq, Option.some.injEq, Prod.mk.injEq]
      constructor
      · rintro ⟨rfl, rfl⟩
        exact ⟨rfl, there⟩
      · rintro ⟨rfl, same⟩
        exact ⟨rfl, Option.some.inj (there.symm.trans same)⟩
    next gone =>
      simp only [reduceCtorEq, Option.some.injEq, false_iff]
      rintro ⟨rfl, there⟩
      rw [gone] at there
      cases there

theorem get_eq_ok_iff {store : Store} {handle : Handle} {address : Address} {object : Object} :
    store.get handle = .ok (address, object) ↔
      handle.target? = some address ∧ store.object? address = some object := by
  rw [← resolve_eq_some_iff, get]
  split
  next found resolved => simp [resolved]
  next resolved => simp [resolved]
  next error resolved => simp [resolved]

/-- What a handle refers to, if it refers to an object that is alive. -/
def peek? (store : Store) (handle : Handle) : Option Object :=
  handle.target?.bind store.object?

/-- Follows a handle that must refer to an instance. -/
def getInstance (store : Store) (handle : Handle) :
    Except EvalError (Address × Class × Scope) :=
  match store.get handle with
  | .ok (address, .instanceOf cls fields) => .ok (address, cls, fields)
  | .ok (_, object) => .error (.notAnInstance object.kind)
  | .error error => .error error

theorem get_of_getInstance {store : Store} {handle : Handle} {address : Address} {cls : Class}
    {fields : Scope} (found : store.getInstance handle = .ok (address, cls, fields)) :
    store.get handle = .ok (address, .instanceOf cls fields) := by
  unfold getInstance at found
  split at found
  next there =>
    cases found
    exact there
  next => cases found
  next => cases found

theorem target?_of_getInstance {store : Store} {handle : Handle} {address : Address} {cls : Class}
    {fields : Scope} (found : store.getInstance handle = .ok (address, cls, fields)) :
    handle.target? = some address :=
  (get_eq_ok_iff.mp (get_of_getInstance found)).1

theorem object?_of_getInstance {store : Store} {handle : Handle} {address : Address} {cls : Class}
    {fields : Scope} (found : store.getInstance handle = .ok (address, cls, fields)) :
    store.object? address = some (.instanceOf cls fields) :=
  (get_eq_ok_iff.mp (get_of_getInstance found)).2

/-- What a handle appears to refer to. -/
def typeName (store : Store) (handle : Handle) : TypeName :=
  match store.resolve handle with
  | .ok (some (_, object)) => .kind object.kind
  | .ok none => .nothing
  | .error _ => .freed

/-- The name under which an instance sees itself. -/
def selfName : String := "self"

/-- Takes a new cell for an instance. It starts with a single field, an alias of
itself. -/
def allocateInstance (store : Store) (cls : Class) : Store :=
  let fields := Scope.bind {} selfName (.alias store.nextAddress)
  store.allocate (.instanceOf cls fields)

/-- Replaces the fields of an instance. -/
def putFields (store : Store) (address : Address) (fields : Scope) : Store :=
  match store.cell? address with
  | some { object := .instanceOf cls _, owners } =>
      store.put address { object := .instanceOf cls fields, owners }
  | _ => store

/-- Whether two handles refer to the same living object. -/
def same (store : Store) (left right : Handle) : Bool :=
  match store.get left, store.get right with
  | .ok (leftAddress, _), .ok (rightAddress, _) => leftAddress == rightAddress
  | _, _ => false

/-- Whether a handle counts as true. -/
def truth (store : Store) (handle : Handle) : Except EvalError Bool :=
  match store.resolve handle with
  | .ok (some (_, object)) => .ok object.truth
  | .ok none => .ok false
  | .error error => .error error

end Store

end Offside
