import Offside.Comparing
import Offside.Proofs.Store.Dropping
import Offside.Rendering

/-!
# Stores up to the owners of one object

A handle to an object can be loosened: it is taken for an alias, owner or not. What a
store looks like then no longer tells who owns the object. As long as the object stays,
every operation of the store does the same to what is left.
-/

namespace Offside

variable {kept : Address}

/-! ## Handles, scopes and objects -/

/-- A handle, or an alias in place of an owner of the object that is kept. -/
def Handle.loosen (kept : Address) : Handle → Handle
  | .owner target => if target = kept then .alias target else .owner target
  | handle => handle

/-- A scope with loosened handles. -/
def Scope.loosen (kept : Address) (scope : Scope) : Scope :=
  { bindings := scope.bindings.map (Prod.map id (Handle.loosen kept)) }

/-- An object with loosened handles. -/
def Object.loosen (kept : Address) : Object → Object
  | .instanceOf cls fields => .instanceOf cls (fields.loosen kept)
  | object => object

/-- A resolved reference to an object with loosened handles. -/
def Object.loosenFound (kept : Address) (found : Address × Object) : Address × Object :=
  (found.1, found.2.loosen kept)

namespace Handle

theorem loosen_owner_self : (Handle.owner kept).loosen kept = .alias kept :=
  if_pos rfl

theorem loosen_owner_of_ne {target : Address} (other : target ≠ kept) :
    (Handle.owner target).loosen kept = .owner target :=
  if_neg other

@[simp] theorem loosen_loosen (handle : Handle) :
    (handle.loosen kept).loosen kept = handle.loosen kept := by
  cases handle with
  | owner target =>
      by_cases same : target = kept
      · rw [same, loosen_owner_self]
        rfl
      · rw [loosen_owner_of_ne same, loosen_owner_of_ne same]
  | empty => rfl
  | «alias» target => rfl

@[simp] theorem target?_loosen (handle : Handle) :
    (handle.loosen kept).target? = handle.target? := by
  cases handle with
  | owner target =>
      by_cases same : target = kept
      · rw [same, loosen_owner_self]
        rfl
      · rw [loosen_owner_of_ne same]
  | empty => rfl
  | «alias» target => rfl

/-- Loosened handles own what they owned before, but for the one object. -/
theorem owned_map_loosen (handles : List Handle) :
    owned (handles.map (loosen kept)) = (owned handles).filter (· ≠ kept) := by
  induction handles with
  | nil => rfl
  | cons handle handles ih =>
      rw [List.map_cons]
      cases handle with
      | owner target =>
          by_cases same : target = kept
          · rw [same, loosen_owner_self, owned_alias, owned_owner, ih]
            exact (List.filter_cons_of_neg (by simp)).symm
          · rw [loosen_owner_of_ne same, owned_owner, owned_owner, ih]
            exact (List.filter_cons_of_pos (by simpa using same)).symm
      | empty => exact ih
      | «alias» target => exact ih

theorem map_loosen_loosen (handles : List Handle) :
    (handles.map (loosen kept)).map (loosen kept) = handles.map (loosen kept) := by
  rw [List.map_map]
  exact List.map_congr_left fun handle _ => loosen_loosen handle

end Handle

namespace Scope

@[simp] theorem loosen_loosen (scope : Scope) :
    (scope.loosen kept).loosen kept = scope.loosen kept := by
  simp only [loosen, List.map_map, Prod.map_comp_map, Function.comp_id]
  congr 2
  funext binding
  simp [Prod.map]

@[simp] theorem handles_loosen (scope : Scope) :
    (scope.loosen kept).handles = scope.handles.map (Handle.loosen kept) := by
  simp only [handles, loosen, List.map_map]
  rfl

@[simp] theorem get_loosen (scope : Scope) (name : String) :
    (scope.loosen kept).get name = (scope.get name).loosen kept := by
  simp only [get, loosen]
  induction scope.bindings with
  | nil => rfl
  | cons binding bindings ih =>
      obtain ⟨bound, value⟩ := binding
      simp only [List.map_cons, Prod.map_apply, id_eq, List.lookup_cons]
      cases name == bound with
      | true => rfl
      | false => exact ih

theorem filter_loosen (keep : String → Bool) (bindings : List (String × Handle)) :
    (bindings.map (Prod.map id (Handle.loosen kept))).filter (keep ·.1) =
      (bindings.filter (keep ·.1)).map (Prod.map id (Handle.loosen kept)) := by
  rw [List.filter_map]
  rfl

@[simp] theorem displaced_loosen (scope : Scope) (name : String) :
    (scope.loosen kept).displaced name = (scope.displaced name).map (Handle.loosen kept) := by
  simp only [displaced, loosen]
  rw [filter_loosen (· == name), List.map_map, List.map_map]
  rfl

@[simp] theorem unbind_loosen (scope : Scope) (name : String) :
    (scope.loosen kept).unbind name = (scope.unbind name).loosen kept := by
  simp only [unbind, loosen]
  rw [filter_loosen (· != name)]

@[simp] theorem loosen_bind (scope : Scope) (name : String) (value : Handle) :
    (scope.bind name value).loosen kept = (scope.loosen kept).bind name (value.loosen kept) := by
  simp only [bind, unbind_loosen]
  rfl

@[simp] theorem loosen_bindAll (scope : Scope) (pairs : List (String × Handle)) :
    (scope.bindAll pairs).loosen kept =
      (scope.loosen kept).bindAll (pairs.map (Prod.map id (Handle.loosen kept))) := by
  induction pairs generalizing scope with
  | nil => rfl
  | cons pair pairs ih =>
      rw [bindAll, ih, loosen_bind]
      rfl

end Scope

namespace Object

@[simp] theorem loosen_loosen (object : Object) :
    (object.loosen kept).loosen kept = object.loosen kept := by
  cases object with
  | instanceOf cls fields => exact congrArg (Object.instanceOf cls) fields.loosen_loosen
  | _ => rfl

@[simp] theorem handles_loosen (object : Object) :
    (object.loosen kept).handles = object.handles.map (Handle.loosen kept) := by
  cases object with
  | instanceOf cls fields => exact fields.handles_loosen
  | _ => rfl

@[simp] theorem kind_loosen (object : Object) : (object.loosen kept).kind = object.kind := by
  cases object <;> rfl

@[simp] theorem truth_loosen (object : Object) : (object.loosen kept).truth = object.truth := by
  cases object <;> rfl

end Object

/-- A cell with loosened handles. It does not tell the owners of the object that is kept. -/
def Cell.loosen (kept address : Address) (cell : Cell) : Cell :=
  { object := cell.object.loosen kept, owners := if address = kept then 1 else cell.owners }

@[simp] theorem Cell.loosen_loosen {address : Address} (cell : Cell) :
    (cell.loosen kept address).loosen kept address = cell.loosen kept address := by
  simp only [loosen, Object.loosen_loosen]
  split <;> rfl

namespace Store

/-- A store with loosened handles, in which the object that is kept has one owner. -/
def loosen (kept : Address) (store : Store) : Store :=
  { cells := store.cells.mapIdx fun address content => content.map (Cell.loosen kept address) }

variable {store : Store} {address : Address}

@[simp] theorem cell?_loosen (store : Store) (address : Address) :
    (store.loosen kept).cell? address = (store.cell? address).map (Cell.loosen kept address) := by
  rw [cell?, loosen, cell?, Array.getElem?_mapIdx]
  cases store.cells[address]? with
  | none => rfl
  | some content => rfl

@[simp] theorem nextAddress_loosen (store : Store) :
    (store.loosen kept).nextAddress = store.nextAddress :=
  Array.size_mapIdx

@[simp] theorem object?_loosen (store : Store) (address : Address) :
    (store.loosen kept).object? address = (store.object? address).map (Object.loosen kept) := by
  rw [object?, cell?_loosen, object?, Option.map_map, Option.map_map]
  rfl

theorem loosen_setCell (store : Store) (address : Address) (content : Option Cell) :
    (store.setCell address content).loosen kept =
      (store.loosen kept).setCell address (content.map (Cell.loosen kept address)) := by
  simp only [setCell, loosen, Array.mapIdx_setIfInBounds]

@[simp] theorem loosen_loosen (store : Store) :
    (store.loosen kept).loosen kept = store.loosen kept := by
  simp only [loosen, Array.mapIdx_mapIdx]
  congr 2
  funext address content
  cases content with
  | none => rfl
  | some cell => exact congrArg some cell.loosen_loosen

/-! ## Changing a store -/

/-- Putting back what a cell holds changes nothing. -/
theorem setCell_of_cell? {cell : Cell} (found : store.cell? address = some cell) :
    store.setCell address (some cell) = store := by
  obtain ⟨bound, holds⟩ := lt_size_of_cell? found
  simp only [setCell, ← holds, Array.setIfInBounds, bound, dite_true, Array.set_getElem_self]

/-- Nobody sees another owner of the object that is kept. -/
theorem loosen_put_kept {cell : Cell} (found : store.cell? kept = some cell) (owners : Nat) :
    (store.put kept { cell with owners }).loosen kept = store.loosen kept := by
  have there : (store.loosen kept).cell? kept = some (cell.loosen kept kept) := by
    rw [cell?_loosen, found]
    rfl
  have same : Cell.loosen kept kept { cell with owners } = cell.loosen kept kept := by
    simp only [Cell.loosen, if_true]
  rw [put_eq, loosen_setCell, Option.map_some, same, setCell_of_cell? there]

theorem loosen_put {cell : Cell} (store : Store) (other : address ≠ kept) :
    (store.put address cell).loosen kept =
      (store.loosen kept).put address
        { object := cell.object.loosen kept, owners := cell.owners } := by
  rw [put_eq, loosen_setCell, put_eq]
  simp [Cell.loosen, other]

theorem loosen_addOwner_kept (store : Store) :
    (store.addOwner kept).loosen kept = store.loosen kept := by
  rw [addOwner]
  split
  next found => exact loosen_put_kept found _
  next => rfl

theorem loosen_addOwner (store : Store) (other : address ≠ kept) :
    (store.addOwner address).loosen kept = (store.loosen kept).addOwner address := by
  rw [addOwner, addOwner, cell?_loosen]
  cases store.cell? address with
  | none => rfl
  | some cell => simp [loosen_put store other, Cell.loosen, other]

theorem loosen_retain (store : Store) (handles : List Handle) :
    (store.retain handles).loosen kept =
      (store.loosen kept).retain (handles.map (Handle.loosen kept)) := by
  rw [retain, retain, Handle.owned_map_loosen]
  induction Handle.owned handles generalizing store with
  | nil => rfl
  | cons address addresses ih =>
      rw [List.foldl_cons, ih]
      by_cases same : address = kept
      · rw [List.filter_cons_of_neg (by simpa using same), same, loosen_addOwner_kept]
      · rw [List.filter_cons_of_pos (by simpa using same), loosen_addOwner store same]
        rfl

section Dropping

variable {cell : Cell} {rest : List Address}

theorem isSome_of_dropOwners {pending : List Address}
    (alive : ((store.dropOwners pending).object? address).isSome) :
    (store.object? address).isSome := by
  obtain ⟨object, found⟩ := Option.isSome_iff_exists.mp alive
  exact Option.isSome_iff_exists.mpr ⟨object, object?_of_dropOwners found⟩

theorem object?_vacate_self (found : store.cell? address = some cell) :
    (store.vacate address).object? address = none := by
  rw [vacate_eq, object?, cell?_setCell found, if_pos rfl]
  rfl

/-- Owners are dropped alike, and with them the objects that go, if the object that is
kept does not go. -/
theorem loosen_dropOwners (store : Store) (pending : List Address)
    (alive : ((store.dropOwners pending).object? kept).isSome) :
    (store.dropOwners pending).loosen kept =
      (store.loosen kept).dropOwners (pending.filter (· ≠ kept)) := by
  fun_induction Store.dropOwners store pending with
  | case1 store => exact (dropOwners_nil _).symm
  | case2 store address rest gone ih =>
      rw [ih alive]
      by_cases same : address = kept
      · rw [List.filter_cons_of_neg (by simpa using same)]
      · rw [List.filter_cons_of_pos (by simpa using same), dropOwners_of_gone (by simp [gone])]
  | case3 store address rest cell found last ih =>
      have there := isSome_of_dropOwners alive
      have other : address ≠ kept := by
        intro same
        rw [← same, object?_vacate_self found] at there
        cases there
      have foundThere : (store.loosen kept).cell? address =
          some { object := cell.object.loosen kept, owners := cell.owners } := by
        simp [found, Cell.loosen, other]
      rw [ih alive, List.filter_cons_of_pos (by simpa using other),
        dropOwners_of_last foundThere last, List.filter_append, Object.handles_loosen,
        Handle.owned_map_loosen, vacate_eq, loosen_setCell]
      rfl
  | case4 store address rest cell found shared ih =>
      rw [ih alive]
      by_cases same : address = kept
      · subst same
        rw [List.filter_cons_of_neg (by simp), loosen_put_kept found]
      · have foundThere : (store.loosen kept).cell? address =
            some { object := cell.object.loosen kept, owners := cell.owners } := by
          simp [found, Cell.loosen, same]
        rw [List.filter_cons_of_pos (by simpa using same), dropOwners_of_shared foundThere shared,
          loosen_put _ same]

theorem loosen_release (store : Store) (handles : List Handle)
    (alive : ((store.release handles).object? kept).isSome) :
    (store.release handles).loosen kept =
      (store.loosen kept).release (handles.map (Handle.loosen kept)) := by
  rw [release, release, Handle.owned_map_loosen]
  exact loosen_dropOwners store _ alive

end Dropping

/-- A new object has one owner, whether it is the one that is kept or not. -/
theorem loosen_allocate (store : Store) (object : Object) :
    (store.allocate object).loosen kept = (store.loosen kept).allocate (object.loosen kept) := by
  simp only [allocate, loosen, Array.mapIdx_push, Option.map_some, Cell.loosen, ite_self]

theorem loosen_allocateInstance (store : Store) (cls : Class) :
    (store.allocateInstance cls).loosen kept = (store.loosen kept).allocateInstance cls := by
  rw [allocateInstance, loosen_allocate, allocateInstance, nextAddress_loosen]
  rfl

theorem loosen_putFields (store : Store) (address : Address) (fields : Scope) :
    (store.putFields address fields).loosen kept =
      (store.loosen kept).putFields address (fields.loosen kept) := by
  rw [putFields, putFields, cell?_loosen]
  rcases store.cell? address with _ | ⟨object, owners⟩
  · rfl
  · cases object with
    | instanceOf cls others => exact loosen_setCell store address _
    | _ => rfl

/-! ## Looking into a store -/

theorem resolve_loosen (store : Store) (handle : Handle) :
    (store.loosen kept).resolve (handle.loosen kept) =
      (store.resolve handle).map (Option.map (Object.loosenFound kept)) := by
  rw [resolve, resolve, Handle.target?_loosen]
  cases handle.target? with
  | none => rfl
  | some target =>
      simp only [object?_loosen]
      cases store.object? target with
      | none => rfl
      | some object => rfl

theorem get_loosen (store : Store) (handle : Handle) :
    (store.loosen kept).get (handle.loosen kept) =
      (store.get handle).map (Object.loosenFound kept) := by
  rw [get, get, resolve_loosen]
  rcases store.resolve handle with error | found
  · rfl
  · cases found with
    | none => rfl
    | some found => rfl

theorem getInstance_loosen (store : Store) (handle : Handle) :
    (store.loosen kept).getInstance (handle.loosen kept) =
      (store.getInstance handle).map fun (address, cls, fields) =>
        (address, cls, fields.loosen kept) := by
  rw [getInstance, getInstance, get_loosen]
  rcases store.get handle with error | ⟨address, object⟩
  · rfl
  · cases object <;> rfl

theorem typeName_loosen (store : Store) (handle : Handle) :
    (store.loosen kept).typeName (handle.loosen kept) = store.typeName handle := by
  rw [typeName, typeName, resolve_loosen]
  rcases store.resolve handle with error | _ | ⟨address, object⟩
  · rfl
  · rfl
  · exact congrArg TypeName.kind object.kind_loosen

theorem truth_loosen (store : Store) (handle : Handle) :
    (store.loosen kept).truth (handle.loosen kept) = store.truth handle := by
  rw [truth, truth, resolve_loosen]
  rcases store.resolve handle with error | _ | ⟨address, object⟩
  · rfl
  · rfl
  · exact congrArg Except.ok object.truth_loosen

theorem rendering_loosen (store : Store) (handle : Handle) :
    (store.loosen kept).rendering (handle.loosen kept) = store.rendering handle := by
  rw [rendering, rendering, resolve_loosen]
  rcases store.resolve handle with error | _ | ⟨address, object⟩
  · rfl
  · rfl
  · cases object with
    | bool value => cases value <;> rfl
    | _ => rfl

theorem peek?_loosen (store : Store) (handle : Handle) :
    (store.loosen kept).peek? (handle.loosen kept) =
      (store.peek? handle).map (Object.loosen kept) := by
  rw [peek?, peek?, Handle.target?_loosen]
  cases handle.target? with
  | none => rfl
  | some target => exact object?_loosen store target

theorem sum_loosen (store : Store) (left right : Handle) :
    (store.loosen kept).sum (left.loosen kept) (right.loosen kept) = store.sum left right := by
  rw [sum, sum, peek?_loosen, peek?_loosen, typeName_loosen, typeName_loosen]
  rcases store.peek? left with _ | first
  · rfl
  rcases store.peek? right with _ | second
  · cases first <;> rfl
  · cases first <;> cases second <;> rfl

/-! A verdict does not depend on fields, and what is held for it are owners in any case. -/

theorem override?_loosen (relation : Relation) (found : Option (Address × Object)) :
    override? relation (found.map (Object.loosenFound kept)) = override? relation found := by
  rcases found with _ | ⟨address, object⟩
  · rfl
  · cases object <;> rfl

theorem holds?_loosen (relation : Relation) (left right : Option (Address × Object)) :
    holds? relation (left.map (Object.loosenFound kept)) (right.map (Object.loosenFound kept)) =
      holds? relation left right := by
  rcases left with _ | ⟨_, first⟩ <;> rcases right with _ | ⟨_, second⟩
  · rfl
  · rfl
  · rfl
  · cases first <;> cases second <;> rfl

theorem holdOf_loosen (found : Option (Address × Object)) :
    holdOf (found.map (Object.loosenFound kept)) = holdOf found := by
  cases found <;> rfl

theorem verdict_loosen (store : Store) (relation : Relation) (left right : Handle) :
    (store.loosen kept).verdict relation (left.loosen kept) (right.loosen kept) =
      store.verdict relation left right := by
  simp only [verdict, resolve_loosen, typeName_loosen]
  rcases store.resolve left with error | first
  · rfl
  rcases store.resolve right with error | second
  · rfl
  simp only [Except.map, bind, Except.bind, override?_loosen, holds?_loosen, holdOf_loosen]

end Store

end Offside
