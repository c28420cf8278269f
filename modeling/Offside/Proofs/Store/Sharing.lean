import Mathlib.Logic.Function.Basic
import Offside.Comparing
import Offside.Proofs.Store.Dropping

/-!
# Further owners

What is held for a while is counted in at the beginning and counted out in the end. As every object
has an owner of its own besides, none goes in between, and in the end the cells are what they were.
-/

namespace Offside

/-- The cell of an object that has further owners. -/
def Cell.shared (count : Nat) (cell : Cell) : Cell :=
  { cell with owners := cell.owners + count }

namespace Store

/-- The cells are those given, but for further owners of the objects. -/
def Shares (store : Store) (cells : Address → Option Cell) (owning : List Address) : Prop :=
  ∀ address, store.cell? address = (cells address).map (Cell.shared (owning.count address))

/-- Every object has an owner. -/
def AllOwned (cells : Address → Option Cell) : Prop :=
  ∀ address, ∀ cell ∈ cells address, 0 < cell.owners

variable {store : Store} {cells : Address → Option Cell} {owning pending : List Address}
  {address : Address} {object : Object} {handles : List Handle}

theorem shares_self (store : Store) : store.Shares store.cell? [] := by
  intro address
  cases store.cell? address <;> rfl

theorem AllOwned.update (allOwned : AllOwned cells) (object : Object) :
    AllOwned (Function.update cells address (some { object, owners := 1 })) := by
  intro other cell there
  by_cases same : other = address
  · rw [same, Function.update_self] at there
    cases there
    exact Nat.one_pos
  · rw [Function.update_of_ne same] at there
    exact allOwned other cell there

theorem AllOwned.shared (allOwned : AllOwned cells) (shares : store.Shares cells owning) :
    AllOwned store.cell? := by
  intro address cell found
  rw [shares address] at found
  obtain ⟨own, there, rfl⟩ := Option.map_eq_some_iff.mp found
  exact Nat.lt_of_lt_of_le (allOwned address own there) (Nat.le_add_right _ _)

namespace Shares

theorem perm (shares : store.Shares cells owning) {owning' : List Address}
    (same : owning.Perm owning') : store.Shares cells owning' := by
  intro address
  rw [shares address, same.count_eq]

theorem object?_eq (shares : store.Shares cells owning) (address : Address) :
    store.object? address = (cells address).map Cell.object := by
  rw [object?, shares address, Option.map_map]
  rfl

theorem cell?_eq (shares : store.Shares cells []) (address : Address) :
    store.cell? address = cells address := by
  rw [shares address]
  cases cells address <;> rfl

theorem eq_none (shares : store.Shares cells owning) (gone : store.cell? address = none) :
    cells address = none := by
  rw [shares address] at gone
  exact Option.map_eq_none_iff.mp gone

/-- Owners of what is not there do not count. -/
theorem of_gone (shares : store.Shares cells (address :: owning))
    (gone : store.cell? address = none) : store.Shares cells owning := by
  intro other
  rw [shares other]
  by_cases same : address = other
  · rw [← same, shares.eq_none gone]
    rfl
  · rw [List.count_cons_of_ne same]

theorem exists_cell (shares : store.Shares cells owning) {cell : Cell}
    (found : store.cell? address = some cell) :
    ∃ own, cells address = some own ∧ cell = own.shared (owning.count address) := by
  obtain ⟨own, there, same⟩ := Option.map_eq_some_iff.mp ((shares address).symm.trans found)
  exact ⟨own, there, same.symm⟩

theorem addOwner (shares : store.Shares cells owning) (address : Address) :
    (store.addOwner address).Shares cells (address :: owning) := by
  intro other
  unfold Store.addOwner
  split
  next cell found =>
    obtain ⟨own, there, rfl⟩ := shares.exists_cell found
    rw [put_eq, cell?_setCell found]
    split
    next same =>
      rw [← same, there, List.count_cons_self]
      rfl
    next different => rw [shares other, List.count_cons_of_ne different]
  next gone =>
    rw [shares other]
    by_cases same : address = other
    · rw [← same, shares.eq_none gone]
      rfl
    · rw [List.count_cons_of_ne same]

theorem retain (shares : store.Shares cells owning) (handles : List Handle) :
    (store.retain handles).Shares cells (Handle.owned handles ++ owning) := by
  rw [Store.retain]
  generalize Handle.owned handles = addresses
  induction addresses generalizing store owning with
  | nil => exact shares
  | cons address addresses ih => exact (ih (shares.addOwner address)).perm List.perm_middle

/-- Further owners can be dropped, and no object goes. -/
theorem dropOwners (allOwned : AllOwned cells) (shares : store.Shares cells (pending ++ owning)) :
    (store.dropOwners pending).Shares cells owning := by
  fun_induction Store.dropOwners store pending with
  | case1 => exact shares
  | case2 store address rest gone ih => exact ih (shares.of_gone gone)
  | case3 store address rest cell found last ih =>
      obtain ⟨own, there, rfl⟩ := shares.exists_cell found
      have owned := allOwned address own there
      rw [List.cons_append, List.count_cons_self, Cell.shared] at last
      dsimp only at last
      omega
  | case4 store address rest cell found shared ih =>
      obtain ⟨own, there, rfl⟩ := shares.exists_cell found
      apply ih
      intro other
      rw [put_eq, cell?_setCell found]
      split
      next same =>
        rw [← same, there, List.cons_append, List.count_cons_self]
        rfl
      next different => rw [shares other, List.cons_append, List.count_cons_of_ne different]

theorem release (shares : store.Shares cells (Handle.owned handles ++ owning))
    (allOwned : AllOwned cells) : (store.release handles).Shares cells owning :=
  dropOwners allOwned shares

/-- A new object is at an address that nothing has been at. -/
theorem eq_none_nextAddress (shares : store.Shares cells owning) :
    cells store.nextAddress = none := by
  apply shares.eq_none
  rw [cell?, nextAddress, Array.getElem?_size]
  rfl

theorem allocate (shares : store.Shares cells owning)
    (alive : ∀ address ∈ owning, (cells address).isSome) (object : Object) :
    (store.allocate object).Shares
      (Function.update cells store.nextAddress (some { object, owners := 1 })) owning := by
  intro address
  rw [cell?_allocate]
  split
  next same =>
    have unowned : store.nextAddress ∉ owning := by
      intro member
      have there := alive _ member
      rw [shares.eq_none_nextAddress] at there
      cases there
    rw [same, Function.update_self, List.count_eq_zero_of_not_mem unowned]
    rfl
  next different => rw [Function.update_of_ne different, shares address]

/-- A new object that owns nothing goes with its owner. -/
theorem dropOwner_of_update (ownsNothing : Handle.owned object.handles = [])
    (shares : store.Shares (Function.update cells address (some { object, owners := 1 })) owning)
    (new : cells address = none) (unowned : address ∉ owning) :
    (store.dropOwners [address]).Shares cells owning := by
  have found : store.cell? address = some { object, owners := 1 } := by
    rw [shares address, Function.update_self, List.count_eq_zero_of_not_mem unowned]
    rfl
  rw [dropOwners_of_last found (Nat.le_refl 1), ownsNothing, List.append_nil, dropOwners_nil,
    vacate_eq]
  intro other
  rw [cell?_setCell found]
  split
  next same =>
    rw [← same, new]
    rfl
  next different => rw [shares other, Function.update_of_ne (Ne.symm different)]

end Shares

/-! ## What depends on the objects only -/

section Objects

variable {store' : Store} (same : ∀ address, store.object? address = store'.object? address)
include same

theorem resolve_congr (handle : Handle) : store.resolve handle = store'.resolve handle := by
  unfold resolve
  split
  · rfl
  next target _ => rw [same target]

theorem getInstance_congr (handle : Handle) :
    store.getInstance handle = store'.getInstance handle := by
  rw [getInstance, getInstance, get, get, resolve_congr same]

theorem verdict_congr (relation : Relation) (left right : Handle) :
    store.verdict relation left right = store'.verdict relation left right := by
  rw [verdict, verdict, typeName, typeName, typeName, typeName, resolve_congr same left,
    resolve_congr same right]

end Objects

end Store

end Offside
