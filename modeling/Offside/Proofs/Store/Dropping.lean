import Offside.Proofs.Store.Counting

/-!
# Dropping owners

Owners are dropped one after another, and those that an object had that goes before the rest.
So dropping two lists in turn is dropping both together, and an object that nobody refers to
makes no difference.
-/

namespace Offside.Store

variable {store : Store} {address : Address} {cell : Cell} {object : Object}
variable {rest pending : List Address}

theorem dropOwners_nil (store : Store) : store.dropOwners [] = store := by
  rw [dropOwners]

theorem dropOwners_of_gone (gone : store.cell? address = none) :
    store.dropOwners (address :: rest) = store.dropOwners rest := by
  rw [dropOwners]
  split
  next => rfl
  next found => cases gone.symm.trans found

theorem dropOwners_of_last (found : store.cell? address = some cell) (last : cell.owners ≤ 1) :
    store.dropOwners (address :: rest) =
      (store.vacate address).dropOwners (Handle.owned cell.object.handles ++ rest) := by
  rw [dropOwners]
  split
  next there => cases there.symm.trans found
  next there =>
    cases there.symm.trans found
    rw [if_pos last]

theorem dropOwners_of_shared (found : store.cell? address = some cell)
    (shared : ¬cell.owners ≤ 1) :
    store.dropOwners (address :: rest) =
      (store.put address { cell with owners := cell.owners - 1 }).dropOwners rest := by
  rw [dropOwners]
  split
  next there => cases there.symm.trans found
  next there =>
    cases there.symm.trans found
    rw [if_neg shared]

theorem dropOwners_append (store : Store) (first second : List Address) :
    store.dropOwners (first ++ second) = (store.dropOwners first).dropOwners second := by
  fun_induction Store.dropOwners store first with
  | case1 => rfl
  | case2 store address rest gone ih => exact (dropOwners_of_gone gone).trans ih
  | case3 store address rest cell found last ih =>
      rw [List.cons_append, dropOwners_of_last found last, ← List.append_assoc]
      exact ih
  | case4 store address rest cell found shared ih =>
      exact (dropOwners_of_shared found shared).trans ih

/-- Handles are released one after another. -/
theorem release_append (store : Store) (first second : List Handle) :
    store.release (first ++ second) = (store.release first).release second := by
  rw [release, Handle.owned_append, dropOwners_append]
  rfl

theorem release_nil (store : Store) : store.release [] = store :=
  dropOwners_nil store

/-! ## An object that nobody refers to -/

theorem setCell_allocate (given : address < store.nextAddress) (content : Option Cell) :
    (store.allocate object).setCell address content =
      (store.setCell address content).allocate object := by
  simp only [setCell, allocate, Array.push_eq_append, Array.setIfInBounds_append_left given]

theorem cell?_allocate_of_ne (object : Object) (other : address ≠ store.nextAddress) :
    (store.allocate object).cell? address = store.cell? address := by
  rw [cell?_allocate, if_neg other]

theorem object?_allocate_self (store : Store) (object : Object) :
    (store.allocate object).object? store.nextAddress = some object := by
  rw [object?, cell?_allocate, if_pos rfl]
  rfl

/-- An object to which no owner among those that are dropped refers, nor one in a field, could
as well have been made afterwards. -/
theorem dropOwners_allocate (unlisted : store.nextAddress ∉ pending)
    (unowned : store.nextAddress ∉ Handle.owned store.fieldHandles) :
    (store.allocate object).dropOwners pending = (store.dropOwners pending).allocate object := by
  fun_induction Store.dropOwners store pending with
  | case1 store => exact dropOwners_nil _
  | case2 store address rest gone ih =>
      obtain ⟨other, unlisted⟩ := not_or.mp (mt List.mem_cons.mpr unlisted)
      have gone' := (cell?_allocate_of_ne object (Ne.symm other)).trans gone
      rw [dropOwners_of_gone gone', ih unlisted unowned]
  | case3 store address rest cell found last ih =>
      obtain ⟨other, unlisted⟩ := not_or.mp (mt List.mem_cons.mpr unlisted)
      have found' := (cell?_allocate_of_ne object (Ne.symm other)).trans found
      obtain ⟨others, before, after⟩ := exists_fieldHandles_perm found
      have apart := mt (owned_perm before).mem_iff.mpr unowned
      rw [Handle.owned_append, List.mem_append, not_or] at apart
      rw [dropOwners_of_last found' last, vacate_eq,
        setCell_allocate (lt_nextAddress_of_cell? found)]
      apply ih
      · rw [vacate_eq, nextAddress_setCell, List.mem_append, not_or]
        exact ⟨apart.1, unlisted⟩
      · rw [vacate_eq, nextAddress_setCell]
        exact mt (owned_perm (after none)).mem_iff.mp apart.2
  | case4 store address rest cell found shared ih =>
      obtain ⟨other, unlisted⟩ := not_or.mp (mt List.mem_cons.mpr unlisted)
      have found' := (cell?_allocate_of_ne object (Ne.symm other)).trans found
      obtain ⟨others, before, after⟩ := exists_fieldHandles_perm found
      have same := (after (some { cell with owners := cell.owners - 1 })).trans before.symm
      rw [dropOwners_of_shared found' shared, put_eq,
        setCell_allocate (lt_nextAddress_of_cell? found)]
      apply ih
      · rw [put_eq, nextAddress_setCell]
        exact unlisted
      · rw [put_eq, nextAddress_setCell]
        exact mt (owned_perm same).mem_iff.mp unowned

/-- A new object whose first owner is counted has no other owner. -/
theorem Counts.not_mem_of_allocate {before after : List Address}
    (counts : Counts (store.allocate object) (before ++ store.nextAddress :: after)) :
    store.nextAddress ∉ before ∧ store.nextAddress ∉ after ∧
      store.nextAddress ∉ Handle.owned store.fieldHandles := by
  have exact := counts.exact store.nextAddress
  rw [owners_allocate, if_pos rfl, List.count_append, List.count_cons_self, fieldHandles_allocate,
    Handle.owned_append, List.count_append] at exact
  refine ⟨?_, ?_, ?_⟩
  all_goals
    rw [← List.count_eq_zero]
    omega

end Offside.Store
