import Offside.Store

/-!
# Counted owners

What a cell counts are the owners of its object: those outside the store and those
in the fields of instances. Every operation of the store keeps the counts right, and
so an object is in the store exactly as long as it has an owner.
-/

namespace Offside.Store

variable {store : Store} {address other : Address} {cell : Cell} {object : Object}
variable {handles : List Handle} {owning pending : List Address}

/-- The number of owners that a cell counts. There are none of an object that is gone. -/
def owners (store : Store) (address : Address) : Nat :=
  ((store.cell? address).map Cell.owners).getD 0

/-- The handles that a cell holds. -/
def cellHandles : Option Cell → List Handle
  | some cell => cell.object.handles
  | none => []

/-- The handles in the fields of all instances. -/
def fieldHandles (store : Store) : List Handle :=
  store.cells.toList.flatMap cellHandles

/-- Puts a cell, or none, in the place of another. -/
def setCell (store : Store) (address : Address) (content : Option Cell) : Store :=
  { cells := store.cells.setIfInBounds address content }

theorem put_eq (store : Store) (address : Address) (cell : Cell) :
    store.put address cell = store.setCell address (some cell) := rfl

theorem vacate_eq (store : Store) (address : Address) :
    store.vacate address = store.setCell address none := rfl

/-! ## Cells and objects -/

theorem cell?_setCell (found : store.cell? address = some cell) (content : Option Cell) :
    (store.setCell address content).cell? other =
      if address = other then content else store.cell? other := by
  obtain ⟨bound, _⟩ := lt_size_of_cell? found
  rw [cell?, setCell, Array.getElem?_setIfInBounds, if_pos bound]
  split
  · rfl
  · rfl

@[simp] theorem nextAddress_setCell (content : Option Cell) :
    (store.setCell address content).nextAddress = store.nextAddress := by
  simp [nextAddress, setCell]

theorem cell?_allocate :
    (store.allocate object).cell? address =
      if address = store.nextAddress then some { object, owners := 1 }
      else store.cell? address := by
  rw [cell?, allocate, Array.getElem?_push, nextAddress]
  split
  · rfl
  · rfl

theorem nextAddress_allocate : (store.allocate object).nextAddress = store.nextAddress + 1 := by
  simp [nextAddress, allocate]

theorem lt_nextAddress_of_cell? (found : store.cell? address = some cell) :
    address < store.nextAddress :=
  (lt_size_of_cell? found).1

theorem object?_eq_some_iff :
    store.object? address = some object ↔
      ∃ owners, store.cell? address = some { object, owners } := by
  rw [object?, Option.map_eq_some_iff]
  constructor
  · rintro ⟨cell, found, rfl⟩
    exact ⟨cell.owners, found⟩
  · rintro ⟨owners, found⟩
    exact ⟨_, found, rfl⟩

theorem mem_fieldHandles_iff {handle : Handle} :
    handle ∈ store.fieldHandles ↔
      ∃ address object, store.object? address = some object ∧ handle ∈ object.handles := by
  constructor
  · intro member
    obtain ⟨content, listed, member⟩ := List.mem_flatMap.mp member
    cases content with
    | none => exact (List.not_mem_nil member).elim
    | some cell =>
        obtain ⟨address, there⟩ := List.mem_iff_getElem?.mp listed
        refine ⟨address, cell.object, object?_eq_some_iff.mpr ⟨cell.owners, ?_⟩, member⟩
        rw [cell?, ← Array.getElem?_toList, there]
        rfl
  · rintro ⟨address, object, found, member⟩
    obtain ⟨owners, found⟩ := object?_eq_some_iff.mp found
    obtain ⟨bound, there⟩ := lt_size_of_cell? found
    refine List.mem_flatMap.mpr ⟨some { object, owners }, ?_, member⟩
    rw [← there]
    exact Array.mem_toList_iff.mpr (Array.getElem_mem bound)

/-- A cell is one of the cells, and only its own handles change with it. -/
theorem exists_fieldHandles_perm (found : store.cell? address = some cell) :
    ∃ others, store.fieldHandles.Perm (cell.object.handles ++ others) ∧
      ∀ content, (store.setCell address content).fieldHandles.Perm
        (cellHandles content ++ others) := by
  obtain ⟨bound, there⟩ := lt_size_of_cell? found
  let before := store.cells.toList.take address
  let after := store.cells.toList.drop (address + 1)
  have moved (content : Option Cell) :
      ((before ++ content :: after).flatMap cellHandles).Perm
        (cellHandles content ++ (before ++ after).flatMap cellHandles) := by
    rw [List.flatMap_append, List.flatMap_cons, List.flatMap_append]
    exact List.perm_append_comm_assoc _ _ _
  refine ⟨(before ++ after).flatMap cellHandles, ?_, fun content => ?_⟩
  · have whole : store.cells.toList = before ++ some cell :: after := by
      rw [← there, ← Array.getElem_toList, List.getElem_cons_drop, List.take_append_drop]
    rw [fieldHandles, whole]
    exact moved (some cell)
  · have within : address < store.cells.toList.length := bound
    rw [fieldHandles, setCell, Array.toList_setIfInBounds, List.set_eq_take_append_cons_drop,
      if_pos within]
    exact moved content

theorem fieldHandles_allocate :
    (store.allocate object).fieldHandles = store.fieldHandles ++ object.handles := by
  simp [fieldHandles, allocate, cellHandles]

/-! ## Counting -/

/-- The owners of a store and of a list are all the owners there are of its objects,
and every cell counts them. -/
structure Counts (store : Store) (owning : List Address) : Prop where
  exact (address : Address) : store.owners address =
    owning.count address + (Handle.owned store.fieldHandles).count address
  positive {address : Address} {cell : Cell} :
    store.cell? address = some cell → 0 < cell.owners

theorem owned_perm {left right : List Handle} (same : left.Perm right) :
    (Handle.owned left).Perm (Handle.owned right) :=
  same.filterMap _

theorem mem_owned_iff : address ∈ Handle.owned handles ↔ .owner address ∈ handles := by
  rw [Handle.owned, List.mem_filterMap]
  constructor
  · rintro ⟨handle, member, owned⟩
    cases handle with
    | owner target =>
        obtain rfl := Option.some.inj owned
        exact member
    | empty => cases owned
    | «alias» target => cases owned
  · exact fun member => ⟨_, member, rfl⟩

theorem owners_eq (found : store.cell? address = some cell) :
    store.owners address = cell.owners := by
  rw [owners, found]
  rfl

theorem owners_setCell (found : store.cell? address = some cell) (content : Option Cell) :
    (store.setCell address content).owners other =
      if address = other then (content.map Cell.owners).getD 0 else store.owners other := by
  rw [owners, cell?_setCell found]
  split
  · rfl
  · rfl

theorem owners_allocate :
    (store.allocate object).owners address =
      if address = store.nextAddress then 1 else store.owners address := by
  rw [owners, cell?_allocate]
  split
  · rfl
  · rfl

theorem owners_nextAddress (store : Store) : store.owners store.nextAddress = 0 := by
  simp [owners, cell?, nextAddress]

namespace Counts

variable (counts : Counts store owning)
include counts

theorem perm {owning' : List Address} (same : owning.Perm owning') : Counts store owning' where
  exact address := by rw [counts.exact, same.count_eq]
  positive := counts.positive

/-- An object is in the store exactly when it is owned. -/
theorem isSome_iff :
    (store.cell? address).isSome ↔
      address ∈ owning ∨ .owner address ∈ store.fieldHandles := by
  have exact := counts.exact address
  rw [← mem_owned_iff, ← List.count_pos_iff, ← List.count_pos_iff]
  cases found : store.cell? address with
  | none =>
      rw [owners, found, Option.map_none, Option.getD_none] at exact
      simp only [Option.isSome_none, Bool.false_eq_true, false_iff]
      omega
  | some cell =>
      have positive := counts.positive found
      rw [owners_eq found] at exact
      simp only [Option.isSome_some, true_iff]
      omega

/-- A cell is replaced by one that counts the owners after the replacement. -/
theorem setCell (found : store.cell? address = some cell) {content : Option Cell}
    {owning' : List Address}
    (positive : ∀ replacement ∈ content, 0 < replacement.owners)
    (replaced : ∀ target,
      (if address = target then (content.map Cell.owners).getD 0 else store.owners target) +
          owning.count target + (Handle.owned cell.object.handles).count target =
        store.owners target + owning'.count target +
          (Handle.owned (cellHandles content)).count target) :
    Counts (store.setCell address content) owning' where
  exact target := by
    obtain ⟨others, before, after⟩ := exists_fieldHandles_perm found
    have exact := counts.exact target
    have replaced := replaced target
    rw [(owned_perm before).count_eq, Handle.owned_append, List.count_append] at exact
    rw [owners_setCell found, (owned_perm (after content)).count_eq, Handle.owned_append,
      List.count_append]
    omega
  positive {other replacement} there := by
    rw [cell?_setCell found] at there
    split at there
    · exact positive replacement there
    · exact counts.positive there

/-- Only the number of owners of one object changes. -/
theorem recount (found : store.cell? address = some cell) {owners : Nat}
    {owning' : List Address} (positive : 0 < owners)
    (here : owners + owning.count address = cell.owners + owning'.count address)
    (elsewhere : ∀ target, address ≠ target → owning'.count target = owning.count target) :
    Counts (store.put address { cell with owners }) owning' := by
  rw [put_eq]
  apply counts.setCell found
  · intro replacement same
    cases same
    exact positive
  · intro target
    have held := owners_eq found
    simp only [Option.map_some, Option.getD_some, cellHandles]
    split
    next same =>
      subst same
      omega
    next unlike => rw [elsewhere target unlike]

/-- One more owner of an object that is there. -/
theorem addOwner (alive : (store.cell? address).isSome) :
    Counts (store.addOwner address) (address :: owning) := by
  obtain ⟨cell, found⟩ := Option.isSome_iff_exists.mp alive
  simp only [Store.addOwner, found]
  apply counts.recount found (Nat.succ_pos cell.owners)
  · rw [List.count_cons_self]
    omega
  · exact fun target unlike => List.count_cons_of_ne unlike

/-- One owner less of an object that has more than one. -/
theorem removeOwner {rest : List Address} (split : owning = address :: rest)
    (found : store.cell? address = some cell) (shared : 1 < cell.owners) :
    Counts (store.put address { cell with owners := cell.owners - 1 }) rest := by
  subst split
  apply counts.recount found (Nat.sub_pos_of_lt shared)
  · rw [List.count_cons_self]
    omega
  · exact fun target unlike => (List.count_cons_of_ne unlike).symm

/-- With its last owner an object goes, and what it owned itself is left to be
released. -/
theorem removeLastOwner {rest : List Address} (split : owning = address :: rest)
    (found : store.cell? address = some cell) (last : cell.owners ≤ 1) :
    Counts (store.vacate address) (Handle.owned cell.object.handles ++ rest) := by
  subst split
  rw [vacate_eq]
  apply counts.setCell found
  · exact fun replacement same => nomatch same
  · intro target
    have held := owners_eq found
    have positive := counts.positive found
    simp only [Option.map_none, Option.getD_none, cellHandles, List.count_cons, beq_iff_eq,
      List.count_append, Handle.owned_nil, List.count_nil]
    split
    next same =>
      subst same
      omega
    next => omega

/-- An object that is owned is there to lose an owner. -/
theorem cell?_ne_none {rest : List Address} (split : owning = address :: rest) :
    store.cell? address ≠ none := by
  have alive := counts.isSome_iff.mpr (.inl (split ▸ List.mem_cons_self))
  exact Option.isSome_iff_ne_none.mp alive

end Counts

/-! ## Whole operations -/

@[simp] theorem nextAddress_addOwner :
    (store.addOwner address).nextAddress = store.nextAddress := by
  unfold addOwner
  split
  · exact nextAddress_setCell _
  · rfl

@[simp] theorem object?_addOwner :
    (store.addOwner address).object? other = store.object? other := by
  unfold addOwner
  split
  next cell found =>
    rw [put_eq, object?, cell?_setCell found]
    split
    next same =>
      subst same
      rw [object?, found]
      rfl
    next => rfl
  next => rfl

theorem isSome_cell? : (store.cell? address).isSome = (store.object? address).isSome := by
  rw [object?, Option.isSome_map]

theorem foldl_addOwner (addresses : List Address) :
    (addresses.foldl addOwner store).nextAddress = store.nextAddress ∧
      ∀ other, (addresses.foldl addOwner store).object? other = store.object? other := by
  induction addresses generalizing store with
  | nil => exact ⟨rfl, fun _ => rfl⟩
  | cons address addresses ih =>
      obtain ⟨sameNext, sameObjects⟩ := @ih (store.addOwner address)
      constructor
      · exact sameNext.trans nextAddress_addOwner
      · intro other
        exact (sameObjects other).trans object?_addOwner

@[simp] theorem nextAddress_retain (handles : List Handle) :
    (store.retain handles).nextAddress = store.nextAddress :=
  (foldl_addOwner _).1

@[simp] theorem object?_retain (handles : List Handle) :
    (store.retain handles).object? address = store.object? address :=
  (foldl_addOwner _).2 address

theorem Counts.foldl_addOwner (counts : Counts store owning) (addresses : List Address)
    (alive : ∀ address ∈ addresses, (store.object? address).isSome) :
    Counts (addresses.foldl Store.addOwner store) (addresses ++ owning) := by
  induction addresses generalizing store owning with
  | nil => exact counts
  | cons address addresses ih =>
      obtain ⟨here, alive⟩ := List.forall_mem_cons.mp alive
      rw [← isSome_cell?] at here
      have further := ih (counts.addOwner here) (by simpa using alive)
      exact further.perm List.perm_middle

/-- Objects that are there get another owner for every owner among the handles. -/
theorem Counts.retain (counts : Counts store owning)
    (alive : ∀ address, .owner address ∈ handles → (store.object? address).isSome) :
    Counts (store.retain handles) (Handle.owned handles ++ owning) := by
  apply counts.foldl_addOwner
  intro address member
  exact alive address (mem_owned_iff.mp member)

/-- Dropping owners takes them out of the count, and with every object that goes
the owners among its fields. -/
theorem Counts.dropOwners (counts : Counts store (pending ++ owning)) :
    Counts (store.dropOwners pending) owning := by
  fun_induction Store.dropOwners store pending with
  | case1 store => exact counts
  | case2 store address rest gone ih =>
      -- What is pending is counted, so its object cannot be gone already.
      exact (counts.cell?_ne_none rfl gone).elim
  | case3 store address rest cell found last ih =>
      apply ih
      rw [List.append_assoc]
      exact counts.removeLastOwner rfl found last
  | case4 store address rest cell found shared ih =>
      exact ih (counts.removeOwner rfl found (Nat.lt_of_not_le shared))

@[simp] theorem nextAddress_dropOwners (store : Store) (pending : List Address) :
    (store.dropOwners pending).nextAddress = store.nextAddress := by
  fun_induction Store.dropOwners store pending with
  | case1 => rfl
  | case2 store address rest gone ih => exact ih
  | case3 store address rest cell found last ih => exact ih.trans (nextAddress_setCell none)
  | case4 store address rest cell found shared ih => exact ih.trans (nextAddress_setCell _)

/-- Dropping owners changes no object, and brings none back. -/
theorem object?_of_dropOwners
    (found : (store.dropOwners pending).object? address = some object) :
    store.object? address = some object := by
  fun_induction Store.dropOwners store pending with
  | case1 => exact found
  | case2 store dropped rest gone ih => exact ih found
  | case3 store dropped rest cell there last ih =>
      have before := ih found
      rw [vacate_eq, object?, cell?_setCell there] at before
      split at before
      · cases before
      · exact before
  | case4 store dropped rest cell there shared ih =>
      have before := ih found
      rw [put_eq, object?, cell?_setCell there] at before
      split at before
      next same =>
        subst same
        rw [object?, there]
        exact before
      next => exact before

/-- A new object has one owner. It owns nothing yet. -/
theorem Counts.allocate (counts : Counts store owning)
    (ownsNothing : Handle.owned object.handles = []) :
    Counts (store.allocate object) (store.nextAddress :: owning) where
  exact address := by
    have exact := counts.exact address
    rw [owners_allocate, fieldHandles_allocate, Handle.owned_append, ownsNothing, List.append_nil,
      List.count_cons]
    split
    next same =>
      subst same
      rw [owners_nextAddress] at exact
      simp only [beq_self_eq_true, if_true]
      omega
    next unlike =>
      simp only [beq_iff_eq, Ne.symm unlike, if_false]
      exact exact
  positive {address cell} there := by
    rw [cell?_allocate] at there
    split at there
    · cases there
      exact Nat.one_pos
    · exact counts.positive there

end Offside.Store
