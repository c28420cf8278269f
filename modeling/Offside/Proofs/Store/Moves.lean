import Mathlib.Logic.Relation
import Offside.Proofs.Store.Counting

/-!
# Moves of handles

Whatever an evaluation does to the store and to the handles it holds is put together
from a few moves: handles are copied and dropped, objects are created, and the fields
of an instance are exchanged for handles that are held. Each move keeps the owners
counted, and none puts another object where one has been.
-/

namespace Offside

/-- What stays of an object as long as it lives: everything but its fields. -/
def Object.essence : Object → Object
  | .instanceOf cls _ => .instanceOf cls {}
  | object => object

namespace Store

/-- A later store has the objects of an earlier one as far as they are not gone, and
new objects at new addresses only. -/
structure Continues (before after : Store) : Prop where
  grows : before.nextAddress ≤ after.nextAddress
  keeps {address : Address} {object : Object} :
    address < before.nextAddress → after.object? address = some object →
      ∃ earlier, before.object? address = some earlier ∧ earlier.essence = object.essence

theorem Continues.refl (store : Store) : Continues store store where
  grows := Nat.le_refl _
  keeps _ found := ⟨_, found, rfl⟩

theorem Continues.trans {before between after : Store} (first : Continues before between)
    (second : Continues between after) : Continues before after where
  grows := Nat.le_trans first.grows second.grows
  keeps given found := by
    obtain ⟨object, found, same⟩ :=
      second.keeps (Nat.lt_of_lt_of_le given first.grows) found
    obtain ⟨earlier, found, sameEarlier⟩ := first.keeps given found
    exact ⟨earlier, found, sameEarlier.trans same⟩

theorem Continues.of_objects {before after : Store}
    (sameNext : after.nextAddress = before.nextAddress)
    (objects : ∀ address object, after.object? address = some object →
      before.object? address = some object) : Continues before after where
  grows := Nat.le_of_eq sameNext.symm
  keeps _ found := ⟨_, objects _ _ found, rfl⟩

end Store

/-- A store, and the handles that are held outside of it. -/
structure Holding where
  store : Store
  held : List Handle

namespace Holding

/-- A handle can be copied if it is at hand, or refers to nothing that is gone. -/
def Offers (holding : Holding) (handle : Handle) : Prop :=
  handle ∈ holding.held ∨ handle ∈ holding.store.fieldHandles ∨
    ∀ target ∈ handle.target?, (holding.store.object? target).isSome

/-- One move. -/
inductive Move : Holding → Holding → Prop where
  | rearrange {store : Store} {held held' : List Handle} :
      held.Perm held' → Move ⟨store, held⟩ ⟨store, held'⟩
  | copy {store : Store} {held handles : List Handle} :
      (∀ handle ∈ handles, Offers ⟨store, held⟩ handle) →
      Move ⟨store, held⟩ ⟨store.retain handles, handles ++ held⟩
  | drop {store : Store} {handles held : List Handle} :
      Move ⟨store, handles ++ held⟩ ⟨store.release handles, held⟩
  | create {store : Store} {held : List Handle} {object : Object} :
      (∀ handle ∈ object.handles, handle = .alias store.nextAddress) →
      Move ⟨store, held⟩ ⟨store.allocate object, .owner store.nextAddress :: held⟩
  | exchange {store : Store} {held held' : List Handle} {address : Address} {cls : Class}
      {fields fields' : Scope} :
      store.object? address = some (.instanceOf cls fields) →
      (fields.handles ++ held).Perm (fields'.handles ++ held') →
      Move ⟨store, held⟩ ⟨store.putFields address fields', held'⟩

/-- Any number of moves. -/
abbrev Moves : Holding → Holding → Prop :=
  Relation.ReflTransGen Move

/-- The owners at hand are all there are, and every handle refers to an address that
was given out. -/
structure Sound (holding : Holding) : Prop where
  counts : holding.store.Counts (Handle.owned holding.held)
  given {handle : Handle} {target : Address} :
    handle ∈ holding.held ∨ handle ∈ holding.store.fieldHandles →
      handle.target? = some target → target < holding.store.nextAddress

variable {before after : Holding} {store : Store} {held : List Handle} {handle : Handle}
variable {target address : Address} {object : Object}

theorem lt_nextAddress_of_object? (found : (store.object? target).isSome) :
    target < store.nextAddress := by
  rw [← Store.isSome_cell?] at found
  obtain ⟨cell, found⟩ := Option.isSome_iff_exists.mp found
  exact Store.lt_nextAddress_of_cell? found

namespace Sound

/-- An object is in the store exactly when an owner of it is held or in a field. -/
theorem isSome_iff (sound : Sound ⟨store, held⟩) :
    (store.object? target).isSome ↔
      .owner target ∈ held ∨ .owner target ∈ store.fieldHandles := by
  rw [← Store.isSome_cell?, sound.counts.isSome_iff, Store.mem_owned_iff]

theorem isSome_of_offers (sound : Sound ⟨store, held⟩)
    (offers : Offers ⟨store, held⟩ (.owner target)) : (store.object? target).isSome := by
  rcases offers with here | inField | alive
  · exact sound.isSome_iff.mpr (.inl here)
  · exact sound.isSome_iff.mpr (.inr inField)
  · exact alive target rfl

theorem given_of_offers (sound : Sound ⟨store, held⟩) (offers : Offers ⟨store, held⟩ handle)
    (refers : handle.target? = some target) : target < store.nextAddress := by
  rcases offers with here | inField | alive
  · exact sound.given (.inl here) refers
  · exact sound.given (.inr inField) refers
  · exact lt_nextAddress_of_object? (alive target refers)

end Sound

/-! ## Handles in fields -/

theorem fieldHandles_retain {handles : List Handle}
    (member : handle ∈ (store.retain handles).fieldHandles) : handle ∈ store.fieldHandles := by
  obtain ⟨address, object, found, member⟩ := Store.mem_fieldHandles_iff.mp member
  rw [Store.object?_retain] at found
  exact Store.mem_fieldHandles_iff.mpr ⟨address, object, found, member⟩

theorem fieldHandles_release {handles : List Handle}
    (member : handle ∈ (store.release handles).fieldHandles) : handle ∈ store.fieldHandles := by
  obtain ⟨address, object, found, member⟩ := Store.mem_fieldHandles_iff.mp member
  exact Store.mem_fieldHandles_iff.mpr
    ⟨address, object, Store.object?_of_dropOwners found, member⟩

theorem exists_putFields_eq {cls : Class} {fields : Scope} (fields' : Scope)
    (found : store.object? address = some (.instanceOf cls fields)) :
    ∃ owners, store.cell? address = some { object := .instanceOf cls fields, owners } ∧
      store.putFields address fields' =
        store.setCell address (some { object := .instanceOf cls fields', owners }) := by
  obtain ⟨owners, found⟩ := Store.object?_eq_some_iff.mp found
  refine ⟨owners, found, ?_⟩
  simp only [Store.putFields, found, Store.put_eq]

/-! ## What a move keeps -/

/-- No move puts another object where one has been. -/
theorem Move.continues (move : Move before after) :
    Store.Continues before.store after.store := by
  cases move with
  | rearrange => exact .refl _
  | copy =>
      apply Store.Continues.of_objects (Store.nextAddress_retain _)
      intro address object found
      rwa [Store.object?_retain] at found
  | drop =>
      apply Store.Continues.of_objects (Store.nextAddress_dropOwners _ _)
      intro address object found
      exact Store.object?_of_dropOwners found
  | @create store held object =>
      constructor
      · rw [Store.nextAddress_allocate]
        exact Nat.le_succ _
      · intro address found given there
        rw [Store.object?, Store.cell?_allocate, if_neg (Nat.ne_of_lt given)] at there
        exact ⟨found, there, rfl⟩
  | @exchange store held held' address cls fields fields' found =>
      obtain ⟨owners, there, same⟩ := exists_putFields_eq fields' found
      rw [same]
      constructor
      · exact Nat.le_of_eq (Store.nextAddress_setCell _).symm
      · intro other object given later
        rw [Store.object?, Store.cell?_setCell there] at later
        split at later
        next here =>
          subst here
          cases later
          exact ⟨_, found, rfl⟩
        next => exact ⟨object, later, rfl⟩

theorem Move.sound_copy {handles : List Handle} (sound : Sound ⟨store, held⟩)
    (offered : ∀ handle ∈ handles, Offers ⟨store, held⟩ handle) :
    Sound ⟨store.retain handles, handles ++ held⟩ where
  counts := by
    rw [Handle.owned_append]
    apply sound.counts.retain
    intro address member
    exact sound.isSome_of_offers (offered _ member)
  given {handle target} member refers := by
    rw [Store.nextAddress_retain]
    rcases member with member | inField
    · rcases List.mem_append.mp member with copied | here
      · exact sound.given_of_offers (offered handle copied) refers
      · exact sound.given (.inl here) refers
    · exact sound.given (.inr (fieldHandles_retain inField)) refers

theorem Move.sound_drop {handles : List Handle} (sound : Sound ⟨store, handles ++ held⟩) :
    Sound ⟨store.release handles, held⟩ where
  counts := by
    have counts := sound.counts
    rw [Handle.owned_append] at counts
    exact counts.dropOwners
  given {handle target} member refers := by
    rw [Store.release, Store.nextAddress_dropOwners]
    rcases member with here | inField
    · exact sound.given (.inl (List.mem_append_right _ here)) refers
    · exact sound.given (.inr (fieldHandles_release inField)) refers

theorem Move.sound_create (sound : Sound ⟨store, held⟩)
    (aliases : ∀ handle ∈ object.handles, handle = .alias store.nextAddress) :
    Sound ⟨store.allocate object, .owner store.nextAddress :: held⟩ where
  counts := by
    have ownsNothing : Handle.owned object.handles = [] := by
      apply List.filterMap_eq_nil_iff.mpr
      intro handle member
      rw [aliases handle member]
      rfl
    exact sound.counts.allocate ownsNothing
  given {handle target} member refers := by
    have atNext {handle : Handle} (refersNext : handle.target? = some store.nextAddress)
        (refers : handle.target? = some target) : target < store.nextAddress + 1 := by
      rw [refersNext] at refers
      exact Nat.lt_succ_of_le (Nat.le_of_eq (Option.some.inj refers).symm)
    rw [Store.nextAddress_allocate]
    rw [Store.fieldHandles_allocate, List.mem_cons, List.mem_append] at member
    rcases member with (rfl | here) | inField | new
    · exact atNext rfl refers
    · exact Nat.lt_succ_of_lt (sound.given (.inl here) refers)
    · exact Nat.lt_succ_of_lt (sound.given (.inr inField) refers)
    · rw [aliases handle new] at refers
      exact atNext rfl refers

theorem Move.sound_exchange {held' : List Handle} {cls : Class} {fields fields' : Scope}
    (sound : Sound ⟨store, held⟩)
    (found : store.object? address = some (.instanceOf cls fields))
    (same : (fields.handles ++ held).Perm (fields'.handles ++ held')) :
    Sound ⟨store.putFields address fields', held'⟩ := by
  obtain ⟨owners, there, put⟩ := exists_putFields_eq fields' found
  -- The handles of all other objects stay where they are, those of this one are exchanged.
  obtain ⟨others, fieldsBefore, fieldsAfter⟩ := Store.exists_fieldHandles_perm there
  rw [put]
  constructor
  · apply sound.counts.setCell there
    · intro replacement put
      have positive : 0 < owners := sound.counts.positive there
      cases put
      exact positive
    · intro target
      have counted := (Store.owned_perm same).count_eq target
      have cell : store.owners address = owners := Store.owners_eq there
      simp only [Handle.owned_append, List.count_append] at counted
      simp only [Option.map_some, Option.getD_some, Store.cellHandles, Object.handles]
      split
      next here =>
        subst here
        omega
      next => omega
  · intro handle target member refers
    rw [Store.nextAddress_setCell]
    have within : handle ∈ fields.handles ++ held ∨ handle ∈ others := by
      rcases member with here | inField
      · exact .inl (same.mem_iff.mpr (List.mem_append_right _ here))
      · rcases List.mem_append.mp ((fieldsAfter _).mem_iff.mp inField) with new | other
        · exact .inl (same.mem_iff.mpr (List.mem_append_left _ new))
        · exact .inr other
    rcases within with within | other
    · rcases List.mem_append.mp within with inField | here
      · exact sound.given (.inr (fieldsBefore.mem_iff.mpr (List.mem_append_left _ inField))) refers
      · exact sound.given (.inl here) refers
    · exact sound.given (.inr (fieldsBefore.mem_iff.mpr (List.mem_append_right _ other))) refers

/-- Every move keeps the owners counted. -/
theorem Move.sound (move : Move before after) (sound : before.Sound) : after.Sound := by
  cases move with
  | rearrange same =>
      constructor
      · exact sound.counts.perm (Store.owned_perm same)
      · intro handle target member refers
        apply sound.given _ refers
        rwa [same.mem_iff]
  | copy offered => exact sound_copy sound offered
  | drop => exact sound_drop sound
  | create aliases => exact sound_create sound aliases
  | exchange found same => exact sound_exchange sound found same

namespace Moves

theorem sound (moves : Moves before after) (sound : before.Sound) : after.Sound := by
  induction moves with
  | refl => exact sound
  | tail _ move ih => exact move.sound ih

theorem continues (moves : Moves before after) :
    Store.Continues before.store after.store := by
  induction moves with
  | refl => exact .refl _
  | tail _ move ih => exact ih.trans move.continues

end Moves

end Holding

end Offside
