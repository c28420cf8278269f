import Offside.Proofs.Store.Owning

/-!
# Changes of fields

Counting owners and creating objects leave the fields of all instances as they are. A field
changes when it is set or deleted, and what an instance has at a later time is what it had, with
the changes since then made in turn.
-/

namespace Offside

/-- A change of the fields of an instance. -/
inductive FieldChange where
  | set (name : String) (value : Handle)
  | delete (name : String)
  deriving DecidableEq, Repr

/-- Makes a change. -/
def FieldChange.apply : FieldChange → Scope → Scope
  | .set name value, fields => fields.bind name value
  | .delete name, fields => fields.unbind name

namespace Object

/-- Makes a change of the fields of an object. Only instances have any. -/
def change (change : FieldChange) : Object → Object
  | .instanceOf cls fields => .instanceOf cls (change.apply fields)
  | object => object

/-- Makes the changes in turn that are meant for the object at an address. -/
def changedBy (object : Object) (address : Address) (changes : List (Address × FieldChange)) :
    Object :=
  changes.foldl
    (fun object (target, change) => if target = address then object.change change else object)
    object

/-- An object as it is when it has been created at an address: an instance has an alias of itself
and nothing else, and no other object has any handles. -/
def IsNew (address : Address) (object : Object) : Prop :=
  object.kind ≠ .instanceOf ∨
    ∃ cls, object = .instanceOf cls (Scope.bind {} Store.selfName (.alias address))

variable {object : Object} {address target : Address} {change : FieldChange}

@[simp] theorem changedBy_nil : object.changedBy address [] = object := rfl

theorem changedBy_append (first second : List (Address × FieldChange)) :
    object.changedBy address (first ++ second) =
      (object.changedBy address first).changedBy address second :=
  List.foldl_append

theorem changedBy_self (object : Object) (address : Address) (change : FieldChange) :
    object.changedBy address [(address, change)] = object.change change :=
  if_pos rfl

theorem changedBy_of_ne (other : target ≠ address) :
    object.changedBy address [(target, change)] = object :=
  if_neg other

theorem not_owner_mem_of_isNew (isNew : object.IsNew address) : .owner target ∉ object.handles := by
  intro member
  rcases isNew with plain | ⟨cls, rfl⟩
  · rw [handles_eq_nil plain] at member
    cases member
  · cases List.mem_singleton.mp member

end Object

namespace Store

variable {before middle after store : Store} {address target : Address} {object : Object}

/-- A later store in which owners have been counted in and out and objects have been created, and
no field has changed. -/
inductive Calm (before : Store) : Store → Prop where
  | refl : Calm before before
  | retain {store : Store} (handles : List Handle) :
      Calm before store → Calm before (store.retain handles)
  | release {store : Store} (handles : List Handle) :
      Calm before store → Calm before (store.release handles)
  | create {store : Store} {object : Object} :
      object.IsNew store.nextAddress → Calm before store → Calm before (store.allocate object)

/-- An object comes from a store if it was there, or has been created since. -/
def Origin (store : Store) (address : Address) (object : Object) : Prop :=
  store.object? address = some object ∨ store.nextAddress ≤ address ∧ object.IsNew address

namespace Calm

theorem trans (first : Calm before middle) (second : Calm middle after) : Calm before after := by
  induction second with
  | refl => exact first
  | retain handles _ ih => exact ih.retain handles
  | release handles _ ih => exact ih.release handles
  | create isNew _ ih => exact ih.create isNew

theorem grows (calm : Calm before after) : before.nextAddress ≤ after.nextAddress := by
  induction calm with
  | refl => exact Nat.le_refl _
  | retain handles _ ih =>
      rw [nextAddress_retain]
      exact ih
  | release handles _ ih =>
      rw [Store.release, nextAddress_dropOwners]
      exact ih
  | create isNew _ ih =>
      rw [nextAddress_allocate]
      exact Nat.le_succ_of_le ih

/-- As long as no field changes, objects stay what they are. -/
theorem origin (calm : Calm before after) (found : after.object? address = some object) :
    before.Origin address object := by
  induction calm with
  | refl => exact .inl found
  | retain handles _ ih =>
      rw [object?_retain] at found
      exact ih found
  | release handles _ ih => exact ih (object?_of_dropOwners found)
  | create isNew calm ih =>
      rw [object?, cell?_allocate] at found
      split at found
      next same =>
        cases found
        rw [same]
        exact .inr ⟨calm.grows, isNew⟩
      next => exact ih found

theorem ownsNoMore (calm : Calm before after) : OwnsNoMore before after := by
  induction calm with
  | refl => exact .refl _
  | retain handles _ ih => exact ih.trans (.retain _ handles)
  | release handles _ ih => exact ih.trans (.release _ handles)
  | create isNew _ ih =>
      exact ih.trans (.allocate fun target => Object.not_owner_mem_of_isNew isNew)

end Calm

/-- A later store in which at most one field has changed. -/
inductive Turns (before : Store) : Option (Address × FieldChange) → Store → Prop where
  | calm {after : Store} : Calm before after → Turns before none after
  | change {store after : Store} {address : Address} {change : FieldChange} {cls : Class}
      {fields : Scope} :
      Calm before store → store.object? address = some (.instanceOf cls fields) →
      Calm (store.putFields address (change.apply fields)) after →
      Turns before (some (address, change)) after

theorem nextAddress_putFields {cls : Class} {fields fields' : Scope}
    (found : store.object? address = some (.instanceOf cls fields)) :
    (store.putFields address fields').nextAddress = store.nextAddress := by
  obtain ⟨owners, _, put⟩ := Holding.exists_putFields_eq fields' found
  rw [put, nextAddress_setCell]

theorem object?_putFields {cls : Class} {fields fields' : Scope}
    (found : store.object? address = some (.instanceOf cls fields)) :
    (store.putFields address fields').object? target =
      if address = target then some (.instanceOf cls fields') else store.object? target := by
  obtain ⟨owners, there, put⟩ := Holding.exists_putFields_eq fields' found
  rw [put, object?, cell?_setCell there]
  split <;> rfl

namespace Turns

variable {change? : Option (Address × FieldChange)}

/-- What was in the store, and what has been created, is as it was but for the change. -/
theorem exists_origin (turns : Turns before change? after) (origin : after.Origin address object) :
    ∃ earlier, before.Origin address earlier ∧
      object = earlier.changedBy address change?.toList := by
  have created {store : Store} (calm : Calm before store) (new : store.nextAddress ≤ address)
      (isNew : object.IsNew address) : before.Origin address object :=
    .inr ⟨Nat.le_trans calm.grows new, isNew⟩
  cases turns with
  | calm calm =>
      refine ⟨object, ?_, rfl⟩
      rcases origin with found | ⟨new, isNew⟩
      · exact calm.origin found
      · exact created calm new isNew
  | @change store _ changed change cls fields calm found calm' =>
      have given := Holding.lt_nextAddress_of_object? (Option.isSome_of_eq_some found)
      have unchanged (new : store.nextAddress ≤ address) (isNew : object.IsNew address) :
          ∃ earlier, before.Origin address earlier ∧
            object = earlier.changedBy address [(changed, change)] :=
        ⟨object, created calm new isNew,
          (Object.changedBy_of_ne (Nat.ne_of_lt (Nat.lt_of_lt_of_le given new))).symm⟩
      have sameNext : (store.putFields changed (change.apply fields)).nextAddress =
          store.nextAddress := nextAddress_putFields found
      rcases origin with later | ⟨new, isNew⟩
      · rcases calm'.origin later with there | ⟨new, isNew⟩
        · rw [object?_putFields found] at there
          split at there
          next same =>
            subst same
            cases there
            exact ⟨_, calm.origin found,
              (Object.changedBy_self (.instanceOf cls fields) changed change).symm⟩
          next other => exact ⟨object, calm.origin there, (Object.changedBy_of_ne other).symm⟩
        · exact unchanged (sameNext ▸ new) isNew
      · exact unchanged (sameNext ▸ Nat.le_trans calm'.grows new) isNew

/-- An owning field is made by setting a field to an owner, and by nothing else. -/
theorem owns {container : Address} (turns : Turns before change? after)
    (owns : after.Owns container target) :
    before.Owns container target ∨
      ∃ name, change? = some (container, .set name (.owner target)) := by
  cases turns with
  | calm calm => exact .inl (calm.ownsNoMore owns)
  | @change store _ changed change cls fields calm found calm' =>
      rcases (calm'.ownsNoMore owns).of_putFields found with there | ⟨rfl, member⟩
      · exact .inl (calm.ownsNoMore there)
      · have kept {name : String} (member : .owner target ∈ (fields.unbind name).handles) :
            before.Owns container target :=
          calm.ownsNoMore ⟨cls, fields, found,
            (fields.perm_handles name).mem_iff.mpr (List.mem_append_right _ member)⟩
        cases change with
        | set name value =>
            rcases List.mem_cons.mp member with same | member
            · exact .inr ⟨name, by rw [same]⟩
            · exact .inl (kept member)
        | delete name => exact .inl (kept member)

end Turns

end Store

end Offside
