import Mathlib.Data.Fintype.EquivFin
import Mathlib.Logic.Relation
import Offside.Proofs.Store.Moves

/-!
# Owning fields

An instance owns objects through its fields, and these may own others in turn. Aliases in
fields do not count. Whatever the store does, it makes an owning field only by taking an
owner into the fields of an instance; a new instance owns nothing.
-/

namespace Offside.Store

/-- An instance owns what an owner in one of its fields refers to. -/
def Owns (store : Store) (container target : Address) : Prop :=
  ∃ cls fields, store.object? container = some (.instanceOf cls fields) ∧
    .owner target ∈ fields.handles

/-- An object is reached from another one along owning fields. -/
abbrev Reaches (store : Store) : Address → Address → Prop :=
  Relation.ReflTransGen store.Owns

/-- An instance that is reached from itself along at least one owning field. -/
def OnCycle (store : Store) (address : Address) : Prop :=
  Relation.TransGen store.Owns address address

/-- Every owning field of the later store was there in the earlier one. -/
def OwnsNoMore (before after : Store) : Prop :=
  ∀ ⦃container target⦄, after.Owns container target → before.Owns container target

variable {before between after store : Store} {address container target : Address}
variable {object : Object} {cls : Class} {fields fields' : Scope} {handles : List Handle}

theorem owns_iff :
    store.Owns container target ↔
      ∃ object, store.object? container = some object ∧ .owner target ∈ object.handles := by
  constructor
  · rintro ⟨cls, fields, found, member⟩
    exact ⟨_, found, member⟩
  · rintro ⟨object, found, member⟩
    cases object with
    | instanceOf cls fields => exact ⟨cls, fields, found, member⟩
    | number | text | bool | classValue => exact (List.not_mem_nil member).elim

theorem Owns.lt_nextAddress (owns : store.Owns container target) :
    container < store.nextAddress := by
  obtain ⟨object, found, _⟩ := owns_iff.mp owns
  exact Holding.lt_nextAddress_of_object? (Option.isSome_of_eq_some found)

namespace OwnsNoMore

theorem refl (store : Store) : OwnsNoMore store store :=
  fun _ _ owns => owns

theorem trans (first : OwnsNoMore before between) (second : OwnsNoMore between after) :
    OwnsNoMore before after :=
  fun _ _ owns => first (second owns)

theorem of_objects (objects : ∀ address object, after.object? address = some object →
    before.object? address = some object) : OwnsNoMore before after := by
  intro container target owns
  obtain ⟨object, found, member⟩ := owns_iff.mp owns
  exact owns_iff.mpr ⟨object, objects container object found, member⟩

theorem retain (store : Store) (handles : List Handle) :
    OwnsNoMore store (store.retain handles) := by
  apply of_objects
  intro address object found
  rwa [object?_retain] at found

theorem release (store : Store) (handles : List Handle) :
    OwnsNoMore store (store.release handles) := by
  apply of_objects
  intro address object found
  exact object?_of_dropOwners found

/-- A new object that owns nothing adds no owning field. -/
theorem allocate (ownsNothing : ∀ target, .owner target ∉ object.handles) :
    OwnsNoMore store (store.allocate object) := by
  intro container target owns
  obtain ⟨other, found, member⟩ := owns_iff.mp owns
  rw [object?, cell?_allocate] at found
  split at found
  next =>
    cases found
    exact absurd member (ownsNothing target)
  next => exact owns_iff.mpr ⟨other, found, member⟩

theorem allocateInstance (store : Store) (cls : Class) :
    OwnsNoMore store (store.allocateInstance cls) := by
  apply allocate
  intro target member
  cases List.mem_singleton.mp member

end OwnsNoMore

/-- An instance whose fields are replaced owns what its new fields do. -/
theorem Owns.of_putFields (found : store.object? address = some (.instanceOf cls fields))
    (owns : (store.putFields address fields').Owns container target) :
    store.Owns container target ∨ container = address ∧ .owner target ∈ fields'.handles := by
  obtain ⟨owners, there, put⟩ := Holding.exists_putFields_eq fields' found
  obtain ⟨object, later, member⟩ := owns_iff.mp owns
  rw [put, object?, cell?_setCell there] at later
  split at later
  next same =>
    cases later
    exact .inr ⟨same.symm, member⟩
  next => exact .inl (owns_iff.mpr ⟨object, later, member⟩)

/-! ## Cycles -/

theorem OwnsNoMore.onCycle (noMore : OwnsNoMore before after) (cycle : after.OnCycle address) :
    before.OnCycle address :=
  Relation.TransGen.mono noMore _ _ cycle

/-- No instance is on a cycle before it is created. -/
theorem not_onCycle_nextAddress (store : Store) : ¬store.OnCycle store.nextAddress := by
  intro cycle
  obtain ⟨target, owns, _⟩ := Relation.TransGen.head'_iff.mp cycle
  exact Nat.lt_irrefl _ owns.lt_nextAddress

/-- Among finitely many objects, each owned by another of them, every one is reached from
a cycle. -/
theorem exists_onCycle_of_owned (lost : Address → Prop)
    (bounded : ∀ address, lost address → address < store.nextAddress)
    (owned : ∀ address, lost address → ∃ container, lost container ∧ store.Owns container address)
    (isLost : lost address) :
    ∃ container, store.OnCycle container ∧ store.Reaches container address := by
  let Above := { container // lost container ∧ store.Reaches container address }
  have : Finite Above :=
    Finite.of_injective (fun above : Above => Fin.mk above.1 (bounded _ above.2.1))
      fun first second same => Subtype.ext (Fin.mk.inj same)
  by_contra acyclic
  -- Without a cycle, going up from owner to owner among these objects would come to an end.
  let Over (first second : Above) : Prop := Relation.TransGen store.Owns first.1 second.1
  have : IsTrans Above Over := ⟨fun _ _ _ first second => Relation.TransGen.trans first second⟩
  have : Std.Irrefl Over := ⟨fun above cycle => acyclic ⟨above.1, cycle, above.2.2⟩⟩
  have wellFounded := Finite.wellFounded_of_trans_of_irrefl Over
  have none (above : Above) : False := by
    induction above using wellFounded.induction with
    | _ above ih =>
        obtain ⟨container, lostToo, owns⟩ := owned above.1 above.2.1
        exact ih ⟨container, lostToo, .head owns above.2.2⟩ (.single owns)
  exact none ⟨address, isLost, .refl⟩

end Offside.Store
