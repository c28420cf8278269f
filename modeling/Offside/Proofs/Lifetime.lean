import Offside.Proofs.Machine.Stepping

/-!
# Lifetimes of objects

At every point of a session an object is in the store exactly as long as it is owned:
by a variable or a local, by an operation under way, or by a field of an instance that
is in the store itself. An alias finds its object for just as long, and never comes to
find another one.
-/

namespace Offside.Point

variable {point before after : Point} {address : Address}

/-- An object is owned at a point if an owner of it is held there or is in a field of
an instance in the store. -/
inductive Owned (point : Point) (address : Address) : Prop where
  | held : .owner address ∈ point.held → Owned point address
  | field {container : Address} {cls : Class} {fields : Scope} :
      point.store.object? container = some (.instanceOf cls fields) →
      .owner address ∈ fields.handles → Owned point address

theorem owned_iff :
    point.Owned address ↔
      .owner address ∈ point.held ∨ .owner address ∈ point.store.fieldHandles := by
  constructor
  · intro owned
    cases owned with
    | held member => exact .inl member
    | field found member => exact .inr (Store.mem_fieldHandles_iff.mpr ⟨_, _, found, member⟩)
  · intro owned
    rcases owned with member | inField
    · exact .held member
    · obtain ⟨container, object, found, member⟩ := Store.mem_fieldHandles_iff.mp inField
      cases object with
      | instanceOf cls fields => exact .field found member
      | number | text | bool | classValue => exact (List.not_mem_nil member).elim

/-! ## Every point of a session -/

/-- The owners are counted and everything borrowed is held. -/
structure Sound (point : Point) : Prop where
  counted : point.holding.Sound
  covered : point.Covered

theorem sound_start (output : Output) : Sound (.between (.start output)) where
  counted := by
    constructor
    · constructor
      · intro address
        rfl
      · intro address cell found
        cases found
    · intro handle target member refers
      rcases member with member | member
      · cases member
      · cases member
  covered := trivial

theorem Step.sound (step : Step before after) (sound : before.Sound) : after.Sound := by
  have follows := step.follows sound.covered
  exact ⟨follows.moves.sound sound.counted, follows.covered⟩

theorem Leads.sound (leads : Leads before after) (sound : before.Sound) : after.Sound := by
  induction leads with
  | refl => exact sound
  | tail _ step ih => exact step.sound ih

theorem Leads.continues (leads : Leads before after) (sound : before.Sound) :
    before.store.Continues after.store := by
  induction leads with
  | refl => exact .refl _
  | tail upTo step ih =>
      have covered := (Leads.sound upTo sound).covered
      exact ih.trans (step.follows covered).moves.continues

/-! ## Handles -/

theorem borrowed_subset_of_stackCovered {stack : List Frame} (covered : StackCovered stack) :
    stack.flatMap Frame.borrowed ⊆ stack.flatMap Frame.handles := by
  induction covered with
  | nil => exact List.nil_subset _
  | cons borrowed _ ih =>
      rw [List.flatMap_cons, List.flatMap_cons]
      apply List.append_subset.mpr
      constructor
      · exact List.Subset.trans borrowed (List.subset_append_right _ _)
      · exact List.Subset.trans ih (List.subset_append_right _ _)

theorem borrowed_subset (covered : point.Covered) : point.borrowed ⊆ point.held := by
  cases point with
  | between session => exact List.nil_subset _
  | inside machine =>
      have frames : machine.stack.flatMap Frame.handles ⊆ machine.roots :=
        List.Subset.trans (List.subset_append_right _ _) (List.subset_append_left _ _)
      apply List.append_subset.mpr
      constructor
      · exact List.Subset.trans covered.control frames
      · exact List.Subset.trans (borrowed_subset_of_stackCovered covered.stack) frames

theorem mem_held_or_field (covered : point.Covered) {handle : Handle}
    (member : handle ∈ point.handles) :
    handle ∈ point.held ∨ handle ∈ point.store.fieldHandles := by
  rcases List.mem_append.mp member with here | borrowed
  · exact List.mem_append.mp here
  · exact .inl (borrowed_subset covered borrowed)

namespace Sound

variable (sound : point.Sound) {handle : Handle} {target : Address}
include sound

theorem isSome_iff_owned : (point.store.object? address).isSome ↔ point.Owned address := by
  rw [owned_iff]
  exact sound.counted.isSome_iff

theorem exists_object_of_owned (owned : point.Owned address) :
    ∃ object, point.store.object? address = some object :=
  Option.isSome_iff_exists.mp (sound.isSome_iff_owned.mpr owned)

theorem owned_of_mem (member : .owner address ∈ point.handles) : point.Owned address :=
  owned_iff.mpr (mem_held_or_field sound.covered member)

/-- A handle finds its object as long as that is owned. -/
theorem exists_get_of_owned (refers : handle.target? = some target) (owned : point.Owned target) :
    ∃ object, point.store.get handle = .ok (target, object) ∧
      point.store.resolve handle = .ok (some (target, object)) := by
  obtain ⟨object, found⟩ := sound.exists_object_of_owned owned
  refine ⟨object, ?_, ?_⟩
  · exact Store.get_eq_ok_iff.mpr ⟨refers, found⟩
  · exact Store.resolve_eq_some_iff.mpr ⟨refers, found⟩

theorem get_of_not_owned (refers : handle.target? = some target) (gone : ¬point.Owned target) :
    point.store.get handle = .error .invalidHandle ∧
      point.store.resolve handle = .error .invalidHandle := by
  rw [← sound.isSome_iff_owned, Option.not_isSome_iff_eq_none] at gone
  have resolved : point.store.resolve handle = .error .invalidHandle := by
    simp [Store.resolve, refers, gone]
  constructor
  · rw [Store.get, resolved]
  · exact resolved

/-- What a handle finds later is what it has been finding all along. -/
theorem get_of_get_later {later : Point} {found : Address × Object}
    (member : handle ∈ point.handles) (toAfter : Leads point after) (toLater : Leads after later)
    (foundLater : later.store.get handle = .ok found) :
    ∃ object, after.store.get handle = .ok (found.1, object) ∧
      object.essence = found.2.essence := by
  obtain ⟨refers, there⟩ := Store.get_eq_ok_iff.mp foundLater
  -- The address was given out before, and so no later object can have come to it.
  have given := sound.counted.given (mem_held_or_field sound.covered member) refers
  have givenAfter := Nat.lt_of_lt_of_le given (toAfter.continues sound).grows
  obtain ⟨object, earlier, same⟩ :=
    (Leads.continues toLater (toAfter.sound sound)).keeps givenAfter there
  exact ⟨object, Store.get_eq_ok_iff.mpr ⟨refers, earlier⟩, same⟩

end Sound

/-! ## The whole of it -/

/-- At every point of a session the objects in the store are those that are owned. An
owner finds its object, and an alias does as long as the object is owned; what it finds
at a later point has been there all the time since, and is no later object. -/
theorem lifetime_eq_ownership {output : Output} {later : Point}
    (reached : Leads (.between (.start output)) point) (toAfter : Leads point after)
    (toLater : Leads after later) :
    (∀ address, (point.store.object? address).isSome ↔ point.Owned address) ∧
      (∀ target, .owner target ∈ point.handles →
        ∃ object, point.store.get (.owner target) = .ok (target, object) ∧
          point.store.resolve (.owner target) = .ok (some (target, object))) ∧
      (∀ target, point.Owned target →
        ∃ object, point.store.get (.alias target) = .ok (target, object) ∧
          point.store.resolve (.alias target) = .ok (some (target, object))) ∧
      (∀ target, ¬point.Owned target →
        point.store.get (.alias target) = .error .invalidHandle ∧
          point.store.resolve (.alias target) = .error .invalidHandle) ∧
      ∀ target found, .alias target ∈ point.handles →
        later.store.get (.alias target) = .ok found →
          found.1 = target ∧ target < point.store.nextAddress ∧
            ∃ object, after.store.get (.alias target) = .ok (target, object) ∧
              object.essence = found.2.essence := by
  have sound := reached.sound (sound_start output)
  refine ⟨?_, ?_, ?_, ?_, ?_⟩
  · intro address
    exact sound.isSome_iff_owned
  · intro target member
    exact sound.exists_get_of_owned rfl (sound.owned_of_mem member)
  · intro target owned
    exact sound.exists_get_of_owned rfl owned
  · intro target gone
    exact sound.get_of_not_owned rfl gone
  · intro target found member foundLater
    have same : found.1 = target :=
      (Option.some.inj (Store.get_eq_ok_iff.mp foundLater).1).symm
    have given := sound.counted.given (mem_held_or_field sound.covered member) rfl
    have earlier := sound.get_of_get_later member toAfter toLater foundLater
    rw [same] at earlier
    exact ⟨same, given, earlier⟩

/-- The machine once it has made an alias of a new number and still holds the number. -/
def aliasedNumber : Machine :=
  { Session.start .silent with
    store := Store.allocate {} (.number 7)
    fuel := Session.fuelPerCommand
    control := .give (.alias 0)
    stack := [.release [.owner 0]]
    goal := .inspect .probe }

/-- The number can be found through the alias until the operation lets go of it. -/
theorem lifetime_of_operand :
    Leads (.between (.start .silent)) (.inside aliasedNumber) ∧
      Leads (.inside aliasedNumber) (ofNext aliasedNumber.step) ∧
      (∃ object, aliasedNumber.store.get (.alias 0) = .ok (0, object)) ∧
      (ofNext aliasedNumber.step).store.get (.alias 0) = .error .invalidHandle := by
  have reached : Leads (.between (.start .silent)) (.inside aliasedNumber) :=
    .head (.begin _ (.inspect .probe (.unary .alias (.literal (.number 7)))))
      (.head (.step _) (.head (.step _) (.single (.step _))))
  have toReleased : Leads (.inside aliasedNumber) (ofNext aliasedNumber.step) :=
    .single (.step aliasedNumber)
  obtain ⟨_, _, found, _, _⟩ := lifetime_eq_ownership reached toReleased .refl
  obtain ⟨_, _, _, dangling, _⟩ := lifetime_eq_ownership (reached.trans toReleased) .refl .refl
  have notOwned : ¬(ofNext aliasedNumber.step).Owned 0 := by
    rw [owned_iff]
    rintro (member | inField)
    · exact absurd member (by decide)
    · exact absurd (Holding.fieldHandles_release inField) (by decide)
  have owned : (Point.inside aliasedNumber).Owned 0 := by
    apply Owned.held
    decide
  obtain ⟨object, got, _⟩ := found 0 owned
  exact ⟨reached, toReleased, ⟨object, got⟩, (dangling 0 notOwned).1⟩

end Offside.Point
