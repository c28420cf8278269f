import Offside.Comparing
import Offside.Rendering

/-!
# Methods that answer for an instance

A comparison and a rendering ask the class of an instance whether it has the method that they
need, and then call that method by its name, which looks it up once more. Both looks are at
the same class, so the call finds the method that was there when the class was asked.
-/

namespace Offside.Store

/-- A relation between two handles is decided by this method of the receiver. Meanwhile the
handles are held. -/
def DecidesBy (store : Store) (relation : Relation) (left right : Handle) (receiver : Address)
    (method : Method) (held : List Handle) : Prop :=
  ∃ cls, store.verdict relation left right = .ok (.ask receiver cls held) ∧
    cls.methodTaking? relation.method 1 = some method

/-- A handle is rendered by this method of the receiver. -/
def RendersBy (store : Store) (subject : Handle) (receiver : Address) (method : Method) : Prop :=
  ∃ cls, store.rendering subject = .ok (.ask receiver cls) ∧
    cls.methodTaking? renderMethod 0 = some method

variable {store : Store} {relation : Relation} {left right subject : Handle}
  {receiver receiver' : Address} {method method' : Method} {held held' : List Handle}
  {cls : Class} {error : EvalError}

/-! ## Relations -/

theorem verdict_of_hasMethod {fields : Scope} {rightFound : Option (Address × Object)}
    (leftThere : store.resolve left = .ok (some (receiver, .instanceOf cls fields)))
    (rightThere : store.resolve right = .ok rightFound) (has : cls.hasMethod relation.method 1) :
    store.verdict relation left right =
      .ok (.ask receiver cls [.owner receiver, holdOf rightFound]) := by
  rw [verdict_of_resolve leftThere rightThere, override?, if_pos has]
  rfl

/-- Whoever is called to decide has a method for it. -/
theorem exists_decidesBy
    (asked : store.verdict relation left right = .ok (.ask receiver cls held)) :
    ∃ method, store.DecidesBy relation left right receiver method held := by
  obtain ⟨fields, found, _, _, has, _⟩ := verdict_eq_ask asked
  obtain ⟨method, taking⟩ := Class.hasMethod_iff.mp has
  exact ⟨method, cls, asked, taking⟩

theorem decidesBy_iff :
    store.DecidesBy relation left right receiver method held ↔ ∃ cls fields rightFound,
      store.resolve left = .ok (some (receiver, .instanceOf cls fields)) ∧
        store.resolve right = .ok rightFound ∧
        cls.methodTaking? relation.method 1 = some method ∧
        held = [.owner receiver, holdOf rightFound] := by
  constructor
  · rintro ⟨cls, asked, taking⟩
    obtain ⟨fields, rightFound, leftThere, rightThere, _, same⟩ := verdict_eq_ask asked
    exact ⟨cls, fields, rightFound, leftThere, rightThere, taking, same⟩
  · rintro ⟨cls, fields, rightFound, leftThere, rightThere, taking, rfl⟩
    have has : cls.hasMethod relation.method 1 := Class.hasMethod_iff.mpr ⟨method, taking⟩
    exact ⟨cls, verdict_of_hasMethod leftThere rightThere has, taking⟩

theorem DecidesBy.unique (decides : store.DecidesBy relation left right receiver method held)
    (decides' : store.DecidesBy relation left right receiver' method' held') :
    receiver = receiver' ∧ method = method' ∧ held = held' := by
  obtain ⟨cls, asked, taking⟩ := decides
  obtain ⟨cls', asked', taking'⟩ := decides'
  cases asked.symm.trans asked'
  cases taking.symm.trans taking'
  exact ⟨rfl, rfl, rfl⟩

theorem DecidesBy.verdict_ne_error
    (decides : store.DecidesBy relation left right receiver method held) :
    store.verdict relation left right ≠ .error error := by
  intro refused
  obtain ⟨cls, asked, _⟩ := decides
  cases asked.symm.trans refused

theorem DecidesBy.verdict_ne_decided {holds : Bool}
    (decides : store.DecidesBy relation left right receiver method held) :
    store.verdict relation left right ≠ .ok (.decided holds) := by
  intro byValue
  obtain ⟨cls, asked, _⟩ := decides
  cases asked.symm.trans byValue

/-! ## Renderings -/

theorem rendering_of_hasMethod {fields : Scope}
    (there : store.resolve subject = .ok (some (receiver, .instanceOf cls fields)))
    (has : cls.hasMethod renderMethod 0) :
    store.rendering subject = .ok (.ask receiver cls) := by
  simp only [rendering, there, Object.rendering, has, if_true]

/-- Whoever is called for a rendering has a method for it. -/
theorem exists_rendersBy (asked : store.rendering subject = .ok (.ask receiver cls)) :
    ∃ method, store.RendersBy subject receiver method := by
  obtain ⟨fields, _, has⟩ := rendering_eq_ask asked
  obtain ⟨method, taking⟩ := Class.hasMethod_iff.mp has
  exact ⟨method, cls, asked, taking⟩

theorem rendersBy_iff :
    store.RendersBy subject receiver method ↔ ∃ cls fields,
      store.resolve subject = .ok (some (receiver, .instanceOf cls fields)) ∧
        cls.methodTaking? renderMethod 0 = some method := by
  constructor
  · rintro ⟨cls, asked, taking⟩
    obtain ⟨fields, there, _⟩ := rendering_eq_ask asked
    exact ⟨cls, fields, there, taking⟩
  · rintro ⟨cls, fields, there, taking⟩
    have has : cls.hasMethod renderMethod 0 := Class.hasMethod_iff.mpr ⟨method, taking⟩
    exact ⟨cls, rendering_of_hasMethod there has, taking⟩

theorem RendersBy.unique (renders : store.RendersBy subject receiver method)
    (renders' : store.RendersBy subject receiver' method') :
    receiver = receiver' ∧ method = method' := by
  obtain ⟨cls, asked, taking⟩ := renders
  obtain ⟨cls', asked', taking'⟩ := renders'
  cases asked.symm.trans asked'
  cases taking.symm.trans taking'
  exact ⟨rfl, rfl⟩

theorem RendersBy.rendering_ne_error (renders : store.RendersBy subject receiver method) :
    store.rendering subject ≠ .error error := by
  intro refused
  obtain ⟨cls, asked, _⟩ := renders
  cases asked.symm.trans refused

theorem RendersBy.rendering_ne_text {pieces : List String}
    (renders : store.RendersBy subject receiver method) :
    store.rendering subject ≠ .ok (.text pieces) := by
  intro rendered
  obtain ⟨cls, asked, _⟩ := renders
  cases asked.symm.trans rendered

end Offside.Store
