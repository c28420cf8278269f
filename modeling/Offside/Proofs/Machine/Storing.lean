import Offside.Proofs.Machine.Changing
import Offside.Proofs.Machine.Point

/-!
# Where owning fields come from

One operation makes an owning field: setting a field to an owner. A new instance, an alias
that is stored or handed to a method, and the end of a call make none.
-/

namespace Offside

namespace Machine

open Store

/-- The machine is about to set a field of the container to an owner of the target. -/
def Stores (machine : Machine) (container target : Address) : Prop :=
  ∃ name left stack, machine.control = .give (.owner target) ∧
    machine.stack = .right (.setField name) left :: stack ∧ left.target? = some container

theorem unary_change?_ne_set {store : Store} {operand value : Handle} {op : UnaryOp}
    {address : Address} {name : String} :
    op.change? store operand ≠ some (address, .set name value) := by
  intro changes
  cases op with
  | deleteField =>
      simp only [UnaryOp.change?] at changes
      split at changes
      · cases changes
      · cases changes
  | _ => cases changes

/-- A field is set by the operation for that. -/
theorem stores_of_change? {machine : Machine} {container target : Address} {name : String}
    (changes : machine.change? = some (container, .set name (.owner target))) :
    machine.Stores container target := by
  unfold change? at changes
  split at changes
  next value frame stack controlled top =>
    cases frame with
    | right op left =>
        cases op with
        | setField =>
            simp only [Frame.change?, BinaryOp.change?] at changes
            split at changes
            next address cls fields found =>
              cases changes
              exact ⟨name, left, stack, controlled, top, target?_of_getInstance found⟩
            next => cases changes
        | _ => cases changes
    | unary op => exact (unary_change?_ne_set changes).elim
    | _ => cases changes
  next => cases changes

/-- A step makes no owning field but by setting a field to an owner. -/
theorem owns_step {machine : Machine} {container target : Address}
    (owns : machine.step.store.Owns container target) :
    machine.store.Owns container target ∨ machine.Stores container target := by
  rcases (turns_step machine).owns owns with before | ⟨name, changes⟩
  · exact .inl before
  · exact .inr (stores_of_change? changes)

end Machine

namespace Point

open Store Machine

/-- At a point inside a command a field is about to be set to an owner. -/
def Stores : Point → Address → Address → Prop
  | .between _, _, _ => False
  | .inside machine, container, target => machine.Stores container target

theorem store_ofNext (next : Next) : (ofNext next).store = next.store := by
  cases next <;> rfl

theorem calm_begin (session : Session) (command : Command) :
    Calm session.store (session.begin command).store := by
  cases command with
  | execute className method locals =>
      cases locals with
      | nil => exact calm_runBody session _ _ _ _
      | cons => exact .refl
  | defineClass name parent methods =>
      cases parent with
      | none => exact .refl
      | some parent =>
          simp only [Session.begin]
          split
          · exact .refl
          · exact .refl
  | _ => exact .refl

/-- No step of a session makes an owning field but by setting a field to an owner. -/
theorem Step.owns {before after : Point} (step : Step before after) {container target : Address}
    (owns : after.store.Owns container target) :
    before.store.Owns container target ∨ before.Stores container target := by
  cases step with
  | begin session command =>
      rw [store_ofNext] at owns
      exact .inl ((calm_begin session command).ownsNoMore owns)
  | step machine =>
      rw [store_ofNext] at owns
      exact owns_step owns

end Point

end Offside
