import Offside.Proofs.Machine.Returning

/-!
# Operations

An operation of the language has its operands when it begins, and they are held by a frame
below it until it is over.
-/

namespace Offside

namespace Machine

theorem invoke_give (machine : Machine) (value : Handle) (activation : Activation)
    (frames : List Frame) :
    (machine.give value).invoke activation frames = machine.invoke activation frames := by
  have sameFuel : (machine.give value).fuel = machine.fuel := rfl
  rw [invoke, invoke, sameFuel]
  cases machine.fuel <;> rfl

/-- A call does not depend on the value that came last. -/
theorem call_give (machine : Machine) (value receiver : Handle) (name : String)
    (arguments : List Handle) :
    (machine.give value).call receiver name arguments = machine.call receiver name arguments := by
  have sameStore : (machine.give value).store = machine.store := rfl
  rw [call, call, sameStore]
  cases machine.store.getInstance receiver with
  | error error => rfl
  | ok found =>
      simp only [orFail, dispatch]
      split
      · rfl
      · exact invoke_give machine value _ _

end Machine

open Machine

/-- An operation of the language, with its operands. -/
inductive Operation where
  | truth (value : Handle)
  | compare (comparison : Comparison) (left right : Handle)
  /-- Prints to the output of the session. -/
  | print (subject : Handle)
  | render (subject : Handle)
  /-- Prints to an output of its own, limited or not. -/
  | printTo (capacity : Option Nat) (subject : Handle)
  | call (receiver : Handle) (method : String) (arguments : List Handle)

namespace Operation

/-- The operands of an operation. -/
def operands : Operation → List Handle
  | .truth value => [value]
  | .compare _ left right => [left, right]
  | .print subject => [subject]
  | .render subject => [subject]
  | .printTo _ subject => [subject]
  | .call receiver _ arguments => receiver :: arguments

/-- The machine when all operands are there, and the operation is what it does next. -/
def awaiting (operation : Operation) (machine : Machine) : Machine :=
  match operation with
  | .truth value => (machine.give value).push (.unary .truth)
  | .compare comparison left right => (machine.give right).push (.right (.compare comparison) left)
  | .print subject => (machine.give subject).push (.unary .print)
  | .render subject => (machine.give subject).push (.unary .render)
  | .printTo capacity subject =>
      { machine.give subject with stack := [], goal := .print capacity }
  | .call receiver method arguments =>
      match arguments.getLast? with
      | none => (machine.give receiver).push (.receiver method [])
      | some last => (machine.give last).push (.argument receiver method arguments.dropLast [])

/-- The frames that an operation runs above: the one that holds its operands, and those
that wait for its result. -/
def base (operation : Operation) (machine : Machine) : List Frame :=
  match operation with
  | .printTo _ _ => [.release operation.operands]
  | _ => .release operation.operands :: machine.stack

variable {machine : Machine}

theorem store_awaiting (operation : Operation) (machine : Machine) :
    (operation.awaiting machine).store = machine.store := by
  cases operation with
  | call receiver method arguments =>
      rw [awaiting]
      split <;> rfl
  | _ => rfl

/-- When all operands of a call are there, the next step makes the call. -/
theorem step_call (caller : Machine) (receiver : Handle) (name : String)
    (arguments : List Handle) :
    ((call receiver name arguments).awaiting caller).step =
      .running ((caller.push (.release (receiver :: arguments))).call receiver name arguments) := by
  rw [awaiting]
  cases found : arguments.getLast? with
  | none =>
      cases List.getLast?_eq_none_iff.mp found
      exact congrArg Next.running
        (call_give (caller.push (.release [receiver])) receiver receiver name [])
  | some last =>
      obtain ⟨evaluated, rfl⟩ := List.getLast?_eq_some_iff.mp found
      dsimp only
      rw [List.dropLast_concat]
      exact congrArg Next.running
        (call_give (caller.push (.release (receiver :: (evaluated ++ [last])))) last receiver name
          (evaluated ++ [last]))

/-- The operation begins, and its operands are held. -/
theorem exists_started (operation : Operation) (machine : Machine) :
    ∃ started, (operation.awaiting machine).step = .running started ∧
      started.Above (operation.base machine) := by
  have held (machine : Machine) (operands : List Handle) :
      (machine.push (.release operands)).Above (.release operands :: machine.stack) :=
    List.suffix_refl _
  cases operation with
  | truth value => exact ⟨_, rfl, (held (machine.give value) [value]).performUnary value .truth⟩
  | compare comparison left right =>
      exact ⟨_, rfl, (held (machine.give right) [left, right]).performBinary left right
        (.compare comparison)⟩
  | print subject =>
      exact ⟨_, rfl, (held (machine.give subject) [subject]).performUnary subject .print⟩
  | render subject =>
      exact ⟨_, rfl, (held (machine.give subject) [subject]).performUnary subject .render⟩
  | printTo capacity subject => exact ⟨_, rfl, List.suffix_refl _⟩
  | call receiver method arguments => exact ⟨_, step_call .., (held machine _).call ..⟩

/-- An operation that is still to begin is not over. -/
theorem not_returnedTo_awaiting (operation : Operation) (machine : Machine) :
    ¬(operation.awaiting machine).ReturnedTo (operation.base machine) := by
  intro returned
  have same := returned.1
  cases operation with
  | call receiver method arguments =>
      rw [awaiting] at same
      split at same
      · cases same
      · cases same
  | _ => cases same

/-- An operation returns with the first machine that has as many frames as before and an
outcome. -/
theorem returns_of_all (operation : Operation) (machine : Machine) {count : Nat}
    (goesOn : (List.range count).all fun earlier =>
      let later := (operation.awaiting machine).after (earlier + 1)
      !(later.control.isOutcome && later.stack.length == (operation.base machine).length))
    (returned : ((operation.awaiting machine).after (count + 1)).ReturnedTo
      (operation.base machine)) :
    Returns (operation.base machine) (operation.awaiting machine)
      ((operation.awaiting machine).after (count + 1)) := by
  obtain ⟨started, stepped, above⟩ := operation.exists_started machine
  simp only [after_succ stepped] at goesOn returned ⊢
  exact (Reaches.step (operation.not_returnedTo_awaiting machine) stepped (.refl _)).returns
    (above.returns_of_all goesOn returned)

end Operation

end Offside
