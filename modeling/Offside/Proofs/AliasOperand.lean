import Offside.Proofs.Machine.Holding
import Offside.Proofs.Machine.Loosening
import Offside.Proofs.Machine.Operation

/-!
# Aliases as operands

An operation of the language borrows its operands, and whoever asked for it holds them
until it is over. If an object has an owner elsewhere all that time, it makes no difference
whether an operand that refers to it owns it or is an alias.
-/

namespace Offside

open Machine Point

namespace Operation

/-- An operation with loosened operands. -/
def loosen (kept : Address) : Operation → Operation
  | .truth value => .truth (value.loosen kept)
  | .compare comparison left right =>
      .compare comparison (left.loosen kept) (right.loosen kept)
  | .print subject => .print (subject.loosen kept)
  | .render subject => .render (subject.loosen kept)
  | .printTo capacity subject => .printTo capacity (subject.loosen kept)
  | .call receiver method arguments =>
      .call (receiver.loosen kept) method (arguments.map (Handle.loosen kept))

variable {kept : Address} {operation aliased : Operation} {machine : Machine}

end Operation

/-! ## Two courses -/

/-- What two machines have in common that differ only in which handles to an object own
it. -/
structure SameBut (kept : Address) (first second : Machine) : Prop where
  output : first.output = second.output
  classes : first.classes = second.classes
  fuel : first.fuel = second.fuel
  control : first.control.loosen kept = second.control.loosen kept
  scope : first.scope.loosen kept = second.scope.loosen kept
  stack : first.stack.map (Frame.loosen kept) = second.stack.map (Frame.loosen kept)
  goal : first.goal.loosen kept = second.goal.loosen kept
  objects (address : Address) : (first.store.object? address).map (Object.loosen kept) =
    (second.store.object? address).map (Object.loosen kept)

namespace Machine

variable {kept : Address} {first second : Machine} {base base' : List Frame}

theorem Alike.sameBut (alike : first.Alike kept second) : SameBut kept first second where
  output := congrArg (·.output) alike
  classes := congrArg (·.classes) alike
  fuel := congrArg (·.fuel) alike
  control := congrArg (·.control) alike
  scope := congrArg (·.scope) alike
  stack := congrArg (·.stack) alike
  goal := congrArg (·.goal) alike
  objects address := by
    have sameStore : first.store.loosen kept = second.store.loosen kept :=
      congrArg (·.store) alike
    rw [← Store.object?_loosen, ← Store.object?_loosen, sameStore]

theorem isOutcome_loosen (control : Control) :
    (control.loosen kept).isOutcome = control.isOutcome := by
  cases control <;> rfl

/-- Alike machines are back at as many frames together. -/
theorem Alike.returnedTo (alike : first.Alike kept second) (above : second.Above base')
    (sameLength : base.length = base'.length) (returned : first.ReturnedTo base) :
    second.ReturnedTo base' := by
  obtain ⟨atBase, outcome⟩ := returned
  have sameBut := alike.sameBut
  have sameStack := congrArg List.length sameBut.stack
  rw [List.length_map, List.length_map, atBase, sameLength] at sameStack
  constructor
  · exact (above.eq_of_length sameStack).symm
  · have same := congrArg Control.isOutcome sameBut.control
    rw [isOutcome_loosen, isOutcome_loosen] at same
    exact same ▸ outcome

theorem keeps_of_above (sound : Sound (.inside first)) (above : first.Above base)
    (held : .owner kept ∈ base.flatMap Frame.handles) : first.Keeps kept :=
  sound.isSome_iff_owned.mpr (owned_of_above above held)

/-- From its beginning until it is back at the frames, a machine has the object in its
store. -/
def KeepsThroughout (kept : Address) (base : List Frame) (machine : Machine) : Prop :=
  ∀ count, (∀ earlier, earlier < count → ¬(machine.after earlier).ReturnedTo base) →
    (machine.after count).Keeps kept

/-- Two machines come back to frames after the same number of steps, not before, and have
everything in common all the way but which handles to an object own it. -/
structure Together (kept : Address) (base base' : List Frame) (first second : Machine)
    (length : Nat) : Prop where
  firstReturns : (first.after length).ReturnedTo base
  secondReturns : (second.after length).ReturnedTo base'
  notBefore (count : Nat) : count < length →
    ¬(first.after count).ReturnedTo base ∧ ¬(second.after count).ReturnedTo base'
  sameBut (count : Nat) : count ≤ length → SameBut kept (first.after count) (second.after count)

section Course

variable {next next' : Machine}

theorem KeepsThroughout.step (keeps : second.KeepsThroughout kept base')
    (goesOn : ¬second.ReturnedTo base') (stepped : second.step = .running next') :
    next'.KeepsThroughout kept base' := by
  intro count notBefore
  rw [← after_succ stepped]
  apply keeps
  intro earlier before
  cases earlier with
  | zero => exact goesOn
  | succ earlier =>
      rw [after_succ stepped]
      exact notBefore earlier (Nat.lt_of_succ_lt_succ before)

theorem KeepsThroughout.keeps (keeps : second.KeepsThroughout kept base') : second.Keeps kept :=
  keeps 0 fun _ before => absurd before (Nat.not_lt_zero _)

theorem Together.ofStep {length : Nat} (alike : first.Alike kept second)
    (goesOn : ¬first.ReturnedTo base) (goesOn' : ¬second.ReturnedTo base')
    (stepped : first.step = .running next) (stepped' : second.step = .running next')
    (together : Together kept base base' next next' length) :
    Together kept base base' first second (length + 1) where
  firstReturns := by
    rw [after_succ stepped]
    exact together.firstReturns
  secondReturns := by
    rw [after_succ stepped']
    exact together.secondReturns
  notBefore count before := by
    cases count with
    | zero => exact ⟨goesOn, goesOn'⟩
    | succ count =>
        rw [after_succ stepped, after_succ stepped']
        exact together.notBefore count (Nat.lt_of_succ_lt_succ before)
  sameBut count within := by
    cases count with
    | zero => exact alike.sameBut
    | succ count =>
        rw [after_succ stepped, after_succ stepped']
        exact together.sameBut count (Nat.le_of_succ_le_succ within)

/-- Alike machines run an operation together if the first one holds an owner of the object
below it, and the second one keeps the object all the same. -/
theorem Alike.together (alike : first.Alike kept second) (sound : Sound (.inside first))
    (above : first.Above base) (above' : second.Above base')
    (sameLength : base.length = base'.length)
    (held : .owner kept ∈ base.flatMap Frame.handles)
    (keeps : second.KeepsThroughout kept base') :
    ∃ length, Together kept base base' first second length := by
  induction first using wellFounded_lessToDo.induction generalizing second with
  | _ first ih =>
      by_cases returned : first.ReturnedTo base
      · refine ⟨0, returned, alike.returnedTo above' sameLength returned, ?_, ?_⟩
        · exact fun count before => absurd before (Nat.not_lt_zero count)
        · intro count within
          rw [Nat.le_zero.mp within]
          exact alike.sameBut
      · have goesOn' : ¬second.ReturnedTo base' := fun returned' =>
          returned (Alike.returnedTo (Eq.symm alike) above sameLength.symm returned')
        obtain ⟨next, stepped, aboveNext⟩ := above.exists_step returned
        obtain ⟨next', stepped', aboveNext'⟩ := above'.exists_step goesOn'
        have soundNext := sound_of_step sound stepped
        have keepsNext := keeps.step goesOn' stepped'
        have alikeNext := alike.step (keeps_of_above sound above held) keeps.keeps stepped stepped'
          (keeps_of_above soundNext aboveNext held) keepsNext.keeps
        obtain ⟨length, together⟩ := ih next (lessToDo_step stepped) alikeNext soundNext aboveNext
          aboveNext' keepsNext
        exact ⟨length + 1, together.ofStep alike returned goesOn' stepped stepped'⟩

end Course

end Machine

/-! ## Operations on an alias -/

namespace Operation

variable {kept : Address} {operation aliased : Operation} {machine : Machine}

end Operation

end Offside
