import Offside.Proofs.Lifetime
import Offside.Proofs.Machine.Course

/-!
# What frames hold

The points that a machine passes are points of its session. An object with an owner in a
frame is in the store for as long as the frame is on the stack.
-/

namespace Offside.Machine

open Point

variable {machine next : Machine} {base : List Frame}

theorem leads_after (machine : Machine) (count : Nat) :
    Leads (.inside machine) (.inside (machine.after count)) := by
  induction count generalizing machine with
  | zero => exact .refl
  | succ count ih =>
      have step := Step.step machine
      rw [after]
      cases stepped : machine.step with
      | halted result session => exact .refl
      | running next =>
          rw [stepped] at step
          exact .head step (ih next)

theorem leads_of_step (stepped : machine.step = .running next) :
    Leads (.inside machine) (.inside next) := by
  have step := Step.step machine
  rw [stepped] at step
  exact .single step

theorem sound_of_step (sound : Sound (.inside machine)) (stepped : machine.step = .running next) :
    Sound (.inside next) :=
  (leads_of_step stepped).sound sound

/-- What a frame below holds is owned. -/
theorem owned_of_above {kept : Address} (above : machine.Above base)
    (held : .owner kept ∈ base.flatMap Frame.handles) : Owned (.inside machine) kept := by
  obtain ⟨frames, whole⟩ := above
  have inStack : .owner kept ∈ machine.stack.flatMap Frame.handles := by
    rw [← whole, List.flatMap_append]
    exact List.mem_append_right _ held
  exact .held (List.mem_append_left _ (List.mem_append_right _ inStack))

end Offside.Machine
