import Offside.Proofs.Machine.Deciding
import Offside.Proofs.Machine.Emitting

/-!
# Bodies that an operation starts

An operation enters some bodies by itself, and these bodies may enter others in turn. The bodies
of the first kind are set apart here, in the order in which they are entered. A relation between
operands is decided with at most one of them.
-/

namespace Offside.Machine

/-- A machine comes to be another one, and does not return to the frames before. These are the
bodies that are entered on the way by the operation above the frames, and not inside of another
body. -/
inductive Starts (base : List Frame) : Machine → List Activation → Machine → Prop where
  | refl (machine : Machine) : Starts base machine [] machine
  | enters {machine next last : Machine} {activation : Activation}
      {activations : List Activation} :
      machine.control = .enter activation → machine.OverOperation base →
      machine.step = .running next → Starts base next activations last →
      Starts base machine (activation :: activations) last
  | passes {machine next last : Machine} {activations : List Activation} :
      ¬machine.ReturnedTo base →
      (∀ activation, machine.control = .enter activation → machine.InBody base) →
      machine.step = .running next → Starts base next activations last →
      Starts base machine activations last

variable {machine next start middle last last' : Machine} {base frames : List Frame} {goal : Goal}
  {activation : Activation} {activations later : List Activation} {caller : Scope}

/-- Inside of a body there is a frame that no operation has put on the stack. -/
theorem InBody.not_overOperation (inside : machine.InBody base) : ¬machine.OverOperation base := by
  rintro ⟨frames, top, operational⟩
  obtain ⟨caller, upper, ⟨above, whole⟩, _⟩ := inside
  have same : above ++ .leave caller :: upper = frames := by
    rw [← List.append_left_inj base, List.append_assoc, ← top, ← whole]
    rfl
  have member : .leave caller ∈ frames :=
    same ▸ List.mem_append_right above List.mem_cons_self
  cases operational _ member

namespace Starts

/-- A step that enters nothing can go first. -/
theorem quiet (goesOn : ¬machine.ReturnedTo base) (stepped : machine.step = .running next)
    (nothing : ∀ activation, machine.control ≠ .enter activation)
    (starts : Starts base next activations last) : Starts base machine activations last :=
  .passes goesOn (fun activation entered => (nothing activation entered).elim) stepped starts

theorem reaches (starts : Starts base start activations last) : Reaches base start last := by
  induction starts with
  | refl => exact .refl _
  | enters entered _ stepped _ ih =>
      exact .step (not_returnedTo_of_control (by rw [entered]; rfl)) stepped ih
  | passes goesOn _ stepped _ ih => exact .step goesOn stepped ih

theorem trans (first : Starts base start activations middle)
    (second : Starts base middle later last) : Starts base start (activations ++ later) last := by
  induction first with
  | refl => exact second
  | enters entered upon stepped _ ih => exact .enters entered upon stepped (ih second)
  | passes goesOn inside stepped _ ih => exact .passes goesOn inside stepped (ih second)

/-- What an operation starts until it is over is one list. -/
theorem unique (starts : Starts base start activations last) (returned : last.ReturnedTo base)
    (starts' : Starts base start later last') (returned' : last'.ReturnedTo base) :
    activations = later ∧ last = last' := by
  induction starts generalizing later with
  | refl machine =>
      cases starts' with
      | refl => exact ⟨rfl, rfl⟩
      | enters entered =>
          exact (not_returnedTo_of_control (by rw [entered]; rfl) returned).elim
      | passes goesOn => exact (goesOn returned).elim
  | @enters machine next last activation activations entered upon stepped _ ih =>
      cases starts' with
      | refl => exact (not_returnedTo_of_control (by rw [entered]; rfl) returned').elim
      | enters entered' _ stepped' starts' =>
          cases entered.symm.trans entered'
          cases stepped.symm.trans stepped'
          obtain ⟨rfl, rfl⟩ := ih returned starts'
          exact ⟨rfl, rfl⟩
      | passes _ inside => exact ((inside _ entered).not_overOperation upon).elim
  | @passes machine next last activations goesOn inside stepped _ ih =>
      cases starts' with
      | refl => exact (goesOn returned').elim
      | enters entered upon => exact ((inside _ entered).not_overOperation upon).elim
      | passes _ _ stepped' starts' =>
          cases stepped.symm.trans stepped'
          exact ih returned starts'

end Starts

/-! ## A body over frames -/

section Body

variable (operational : ∀ frame ∈ frames, frame.isOperational) (more : frames ≠ [])
include operational more

/-- Whatever a body enters until it returns is entered inside of it. -/
theorem Reaches.starts_nothing (reaches : Reaches [] start last)
    (above : start.Above [.leave caller]) (returned : last.ReturnedTo []) :
    Starts base (start.onto (frames ++ base) goal) [] (last.onto (frames ++ base) goal) := by
  induction reaches with
  | refl => exact .refl _
  | @step machine next last goesOn stepped reaches ih =>
      have inside : (machine.onto (frames ++ base) goal).InBody base := by
        obtain ⟨upper, whole⟩ := above
        refine ⟨caller, frames, ⟨upper, ?_⟩, operational⟩
        rw [Machine.onto, ← whole, List.append_assoc]
        rfl
      refine .passes (not_returnedTo_onto_append more) (fun _ _ => inside)
        (step_onto stepped goesOn _ goal) ?_
      by_cases leaving : machine.ReturnedTo [.leave caller]
      · -- The frame of the body is taken away, and that is the return.
        have left := returnedTo_of_leaving leaving stepped
        cases Returns.unique ⟨.refl next, left⟩ ⟨reaches, returned⟩
        exact .refl _
      · obtain ⟨next', stepped', aboveNext⟩ := above.exists_step leaving
        rw [stepped] at stepped'
        cases stepped'
        exact ih aboveNext returned

/-- A body that an operation enters is all that it starts until the body returns. -/
theorem Returns.starts (returns : Returns [] start last)
    (entering : start.control = .enter activation) (bottom : start.stack = []) :
    Starts base (start.onto (frames ++ base) goal) [activation]
      (last.onto (frames ++ base) goal) := by
  obtain ⟨reaches, returned⟩ := returns
  cases reaches with
  | refl => exact (not_returnedTo_of_control (by rw [entering]; rfl) returned).elim
  | @step _ next _ goesOn stepped reaches =>
      have entered : next.stack = [.leave start.scope] := by
        simp only [step, entering] at stepped
        cases stepped
        rw [enter, bottom]
      have above : next.Above [.leave start.scope] := ⟨[], entered.symm⟩
      have upon : (start.onto (frames ++ base) goal).OverOperation base := by
        refine ⟨frames, ?_, operational⟩
        rw [onto, bottom, List.nil_append]
      exact .enters entering upon (step_onto stepped goesOn _ goal)
        (reaches.starts_nothing operational more above returned)

end Body

/-! ## Relations -/

section Relations

variable {relation : Relation} {left right : Handle} {comparison : Comparison}
  {result : Except EvalError Bool}

/-- The body that is run to decide a relation between two operands, if one is. -/
def asks (machine : Machine) (relation : Relation) (left right : Handle) : List Activation :=
  match machine.store.verdict relation left right, machine.fuel with
  | .ok (.ask receiver cls _), _ + 1 =>
      (cls.methodTaking? relation.method 1).toList.map fun method =>
        .ofCall receiver method [right]
  | _, _ => []

theorem asks_of_decidesBy {receiver : Address} {method : Method} {held : List Handle}
    (asked : machine.store.DecidesBy relation left right receiver method held)
    (some : 0 < machine.fuel) :
    machine.asks relation left right = [.ofCall receiver method [right]] := by
  obtain ⟨fuel, more⟩ := Nat.exists_eq_succ_of_ne_zero (Nat.ne_of_gt some)
  obtain ⟨cls, asked, taking⟩ := asked
  simp only [asks, asked, more, taking]
  rfl

theorem asks_of_exhausted (none : machine.fuel = 0) : machine.asks relation left right = [] := by
  unfold asks
  split
  next enough => cases none.symm.trans enough
  next => rfl

theorem toCompare_ne_enter (activation : Activation) :
    (machine.toCompare comparison relation left right base goal).control ≠ .enter activation :=
  nofun

/-- When a relation is decided, the comparison starts the body that it asks, and no other. -/
theorem Decides.starts (decides : Decides machine relation left right result last)
    (comparison : Comparison) (base : List Frame) (goal : Goal) :
    Starts base (machine.toCompare comparison relation left right base goal)
      (machine.asks relation left right)
      (last.decided comparison relation left right result base goal) := by
  have goesOn : ¬(machine.toCompare comparison relation left right base goal).ReturnedTo base :=
    not_returnedTo_of_control rfl
  have body {receiver : Address} {method : Method} {held : List Handle} {returned : Machine}
      (asked : machine.store.DecidesBy relation left right receiver method held)
      (some : 0 < machine.fuel)
      (returns : Returns [] (machine.consulted receiver method right held) returned)
      (stepped : (returned.onto (.judge comparison relation left right held :: base) goal).step =
        .running (last.decided comparison relation left right result base goal)) :
      Starts base (machine.toCompare comparison relation left right base goal)
        (machine.asks relation left right)
        (last.decided comparison relation left right result base goal) := by
    have waits := returns.onto_judge comparison relation left base goal
    have top := waits.returned.1
    have quiet (activation : Activation) :
        (returned.onto (.judge comparison relation left right held :: base) goal).control ≠
          .enter activation := by
      intro entered
      have busy := waits.returned.2
      rw [entered] at busy
      cases busy
    have judged : Starts base
        ((machine.consulted receiver method right held).onto
          ([.judge comparison relation left right held] ++ base) goal)
        [.ofCall receiver method [right]]
        (returned.onto ([.judge comparison relation left right held] ++ base) goal) :=
      returns.starts (List.forall_mem_singleton.mpr rfl) (List.cons_ne_nil _ _) rfl rfl
    have whole := judged.trans
      (.quiet (not_returnedTo_of_judge top) stepped quiet (.refl _))
    rw [asks_of_decidesBy asked some]
    exact .quiet goesOn (step_toCompare_ask asked some) toCompare_ne_enter whole
  cases decides with
  | refused refused =>
      have nothing : machine.asks relation left right = [] := by rw [asks, refused]
      rw [nothing]
      exact .quiet goesOn (step_toCompare_error refused) toCompare_ne_enter (.refl _)
  | byValue byValue =>
      have nothing : machine.asks relation left right = [] := by rw [asks, byValue]
      rw [nothing]
      exact .quiet goesOn (step_toCompare_decided byValue) toCompare_ne_enter (.refl _)
  | exhausted asked none =>
      rw [asks_of_exhausted none]
      exact .quiet goesOn (step_toCompare_exhausted asked none) toCompare_ne_enter (.refl _)
  | failed asked some returns controlled =>
      have top := (returns.onto_judge comparison relation left base goal).returned.1
      exact body asked some returns (step_of_judge_fail top controlled)
  | judged asked some returns controlled =>
      have top := (returns.onto_judge comparison relation left base goal).returned.1
      exact body asked some returns (step_of_judge_give top controlled)

end Relations

end Offside.Machine
