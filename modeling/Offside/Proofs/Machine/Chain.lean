import Offside.Proofs.Machine.Emitting
import Offside.Proofs.Machine.Refusing
import Offside.Proofs.Store.Dropping

/-!
# Chains of renderings

An instance with a method for it is rendered as the result of that method is, which may be
such an instance again. So a rendering follows a chain of values. The chain ends at the first
value with a text of its own, or where a value cannot be followed, or where a body fails; all
receivers and values on the way are held until the rendering is over.
-/

namespace Offside.Machine

/-- The machine about to enter the body by which a receiver is rendered, with nothing below
it. The receiver is held besides its locals. -/
def asked (machine : Machine) (receiver : Address) (method : Method) : Machine :=
  { machine.retain ((method.locals receiver []).handles ++ [.owner receiver]) with
    fuel := machine.fuel - 1
    control := .enter (.ofCall receiver method [])
    stack := [] }

/-- Following the chain of a subject comes to a result. The machine at the beginning stands
for the session and the fuel that the rendering begins with, the last one for those at the
end of the chain, with the handles in the order in which they are released then. -/
inductive Chain : Machine → Handle → List Handle → Except EvalError String → Machine → Prop where
  | text {machine : Machine} {subject : Handle} {pieces : List String} :
      machine.store.rendering subject = .ok (.text pieces) →
      Chain machine subject [] (.ok (String.join pieces)) machine
  | dangling {machine : Machine} {subject : Handle} {error : EvalError} :
      machine.store.rendering subject = .error error →
      Chain machine subject [] (.error error) machine
  | exhausted {machine : Machine} {subject : Handle} {receiver : Address} {method : Method} :
      machine.store.RendersBy subject receiver method → machine.fuel = 0 →
      Chain machine subject [] (.error .outOfFuel) machine
  | failed {machine last : Machine} {subject : Handle} {receiver : Address} {method : Method}
      {error : EvalError} :
      machine.store.RendersBy subject receiver method → 0 < machine.fuel →
      Returns [] (machine.asked receiver method) last → last.control = .fail error →
      Chain machine subject [.owner receiver] (.error error) last
  | link {machine returned last : Machine} {subject next : Handle} {receiver : Address}
      {method : Method} {held : List Handle} {result : Except EvalError String} :
      machine.store.RendersBy subject receiver method → 0 < machine.fuel →
      Returns [] (machine.asked receiver method) returned → returned.control = .give next →
      Chain returned next held result last →
      Chain machine subject (held ++ [next, .owner receiver]) result last

variable {machine last : Machine} {subject : Handle} {held : List Handle}
  {result : Except EvalError String}

/-- Every chain comes to an end. -/
theorem exists_chain (machine : Machine) (subject : Handle) :
    ∃ held result last, Chain machine subject held result last := by
  induction fuel : machine.fuel using Nat.strongRecOn generalizing machine subject with
  | ind bound ih =>
  cases rendered : machine.store.rendering subject with
  | error error => exact ⟨_, _, _, .dangling rendered⟩
  | ok rendering =>
      cases rendering with
      | text pieces => exact ⟨_, _, _, .text rendered⟩
      | ask receiver cls =>
          obtain ⟨method, rendered⟩ := Store.exists_rendersBy rendered
          rcases Nat.eq_zero_or_pos machine.fuel with none | some
          · exact ⟨_, _, _, .exhausted rendered none⟩
          have above : (machine.asked receiver method).Above [] := List.nil_suffix
          obtain ⟨returned, returns⟩ := above.exists_returns
          rcases Control.eq_give_or_fail returns.returned.2 with
            ⟨next, controlled⟩ | ⟨error, controlled⟩
          · have less : returned.fuel < bound := by
              have within : returned.fuel ≤ machine.fuel - 1 := returns.reaches.fuel_le
              omega
            obtain ⟨held, result, last, chain⟩ := ih returned.fuel less returned next rfl
            exact ⟨_, _, _, .link rendered some returns controlled chain⟩
          · exact ⟨_, _, _, .failed rendered some returns controlled⟩

/-- There is one way to follow a chain. -/
theorem Chain.unique {held' : List Handle} {result' : Except EvalError String} {last' : Machine}
    (chain : Chain machine subject held result last)
    (chain' : Chain machine subject held' result' last') :
    held = held' ∧ result = result' ∧ last = last' := by
  induction chain generalizing held' result' last' with
  | text rendered =>
      cases chain' with
      | text rendered' =>
          cases rendered.symm.trans rendered'
          exact ⟨rfl, rfl, rfl⟩
      | dangling rendered' => cases rendered.symm.trans rendered'
      | exhausted asked' | failed asked' | link asked' =>
          exact (asked'.rendering_ne_text rendered).elim
  | dangling rendered =>
      cases chain' with
      | dangling rendered' =>
          cases rendered.symm.trans rendered'
          exact ⟨rfl, rfl, rfl⟩
      | text rendered' => cases rendered.symm.trans rendered'
      | exhausted asked' | failed asked' | link asked' =>
          exact (asked'.rendering_ne_error rendered).elim
  | exhausted asked none =>
      cases chain' with
      | text rendered' => exact (asked.rendering_ne_text rendered').elim
      | dangling rendered' => exact (asked.rendering_ne_error rendered').elim
      | exhausted => exact ⟨rfl, rfl, rfl⟩
      | failed _ some | link _ some => exact absurd none (Nat.ne_of_gt some)
  | failed asked some returns controlled =>
      cases chain' with
      | text rendered' => exact (asked.rendering_ne_text rendered').elim
      | dangling rendered' => exact (asked.rendering_ne_error rendered').elim
      | exhausted _ none => exact absurd none (Nat.ne_of_gt some)
      | failed asked' _ returns' controlled' =>
          obtain ⟨rfl, rfl⟩ := asked.unique asked'
          cases returns.unique returns'
          cases controlled.symm.trans controlled'
          exact ⟨rfl, rfl, rfl⟩
      | link asked' _ returns' controlled' =>
          obtain ⟨rfl, rfl⟩ := asked.unique asked'
          cases returns.unique returns'
          cases controlled.symm.trans controlled'
  | link asked some returns controlled _ ih =>
      cases chain' with
      | text rendered' => exact (asked.rendering_ne_text rendered').elim
      | dangling rendered' => exact (asked.rendering_ne_error rendered').elim
      | exhausted _ none => exact absurd none (Nat.ne_of_gt some)
      | failed asked' _ returns' controlled' =>
          obtain ⟨rfl, rfl⟩ := asked.unique asked'
          cases returns.unique returns'
          cases controlled.symm.trans controlled'
      | link asked' _ returns' controlled' further' =>
          obtain ⟨rfl, rfl⟩ := asked.unique asked'
          cases returns.unique returns'
          cases controlled.symm.trans controlled'
          obtain ⟨sameHeld, rest⟩ := ih further'
          exact ⟨congrArg (· ++ _) sameHeld, rest⟩

/-! ## The way down -/

/-- The machine that is to render a subject over frames. -/
def toRender (machine : Machine) (purpose : Purpose) (subject : Handle) (base : List Frame)
    (goal : Goal) : Machine :=
  { machine with control := .render purpose subject, stack := base, goal }

/-- The frames that hold the handles of a chain. -/
def holders (held : List Handle) : List Frame :=
  held.map fun handle => .release [handle]

theorem holders_append_append (held later : List Handle) (base : List Frame) :
    holders (held ++ later) ++ base = holders held ++ (holders later ++ base) := by
  rw [holders, List.map_append, List.append_assoc]
  rfl

theorem flatMap_handles_holders (held : List Handle) :
    (holders held).flatMap Frame.handles = held := by
  rw [holders, List.flatMap_map]
  exact List.flatMap_singleton' held

/-- The machine when the chain has come to its result, over frames. -/
def chainEnd (last : Machine) (purpose : Purpose) (result : Except EvalError String)
    (base : List Frame) (goal : Goal) : Machine :=
  let machine := { last with stack := base, goal }
  machine.orFail result fun text => machine.finishRendering [text] purpose

theorem chainEnd_output (last : Machine) (text : String) (base : List Frame) (goal : Goal) :
    last.chainEnd .output (.ok text) base goal =
      { last with
        output := last.output.write text.toUTF8
        control := if last.output.fits text.toUTF8.size then .give .empty else .fail .outputFailed
        stack := base
        goal } := by
  simp only [chainEnd, orFail, finishRendering, Output.join_singleton]
  split <;> rfl

theorem chainEnd_own (last : Machine) (text : String) (base : List Frame) (goal : Goal) :
    last.chainEnd .own (.ok text) base goal =
      { last with
        own := last.own.write text.toUTF8
        control := if last.own.fits text.toUTF8.size then .give .empty else .fail .outputFailed
        stack := base
        goal } := by
  simp only [chainEnd, orFail, finishRendering, Output.writePieces_eq, Output.join_singleton]
  split <;> rfl

/-- A text that is written makes no object. -/
theorem store_chainEnd_of_ne_value {purpose : Purpose} (written : purpose ≠ .value)
    (last : Machine) (text : String) (base : List Frame) (goal : Goal) :
    (last.chainEnd purpose (.ok text) base goal).store = last.store ∧
      (last.chainEnd purpose (.ok text) base goal).stack = base := by
  cases purpose with
  | value => exact absurd rfl written
  | output =>
      rw [chainEnd_output]
      exact ⟨rfl, rfl⟩
  | own =>
      rw [chainEnd_own]
      exact ⟨rfl, rfl⟩

theorem step_toRender {purpose : Purpose} {base : List Frame} {goal : Goal} :
    (machine.toRender purpose subject base goal).step =
      .running ((machine.toRender purpose subject base goal).orFail
        (machine.store.rendering subject) fun
          | .text pieces =>
              (machine.toRender purpose subject base goal).finishRendering pieces purpose
          | .ask receiver cls =>
              (machine.toRender purpose subject base goal).dispatch receiver cls renderMethod []
                [.render purpose, .release [.owner receiver]]) :=
  rfl

theorem step_toRender_text {pieces : List String}
    (rendered : machine.store.rendering subject = .ok (.text pieces)) (purpose : Purpose)
    (base : List Frame) (goal : Goal) :
    (machine.toRender purpose subject base goal).step =
      .running (machine.chainEnd purpose (.ok (String.join pieces)) base goal) := by
  rw [step_toRender, rendered, chainEnd]
  simp only [orFail, finishRendering_join]
  rfl

theorem step_toRender_error {error : EvalError}
    (rendered : machine.store.rendering subject = .error error) (purpose : Purpose)
    (base : List Frame) (goal : Goal) :
    (machine.toRender purpose subject base goal).step =
      .running (machine.chainEnd purpose (.error error) base goal) := by
  rw [step_toRender, rendered]
  rfl

section Asking

variable {receiver : Address} {method : Method}

theorem step_toRender_invoke (renders : machine.store.RendersBy subject receiver method)
    (purpose : Purpose) (base : List Frame) (goal : Goal) :
    (machine.toRender purpose subject base goal).step =
      .running ((machine.toRender purpose subject base goal).invoke (.ofCall receiver method [])
        [.render purpose, .release [.owner receiver]]) := by
  have renders : (machine.toRender purpose subject base goal).store.RendersBy subject receiver
      method := renders
  exact congrArg Next.running (render_of_rendersBy renders purpose)

theorem step_toRender_ask (renders : machine.store.RendersBy subject receiver method)
    (some : 0 < machine.fuel) (purpose : Purpose) (base : List Frame) (goal : Goal) :
    (machine.toRender purpose subject base goal).step =
      .running ((machine.asked receiver method).onto
        (.render purpose :: .release [.owner receiver] :: base) goal) := by
  have sameFuel : (machine.toRender purpose subject base goal).fuel = machine.fuel := rfl
  obtain ⟨fuel, more⟩ := Nat.exists_eq_succ_of_ne_zero (Nat.ne_of_gt some)
  rw [step_toRender_invoke renders]
  simp only [invoke, sameFuel, more, asked]
  rfl

theorem step_toRender_exhausted (renders : machine.store.RendersBy subject receiver method)
    (none : machine.fuel = 0) (purpose : Purpose) (base : List Frame) (goal : Goal) :
    (machine.toRender purpose subject base goal).step =
      .running (machine.chainEnd purpose (.error .outOfFuel) base goal) := by
  have sameFuel : (machine.toRender purpose subject base goal).fuel = machine.fuel := rfl
  rw [step_toRender_invoke renders]
  simp only [invoke, sameFuel, none]
  rfl

end Asking

/-- A rendering that does not come to a text by itself writes nothing. -/
theorem writes?_toRender
    (noText : ∀ pieces, machine.store.rendering subject ≠ .ok (.text pieces))
    (purpose : Purpose) (base : List Frame) (goal : Goal) :
    (machine.toRender purpose subject base goal).writes? = none := by
  rw [Option.eq_none_iff_forall_ne_some]
  intro text writes
  obtain ⟨_, pieces, same, rendered, _⟩ := writes?_eq_some_iff.mp writes
  cases same
  exact noText pieces rendered

/-- A rendering reaches the end of the body that it asks, and up to there only that body writes. -/
theorem exists_writesInside_returned {receiver : Address} {method : Method} {returned : Machine}
    (renders : machine.store.RendersBy subject receiver method)
    (some : 0 < machine.fuel) (returns : Returns [] (machine.asked receiver method) returned) :
    ∃ texts, ∀ purpose base goal,
      WritesInside base (machine.toRender purpose subject base goal) texts
        (returned.onto (.render purpose :: .release [.owner receiver] :: base) goal) := by
  obtain ⟨texts, writes⟩ := returns.exists_writesInside rfl rfl
  refine ⟨texts, fun purpose base goal => ?_⟩
  have operational : ∀ frame ∈ [.render purpose, .release [.owner receiver]],
      Frame.isOperational frame :=
    List.forall_mem_cons.mpr ⟨rfl, List.forall_mem_singleton.mpr rfl⟩
  exact .silent (not_returnedTo_of_control rfl)
    (step_toRender_ask renders some purpose base goal)
    (writes?_toRender (fun _ => renders.rendering_ne_text) purpose base goal)
    (writes _ base goal operational (List.cons_ne_nil _ _))

section Returned

variable (bottom : machine.stack = [])
include bottom

/-- A body that gave a value is left for the rendering of that value, which is held. -/
theorem step_onto_render_give {next : Handle} (controlled : machine.control = .give next)
    (purpose : Purpose) (frames : List Frame) (goal : Goal) :
    (machine.onto (.render purpose :: frames) goal).step =
      .running (machine.toRender purpose next (.release [next] :: frames) goal) := by
  simp only [step, onto, bottom, controlled, List.nil_append]
  rfl

/-- A body that failed ends the chain. -/
theorem step_onto_render_fail {error : EvalError} (controlled : machine.control = .fail error)
    (purpose : Purpose) (frames : List Frame) (goal : Goal) :
    (machine.onto (.render purpose :: frames) goal).step =
      .running (machine.chainEnd purpose (.error error) frames goal) := by
  simp only [step, onto, bottom, controlled, List.nil_append, unwind, Frame.handles, release,
    Store.release_nil]
  rfl

theorem not_returnedTo_onto (frame holder : Frame) (base : List Frame) (goal : Goal) :
    ¬(machine.onto (frame :: holder :: base) goal).ReturnedTo base := by
  apply not_returnedTo_of_length_lt
  rw [onto, bottom]
  exact Nat.lt_succ_of_lt (Nat.lt_succ_self _)

end Returned

/-- Where a rendering has followed its chain to the end: it stands at the value that has the
text, or has the error. -/
inductive Ends (last : Machine) :
    Except EvalError String → (Purpose → List Frame → Goal → Machine) → Prop where
  | text {final : Handle} {pieces : List String} :
      last.store.rendering final = .ok (.text pieces) →
      Ends last (.ok (String.join pieces)) fun purpose => last.toRender purpose final
  | error {error : EvalError} : Ends last (.error error) fun purpose =>
      last.chainEnd purpose (.error error)

/-- A rendering goes down the chain of its subject, and holds what it meets there. Before it is
at the end, nobody but the bodies on the way has written anything, and they have written the
same whatever the text is for. -/
theorem Chain.exists_writesInside (chain : Chain machine subject held result last) :
    ∃ texts ending, Ends last result ending ∧ ∀ purpose base goal,
      WritesInside base (machine.toRender purpose subject base goal) texts
        (ending purpose (holders held ++ base) goal) := by
  have atOnce {machine last : Machine} {subject : Handle} {error : EvalError}
      (noText : ∀ pieces, machine.store.rendering subject ≠ .ok (.text pieces))
      (stepped : ∀ purpose base goal, (machine.toRender purpose subject base goal).step =
        .running (last.chainEnd purpose (.error error) base goal)) :
      ∃ texts ending, Ends last (.error error) ending ∧ ∀ purpose base goal,
        WritesInside base (machine.toRender purpose subject base goal) texts
          (ending purpose (holders [] ++ base) goal) :=
    ⟨[], _, .error, fun purpose base goal =>
      .silent (not_returnedTo_of_control rfl) (stepped purpose base goal)
        (writes?_toRender noText purpose base goal) (.refl _)⟩
  induction chain with
  | text rendered =>
      exact ⟨[], _, .text rendered, fun purpose base goal => .refl _⟩
  | dangling rendered =>
      refine atOnce (fun pieces same => ?_) (step_toRender_error rendered)
      rw [rendered] at same
      cases same
  | exhausted renders none =>
      exact atOnce (fun _ => renders.rendering_ne_text) (step_toRender_exhausted renders none)
  | @failed machine last subject receiver method error rendered some returns controlled =>
      obtain ⟨texts, writes⟩ := exists_writesInside_returned rendered some returns
      have bottom := returns.returned.1
      refine ⟨texts, _, .error, fun purpose base goal => ?_⟩
      have stepped := step_onto_render_fail bottom controlled purpose
        (.release [.owner receiver] :: base) goal
      have back := WritesInside.silent (not_returnedTo_onto bottom _ _ base goal) stepped
        (writes?_of_isOutcome returns.returned.2) (.refl _)
      have whole := (writes purpose base goal).trans back
      rw [List.append_nil] at whole
      exact whole
  | @link machine returned last subject next receiver method held result rendered some returns
      controlled chain ih =>
      obtain ⟨texts, writes⟩ := exists_writesInside_returned rendered some returns
      obtain ⟨rest, ending, ends, further⟩ := ih
      have bottom := returns.returned.1
      refine ⟨texts ++ rest, ending, ends, fun purpose base goal => ?_⟩
      -- The rest of the chain is followed over the frames that hold the receiver and the value.
      let lower : List Frame := [.release [next], .release [.owner receiver]]
      have operational : ∀ frame ∈ lower, frame.isOperational :=
        List.forall_mem_cons.mpr ⟨rfl, List.forall_mem_singleton.mpr rfl⟩
      have above : (returned.toRender purpose next (lower ++ base) goal).Above (lower ++ base) :=
        List.suffix_refl _
      have stepped := step_onto_render_give bottom controlled purpose
        (.release [.owner receiver] :: base) goal
      rw [holders_append_append]
      exact (writes purpose base goal).trans
        (.silent (not_returnedTo_onto bottom _ _ base goal) stepped
          (writes?_of_isOutcome returns.returned.2)
          ((further purpose (lower ++ base) goal).toLower operational (List.cons_ne_nil _ _) above))

theorem Chain.descends (chain : Chain machine subject held result last) (purpose : Purpose)
    (base : List Frame) (goal : Goal) :
    Reaches base (machine.toRender purpose subject base goal)
      (last.chainEnd purpose result (holders held ++ base) goal) := by
  obtain ⟨texts, ending, ends, writes⟩ := chain.exists_writesInside
  have down := (writes purpose base goal).reaches
  cases ends with
  | text rendered =>
      exact down.trans (.step (not_returnedTo_of_control rfl)
        (step_toRender_text rendered purpose _ goal) (.refl _))
  | error => exact down

/-! ## The way back -/

theorem step_holder (outcome : machine.control.isOutcome) (value : Handle)
    (frames : List Frame) :
    { machine with stack := .release [value] :: frames }.step =
      .running ({ machine with stack := frames }.release [value]) := by
  obtain ⟨session, fuel, control, stack, goal⟩ := machine
  cases control with
  | give | fail => rfl
  | _ => cases outcome

/-- What was held on the way down is released on the way back, whatever came of it, and nothing
is written. -/
theorem writesInside_of_holders (outcome : machine.control.isOutcome) (held : List Handle)
    (base : List Frame) :
    WritesInside base { machine with stack := holders held ++ base } []
      ({ machine with stack := base }.release held) := by
  induction held generalizing machine with
  | nil =>
      rw [release, Store.release_nil]
      exact .refl _
  | cons value held ih =>
      have stepped := step_holder outcome value (holders held ++ base)
      have goesOn : ¬{ machine with stack := holders (value :: held) ++ base }.ReturnedTo base := by
        apply not_returnedTo_of_length_lt
        rw [List.length_append]
        exact Nat.lt_add_of_pos_left (Nat.succ_pos _)
      have released : machine.store.release (value :: held) =
          (machine.store.release [value]).release held :=
        Store.release_append machine.store [value] held
      have ahead : (machine.release [value]).control.isOutcome := outcome
      rw [release, released]
      exact .silent goesOn stepped (writes?_of_isOutcome outcome) (ih ahead)

theorem returns_of_holders (outcome : machine.control.isOutcome) (held : List Handle)
    (base : List Frame) :
    Returns base { machine with stack := holders held ++ base }
      ({ machine with stack := base }.release held) :=
  ⟨(writesInside_of_holders outcome held base).reaches, rfl, outcome⟩

theorem isOutcome_chainEnd (last : Machine) (purpose : Purpose)
    (result : Except EvalError String) (base : List Frame) (goal : Goal) :
    (last.chainEnd purpose result base goal).control.isOutcome := by
  cases result with
  | error error => rfl
  | ok text =>
      cases purpose with
      | value => rfl
      | output =>
          rw [chainEnd_output]
          dsimp only
          split <;> rfl
      | own =>
          rw [chainEnd_own]
          dsimp only
          split <;> rfl

theorem chainEnd_with_stack (last : Machine) (purpose : Purpose)
    (result : Except EvalError String) (frames base : List Frame) (goal : Goal) :
    last.chainEnd purpose result frames goal =
      { last.chainEnd purpose result base goal with stack := frames } := by
  cases result with
  | error error => rfl
  | ok text =>
      cases purpose with
      | value => rfl
      | output => rw [chainEnd_output, chainEnd_output]
      | own => rw [chainEnd_own, chainEnd_own]

/-- A rendering returns with the result of the chain of its subject, and has released then
what was held on the way. -/
theorem Chain.returns (chain : Chain machine subject held result last) (purpose : Purpose)
    (base : List Frame) (goal : Goal) :
    Returns base (machine.toRender purpose subject base goal)
      ((last.chainEnd purpose result base goal).release held) := by
  have down := chain.descends purpose base goal
  have outcome := last.isOutcome_chainEnd purpose result base goal
  have back : Returns base
      { last.chainEnd purpose result base goal with stack := holders held ++ base }
      ({ last.chainEnd purpose result base goal with stack := base }.release held) :=
    returns_of_holders outcome held base
  rw [← chainEnd_with_stack, ← chainEnd_with_stack] at back
  exact down.returns back

end Offside.Machine
