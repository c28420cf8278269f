import Offside.Proofs.Machine.Handling

/-!
# Steps as moves of handles

Between two commands nothing is held but the variables. From there, and inside a
command, every step is put together from moves of handles and keeps what is borrowed
in hold.
-/

namespace Offside.Point

open Machine

variable (machine : Machine)

theorem follows_between (session : Session) :
    Follows ⟨session.store, session.scope.handles⟩ (.between session) where
  moves := .refl
  covered := trivial

/-- At the bottom of the stack nothing waits but the goal. -/
theorem follows_bottom (bottom : machine.stack = [])
    (borrowsNothing : machine.control.borrowed = []) :
    Follows
      ⟨machine.store, machine.control.handles ++ machine.goal.handles ++ machine.scope.handles⟩
      (.inside machine) where
  moves := by
    refine .single (.rearrange ?_)
    rw [List.perm_iff_count]
    intro handle
    simp only [held, roots, bottom, List.flatMap_nil, List.append_nil, List.count_append]
    omega
  covered := by
    constructor
    · rw [borrowsNothing]
      exact List.nil_subset _
    · rw [bottom]
      exact .nil

theorem follows_runBody (session : Session) (fuel : Nat) (className name : String)
    (locals : Scope) :
    Follows ⟨session.store, locals.handles ++ session.scope.handles⟩
      (ofNext (runBody session fuel className name locals)) := by
  have stopped : Follows ⟨session.store, locals.handles ++ session.scope.handles⟩
      (.between { session with store := session.store.release locals.handles }) := by
    apply Follows.of_drop _
    exact follows_between { session with store := session.store.release locals.handles }
  unfold runBody
  split
  · exact stopped
  next cls _ =>
    split
    · exact stopped
    · exact stopped
    next method fuel _ =>
      apply Follows.of_perm List.perm_append_comm
      exact follows_bottom
        { session with
          scope := locals
          fuel
          control := .eval method.body
          stack := []
          goal := .executed session.scope } rfl rfl

theorem follows_deliver (bottom : machine.stack = []) (value : Handle) :
    Follows ⟨machine.store, value :: machine.goal.handles ++ machine.scope.handles⟩
      (ofNext (machine.deliver value)) := by
  unfold deliver
  split
  next inspection goal =>
    rw [goal]
    apply Follows.of_drop _
    exact follows_between (machine.release [value]).toSession
  next right goal =>
    rw [goal]
    let second := { machine with goal := .sameRight value, control := .eval right }
    exact follows_bottom second bottom rfl
  next left goal =>
    rw [goal]
    apply Follows.of_perm (List.Perm.swap left value machine.scope.handles)
    apply Follows.of_drop [left, value]
    exact follows_between (machine.release [left, value]).toSession
  next capacity goal =>
    have covered : StackCovered machine.stack := by
      rw [bottom]
      exact .nil
    let printing := { machine with goal := .printed capacity, own := .ofLimit capacity }
    have same : (value :: machine.scope.handles).Perm ([value] ++ printing.waiting) := by
      simp [printing, waiting, bottom, Goal.handles]
    rw [goal]
    apply Follows.of_perm same
    apply follows_hold printing covered [value]
    intro covered operands
    exact follows_inside _ covered (.render .own value) operands
  next capacity goal =>
    rw [goal]
    apply Follows.of_drop _
    exact follows_between (machine.release [value]).toSession
  next className method name rest locals goal =>
    rw [goal]
    apply Follows.of_perm ((locals.perm_handles_bind name value).append_right machine.scope.handles)
    rw [List.append_assoc]
    apply Follows.of_drop _
    split
    · exact follows_runBody (machine.release (locals.displaced name)).toSession _ _ _ _
    next name' next rest =>
      exact follows_bottom
        { machine.release (locals.displaced name) with
          goal := .bindLocal className method name' rest (locals.bind name value)
          control := .eval next } bottom rfl
  next outer goal =>
    rw [goal]
    apply Follows.of_perm (List.perm_append_comm.cons value)
    apply Follows.of_drop (value :: machine.scope.handles)
    exact follows_between
      { machine.release (value :: machine.scope.handles) with scope := outer }.toSession

theorem follows_abandon (error : EvalError) :
    Follows ⟨machine.store, machine.goal.handles ++ machine.scope.handles⟩
      (ofNext (machine.abandon error)) := by
  unfold abandon
  split
  next goal =>
    rw [goal]
    exact follows_between machine.toSession
  next outer goal =>
    rw [goal]
    apply Follows.of_perm List.perm_append_comm
    apply Follows.of_drop _
    exact follows_between { machine.release machine.scope.handles with scope := outer }.toSession
  next =>
    apply Follows.of_drop _
    exact follows_between (machine.release machine.goal.handles).toSession

/-! ## One step -/

/-- What a machine holds is held by its control, and by the frames and the goal below. -/
theorem follows_of_control {control : Control} {point : Point} (same : machine.control = control)
    (follows : Follows ⟨machine.store, control.handles ++ machine.waiting⟩ point) :
    Follows (holding (.inside machine)) point := by
  subst same
  exact follows.of_perm (perm_roots machine).symm

theorem waiting_bottom (bottom : machine.stack = []) :
    machine.waiting.Perm (machine.goal.handles ++ machine.scope.handles) := by
  rw [waiting, bottom, List.flatMap_nil, List.append_nil]
  exact List.perm_append_comm

theorem waiting_frame {frame : Frame} {stack : List Frame} (top : machine.stack = frame :: stack) :
    machine.waiting.Perm (frame.handles ++ { machine with stack }.waiting) := by
  have pushed := perm_waiting_push { machine with stack } frame
  simp only [push, ← top] at pushed
  exact pushed.symm

theorem follows_step (covered : machine.Covered) :
    Follows (holding (.inside machine)) (ofNext machine.step) := by
  obtain ⟨borrowed, covered⟩ := covered
  unfold step
  split
  next expr control =>
    exact follows_of_control machine control (follows_evaluate machine covered expr)
  next comparison relation left right control =>
    rw [control] at borrowed
    exact follows_of_control machine control (follows_compare machine covered borrowed)
  next purpose subject control =>
    exact follows_of_control machine control (follows_render machine covered purpose subject)
  next activation control =>
    exact follows_of_control machine control (follows_enter machine covered activation)
  next value control =>
    apply follows_of_control machine control
    split
    next bottom =>
      apply Follows.of_perm ((waiting_bottom machine bottom).cons value)
      exact follows_deliver machine bottom value
    next frame stack top =>
      rw [top] at covered
      cases covered with
      | cons borrowed covered =>
          apply Follows.of_perm ((waiting_frame machine top).cons value)
          exact follows_resume { machine with stack } covered value frame borrowed
  next error control =>
    apply follows_of_control machine control
    split
    next bottom =>
      apply Follows.of_perm (waiting_bottom machine bottom)
      exact follows_abandon machine error
    next frame stack top =>
      rw [top] at covered
      cases covered with
      | cons borrowed covered =>
          apply Follows.of_perm (waiting_frame machine top)
          exact follows_unwind { machine with stack } covered error frame

/-! ## Commands -/

theorem follows_machine (session : Session) (expr : Expr) {goal : Goal}
    (fresh : goal.handles = []) :
    Follows ⟨session.store, session.scope.handles⟩ (.inside (session.machine expr goal)) := by
  have started := follows_bottom (session.machine expr goal) rfl rfl
  simp only [Session.machine, Control.handles, fresh, List.nil_append] at started
  exact started

theorem follows_begin (session : Session) (command : Command) :
    Follows (holding (.between session)) (ofNext (session.begin command)) := by
  cases command with
  | inspect inspection subject => exact follows_machine session subject rfl
  | same left right => exact follows_machine session left rfl
  | print subject capacity => exact follows_machine session subject rfl
  | execute className method locals =>
      cases locals with
      | nil => exact follows_runBody session _ _ _ {}
      | cons «local» rest => exact follows_machine session «local».2 rfl
  | defineClass name parent methods =>
      cases parent with
      | none => exact ⟨.refl, trivial⟩
      | some parent =>
          simp only [Session.begin]
          split
          · exact follows_between session
          · exact ⟨.refl, trivial⟩
  | summarize | method | write | flush | clear | describeScope => exact ⟨.refl, trivial⟩

/-- Every step is put together from moves of handles. -/
theorem Step.follows {before after : Point} (step : Step before after) (covered : before.Covered) :
    Follows before.holding after := by
  cases step with
  | begin session command => exact follows_begin session command
  | step machine => exact follows_step machine covered

end Offside.Point
