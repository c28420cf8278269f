import Offside.Proofs.Machine.Operation
import Offside.Proofs.Store.Asking

/-!
# Refused calls

A call is refused if its receiver is an instance whose nearest method of the name takes
another number of arguments, or if there is none. No other step brings up the error that a
method is missing: comparisons and renderings call no method before they know that it is
there. So whenever the error is there, a call was refused before.
-/

namespace Offside

/-- The error of a call that is refused. -/
def EvalError.isNoSuchMethod : EvalError → Bool
  | .noSuchMethod _ _ _ => true
  | _ => false

/-! ## Errors of the store -/

namespace Store

variable {store : Store} {handle left right : Handle} {relation : Relation} {error : EvalError}

theorem eq_of_resolve_error (failed : store.resolve handle = .error error) :
    error = .invalidHandle := by
  unfold resolve at failed
  split at failed
  · cases failed
  split at failed
  · cases failed
  · cases failed
    rfl

theorem eq_of_get_error (failed : store.get handle = .error error) : error = .invalidHandle := by
  unfold get at failed
  split at failed
  next => cases failed
  next =>
    cases failed
    rfl
  next resolved =>
    cases failed
    exact eq_of_resolve_error resolved

theorem eq_of_getInstance_error (failed : store.getInstance handle = .error error) :
    error = .invalidHandle ∨ ∃ kind, error = .notAnInstance kind := by
  unfold getInstance at failed
  split at failed
  next => cases failed
  next object _ _ =>
    cases failed
    exact .inr ⟨object.kind, rfl⟩
  next got =>
    cases failed
    exact .inl (eq_of_get_error got)

theorem eq_of_truth_error (failed : store.truth handle = .error error) :
    error = .invalidHandle := by
  unfold truth at failed
  split at failed
  next => cases failed
  next => cases failed
  next resolved =>
    cases failed
    exact eq_of_resolve_error resolved

theorem eq_of_rendering_error (failed : store.rendering handle = .error error) :
    error = .invalidHandle := by
  unfold rendering at failed
  split at failed
  next => cases failed
  next => cases failed
  next resolved =>
    cases failed
    exact eq_of_resolve_error resolved

theorem eq_of_sum_error (failed : store.sum left right = .error error) :
    error = .cannotAdd (store.typeName left) (store.typeName right) := by
  unfold sum at failed
  split at failed
  · cases failed
  · cases failed
  · cases failed
    rfl

theorem eq_of_verdict_error (failed : store.verdict relation left right = .error error) :
    error = .invalidHandle ∨
      error = .cannotCompare relation (store.typeName left) (store.typeName right) := by
  cases leftFound : store.resolve left with
  | error invalid =>
      rw [verdict, leftFound] at failed
      cases failed
      exact .inl (eq_of_resolve_error leftFound)
  | ok first =>
      cases rightFound : store.resolve right with
      | error invalid =>
          rw [verdict, leftFound, rightFound] at failed
          cases failed
          exact .inl (eq_of_resolve_error rightFound)
      | ok second =>
          rw [verdict_of_resolve leftFound rightFound] at failed
          split at failed
          · cases failed
          split at failed
          · cases failed
          · cases failed
            exact .inr rfl

/-- No relation is decided if an operand dangles, and then this is the error. -/
theorem verdict_eq_invalidHandle_iff :
    store.verdict relation left right = .error .invalidHandle ↔
      store.resolve left = .error .invalidHandle ∨ store.resolve right = .error .invalidHandle := by
  cases leftFound : store.resolve left with
  | error invalid =>
      cases eq_of_resolve_error leftFound
      rw [verdict, leftFound]
      exact iff_of_true rfl (.inl rfl)
  | ok first =>
      cases rightFound : store.resolve right with
      | error invalid =>
          cases eq_of_resolve_error rightFound
          rw [verdict, leftFound, rightFound]
          exact iff_of_true rfl (.inr rfl)
      | ok second =>
          rw [verdict_of_resolve leftFound rightFound]
          refine iff_of_false (fun failed => ?_) (by rintro (found | found) <;> cases found)
          split at failed
          · cases failed
          split at failed
          · cases failed
          · cases failed

end Store

namespace Machine

variable {machine next : Machine} {error : EvalError}

/-! ## Calls -/

section Dispatch

variable {receiver : Address} {cls : Class} {name : String} {arguments : List Handle}
  {frames : List Frame} {method : Method}

theorem dispatch_of_refused (refused : cls.hasMethod name arguments.length = false) :
    machine.dispatch receiver cls name arguments frames =
      machine.fail (.noSuchMethod cls.name name arguments.length) := by
  rw [Class.hasMethod, Option.isSome_eq_false_iff, Option.isNone_iff_eq_none] at refused
  simp only [dispatch, refused]

theorem dispatch_of_taking (taking : cls.methodTaking? name arguments.length = some method) :
    machine.dispatch receiver cls name arguments frames =
      machine.invoke (.ofCall receiver method arguments) frames := by
  simp only [dispatch, taking]

end Dispatch

section Call

variable {receiver : Handle} {name : String} {arguments : List Handle} {address : Address}
  {cls : Class} {fields : Scope} {method : Method}

theorem call_of_error (failed : machine.store.getInstance receiver = .error error) :
    machine.call receiver name arguments = machine.fail error := by
  rw [call, failed]
  rfl

/-- A call that is refused goes on with the error, and that is all it does. -/
theorem call_of_refused (found : machine.store.getInstance receiver = .ok (address, cls, fields))
    (refused : cls.hasMethod name arguments.length = false) :
    machine.call receiver name arguments =
      machine.fail (.noSuchMethod cls.name name arguments.length) := by
  rw [call, found]
  exact dispatch_of_refused refused

theorem call_of_taking (found : machine.store.getInstance receiver = .ok (address, cls, fields))
    (taking : cls.methodTaking? name arguments.length = some method) :
    machine.call receiver name arguments =
      machine.invoke (.ofCall address method arguments) [.release [.owner address]] := by
  rw [call, found]
  exact dispatch_of_taking taking

end Call

section Asking

variable {receiver : Address} {method : Method}

/-- A comparison that calls a method runs the one that decides. -/
theorem compare_of_decidesBy {relation : Relation} {left right : Handle} {held : List Handle}
    (decides : machine.store.DecidesBy relation left right receiver method held)
    (comparison : Comparison) :
    machine.compare comparison relation left right =
      machine.invoke (.ofCall receiver method [right])
        [.judge comparison relation left right held] := by
  obtain ⟨cls, asked, taking⟩ := decides
  rw [compare, asked]
  exact dispatch_of_taking taking

/-- A rendering that calls a method runs the one that renders. -/
theorem render_of_rendersBy {subject : Handle}
    (renders : machine.store.RendersBy subject receiver method) (purpose : Purpose) :
    machine.render purpose subject =
      machine.invoke (.ofCall receiver method [])
        [.render purpose, .release [.owner receiver]] := by
  obtain ⟨cls, asked, taking⟩ := renders
  rw [render, asked]
  exact dispatch_of_taking taking

end Asking

/-- The machine is about to make a call that is refused, with this error. -/
def AtRefusedCall (machine : Machine) (error : EvalError) : Prop :=
  ∃ (caller : Machine) (receiver : Handle) (name : String) (arguments : List Handle)
      (address : Address) (cls : Class) (fields : Scope),
    machine = (Operation.call receiver name arguments).awaiting caller ∧
      caller.store.getInstance receiver = .ok (address, cls, fields) ∧
      cls.hasMethod name arguments.length = false ∧
      error = .noSuchMethod cls.name name arguments.length

/-! ## Steps that refuse nothing -/

/-- The machine does not stand before the error of a refused call. -/
def Quiet (machine : Machine) : Prop :=
  ∀ error, machine.control = .fail error → error.isNoSuchMethod = false

namespace Quiet

theorem of_control (goesOn : ∀ error, machine.control ≠ .fail error) : machine.Quiet :=
  fun error failed => absurd failed (goesOn error)

theorem fail (harmless : error.isNoSuchMethod = false) : (machine.fail error).Quiet := by
  intro other failed
  cases failed
  exact harmless

theorem orFail {α : Type} {result : Except EvalError α} {next : α → Machine}
    (harmless : ∀ error, result = .error error → error.isNoSuchMethod = false)
    (going : ∀ value, result = .ok value → (next value).Quiet) :
    (machine.orFail result next).Quiet := by
  cases result with
  | ok value => exact going value rfl
  | error error => exact .fail (harmless error rfl)

theorem withClass {name : String} {next : Class → Machine} (going : ∀ cls, (next cls).Quiet) :
    (machine.withClass name next).Quiet := by
  unfold Machine.withClass
  split
  · exact going _
  · exact .fail rfl

end Quiet

section Operations

theorem quiet_give (value : Handle) : (machine.give value).Quiet :=
  .of_control fun _ failed => nomatch failed

theorem quiet_eval (expr : Expr) : (machine.eval expr).Quiet :=
  .of_control fun _ failed => nomatch failed

theorem quiet_giveObject (object : Object) : (machine.giveObject object).Quiet :=
  .of_control fun _ failed => nomatch failed

theorem quiet_invoke (activation : Activation) (frames : List Frame) :
    (machine.invoke activation frames).Quiet := by
  unfold invoke
  split
  · exact .fail rfl
  · exact .of_control fun _ failed => nomatch failed

theorem quiet_conclude (comparison : Comparison) (relation : Relation) (left right : Handle)
    (holds : Bool) : (machine.conclude comparison relation left right holds).Quiet := by
  unfold conclude
  split
  · exact .of_control fun _ failed => nomatch failed
  · exact quiet_giveObject _

/-- The class was asked whether it has the method, so the call is not refused. -/
theorem quiet_dispatch {cls : Class} {name : String} {arguments : List Handle}
    (has : cls.hasMethod name arguments.length) (receiver : Address) (frames : List Frame) :
    (machine.dispatch receiver cls name arguments frames).Quiet := by
  obtain ⟨method, taking⟩ := Class.hasMethod_iff.mp has
  rw [dispatch_of_taking taking]
  exact quiet_invoke _ _

/-- A comparison refuses nothing: it calls the method only if that takes one argument. -/
theorem quiet_compare (comparison : Comparison) (relation : Relation) (left right : Handle) :
    (machine.compare comparison relation left right).Quiet := by
  refine .orFail ?_ fun verdict found => ?_
  · intro error failed
    rcases Store.eq_of_verdict_error failed with rfl | rfl <;> rfl
  · cases verdict with
    | decided holds => exact quiet_conclude comparison relation left right holds
    | ask receiver cls held =>
        obtain ⟨fields, found, _, _, has, _⟩ := Store.verdict_eq_ask found
        exact quiet_dispatch has receiver _

theorem quiet_judge (comparison : Comparison) (relation : Relation) (left right : Handle)
    (held : List Handle) (value : Handle) :
    (machine.judge comparison relation left right held value).Quiet := by
  refine .orFail ?_ fun holds _ => quiet_conclude comparison relation left right holds
  intro error failed
  cases Store.eq_of_truth_error failed
  rfl

theorem quiet_finishRendering (pieces : List String) (purpose : Purpose) :
    (machine.finishRendering pieces purpose).Quiet := by
  cases purpose with
  | value => exact quiet_giveObject _
  | output | own =>
      simp only [finishRendering]
      split
      · exact quiet_give _
      · exact .fail rfl

/-- A rendering refuses nothing: it calls the method only if that takes no argument. -/
theorem quiet_render (purpose : Purpose) (subject : Handle) :
    (machine.render purpose subject).Quiet := by
  refine .orFail ?_ fun rendering found => ?_
  · intro error failed
    cases Store.eq_of_rendering_error failed
    rfl
  · cases rendering with
    | text pieces => exact quiet_finishRendering pieces purpose
    | ask receiver cls =>
        obtain ⟨fields, _, has⟩ := Store.rendering_eq_ask found
        exact quiet_dispatch has receiver _

theorem quiet_performUnary (operand : Handle) (op : UnaryOp) :
    (machine.performUnary operand op).Quiet := by
  have instances {error : EvalError} (failed : machine.store.getInstance operand = .error error) :
      error.isNoSuchMethod = false := by
    rcases Store.eq_of_getInstance_error failed with rfl | ⟨kind, rfl⟩ <;> rfl
  cases op with
  | «alias» =>
      refine .orFail (fun error failed => ?_) fun _ _ => quiet_give _
      cases Store.eq_of_get_error failed
      rfl
  | truth =>
      refine .orFail (fun error failed => ?_) fun _ _ => quiet_giveObject _
      cases Store.eq_of_truth_error failed
      rfl
  | selfOf | field | deleteField =>
      exact .orFail (fun _ failed => instances failed) fun _ _ => quiet_give _
  | print | render => exact .of_control fun _ failed => nomatch failed

theorem quiet_performBinary (left right : Handle) (op : BinaryOp) :
    (machine.performBinary left right op).Quiet := by
  cases op with
  | setField =>
      refine .orFail (fun error failed => ?_) fun _ _ => quiet_give _
      rcases Store.eq_of_getInstance_error failed with rfl | ⟨kind, rfl⟩ <;> rfl
  | compare => exact .of_control fun _ failed => nomatch failed
  | add =>
      refine .orFail (fun error failed => ?_) fun _ _ => quiet_giveObject _
      cases Store.eq_of_sum_error failed
      rfl

theorem quiet_evaluate (expr : Expr) : (machine.evaluate expr).Quiet := by
  cases expr with
  | create name => exact .withClass fun _ => .of_control fun _ failed => nomatch failed
  | classObject name => exact .withClass fun _ => quiet_giveObject _
  | raise message => exact .fail rfl
  | literal value => cases value <;> exact .of_control fun _ failed => nomatch failed
  | sequence parts =>
      rcases parts with _ | ⟨first, _ | ⟨next, rest⟩⟩ <;>
        exact .of_control fun _ failed => nomatch failed
  | _ => exact .of_control fun _ failed => nomatch failed

end Operations

/-! ## The step that refuses -/

/-- A call brings up the error of a refused call only if it is refused itself. -/
theorem refused_of_call {receiver : Handle} {name : String} {arguments : List Handle}
    (failed : (machine.call receiver name arguments).control = .fail error)
    (refused : error.isNoSuchMethod) :
    ∃ address cls fields, machine.store.getInstance receiver = .ok (address, cls, fields) ∧
      cls.hasMethod name arguments.length = false ∧
      error = .noSuchMethod cls.name name arguments.length := by
  cases found : machine.store.getInstance receiver with
  | error other =>
      rw [call_of_error found] at failed
      cases failed
      rcases Store.eq_of_getInstance_error found with rfl | ⟨kind, rfl⟩ <;> cases refused
  | ok triple =>
      obtain ⟨address, cls, fields⟩ := triple
      cases taking : cls.methodTaking? name arguments.length with
      | none =>
          have missing : cls.hasMethod name arguments.length = false := by
            rw [Class.hasMethod, taking]
            rfl
          rw [call_of_refused found missing] at failed
          cases failed
          exact ⟨address, cls, fields, rfl, missing, rfl⟩
      | some method =>
          rw [call_of_taking found taking] at failed
          rw [quiet_invoke _ _ error failed] at refused
          cases refused

/-- A value that completes the operands of a call may lead to a refusal; any other frame
takes a value quietly. -/
theorem quiet_resume_or_atRefusedCall (value : Handle) (frame : Frame)
    (failed : (machine.resume value frame).control = .fail error)
    (refused : error.isNoSuchMethod) : ((machine.give value).push frame).AtRefusedCall error := by
  have loud {after : Machine} (quiet : after.Quiet) (failed : after.control = .fail error) :
      False := by
    rw [quiet error failed] at refused
    cases refused
  cases frame with
  | receiver name rest =>
      cases rest with
      | nil =>
          obtain ⟨address, cls, fields, found, missing, same⟩ := refused_of_call failed refused
          exact ⟨machine, value, name, [], address, cls, fields, rfl, found, missing, same⟩
      | cons first rest => exact (loud (quiet_eval first) failed).elim
  | argument receiver name evaluated rest =>
      cases rest with
      | nil =>
          obtain ⟨address, cls, fields, found, missing, same⟩ := refused_of_call failed refused
          refine ⟨machine, receiver, name, evaluated ++ [value], address, cls, fields, ?_, found,
            missing, same⟩
          rw [Operation.awaiting, List.getLast?_concat, List.dropLast_concat]
      | cons next rest => exact (loud (quiet_eval next) failed).elim
  | unary op => exact (loud (quiet_performUnary value op) failed).elim
  | right op left => exact (loud (quiet_performBinary left value op) failed).elim
  | judge comparison relation left right held =>
      exact (loud (quiet_judge comparison relation left right held value) failed).elim
  | branch yes no =>
      refine (loud (.orFail (fun other untrue => ?_) fun _ _ => quiet_eval _) failed).elim
      cases Store.eq_of_truth_error untrue
      rfl
  | assign | sequence | left | leave | release | render => cases failed

theorem quiet_runBody {session : Session} {fuel : Nat} {className name : String} {locals : Scope}
    (started : runBody session fuel className name locals = .running next) : next.Quiet := by
  unfold runBody at started
  split at started
  next => cases started
  next =>
    split at started
    next => cases started
    next => cases started
    next =>
      cases started
      exact .of_control fun _ failed => nomatch failed

theorem quiet_deliver {value : Handle} (delivered : machine.deliver value = .running next) :
    next.Quiet := by
  unfold deliver at delivered
  split at delivered
  next => cases delivered
  next =>
    cases delivered
    exact .of_control fun _ failed => nomatch failed
  next => cases delivered
  next =>
    cases delivered
    exact .of_control fun _ failed => nomatch failed
  next => cases delivered
  next =>
    split at delivered
    · exact quiet_runBody delivered
    · cases delivered
      exact .of_control fun _ failed => nomatch failed
  next => cases delivered

/-- The error of a refused call comes from such a call, or was there before. -/
theorem atRefusedCall_of_step (stepped : machine.step = .running next)
    (failed : next.control = .fail error) (refused : error.isNoSuchMethod) :
    machine.control = .fail error ∨ machine.AtRefusedCall error := by
  have loud (quiet : next.Quiet) : False := by
    rw [quiet error failed] at refused
    cases refused
  unfold step at stepped
  split at stepped
  next expr _ =>
    cases stepped
    exact (loud (quiet_evaluate expr)).elim
  next comparison relation left right _ =>
    cases stepped
    exact (loud (quiet_compare comparison relation left right)).elim
  next purpose subject _ =>
    cases stepped
    exact (loud (quiet_render purpose subject)).elim
  next =>
    cases stepped
    cases failed
  next value control =>
    split at stepped
    next => exact (loud (quiet_deliver stepped)).elim
    next frame stack top =>
      cases stepped
      right
      have calls := quiet_resume_or_atRefusedCall value frame failed refused
      have same : ({ machine with stack }.give value).push frame = machine := by
        cases machine
        simp_all [push, give]
      rw [same] at calls
      exact calls
  next other control =>
    left
    split at stepped
    next =>
      unfold abandon at stepped
      split at stepped <;> cases stepped
    next frame stack _ =>
      cases stepped
      rw [control]
      cases frame <;> exact failed

/-- When the error of a refused call is there, a call was refused before. -/
theorem exists_refusedCall {count : Nat} (fresh : machine.control ≠ .fail error)
    (failed : (machine.after count).control = .fail error) (refused : error.isNoSuchMethod) :
    ∃ earlier, earlier < count ∧ (machine.after earlier).AtRefusedCall error := by
  induction count generalizing machine with
  | zero => exact absurd failed fresh
  | succ count ih =>
      cases stepped : machine.step with
      | halted result session =>
          rw [after, stepped] at failed
          exact absurd failed fresh
      | running next =>
          rw [after_succ stepped] at failed
          by_cases arises : next.control = .fail error
          · rcases atRefusedCall_of_step stepped arises refused with before | calls
            · exact absurd before fresh
            · exact ⟨0, Nat.succ_pos count, calls⟩
          · obtain ⟨earlier, before, calls⟩ := ih arises failed
            refine ⟨earlier + 1, Nat.succ_lt_succ before, ?_⟩
            rw [after_succ stepped]
            exact calls

end Machine

end Offside
