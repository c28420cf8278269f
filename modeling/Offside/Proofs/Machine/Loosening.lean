import Offside.Machine.Step
import Offside.Proofs.Store.Loosening

/-!
# Machines up to the owners of one object

Two machines are alike if they differ only in which handles to one object own it. As long
as both keep the object, alike machines stay alike: every step looks at what handles refer
to, and whether one of them is an owner shows only when an object goes.
-/

namespace Offside

variable {kept : Address}

/-! ## Parts of a machine -/

/-- An activation with loosened handles. -/
def Activation.loosen (kept : Address) (activation : Activation) : Activation :=
  { activation with locals := activation.locals.loosen kept }

/-- A control with loosened handles. -/
def Control.loosen (kept : Address) : Control → Control
  | .give value => .give (value.loosen kept)
  | .compare comparison relation left right =>
      .compare comparison relation (left.loosen kept) (right.loosen kept)
  | .render purpose subject => .render purpose (subject.loosen kept)
  | .enter activation => .enter (activation.loosen kept)
  | control => control

/-- A frame with loosened handles. -/
def Frame.loosen (kept : Address) : Frame → Frame
  | .right op operand => .right op (operand.loosen kept)
  | .argument subject method evaluated rest =>
      .argument (subject.loosen kept) method (evaluated.map (Handle.loosen kept)) rest
  | .leave caller => .leave (caller.loosen kept)
  | .release held => .release (held.map (Handle.loosen kept))
  | .judge comparison relation first second held =>
      .judge comparison relation (first.loosen kept) (second.loosen kept)
        (held.map (Handle.loosen kept))
  | frame => frame

/-- A goal with loosened handles. -/
def Goal.loosen (kept : Address) : Goal → Goal
  | .sameRight left => .sameRight (left.loosen kept)
  | .bindLocal className method name rest locals =>
      .bindLocal className method name rest (locals.loosen kept)
  | .executed outer => .executed (outer.loosen kept)
  | goal => goal

theorem Activation.loosen_loosen (activation : Activation) :
    (activation.loosen kept).loosen kept = activation.loosen kept := by
  simp only [loosen, Scope.loosen_loosen]

theorem Control.loosen_loosen (control : Control) :
    (control.loosen kept).loosen kept = control.loosen kept := by
  cases control <;> simp only [loosen, Handle.loosen_loosen, Activation.loosen_loosen]

theorem Frame.loosen_loosen (frame : Frame) :
    (frame.loosen kept).loosen kept = frame.loosen kept := by
  cases frame <;>
    simp only [loosen, Handle.loosen_loosen, Handle.map_loosen_loosen, Scope.loosen_loosen]

theorem Frame.map_loosen_loosen (stack : List Frame) :
    (stack.map (Frame.loosen kept)).map (Frame.loosen kept) = stack.map (Frame.loosen kept) := by
  rw [List.map_map]
  exact List.map_congr_left fun frame _ => frame.loosen_loosen

/-- Loosened frames hold the loosened handles. -/
theorem Frame.handles_loosen (frame : Frame) :
    (frame.loosen kept).handles = frame.handles.map (Handle.loosen kept) := by
  cases frame with
  | leave caller => exact caller.handles_loosen
  | _ => rfl

theorem Frame.flatMap_handles_loosen (stack : List Frame) :
    (stack.map (Frame.loosen kept)).flatMap Frame.handles =
      (stack.flatMap Frame.handles).map (Handle.loosen kept) := by
  rw [List.flatMap_map, List.map_flatMap]
  exact congrArg (stack.flatMap ·) (funext handles_loosen)

theorem Goal.loosen_loosen (goal : Goal) :
    (goal.loosen kept).loosen kept = goal.loosen kept := by
  cases goal <;> simp only [loosen, Handle.loosen_loosen, Scope.loosen_loosen]

/-- The locals of a call are loosened with the arguments. -/
theorem Activation.loosen_ofCall (receiver : Address) (method : Method) (arguments : List Handle) :
    (ofCall receiver method arguments).loosen kept =
      ofCall receiver method (arguments.map (Handle.loosen kept)) := by
  simp only [loosen, ofCall, Method.locals, Scope.loosen_bindAll, List.zip_map_right]
  rfl

namespace Machine

/-- A machine with loosened handles. -/
def loosen (kept : Address) (machine : Machine) : Machine :=
  { machine with
    store := machine.store.loosen kept
    scope := machine.scope.loosen kept
    control := machine.control.loosen kept
    stack := machine.stack.map (Frame.loosen kept)
    goal := machine.goal.loosen kept }

/-- The object is in the store. -/
def Keeps (kept : Address) (machine : Machine) : Prop :=
  (machine.store.object? kept).isSome

/-- Two machines differ only in which handles to the object own it. -/
def Alike (kept : Address) (first second : Machine) : Prop :=
  first.loosen kept = second.loosen kept

theorem loosen_loosen (machine : Machine) :
    (machine.loosen kept).loosen kept = machine.loosen kept := by
  simp only [loosen, Store.loosen_loosen, Scope.loosen_loosen, Control.loosen_loosen,
    Frame.map_loosen_loosen, Goal.loosen_loosen]

theorem Alike.of_eq {first second : Machine} (same : first.loosen kept = second) :
    first.Alike kept second := by
  rw [Alike, ← same, loosen_loosen]

variable (machine : Machine)

/-! ## Going on -/

theorem loosen_push (frame : Frame) :
    (machine.push frame).loosen kept = (machine.loosen kept).push (frame.loosen kept) := rfl

theorem loosen_give (value : Handle) :
    (machine.give value).loosen kept = (machine.loosen kept).give (value.loosen kept) := rfl

theorem loosen_retain (handles : List Handle) :
    (machine.retain handles).loosen kept =
      (machine.loosen kept).retain (handles.map (Handle.loosen kept)) := by
  simp only [loosen, retain, Store.loosen_retain]

theorem loosen_release (handles : List Handle) (keeps : (machine.release handles).Keeps kept) :
    (machine.release handles).loosen kept =
      (machine.loosen kept).release (handles.map (Handle.loosen kept)) := by
  simp only [loosen, release, Store.loosen_release machine.store handles keeps]

theorem alike_give (value : Handle) :
    (machine.give value).Alike kept ((machine.loosen kept).give (value.loosen kept)) :=
  .of_eq rfl

theorem alike_eval (expr : Expr) :
    (machine.eval expr).Alike kept ((machine.loosen kept).eval expr) :=
  .of_eq rfl

theorem alike_fail (error : EvalError) :
    (machine.fail error).Alike kept ((machine.loosen kept).fail error) :=
  .of_eq rfl

theorem alike_giveCopy (value : Handle) :
    (machine.giveCopy value).Alike kept ((machine.loosen kept).giveCopy (value.loosen kept)) :=
  .of_eq (congrArg (·.give (value.loosen kept)) (machine.loosen_retain [value]))

/-- A new object is given alike, whether it is the one that is kept or not. -/
theorem alike_giveObject (object : Object) :
    (machine.giveObject object).Alike kept ((machine.loosen kept).giveObject object) := by
  simp only [Alike, giveObject, loosen, Store.loosen_allocate, Store.nextAddress_loosen,
    Store.loosen_loosen, Scope.loosen_loosen, Frame.map_loosen_loosen, Goal.loosen_loosen]

theorem alike_giveInstance (cls : Class) :
    (machine.giveInstance cls).Alike kept ((machine.loosen kept).giveInstance cls) := by
  simp only [Alike, giveInstance, loosen, Store.loosen_allocateInstance, Store.nextAddress_loosen,
    Store.loosen_loosen, Scope.loosen_loosen, Frame.map_loosen_loosen, Goal.loosen_loosen]

section Results

variable {machine} {α β : Type} {result : Except EvalError α} {next : α → Machine}

/-- What is made of alike results is alike. -/
theorem alike_orFail {result' : Except EvalError β} {next' : β → Machine} {convert : α → β}
    (same : result' = result.map convert) (keeps : (machine.orFail result next).Keeps kept)
    (going : ∀ value, (next value).Keeps kept → (next value).Alike kept (next' (convert value))) :
    (machine.orFail result next).Alike kept ((machine.loosen kept).orFail result' next') := by
  rw [same]
  cases result with
  | error error => exact alike_fail machine error
  | ok value => exact going value keeps

/-- What is made of one result is alike. -/
theorem alike_orFail_of_eq {result' : Except EvalError α} {next' : α → Machine}
    (same : result' = result) (keeps : (machine.orFail result next).Keeps kept)
    (going : ∀ value, (next value).Keeps kept → (next value).Alike kept (next' value)) :
    (machine.orFail result next).Alike kept ((machine.loosen kept).orFail result' next') := by
  rw [same]
  cases result with
  | error error => exact alike_fail machine error
  | ok value => exact going value keeps

theorem Keeps.of_orFail (keeps : (machine.orFail result next).Keeps kept)
    (going : ∀ value, (next value).Keeps kept → machine.Keeps kept) : machine.Keeps kept := by
  cases result with
  | error error => exact keeps
  | ok value => exact going value keeps

end Results

theorem alike_withClass {name : String} {next next' : Class → Machine}
    (going : ∀ cls, (next cls).Alike kept (next' cls)) :
    (machine.withClass name next).Alike kept ((machine.loosen kept).withClass name next') := by
  have same : (machine.loosen kept).classes = machine.classes := rfl
  rw [withClass, withClass, same]
  split
  next cls _ => exact going cls
  next => exact alike_fail machine _

/-- A body is started alike under alike frames. -/
theorem alike_invoke {activation activation' : Activation} {frames frames' : List Frame}
    (sameActivation : activation.loosen kept = activation'.loosen kept)
    (sameFrames : frames.map (Frame.loosen kept) = frames'.map (Frame.loosen kept)) :
    (machine.invoke activation frames).Alike kept
      ((machine.loosen kept).invoke activation' frames') := by
  have sameLocals : activation.locals.loosen kept = activation'.locals.loosen kept :=
    congrArg Activation.locals sameActivation
  have sameHandles : (activation.locals.handles ++ frames.flatMap Frame.handles).map
      (Handle.loosen kept) = (activation'.locals.handles ++ frames'.flatMap Frame.handles).map
        (Handle.loosen kept) := by
    rw [List.map_append, List.map_append, ← Scope.handles_loosen, ← Scope.handles_loosen,
      sameLocals, ← Frame.flatMap_handles_loosen, ← Frame.flatMap_handles_loosen, sameFrames]
  have sameFuel : (machine.loosen kept).fuel = machine.fuel := rfl
  rw [invoke, invoke, sameFuel]
  cases machine.fuel with
  | zero => exact alike_fail machine .outOfFuel
  | succ fuel =>
      simp only [Alike, loosen, retain, Store.loosen_retain, sameHandles, Control.loosen,
        sameActivation, List.map_append, sameFrames, Store.loosen_loosen, Scope.loosen_loosen,
        Frame.map_loosen_loosen, Goal.loosen_loosen]

theorem alike_dispatch {arguments arguments' : List Handle} {frames frames' : List Frame}
    (receiver : Address) (cls : Class) (name : String)
    (sameArguments : arguments.map (Handle.loosen kept) = arguments'.map (Handle.loosen kept))
    (sameFrames : frames.map (Frame.loosen kept) = frames'.map (Frame.loosen kept)) :
    (machine.dispatch receiver cls name arguments frames).Alike kept
      ((machine.loosen kept).dispatch receiver cls name arguments' frames') := by
  have sameLength : arguments.length = arguments'.length := by
    rw [← List.length_map (Handle.loosen kept), sameArguments, List.length_map]
  rw [dispatch, dispatch, ← sameLength]
  split
  · exact alike_fail machine _
  next method _ =>
    refine alike_invoke machine ?_ sameFrames
    rw [Activation.loosen_ofCall, Activation.loosen_ofCall, sameArguments]

/-- The scope or the fields of an instance are replaced alike, and what was displaced is
released. -/
theorem alike_replace (machine' : Machine) (displaced : List Handle)
    (keeps : (machine.release displaced).Keeps kept) (same : machine.loosen kept = machine') :
    ((machine.release displaced).give .empty).Alike kept
      ((machine'.release (displaced.map (Handle.loosen kept))).give .empty) := by
  apply Alike.of_eq
  rw [loosen_give, loosen_release machine displaced keeps, same]
  rfl

theorem loosen_putFields (address : Address) (fields : Scope) :
    { machine with store := machine.store.putFields address fields }.loosen kept =
      { machine.loosen kept with
        store := (machine.loosen kept).store.putFields address (fields.loosen kept) } := by
  simp only [loosen, Store.loosen_putFields]

/-! ## Operations -/

theorem alike_performUnary (operand : Handle) (op : UnaryOp)
    (keeps : (machine.performUnary operand op).Keeps kept) :
    (machine.performUnary operand op).Alike kept
      ((machine.loosen kept).performUnary (operand.loosen kept) op) := by
  cases op with
  | «alias» =>
      refine alike_orFail (machine.store.get_loosen operand) keeps ?_
      intro found _
      exact alike_give machine (.alias found.1)
  | selfOf =>
      refine alike_orFail (machine.store.getInstance_loosen operand) keeps ?_
      intro found _
      exact alike_give machine (.alias found.1)
  | field name =>
      refine alike_orFail (machine.store.getInstance_loosen operand) keeps ?_
      intro found _
      have copied : Alike kept _ _ := alike_giveCopy machine (found.2.2.get name)
      rw [← Scope.get_loosen] at copied
      exact copied
  | deleteField name =>
      refine alike_orFail (machine.store.getInstance_loosen operand) keeps ?_
      intro found keeps
      have replaced := alike_replace _ _ _ keeps
        (machine.loosen_putFields found.1 (found.2.2.unbind name))
      rw [← Scope.unbind_loosen, ← Scope.displaced_loosen] at replaced
      exact replaced
  | truth =>
      refine alike_orFail_of_eq (machine.store.truth_loosen operand) keeps ?_
      intro value _
      exact alike_giveObject machine (.bool value)
  | print => exact .of_eq rfl
  | render => exact .of_eq rfl

theorem alike_performBinary (left right : Handle) (op : BinaryOp)
    (keeps : (machine.performBinary left right op).Keeps kept) :
    (machine.performBinary left right op).Alike kept
      ((machine.loosen kept).performBinary (left.loosen kept) (right.loosen kept) op) := by
  cases op with
  | setField name =>
      refine alike_orFail (machine.store.getInstance_loosen left) keeps ?_
      intro found keeps
      have replaced := alike_replace _ _ _ keeps
        ((machine.retain [right]).loosen_putFields found.1 (found.2.2.bind name right))
      rw [← Scope.displaced_loosen, Scope.loosen_bind, loosen_retain] at replaced
      exact replaced
  | compare comparison => exact .of_eq rfl
  | add =>
      refine alike_orFail_of_eq (machine.store.sum_loosen left right) keeps ?_
      intro object _
      exact alike_giveObject machine object

theorem alike_call (receiver : Handle) (name : String) (arguments : List Handle)
    (keeps : (machine.call receiver name arguments).Keeps kept) :
    (machine.call receiver name arguments).Alike kept
      ((machine.loosen kept).call (receiver.loosen kept) name
        (arguments.map (Handle.loosen kept))) := by
  refine alike_orFail (machine.store.getInstance_loosen receiver) keeps ?_
  intro found _
  exact alike_dispatch machine _ _ name (Handle.map_loosen_loosen arguments).symm rfl

theorem alike_conclude (comparison : Comparison) (relation : Relation) (left right : Handle)
    (holds : Bool) :
    (machine.conclude comparison relation left right holds).Alike kept
      ((machine.loosen kept).conclude comparison relation (left.loosen kept) (right.loosen kept)
        holds) := by
  rw [conclude, conclude]
  split
  · exact .of_eq rfl
  · exact alike_giveObject machine _

theorem alike_compare (comparison : Comparison) (relation : Relation) (left right : Handle)
    (keeps : (machine.compare comparison relation left right).Keeps kept) :
    (machine.compare comparison relation left right).Alike kept
      ((machine.loosen kept).compare comparison relation (left.loosen kept)
        (right.loosen kept)) := by
  refine alike_orFail_of_eq (machine.store.verdict_loosen relation left right) keeps ?_
  intro verdict _
  cases verdict with
  | decided holds => exact alike_conclude machine comparison relation left right holds
  | ask receiver cls held =>
      refine alike_dispatch machine receiver cls relation.method ?_ ?_
      · simp only [List.map_cons, List.map_nil, Handle.loosen_loosen]
      · simp only [List.map_cons, List.map_nil, Frame.loosen, Handle.loosen_loosen]

/-- An object is kept by a relation that was decided if it was there before. -/
theorem Keeps.of_conclude {comparison : Comparison} {relation : Relation} {left right : Handle}
    {holds : Bool} (given : kept < machine.store.nextAddress)
    (keeps : (machine.conclude comparison relation left right holds).Keeps kept) :
    machine.Keeps kept := by
  rw [conclude] at keeps
  split at keeps
  · exact keeps
  · rw [Keeps, giveObject, Store.object?, Store.cell?_allocate,
      if_neg (Nat.ne_of_lt given)] at keeps
    exact keeps

theorem alike_judge (comparison : Comparison) (relation : Relation) (left right : Handle)
    (held : List Handle) (value : Handle) (given : kept < machine.store.nextAddress)
    (keeps : (machine.judge comparison relation left right held value).Keeps kept) :
    (machine.judge comparison relation left right held value).Alike kept
      ((machine.loosen kept).judge comparison relation (left.loosen kept) (right.loosen kept)
        (held.map (Handle.loosen kept)) (value.loosen kept)) := by
  have givenThen : kept < (machine.release (value :: held)).store.nextAddress := by
    rw [release, Store.release, Store.nextAddress_dropOwners]
    exact given
  have keepsThen := keeps.of_orFail fun holds => Keeps.of_conclude _ givenThen
  rw [judge, judge, ← List.map_cons, ← loosen_release machine _ keepsThen]
  refine alike_orFail_of_eq (machine.store.truth_loosen value) keeps ?_
  intro holds _
  exact alike_conclude (machine.release (value :: held)) comparison relation left right holds

theorem alike_finishRendering (pieces : List String) (purpose : Purpose) :
    (machine.finishRendering pieces purpose).Alike kept
      ((machine.loosen kept).finishRendering pieces purpose) := by
  have sameOutput : (machine.loosen kept).output = machine.output := rfl
  have sameOwn : (machine.loosen kept).own = machine.own := rfl
  cases purpose with
  | value => exact alike_giveObject machine _
  | output | own =>
      simp only [finishRendering, sameOutput, sameOwn]
      split
      · exact .of_eq rfl
      · exact .of_eq rfl

theorem alike_render (purpose : Purpose) (subject : Handle)
    (keeps : (machine.render purpose subject).Keeps kept) :
    (machine.render purpose subject).Alike kept
      ((machine.loosen kept).render purpose (subject.loosen kept)) := by
  refine alike_orFail_of_eq (machine.store.rendering_loosen subject) keeps ?_
  intro rendering _
  cases rendering with
  | text pieces => exact alike_finishRendering machine pieces purpose
  | ask receiver cls => exact alike_dispatch machine receiver cls renderMethod rfl rfl

theorem alike_enter (activation : Activation) :
    (machine.enter activation).Alike kept
      ((machine.loosen kept).enter (activation.loosen kept)) :=
  .of_eq rfl

theorem alike_evaluate (expr : Expr) (keeps : (machine.evaluate expr).Keeps kept) :
    (machine.evaluate expr).Alike kept ((machine.loosen kept).evaluate expr) := by
  cases expr with
  | literal value =>
      cases value with
      | nothing => exact alike_give machine .empty
      | bool value => exact alike_giveObject machine (.bool value)
      | number value => exact alike_giveObject machine (.number value)
      | text value => exact alike_giveObject machine (.text value)
  | var name =>
      have copied : Alike kept _ _ := alike_giveCopy machine (machine.scope.get name)
      rw [← Scope.get_loosen] at copied
      exact copied
  | assign name value => exact .of_eq rfl
  | unassign name =>
      have replaced := alike_replace { machine with scope := machine.scope.unbind name } _ _
        keeps rfl
      rw [← Scope.displaced_loosen] at replaced
      refine replaced.trans ?_
      simp only [evaluate, loosen, Scope.unbind_loosen]
  | sequence parts =>
      rcases parts with _ | ⟨first, _ | ⟨next, rest⟩⟩
      · exact .of_eq rfl
      · exact .of_eq rfl
      · exact .of_eq rfl
  | branch condition yes no => exact .of_eq rfl
  | create name => exact alike_withClass machine (alike_giveInstance machine)
  | classObject name =>
      exact alike_withClass machine fun cls => alike_giveObject machine (.classValue cls)
  | unary op operand => exact .of_eq rfl
  | binary op left right => exact .of_eq rfl
  | call receiver method arguments => exact .of_eq rfl
  | raise message => exact .of_eq rfl

/-! ## Frames -/

theorem alike_branch (value : Handle) (yes no : Expr)
    (keeps : (machine.resume value (.branch yes no)).Keeps kept) :
    (machine.resume value (.branch yes no)).Alike kept
      ((machine.loosen kept).resume (value.loosen kept) (.branch yes no)) := by
  have keepsThen : (machine.release [value]).Keeps kept := keeps.of_orFail fun _ keeps => keeps
  have released := loosen_release machine [value] keepsThen
  simp only [resume, List.map_cons, List.map_nil] at released ⊢
  rw [← released]
  refine alike_orFail_of_eq (machine.store.truth_loosen value) keeps ?_
  intro holds _
  exact alike_eval (machine.release [value]) _

theorem alike_leave (caller : Scope) (control : Control)
    (keeps : (machine.release machine.scope.handles).Keeps kept) :
    Alike kept { machine.release machine.scope.handles with scope := caller, control }
      { (machine.loosen kept).release (machine.loosen kept).scope.handles with
        scope := caller.loosen kept
        control := control.loosen kept } := by
  have released := loosen_release machine machine.scope.handles keeps
  rw [← Scope.handles_loosen] at released
  apply Alike.of_eq
  refine Eq.trans ?_ (congrArg (fun machine' : Machine =>
    { machine' with scope := caller.loosen kept, control := control.loosen kept }) released)
  rfl

/-- A value is handed to a frame alike. -/
theorem alike_resume (value : Handle) (frame : Frame) (given : kept < machine.store.nextAddress)
    (keeps : (machine.resume value frame).Keeps kept) :
    (machine.resume value frame).Alike kept
      ((machine.loosen kept).resume (value.loosen kept) (frame.loosen kept)) := by
  cases frame with
  | assign name =>
      have replaced := alike_replace { machine with scope := machine.scope.bind name value } _ _
        keeps rfl
      rw [← Scope.displaced_loosen] at replaced
      refine replaced.trans ?_
      simp only [resume, Frame.loosen, loosen, Scope.loosen_bind]
  | sequence next rest =>
      apply Alike.of_eq
      exact congrArg (·.eval (.sequence (next :: rest))) (loosen_release machine [value] keeps)
  | branch yes no => exact alike_branch machine value yes no keeps
  | unary op => exact alike_performUnary (machine.push (.release [value])) value op keeps
  | left op right => exact .of_eq rfl
  | right op left =>
      exact alike_performBinary (machine.push (.release [left, value])) left value op keeps
  | receiver method rest =>
      cases rest with
      | nil => exact alike_call (machine.push (.release [value])) value method [] keeps
      | cons first rest => exact .of_eq rfl
  | argument receiver method evaluated rest =>
      have joined : (evaluated ++ [value]).map (Handle.loosen kept) =
          evaluated.map (Handle.loosen kept) ++ [value.loosen kept] := List.map_append
      cases rest with
      | nil =>
          have called := alike_call (machine.push (.release (receiver :: (evaluated ++ [value]))))
            receiver method (evaluated ++ [value]) keeps
          rw [loosen_push, Frame.loosen, List.map_cons, joined] at called
          exact called
      | cons next rest =>
          apply Alike.of_eq
          simp only [resume, Frame.loosen, ← joined]
          rfl
  | leave caller => exact alike_leave machine caller (.give value) keeps
  | release held =>
      apply Alike.of_eq
      exact congrArg (·.give (value.loosen kept)) (loosen_release machine held keeps)
  | judge comparison relation left right held =>
      exact alike_judge machine comparison relation left right held value given keeps
  | render purpose => exact .of_eq rfl

/-- A frame is taken away alike after an error. -/
theorem alike_unwind (error : EvalError) (frame : Frame)
    (keeps : (machine.unwind error frame).Keeps kept) :
    (machine.unwind error frame).Alike kept
      ((machine.loosen kept).unwind error (frame.loosen kept)) := by
  have released {held : List Handle} (keeps : ((machine.release held).fail error).Keeps kept) :
      ((machine.release held).fail error).Alike kept
        (((machine.loosen kept).release (held.map (Handle.loosen kept))).fail error) :=
    .of_eq (congrArg (·.fail error) (loosen_release machine held keeps))
  cases frame with
  | leave caller => exact alike_leave machine caller (.fail error) keeps
  | _ => exact released keeps

/-! ## Steps -/

/-- A body is run alike with alike locals in force, and has the store to begin with. -/
theorem runBody_loosen (kept : Address) {after : Machine} {fuel : Nat} {className name : String}
    {locals : Scope}
    (started : runBody machine.toSession fuel className name locals = .running after) :
    runBody (machine.loosen kept).toSession fuel className name (locals.loosen kept) =
        .running (after.loosen kept) ∧
      after.store = machine.store := by
  have sameClasses : (machine.loosen kept).classes = machine.classes := rfl
  rw [runBody] at started ⊢
  rw [sameClasses]
  cases found : machine.classes.find? className with
  | none =>
      rw [found] at started
      cases started
  | some cls =>
      rw [found] at started
      dsimp only at started ⊢
      cases defined : cls.method? name with
      | none =>
          rw [defined] at started
          cases started
      | some method =>
          rw [defined] at started
          cases fuel with
          | zero => cases started
          | succ fuel =>
              cases started
              exact ⟨rfl, rfl⟩

theorem alike_deliver {after : Machine} (value : Handle)
    (delivered : machine.deliver value = .running after) (keeps : after.Keeps kept) :
    ∃ after', (machine.loosen kept).deliver (value.loosen kept) = .running after' ∧
      after.Alike kept after' := by
  have goal : (machine.loosen kept).goal = machine.goal.loosen kept := rfl
  rw [deliver, goal]
  rw [deliver] at delivered
  cases same : machine.goal with
  | inspect inspection =>
      rw [same] at delivered
      cases delivered
  | sameLeft right =>
      rw [same] at delivered
      cases delivered
      exact ⟨_, rfl, .of_eq rfl⟩
  | sameRight left =>
      rw [same] at delivered
      cases delivered
  | print capacity =>
      rw [same] at delivered
      cases delivered
      exact ⟨_, rfl, .of_eq rfl⟩
  | printed capacity =>
      rw [same] at delivered
      cases delivered
  | bindLocal className method name rest locals =>
      rw [same] at delivered
      have displaced : (locals.loosen kept).displaced name = _ := locals.displaced_loosen name
      cases rest with
      | nil =>
          have keepsThen : (machine.release (locals.displaced name)).Keeps kept := by
            have sameStore := (runBody_loosen _ kept delivered).2
            rw [Keeps, ← sameStore]
            exact keeps
          have released := loosen_release machine _ keepsThen
          have started := (runBody_loosen _ kept delivered).1
          rw [released, Scope.loosen_bind, ← displaced] at started
          exact ⟨_, started, .of_eq rfl⟩
      | cons next rest =>
          cases delivered
          have released := loosen_release machine (locals.displaced name) keeps
          rw [← displaced] at released
          refine ⟨_, rfl, .of_eq ?_⟩
          refine Eq.trans ?_ (congrArg (fun machine' : Machine => { machine' with
            goal := .bindLocal className method next.1 rest
              ((locals.loosen kept).bind name (value.loosen kept))
            control := .eval next.2 }) released)
          simp only [loosen, Goal.loosen, Scope.loosen_bind, Control.loosen]
  | executed outer =>
      rw [same] at delivered
      cases delivered

theorem abandon_ne_running (error : EvalError) (after : Machine) :
    machine.abandon error ≠ .running after := by
  rw [abandon]
  split <;> exact Next.noConfusion

theorem Keeps.lt_nextAddress (keeps : machine.Keeps kept) : kept < machine.store.nextAddress := by
  rw [Keeps, ← Store.isSome_cell?] at keeps
  obtain ⟨cell, found⟩ := Option.isSome_iff_exists.mp keeps
  exact Store.lt_nextAddress_of_cell? found

/-- A step that goes on does so alike, and from a machine with loosened handles as well. -/
theorem alike_step {after : Machine} (keepsBefore : machine.Keeps kept)
    (stepped : machine.step = .running after) (keeps : after.Keeps kept) :
    ∃ after', (machine.loosen kept).step = .running after' ∧ after.Alike kept after' := by
  have control : (machine.loosen kept).control = machine.control.loosen kept := rfl
  have stack : (machine.loosen kept).stack = machine.stack.map (Frame.loosen kept) := rfl
  rw [step, control, stack]
  rw [step] at stepped
  cases controlled : machine.control with
  | eval expr =>
      rw [controlled] at stepped
      cases stepped
      exact ⟨_, rfl, alike_evaluate machine expr keeps⟩
  | compare comparison relation left right =>
      rw [controlled] at stepped
      cases stepped
      exact ⟨_, rfl, alike_compare machine comparison relation left right keeps⟩
  | render purpose subject =>
      rw [controlled] at stepped
      cases stepped
      exact ⟨_, rfl, alike_render machine purpose subject keeps⟩
  | enter activation =>
      rw [controlled] at stepped
      cases stepped
      exact ⟨_, rfl, alike_enter machine activation⟩
  | give value =>
      rw [controlled] at stepped
      cases top : machine.stack with
      | nil =>
          rw [top] at stepped
          exact alike_deliver machine value stepped keeps
      | cons frame stack =>
          rw [top] at stepped
          cases stepped
          have given := keepsBefore.lt_nextAddress
          exact ⟨_, rfl, alike_resume { machine with stack } value frame given keeps⟩
  | fail error =>
      rw [controlled] at stepped
      cases top : machine.stack with
      | nil =>
          rw [top] at stepped
          exact absurd stepped (abandon_ne_running machine error after)
      | cons frame stack =>
          rw [top] at stepped
          cases stepped
          exact ⟨_, rfl, alike_unwind { machine with stack } error frame keeps⟩

/-- Alike machines that keep the object go on alike. -/
theorem Alike.step {first second first' second' : Machine} (alike : first.Alike kept second)
    (firstKeeps : first.Keeps kept) (secondKeeps : second.Keeps kept)
    (firstStep : first.step = .running first') (secondStep : second.step = .running second')
    (firstKeeps' : first'.Keeps kept) (secondKeeps' : second'.Keeps kept) :
    first'.Alike kept second' := by
  obtain ⟨left, leftStep, sameLeft⟩ := alike_step first firstKeeps firstStep firstKeeps'
  obtain ⟨right, rightStep, sameRight⟩ := alike_step second secondKeeps secondStep secondKeeps'
  rw [alike, rightStep] at leftStep
  cases leftStep
  exact sameLeft.trans sameRight.symm

end Machine

end Offside
