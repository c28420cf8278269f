import Offside.Proofs.Machine.Returning
import Offside.Proofs.Store.Changing

/-!
# Steps that change a field

Two operations change the fields of an instance: setting a field and deleting one. Whatever else a
step does, it counts owners and creates objects. So the fields that an instance has when a run is
over are those that it had, with the changes made in turn that were asked for on the way.
-/

namespace Offside

open Store

/-- The change that an operation on one value makes. -/
def UnaryOp.change? (store : Store) (operand : Handle) : UnaryOp → Option (Address × FieldChange)
  | .deleteField name =>
      match store.getInstance operand with
      | .ok (address, _, _) => some (address, .delete name)
      | .error _ => none
  | _ => none

/-- The change that an operation on two values makes. -/
def BinaryOp.change? (store : Store) (left right : Handle) :
    BinaryOp → Option (Address × FieldChange)
  | .setField name =>
      match store.getInstance left with
      | .ok (address, _, _) => some (address, .set name right)
      | .error _ => none
  | _ => none

/-- The change that is made when a frame gets a value. -/
def Frame.change? (store : Store) (value : Handle) : Frame → Option (Address × FieldChange)
  | .unary op => op.change? store value
  | .right op operand => op.change? store operand value
  | _ => none

namespace Machine

/-- The change of a field that the next step makes. -/
def change? (machine : Machine) : Option (Address × FieldChange) :=
  match machine.control, machine.stack with
  | .give value, frame :: _ => frame.change? machine.store value
  | _, _ => none

/-- The store that a step leaves. -/
def Next.store : Next → Store
  | .running machine => machine.store
  | .halted _ session => session.store

section Operations

variable (machine : Machine)

theorem calm_orFail {α : Type} {result : Except EvalError α} {next : α → Machine}
    (going : ∀ value, result = .ok value → Calm machine.store (next value).store) :
    Calm machine.store (machine.orFail result next).store := by
  cases result with
  | ok value => exact going value rfl
  | error error => exact .refl

theorem calm_giveObject {object : Object} (plain : object.kind ≠ .instanceOf) :
    Calm machine.store (machine.giveObject object).store :=
  .create (.inl plain) .refl

theorem calm_withClass {name : String} {next : Class → Machine}
    (going : ∀ cls, Calm machine.store (next cls).store) :
    Calm machine.store (machine.withClass name next).store := by
  unfold withClass
  split
  · exact going _
  · exact .refl

theorem calm_invoke (activation : Activation) (frames : List Frame) :
    Calm machine.store (machine.invoke activation frames).store := by
  unfold invoke
  split
  · exact .refl
  · exact .retain _ .refl

/-- Of the operations on one value, only deleting a field changes one. -/
theorem turns_performUnary (operand : Handle) (op : UnaryOp) :
    Turns machine.store (op.change? machine.store operand)
      (machine.performUnary operand op).store := by
  cases op with
  | «alias» | selfOf => exact .calm (calm_orFail machine fun _ _ => .refl)
  | field name => exact .calm (calm_orFail machine fun _ _ => .retain _ .refl)
  | deleteField name =>
      simp only [UnaryOp.change?, performUnary, orFail]
      cases found : machine.store.getInstance operand with
      | error error => exact .calm .refl
      | ok located => exact .change .refl (object?_of_getInstance found) (.release _ .refl)
  | truth =>
      exact .calm (calm_orFail machine fun _ _ =>
        calm_giveObject machine (by simp [Object.kind]))
  | print | render => exact .calm .refl

/-- Of the operations on two values, only setting a field changes one. -/
theorem turns_performBinary (left right : Handle) (op : BinaryOp) :
    Turns machine.store (op.change? machine.store left right)
      (machine.performBinary left right op).store := by
  cases op with
  | setField name =>
      simp only [BinaryOp.change?, performBinary, orFail]
      cases found : machine.store.getInstance left with
      | error error => exact .calm .refl
      | ok located =>
          have retained : (machine.store.retain [right]).object? located.1 =
              some (.instanceOf located.2.1 located.2.2) :=
            (object?_retain _).trans (object?_of_getInstance found)
          exact .change (.retain _ .refl) retained (.release _ .refl)
  | compare comparison => exact .calm .refl
  | add =>
      exact .calm (calm_orFail machine fun object summed =>
        calm_giveObject machine (kind_ne_of_sum summed))

theorem calm_dispatch (receiver : Address) (cls : Class) (name : String)
    (arguments : List Handle) (frames : List Frame) :
    Calm machine.store (machine.dispatch receiver cls name arguments frames).store := by
  unfold dispatch
  split
  · exact .refl
  · exact calm_invoke machine _ _

theorem calm_call (receiver : Handle) (name : String) (arguments : List Handle) :
    Calm machine.store (machine.call receiver name arguments).store :=
  calm_orFail machine fun _ _ => calm_dispatch machine _ _ _ _ _

theorem calm_conclude (comparison : Comparison) (relation : Relation) (left right : Handle)
    (holds : Bool) :
    Calm machine.store (machine.conclude comparison relation left right holds).store := by
  unfold conclude
  split
  · exact .refl
  · exact calm_giveObject machine (by simp [Object.kind])

theorem calm_compare (comparison : Comparison) (relation : Relation) (left right : Handle) :
    Calm machine.store (machine.compare comparison relation left right).store := by
  apply calm_orFail machine
  intro verdict _
  cases verdict with
  | decided holds => exact calm_conclude machine comparison relation left right holds
  | ask receiver cls held => exact calm_dispatch machine _ _ _ _ _

theorem calm_judge (comparison : Comparison) (relation : Relation) (left right : Handle)
    (held : List Handle) (value : Handle) :
    Calm machine.store (machine.judge comparison relation left right held value).store := by
  have released : Calm machine.store (machine.release (value :: held)).store := .release _ .refl
  refine released.trans (calm_orFail (machine.release (value :: held)) fun holds _ => ?_)
  exact calm_conclude (machine.release (value :: held)) comparison relation left right holds

theorem calm_finishRendering (pieces : List String) (purpose : Purpose) :
    Calm machine.store (machine.finishRendering pieces purpose).store := by
  cases purpose with
  | value => exact calm_giveObject machine (by simp [Object.kind])
  | output | own =>
      simp only [finishRendering]
      split
      · exact .refl
      · exact .refl

theorem calm_render (purpose : Purpose) (subject : Handle) :
    Calm machine.store (machine.render purpose subject).store := by
  apply calm_orFail machine
  intro rendering _
  cases rendering with
  | text pieces => exact calm_finishRendering machine pieces purpose
  | ask receiver cls => exact calm_dispatch machine _ _ _ _ _

theorem calm_evaluate (expr : Expr) : Calm machine.store (machine.evaluate expr).store := by
  cases expr with
  | literal value =>
      cases value with
      | nothing => exact .refl
      | bool | number | text => exact calm_giveObject machine (by simp [Object.kind])
  | var name => exact .retain _ .refl
  | unassign name => exact .release _ .refl
  | sequence parts => rcases parts with _ | ⟨first, _ | ⟨next, rest⟩⟩ <;> exact .refl
  | create name => exact calm_withClass machine fun cls => .create (.inr ⟨cls, rfl⟩) .refl
  | classObject name =>
      exact calm_withClass machine fun cls => calm_giveObject machine (by simp [Object.kind])
  | assign | branch | unary | binary | call | raise => exact .refl

theorem turns_resume (value : Handle) (frame : Frame) :
    Turns machine.store (frame.change? machine.store value) (machine.resume value frame).store := by
  cases frame with
  | branch yes no =>
      have released : Calm machine.store (machine.release [value]).store := .release _ .refl
      exact .calm (released.trans (calm_orFail (machine.release [value]) fun _ _ => .refl))
  | unary op => exact turns_performUnary (machine.push (.release [value])) value op
  | right op left => exact turns_performBinary (machine.push (.release [left, value])) left value op
  | receiver method rest =>
      cases rest with
      | nil => exact .calm (calm_call (machine.push (.release [value])) value method [])
      | cons first rest => exact .calm .refl
  | argument receiver method evaluated rest =>
      cases rest with
      | nil =>
          exact .calm (calm_call (machine.push (.release (receiver :: (evaluated ++ [value]))))
            receiver method (evaluated ++ [value]))
      | cons next rest => exact .calm .refl
  | judge comparison relation left right held =>
      exact .calm (calm_judge machine comparison relation left right held value)
  | assign | sequence | leave | release => exact .calm (.release _ .refl)
  | left | render => exact .calm .refl

theorem calm_unwind (error : EvalError) (frame : Frame) :
    Calm machine.store (machine.unwind error frame).store := by
  cases frame <;> exact .release _ .refl

end Operations

/-! ## Steps -/

theorem calm_runBody (session : Session) (fuel : Nat) (className name : String) (locals : Scope) :
    Calm session.store (runBody session fuel className name locals).store := by
  unfold runBody
  split
  · exact .release _ .refl
  · split
    · exact .release _ .refl
    · exact .release _ .refl
    · exact .refl

theorem calm_deliver (machine : Machine) (value : Handle) :
    Calm machine.store (machine.deliver value).store := by
  unfold deliver
  split
  next => exact .release _ .refl
  next => exact .refl
  next => exact .release _ .refl
  next => exact .refl
  next => exact .release _ .refl
  next className method name rest locals _ =>
    have released : Calm machine.store (machine.release (locals.displaced name)).store :=
      .release _ .refl
    refine released.trans ?_
    dsimp only
    split
    · exact calm_runBody (machine.release (locals.displaced name)).toSession _ _ _ _
    · exact .refl
  next => exact .release _ .refl

theorem calm_abandon (machine : Machine) (error : EvalError) :
    Calm machine.store (machine.abandon error).store := by
  unfold abandon
  split
  · exact .refl
  · exact .release _ .refl
  · exact .release _ .refl

/-- A step changes no field but the one that it is asked to change. -/
theorem turns_step (machine : Machine) :
    Turns machine.store machine.change? machine.step.store := by
  unfold step change?
  cases machine.control with
  | eval expr => exact .calm (calm_evaluate machine expr)
  | compare comparison relation left right => exact .calm (calm_compare machine _ _ _ _)
  | render purpose subject => exact .calm (calm_render machine _ _)
  | enter activation => exact .calm .refl
  | give value =>
      cases machine.stack with
      | nil => exact .calm (calm_deliver machine value)
      | cons frame stack => exact turns_resume { machine with stack } value frame
  | fail error =>
      cases machine.stack with
      | nil => exact .calm (calm_abandon machine error)
      | cons frame stack => exact .calm (calm_unwind { machine with stack } error frame)

/-! ## Runs -/

/-- A machine comes to be another one, and does not return to the frames before. These are the
changes of fields that are made on the way. -/
inductive Changes (base : List Frame) :
    Machine → List (Address × FieldChange) → Machine → Prop where
  | refl (machine : Machine) : Changes base machine [] machine
  | step {machine next last : Machine} {changes : List (Address × FieldChange)} :
      ¬machine.ReturnedTo base → machine.step = .running next → Changes base next changes last →
      Changes base machine (machine.change?.toList ++ changes) last

variable {start last : Machine} {base : List Frame} {changes : List (Address × FieldChange)}

theorem Reaches.exists_changes (reaches : Reaches base start last) :
    ∃ changes, Changes base start changes last := by
  induction reaches with
  | refl => exact ⟨[], .refl _⟩
  | step goesOn stepped _ ih =>
      obtain ⟨changes, changed⟩ := ih
      exact ⟨_, .step goesOn stepped changed⟩

/-- What is there after a run was there before or has been created on the way, and has been
changed only as it was asked for. -/
theorem Changes.exists_origin {address : Address} {object : Object}
    (changed : Changes base start changes last)
    (origin : last.store.Origin address object) :
    ∃ earlier, start.store.Origin address earlier ∧ object = earlier.changedBy address changes := by
  induction changed with
  | refl => exact ⟨object, origin, rfl⟩
  | @step machine next last changes _ stepped _ ih =>
      have turns := turns_step machine
      rw [stepped] at turns
      obtain ⟨between, originBetween, rfl⟩ := ih origin
      obtain ⟨earlier, originEarlier, rfl⟩ := turns.exists_origin originBetween
      exact ⟨earlier, originEarlier, (Object.changedBy_append _ _).symm⟩

end Machine

end Offside
