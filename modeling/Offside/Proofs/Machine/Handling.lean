import Offside.Proofs.Machine.Point

/-!
# What the machine does with handles

Each operation of the machine is put together from moves of handles. What an
operation borrows is held by the frames below it for as long as it is borrowed.
-/

namespace Offside

/-- What every waiting operation borrows is held by the frames below it. -/
inductive StackCovered : List Frame → Prop where
  | nil : StackCovered []
  | cons {frame : Frame} {stack : List Frame} :
      frame.borrowed ⊆ stack.flatMap Frame.handles → StackCovered stack →
      StackCovered (frame :: stack)

/-- What is borrowed is held by the frames. -/
structure Machine.Covered (machine : Machine) : Prop where
  control : machine.control.borrowed ⊆ machine.stack.flatMap Frame.handles
  stack : StackCovered machine.stack

namespace Point

/-- What is borrowed inside a command is held there. -/
def Covered : Point → Prop
  | .between _ => True
  | .inside machine => machine.Covered

/-- Moves lead from a holding to a point at which everything borrowed is held. -/
structure Follows (holding : Holding) (point : Point) : Prop where
  moves : holding.Moves point.holding
  covered : point.Covered

variable {store : Store} {held handles : List Handle} {point : Point}

theorem Follows.of_moves {before after : Holding} (moves : before.Moves after)
    (follows : Follows after point) : Follows before point where
  moves := moves.trans follows.moves
  covered := follows.covered

theorem Follows.of_perm {held' : List Handle} (same : held.Perm held')
    (follows : Follows ⟨store, held'⟩ point) : Follows ⟨store, held⟩ point :=
  follows.of_moves (.single (.rearrange same))

theorem Follows.of_copy (offered : ∀ handle ∈ handles, Holding.Offers ⟨store, held⟩ handle)
    (follows : Follows ⟨store.retain handles, handles ++ held⟩ point) :
    Follows ⟨store, held⟩ point :=
  follows.of_moves (.single (.copy offered))

theorem Follows.of_drop (handles : List Handle)
    (follows : Follows ⟨store.release handles, held⟩ point) :
    Follows ⟨store, handles ++ held⟩ point :=
  follows.of_moves (.single .drop)

end Point

namespace Machine

open Point

/-- The handles that a machine holds apart from its control. -/
def waiting (machine : Machine) : List Handle :=
  machine.scope.handles ++ machine.stack.flatMap Frame.handles ++ machine.goal.handles

/-- What a machine has at hand apart from its control. -/
def rest (machine : Machine) : Holding :=
  { store := machine.store, held := machine.waiting }

theorem perm_roots (machine : Machine) :
    (machine.control.handles ++ machine.waiting).Perm machine.roots := by
  rw [List.perm_iff_count]
  intro handle
  simp only [waiting, roots, List.count_append]
  omega

theorem perm_waiting_push (machine : Machine) (frame : Frame) :
    (frame.handles ++ machine.waiting).Perm (machine.push frame).waiting := by
  rw [List.perm_iff_count]
  intro handle
  simp only [waiting, push, List.flatMap_cons, List.count_append]
  omega

theorem mem_waiting_of_frame {machine : Machine} {handle : Handle}
    (member : handle ∈ machine.stack.flatMap Frame.handles) : handle ∈ machine.waiting :=
  List.mem_append_left _ (List.mem_append_right _ member)

theorem mem_waiting_of_scope {machine : Machine} {handle : Handle}
    (member : handle ∈ machine.scope.handles) : handle ∈ machine.waiting :=
  List.mem_append_left _ (List.mem_append_left _ member)

theorem offers_empty (holding : Holding) : holding.Offers .empty :=
  .inr (.inr fun _ refers => nomatch refers)

theorem offers_of_object? {holding : Holding} {handle : Handle} {target : Address}
    {object : Object} (refers : handle.target? = some target)
    (found : holding.store.object? target = some object) : holding.Offers handle := by
  refine .inr (.inr fun target' refers' => ?_)
  rw [refers] at refers'
  rw [← Option.some.inj refers', found]
  rfl

/-- The locals of a call are an alias of the receiver and copies of the arguments. -/
theorem offers_locals {machine : Machine} {receiver : Address} {object : Object}
    {arguments : List Handle} (found : machine.store.object? receiver = some object)
    (held : arguments ⊆ machine.stack.flatMap Frame.handles) (method : Method) :
    ∀ handle ∈ (method.locals receiver arguments).handles, machine.rest.Offers handle := by
  intro handle member
  rcases Scope.mem_handles_of_bindAll member with self | argument
  · obtain rfl := List.mem_singleton.mp self
    exact offers_of_object? rfl found
  · obtain ⟨pair, zipped, rfl⟩ := List.mem_map.mp argument
    exact .inl (mem_waiting_of_frame (held (List.of_mem_zip zipped).2))

/-! ## Going on -/

section Going

variable (machine : Machine) (covered : StackCovered machine.stack)
include covered

theorem follows_inside (control : Control)
    (borrows : control.borrowed ⊆ machine.stack.flatMap Frame.handles) :
    Follows ⟨machine.store, control.handles ++ machine.waiting⟩
      (.inside { machine with control }) where
  moves := .single (.rearrange (perm_roots { machine with control }))
  covered := ⟨borrows, covered⟩

theorem follows_eval (expr : Expr) : Follows machine.rest (.inside (machine.eval expr)) :=
  follows_inside machine covered (.eval expr) (List.nil_subset _)

theorem follows_fail (error : EvalError) : Follows machine.rest (.inside (machine.fail error)) :=
  follows_inside machine covered (.fail error) (List.nil_subset _)

theorem follows_give (value : Handle) :
    Follows ⟨machine.store, value :: machine.waiting⟩ (.inside (machine.give value)) :=
  follows_inside machine covered (.give value) (List.nil_subset _)

theorem follows_giveCopy {value : Handle} (offered : machine.rest.Offers value) :
    Follows machine.rest (.inside (machine.giveCopy value)) := by
  apply Follows.of_copy (List.forall_mem_singleton.mpr offered)
  exact follows_give (machine.retain [value]) covered value

theorem follows_giveEmpty : Follows machine.rest (.inside (machine.give .empty)) :=
  follows_giveCopy machine covered (offers_empty _)

theorem follows_giveAlias {address : Address} {object : Object}
    (found : machine.store.object? address = some object) :
    Follows machine.rest (.inside (machine.give (.alias address))) := by
  have offered : machine.rest.Offers (.alias address) := offers_of_object? rfl found
  exact follows_giveCopy machine covered offered

theorem follows_giveObject {object : Object} (plain : object.handles = []) :
    Follows machine.rest (.inside (machine.giveObject object)) := by
  have created : machine.rest.Move
      ⟨machine.store.allocate object, .owner machine.store.nextAddress :: machine.waiting⟩ := by
    apply Holding.Move.create
    rw [plain]
    exact fun handle member => nomatch member
  apply Follows.of_moves (.single created)
  exact follows_give { machine with store := machine.store.allocate object } covered _

theorem follows_giveInstance (cls : Class) :
    Follows machine.rest (.inside (machine.giveInstance cls)) := by
  have created : machine.rest.Move ⟨machine.store.allocateInstance cls,
      .owner machine.store.nextAddress :: machine.waiting⟩ := by
    apply Holding.Move.create
    exact fun handle member => List.mem_singleton.mp member
  apply Follows.of_moves (.single created)
  exact follows_give { machine with store := machine.store.allocateInstance cls } covered _

theorem follows_orFail {α : Type} {result : Except EvalError α} {next : α → Machine}
    (going : ∀ value, result = .ok value → Follows machine.rest (.inside (next value))) :
    Follows machine.rest (.inside (machine.orFail result next)) := by
  cases result with
  | ok value => exact going value rfl
  | error error => exact follows_fail machine covered error

theorem covered_push {frame : Frame} (borrowsNothing : frame.borrowed = []) :
    StackCovered (machine.push frame).stack := by
  apply StackCovered.cons _ covered
  rw [borrowsNothing]
  exact List.nil_subset _

/-- An expression is evaluated while a frame waits with the handles that are for it. -/
theorem follows_evalUnder (frame : Frame) (borrowsNothing : frame.borrowed = []) (expr : Expr) :
    Follows ⟨machine.store, frame.handles ++ machine.waiting⟩
      (.inside ((machine.push frame).eval expr)) := by
  apply Follows.of_perm (perm_waiting_push machine frame)
  exact follows_eval (machine.push frame) (covered_push machine covered borrowsNothing) expr

/-- An operation goes on while a frame holds its operands. -/
theorem follows_hold (operands : List Handle) {point : Point}
    (follows : StackCovered (machine.push (.release operands)).stack →
      operands ⊆ (machine.push (.release operands)).stack.flatMap Frame.handles →
      Follows (machine.push (.release operands)).rest point) :
    Follows ⟨machine.store, operands ++ machine.waiting⟩ point := by
  apply Follows.of_perm (perm_waiting_push machine (.release operands))
  exact follows (covered_push machine covered rfl) (List.subset_append_left _ _)

/-- A method body starts with copies of all that its locals and its frames hold. -/
theorem follows_invoke {activation : Activation} {frames : List Frame}
    (offered : ∀ handle ∈ activation.locals.handles ++ frames.flatMap Frame.handles,
      machine.rest.Offers handle)
    (coveredThen : StackCovered (frames ++ machine.stack)) :
    Follows machine.rest (.inside (machine.invoke activation frames)) := by
  unfold invoke
  split
  · exact follows_fail machine covered _
  next fuel _ =>
    apply Follows.of_copy offered
    constructor
    · refine .single (.rearrange ?_)
      rw [List.perm_iff_count]
      intro handle
      simp only [held, roots, waiting, retain, Control.handles, List.flatMap_append,
        List.count_append]
      omega
    · exact ⟨List.nil_subset _, coveredThen⟩

/-- The fields of an instance are replaced, and what was displaced is dropped. -/
theorem follows_putFields {address : Address} {cls : Class} {fields fields' : Scope}
    {held displaced : List Handle}
    (found : machine.store.object? address = some (.instanceOf cls fields))
    (same : (fields.handles ++ held).Perm
      (displaced ++ fields'.handles ++ machine.waiting)) :
    Follows ⟨machine.store, held⟩
      (.inside (({ machine with store := machine.store.putFields address fields' }.release
        displaced).give .empty)) := by
  have exchanged : Holding.Move ⟨machine.store, held⟩
      ⟨machine.store.putFields address fields', displaced ++ machine.waiting⟩ := by
    apply Holding.Move.exchange found
    apply same.trans
    rw [List.append_assoc]
    exact List.perm_append_comm_assoc _ _ _
  apply Follows.of_moves (.single exchanged)
  apply Follows.of_drop _
  exact follows_giveEmpty ({ machine with
    store := machine.store.putFields address fields' }.release displaced) covered

/-! ## Operations on held values -/

theorem follows_performUnary {operand : Handle}
    (operandHeld : operand ∈ machine.stack.flatMap Frame.handles) (op : UnaryOp) :
    Follows machine.rest (.inside (machine.performUnary operand op)) := by
  cases op with
  | «alias» =>
      apply follows_orFail machine covered
      rintro ⟨address, object⟩ found
      exact follows_giveAlias machine covered (Store.get_eq_ok_iff.mp found).2
  | selfOf =>
      apply follows_orFail machine covered
      rintro ⟨address, cls, fields⟩ found
      exact follows_giveAlias machine covered (Store.object?_of_getInstance found)
  | field name =>
      apply follows_orFail machine covered
      rintro ⟨address, cls, fields⟩ found
      apply follows_giveCopy machine covered
      rcases fields.get_mem_handles name with empty | member
      · rw [empty]
        exact offers_empty _
      · exact .inr (.inl (Store.mem_fieldHandles_iff.mpr
          ⟨address, _, Store.object?_of_getInstance found, member⟩))
  | deleteField name =>
      apply follows_orFail machine covered
      rintro ⟨address, cls, fields⟩ found
      apply follows_putFields machine covered (Store.object?_of_getInstance found)
      exact (fields.perm_handles name).append_right machine.waiting
  | truth =>
      exact follows_orFail machine covered fun value _ => follows_giveObject machine covered rfl
  | print =>
      exact follows_inside machine covered (.render .output operand)
        (List.cons_subset.mpr ⟨operandHeld, List.nil_subset _⟩)
  | render =>
      exact follows_inside machine covered (.render .value operand)
        (List.cons_subset.mpr ⟨operandHeld, List.nil_subset _⟩)

theorem follows_performBinary {left right : Handle}
    (held : [left, right] ⊆ machine.stack.flatMap Frame.handles) (op : BinaryOp) :
    Follows machine.rest (.inside (machine.performBinary left right op)) := by
  cases op with
  | setField name =>
      apply follows_orFail machine covered
      rintro ⟨address, cls, fields⟩ found
      -- The new value is counted in first, which leaves the instance as it was.
      have found : (machine.store.retain [right]).object? address =
          some (.instanceOf cls fields) := by
        rw [Store.object?_retain]
        exact Store.object?_of_getInstance found
      have rightHeld : right ∈ machine.waiting := mem_waiting_of_frame (held (by simp))
      apply Follows.of_copy (List.forall_mem_singleton.mpr (.inl rightHeld))
      apply follows_putFields (machine.retain [right]) covered found
      exact List.perm_middle.trans ((fields.perm_handles_bind name right).append_right _)
  | compare comparison => exact follows_inside machine covered (.compare ..) held
  | add =>
      apply follows_orFail machine covered
      intro object summed
      exact follows_giveObject machine covered (Object.handles_eq_nil (Store.kind_ne_of_sum summed))

/-- A method is called with arguments that are held, of a receiver that is there. -/
theorem follows_dispatch {receiver : Address} {object : Object} {arguments : List Handle}
    {frames : List Frame} (there : machine.store.object? receiver = some object)
    (held : arguments ⊆ machine.stack.flatMap Frame.handles)
    (offered : ∀ handle ∈ frames.flatMap Frame.handles, machine.rest.Offers handle)
    (coveredThen : StackCovered (frames ++ machine.stack)) (cls : Class) (name : String) :
    Follows machine.rest (.inside (machine.dispatch receiver cls name arguments frames)) := by
  unfold dispatch
  split
  · exact follows_fail machine covered _
  next method _ =>
    refine follows_invoke machine covered (fun handle member => ?_) coveredThen
    rcases List.mem_append.mp member with «local» | kept
    · exact offers_locals there held method handle «local»
    · exact offered handle kept

theorem follows_call {receiver : Handle} {arguments : List Handle}
    (held : arguments ⊆ machine.stack.flatMap Frame.handles) (name : String) :
    Follows machine.rest (.inside (machine.call receiver name arguments)) := by
  apply follows_orFail machine covered
  rintro ⟨address, cls, fields⟩ found
  have found := Store.object?_of_getInstance found
  apply follows_dispatch machine covered found held
  · exact List.forall_mem_singleton.mpr (offers_of_object? rfl found)
  · exact .cons (List.nil_subset _) covered

theorem follows_conclude {comparison : Comparison} {relation : Relation} {left right : Handle}
    (held : [left, right] ⊆ machine.stack.flatMap Frame.handles) (holds : Bool) :
    Follows machine.rest
      (.inside (machine.conclude comparison relation left right holds)) := by
  unfold conclude
  split
  · exact follows_inside machine covered (.compare ..) held
  · exact follows_giveObject machine covered rfl

theorem follows_compare {comparison : Comparison} {relation : Relation} {left right : Handle}
    (held : [left, right] ⊆ machine.stack.flatMap Frame.handles) :
    Follows machine.rest (.inside (machine.compare comparison relation left right)) := by
  apply follows_orFail machine covered
  intro verdict found
  cases verdict with
  | decided holds => exact follows_conclude machine covered held holds
  | ask receiver cls resolved =>
      obtain ⟨⟨object, there⟩, alive⟩ := Store.alive_of_verdict found
      apply follows_dispatch machine covered there (List.cons_subset.mp held).2
      · intro handle kept
        rw [List.flatMap_cons, List.flatMap_nil, List.append_nil] at kept
        exact .inr (.inr (alive handle kept))
      · exact .cons held covered

theorem follows_judge {comparison : Comparison} {relation : Relation} {left right : Handle}
    (borrowed : [left, right] ⊆ machine.stack.flatMap Frame.handles) (held : List Handle)
    (value : Handle) :
    Follows ⟨machine.store, value :: held ++ machine.waiting⟩
      (.inside (machine.judge comparison relation left right held value)) := by
  apply Follows.of_drop _
  apply follows_orFail (machine.release (value :: held)) covered
  intro holds _
  exact follows_conclude (machine.release (value :: held)) covered borrowed holds

theorem follows_finishRendering (pieces : List String) (purpose : Purpose) :
    Follows machine.rest (.inside (machine.finishRendering pieces purpose)) := by
  cases purpose with
  | value => exact follows_giveObject machine covered rfl
  | output =>
      let written := { machine with
        output := machine.output.write (String.join pieces).toUTF8 }
      simp only [finishRendering]
      split
      · exact follows_giveEmpty written covered
      · exact follows_fail written covered _
  | own =>
      let written := { machine with own := (machine.own.writePieces pieces).1 }
      simp only [finishRendering]
      split
      · exact follows_giveEmpty written covered
      · exact follows_fail written covered _

theorem follows_render (purpose : Purpose) (subject : Handle) :
    Follows machine.rest (.inside (machine.render purpose subject)) := by
  apply follows_orFail machine covered
  intro rendering found
  cases rendering with
  | text pieces => exact follows_finishRendering machine covered pieces purpose
  | ask receiver cls =>
      obtain ⟨object, there⟩ := Store.object?_of_rendering found
      apply follows_dispatch machine covered there (List.nil_subset _)
      · exact List.forall_mem_singleton.mpr (offers_of_object? rfl there)
      · exact .cons (List.nil_subset _) (.cons (List.nil_subset _) covered)

theorem follows_literal (value : Literal) :
    Follows machine.rest (.inside (machine.literal value)) := by
  cases value with
  | nothing => exact follows_giveEmpty machine covered
  | bool | number | text => exact follows_giveObject machine covered rfl

theorem follows_withClass {name : String} {next : Class → Machine}
    (going : ∀ cls, Follows machine.rest (.inside (next cls))) :
    Follows machine.rest (.inside (machine.withClass name next)) := by
  unfold withClass
  split
  · exact going _
  · exact follows_fail machine covered _

/-! ## Scopes -/

omit covered in
/-- A scope is exchanged for another one, with handles given up and taken in. -/
theorem perm_waiting_scope {scope : Scope} {taken dropped : List Handle}
    (same : (taken ++ machine.scope.handles).Perm (dropped ++ scope.handles)) :
    (taken ++ machine.waiting).Perm (dropped ++ { machine with scope }.waiting) := by
  have others := same.append_right
    (machine.stack.flatMap Frame.handles ++ machine.goal.handles)
  simpa only [waiting, List.append_assoc] using others

omit covered in
theorem perm_waiting_leave (caller : Scope) :
    (caller.handles ++ machine.waiting).Perm
      (machine.scope.handles ++ { machine with scope := caller }.waiting) :=
  perm_waiting_scope machine List.perm_append_comm

/-- A scope is exchanged for another one, what it displaced is dropped, and the value
is nothing. -/
theorem follows_bind {scope : Scope} (taken : List Handle) {dropped : List Handle}
    (same : (taken ++ machine.scope.handles).Perm (dropped ++ scope.handles)) :
    Follows ⟨machine.store, taken ++ machine.waiting⟩
      (.inside (({ machine with scope }.release dropped).give .empty)) := by
  apply Follows.of_perm (perm_waiting_scope machine same)
  apply Follows.of_drop _
  exact follows_giveEmpty ({ machine with scope }.release dropped) covered

theorem follows_enter (activation : Activation) :
    Follows ⟨machine.store, activation.locals.handles ++ machine.waiting⟩
      (.inside (machine.enter activation)) where
  moves := by
    refine .single (.rearrange ?_)
    rw [List.perm_iff_count]
    intro handle
    simp only [held, enter, roots, waiting, Control.handles, Frame.handles, List.flatMap_cons,
      List.append_nil, List.count_append]
    omega
  covered := ⟨List.nil_subset _, .cons (List.nil_subset _) covered⟩

theorem follows_evaluate (expr : Expr) :
    Follows machine.rest (.inside (machine.evaluate expr)) := by
  cases expr with
  | literal value => exact follows_literal machine covered value
  | var name =>
      apply follows_giveCopy machine covered
      rcases machine.scope.get_mem_handles name with empty | member
      · rw [empty]
        exact offers_empty _
      · exact .inl (mem_waiting_of_scope member)
  | assign name value => exact follows_evalUnder machine covered (.assign name) rfl value
  | unassign name => exact follows_bind machine covered [] (machine.scope.perm_handles name)
  | sequence parts =>
      rcases parts with _ | ⟨first, _ | ⟨next, rest⟩⟩
      · exact follows_giveEmpty machine covered
      · exact follows_eval machine covered first
      · exact follows_evalUnder machine covered (.sequence next rest) rfl first
  | branch condition yes no =>
      exact follows_evalUnder machine covered (.branch yes no) rfl condition
  | create name => exact follows_withClass machine covered (follows_giveInstance machine covered)
  | classObject name =>
      exact follows_withClass machine covered fun cls => follows_giveObject machine covered rfl
  | unary op operand => exact follows_evalUnder machine covered (.unary op) rfl operand
  | binary op left right => exact follows_evalUnder machine covered (.left op right) rfl left
  | call receiver method arguments =>
      exact follows_evalUnder machine covered (.receiver method arguments) rfl receiver
  | raise message => exact follows_fail machine covered _

/-! ## Frames -/

omit covered in
/-- A value joins the arguments that are there already. -/
theorem perm_arguments (receiver value : Handle) (evaluated : List Handle) :
    (value :: receiver :: evaluated ++ machine.waiting).Perm
      (receiver :: (evaluated ++ [value]) ++ machine.waiting) := by
  apply List.Perm.append_right
  apply (List.Perm.swap receiver value evaluated).trans
  exact (List.perm_append_singleton value evaluated).symm.cons receiver

/-- A value goes to a frame that was topmost, with all that the frame holds. -/
theorem follows_resume (value : Handle) (frame : Frame)
    (borrowed : frame.borrowed ⊆ machine.stack.flatMap Frame.handles) :
    Follows ⟨machine.store, value :: frame.handles ++ machine.waiting⟩
      (.inside (machine.resume value frame)) := by
  cases frame with
  | assign name =>
      exact follows_bind machine covered [value] (machine.scope.perm_handles_bind name value)
  | sequence next rest =>
      apply Follows.of_drop _
      exact follows_eval (machine.release [value]) covered _
  | branch yes no =>
      apply Follows.of_drop _
      apply follows_orFail (machine.release [value]) covered
      intro holds _
      exact follows_eval (machine.release [value]) covered _
  | unary op =>
      apply follows_hold machine covered [value]
      intro covered operands
      exact follows_performUnary _ covered (operands List.mem_cons_self) op
  | left op right => exact follows_evalUnder machine covered (.right op value) rfl right
  | right op left =>
      apply Follows.of_perm (List.Perm.swap left value machine.waiting)
      apply follows_hold machine covered [left, value]
      intro covered operands
      exact follows_performBinary _ covered operands op
  | receiver method rest =>
      cases rest with
      | nil =>
          apply follows_hold machine covered [value]
          intro covered _
          exact follows_call _ covered (List.nil_subset _) method
      | cons first rest =>
          exact follows_evalUnder machine covered (.argument value method [] rest) rfl first
  | argument receiver method evaluated rest =>
      apply Follows.of_perm (perm_arguments machine receiver value evaluated)
      cases rest with
      | nil =>
          apply follows_hold machine covered (receiver :: (evaluated ++ [value]))
          intro covered operands
          exact follows_call _ covered (List.cons_subset.mp operands).2 method
      | cons next rest =>
          exact follows_evalUnder machine covered
            (.argument receiver method (evaluated ++ [value]) rest) rfl next
  | leave caller =>
      apply Follows.of_perm ((perm_waiting_leave machine caller).cons value)
      apply Follows.of_perm List.perm_middle.symm
      apply Follows.of_drop _
      exact follows_give ({ machine with scope := caller }.release machine.scope.handles) covered
        value
  | release held =>
      apply Follows.of_perm List.perm_middle.symm
      apply Follows.of_drop _
      exact follows_give (machine.release held) covered value
  | judge comparison relation left right held =>
      exact follows_judge machine covered borrowed held value
  | render purpose =>
      apply follows_hold machine covered [value]
      intro covered operands
      exact follows_inside _ covered (.render purpose value) operands

theorem follows_unwind (error : EvalError) (frame : Frame) :
    Follows ⟨machine.store, frame.handles ++ machine.waiting⟩
      (.inside (machine.unwind error frame)) := by
  unfold unwind
  split
  next caller =>
    apply Follows.of_perm (perm_waiting_leave machine caller)
    apply Follows.of_drop _
    exact follows_fail ({ machine with scope := caller }.release machine.scope.handles) covered
      error
  next =>
    apply Follows.of_drop _
    exact follows_fail (machine.release frame.handles) covered error

end Going

end Machine

end Offside
