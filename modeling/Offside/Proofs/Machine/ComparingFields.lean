import Offside.Proofs.Machine.Deciding
import Offside.Proofs.Store.Sharing

/-!
# Bodies that compare a field

The body of a method reads a field of its receiver and the same field of its argument, and
compares them. Whatever that comes to, the body leaves the store as it was when it was started: what
it has copied is released again, and so is the answer.
-/

namespace Offside

/-- The method compares a field of its receiver with the same field of its only argument. -/
structure Method.ComparesField (method : Method) (field : String) (comparison : Comparison)
    (other : String) : Prop where
  params : method.params = [other]
  apart : other ≠ Store.selfName
  body : method.body = .binary (.compare comparison) (.unary (.field field) (.var Store.selfName))
    (.unary (.field field) (.var other))

/-- The body knows its operands. -/
theorem Method.ComparesField.get_locals {method : Method} {field other : String}
    {comparison : Comparison} (compares : method.ComparesField field comparison other)
    (receiver : Address) (right : Handle) :
    (method.locals receiver [right]).get Store.selfName = .alias receiver ∧
      (method.locals receiver [right]).get other = right := by
  have alone : method.locals receiver [right] =
      (Scope.bind {} Store.selfName (.alias receiver)).bind other right := by
    rw [Method.locals, compares.params]
    rfl
  rw [alone]
  exact ⟨(Scope.get_bind_of_ne (Ne.symm compares.apart)).trans (Scope.get_bind_self _ _ _),
    Scope.get_bind_self _ _ _⟩

namespace Machine

/-- Two machines with the same session, as far as it can be seen: the addresses that are no longer
used may be more. -/
structure Undisturbed (machine last : Machine) : Prop where
  classes : last.classes = machine.classes
  scope : last.scope = machine.scope
  output : last.output = machine.output
  cell? (address : Address) : last.store.cell? address = machine.store.cell? address

variable {machine middle last : Machine} {cells : Address → Option Cell} {owning : List Address}
  {field name : String} {error : EvalError} {address : Address} {cls : Class} {fields : Scope}
  {value : Handle} {caller : Scope}

open Store

theorem Undisturbed.trans (first : Undisturbed machine middle)
    (second : Undisturbed middle last) : Undisturbed machine last where
  classes := second.classes.trans first.classes
  scope := second.scope.trans first.scope
  output := second.output.trans first.output
  cell? address := (second.cell? address).trans (first.cell? address)

theorem Undisturbed.object?_eq (undisturbed : Undisturbed machine last) (address : Address) :
    last.store.object? address = machine.store.object? address :=
  congrArg (Option.map Cell.object) (undisturbed.cell? address)

theorem Undisturbed.allOwned (undisturbed : Undisturbed machine last)
    (allOwned : AllOwned machine.store.cell?) : AllOwned last.store.cell? := by
  intro address cell there
  rw [undisturbed.cell?] at there
  exact allOwned address cell there

/-! ## Reading a field -/

/-- A variable is read as the operand of an operation. -/
theorem reaches_variable {op : UnaryOp}
    (controlled : machine.control = .eval (.unary op (.var name))) :
    Reaches machine.stack machine
      ((machine.push (.unary op)).giveCopy (machine.scope.get name)) := by
  refine .step (not_returnedTo_of_control (by rw [controlled]; rfl)) (by rw [step, controlled]) ?_
  exact .step (not_returnedTo_of_control rfl) rfl (.refl _)

/-- The operand is held while its field is read. -/
theorem step_field (machine : Machine) (field : String) (operand : Handle) :
    ((machine.push (.unary (.field field))).giveCopy operand).step =
      .running (((machine.retain [operand]).push (.release [operand])).orFail
        (machine.store.getInstance operand) fun (_, _, fields) =>
          ((machine.retain [operand]).push (.release [operand])).giveCopy (fields.get field)) := by
  have same : (machine.store.retain [operand]).getInstance operand =
      machine.store.getInstance operand :=
    getInstance_congr (fun _ => object?_retain _) operand
  rw [← same]
  rfl

section Reading

variable (controlled : machine.control = .eval (.unary (.field field) (.var name)))
  (shares : machine.store.Shares cells owning) (allOwned : AllOwned cells)
include controlled shares allOwned

theorem exists_returns_field
    (found : machine.store.getInstance (machine.scope.get name) = .ok (address, cls, fields)) :
    ∃ store, Returns machine.stack machine
        { machine with store, control := .give (fields.get field) } ∧
      store.Shares cells (Handle.owned [fields.get field] ++ owning) := by
  have stepped := step_field machine field (machine.scope.get name)
  rw [found] at stepped
  have longer (frame : Frame) : machine.stack.length < (frame :: machine.stack).length :=
    Nat.lt_succ_self _
  refine ⟨_, ⟨(reaches_variable controlled).trans
    (.step (not_returnedTo_of_length_lt (longer _)) stepped
      (.step (not_returnedTo_of_length_lt (longer _)) rfl (.refl _))), rfl, rfl⟩, ?_⟩
  have retained := (shares.retain [machine.scope.get name]).retain [fields.get field]
  refine Shares.release (retained.perm ?_) allOwned
  rw [← List.append_assoc, ← List.append_assoc]
  exact List.perm_append_comm.append_right owning

theorem exists_returns_field_error
    (failed : machine.store.getInstance (machine.scope.get name) = .error error) :
    ∃ store, Returns machine.stack machine { machine with store, control := .fail error } ∧
      store.Shares cells owning := by
  have stepped := step_field machine field (machine.scope.get name)
  rw [failed] at stepped
  have longer (frame : Frame) : machine.stack.length < (frame :: machine.stack).length :=
    Nat.lt_succ_self _
  exact ⟨_, ⟨(reaches_variable controlled).trans
    (.step (not_returnedTo_of_length_lt (longer _)) stepped
      (.step (not_returnedTo_of_length_lt (longer _)) rfl (.refl _))), rfl, rfl⟩,
    (shares.retain [machine.scope.get name]).release allOwned⟩

end Reading

/-! ## Leaving a body -/

/-- A value leaves the body when the operands of the comparison have been released. -/
theorem exists_returns_give {taken : List Handle} (controlled : machine.control = .give value)
    (top : machine.stack = [.release taken, .leave caller])
    (shares : machine.store.Shares cells
      (Handle.owned taken ++ (Handle.owned machine.scope.handles ++ owning)))
    (allOwned : AllOwned cells) :
    ∃ store, Returns [] machine
        { machine with scope := caller, store, control := .give value, stack := [] } ∧
      store.Shares cells owning := by
  have released : machine.step =
      .running { machine with
        store := machine.store.release taken
        control := .give value
        stack := [.leave caller] } := by
    rw [step, controlled, top]
    rfl
  refine ⟨_, ⟨.step (not_returnedTo_of_length_lt ?_) released
    (.step (not_returnedTo_of_length_lt (Nat.succ_pos _)) rfl (.refl _)), rfl, rfl⟩,
    (shares.release allOwned).release allOwned⟩
  rw [top]
  exact Nat.succ_pos _

/-- An error leaves the body after the operands have been released. -/
theorem exists_returns_fail {frame : Frame} (controlled : machine.control = .fail error)
    (top : machine.stack = [frame, .leave caller])
    (unwinds : ∀ machine : Machine,
      machine.unwind error frame = (machine.release frame.handles).fail error)
    (shares : machine.store.Shares cells
      (Handle.owned frame.handles ++ (Handle.owned machine.scope.handles ++ owning)))
    (allOwned : AllOwned cells) :
    ∃ store, Returns [] machine
        { machine with scope := caller, store, control := .fail error, stack := [] } ∧
      store.Shares cells owning := by
  have released : machine.step =
      .running { machine with
        store := machine.store.release frame.handles
        control := .fail error
        stack := [.leave caller] } := by
    rw [step, controlled, top]
    exact congrArg Next.running (unwinds _)
  refine ⟨_, ⟨.step (not_returnedTo_of_length_lt ?_) released
    (.step (not_returnedTo_of_length_lt (Nat.succ_pos _)) rfl (.refl _)), rfl, rfl⟩,
    (shares.release allOwned).release allOwned⟩
  rw [top]
  exact Nat.succ_pos _


/-! ## The body -/

/-- The machine in a body that was started for it. -/
def inside (machine : Machine) (locals : Scope) (store : Store) (control : Control)
    (stack : List Frame) : Machine :=
  { machine with scope := locals, store, fuel := machine.fuel - 1, control, stack }

section Body

variable {receiver : Address} {method : Method} {other : String} {comparison : Comparison}
  {right : Handle} (held : List Handle) (compares : method.ComparesField field comparison other)
  (leftFound : machine.store.getInstance (.alias receiver) = .ok (address, cls, fields))
  (allOwned : AllOwned machine.store.cell?)

/-- The owners that are held for the body. -/
def heldFor (method : Method) (receiver : Address) (right : Handle) (held : List Handle) :
    List Address :=
  Handle.owned ((method.locals receiver [right]).handles ++ held)

include compares leftFound allOwned

/-- The field of the receiver is read first. -/
theorem exists_reaches_right :
    ∃ store, Reaches [] (machine.consulted receiver method right held)
        (machine.inside (method.locals receiver [right]) store
          (.eval (.unary (.field field) (.var other)))
          [.right (.compare comparison) (fields.get field), .leave machine.scope]) ∧
      store.Shares machine.store.cell?
        (Handle.owned [fields.get field] ++ heldFor method receiver right held) := by
  let locals := method.locals receiver [right]
  let retained := machine.store.retain (locals.handles ++ held)
  have shares : retained.Shares machine.store.cell? (heldFor method receiver right held) := by
    have shares := (shares_self machine.store).retain (locals.handles ++ held)
    rw [List.append_nil] at shares
    exact shares
  have found : retained.getInstance (locals.get Store.selfName) = .ok (address, cls, fields) := by
    rw [(compares.get_locals receiver right).1, ← leftFound]
    exact getInstance_congr (fun _ => object?_retain _) _
  let within := machine.inside locals retained
  let reading : Machine := within (.eval (.unary (.field field) (.var Store.selfName)))
    [.left (.compare comparison) (.unary (.field field) (.var other)), .leave machine.scope]
  have controlled : reading.control = .eval (.unary (.field field) (.var Store.selfName)) := rfl
  obtain ⟨store, ⟨reads, _⟩, shares⟩ := exists_returns_field controlled shares allOwned found
  have begins : Reaches [] (machine.consulted receiver method right held) reading := by
    have entered : (machine.consulted receiver method right held).step =
        .running (within (.eval method.body) [.leave machine.scope]) := rfl
    rw [compares.body] at entered
    exact .step (not_returnedTo_of_control rfl) entered
      (.step (not_returnedTo_of_control rfl) rfl (.refl _))
  have toRight : Reaches [] reading _ := reads.toLower (List.suffix_refl _) (Nat.succ_pos _)
  refine ⟨store, begins.trans (toRight.trans ?_), shares⟩
  exact .step (not_returnedTo_of_length_lt (Nat.succ_pos _)) rfl (.refl _)

/-- Then the field of the argument is read, and the values are there to be compared. -/
theorem exists_reaches_operands {address' : Address} {cls' : Class} {fields' : Scope}
    (rightFound : machine.store.getInstance right = .ok (address', cls', fields')) :
    ∃ store, Reaches [] (machine.consulted receiver method right held)
        (machine.inside (method.locals receiver [right]) store (.give (fields'.get field))
          [.right (.compare comparison) (fields.get field), .leave machine.scope]) ∧
      store.Shares machine.store.cell?
        (Handle.owned [fields.get field, fields'.get field] ++
          heldFor method receiver right held) := by
  obtain ⟨store, toRight, shares⟩ := exists_reaches_right held compares leftFound allOwned
  let reading := machine.inside (method.locals receiver [right]) store
    (.eval (.unary (.field field) (.var other)))
    [.right (.compare comparison) (fields.get field), .leave machine.scope]
  have controlled : reading.control = .eval (.unary (.field field) (.var other)) := rfl
  have found : store.getInstance ((method.locals receiver [right]).get other) =
      .ok (address', cls', fields') := by
    rw [(compares.get_locals receiver right).2, ← rightFound]
    exact getInstance_congr shares.object?_eq _
  obtain ⟨store, ⟨reads, _⟩, shares⟩ := exists_returns_field controlled shares allOwned found
  refine ⟨store, toRight.trans (reads.toLower (List.suffix_refl _) (Nat.succ_pos _)),
    shares.perm ?_⟩
  rw [← List.append_assoc, ← Handle.owned_append]
  exact (owned_perm (List.Perm.swap _ _ _)).append_right _

/-- If the argument is no instance, the body fails. -/
theorem exists_reaches_fail (failed : machine.store.getInstance right = .error error) :
    ∃ store, Reaches [] (machine.consulted receiver method right held)
        (machine.inside (method.locals receiver [right]) store (.fail error)
          [.right (.compare comparison) (fields.get field), .leave machine.scope]) ∧
      store.Shares machine.store.cell?
        (Handle.owned [fields.get field] ++ heldFor method receiver right held) := by
  obtain ⟨store, toRight, shares⟩ := exists_reaches_right held compares leftFound allOwned
  let reading := machine.inside (method.locals receiver [right]) store
    (.eval (.unary (.field field) (.var other)))
    [.right (.compare comparison) (fields.get field), .leave machine.scope]
  have controlled : reading.control = .eval (.unary (.field field) (.var other)) := rfl
  have failed : store.getInstance ((method.locals receiver [right]).get other) =
      .error error := by
    rw [(compares.get_locals receiver right).2, ← failed]
    exact getInstance_congr shares.object?_eq _
  obtain ⟨store, ⟨reads, _⟩, shares⟩ := exists_returns_field_error controlled shares allOwned failed
  exact ⟨store, toRight.trans (reads.toLower (List.suffix_refl _) (Nat.succ_pos _)), shares⟩

end Body

/-! ## Decisions by such a body -/

section Deciding

variable {relation : Relation} {left right first second : Handle} {receiver : Address}
  {method : Method} {held : List Handle} {fuel : Nat} {result : Except EvalError Bool}
  {ending : Machine}
  (asked : machine.store.DecidesBy relation left right receiver method held)
  (more : 0 < machine.fuel) (allOwned : AllOwned machine.store.cell?)
  (reaches : Reaches [] (machine.consulted receiver method right held) ending)
  (undisturbed : ending.classes = machine.classes ∧ ending.output = machine.output ∧
    ending.scope = method.locals receiver [right])
include asked more allOwned reaches undisturbed

/-- A body that ends with an error has decided nothing, and has left no trace. -/
theorem exists_decides_of_fail {frame : Frame} (controlled : ending.control = .fail error)
    (top : ending.stack = [frame, .leave machine.scope])
    (unwinds : ∀ machine : Machine,
      machine.unwind error frame = (machine.release frame.handles).fail error)
    (shares : ending.store.Shares machine.store.cell?
      (Handle.owned frame.handles ++ heldFor method receiver right held)) :
    ∃ last, Decides machine relation left right (.error error) last ∧
      Undisturbed machine last ∧ last.fuel = ending.fuel := by
  obtain ⟨classes, output, scope⟩ := undisturbed
  rw [heldFor, Handle.owned_append, ← scope, ← List.append_nil (Handle.owned held)] at shares
  obtain ⟨store, returns, shares⟩ := exists_returns_fail controlled top unwinds shares allOwned
  refine ⟨_, .failed asked more (reaches.returns returns) rfl, ⟨classes, rfl, output, ?_⟩, rfl⟩
  exact (shares.release allOwned).cell?_eq

/-- A body that ends with a new truth value has decided by it, and the value goes with the rest. -/
theorem exists_decides_of_give {holds : Bool} {answer : Address} {taken : List Handle}
    (alive : ∀ address ∈ heldFor method receiver right held, (machine.store.cell? address).isSome)
    (controlled : ending.control = .give (.owner answer))
    (top : ending.stack = [.release taken, .leave machine.scope])
    (new : machine.store.cell? answer = none)
    (shares : ending.store.Shares
      (Function.update machine.store.cell? answer (some { object := .bool holds, owners := 1 }))
      (Handle.owned taken ++ heldFor method receiver right held)) :
    ∃ last, Decides machine relation left right (.ok holds) last ∧
      Undisturbed machine last ∧ last.fuel = ending.fuel := by
  obtain ⟨classes, output, scope⟩ := undisturbed
  rw [heldFor, Handle.owned_append, ← scope] at shares
  obtain ⟨store, returns, shares⟩ := exists_returns_give controlled top shares (allOwned.update _)
  have unowned : answer ∉ Handle.owned held := by
    intro member
    have there := alive answer (by
      rw [heldFor, Handle.owned_append]
      exact List.mem_append_right _ member)
    rw [new] at there
    cases there
  have truth : store.truth (.owner answer) = .ok holds := by
    have there : store.object? answer = some (.bool holds) := by
      rw [shares.object?_eq, Function.update_self]
      rfl
    have found : store.resolve (.owner answer) = .ok (some (answer, .bool holds)) :=
      resolve_eq_some_iff.mpr ⟨rfl, there⟩
    rw [Store.truth, found]
    rfl
  have decides := Decides.judged asked more (reaches.returns returns) rfl
  dsimp only at decides
  rw [truth] at decides
  refine ⟨_, decides, ⟨classes, rfl, output, ?_⟩, rfl⟩
  have dropped := shares.dropOwner_of_update rfl new unowned
  rw [← List.append_nil (Handle.owned held)] at dropped
  have last := dropped.release allOwned
  rw [Store.release, ← dropOwners_append] at last
  exact last.cell?_eq

end Deciding

end Machine

end Offside
