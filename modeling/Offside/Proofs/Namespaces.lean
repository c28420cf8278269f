import Mathlib.Data.List.Nodup
import Offside.Proofs.Machine.Bodies
import Offside.Proofs.Machine.Changing
import Offside.Proofs.Machine.Dispatch
import Offside.Proofs.MethodResolution

/-!
# Namespaces of calls

A body begins with the locals of its call: the receiver under its own name for itself, and the
arguments under the names of the parameters. It may do with them what it likes; when the call is
over, the scope of the caller is what it was. The fields of instances are no locals, and change
only where a program says so.
-/

namespace Offside

open Machine

namespace Scope

variable {scope : Scope} {name other : String} {value : Handle} {pairs : List (String × Handle)}

theorem names_unbind (scope : Scope) (name : String) :
    (scope.unbind name).names = scope.names.filter (· != name) := by
  rw [names, names, unbind, List.filter_map]
  rfl

theorem mem_names_bind : other ∈ (scope.bind name value).names ↔
    other = name ∨ other ∈ scope.names := by
  have bound : (scope.bind name value).names = name :: (scope.unbind name).names := rfl
  rw [bound, names_unbind, List.mem_cons, List.mem_filter, bne_iff_ne]
  tauto

theorem nodup_names_bind (nodup : scope.names.Nodup) : (scope.bind name value).names.Nodup := by
  have bound : (scope.bind name value).names = name :: (scope.unbind name).names := rfl
  rw [bound, names_unbind, List.nodup_cons]
  refine ⟨fun member => ?_, nodup.filter _⟩
  have different := (List.mem_filter.mp member).2
  exact bne_iff_ne.mp different rfl

theorem mem_names_bindAll : other ∈ (scope.bindAll pairs).names ↔
    other ∈ scope.names ∨ other ∈ pairs.map Prod.fst := by
  induction pairs generalizing scope with
  | nil => simp [bindAll]
  | cons pair pairs ih =>
      rw [bindAll, ih, mem_names_bind, List.map_cons, List.mem_cons]
      tauto

theorem nodup_names_bindAll (nodup : scope.names.Nodup) : (scope.bindAll pairs).names.Nodup := by
  induction pairs generalizing scope with
  | nil => exact nodup
  | cons pair pairs ih => exact ih (nodup_names_bind nodup)

/-- Of the values for a name the last one counts. -/
theorem get_bindAll_of_last {index : Nat} (bound : pairs[index]? = some (name, value))
    (last : ∀ later, index < later → (pairs[later]?).map Prod.fst ≠ some name) :
    (scope.bindAll pairs).get name = value := by
  induction pairs generalizing scope index with
  | nil => cases bound
  | cons pair pairs ih =>
      cases index with
      | zero =>
          cases bound
          have free : name ∉ pairs.map Prod.fst := by
            intro member
            obtain ⟨later, there⟩ := List.mem_iff_getElem?.mp member
            rw [List.getElem?_map] at there
            exact last (later + 1) (Nat.succ_pos later) there
          rw [bindAll, get_bindAll_of_not_mem free, get_bind_self]
      | succ index =>
          exact ih bound fun later after => last (later + 1) (Nat.succ_lt_succ after)

end Scope

namespace Method

variable {method : Method} {receiver : Address} {arguments : List Handle}
  (matching : arguments.length = method.arity)
include matching

theorem map_fst_zip_params : (method.params.zip arguments).map Prod.fst = method.params :=
  List.map_fst_zip (Nat.le_of_eq matching.symm)

theorem mem_names_locals {name : String} : name ∈ (method.locals receiver arguments).names ↔
    name = Store.selfName ∨ name ∈ method.params := by
  rw [locals, Scope.mem_names_bindAll, map_fst_zip_params matching, Scope.mem_names_bind]
  simp [Scope.names]

theorem get_param_locals {index : Nat} {name : String} {value : Handle}
    (param : method.params[index]? = some name) (argument : arguments[index]? = some value)
    (last : ∀ later, index < later → method.params[later]? ≠ some name) :
    (method.locals receiver arguments).get name = value := by
  apply Scope.get_bindAll_of_last (List.getElem?_zip_eq_some.mpr ⟨param, argument⟩)
  intro later after
  rw [← List.getElem?_map, map_fst_zip_params matching]
  exact last later after

end Method

/-- A scope as a body of a method begins with it. -/
structure Method.Begins (method : Method) (receiver : Address) (arguments : List Handle)
    (scope : Scope) : Prop where
  nodup : scope.names.Nodup
  mem_names_iff (name : String) : name ∈ scope.names ↔ name = Store.selfName ∨ name ∈ method.params
  /-- A parameter is bound to the very handle that stands in its last place. -/
  get_param {index : Nat} {name : String} {value : Handle} :
    method.params[index]? = some name → arguments[index]? = some value →
      (∀ later, index < later → method.params[later]? ≠ some name) → scope.get name = value
  get_selfName : Store.selfName ∉ method.params → scope.get Store.selfName = .alias receiver

theorem Method.begins_locals {method : Method} {arguments : List Handle}
    (matching : arguments.length = method.arity) (receiver : Address) :
    method.Begins receiver arguments (method.locals receiver arguments) where
  nodup := Scope.nodup_names_bindAll (Scope.nodup_names_bind List.nodup_nil)
  mem_names_iff _ := mem_names_locals matching
  get_param := get_param_locals matching
  get_selfName free := get_selfName_locals free receiver arguments

namespace Machine

/-- The machine is about to evaluate the body of a method, and will then go back to a caller. -/
structure BeginsBody (receiver : Address) (method : Method) (arguments : List Handle)
    (caller body : Machine) : Prop where
  control : body.control = .eval method.body
  scope : method.Begins receiver arguments body.scope
  stack : body.stack = .leave caller.scope :: caller.stack

variable {machine started : Machine} {receiver : Address} {method : Method}
  {arguments : List Handle} {activation : Activation}

theorem step_of_enter (entered : started.control = .enter activation) :
    started.step = .running (started.enter activation) := by
  rw [step, entered]

theorem beginsBody_enter (matching : arguments.length = method.arity) :
    BeginsBody receiver method arguments started
      (started.enter (.ofCall receiver method arguments)) where
  control := rfl
  scope := Method.begins_locals matching receiver
  stack := rfl

theorem Dispatch.exists_methodTaking? {store : Store} {waiting : List Frame} {holder : Frame}
    (dispatch : Dispatch store receiver method arguments waiting holder) :
    ∃ cls name fields, store.object? receiver = some (.instanceOf cls fields) ∧
      cls.methodTaking? name arguments.length = some method := by
  cases dispatch with
  | call found taking => exact ⟨_, _, _, Store.object?_of_getInstance found, taking⟩
  | comparison _ found _ taking => exact ⟨_, _, _, (Store.resolve_eq_some_iff.mp found).2, taking⟩
  | rendering _ found taking => exact ⟨_, _, _, (Store.resolve_eq_some_iff.mp found).2, taking⟩

/-- Whenever a body is entered, for a call or for another operation, it begins with the locals of
its call. -/
theorem exists_beginsBody (stepped : machine.step = .running started)
    (entered : started.control = .enter activation) :
    ∃ receiver method arguments body cls name fields,
      machine.store.object? receiver = some (.instanceOf cls fields) ∧
        cls.methodTaking? name arguments.length = some method ∧
        started.step = .running body ∧ BeginsBody receiver method arguments started body := by
  obtain ⟨receiver, method, arguments, _, _, _, entering⟩ :=
    byDispatch_step stepped activation entered
  obtain ⟨cls, name, fields, there, taking⟩ := entering.dispatch.exists_methodTaking?
  have matching := (Class.methodTaking?_eq_some_iff.mp taking).2.symm
  exact ⟨receiver, method, arguments, _, cls, name, fields, there, taking,
    step_of_enter entering.control, beginsBody_enter matching⟩

/-- A call that finds its method begins the body of it. -/
theorem exists_beginsBody_of_call {subject : Handle} {name : String} {cls : Class} {fields : Scope}
    (found : machine.store.getInstance subject = .ok (receiver, cls, fields))
    (taking : cls.methodTaking? name arguments.length = some method) (some : 0 < machine.fuel) :
    ∃ started body,
      ((Operation.call subject name arguments).awaiting machine).step = .running started ∧
        started.scope = machine.scope ∧ started.step = .running body ∧
        BeginsBody receiver method arguments started body := by
  have held : (machine.push (.release (subject :: arguments))).store.getInstance subject =
      .ok (receiver, cls, fields) := found
  obtain ⟨fuel, enough⟩ := Nat.exists_eq_succ_of_ne_zero (Nat.ne_of_gt some)
  have matching := (Class.methodTaking?_eq_some_iff.mp taking).2.symm
  refine ⟨_, _, Operation.step_call machine subject name arguments, scope_call _ _ _ _,
    step_of_enter ?_, beginsBody_enter matching⟩
  rw [call_of_taking held taking, invoke]
  simp only [push, enough]

/-- What is there when an operation is over, and what its caller goes on with. -/
theorem exists_returns_of_operation (operation : Operation) (machine : Machine) :
    ∃ last changes, Returns (operation.base machine) (operation.awaiting machine) last ∧
      last.scope = machine.scope ∧
      Changes (operation.base machine) (operation.awaiting machine) changes last ∧
      ∀ address object, last.store.object? address = some object →
        ∃ earlier, machine.store.Origin address earlier ∧
          object = earlier.changedBy address changes := by
  obtain ⟨started, stepped, here⟩ := operation.exists_atOperation machine
  obtain ⟨started', stepped', above⟩ := operation.exists_started machine
  cases stepped.symm.trans stepped'
  obtain ⟨last, reaches, returned⟩ := above.exists_returns
  have begun : Reaches (operation.base machine) (operation.awaiting machine) last :=
    .step (operation.not_returnedTo_awaiting machine) stepped reaches
  obtain ⟨changes, changed⟩ := begun.exists_changes
  have keeps : started.KeepsScope machine.scope (operation.base machine) :=
    .inForce here (Operation.scope_of_step_awaiting stepped)
  refine ⟨last, changes, ⟨begun, returned⟩, (keeps.reaches reaches).scope_of_returnedTo returned,
    changed, ?_⟩
  intro address object there
  have origin := changed.exists_origin (.inl there)
  rw [operation.store_awaiting] at origin
  exact origin

end Machine

/-- A call that finds its method begins the body with locals of its own: the receiver under its
own name for itself, and each parameter bound to the argument in its last place. So does every
body that is entered on the way. When the call is over, whether it gives a value or fails, the
caller goes on with the scope that it had; and whatever there is then was there before or has been
created since, with the changes made to its fields that were asked for by setting and deleting
fields, one after the other. -/
theorem call_namespace_private :
    (∀ (machine : Machine) (subject : Handle) (name : String) (arguments : List Handle)
        (receiver : Address) (cls : Class) (fields : Scope) (method : Method),
      machine.store.getInstance subject = .ok (receiver, cls, fields) →
      cls.methodTaking? name arguments.length = some method → 0 < machine.fuel →
      ∃ started body,
        ((Operation.call subject name arguments).awaiting machine).step = .running started ∧
          started.scope = machine.scope ∧ started.step = .running body ∧
          BeginsBody receiver method arguments started body) ∧
    (∀ (machine started : Machine) (activation : Activation),
      machine.step = .running started → started.control = .enter activation →
      ∃ receiver method arguments body cls name fields,
        machine.store.object? receiver = some (.instanceOf cls fields) ∧
          cls.methodTaking? name arguments.length = some method ∧
          started.step = .running body ∧ BeginsBody receiver method arguments started body) ∧
    ∀ (operation : Operation) (machine : Machine),
      ∃ last changes, Returns (operation.base machine) (operation.awaiting machine) last ∧
        last.scope = machine.scope ∧
        Changes (operation.base machine) (operation.awaiting machine) changes last ∧
        ∀ address object, last.store.object? address = some object →
          ∃ earlier, machine.store.Origin address earlier ∧
            object = earlier.changedBy address changes :=
  ⟨fun _ _ _ _ _ _ _ _ => exists_beginsBody_of_call, fun _ _ _ => exists_beginsBody,
    exists_returns_of_operation⟩

/-- A method that names a parameter twice and hides its receiver by another, and then loses them. -/
def mixMethod : Method where
  name := "mix"
  params := ["x", "self", "x"]
  body := .sequence [.binary (.setField "seen") (.var "self") (.var "x"),
    .assign "self" (.literal .nothing), .unassign "x"]

/-- A class with that method. -/
def mixClass : Class :=
  .root "Mix" [mixMethod]

/-- The machine that is to tell an instance of the class to mix another one, in a scope with the
same names. -/
def beforeMix : Machine where
  classes := { entries := [("Mix", mixClass)] }
  store := (Store.allocateInstance {} mixClass).allocateInstance mixClass
  scope := (Scope.bind {} "self" (.owner 1)).bind "x" (.owner 0)
  fuel := 1
  control := .give .empty
  stack := []
  goal := .inspect .describe

/-- The body knows the other instance as itself and has nothing as the other parameter. What it does
with these names is lost on the caller. -/
theorem call_namespace_private_of_mix :
    (∃ started body,
      ((Operation.call (.alias 0) "mix" [.alias 1, .alias 1, .empty]).awaiting beforeMix).step =
          .running started ∧
        started.step = .running body ∧ body.scope.names.Nodup ∧
        body.scope.get "self" = .alias 1 ∧ body.scope.get "x" = .empty) ∧
      ∃ last changes,
        Changes [.release [.alias 0, .alias 1, .alias 1, .empty]]
          ((Operation.call (.alias 0) "mix" [.alias 1, .alias 1, .empty]).awaiting beforeMix)
          changes last ∧
        last.scope.get "self" = .owner 1 ∧ last.scope.get "x" = .owner 0 := by
  obtain ⟨calls, _, operations⟩ := call_namespace_private
  constructor
  · obtain ⟨started, body, stepped, _, entered, begins⟩ :=
      calls beforeMix (.alias 0) "mix" [.alias 1, .alias 1, .empty] 0 mixClass
        (Scope.bind {} Store.selfName (.alias 0)) mixMethod rfl rfl (by decide)
    have within {later : Nat} {name : String} (there : mixMethod.params[later]? = some name) :
        later < 3 := (List.getElem?_eq_some_iff.mp there).1
    refine ⟨started, body, stepped, entered, begins.scope.nodup, ?_, ?_⟩
    · have param : mixMethod.params[1]? = some "self" := rfl
      refine begins.scope.get_param param rfl fun later after there => ?_
      obtain rfl : later = 2 := by
        have below := within there
        omega
      exact absurd there (by decide)
    · have param : mixMethod.params[2]? = some "x" := rfl
      refine begins.scope.get_param param rfl fun later after there => ?_
      have below := within there
      omega
  · obtain ⟨last, changes, _, scope, changed, _⟩ :=
      operations (.call (.alias 0) "mix" [.alias 1, .alias 1, .empty]) beforeMix
    exact ⟨last, changes, changed, by rw [scope]; rfl, by rw [scope]; rfl⟩

end Offside
