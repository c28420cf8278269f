import Offside.Proofs.Machine.Bodies
import Offside.Proofs.Machine.Refusing

/-!
# Which method answers

The methods of a class and of all that it extends form one list, and the first one of a name
answers to it. Calls, comparisons and renderings agree on that, and on the number of
arguments that it must take. What they do if it takes another number, or if there is none,
is their own affair: a call is refused, and the others do without.
-/

namespace Offside

open Machine

namespace Class

/-- The methods along the chain of a class: its own in their order, and then those of the
class that it extends. -/
def chain : Class → List Method
  | .root _ methods => methods
  | .derived _ methods parent => methods ++ parent.chain

variable {cls : Class} {name : String} {arity : Nat} {method : Method}

theorem method?_eq_find? (cls : Class) (name : String) :
    cls.method? name = cls.chain.find? (·.name == name) := by
  induction cls with
  | root _ methods => rfl
  | derived _ methods parent ih =>
      rw [method?, chain, List.find?_append, ih]
      cases methods.find? (·.name == name) <;> rfl

theorem methodTaking?_eq_some_iff :
    cls.methodTaking? name arity = some method ↔
      cls.chain.find? (·.name == name) = some method ∧ method.arity = arity := by
  rw [methodTaking?, method?_eq_find?, Option.filter_eq_some_iff, beq_iff_eq]

theorem hasMethod_eq_false_iff :
    cls.hasMethod name arity = false ↔
      ∀ method, cls.chain.find? (·.name == name) = some method → method.arity ≠ arity := by
  rw [hasMethod, Option.isSome_eq_false_iff, Option.isNone_iff_eq_none,
    Option.eq_none_iff_forall_ne_some]
  constructor
  · intro none method first same
    exact none method (methodTaking?_eq_some_iff.mpr ⟨first, same⟩)
  · intro none method taking
    obtain ⟨first, same⟩ := methodTaking?_eq_some_iff.mp taking
    exact none method first same

end Class

/-! ## Who is called -/

namespace Store

variable {store : Store} {relation : Relation} {left right subject : Handle} {address : Address}
  {cls : Class} {fields : Scope} {rightFound : Option (Address × Object)}

/-- A comparison calls a method of the left operand exactly if the class has one for it. -/
theorem verdict_eq_ask_iff
    (leftThere : store.resolve left = .ok (some (address, .instanceOf cls fields)))
    (rightThere : store.resolve right = .ok rightFound) :
    (∃ held, store.verdict relation left right = .ok (.ask address cls held)) ↔
      cls.hasMethod relation.method 1 := by
  constructor
  · rintro ⟨held, asked⟩
    obtain ⟨_, _, _, _, has, _⟩ := verdict_eq_ask asked
    exact has
  · intro has
    exact ⟨_, verdict_of_hasMethod leftThere rightThere has⟩

/-- A rendering calls a method of the subject exactly if the class has one for it. -/
theorem rendering_eq_ask_iff
    (there : store.resolve subject = .ok (some (address, .instanceOf cls fields))) :
    store.rendering subject = .ok (.ask address cls) ↔ cls.hasMethod renderMethod 0 := by
  constructor
  · intro asked
    obtain ⟨_, _, has⟩ := rendering_eq_ask asked
    exact has
  · exact rendering_of_hasMethod there

end Store

/-! ## Who is refused -/

namespace Operation

/-- Nothing but a call is refused by itself. -/
theorem eq_call_of_atRefusedCall {operation : Operation} {machine : Machine} {error : EvalError}
    (refused : (operation.awaiting machine).AtRefusedCall error) :
    ∃ receiver name arguments, operation = .call receiver name arguments := by
  obtain ⟨caller, receiver, name, arguments, _, _, _, same, _⟩ := refused
  have sameTop := congrArg (List.head? ∘ Machine.stack) same
  cases operation with
  | call receiver name arguments => exact ⟨receiver, name, arguments, rfl⟩
  | _ =>
      simp only [awaiting, Function.comp_apply] at sameTop
      split at sameTop <;> cases sameTop

/-- A frame that waits for an operand of a call is none of an operation under way. -/
theorem exists_frame_of_atRefusedCall {machine : Machine} {error : EvalError}
    (refused : machine.AtRefusedCall error) :
    machine.control.isOutcome ∧
      ∃ frame stack, machine.stack = frame :: stack ∧ frame.isOperational = false := by
  obtain ⟨caller, receiver, name, arguments, _, _, _, rfl, _⟩ := refused
  rw [awaiting]
  split
  · exact ⟨rfl, _, _, rfl, rfl⟩
  · exact ⟨rfl, _, _, rfl, rfl⟩

/-- A call that is refused while an operation is under way is made in a body. -/
theorem inBody_of_atRefusedCall {machine : Machine} {base : List Frame} {error : EvalError}
    (refused : machine.AtRefusedCall error) (goesOn : ¬machine.ReturnedTo base)
    (underWay : machine.AtOperation base ∨ machine.InBody base) : machine.InBody base := by
  obtain ⟨outcome, frame, stack, top, other⟩ := exists_frame_of_atRefusedCall refused
  rcases underWay with ⟨⟨upper, top', operational⟩, _⟩ | inside
  · cases upper with
    | nil => exact (goesOn ⟨top', outcome⟩).elim
    | cons waiting upper =>
        rw [top] at top'
        cases top'
        rw [operational frame List.mem_cons_self] at other
        cases other
  · exact inside

/-- If the error of a refused call comes up in an operation that is not refused itself, it was
in a body that the call was refused. -/
theorem exists_refusedCall_inBody {operation : Operation} {machine : Machine}
    {error : EvalError} {count : Nat}
    (noCall : ∀ receiver name arguments, operation ≠ .call receiver name arguments)
    (underWay : ∀ earlier, earlier < count →
      ¬((operation.awaiting machine).after earlier).ReturnedTo (operation.base machine))
    (failed : ((operation.awaiting machine).after count).control = .fail error)
    (refused : error.isNoSuchMethod) :
    ∃ earlier, earlier < count ∧
      ((operation.awaiting machine).after earlier).AtRefusedCall error ∧
      ((operation.awaiting machine).after earlier).InBody (operation.base machine) := by
  obtain ⟨started, stepped, here⟩ := operation.exists_atOperation machine
  have fresh : (operation.awaiting machine).control ≠ .fail error := by
    intro failed
    cases operation with
    | call receiver name arguments => exact noCall _ _ _ rfl
    | _ => cases failed
  obtain ⟨earlier, before, refusedCall⟩ := exists_refusedCall fresh failed refused
  refine ⟨earlier, before, refusedCall, ?_⟩
  cases earlier with
  | zero =>
      obtain ⟨receiver, name, arguments, same⟩ := eq_call_of_atRefusedCall refusedCall
      exact (noCall _ _ _ same).elim
  | succ earlier =>
      have goesOn := underWay (earlier + 1) before
      rw [after_succ stepped] at refusedCall goesOn ⊢
      refine inBody_of_atRefusedCall refusedCall goesOn (here.after fun sooner within => ?_)
      rw [← after_succ stepped]
      exact underWay (sooner + 1) (Nat.lt_trans (Nat.succ_lt_succ within) before)

end Operation

/-- The first method of a name along the chain of a class counts, and all agree on it. A call
to an instance is refused exactly if that method takes another number of arguments or is
missing, whatever is further up; the refusal names the class, the method and the number of
arguments, and is all that happens. A comparison and a rendering call the method that they need
exactly if the class has it, and the call finds the first one of the name. So the error of a
refused call is never their own: if it comes up while they are under way, a call in a body was
refused. -/
theorem first_method_of_chain_answers :
    (∀ (cls : Class) (name : String), cls.method? name = cls.chain.find? (·.name == name)) ∧
      (∀ (cls : Class) (name : String) (arity : Nat), cls.hasMethod name arity = false ↔
        ∀ method, cls.chain.find? (·.name == name) = some method → method.arity ≠ arity) ∧
      (∀ (machine : Machine) (receiver : Handle) (name : String) (arguments : List Handle)
          (address : Address) (cls : Class) (fields : Scope),
        machine.store.getInstance receiver = .ok (address, cls, fields) →
        ∃ started,
          ((Operation.call receiver name arguments).awaiting machine).step = .running started ∧
            ((∃ error, started.control = .fail error ∧ error.isNoSuchMethod) ↔
              cls.hasMethod name arguments.length = false) ∧
            (cls.hasMethod name arguments.length = false →
              started = (machine.push (.release (receiver :: arguments))).fail
                (.noSuchMethod cls.name name arguments.length)) ∧
            ∀ method, cls.chain.find? (·.name == name) = some method →
              method.arity = arguments.length →
              started = (machine.push (.release (receiver :: arguments))).invoke
                (.ofCall address method arguments) [.release [.owner address]]) ∧
      (∀ (machine : Machine) (comparison : Comparison) (relation : Relation)
          (left right : Handle) (address : Address) (cls : Class) (fields : Scope)
          (rightFound : Option (Address × Object)),
        machine.store.resolve left = .ok (some (address, .instanceOf cls fields)) →
        machine.store.resolve right = .ok rightFound →
        ((∃ held, machine.store.verdict relation left right = .ok (.ask address cls held)) ↔
            cls.hasMethod relation.method 1) ∧
          ∀ method, cls.chain.find? (·.name == relation.method) = some method →
            method.arity = 1 →
            machine.compare comparison relation left right =
              machine.invoke (.ofCall address method [right])
                [.judge comparison relation left right
                  [.owner address, Store.holdOf rightFound]]) ∧
      (∀ (machine : Machine) (purpose : Purpose) (subject : Handle) (address : Address)
          (cls : Class) (fields : Scope),
        machine.store.resolve subject = .ok (some (address, .instanceOf cls fields)) →
        (machine.store.rendering subject = .ok (.ask address cls) ↔
            cls.hasMethod renderMethod 0) ∧
          ∀ method, cls.chain.find? (·.name == renderMethod) = some method →
            method.arity = 0 →
            machine.render purpose subject =
              machine.invoke (.ofCall address method [])
                [.render purpose, .release [.owner address]]) ∧
      (∀ (machine : Machine) (comparison : Comparison) (relation : Relation)
          (left right : Handle) (error : EvalError),
        (machine.compare comparison relation left right).control = .fail error →
        error.isNoSuchMethod = false) ∧
      (∀ (machine : Machine) (purpose : Purpose) (subject : Handle) (error : EvalError),
        (machine.render purpose subject).control = .fail error →
        error.isNoSuchMethod = false) ∧
      ∀ (operation : Operation) (machine : Machine) (error : EvalError) (count : Nat),
        (∀ receiver name arguments, operation ≠ .call receiver name arguments) →
        (∀ earlier, earlier < count →
          ¬((operation.awaiting machine).after earlier).ReturnedTo (operation.base machine)) →
        ((operation.awaiting machine).after count).control = .fail error →
        error.isNoSuchMethod →
        ∃ earlier, earlier < count ∧
          ((operation.awaiting machine).after earlier).AtRefusedCall error ∧
          ((operation.awaiting machine).after earlier).InBody (operation.base machine) := by
  refine ⟨Class.method?_eq_find?, fun _ _ _ => Class.hasMethod_eq_false_iff, ?_, ?_, ?_,
    fun _ comparison relation left right => quiet_compare comparison relation left right,
    fun _ purpose subject => quiet_render purpose subject, ?_⟩
  · intro machine receiver name arguments address cls fields found
    have found : (machine.push (.release (receiver :: arguments))).store.getInstance receiver =
        .ok (address, cls, fields) := found
    refine ⟨_, Operation.step_call machine receiver name arguments, ?_, ?_, ?_⟩
    · constructor
      · rintro ⟨error, failed, refused⟩
        obtain ⟨address', cls', fields', found', missing, _⟩ := refused_of_call failed refused
        rw [found] at found'
        cases found'
        exact missing
      · intro missing
        rw [call_of_refused found missing]
        exact ⟨_, rfl, rfl⟩
    · intro missing
      exact call_of_refused found missing
    · intro method first taking
      exact call_of_taking found (Class.methodTaking?_eq_some_iff.mpr ⟨first, taking⟩)
  · intro machine comparison relation left right address cls fields rightFound leftThere rightThere
    refine ⟨Store.verdict_eq_ask_iff leftThere rightThere, fun method first taking => ?_⟩
    refine compare_of_decidesBy (Store.decidesBy_iff.mpr ?_) comparison
    exact ⟨cls, fields, rightFound, leftThere, rightThere,
      Class.methodTaking?_eq_some_iff.mpr ⟨first, taking⟩, rfl⟩
  · intro machine purpose subject address cls fields there
    refine ⟨Store.rendering_eq_ask_iff there, fun method first taking => ?_⟩
    refine render_of_rendersBy (Store.rendersBy_iff.mpr ?_) purpose
    exact ⟨cls, fields, there, Class.methodTaking?_eq_some_iff.mpr ⟨first, taking⟩⟩
  · intro operation machine error count noCall underWay failed refused
    exact Operation.exists_refusedCall_inBody noCall underWay failed refused

/-- A class whose first method of a name hides a second one and that of the class it extends. -/
def hidingClass : Class :=
  .derived "Derived"
    [{ name := "f", params := ["x"], body := .var "x" },
     { name := "f", params := [], body := .literal .nothing }]
    (.root "Base"
      [{ name := "f", params := [], body := .literal .nothing },
       { name := "__str__", params := [], body := .call (.var "self") "f" [] }])

/-- A machine with an instance of the class. -/
def hidingMachine : Machine :=
  { classes := { entries := [("Derived", hidingClass)] }
    store := Store.allocateInstance {} hidingClass
    fuel := 10
    control := .give (.owner 0)
    stack := []
    goal := .inspect .describe }

/-- Neither the second method nor the inherited one answers in place of the first, and when
the instance is rendered it is the call in its method that is refused. -/
theorem first_method_of_chain_answers_of_hidden :
    (∃ started, ((Operation.call (.owner 0) "f" []).awaiting hidingMachine).step =
        .running started ∧ started.control = .fail (.noSuchMethod "Derived" "f" 0)) ∧
      ∃ earlier, earlier < 6 ∧
        (((Operation.render (.owner 0)).awaiting hidingMachine).after earlier).AtRefusedCall
          (.noSuchMethod "Derived" "f" 0) ∧
        (((Operation.render (.owner 0)).awaiting hidingMachine).after earlier).InBody
          [.release [.owner 0]] := by
  obtain ⟨_, hasMethod, calls, _, _, _, _, errors⟩ := first_method_of_chain_answers
  constructor
  · have found : hidingMachine.store.getInstance (.owner 0) =
        .ok (0, hidingClass, Scope.bind {} Store.selfName (.alias 0)) := rfl
    have missing : hidingClass.hasMethod "f" 0 = false := by decide
    obtain ⟨started, stepped, _, refused, _⟩ := calls _ _ "f" [] _ _ _ found
    refine ⟨started, stepped, ?_⟩
    rw [refused missing]
    rfl
  · have underWay : (List.range 6).all fun earlier =>
        let machine := ((Operation.render (.owner 0)).awaiting hidingMachine).after earlier
        !(machine.control.isOutcome && machine.stack.all Frame.isOperational) := by
      rfl
    have failed : (((Operation.render (.owner 0)).awaiting hidingMachine).after 6).control =
        .fail (.noSuchMethod "Derived" "f" 0) := rfl
    have noCall (receiver : Handle) (name : String) (arguments : List Handle) :
        Operation.render (.owner 0) ≠ .call receiver name arguments := by
      intro same
      cases same
    refine errors (.render (.owner 0)) _ _ 6 noCall ?_ failed rfl
    intro earlier before returned
    have goesOn := List.all_eq_true.mp underWay earlier (List.mem_range.mpr before)
    simp only [returned.1, returned.2] at goesOn
    cases goesOn

end Offside
