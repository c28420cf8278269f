import Offside.Proofs.Machine.Operation
import Offside.Proofs.Machine.Refusing
import Offside.Proofs.Machine.Returning
import Offside.Proofs.Store.Dropping

/-!
# Decisions

A comparison decides one relation, or two if it asks for equality when the order does not hold.
Each of them is decided by the values of the operands, or by a method of the left one, whose
body is run for it. The second relation is decided for what the operands refer to by then.
-/

namespace Offside

/-- The comparisons that may ask for equality ask for the order first. -/
theorem Comparison.relation_of_orEqual {comparison : Comparison} (orEqual : comparison.orEqual) :
    comparison.relation = .order := by
  cases comparison with
  | lessOrEqual | greater => rfl
  | _ => cases orEqual

namespace Machine

variable {machine last : Machine} {relation : Relation} {left right : Handle}
  {result : Except EvalError Bool}

/-- The machine about to enter the body by which a receiver decides a relation, with nothing
below it. The operands are held besides its locals. -/
def consulted (machine : Machine) (receiver : Address) (method : Method) (right : Handle)
    (held : List Handle) : Machine :=
  { machine.retain ((method.locals receiver [right]).handles ++ held) with
    fuel := machine.fuel - 1
    control := .enter (.ofCall receiver method [right])
    stack := [] }

/-- Deciding a relation between two operands comes to a result. The machine at the beginning
stands for the session and the fuel that there are then, the last one for those in the end. -/
inductive Decides (machine : Machine) (relation : Relation) (left right : Handle) :
    Except EvalError Bool → Machine → Prop where
  | refused {error : EvalError} :
      machine.store.verdict relation left right = .error error →
      Decides machine relation left right (.error error) machine
  | byValue {holds : Bool} :
      machine.store.verdict relation left right = .ok (.decided holds) →
      Decides machine relation left right (.ok holds) machine
  | exhausted {receiver : Address} {method : Method} {held : List Handle} :
      machine.store.DecidesBy relation left right receiver method held →
      machine.fuel = 0 →
      Decides machine relation left right (.error .outOfFuel) machine
  | failed {receiver : Address} {method : Method} {held : List Handle} {error : EvalError}
      {last : Machine} :
      machine.store.DecidesBy relation left right receiver method held →
      0 < machine.fuel →
      Returns [] (machine.consulted receiver method right held) last →
      last.control = .fail error →
      Decides machine relation left right (.error error) (last.release held)
  | judged {receiver : Address} {method : Method} {held : List Handle} {value : Handle}
      {returned : Machine} :
      machine.store.DecidesBy relation left right receiver method held →
      0 < machine.fuel →
      Returns [] (machine.consulted receiver method right held) returned →
      returned.control = .give value →
      Decides machine relation left right (returned.store.truth value)
        (returned.release (value :: held))

/-- A comparison comes to a result: the relation that it asks first has the answer, or the
order does not hold and equality is decided after it. -/
inductive Compares (machine : Machine) (comparison : Comparison) (left right : Handle) :
    Except EvalError Bool → Machine → Prop where
  | once {result : Except EvalError Bool} {last : Machine} :
      Decides machine comparison.relation left right result last →
      (comparison.orEqual → result ≠ .ok false) →
      Compares machine comparison left right (result.map (· != comparison.negated)) last
  | again {middle last : Machine} {result : Except EvalError Bool} :
      comparison.orEqual → Decides machine comparison.relation left right (.ok false) middle →
      Decides middle .equality left right result last →
      Compares machine comparison left right (result.map (· != comparison.negated)) last

/-- Every relation comes to be decided. -/
theorem exists_decides (machine : Machine) (relation : Relation) (left right : Handle) :
    ∃ result last, Decides machine relation left right result last := by
  cases asked : machine.store.verdict relation left right with
  | error error => exact ⟨_, _, .refused asked⟩
  | ok verdict =>
      cases verdict with
      | decided holds => exact ⟨_, _, .byValue asked⟩
      | ask receiver cls held =>
          obtain ⟨method, asked⟩ := Store.exists_decidesBy asked
          rcases Nat.eq_zero_or_pos machine.fuel with none | some
          · exact ⟨_, _, .exhausted asked none⟩
          have above : (machine.consulted receiver method right held).Above [] := List.nil_suffix
          obtain ⟨returned, returns⟩ := above.exists_returns
          rcases Control.eq_give_or_fail returns.returned.2 with
            ⟨value, controlled⟩ | ⟨error, controlled⟩
          · exact ⟨_, _, .judged asked some returns controlled⟩
          · exact ⟨_, _, .failed asked some returns controlled⟩

theorem exists_compares (machine : Machine) (comparison : Comparison) (left right : Handle) :
    ∃ result last, Compares machine comparison left right result last := by
  obtain ⟨result, last, decides⟩ := exists_decides machine comparison.relation left right
  by_cases further : comparison.orEqual ∧ result = .ok false
  · obtain ⟨orEqual, rfl⟩ := further
    obtain ⟨result, final, decides'⟩ := exists_decides last .equality left right
    exact ⟨_, _, .again orEqual decides decides'⟩
  · exact ⟨_, _, .once decides fun orEqual fails => further ⟨orEqual, fails⟩⟩

/-! ## The course of a comparison -/

/-- The machine that is to decide a relation for a comparison over frames. -/
def toCompare (machine : Machine) (comparison : Comparison) (relation : Relation)
    (left right : Handle) (base : List Frame) (goal : Goal) : Machine :=
  { machine with control := .compare comparison relation left right, stack := base, goal }

/-- The machine when a relation has been decided for a comparison over frames. -/
def decided (last : Machine) (comparison : Comparison) (relation : Relation) (left right : Handle)
    (result : Except EvalError Bool) (base : List Frame) (goal : Goal) : Machine :=
  let machine := { last with stack := base, goal }
  machine.orFail result (machine.conclude comparison relation left right)

/-- The machine with the answer of a comparison over frames. -/
def answered (last : Machine) (result : Except EvalError Bool) (base : List Frame) (goal : Goal) :
    Machine :=
  let machine := { last with stack := base, goal }
  machine.orFail result fun answer => machine.giveObject (.bool answer)

variable {comparison : Comparison} {base : List Frame} {goal : Goal}

theorem conclude_toCompare (holds : Bool) :
    (machine.toCompare comparison relation left right base goal).conclude comparison relation left
      right holds = machine.decided comparison relation left right (.ok holds) base goal := by
  rw [conclude, decided, orFail, conclude]
  split <;> rfl

section Steps

variable {receiver : Address} {method : Method} {held : List Handle} {error : EvalError}

theorem step_toCompare :
    (machine.toCompare comparison relation left right base goal).step =
      .running ((machine.toCompare comparison relation left right base goal).orFail
        (machine.store.verdict relation left right) fun
          | .decided holds => (machine.toCompare comparison relation left right base goal).conclude
              comparison relation left right holds
          | .ask receiver cls held =>
              (machine.toCompare comparison relation left right base goal).dispatch receiver cls
                relation.method [right] [.judge comparison relation left right held]) :=
  rfl

theorem step_toCompare_error (refused : machine.store.verdict relation left right = .error error) :
    (machine.toCompare comparison relation left right base goal).step =
      .running (machine.decided comparison relation left right (.error error) base goal) := by
  rw [step_toCompare, refused]
  rfl

theorem step_toCompare_decided {holds : Bool}
    (byValue : machine.store.verdict relation left right = .ok (.decided holds)) :
    (machine.toCompare comparison relation left right base goal).step =
      .running (machine.decided comparison relation left right (.ok holds) base goal) := by
  rw [step_toCompare, byValue]
  exact congrArg Next.running (conclude_toCompare holds)

section Asking

variable (asked : machine.store.DecidesBy relation left right receiver method held)
include asked

theorem step_toCompare_invoke :
    (machine.toCompare comparison relation left right base goal).step =
      .running ((machine.toCompare comparison relation left right base goal).invoke
        (.ofCall receiver method [right]) [.judge comparison relation left right held]) := by
  have asked : (machine.toCompare comparison relation left right base goal).store.DecidesBy
      relation left right receiver method held := asked
  exact congrArg Next.running (compare_of_decidesBy asked comparison)

theorem step_toCompare_ask (some : 0 < machine.fuel) :
    (machine.toCompare comparison relation left right base goal).step =
      .running ((machine.consulted receiver method right held).onto
        (.judge comparison relation left right held :: base) goal) := by
  have sameFuel : (machine.toCompare comparison relation left right base goal).fuel =
      machine.fuel := rfl
  obtain ⟨fuel, more⟩ := Nat.exists_eq_succ_of_ne_zero (Nat.ne_of_gt some)
  rw [step_toCompare_invoke asked]
  simp only [invoke, sameFuel, more, consulted, List.flatMap_cons, List.flatMap_nil,
    List.append_nil]
  rfl

theorem step_toCompare_exhausted (none : machine.fuel = 0) :
    (machine.toCompare comparison relation left right base goal).step =
      .running (machine.decided comparison relation left right (.error .outOfFuel) base goal) := by
  have sameFuel : (machine.toCompare comparison relation left right base goal).fuel =
      machine.fuel := rfl
  rw [step_toCompare_invoke asked]
  simp only [invoke, sameFuel, none]
  rfl

end Asking

section Judging

variable (top : machine.stack = .judge comparison relation left right held :: base)
include top

/-- A body that gave a value has decided by the truth of that value. -/
theorem step_of_judge_give {value : Handle} (controlled : machine.control = .give value) :
    machine.step = .running ((machine.release (value :: held)).decided comparison relation left
      right (machine.store.truth value) base machine.goal) := by
  simp only [step, top, controlled]
  rfl

/-- A body that failed has decided nothing. -/
theorem step_of_judge_fail (controlled : machine.control = .fail error) :
    machine.step = .running ((machine.release held).decided comparison relation left right
      (.error error) base machine.goal) := by
  simp only [step, top, controlled]
  rfl

theorem not_returnedTo_of_judge : ¬machine.ReturnedTo base := by
  apply not_returnedTo_of_length_lt
  rw [top]
  exact Nat.lt_succ_self _

end Judging

/-- A method that is asked has its body run over a frame that waits for the value. -/
theorem reaches_consulted
    (asked : machine.store.DecidesBy relation left right receiver method held)
    (some : 0 < machine.fuel) :
    Reaches base (machine.toCompare comparison relation left right base goal)
      ((machine.consulted receiver method right held).onto
        (.judge comparison relation left right held :: base) goal) :=
  .step (not_returnedTo_of_control rfl) (step_toCompare_ask asked some) (.refl _)

theorem Returns.onto_judge {returned : Machine}
    (returns : Returns [] (machine.consulted receiver method right held) returned)
    (comparison : Comparison) (relation : Relation) (left : Handle) (base : List Frame)
    (goal : Goal) :
    Returns (.judge comparison relation left right held :: base)
      ((machine.consulted receiver method right held).onto
        (.judge comparison relation left right held :: base) goal)
      (returned.onto (.judge comparison relation left right held :: base) goal) :=
  ⟨returns.reaches.onto _ goal, returnedTo_onto_iff.mpr returns.returned⟩

theorem reaches_returned {returned : Machine}
    (asked : machine.store.DecidesBy relation left right receiver method held)
    (some : 0 < machine.fuel)
    (returns : Returns [] (machine.consulted receiver method right held) returned) :
    Reaches base (machine.toCompare comparison relation left right base goal)
      (returned.onto (.judge comparison relation left right held :: base) goal) :=
  (reaches_consulted asked some).trans
    ((returns.onto_judge comparison relation left base goal).reaches.toLower (List.suffix_refl _)
      (Nat.lt_succ_self _))

end Steps

/-- Once a relation is decided, the comparison goes on with what came of it. -/
theorem Decides.reaches (decides : Decides machine relation left right result last)
    (comparison : Comparison) (base : List Frame) (goal : Goal) :
    Reaches base (machine.toCompare comparison relation left right base goal)
      (last.decided comparison relation left right result base goal) := by
  cases decides with
  | refused refused =>
      exact .step (not_returnedTo_of_control rfl) (step_toCompare_error refused) (.refl _)
  | byValue byValue =>
      exact .step (not_returnedTo_of_control rfl) (step_toCompare_decided byValue) (.refl _)
  | exhausted asked none =>
      exact .step (not_returnedTo_of_control rfl) (step_toCompare_exhausted asked none) (.refl _)
  | failed asked some returns controlled =>
      have waits := returns.onto_judge comparison relation left base goal
      have top := waits.returned.1
      exact (reaches_returned asked some returns).trans
        (.step (not_returnedTo_of_judge top) (step_of_judge_fail top controlled) (.refl _))
  | judged asked some returns controlled =>
      have waits := returns.onto_judge comparison relation left base goal
      have top := waits.returned.1
      exact (reaches_returned asked some returns).trans
        (.step (not_returnedTo_of_judge top) (step_of_judge_give top controlled) (.refl _))

theorem decided_first (once : comparison.orEqual → result ≠ .ok false) :
    last.decided comparison comparison.relation left right result base goal =
      last.answered (result.map (· != comparison.negated)) base goal := by
  cases result with
  | error error => rfl
  | ok holds =>
      refine if_neg ?_
      rintro ⟨_, orEqual, fails⟩
      cases holds with
      | false => exact once orEqual rfl
      | true => cases fails

theorem decided_further (orEqual : comparison.orEqual) :
    last.decided comparison comparison.relation left right (.ok false) base goal =
      last.toCompare comparison .equality left right base goal :=
  if_pos ⟨Comparison.relation_of_orEqual orEqual, orEqual, rfl⟩

theorem decided_equality :
    last.decided comparison .equality left right result base goal =
      last.answered (result.map (· != comparison.negated)) base goal := by
  cases result with
  | error error => rfl
  | ok holds => rfl

theorem returnedTo_answered (last : Machine) (result : Except EvalError Bool) (base : List Frame)
    (goal : Goal) : (last.answered result base goal).ReturnedTo base := by
  cases result with
  | error error => exact ⟨rfl, rfl⟩
  | ok answer => exact ⟨rfl, rfl⟩

theorem eq_of_answered_fail {error : EvalError}
    (failed : (last.answered result base goal).control = .fail error) : result = .error error := by
  cases result with
  | error error' =>
      cases failed
      rfl
  | ok answer => cases failed

/-- A comparison returns with its result. -/
theorem Compares.returns (compares : Compares machine comparison left right result last)
    (base : List Frame) (goal : Goal) :
    Returns base (machine.toCompare comparison comparison.relation left right base goal)
      (last.answered result base goal) := by
  refine ⟨?_, returnedTo_answered last result base goal⟩
  cases compares with
  | once decides once =>
      rw [← decided_first once]
      exact decides.reaches comparison base goal
  | again orEqual decides decides' =>
      have first := decides.reaches comparison base goal
      rw [decided_further orEqual] at first
      rw [← decided_equality]
      exact first.trans (decides'.reaches comparison base goal)

/-! ## Comparisons with their operands -/

/-- When its operands are there, a comparison begins with the relation that it asks first. -/
theorem reaches_toCompare (machine : Machine) (comparison : Comparison) (left right : Handle) :
    Reaches (.release [left, right] :: machine.stack)
      ((Operation.compare comparison left right).awaiting machine)
      (machine.toCompare comparison comparison.relation left right
        (.release [left, right] :: machine.stack) machine.goal) :=
  .step ((Operation.compare comparison left right).not_returnedTo_awaiting machine) rfl (.refl _)

theorem Compares.returns_awaiting (compares : Compares machine comparison left right result last) :
    Returns (.release [left, right] :: machine.stack)
      ((Operation.compare comparison left right).awaiting machine)
      (last.answered result (.release [left, right] :: machine.stack) machine.goal) :=
  (reaches_toCompare machine comparison left right).returns (compares.returns _ machine.goal)

/-- A comparison of operands that are held has a result, and leaves everything else as it is. If
it succeeds, the value is a new object. -/
def Answers (machine : Machine) (comparison : Comparison) (left right : Handle)
    (result : Except EvalError Bool) : Prop :=
  Returns (.release [left, right] :: machine.stack)
    ((Operation.compare comparison left right).awaiting machine)
    (machine.answered result (.release [left, right] :: machine.stack) machine.goal)

/-- A comparison has one answer. -/
theorem Answers.unique {result' : Except EvalError Bool}
    (answers : machine.Answers comparison left right result)
    (answers' : machine.Answers comparison left right result') : result = result' := by
  have same := Returns.unique answers answers'
  cases result with
  | error error =>
      cases result' with
      | error error' =>
          cases congrArg Machine.control same
          rfl
      | ok answer' => cases congrArg Machine.control same
  | ok answer =>
      cases result' with
      | error error' => cases congrArg Machine.control same
      | ok answer' =>
          have stored : machine.store.allocate (.bool answer) =
              machine.store.allocate (.bool answer') := congrArg (·.store) same
          have found := congrArg (·.object? machine.store.nextAddress) stored
          simp only [Store.object?_allocate_self] at found
          cases found
          rfl

/-- An error about the operands is the answer at once. -/
theorem answers_of_refused {error : EvalError}
    (refused : machine.store.verdict comparison.relation left right = .error error) :
    machine.Answers comparison left right (.error error) :=
  Compares.returns_awaiting (.once (.refused refused) fun _ => nofun)

end Machine

end Offside
