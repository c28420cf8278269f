import Offside.Proofs.Machine.Deciding
import Offside.Proofs.Machine.Dispatch
import Offside.Proofs.PrintingPaths

/-!
# Dangling operands

A comparison with an operand that dangles fails before it does anything else. One whose operands
stay in the store may still start a method that brings up the same error, or gives a value that is
gone when the comparison comes to look at it; there is no other way for it to fail like that.
-/

namespace Offside

open Machine Point

namespace Machine

variable {machine start last : Machine} {comparison : Comparison} {relation : Relation}
  {left right : Handle} {held : List Handle} {base : List Frame} {goal : Goal}

/-- An operand refers to nothing, or to an object that somebody owns all the time until the
operation is over. -/
def StaysOwned (base : List Frame) (start : Machine) (operand : Handle) : Prop :=
  ∀ target ∈ operand.target?, ∀ later, Reaches base start later → (Point.inside later).Owned target

/-- Whoever asks for a comparison holds the operands, so what they own stays. -/
theorem staysOwned_of_owner {target : Address} (operand : .owner target ∈ [left, right]) :
    StaysOwned (.release [left, right] :: machine.stack)
      ((Operation.compare comparison left right).awaiting machine) (.owner target) := by
  intro _ refers later reaches
  cases refers
  cases reaches with
  | refl =>
      rcases List.mem_cons.mp operand with same | member
      · have waits := List.mem_append_left (machine.stack.flatMap Frame.handles)
          (List.mem_singleton.mpr same)
        exact .held (List.mem_append_left _ (List.mem_append_right _ waits))
      · have given := List.mem_append_right machine.scope.handles member
        exact .held (List.mem_append_left _ (List.mem_append_left _ given))
  | step goesOn stepped reaches =>
      have above : (machine.toCompare comparison comparison.relation left right
          (.release [left, right] :: machine.stack) machine.goal).Above
          (.release [left, right] :: machine.stack) := List.suffix_refl _
      cases stepped
      exact owned_of_above (reaches.above above) (List.mem_append_left _ operand)

/-- A body that an operation has started to decide a relation for a comparison, and the machine
with which that body returns. -/
structure Consults (comparison : Comparison) (left right : Handle) (base : List Frame)
    (start started returned : Machine) : Prop where
  reaches : Reaches base start started
  enters : ∃ receiver method, started.control = .enter (.ofCall receiver method [right])
  waits : ∃ relation held, started.stack = .judge comparison relation left right held :: base
  returns : Returns started.stack started returned

/-- A machine has come to the end of a body that failed for a dangling handle, or gave an alias of
an object that is gone. -/
def BringsInvalidHandle (returned : Machine) : Prop :=
  returned.control = .fail .invalidHandle ∨
    ∃ target, returned.control = .give (.alias target) ∧ ¬(Point.inside returned).Owned target

theorem Consults.reaches_returned {started returned : Machine}
    (consults : Consults comparison left right base start started returned) :
    Reaches base start returned := by
  obtain ⟨relation, held, waits⟩ := consults.waits
  refine consults.reaches.trans (consults.returns.reaches.toLower (List.suffix_refl _) ?_)
  rw [waits]
  exact Nat.lt_succ_self _

/-- A method that is asked is consulted with the body that is run for it. -/
theorem consults_of_ask {receiver : Address} {method : Method} {returned : Machine}
    (asked : machine.store.DecidesBy relation left right receiver method held)
    (some : 0 < machine.fuel)
    (returns : Returns [] (machine.consulted receiver method right held) returned)
    (reaches : Reaches base start (machine.toCompare comparison relation left right base goal)) :
    Consults comparison left right base start
      ((machine.consulted receiver method right held).onto
        (.judge comparison relation left right held :: base) goal)
      (returned.onto (.judge comparison relation left right held :: base) goal) :=
  ⟨reaches.trans (reaches_consulted asked some), ⟨receiver, method, rfl⟩, ⟨relation, held, rfl⟩,
    returns.onto_judge comparison relation left base goal⟩

/-! ## What a body brings up -/

/-- A handle is found exactly as long as what it refers to is owned. -/
theorem resolve_eq_invalidHandle_iff (sound : Sound (.inside machine)) {handle : Handle} :
    machine.store.resolve handle = .error .invalidHandle ↔
      ∃ target ∈ handle.target?, ¬(Point.inside machine).Owned target := by
  cases refers : handle.target? with
  | none =>
      rw [Store.resolve, refers]
      refine iff_of_false (fun dangles => ?_) ?_
      · cases dangles
      · rintro ⟨target, there, _⟩
        cases there
  | some target =>
      constructor
      · intro dangles
        refine ⟨target, rfl, fun owned => ?_⟩
        obtain ⟨object, _, found⟩ := sound.exists_get_of_owned refers owned
        cases dangles.symm.trans found
      · rintro ⟨_, same, gone⟩
        cases same
        exact (sound.get_of_not_owned refers gone).2

/-- The truth of a value that a machine is given cannot be told exactly if the value is an alias
of an object that is gone. -/
theorem truth_eq_invalidHandle_iff (sound : Sound (.inside machine)) {value : Handle}
    (given : machine.control = .give value) :
    machine.store.truth value = .error .invalidHandle ↔
      ∃ target, value = .alias target ∧ ¬(Point.inside machine).Owned target := by
  have truth : machine.store.truth value = .error .invalidHandle ↔
      machine.store.resolve value = .error .invalidHandle := by
    rw [Store.truth]
    split <;> simp_all
  rw [truth, resolve_eq_invalidHandle_iff sound]
  constructor
  · rintro ⟨target, refers, gone⟩
    cases value with
    | empty => cases refers
    | owner address =>
        cases refers
        have held : .owner target ∈ machine.control.handles := by
          rw [given]
          exact List.mem_singleton_self _
        have root := List.mem_append_right machine.scope.handles held
        exact (gone (.held (List.mem_append_left _ (List.mem_append_left _ root)))).elim
    | _ =>
        cases refers
        exact ⟨target, rfl, gone⟩
  · rintro ⟨target, rfl, gone⟩
    exact ⟨target, rfl, gone⟩

/-! ## Where the error comes from -/

section Sources

variable (sound : Sound (.inside start))
include sound

/-- A relation between operands that are there is decided, or fails in another way, unless the
body that it starts brings the error up. -/
theorem Decides.exists_consults {result : Except EvalError Bool}
    (decides : Decides machine relation left right result last)
    (failed : result = .error .invalidHandle)
    (reaches : Reaches base start (machine.toCompare comparison relation left right base goal))
    (owned : ∀ operand ∈ [left, right], StaysOwned base start operand) :
    ∃ started returned, Consults comparison left right base start started returned ∧
      returned.BringsInvalidHandle := by
  cases decides with
  | refused refused =>
      cases failed
      have soundHere := reaches.leads.sound sound
      rcases Store.verdict_eq_invalidHandle_iff.mp refused with dangles | dangles
      · obtain ⟨target, refers, gone⟩ := (resolve_eq_invalidHandle_iff soundHere).mp dangles
        exact (gone (owned left List.mem_cons_self target refers _ reaches)).elim
      · obtain ⟨target, refers, gone⟩ := (resolve_eq_invalidHandle_iff soundHere).mp dangles
        exact (gone (owned right (List.mem_cons_of_mem _ List.mem_cons_self) target refers _
          reaches)).elim
  | byValue => cases failed
  | exhausted => cases failed
  | failed asked some returns controlled =>
      cases failed
      exact ⟨_, _, consults_of_ask asked some returns reaches, .inl controlled⟩
  | judged asked some returns controlled =>
      have asks := consults_of_ask asked some returns reaches
      have soundHere := asks.reaches_returned.leads.sound sound
      obtain ⟨target, rfl, gone⟩ := (truth_eq_invalidHandle_iff soundHere controlled).mp failed
      exact ⟨_, _, asks, .inr ⟨target, controlled, gone⟩⟩

/-- So does a comparison, whichever relation it asks last. -/
theorem Compares.exists_consults {result : Except EvalError Bool}
    (compares : Compares machine comparison left right result last)
    (failed : result = .error .invalidHandle)
    (reaches : Reaches base start
      (machine.toCompare comparison comparison.relation left right base goal))
    (owned : ∀ operand ∈ [left, right], StaysOwned base start operand) :
    ∃ started returned, Consults comparison left right base start started returned ∧
      returned.BringsInvalidHandle := by
  cases compares with
  | @once result last decides =>
      cases result with
      | error error =>
          cases failed
          exact decides.exists_consults sound rfl reaches owned
      | ok holds => cases failed
  | @again middle last result orEqual decides decides' =>
      have first := decides.reaches comparison base goal
      rw [decided_further orEqual] at first
      cases result with
      | error error =>
          cases failed
          exact decides'.exists_consults sound rfl (reaches.trans first) owned
      | ok holds => cases failed

/-- A body that brings the error up makes the comparison fail with it. -/
theorem Consults.returns_invalidHandle {started returned : Machine}
    (consults : Consults comparison left right base start started returned)
    (brings : returned.BringsInvalidHandle) :
    ∃ last, Returns base start last ∧ last.control = .fail .invalidHandle := by
  obtain ⟨relation, held, waits⟩ := consults.waits
  have reaches := consults.reaches_returned
  have top : returned.stack = .judge comparison relation left right held :: base :=
    consults.returns.returned.1.trans waits
  have goesOn := not_returnedTo_of_judge top
  rcases brings with failed | ⟨target, given, gone⟩
  · exact ⟨_, ⟨reaches.trans (.step goesOn (step_of_judge_fail top failed) (.refl _)), rfl, rfl⟩,
      rfl⟩
  · have dangles := (truth_eq_invalidHandle_iff (reaches.leads.sound sound) given).mpr
      ⟨target, rfl, gone⟩
    have stepped := step_of_judge_give top given
    rw [dangles] at stepped
    exact ⟨_, ⟨reaches.trans (.step goesOn stepped (.refl _)), rfl, rfl⟩, rfl⟩

end Sources

/-- A comparison that fails for its operands at once starts nothing. -/
theorem not_entersBody_of_refused {error : EvalError} {later : Machine}
    (refused : machine.store.verdict comparison.relation left right = .error error)
    (reaches : Reaches (.release [left, right] :: machine.stack)
      ((Operation.compare comparison left right).awaiting machine) later) :
    entersBody later.control = false := by
  have begun : ((Operation.compare comparison left right).awaiting machine).step = .running
      (machine.toCompare comparison comparison.relation left right
        (.release [left, right] :: machine.stack) machine.goal) := rfl
  cases reaches with
  | refl => rfl
  | step _ stepped reaches =>
      cases begun.symm.trans stepped
      cases reaches with
      | refl => rfl
      | step _ stepped reaches =>
          cases (step_toCompare_error refused).symm.trans stepped
          cases reaches with
          | refl => rfl
          | step goesOn => exact (goesOn ⟨rfl, rfl⟩).elim

end Machine

/-- A comparison with a dangling operand fails with the error for that, has changed nothing, and
has started no body, whatever methods there are. If each operand is empty or is owned by somebody
all the time, the comparison fails like that exactly if a body that it has started does, or gives
an alias of an object that is gone when the comparison takes the truth of it. -/
theorem invalidHandle_comes_from_operands_or_bodies {output : Output} {machine : Machine}
    {comparison : Comparison} {left right : Handle}
    (reached : Leads (.between (.start output))
      (.inside ((Operation.compare comparison left right).awaiting machine))) :
    let base := .release [left, right] :: machine.stack
    let start := (Operation.compare comparison left right).awaiting machine
    (∀ target, left = .alias target ∨ right = .alias target →
        ¬(Point.inside start).Owned target →
      machine.Answers comparison left right (.error .invalidHandle) ∧
        ∀ later, Reaches base start later → entersBody later.control = false) ∧
    ((∀ operand ∈ [left, right], StaysOwned base start operand) →
      ((∃ last, Returns base start last ∧ last.control = .fail .invalidHandle) ↔
        ∃ started returned, Consults comparison left right base start started returned ∧
          returned.BringsInvalidHandle)) := by
  intro base start
  have sound : Sound (.inside start) := Leads.sound reached (sound_start output)
  constructor
  · intro target dangling gone
    have dangles {handle : Handle} (same : handle = .alias target) :
        machine.store.resolve handle = .error .invalidHandle := by
      refine (resolve_eq_invalidHandle_iff sound).mpr ⟨target, ?_, gone⟩
      rw [same]
      rfl
    have refused : machine.store.verdict comparison.relation left right = .error .invalidHandle :=
      Store.verdict_eq_invalidHandle_iff.mpr (dangling.imp dangles dangles)
    exact ⟨answers_of_refused refused, fun later => not_entersBody_of_refused refused⟩
  · intro owned
    constructor
    · rintro ⟨last, returns, failed⟩
      obtain ⟨result, final, compares⟩ := exists_compares machine comparison left right
      cases returns.unique compares.returns_awaiting
      exact compares.exists_consults sound (eq_of_answered_fail failed)
        (reaches_toCompare machine comparison left right) owned
    · rintro ⟨started, returned, consults, brings⟩
      exact consults.returns_invalidHandle sound brings

/-- A method that decides the order by an alias of an instance that nobody holds. -/
def fleetingMethod : Method where
  name := Relation.order.method
  params := ["other"]
  body := .unary .alias (.create "Fleeting")

/-- A session with the class of the method. -/
def fleetingSession : Session where
  classes := { entries := [("Fleeting", .root "Fleeting" [fleetingMethod])] }

/-- The machine that is to compare two instances. -/
def beforeFleeting : Machine :=
  { fleetingSession with
    store := (Store.allocateInstance {} (.root "Fleeting" [fleetingMethod])).allocateInstance
      (.root "Fleeting" [fleetingMethod])
    fuel := Session.fuelPerCommand
    control := .give .empty
    stack := []
    goal := .inspect .describe }

/-- The machine that is to compare an instance with an alias of another one that is gone. -/
def afterFleeting : Machine :=
  beforeFleeting.release [.owner 1]

theorem leads_beforeFleeting : Leads (.between (.start .empty))
    (.inside ((Operation.compare .less (.owner 0) (.owner 1)).awaiting beforeFleeting)) :=
  .head (.begin _ (.defineClass "Fleeting" none [fleetingMethod]))
    (.head (.begin _ (.inspect .describe
        (.binary (.compare .less) (.create "Fleeting") (.create "Fleeting"))))
      (.head (.step _) (.head (.step _) (.head (.step _) (.single (.step _))))))

theorem leads_afterFleeting : Leads (.between (.start .empty))
    (.inside ((Operation.compare .less (.owner 0) (.alias 1)).awaiting afterFleeting)) :=
  .head (.begin _ (.defineClass "Fleeting" none [fleetingMethod]))
    (.head (.begin _ (.inspect .describe (.binary (.compare .less) (.create "Fleeting")
        (.unary .alias (.create "Fleeting")))))
      (.head (.step _) (.head (.step _) (.head (.step _) (.head (.step _) (.head (.step _)
        (.head (.step _) (.single (.step _)))))))))

/-- The machine when the first comparison is over, after nine steps. -/
def returnedFleeting : Machine :=
  ((Operation.compare .less (.owner 0) (.owner 1)).awaiting beforeFleeting).after 9

theorem returns_returnedFleeting : Returns [.release [.owner 0, .owner 1]]
    ((Operation.compare .less (.owner 0) (.owner 1)).awaiting beforeFleeting) returnedFleeting :=
  (Operation.compare .less (.owner 0) (.owner 1)).returns_of_all beforeFleeting
    (by with_unfolding_all rfl) ⟨by with_unfolding_all rfl, by with_unfolding_all rfl⟩

/-- An alias that dangles is found out at once, though the other operand has a method for the
order; and when both operands are there it is the method that brings the error up. -/
theorem invalidHandle_comes_from_operands_or_bodies_of_fleeting :
    afterFleeting.Answers .less (.owner 0) (.alias 1) (.error .invalidHandle) ∧
      ∃ started returned, Consults .less (.owner 0) (.owner 1) [.release [.owner 0, .owner 1]]
          ((Operation.compare .less (.owner 0) (.owner 1)).awaiting beforeFleeting) started
          returned ∧
        returned.BringsInvalidHandle := by
  constructor
  · have gone : ¬(Point.inside
        ((Operation.compare .less (.owner 0) (.alias 1)).awaiting afterFleeting)).Owned 1 := by
      have vacated : afterFleeting.store.object? 1 = none := by with_unfolding_all rfl
      rw [← (leads_afterFleeting.sound (sound_start .empty)).isSome_iff_owned]
      show ¬(afterFleeting.store.object? 1).isSome
      rw [vacated]
      exact Bool.false_ne_true
    exact ((invalidHandle_comes_from_operands_or_bodies leads_afterFleeting).1 1 (.inr rfl) gone).1
  · have failed : returnedFleeting.control = .fail .invalidHandle := by
      with_unfolding_all rfl
    have owned : ∀ operand ∈ [Handle.owner 0, .owner 1],
        StaysOwned (.release [.owner 0, .owner 1] :: beforeFleeting.stack)
          ((Operation.compare .less (.owner 0) (.owner 1)).awaiting beforeFleeting) operand := by
      intro operand member
      rcases List.mem_cons.mp member with rfl | last
      · exact staysOwned_of_owner List.mem_cons_self
      · cases List.mem_singleton.mp last
        exact staysOwned_of_owner (List.mem_cons_of_mem _ List.mem_cons_self)
    exact ((invalidHandle_comes_from_operands_or_bodies leads_beforeFleeting).2 owned).mp
      ⟨_, returns_returnedFleeting, failed⟩

end Offside
