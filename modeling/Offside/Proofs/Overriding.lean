import Offside.Proofs.DanglingOperands
import Offside.Proofs.Machine.Starting
import Offside.Proofs.MethodResolution
import Offside.Proofs.PrintingPaths
import Offside.Proofs.ValueOrder

/-!
# Overriding methods

An instance decides a relation by a method of its own, if the nearest one of the name takes one
argument. Nobody else is asked: neither the other operand, nor the values of the two. A comparison
that asks for the order and for equality decides one after the other, and the second only if the
first one does not hold.
-/

namespace Offside

open Machine Point

namespace Store

variable {store : Store} {relation : Relation} {left right : Handle} {receiver : Address}
  {method : Method} {first second : Option (Address × Object)}

/-- The method by which a resolved operand decides a relation. -/
def deciding? (relation : Relation) (found : Option (Address × Object)) :
    Option (Address × Method) :=
  (override? relation found).bind fun asked =>
    (asked.2.methodTaking? relation.method 1).map (Prod.mk asked.1)

/-- The method by which the left operand decides a relation. -/
def overriding? (store : Store) (relation : Relation) (left : Handle) :
    Option (Address × Method) :=
  match store.resolve left with
  | .ok found => deciding? relation found
  | .error _ => none

theorem overriding?_of_resolve (found : store.resolve left = .ok first) :
    store.overriding? relation left = deciding? relation first := by
  rw [overriding?, found]

theorem deciding?_eq_some_iff :
    deciding? relation first = some (receiver, method) ↔ ∃ cls fields,
      first = some (receiver, .instanceOf cls fields) ∧
        cls.methodTaking? relation.method 1 = some method := by
  constructor
  · intro decides
    obtain ⟨asked, overrides, taken⟩ := Option.bind_eq_some_iff.mp decides
    obtain ⟨_, taking, same⟩ := Option.map_eq_some_iff.mp taken
    obtain ⟨fields, found, _⟩ := override?_eq_some overrides
    cases same
    exact ⟨asked.2, fields, found, taking⟩
  · rintro ⟨cls, fields, rfl, taking⟩
    have has : cls.hasMethod relation.method 1 := Class.hasMethod_iff.mpr ⟨method, taking⟩
    simp only [deciding?, override?, has, if_true, Option.bind_some, taking, Option.map_some]

/-- An operand without such a method is not asked. -/
theorem override?_of_deciding? (without : deciding? relation first = none) :
    override? relation first = none := by
  cases overrides : override? relation first with
  | none => rfl
  | some asked =>
      obtain ⟨fields, found, has⟩ := override?_eq_some overrides
      obtain ⟨method, taking⟩ := Class.hasMethod_iff.mp has
      have decides := deciding?_eq_some_iff.mpr ⟨asked.2, fields, found, taking⟩
      cases without.symm.trans decides

theorem decidesBy_of_deciding? (decides : deciding? relation first = some (receiver, method))
    (leftFound : store.resolve left = .ok first) (rightFound : store.resolve right = .ok second) :
    store.DecidesBy relation left right receiver method [.owner receiver, holdOf second] := by
  obtain ⟨cls, fields, rfl, taking⟩ := deciding?_eq_some_iff.mp decides
  exact decidesBy_iff.mpr ⟨cls, fields, second, leftFound, rightFound, taking, rfl⟩

/-- It is the first one of its name along the chain of the class of an instance, if that takes
one argument. -/
theorem overriding?_eq_some_iff :
    store.overriding? relation left = some (receiver, method) ↔
      ∃ cls fields, store.resolve left = .ok (some (receiver, .instanceOf cls fields)) ∧
        cls.chain.find? (·.name == relation.method) = some method ∧ method.arity = 1 := by
  constructor
  · intro overrides
    unfold overriding? at overrides
    split at overrides
    next found =>
      obtain ⟨cls, fields, rfl, taking⟩ := deciding?_eq_some_iff.mp overrides
      exact ⟨cls, fields, found, Class.methodTaking?_eq_some_iff.mp taking⟩
    next => cases overrides
  · rintro ⟨cls, fields, found, first⟩
    rw [overriding?_of_resolve found]
    exact deciding?_eq_some_iff.mpr
      ⟨cls, fields, rfl, Class.methodTaking?_eq_some_iff.mpr first⟩

/-- Which method decides does not depend on the fields of an instance. -/
theorem deciding?_of_essence {address : Address} {object object' : Object}
    (same : object.essence = object'.essence) (relation : Relation) :
    deciding? relation (some (address, object)) =
      deciding? relation (some (address, object')) := by
  cases object with
  | instanceOf cls fields =>
      cases object' with
      | instanceOf cls' fields' =>
          cases same
          rfl
      | _ => cases same
  | _ =>
      cases object' with
      | instanceOf => cases same
      | _ => rfl

theorem kind_of_essence {object object' : Object} (same : object.essence = object'.essence) :
    object.kind = object'.kind := by
  have kept (object : Object) : object.essence.kind = object.kind := by cases object <;> rfl
  rw [← kept, same, kept]

theorem typeName_of_resolve {address : Address} {object : Object}
    (found : store.resolve left = .ok (some (address, object))) :
    store.typeName left = .kind object.kind := by
  rw [typeName, found]

/-- Only numbers, texts and truth values can count as true. -/
theorem truth_of_not_isOrdered {value : Handle} {kind : Kind}
    (known : value = .empty ∨ store.typeName value = .kind kind ∧ kind.isOrdered = false) :
    store.truth value = .ok false := by
  rcases known with rfl | ⟨known, unordered⟩
  · rfl
  · obtain ⟨address, object, found, rfl⟩ := typeName_eq_kind_iff.mp known
    rw [truth, found]
    cases object with
    | classValue | instanceOf => rfl
    | _ => cases unordered

/-- An instance without such a method cannot be compared with anything. -/
theorem verdict_of_instance (leftFound : store.resolve left = .ok first)
    (rightFound : store.resolve right = .ok second) (without : override? relation first = none)
    (anInstance : store.typeName left = .kind .instanceOf) :
    store.verdict relation left right =
      .error (.cannotCompare relation (.kind .instanceOf) (store.typeName right)) := by
  obtain ⟨address, object, found, kind⟩ := typeName_eq_kind_iff.mp anInstance
  cases leftFound.symm.trans found
  have undecided : holds? relation (some (address, object)) second = none := by
    cases object with
    | instanceOf => cases second <;> rfl
    | _ => cases kind
  rw [verdict_of_resolve leftFound rightFound, without, ← anInstance]
  simp only [undecided]

end Store

namespace Machine

variable {machine start before after later : Machine} {comparison : Comparison}
  {relation : Relation} {left right : Handle} {base : List Frame} {goal : Goal}
  {result : Except EvalError Bool} {first second : Option (Address × Object)}
  {overriding : Option (Address × Method)}

/-- How a comparison decides one relation, if the left operand has this method for it. -/
structure Half (comparison : Comparison) (relation : Relation) (left right : Handle)
    (base : List Frame) (start before : Machine) (overriding : Option (Address × Method))
    (activations : List Activation) (result : Except EvalError Bool) (after : Machine) :
    Prop where
  /-- The method is called with the right operand, as long as any body can be started, and is all
  that the comparison calls. -/
  activations_eq : activations = if before.fuel = 0 then [] else
    overriding.toList.map fun (receiver, method) => .ofCall receiver method [right]
  /-- What came of its body decides, whatever the right operand is. -/
  decided_by_body : ∀ activation ∈ activations, ∃ started returned,
    Consults comparison left right base start started returned ∧
      started.control = .enter activation ∧
      ((∃ value, returned.control = .give value ∧ result = returned.store.truth value) ∨
        ∃ error, returned.control = .fail error ∧ result = .error error)
  exhausted : overriding.isSome → before.fuel = 0 → result = .error .outOfFuel
  /-- Without the method nothing changes, and an instance cannot be compared. -/
  unchanged : overriding = none → after = before
  incomparable : overriding = none → start.store.typeName left = .kind .instanceOf →
    result = .error (.cannotCompare relation (.kind .instanceOf) (start.store.typeName right))

/-- With the method, what its body comes to is all that counts. -/
theorem Half.of_consults {receiver : Address} {method : Method} {started returned : Machine}
    (some : 0 < before.fuel)
    (consults : Consults comparison left right base start started returned)
    (entered : started.control = .enter (.ofCall receiver method [right]))
    (decided : (∃ value, returned.control = .give value ∧ result = returned.store.truth value) ∨
      ∃ error, returned.control = .fail error ∧ result = .error error) :
    Half comparison relation left right base start before (.some (receiver, method))
      [.ofCall receiver method [right]] result after where
  activations_eq := by
    rw [if_neg (Nat.ne_of_gt some)]
    rfl
  decided_by_body activation member := by
    cases List.mem_singleton.mp member
    exact ⟨started, returned, consults, entered, decided⟩
  exhausted _ none := absurd none (Nat.ne_of_gt some)
  unchanged := nofun
  incomparable := nofun

/-- Without the method, what the values say counts. -/
theorem Half.of_verdict (without : overriding = none)
    (nothing : before.asks relation left right = [])
    (incomparable : start.store.typeName left = .kind .instanceOf →
      result = .error (.cannotCompare relation (.kind .instanceOf)
        (start.store.typeName right))) :
    Half comparison relation left right base start before overriding
      (before.asks relation left right) result before where
  activations_eq := by
    rw [nothing, without]
    split <;> rfl
  decided_by_body activation member := by
    rw [nothing] at member
    cases member
  exhausted overrides := by
    rw [without] at overrides
    cases overrides
  unchanged _ := rfl
  incomparable _ := incomparable

section Found

variable (decides : Decides before relation left right result after)
  (leftFound : before.store.resolve left = .ok first)
  (rightFound : before.store.resolve right = .ok second)
include decides leftFound rightFound

theorem Decides.half_of_overriding {receiver : Address} {method : Method}
    (overrides : Store.deciding? relation first = some (receiver, method))
    (reaches : Reaches base start (before.toCompare comparison relation left right base goal)) :
    Half comparison relation left right base start before (some (receiver, method))
      (before.asks relation left right) result after := by
  have asks := Store.decidesBy_of_deciding? overrides leftFound rightFound
  cases decides with
  | refused refused => exact (asks.verdict_ne_error refused).elim
  | byValue byValue => exact (asks.verdict_ne_decided byValue).elim
  | exhausted asked none =>
      have nothing : before.asks relation left right = [] := asks_of_exhausted none
      exact {
        activations_eq := by rw [nothing, if_pos none]
        decided_by_body := by
          rw [nothing]
          exact fun activation member => absurd member List.not_mem_nil
        exhausted := fun _ _ => rfl
        unchanged := fun without => absurd without (Option.some_ne_none _)
        incomparable := fun without => absurd without (Option.some_ne_none _) }
  | failed asked some returns controlled =>
      obtain ⟨rfl, rfl, rfl⟩ := asks.unique asked
      rw [asks_of_decidesBy asked some]
      exact .of_consults some (consults_of_ask asked some returns reaches) rfl
        (.inr ⟨_, controlled, rfl⟩)
  | judged asked some returns controlled =>
      obtain ⟨rfl, rfl, rfl⟩ := asks.unique asked
      rw [asks_of_decidesBy asked some]
      exact .of_consults some (consults_of_ask asked some returns reaches) rfl
        (.inl ⟨_, controlled, rfl⟩)

theorem Decides.half_of_not_overriding (without : Store.deciding? relation first = none)
    (sameLeft : before.store.typeName left = start.store.typeName left)
    (sameRight : before.store.typeName right = start.store.typeName right) :
    Half comparison relation left right base start before none
      (before.asks relation left right) result after := by
  have undecided (anInstance : start.store.typeName left = .kind .instanceOf) :
      before.store.verdict relation left right = .error (.cannotCompare relation
        (.kind .instanceOf) (start.store.typeName right)) := by
    rw [← sameLeft] at anInstance
    rw [← sameRight]
    exact Store.verdict_of_instance leftFound rightFound (Store.override?_of_deciding? without)
      anInstance
  have noAsk {receiver : Address} {method : Method} {held : List Handle}
      (asked : before.store.DecidesBy relation left right receiver method held) : False := by
    obtain ⟨cls, fields, _, there, _, taking, _⟩ := Store.decidesBy_iff.mp asked
    cases leftFound.symm.trans there
    cases without.symm.trans (Store.deciding?_eq_some_iff.mpr ⟨cls, fields, rfl, taking⟩)
  cases decides with
  | refused refused =>
      refine .of_verdict rfl (by rw [Machine.asks, refused]) fun anInstance => ?_
      cases (undecided anInstance).symm.trans refused
      rfl
  | byValue byValue =>
      refine .of_verdict rfl (by rw [Machine.asks, byValue]) fun anInstance => ?_
      cases (undecided anInstance).symm.trans byValue
  | exhausted asked | failed asked | judged asked => exact (noAsk asked).elim

/-- Every relation is decided like that. -/
theorem Decides.half
    (sameLeft : before.store.typeName left = start.store.typeName left)
    (sameRight : before.store.typeName right = start.store.typeName right)
    (reaches : Reaches base start (before.toCompare comparison relation left right base goal)) :
    Half comparison relation left right base start before (Store.deciding? relation first)
      (before.asks relation left right) result after := by
  cases overrides : Store.deciding? relation first with
  | none => exact decides.half_of_not_overriding leftFound rightFound overrides sameLeft sameRight
  | some pair => exact decides.half_of_overriding leftFound rightFound overrides reaches

end Found

/-! ## Operands that stay -/

/-- An operand that stays is found all the time, with the same type and the same methods. -/
theorem exists_resolve_of_staysOwned {operand : Handle} (sound : Sound (.inside start))
    (owned : StaysOwned base start operand) (reaches : Reaches base start later) :
    ∃ found found', start.store.resolve operand = .ok found ∧
      later.store.resolve operand = .ok found' ∧
      later.store.typeName operand = start.store.typeName operand ∧
      ∀ relation, Store.deciding? relation found' = Store.deciding? relation found := by
  cases refers : operand.target? with
  | none =>
      cases Handle.target?_eq_none_iff.mp refers
      exact ⟨none, none, rfl, rfl, rfl, fun _ => rfl⟩
  | some target =>
      have leads := reaches.leads
      obtain ⟨object, got, found⟩ :=
        sound.exists_get_of_owned refers (owned target refers _ (.refl _))
      obtain ⟨object', got', found'⟩ :=
        (leads.sound sound).exists_get_of_owned refers (owned target refers _ reaches)
      have given := Holding.lt_nextAddress_of_object?
        (Option.isSome_of_eq_some (Store.get_eq_ok_iff.mp got).2)
      obtain ⟨earlier, before, same⟩ :=
        (leads.continues sound).keeps given (Store.get_eq_ok_iff.mp got').2
      cases (Store.get_eq_ok_iff.mp got).2.symm.trans before
      refine ⟨_, _, found, found', ?_, Store.deciding?_of_essence same.symm⟩
      exact (Store.typeName_of_resolve found').trans
        ((congrArg TypeName.kind (Store.kind_of_essence same.symm)).trans
          (Store.typeName_of_resolve found).symm)

/-- So a relation that is decided later is decided by the method that the left operand has at the
beginning. -/
theorem Decides.half_of_staysOwned (decides : Decides before relation left right result after)
    (sound : Sound (.inside start))
    (owned : ∀ operand ∈ [left, right], StaysOwned base start operand)
    (reaches : Reaches base start (before.toCompare comparison relation left right base goal)) :
    Half comparison relation left right base start before
      (start.store.overriding? relation left) (before.asks relation left right) result after := by
  obtain ⟨_, first, found, leftFound, sameLeft, same⟩ :=
    exists_resolve_of_staysOwned sound (owned left List.mem_cons_self) reaches
  obtain ⟨_, second, _, rightFound, sameRight, _⟩ := exists_resolve_of_staysOwned sound
    (owned right (List.mem_cons_of_mem _ List.mem_cons_self)) reaches
  rw [Store.overriding?_of_resolve found, ← same]
  exact decides.half leftFound rightFound sameLeft sameRight reaches

/-- A comparison begins with the relation that it asks first, and has started nothing before. -/
theorem Starts.of_toCompare {last : Machine} {activations : List Activation}
    (starts : Starts (.release [left, right] :: machine.stack)
      (machine.toCompare comparison comparison.relation left right
        (.release [left, right] :: machine.stack) machine.goal) activations last) :
    Starts (.release [left, right] :: machine.stack)
      ((Operation.compare comparison left right).awaiting machine) activations last :=
  .quiet ((Operation.compare comparison left right).not_returnedTo_awaiting machine) rfl
    (fun _ => nofun) starts

end Machine

/-- Of the six comparisons two ask for equality and four for the order, and two of the four would
do with equality as well. Three answer with the opposite of what they asked. A comparison of
operands that are empty or stay owned decides the relation that it asks first, and equality after
that only if the order was asked, does not hold and equality would do as well.
It starts at most one body for each: the method that is the first one of the name along the chain
of the left operand, if that is an instance and the method takes one argument, with the right
operand as that argument. What the body gives decides by its truth, and nothing but that; neither
classes nor instances nor the empty handle count as true. If there is no such method for an
instance, the relation cannot be decided. -/
theorem overrides_decide_alone {output : Output} {machine : Machine} {comparison : Comparison}
    {left right : Handle}
    (reached : Leads (.between (.start output))
      (.inside ((Operation.compare comparison left right).awaiting machine)))
    (owned : ∀ operand ∈ [left, right], StaysOwned (.release [left, right] :: machine.stack)
      ((Operation.compare comparison left right).awaiting machine) operand) :
    let base := .release [left, right] :: machine.stack
    let start := (Operation.compare comparison left right).awaiting machine
    let overriding (relation : Relation) := machine.store.overriding? relation left
    (comparison, comparison.relation, comparison.orEqual, comparison.negated) ∈
      [(Comparison.equal, Relation.equality, false, false), (.notEqual, .equality, false, true),
        (.less, .order, false, false), (.greaterOrEqual, .order, false, true),
        (.lessOrEqual, .order, true, false), (.greater, .order, true, true)] ∧
    Relation.equality.method = "__eq__" ∧ Relation.order.method = "__lt__" ∧
    (∀ relation receiver method, overriding relation = some (receiver, method) ↔
      ∃ cls fields, machine.store.resolve left = .ok (some (receiver, .instanceOf cls fields)) ∧
        cls.chain.find? (·.name == relation.method) = some method ∧ method.arity = 1) ∧
    (∀ (store : Store) (value : Handle) (kind : Kind),
      value = .empty ∨ store.typeName value = .kind kind ∧ kind.isOrdered = false →
      store.truth value = .ok false) ∧
    ∃ activations result middle,
      Half comparison comparison.relation left right base start machine
        (overriding comparison.relation) activations result middle ∧
      (¬(comparison.orEqual ∧ result = .ok false) →
        Starts base start activations
          (middle.answered (result.map (· != comparison.negated)) base machine.goal)) ∧
      (comparison.orEqual ∧ result = .ok false →
        Starts base start activations
          (middle.toCompare comparison .equality left right base machine.goal) ∧
        ∃ further result' last,
          Half comparison .equality left right base start middle (overriding .equality) further
            result' last ∧
          Starts base start (activations ++ further)
            (last.answered (result'.map (· != comparison.negated)) base machine.goal)) := by
  intro base start overriding
  have sound : Sound (.inside start) := Leads.sound reached (sound_start output)
  refine ⟨by cases comparison <;> decide, rfl, rfl,
    fun relation receiver method => Store.overriding?_eq_some_iff,
    fun store value kind => Store.truth_of_not_isOrdered, ?_⟩
  obtain ⟨result, middle, decides⟩ := exists_decides machine comparison.relation left right
  have begun : Starts base start (machine.asks comparison.relation left right)
      (middle.decided comparison comparison.relation left right result base machine.goal) :=
    (decides.starts comparison base machine.goal).of_toCompare
  refine ⟨_, result, middle,
    decides.half_of_staysOwned sound owned (reaches_toCompare machine comparison left right),
    fun once => ?_, fun again => ?_⟩
  · rw [decided_first fun orEqual fails => once ⟨orEqual, fails⟩] at begun
    exact begun
  · obtain ⟨orEqual, rfl⟩ := again
    rw [decided_further orEqual] at begun
    obtain ⟨result', last, decides'⟩ := exists_decides middle .equality left right
    have whole := begun.trans (decides'.starts comparison base machine.goal)
    rw [decided_equality] at whole
    exact ⟨begun, _, result', last, decides'.half_of_staysOwned sound owned begun.reaches, whole⟩

/-- A method that decides the order, and never finds it. -/
def neverMethod : Method where
  name := Relation.order.method
  params := ["other"]
  body := .literal (.bool false)

/-- A class with that method and none for equality. -/
def neverClass : Class :=
  .root "Never" [neverMethod]

/-- The machine that is to compare two instances of the class. -/
def beforeNever : Machine where
  classes := { entries := [("Never", neverClass)] }
  store := (Store.allocateInstance {} neverClass).allocateInstance neverClass
  fuel := Session.fuelPerCommand
  control := .give .empty
  stack := []
  goal := .inspect .describe

theorem leads_beforeNever : Leads (.between (.start .empty))
    (.inside ((Operation.compare .lessOrEqual (.owner 0) (.owner 1)).awaiting beforeNever)) :=
  .head (.begin _ (.defineClass "Never" none [neverMethod]))
    (.head (.begin _ (.inspect .describe
        (.binary (.compare .lessOrEqual) (.create "Never") (.create "Never"))))
      (.head (.step _) (.head (.step _) (.head (.step _) (.single (.step _))))))

/-- The machine when the comparison is over, after seven steps. -/
def afterNever : Machine :=
  ((Operation.compare .lessOrEqual (.owner 0) (.owner 1)).awaiting beforeNever).after 7

theorem returns_afterNever : Returns [.release [.owner 0, .owner 1]]
    ((Operation.compare .lessOrEqual (.owner 0) (.owner 1)).awaiting beforeNever) afterNever :=
  (Operation.compare .lessOrEqual (.owner 0) (.owner 1)).returns_of_all beforeNever
    (by with_unfolding_all rfl) ⟨by with_unfolding_all rfl, by with_unfolding_all rfl⟩

/-- The only body that is started is that of the order. As it does not hold, equality is asked for,
which an instance without a method for it cannot decide. -/
theorem overrides_decide_alone_of_never :
    ∃ last, Starts [.release [.owner 0, .owner 1]]
        ((Operation.compare .lessOrEqual (.owner 0) (.owner 1)).awaiting beforeNever)
        [.ofCall 0 neverMethod [.owner 1]] last ∧
      last.control = .fail (.cannotCompare .equality (.kind .instanceOf) (.kind .instanceOf)) := by
  have owned : ∀ operand ∈ [Handle.owner 0, .owner 1],
      StaysOwned (.release [.owner 0, .owner 1] :: beforeNever.stack)
        ((Operation.compare .lessOrEqual (.owner 0) (.owner 1)).awaiting beforeNever) operand := by
    intro operand member
    rcases List.mem_cons.mp member with rfl | last
    · exact staysOwned_of_owner List.mem_cons_self
    · cases List.mem_singleton.mp last
      exact staysOwned_of_owner (List.mem_cons_of_mem _ List.mem_cons_self)
  obtain ⟨_, _, _, _, _, activations, result, middle, half, once, again⟩ :=
    overrides_decide_alone leads_beforeNever owned
  have noEquality : beforeNever.store.overriding? .equality (.owner 0) = none := rfl
  have only : activations = [.ofCall 0 neverMethod [.owner 1]] := half.activations_eq
  have failed : afterNever.control =
      .fail (.cannotCompare .equality (.kind .instanceOf) (.kind .instanceOf)) := by
    with_unfolding_all rfl
  subst only
  by_cases fails : Comparison.lessOrEqual.orEqual ∧ result = .ok false
  · obtain ⟨_, further, result', last, half', whole⟩ := again fails
    have nothing : further = [] := by
      have started := half'.activations_eq
      simp only [noEquality] at started
      rw [started]
      split <;> rfl
    have cannot := half'.incomparable noEquality rfl
    subst nothing cannot
    exact ⟨_, whole, rfl⟩
  · have whole := once fails
    have same := Returns.unique ⟨whole.reaches, returnedTo_answered ..⟩ returns_afterNever
    exact ⟨_, whole, same ▸ failed⟩

end Offside
