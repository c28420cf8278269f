import Offside.Proofs.DanglingOperands
import Offside.Proofs.Machine.ComparingFields
import Offside.Proofs.ValueOrder

/-!
# Wrapped values

An instance can stand for a value that it has in a field, if its class compares instances by that
field. Such instances can be wrapped again. Whatever a comparison of two values comes to, a truth
value or an error, a comparison of two instances that wrap them comes to the same, and leaves
everything as it was.
-/

namespace Offside

open Machine

/-- The comparison that asks for a relation and nothing else. -/
def Relation.comparison : Relation → Comparison
  | .equality => .equal
  | .order => .less

/-- Instances of the class compare by a field. -/
def Class.ComparesBy (cls : Class) (field : String) : Prop :=
  ∀ relation : Relation, ∃ method other, cls.methodTaking? relation.method 1 = some method ∧
    method.ComparesField field relation.comparison other

/-- A class that adds no methods compares as the one that it extends. -/
theorem Class.ComparesBy.derived {parent : Class} {field : String}
    (comparesBy : parent.ComparesBy field) (name : String) :
    (Class.derived name [] parent).ComparesBy field :=
  comparesBy

/-- The handle refers to an instance that compares by a field, and has this value there. -/
def Store.Wraps (store : Store) (field : String) (handle value : Handle) : Prop :=
  ∃ address cls fields, store.getInstance handle = .ok (address, cls, fields) ∧
    cls.ComparesBy field ∧ fields.get field = value

/-- A value that has been wrapped so many times, and was no instance before. -/
inductive Store.Built (store : Store) (field : String) : Nat → Handle → Prop where
  | plain {handle : Handle} : store.IsPlain handle → Built store field 0 handle
  | wrapped {depth : Nat} {handle value : Handle} :
      store.Wraps field handle value → Built store field depth value →
      Built store field (depth + 1) handle

/-- The handle refers to a wrapper of a wrapper, and so on so many times, of a value. -/
inductive Store.WrapsTimes (store : Store) (field : String) : Nat → Handle → Handle → Prop where
  | none {value : Handle} : WrapsTimes store field 0 value value
  | onceMore {count : Nat} {handle middle value : Handle} :
      store.Wraps field handle middle → WrapsTimes store field count middle value →
      WrapsTimes store field (count + 1) handle value

namespace Store

variable {store store' : Store} {field : String} {count depth depth' : Nat}
  {handle left right value : Handle}

theorem Wraps.congr (same : ∀ address, store.object? address = store'.object? address)
    (wraps : store.Wraps field handle value) : store'.Wraps field handle value := by
  obtain ⟨address, cls, fields, found, comparesBy, there⟩ := wraps
  exact ⟨address, cls, fields, (getInstance_congr same handle).symm.trans found, comparesBy, there⟩

/-- What is no instance has no fields. -/
theorem IsPlain.exists_getInstance_error (plain : store.IsPlain handle) :
    ∃ error, store.getInstance handle = .error error := by
  cases found : store.getInstance handle with
  | error error => exact ⟨error, rfl⟩
  | ok located =>
      obtain ⟨found', known, notInstance⟩ := plain
      have there := resolve_eq_some_iff.mpr
        ⟨target?_of_getInstance found, object?_of_getInstance found⟩
      cases known.symm.trans there
      exact absurd rfl (notInstance _ rfl)

/-- What can be followed is there. -/
theorem isSome_of_resolve {found : Option (Address × Object)} {target : Address}
    (known : store.resolve handle = .ok found) (refers : handle.target? = some target) :
    (store.object? target).isSome := by
  unfold resolve at known
  rw [refers] at known
  dsimp only at known
  split at known
  next there =>
    rw [there]
    rfl
  next => cases known

theorem Built.exists_resolve (built : store.Built field depth handle) :
    ∃ found, store.resolve handle = .ok found := by
  cases built with
  | plain plain =>
      obtain ⟨found, known, _⟩ := plain
      exact ⟨found, known⟩
  | wrapped wraps =>
      obtain ⟨address, cls, fields, found, _⟩ := wraps
      exact ⟨_, resolve_eq_some_iff.mpr
        ⟨target?_of_getInstance found, object?_of_getInstance found⟩⟩

/-- What two values own is there. -/
theorem Built.alive_pair (leftBuilt : store.Built field depth left)
    (rightBuilt : store.Built field depth' right) :
    ∀ address ∈ Handle.owned [left, right], (store.object? address).isSome := by
  intro address member
  obtain ⟨found, known⟩ := leftBuilt.exists_resolve
  obtain ⟨found', known'⟩ := rightBuilt.exists_resolve
  rcases List.mem_cons.mp (mem_owned_iff.mp member) with rfl | last
  · exact isSome_of_resolve known rfl
  · rw [← List.mem_singleton.mp last] at known'
    exact isSome_of_resolve known' rfl

theorem WrapsTimes.built (times : store.WrapsTimes field count handle value)
    (built : store.Built field depth value) : store.Built field (depth + count) handle := by
  induction times with
  | none => exact built
  | onceMore wraps _ ih => exact .wrapped wraps (ih built)

end Store

namespace Machine

open Store

variable {machine last : Machine} {field : String} {error : EvalError}

/-! ## Relations between wrapped values -/

/-- Wherever the objects are as in the store, a relation between two operands is decided with this
result, and with so much fuel at most, and everything else is left as it was. -/
def Settles (store : Store) (relation : Relation) (left right : Handle) (fuel : Nat)
    (result : Except EvalError Bool) : Prop :=
  ∀ machine : Machine, (∀ address, machine.store.object? address = store.object? address) →
    AllOwned machine.store.cell? → fuel ≤ machine.fuel →
    ∃ last, Decides machine relation left right result last ∧ Undisturbed machine last ∧
      machine.fuel ≤ last.fuel + fuel

/-- A relation that is decided answers the comparison that asks for nothing else. -/
theorem Decides.compares_alone {relation : Relation} {left right : Handle}
    {result : Except EvalError Bool} (decides : Decides machine relation left right result last) :
    Compares machine relation.comparison left right result last := by
  have unchanged : result.map (· != relation.comparison.negated) = result := by
    cases result with
    | error error => rfl
    | ok holds => cases relation <;> exact congrArg Except.ok (Bool.bne_false _)
  rw [← unchanged]
  cases relation with
  | equality => exact .once decides nofun
  | order => exact .once decides nofun

section Wrapped

variable {store : Store} {relation : Relation} {left right first second : Handle} {fuel : Nat}
  {result : Except EvalError Bool}

/-- An instance that wraps a value asks the method that compares the field. -/
theorem exists_ask (relation : Relation) {found : Option (Address × Object)}
    (wraps : machine.store.Wraps field left first)
    (rightFound : machine.store.resolve right = .ok found) :
    ∃ receiver cls fields method other,
      machine.store.getInstance (.alias receiver) = .ok (receiver, cls, fields) ∧
        fields.get field = first ∧ method.ComparesField field relation.comparison other ∧
        machine.store.DecidesBy relation left right receiver method
          [.owner receiver, holdOf found] ∧
        ∀ address ∈ heldFor method receiver right [.owner receiver, holdOf found],
          (machine.store.cell? address).isSome := by
  obtain ⟨receiver, cls, fields, leftFound, comparesBy, same⟩ := wraps
  obtain ⟨method, other, taking, compares⟩ := comparesBy relation
  have there := object?_of_getInstance leftFound
  have known := resolve_eq_some_iff.mpr ⟨target?_of_getInstance leftFound, there⟩
  refine ⟨receiver, cls, fields, method, other, ?_, same, compares, ?_, ?_⟩
  · have aliased : machine.store.get (.alias receiver) = .ok (receiver, .instanceOf cls fields) :=
      get_eq_ok_iff.mpr ⟨rfl, there⟩
    rw [getInstance, aliased]
  · exact decidesBy_iff.mpr ⟨cls, fields, found, known, rightFound, taking, rfl⟩
  · intro address member
    rw [isSome_cell?]
    rcases List.mem_append.mp (mem_owned_iff.mp member) with bound | kept
    · rcases Scope.mem_handles_of_bindAll bound with self | argument
      · cases List.mem_singleton.mp self
      · obtain ⟨pair, zipped, same⟩ := List.mem_map.mp argument
        have refers := List.mem_singleton.mp (same ▸ (List.of_mem_zip zipped).2)
        exact isSome_of_resolve (refers ▸ rightFound) rfl
    · rcases List.mem_cons.mp kept with here | last
      · cases here
        rw [there]
        rfl
      · exact alive_of_holdOf rightFound address (by rw [← List.mem_singleton.mp last]; rfl)

theorem Settles.lift (leftWraps : store.Wraps field left first)
    (rightWraps : store.Wraps field right second)
    (alive : ∀ address ∈ Handle.owned [first, second], (store.object? address).isSome)
    (settles : Settles store relation first second fuel result) :
    Settles store relation left right (fuel + 1) result := by
  intro machine same allOwned enough
  have leftWraps : machine.store.Wraps field left first :=
    leftWraps.congr fun address => (same address).symm
  obtain ⟨address, cls', fields', rightFound, _, rfl⟩ :=
    rightWraps.congr fun address => (same address).symm
  have rightKnown := resolve_eq_some_iff.mpr
    ⟨target?_of_getInstance rightFound, object?_of_getInstance rightFound⟩
  obtain ⟨receiver, cls, fields, method, other, leftFound, rfl, compares, asked, heldAlive⟩ :=
    exists_ask relation leftWraps rightKnown
  let held : List Handle := [.owner receiver, .owner address]
  obtain ⟨store₁, reads, shares⟩ :=
    exists_reaches_operands held compares leftFound allOwned rightFound
  let body := machine.inside (method.locals receiver [right]) store₁ (.give (fields'.get field))
    [.leave machine.scope]
  obtain ⟨last, decides, undisturbed, spent⟩ := settles body
    (fun address => (shares.object?_eq address).trans (same address)) (allOwned.shared shares)
    (Nat.le_sub_of_add_le enough)
  let operands := [fields.get field, fields'.get field]
  have compared :=
    decides.compares_alone.returns [.release operands, .leave machine.scope] body.goal
  have reaches : Reaches [] (machine.consulted receiver method right held) _ :=
    reads.trans (.step (not_returnedTo_of_length_lt (Nat.succ_pos _)) rfl
      (compared.reaches.toLower (List.suffix_refl _) (Nat.succ_pos _)))
  have shares : last.store.Shares machine.store.cell? _ := fun address =>
    (undisturbed.cell? address).trans (shares address)
  have keepsSession : last.classes = machine.classes ∧ last.output = machine.output ∧
      last.scope = method.locals receiver [right] :=
    ⟨undisturbed.classes, undisturbed.output, undisturbed.scope⟩
  have more : 0 < machine.fuel := Nat.lt_of_lt_of_le (Nat.succ_pos _) enough
  have spent : machine.fuel ≤ last.fuel + fuel + 1 := Nat.le_add_of_sub_le spent
  cases result with
  | error error =>
      obtain ⟨last', decides, undisturbed, sameFuel⟩ := exists_decides_of_fail asked more allOwned
        reaches keepsSession rfl rfl (fun _ => rfl) shares
      refine ⟨last', decides, undisturbed, ?_⟩
      rw [sameFuel]
      exact spent
  | ok holds =>
      have aliveAll : ∀ address ∈ Handle.owned operands ++ heldFor method receiver right held,
          (machine.store.cell? address).isSome := by
        refine List.forall_mem_append.mpr ⟨fun address member => ?_, heldAlive⟩
        rw [isSome_cell?, same]
        exact alive address member
      obtain ⟨last', decides, undisturbed, sameFuel⟩ := exists_decides_of_give asked more allOwned
        reaches keepsSession heldAlive rfl rfl shares.eq_none_nextAddress
        (shares.allocate aliveAll (.bool holds))
      refine ⟨last', decides, undisturbed, ?_⟩
      rw [sameFuel]
      exact spent

theorem settles_of_not_instance {found : Option (Address × Object)}
    (leftWraps : store.Wraps field left first) (rightFound : store.resolve right = .ok found)
    (failed : store.getInstance right = .error error) :
    Settles store relation left right 1 (.error error) := by
  intro machine same allOwned enough
  rw [← resolve_congr same] at rightFound
  rw [← getInstance_congr same] at failed
  obtain ⟨receiver, cls, fields, method, other, leftFound, rfl, compares, asked, _⟩ :=
    exists_ask relation (leftWraps.congr fun address => (same address).symm) rightFound
  obtain ⟨store, reads, shares⟩ := exists_reaches_fail _ compares leftFound allOwned failed
  obtain ⟨last, decides, undisturbed, spent⟩ := exists_decides_of_fail asked enough allOwned reads
    ⟨rfl, rfl, rfl⟩ rfl rfl (fun _ => rfl) shares
  refine ⟨last, decides, undisturbed, ?_⟩
  rw [spent]
  exact Nat.le_add_of_sub_le (Nat.le_refl _)

theorem Settles.mono {fuel' : Nat} (settles : Settles store relation left right fuel result)
    (less : fuel ≤ fuel') : Settles store relation left right fuel' result := by
  intro machine same allOwned enough
  obtain ⟨last, decides, undisturbed, spent⟩ :=
    settles machine same allOwned (Nat.le_trans less enough)
  exact ⟨last, decides, undisturbed, Nat.le_trans spent (Nat.add_le_add_left less _)⟩

/-- If the left operand has no method for it, a relation is settled without a body. -/
theorem exists_settles_of_isPlain {found : Option (Address × Object)} (plain : store.IsPlain left)
    (rightFound : store.resolve right = .ok found) (relation : Relation) :
    ∃ result, Settles store relation left right 0 result := by
  obtain ⟨leftFound, known, notInstance⟩ := plain
  have undisturbed (machine : Machine) : Undisturbed machine machine :=
    ⟨rfl, rfl, rfl, fun _ => rfl⟩
  have verdict := verdict_of_resolve known rightFound relation
  rw [override?_of_kind notInstance] at verdict
  dsimp only at verdict
  split at verdict
  · exact ⟨_, fun machine same _ _ =>
      ⟨machine, .byValue ((verdict_congr same relation left right).trans verdict),
        undisturbed machine, Nat.le_refl _⟩⟩
  · exact ⟨_, fun machine same _ _ =>
      ⟨machine, .refused ((verdict_congr same relation left right).trans verdict),
        undisturbed machine, Nat.le_refl _⟩⟩

/-- Between values that have been wrapped any number of times every relation is settled. -/
theorem exists_settles {depth depth' : Nat} (leftBuilt : store.Built field depth left)
    (rightBuilt : store.Built field depth' right) (relation : Relation) :
    ∃ result, Settles store relation left right depth result := by
  induction leftBuilt generalizing depth' right with
  | plain plain =>
      obtain ⟨found, known⟩ := rightBuilt.exists_resolve
      exact exists_settles_of_isPlain plain known relation
  | @wrapped depth left first leftWraps leftBuilt ih =>
      cases rightBuilt with
      | plain plain =>
          obtain ⟨found, known, _⟩ := id plain
          obtain ⟨error, failed⟩ := plain.exists_getInstance_error
          exact ⟨_, (settles_of_not_instance leftWraps known failed).mono (Nat.le_add_left _ _)⟩
      | wrapped rightWraps rightBuilt =>
          obtain ⟨result, settles⟩ := ih rightBuilt
          exact ⟨result, settles.lift leftWraps rightWraps (leftBuilt.alive_pair rightBuilt)⟩

/-- However often two values are wrapped, as long as it is equally often, the result is the same. -/
theorem Settles.lift_times {count depth depth' : Nat}
    (leftWraps : store.WrapsTimes field count left first)
    (rightWraps : store.WrapsTimes field count right second)
    (firstBuilt : store.Built field depth first) (secondBuilt : store.Built field depth' second)
    (settles : Settles store relation first second fuel result) :
    Settles store relation left right (count + fuel) result := by
  induction leftWraps generalizing right with
  | none =>
      cases rightWraps
      rw [Nat.zero_add]
      exact settles
  | @onceMore count left middle first leftWraps leftTimes ih =>
      cases rightWraps with
      | onceMore rightWraps rightTimes =>
          rw [Nat.add_right_comm]
          exact (ih rightTimes firstBuilt settles).lift leftWraps rightWraps
            ((leftTimes.built firstBuilt).alive_pair (rightTimes.built secondBuilt))

end Wrapped

/-! ## Comparisons of wrapped values -/

/-- Two pairs of operands for which every relation is settled in the same way are compared with the
same result. -/
theorem exists_compares_alike {left right left' right' : Handle} {fuel : Nat}
    (alike : ∀ relation, ∃ result, Settles machine.store relation left right fuel result ∧
      Settles machine.store relation left' right' fuel result)
    (allOwned : AllOwned machine.store.cell?) (enough : 2 * fuel ≤ machine.fuel)
    (comparison : Comparison) :
    ∃ result last last', Compares machine comparison left right result last ∧
      Undisturbed machine last ∧ Compares machine comparison left' right' result last' ∧
      Undisturbed machine last' := by
  obtain ⟨result, settles, settles'⟩ := alike comparison.relation
  have enoughOnce : fuel ≤ machine.fuel :=
    Nat.le_trans (Nat.le_mul_of_pos_left _ Nat.two_pos) enough
  obtain ⟨last, decides, undisturbed, spent⟩ := settles machine (fun _ => rfl) allOwned enoughOnce
  obtain ⟨last', decides', undisturbed', spent'⟩ :=
    settles' machine (fun _ => rfl) allOwned enoughOnce
  by_cases further : comparison.orEqual ∧ result = .ok false
  · obtain ⟨orEqual, rfl⟩ := further
    obtain ⟨result, settles, settles'⟩ := alike .equality
    obtain ⟨final, further, undisturbedFurther, _⟩ :=
      settles last undisturbed.object?_eq (undisturbed.allOwned allOwned) (by omega)
    obtain ⟨final', further', undisturbedFurther', _⟩ :=
      settles' last' undisturbed'.object?_eq (undisturbed'.allOwned allOwned) (by omega)
    exact ⟨_, final, final', .again orEqual decides further, undisturbed.trans undisturbedFurther,
      .again orEqual decides' further', undisturbed'.trans undisturbedFurther'⟩
  · have once (orEqual : comparison.orEqual) (fails : result = .ok false) : False :=
      further ⟨orEqual, fails⟩
    exact ⟨_, last, last', .once decides once, undisturbed, .once decides' once, undisturbed'⟩

end Machine

open Point

/-- Two instances that compare by a field are compared as the values that they have there: with the
same boolean or the same error, whichever comparison it is, and however often the values have been
wrapped. Neither comparison leaves a trace: every cell of the store is as before, and so are the
scope, the classes and the output. -/
theorem comparison_lifts_through_wrappers {output : Output} {machine : Machine}
    {comparison : Comparison} {field : String} {left right first second : Handle}
    {count depth depth' : Nat}
    (reached : Leads (.between (.start output))
      (.inside ((Operation.compare comparison left right).awaiting machine)))
    (leftWraps : machine.store.WrapsTimes field count left first)
    (rightWraps : machine.store.WrapsTimes field count right second)
    (firstBuilt : machine.store.Built field depth first)
    (secondBuilt : machine.store.Built field depth' second)
    (enough : 2 * (count + depth) ≤ machine.fuel) :
    ∃ result last last',
      Returns (.release [first, second] :: machine.stack)
          ((Operation.compare comparison first second).awaiting machine)
          (last.answered result (.release [first, second] :: machine.stack) machine.goal) ∧
        Undisturbed machine last ∧
        Returns (.release [left, right] :: machine.stack)
          ((Operation.compare comparison left right).awaiting machine)
          (last'.answered result (.release [left, right] :: machine.stack) machine.goal) ∧
        Undisturbed machine last' := by
  have sound := Leads.sound reached (sound_start output)
  have allOwned : Store.AllOwned machine.store.cell? := fun _ _ => sound.counted.counts.positive
  have alike (relation : Relation) : ∃ result,
      Settles machine.store relation first second (count + depth) result ∧
        Settles machine.store relation left right (count + depth) result := by
    obtain ⟨result, settles⟩ := exists_settles firstBuilt secondBuilt relation
    exact ⟨result, settles.mono (Nat.le_add_left _ _),
      settles.lift_times leftWraps rightWraps firstBuilt secondBuilt⟩
  obtain ⟨result, last, last', compares, undisturbed, compares', undisturbed'⟩ :=
    exists_compares_alike alike allOwned enough comparison
  exact ⟨result, last, last', compares.returns_awaiting, undisturbed, compares'.returns_awaiting,
    undisturbed'⟩

/-- A method that compares the values of two counters. -/
def countingMethod (relation : Relation) : Method where
  name := relation.method
  params := ["other"]
  body := .binary (.compare relation.comparison)
    (.unary (.field "value") (.var Store.selfName)) (.unary (.field "value") (.var "other"))

/-- A class of counters. -/
def counterClass : Class :=
  .root "Counter" [countingMethod .equality, countingMethod .order]

/-- A class of counters that adds nothing. -/
def tallyClass : Class :=
  .derived "Tally" [] counterClass

theorem comparesBy_counterClass : counterClass.ComparesBy "value" := by
  intro relation
  refine ⟨countingMethod relation, "other", ?_, rfl, by decide, rfl⟩
  cases relation <;> rfl

/-- Compares a counter of three with a tally that has not been set. -/
def counting : Expr :=
  .sequence
    [.assign "a" (.create "Counter"),
     .binary (.setField "value") (.var "a") (.literal (.number 3)),
     .binary (.compare .lessOrEqual) (.var "a") (.create "Tally")]

/-- A session with both classes. -/
def countingSession : Session where
  classes := { entries := [("Tally", tallyClass), ("Counter", counterClass)] }

theorem leads_countingSession : Leads (.between (.start .empty)) (.between countingSession) :=
  .head (.begin _ (.defineClass "Counter" none [countingMethod .equality, countingMethod .order]))
    (.single (.begin _ (.defineClass "Tally" (some "Counter") [])))

/-- The machine that has made both and is about to compare them. -/
def beforeCounting : Machine :=
  (countingSession.machine counting (.inspect .describe)).after 18

/-- A number cannot be compared with nothing, and neither can the counters. -/
theorem comparison_lifts_through_wrappers_of_counters :
    ∃ last, Returns [.release [.owner 0, .owner 2]] beforeCounting
        (last.answered (.error (.cannotCompare .order (.kind .number) .nothing))
          [.release [.owner 0, .owner 2]] beforeCounting.goal) ∧
      Undisturbed beforeCounting last := by
  let machine := { beforeCounting with stack := [] }
  have awaits : (Operation.compare .lessOrEqual (.owner 0) (.owner 2)).awaiting machine =
      beforeCounting := by with_unfolding_all rfl
  have reached : Leads (.between (.start .empty))
      (.inside ((Operation.compare .lessOrEqual (.owner 0) (.owner 2)).awaiting machine)) := by
    rw [awaits]
    exact (leads_countingSession.tail (.begin _ (.inspect .describe counting))).trans
      (leads_after _ 18)
  have wrapsThree : machine.store.Wraps "value" (.owner 0) (.owner 1) := by
    refine ⟨0, counterClass, (Scope.bind {} "self" (.alias 0)).bind "value" (.owner 1), ?_,
      comparesBy_counterClass, rfl⟩
    with_unfolding_all rfl
  have wrapsNothing : machine.store.Wraps "value" (.owner 2) .empty := by
    refine ⟨2, tallyClass, Scope.bind {} "self" (.alias 2), ?_,
      comparesBy_counterClass.derived "Tally", rfl⟩
    with_unfolding_all rfl
  have three : machine.store.resolve (.owner 1) = .ok (some (1, .number 3)) := by
    with_unfolding_all rfl
  have plainThree : machine.store.IsPlain (.owner 1) := by
    refine ⟨_, three, fun located same => ?_⟩
    cases same
    decide
  have plainNothing : machine.store.IsPlain .empty :=
    ⟨none, rfl, fun _ same => absurd same (Option.not_mem_none _)⟩
  have enough : 2 * (1 + 0) ≤ machine.fuel := by
    have full : machine.fuel = 3000 := by with_unfolding_all rfl
    rw [full]
    decide
  obtain ⟨result, last, last', returns, _, returns', undisturbed⟩ :=
    comparison_lifts_through_wrappers reached (.onceMore wrapsThree .none)
      (.onceMore wrapsNothing .none) (.plain plainThree) (.plain plainNothing) enough
  have refused : machine.store.verdict .order (.owner 1) .empty =
      .error (.cannotCompare .order (.kind .number) .nothing) := by
    rw [Store.verdict_of_resolve three rfl, Store.typeName, Store.typeName, three]
    rfl
  have same := Returns.unique returns (answers_of_refused refused)
  obtain rfl : result = .error (.cannotCompare .order (.kind .number) .nothing) :=
    eq_of_answered_fail (congrArg Machine.control same)
  rw [awaits] at returns'
  exact ⟨last', returns', undisturbed.classes, undisturbed.scope, undisturbed.output,
    undisturbed.cell?⟩

end Offside
