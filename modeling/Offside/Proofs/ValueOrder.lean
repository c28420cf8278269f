import Mathlib.Data.Bool.Basic
import Mathlib.Data.Int.Order.Basic
import Mathlib.Data.String.Basic
import Mathlib.Tactic.ByContra
import Offside.Proofs.Machine.Deciding

/-!
# The order of values

Numbers, texts and truth values are ordered within their kinds, and the six comparisons say of
them what they say in any linear order. No other values without methods of their own can be
compared, but for two empty handles.
-/

namespace Offside

open Machine

/-- Whether a relation holds in a linear order. -/
def Relation.between {β : Type} [LinearOrder β] : Relation → β → β → Bool
  | .equality, first, second => first = second
  | .order, first, second => first < second

/-- What a comparison says in a linear order. -/
def Comparison.between {β : Type} [LinearOrder β] : Comparison → β → β → Bool
  | .equal, first, second => first = second
  | .notEqual, first, second => first ≠ second
  | .less, first, second => first < second
  | .lessOrEqual, first, second => first ≤ second
  | .greater, first, second => second < first
  | .greaterOrEqual, first, second => second ≤ first

section Between

variable {β : Type} [LinearOrder β] {comparison : Comparison} {first second : β}

/-- The relation that a comparison asks first decides it, unless equality is to be asked. -/
theorem Comparison.between_of_once
    (once : comparison.orEqual → comparison.relation.between first second = true) :
    comparison.between first second =
      (comparison.relation.between first second != comparison.negated) := by
  cases comparison with
  | lessOrEqual | greater =>
      have less : first < second := of_decide_eq_true (once rfl)
      simp [between, relation, Relation.between, negated, less, less.le, less.not_gt]
  | _ => simp [between, relation, Relation.between, negated, ← not_lt]

theorem Comparison.between_of_again (orEqual : comparison.orEqual)
    (fails : comparison.relation.between first second = false) :
    comparison.between first second =
      (Relation.equality.between first second != comparison.negated) := by
  cases comparison with
  | lessOrEqual | greater =>
      have notLess : ¬first < second := of_decide_eq_false fails
      have same : first ≤ second ↔ first = second :=
        ⟨fun upTo => upTo.eq_of_not_lt notLess, le_of_eq⟩
      simp [between, Relation.between, negated, ← not_le, same]
  | _ => cases orEqual

end Between

/-! ## Ranks of values -/

namespace Kind

/-- Whether the values of a kind have an order. -/
def isOrdered : Kind → Bool
  | .number | .text | .bool => true
  | .classValue | .instanceOf => false

/-- The relations between the values of a kind are those between their ranks. -/
def RankedBy {β : Type} [LinearOrder β] (kind : Kind) (rank : Object → β) : Prop :=
  ∀ left right : Object, left.kind = kind → right.kind = kind → ∀ relation : Relation,
    relation.holds? left right = some (relation.between (rank left) (rank right))

theorem rankedBy_number : Kind.number.RankedBy fun
    | .number value => value.toInt
    | _ => 0 := by
  intro left right ofNumber ofNumber' relation
  cases left <;> cases ofNumber
  cases right <;> cases ofNumber'
  cases relation with
  | equality => simp [Relation.holds?, Relation.between, beq_eq_decide, Int32.toInt_inj]
  | order => simp [Relation.holds?, Relation.between, Int32.lt_iff_toInt_lt]

theorem rankedBy_text : Kind.text.RankedBy fun
    | .text value => value
    | _ => "" := by
  intro left right ofText ofText' relation
  cases left <;> cases ofText
  cases right <;> cases ofText'
  cases relation with
  | equality => simp [Relation.holds?, Relation.between, beq_eq_decide]
  | order => rfl

theorem rankedBy_bool : Kind.bool.RankedBy Object.truth := by
  intro left right ofBool ofBool' relation
  cases left with
  | bool first =>
      cases right with
      | bool second => cases relation <;> cases first <;> cases second <;> rfl
      | _ => cases ofBool'
  | _ => cases ofBool

theorem exists_rankedBy {kind : Kind} (ordered : kind.isOrdered) :
    ∃ (β : Type) (_ : LinearOrder β) (rank : Object → β), kind.RankedBy rank := by
  cases kind with
  | number => exact ⟨_, _, _, rankedBy_number⟩
  | text => exact ⟨_, _, _, rankedBy_text⟩
  | bool => exact ⟨_, _, _, rankedBy_bool⟩
  | classValue | instanceOf => cases ordered

/-- Only values of one kind with an order are compared by value. -/
theorem exists_isOrdered_of_holds? {relation : Relation} {left right : Object} {holds : Bool}
    (decided : relation.holds? left right = some holds) :
    ∃ kind : Kind, kind.isOrdered ∧ left.kind = kind ∧ right.kind = kind := by
  unfold Relation.holds? at decided
  split at decided
  · exact ⟨.number, rfl, rfl, rfl⟩
  · exact ⟨.text, rfl, rfl, rfl⟩
  · exact ⟨.bool, rfl, rfl, rfl⟩
  · cases decided

end Kind

/-! ## Plain operands -/

namespace Store

variable {store : Store} {handle left right : Handle} {kind : Kind}

/-- A handle is plain if it is empty or refers to a living object that is no instance. -/
def IsPlain (store : Store) (handle : Handle) : Prop :=
  ∃ found, store.resolve handle = .ok found ∧ ∀ located ∈ found, located.2.kind ≠ .instanceOf

/-- Two handles do not both refer to values of one kind that has an order. -/
def Mismatch (store : Store) (left right : Handle) : Prop :=
  ∀ kind : Kind, kind.isOrdered → store.typeName left = .kind kind →
    store.typeName right ≠ .kind kind

theorem Mismatch.symm (mismatch : store.Mismatch left right) : store.Mismatch right left :=
  fun kind ordered rightKind leftKind => mismatch kind ordered leftKind rightKind

theorem typeName_eq_kind_iff : store.typeName handle = .kind kind ↔
    ∃ address object, store.resolve handle = .ok (some (address, object)) ∧ object.kind = kind := by
  unfold typeName
  split
  next address object found =>
    rw [found]
    constructor
    · intro same
      exact ⟨address, object, rfl, TypeName.kind.inj same⟩
    · rintro ⟨_, _, same, rfl⟩
      cases same
      rfl
  next found =>
    rw [found]
    exact iff_of_false nofun nofun
  next error found =>
    rw [found]
    exact iff_of_false nofun nofun

theorem exists_resolve_of_peek? {object : Object} (there : store.peek? handle = some object) :
    ∃ address, store.resolve handle = .ok (some (address, object)) := by
  obtain ⟨address, refers, found⟩ := Option.bind_eq_some_iff.mp there
  exact ⟨address, resolve_eq_some_iff.mpr ⟨refers, found⟩⟩

theorem resolve_eq_none_iff : store.resolve handle = .ok none ↔ handle = .empty := by
  unfold resolve
  split
  next nothing => exact iff_of_true rfl (Handle.target?_eq_none_iff.mp nothing)
  next target refers =>
    refine iff_of_false (fun found => ?_) (fun empty => ?_)
    · split at found <;> cases found
    · rw [empty] at refers
      cases refers

theorem override?_of_kind {found : Option (Address × Object)}
    (plain : ∀ located ∈ found, located.2.kind ≠ .instanceOf) (relation : Relation) :
    override? relation found = none := by
  cases overridden : override? relation found with
  | none => rfl
  | some pair =>
      obtain ⟨receiver, cls⟩ := pair
      obtain ⟨fields, rfl, _⟩ := override?_eq_some overridden
      exact absurd rfl (plain _ rfl)

section Ranks

variable {β : Type} {rank : Object → β} {address address' : Address} {first second : Object}

/-- The rank of what a handle refers to, which is of no account for other handles. -/
def rankOf (store : Store) (rank : Object → β) (handle : Handle) : β :=
  rank ((store.peek? handle).getD (.bool false))

theorem rankOf_eq (found : store.resolve handle = .ok (some (address, first))) :
    store.rankOf rank handle = rank first := by
  obtain ⟨refers, there⟩ := resolve_eq_some_iff.mp found
  simp only [rankOf, peek?, refers, Option.bind_some, there, Option.getD_some]

/-- The relation of values of a kind with an order is decided by their ranks. -/
theorem verdict_of_rankedBy [LinearOrder β] (ranked : kind.RankedBy rank)
    (ordered : kind.isOrdered)
    (leftFound : store.resolve left = .ok (some (address, first))) (firstKind : first.kind = kind)
    (rightFound : store.resolve right = .ok (some (address', second)))
    (secondKind : second.kind = kind) (relation : Relation) :
    store.verdict relation left right =
      .ok (.decided (relation.between (rank first) (rank second))) := by
  have plain : ∀ located ∈ some (address, first), located.2.kind ≠ .instanceOf := by
    rintro located same instanceKind
    cases same
    rw [← firstKind, instanceKind] at ordered
    cases ordered
  rw [verdict_of_resolve leftFound rightFound, override?_of_kind plain]
  simp only [holds?, ranked first second firstKind secondKind]

end Ranks

/-- No relation between plain operands is decided unless they are of one kind with an order, or
both are empty. -/
theorem verdict_of_mismatch (leftPlain : store.IsPlain left) (rightPlain : store.IsPlain right)
    (mismatch : store.Mismatch left right)
    {relation : Relation} (notEmpty : ¬(relation = .equality ∧ left = .empty ∧ right = .empty)) :
    store.verdict relation left right =
      .error (.cannotCompare relation (store.typeName left) (store.typeName right)) := by
  obtain ⟨first, leftFound, plain⟩ := leftPlain
  obtain ⟨second, rightFound, _⟩ := rightPlain
  have undecided : holds? relation first second = none := by
    cases first with
    | none =>
        cases second with
        | none =>
            refine if_neg fun equality => ?_
            exact notEmpty ⟨equality, resolve_eq_none_iff.mp leftFound,
              resolve_eq_none_iff.mp rightFound⟩
        | some located => rfl
    | some located =>
        cases second with
        | none => rfl
        | some located' =>
            rw [Option.eq_none_iff_forall_ne_some]
            intro holds decided
            obtain ⟨kind, ordered, leftKind, rightKind⟩ := Kind.exists_isOrdered_of_holds? decided
            exact mismatch kind ordered (typeName_eq_kind_iff.mpr ⟨_, _, leftFound, leftKind⟩)
              (typeName_eq_kind_iff.mpr ⟨_, _, rightFound, rightKind⟩)
  rw [verdict_of_resolve leftFound rightFound, override?_of_kind plain]
  simp only [undecided]

end Store

namespace Machine

variable {machine : Machine} {comparison : Comparison} {left right : Handle}

/-! ## Answers -/

/-- Where the relations are decided as in a linear order, so are the comparisons. -/
theorem answers_between {β : Type} [LinearOrder β] {first second : β}
    (decided : ∀ relation : Relation, machine.store.verdict relation left right =
      .ok (.decided (relation.between first second))) (comparison : Comparison) :
    machine.Answers comparison left right (.ok (comparison.between first second)) := by
  have asked : Decides machine comparison.relation left right
      (.ok (comparison.relation.between first second)) machine := .byValue (decided _)
  by_cases further : comparison.orEqual ∧ comparison.relation.between first second = false
  · obtain ⟨orEqual, fails⟩ := further
    rw [fails] at asked
    rw [Comparison.between_of_again orEqual fails]
    exact (Compares.again orEqual asked (.byValue (decided .equality))).returns_awaiting
  · have once (orEqual : comparison.orEqual) :
        comparison.relation.between first second = true :=
      eq_true_of_ne_false fun fails => further ⟨orEqual, fails⟩
    rw [Comparison.between_of_once once]
    refine (Compares.once asked fun orEqual fails => ?_).returns_awaiting
    cases (once orEqual).symm.trans (Except.ok.inj fails)

/-- Values of a kind with an order are compared by their ranks. -/
theorem answers_of_rankedBy {β : Type} [LinearOrder β] {kind : Kind} {rank : Object → β}
    {first second : Object} (ranked : kind.RankedBy rank) (ordered : kind.isOrdered)
    (leftThere : machine.store.peek? left = some first) (leftKind : first.kind = kind)
    (rightThere : machine.store.peek? right = some second) (rightKind : second.kind = kind)
    (comparison : Comparison) :
    machine.Answers comparison left right
      (.ok (comparison.between (rank first) (rank second))) := by
  obtain ⟨_, leftFound⟩ := Store.exists_resolve_of_peek? leftThere
  obtain ⟨_, rightFound⟩ := Store.exists_resolve_of_peek? rightThere
  exact answers_between
    (Store.verdict_of_rankedBy ranked ordered leftFound leftKind rightFound rightKind) comparison

/-- A comparison says yes, and leaves everything else as it is. -/
def Holds (machine : Machine) (comparison : Comparison) (left right : Handle) : Prop :=
  machine.Answers comparison left right (.ok true)

/-- The six comparisons order some handles totally, up to the equality that they find. -/
structure OrdersTotally (machine : Machine) (among : Handle → Prop) : Prop where
  exists_answer (comparison : Comparison) {left right : Handle} : among left → among right →
    ∃ answer, machine.Answers comparison left right (.ok answer)
  trichotomy {left right : Handle} : among left → among right →
    machine.Holds .less left right ∧ ¬machine.Holds .equal left right ∧
        ¬machine.Holds .less right left ∨
      ¬machine.Holds .less left right ∧ machine.Holds .equal left right ∧
        ¬machine.Holds .less right left ∨
      ¬machine.Holds .less left right ∧ ¬machine.Holds .equal left right ∧
        machine.Holds .less right left
  less_trans {first second third : Handle} : among first → among second → among third →
    machine.Holds .less first second → machine.Holds .less second third →
    machine.Holds .less first third
  equal_refl {handle : Handle} : among handle → machine.Holds .equal handle handle
  equal_symm {left right : Handle} : among left → among right →
    machine.Holds .equal left right → machine.Holds .equal right left
  equal_trans {first second third : Handle} : among first → among second → among third →
    machine.Holds .equal first second → machine.Holds .equal second third →
    machine.Holds .equal first third
  less_congr {left left' right right' : Handle} : among left → among left' → among right →
    among right' → machine.Holds .equal left left' → machine.Holds .equal right right' →
    (machine.Holds .less left right ↔ machine.Holds .less left' right')
  notEqual {left right : Handle} {answer : Bool} : among left → among right →
    (machine.Answers .notEqual left right (.ok answer) ↔
      machine.Answers .equal left right (.ok !answer))
  greater {left right : Handle} {answer : Bool} : among left → among right →
    (machine.Answers .greater left right (.ok answer) ↔
      machine.Answers .less right left (.ok answer))
  lessOrEqual {left right : Handle} {answer : Bool} : among left → among right →
    (machine.Answers .lessOrEqual left right (.ok answer) ↔
      machine.Answers .less right left (.ok !answer))
  greaterOrEqual {left right : Handle} {answer : Bool} : among left → among right →
    (machine.Answers .greaterOrEqual left right (.ok answer) ↔
      machine.Answers .lessOrEqual right left (.ok answer))

section Ranks

variable {β : Type} [LinearOrder β] {among : Handle → Prop} {rank : Handle → β}
  (ranks : ∀ comparison left right, among left → among right →
    machine.Answers comparison left right (.ok (comparison.between (rank left) (rank right))))
include ranks

theorem answers_iff_between {answer : Bool} (here : among left) (there : among right) :
    machine.Answers comparison left right (.ok answer) ↔
      answer = comparison.between (rank left) (rank right) := by
  have answers := ranks comparison left right here there
  constructor
  · intro given
    exact Except.ok.inj (given.unique answers)
  · rintro rfl
    exact answers

theorem holds_less_iff (here : among left) (there : among right) :
    machine.Holds .less left right ↔ rank left < rank right :=
  (answers_iff_between ranks here there).trans (eq_comm.trans decide_eq_true_iff)

theorem holds_equal_iff (here : among left) (there : among right) :
    machine.Holds .equal left right ↔ rank left = rank right :=
  (answers_iff_between ranks here there).trans (eq_comm.trans decide_eq_true_iff)

/-- Handles that are compared by ranks in a linear order are ordered totally. -/
theorem ordersTotally_of_ranks : machine.OrdersTotally among where
  exists_answer comparison left right here there := ⟨_, ranks comparison left right here there⟩
  trichotomy here there := by
    rw [holds_less_iff ranks here there, holds_equal_iff ranks here there,
      holds_less_iff ranks there here]
    rcases lt_trichotomy (rank _) (rank _) with less | same | greater
    · exact .inl ⟨less, less.ne, less.not_gt⟩
    · exact .inr (.inl ⟨same.not_lt, same, same.not_gt⟩)
    · exact .inr (.inr ⟨greater.not_gt, greater.ne', greater⟩)
  less_trans first second third := by
    rw [holds_less_iff ranks first second, holds_less_iff ranks second third,
      holds_less_iff ranks first third]
    exact lt_trans
  equal_refl here := (holds_equal_iff ranks here here).mpr rfl
  equal_symm here there := by
    rw [holds_equal_iff ranks here there, holds_equal_iff ranks there here]
    exact Eq.symm
  equal_trans first second third := by
    rw [holds_equal_iff ranks first second, holds_equal_iff ranks second third,
      holds_equal_iff ranks first third]
    exact Eq.trans
  less_congr left left' right right' := by
    rw [holds_equal_iff ranks left left', holds_equal_iff ranks right right',
      holds_less_iff ranks left right, holds_less_iff ranks left' right']
    rintro same same'
    rw [same, same']
  notEqual here there := by
    rw [answers_iff_between ranks here there, answers_iff_between ranks here there]
    simp [Comparison.between]
  greater here there := by
    rw [answers_iff_between ranks here there, answers_iff_between ranks there here]
    rfl
  lessOrEqual here there := by
    rw [answers_iff_between ranks here there, answers_iff_between ranks there here]
    simp [Comparison.between, ← not_lt]
  greaterOrEqual here there := by
    rw [answers_iff_between ranks here there, answers_iff_between ranks there here]
    rfl

end Ranks

theorem ordersTotally_of_isOrdered (machine : Machine) {kind : Kind} (ordered : kind.isOrdered) :
    machine.OrdersTotally fun handle => machine.store.typeName handle = .kind kind := by
  obtain ⟨β, order, rank, ranked⟩ := Kind.exists_rankedBy ordered
  have ranks (comparison : Comparison) (left right : Handle)
      (here : machine.store.typeName left = .kind kind)
      (there : machine.store.typeName right = .kind kind) :
      machine.Answers comparison left right
        (.ok (comparison.between (machine.store.rankOf rank left)
          (machine.store.rankOf rank right))) := by
    obtain ⟨_, first, leftFound, leftKind⟩ := Store.typeName_eq_kind_iff.mp here
    obtain ⟨_, second, rightFound, rightKind⟩ := Store.typeName_eq_kind_iff.mp there
    rw [Store.rankOf_eq leftFound, Store.rankOf_eq rightFound]
    exact answers_between
      (Store.verdict_of_rankedBy ranked ordered leftFound leftKind rightFound rightKind) comparison
  exact ordersTotally_of_ranks ranks

/-- Two empty handles are equal. -/
theorem answers_of_empty (machine : Machine) (equality : comparison.relation = .equality) :
    machine.Answers comparison .empty .empty (.ok !comparison.negated) := by
  have asked : machine.store.verdict comparison.relation .empty .empty = .ok (.decided true) := by
    rw [equality]
    rfl
  have once : comparison.orEqual → (Except.ok true : Except EvalError Bool) ≠ .ok false := nofun
  have answers := (Compares.once (.byValue asked) once).returns_awaiting
  rw [Except.map, Bool.true_bne] at answers
  exact answers

/-- Plain operands that are no two values of one kind with an order cannot be compared, unless
both are empty. -/
theorem answers_of_mismatch (leftPlain : machine.store.IsPlain left)
    (rightPlain : machine.store.IsPlain right)
    (mismatch : machine.store.Mismatch left right) (comparison : Comparison) :
    machine.Answers comparison left right
      (if comparison.relation = .equality ∧ left = .empty ∧ right = .empty then
        .ok !comparison.negated
      else
        .error (.cannotCompare comparison.relation (machine.store.typeName left)
          (machine.store.typeName right))) := by
  split
  next empty =>
    obtain ⟨equality, rfl, rfl⟩ := empty
    exact answers_of_empty machine equality
  next notEmpty =>
    exact answers_of_refused (Store.verdict_of_mismatch leftPlain rightPlain mismatch notEmpty)

/-- Of such operands only two empty ones compare with success. -/
theorem exists_answer_iff_of_mismatch (leftPlain : machine.store.IsPlain left)
    (rightPlain : machine.store.IsPlain right)
    (mismatch : machine.store.Mismatch left right) :
    (∃ answer, machine.Answers comparison left right (.ok answer)) ↔
      comparison.relation = .equality ∧ left = .empty ∧ right = .empty := by
  have answers := answers_of_mismatch leftPlain rightPlain mismatch comparison
  constructor
  · rintro ⟨answer, succeeds⟩
    by_contra notEmpty
    rw [if_neg notEmpty] at answers
    cases answers.unique succeeds
  · intro empty
    rw [if_pos empty] at answers
    exact ⟨_, answers⟩

end Machine

/-- Numbers, texts and truth values are compared by value, so within each kind of values that has
an order the comparisons agree with each other as in a linear order. Among all other plain operands
two empty handles are equal, and everything else is an error with the relation that was asked first
and the types of both operands. So every comparison of plain operands has one answer, with which it
leaves everything else as it is, and whether it succeeds does not depend on which operand comes
first. -/
theorem values_ordered_within_kinds (machine : Machine) :
    (∀ (left right : Handle) (comparison : Comparison),
      (∀ first second, machine.store.peek? left = some (.number first) →
        machine.store.peek? right = some (.number second) →
        machine.Answers comparison left right
          (.ok (comparison.between first.toInt second.toInt))) ∧
      (∀ first second, machine.store.peek? left = some (.text first) →
        machine.store.peek? right = some (.text second) →
        machine.Answers comparison left right (.ok (comparison.between first second))) ∧
      ∀ first second, machine.store.peek? left = some (.bool first) →
        machine.store.peek? right = some (.bool second) →
        machine.Answers comparison left right (.ok (comparison.between first second))) ∧
    (∀ kind : Kind, kind.isOrdered →
      machine.OrdersTotally fun handle => machine.store.typeName handle = .kind kind) ∧
    ∀ left right : Handle, machine.store.IsPlain left → machine.store.IsPlain right →
      (∀ comparison, ∃! result, machine.Answers comparison left right result) ∧
      (machine.store.Mismatch left right →
        ∀ comparison : Comparison, machine.Answers comparison left right
          (if comparison.relation = .equality ∧ left = .empty ∧ right = .empty then
            .ok !comparison.negated
          else
            .error (.cannotCompare comparison.relation (machine.store.typeName left)
              (machine.store.typeName right)))) ∧
      ∀ comparison, (∃ answer, machine.Answers comparison left right (.ok answer)) ↔
        ∃ answer, machine.Answers comparison right left (.ok answer) := by
  refine ⟨fun left right comparison => ⟨?_, ?_, ?_⟩,
    fun kind => ordersTotally_of_isOrdered machine, ?_⟩
  · intro first second here there
    exact answers_of_rankedBy Kind.rankedBy_number rfl here rfl there rfl comparison
  · intro first second here there
    exact answers_of_rankedBy Kind.rankedBy_text rfl here rfl there rfl comparison
  · intro first second here there
    exact answers_of_rankedBy Kind.rankedBy_bool rfl here rfl there rfl comparison
  intro left right leftPlain rightPlain
  by_cases matched : ∃ kind : Kind, kind.isOrdered ∧ machine.store.typeName left = .kind kind ∧
      machine.store.typeName right = .kind kind
  · obtain ⟨kind, ordered, leftKind, rightKind⟩ := matched
    have total := ordersTotally_of_isOrdered machine ordered
    refine ⟨fun comparison => ?_, fun mismatch => ?_, fun comparison => ?_⟩
    · obtain ⟨answer, answers⟩ := total.exists_answer comparison leftKind rightKind
      exact ⟨_, answers, fun _ answers' => answers'.unique answers⟩
    · exact (mismatch kind ordered leftKind rightKind).elim
    · exact iff_of_true (total.exists_answer comparison leftKind rightKind)
        (total.exists_answer comparison rightKind leftKind)
  · have mismatch : machine.store.Mismatch left right := fun kind ordered leftKind rightKind =>
      matched ⟨kind, ordered, leftKind, rightKind⟩
    refine ⟨fun comparison => ?_, fun _ => answers_of_mismatch leftPlain rightPlain mismatch,
      fun comparison => ?_⟩
    · have answers := answers_of_mismatch leftPlain rightPlain mismatch comparison
      exact ⟨_, answers, fun _ answers' => answers'.unique answers⟩
    · rw [exists_answer_iff_of_mismatch leftPlain rightPlain mismatch,
        exists_answer_iff_of_mismatch rightPlain leftPlain mismatch.symm, and_comm (a := left = _)]

/-- Two numbers. -/
def twoNumbers : Machine :=
  { store := (({} : Store).allocate (.number 3)).allocate (.number 5)
    fuel := 0
    control := .give .empty
    stack := []
    goal := .inspect .describe }

/-- The one number is less than the other, so the other one is not, and cannot be compared with the
empty handle. -/
theorem values_ordered_within_kinds_of_numbers :
    twoNumbers.Holds .less (.owner 0) (.alias 1) ∧
      ¬twoNumbers.Holds .less (.alias 1) (.owner 0) ∧
    twoNumbers.Answers .lessOrEqual (.owner 0) .empty
      (.error (.cannotCompare .order (.kind .number) .nothing)) := by
  obtain ⟨byValue, total, plain⟩ := values_ordered_within_kinds twoNumbers
  have less : twoNumbers.Holds .less (.owner 0) (.alias 1) :=
    (byValue (.owner 0) (.alias 1) .less).1 3 5 rfl rfl
  have here : twoNumbers.store.typeName (.owner 0) = .kind .number := rfl
  have there : twoNumbers.store.typeName (.alias 1) = .kind .number := rfl
  have number : twoNumbers.store.IsPlain (.owner 0) :=
    ⟨some (0, .number 3), rfl, fun _ same => by cases same; exact nofun⟩
  have nothing : twoNumbers.store.IsPlain .empty := ⟨none, rfl, nofun⟩
  refine ⟨less, ?_, (plain _ _ number nothing).2.1 (fun _ _ _ => nofun) .lessOrEqual⟩
  rcases (total .number rfl).trichotomy here there with
    ⟨_, _, notGreater⟩ | ⟨notLess, _⟩ | ⟨notLess, _⟩
  · exact notGreater
  · exact (notLess less).elim
  · exact (notLess less).elim

end Offside
