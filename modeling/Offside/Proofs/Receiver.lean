import Offside.Proofs.Machine.Dispatch
import Offside.Proofs.Machine.Holding

/-!
# The receiver of a body

A body knows its receiver by an alias only. A frame that was put below the body holds the
receiver until the operation that asked for the body is done with it, whatever becomes of
the other owners meanwhile, so the alias finds it all the time. Once the frame is gone the
alias is like any other.
-/

namespace Offside.Machine

open Point

/-- An alias of the receiver finds it, and it is an instance of the class. -/
def FindsReceiver (store : Store) (receiver : Address) (cls : Class) : Prop :=
  ∃ fields, store.get (.alias receiver) = .ok (receiver, .instanceOf cls fields)

section Finding

variable {machine : Machine} {receiver : Address} {cls : Class} {fields : Scope} {later : Point}

theorem target?_alias : (Handle.alias receiver).target? = some receiver := rfl

/-- An instance that is still owned is found, with whatever fields it has by then. -/
theorem findsReceiver_of_owned (sound : Sound (.inside machine))
    (there : machine.store.object? receiver = some (.instanceOf cls fields))
    (leads : Leads (.inside machine) later) (owned : later.Owned receiver) :
    FindsReceiver later.store receiver cls := by
  obtain ⟨object, got, _⟩ := (leads.sound sound).exists_get_of_owned target?_alias owned
  have given := Holding.lt_nextAddress_of_object? (Option.isSome_of_eq_some there)
  obtain ⟨earlier, before, same⟩ :=
    (leads.continues sound).keeps given (Store.get_eq_ok_iff.mp got).2
  rw [Point.store, there] at before
  cases before
  cases object with
  | instanceOf cls' fields' =>
      cases same
      exact ⟨fields', got⟩
  | number | text | bool | classValue => cases same

theorem get_eq_error_iff (sound : later.Sound) :
    later.store.get (.alias receiver) = .error .invalidHandle ↔ ¬later.Owned receiver := by
  constructor
  · intro dangles owned
    obtain ⟨object, got, _⟩ := sound.exists_get_of_owned target?_alias owned
    rw [got] at dangles
    cases dangles
  · intro gone
    exact (sound.get_of_not_owned target?_alias gone).1

end Finding

section Entering

variable {store : Store} {started : Machine} {receiver : Address} {method : Method}
  {arguments : List Handle} {waiting : List Frame} {holder : Frame} {rest : List Frame}

/-- The body begins with the receiver under its name for itself. -/
theorem Entering.exists_body
    (entering : Entering store receiver method arguments waiting holder rest started) :
    ∃ body, started.step = .running body ∧ body.control = .eval method.body ∧
      body.stack = .leave started.scope :: started.stack ∧
      (Store.selfName ∉ method.params → body.scope.get Store.selfName = .alias receiver) := by
  refine ⟨started.enter (.ofCall receiver method arguments), ?_, rfl, rfl, ?_⟩
  · rw [step, entering.control]
  · intro free
    exact Method.get_selfName_locals free receiver arguments

/-- The body returns, and later the frame that holds the receiver is taken away. It stays at
the bottom of the stack until then. -/
theorem Entering.exists_released
    (entering : Entering store receiver method arguments waiting holder rest started) :
    ∃ returned released, returned < released ∧
      (started.after returned).ReturnedTo started.stack ∧
      (∀ count, count < returned → ¬(started.after count).ReturnedTo started.stack) ∧
      (started.after released).stack = rest ∧
      ∀ count, count < released → (started.after count).Above (holder :: rest) := by
  have below : started.Above (holder :: rest) := ⟨waiting, entering.stack.symm⟩
  obtain ⟨returned, returns, notBefore, staysInside⟩ :=
    Above.exists_returnedTo (List.suffix_refl started.stack)
  obtain ⟨last, ⟨top, outcome⟩, _, stays⟩ := below.exists_returnedTo
  obtain ⟨next, stepped, lets⟩ := entering.dispatch.exists_step top outcome
  rw [← after_of_step stepped] at lets
  refine ⟨returned, last + 1, ?_, returns, notBefore, lets, ?_⟩
  · -- With the frame gone the stack is too short for a body that has not returned.
    apply Nat.lt_of_not_le
    intro early
    have shorter := (staysInside (last + 1) early).length_le
    rw [lets, entering.stack, List.length_append, List.length_cons] at shorter
    omega
  · intro count before
    exact stays count (Nat.le_of_lt_succ before)

end Entering

/-- However a body comes to be entered, it returns, and until then and until the operation
that asked for it has let go of the receiver, the alias under the receiver's name for itself
finds the receiver, whatever happens to other owners of it or to its fields. From then on the
alias finds it exactly as long as somebody owns it. -/
theorem receiver_found_until_released {output : Output} {machine started : Machine}
    {activation : Activation} (reached : Leads (.between (.start output)) (.inside machine))
    (stepped : machine.step = .running started) (entered : started.control = .enter activation) :
    ∃ receiver method arguments waiting holder rest cls,
      Entering machine.store receiver method arguments waiting holder rest started ∧
        activation = .ofCall receiver method arguments ∧
        (∃ body, started.step = .running body ∧ body.control = .eval method.body ∧
          body.stack = .leave started.scope :: started.stack ∧
          (Store.selfName ∉ method.params →
            body.scope.get Store.selfName = .alias receiver)) ∧
        (∃ returned released, returned < released ∧
          (started.after returned).ReturnedTo started.stack ∧
          (∀ count, count < returned → ¬(started.after count).ReturnedTo started.stack) ∧
          (started.after released).stack = rest ∧
          ∀ count, count < released → FindsReceiver (started.after count).store receiver cls) ∧
        ∀ later, Leads (.inside started) later →
          (later.Owned receiver → FindsReceiver later.store receiver cls) ∧
            (later.store.get (.alias receiver) = .error .invalidHandle ↔
              ¬later.Owned receiver) := by
  have sound := reached.sound (sound_start output)
  have toStarted := leads_of_step stepped
  obtain ⟨receiver, method, arguments, waiting, holder, rest, entering⟩ :=
    byDispatch_step stepped activation entered
  obtain ⟨cls, fields, there⟩ := entering.dispatch.object?_eq
  obtain ⟨returned, released, within, returns, notBefore, lets, stays⟩ := entering.exists_released
  have same : activation = .ofCall receiver method arguments := by
    have sameControl := entered.symm.trans entering.control
    cases sameControl
    rfl
  refine ⟨receiver, method, arguments, waiting, holder, rest, cls, entering, same,
    entering.exists_body, ⟨returned, released, within, returns, notBefore, lets, ?_⟩, ?_⟩
  · intro count before
    have held : .owner receiver ∈ (holder :: rest).flatMap Frame.handles :=
      List.mem_append_left _ entering.dispatch.owner_mem
    exact findsReceiver_of_owned sound there (toStarted.trans (leads_after started count))
      (owned_of_above (stays count before) held)
  · intro later leads
    have toLater := toStarted.trans leads
    exact ⟨findsReceiver_of_owned sound there toLater, get_eq_error_iff (Leads.sound toLater sound)⟩

/-- Takes an item out of its box, which may have been the only one to own it. -/
def leave : Method where
  name := "leave"
  params := ["box"]
  body := .sequence [.unary (.deleteField "item") (.var "box"), .unary .selfOf (.var "self")]

/-- Puts an item into a box and tells it to leave, with aliases only. -/
def leaving : Expr :=
  .sequence
    [.assign "box" (.create "Item"),
     .binary (.setField "item") (.var "box") (.create "Item"),
     .call (.unary .alias (.unary (.field "item") (.var "box"))) "leave"
       [.unary .alias (.var "box")]]

/-- The machine when it has found the item and its argument. -/
def toldToLeave : Machine :=
  (((Session.start .silent).perform (.defineClass "Item" none [leave])).2.machine leaving
    (.inspect .describe)).after 27

/-- The item finds itself until its body returns, and is gone when the call is over. -/
theorem receiver_found_until_released_of_leaving :
    Leads (.between (.start .silent)) (.inside toldToLeave) ∧
      toldToLeave.step = .running (toldToLeave.after 1) ∧
      (toldToLeave.after 1).control = .enter (.ofCall 1 leave [.alias 0]) ∧
      (∃ cls returned,
        ((toldToLeave.after 1).after returned).ReturnedTo (toldToLeave.after 1).stack ∧
        ∀ count, count ≤ returned →
          FindsReceiver ((toldToLeave.after 1).after count).store 1 cls) ∧
      ((toldToLeave.after 1).after 14).store.get (.alias 1) = .error .invalidHandle := by
  have reached : Leads (.between (.start .silent)) (.inside toldToLeave) := by
    have defined := leads_perform (.start .silent) (.defineClass "Item" none [leave])
    exact (defined.tail (.begin _ (.inspect .describe leaving))).trans (leads_after _ 27)
  have stepped : toldToLeave.step = .running (toldToLeave.after 1) := by with_unfolding_all rfl
  have entered : (toldToLeave.after 1).control = .enter (.ofCall 1 leave [.alias 0]) := by
    with_unfolding_all rfl
  have gone : ((toldToLeave.after 1).after 14).store.get (.alias 1) = .error .invalidHandle := by
    with_unfolding_all rfl
  obtain ⟨receiver, method, arguments, _, _, _, cls, _, same, _,
    ⟨returned, released, within, returns, _, _, finds⟩, _⟩ :=
    receiver_found_until_released reached stepped entered
  cases congrArg Activation.method same
  have free : Store.selfName ∉ leave.params := by decide
  have named : (leave.locals 1 [.alias 0]).get Store.selfName =
      (leave.locals receiver arguments).get Store.selfName :=
    congrArg (·.locals.get Store.selfName) same
  rw [Method.get_selfName_locals free, Method.get_selfName_locals free] at named
  cases named
  refine ⟨reached, stepped, entered, ⟨cls, returned, returns, ?_⟩, gone⟩
  intro count upTo
  exact finds count (Nat.lt_of_le_of_lt upTo within)

end Offside.Machine
