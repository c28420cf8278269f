import Offside.Proofs.Lifetime
import Offside.Proofs.Machine.Storing

/-!
# What is never released

Between two commands the variables hold all there is to hold, and every object is owned by
one of them or by a field. Going up from owner to owner among the objects that no variable
reaches never comes to an end, and so it comes round: such an object hangs on a cycle of
owning fields. Without a cycle exactly the objects that the variables reach are there.
-/

namespace Offside

/-- An object is reached from a variable through owning handles. -/
def Session.Reaches (session : Session) (address : Address) : Prop :=
  ∃ root, .owner root ∈ session.scope.handles ∧ session.store.Reaches root address

theorem Session.not_reaches_of_names_eq_nil {session : Session} (none : session.scope.names = [])
    (address : Address) : ¬session.Reaches address := by
  rintro ⟨root, held, _⟩
  rw [Scope.handles, List.map_eq_nil_iff.mp none] at held
  exact List.not_mem_nil held

namespace Point

open Store

variable {session : Session} {address : Address}

section Between

variable (sound : Sound (.between session))
include sound

theorem isSome_of_owns {container target : Address} (owns : session.store.Owns container target) :
    (session.store.object? target).isSome := by
  obtain ⟨cls, fields, found, member⟩ := owns
  exact sound.isSome_iff_owned.mpr (.field found member)

theorem isSome_of_reaches (reaches : session.Reaches address) :
    (session.store.object? address).isSome := by
  obtain ⟨root, held, path⟩ := reaches
  cases path with
  | refl => exact sound.isSome_iff_owned.mpr (.held held)
  | tail _ owns => exact isSome_of_owns sound owns

/-- An object that no variable reaches is owned by a field of another such object. -/
theorem exists_owns_of_not_reaches (alive : (session.store.object? address).isSome)
    (unreached : ¬session.Reaches address) :
    ∃ container, ((session.store.object? container).isSome ∧ ¬session.Reaches container) ∧
      session.store.Owns container address := by
  cases sound.isSome_iff_owned.mp alive with
  | held member => exact absurd ⟨address, member, .refl⟩ unreached
  | @field container cls fields found member =>
      have owns : session.store.Owns container address := ⟨cls, fields, found, member⟩
      refine ⟨container, ⟨Option.isSome_of_eq_some found, ?_⟩, owns⟩
      rintro ⟨root, held, path⟩
      exact unreached ⟨root, held, path.tail owns⟩

theorem exists_onCycle_of_not_reaches (alive : (session.store.object? address).isSome)
    (unreached : ¬session.Reaches address) :
    ∃ container, session.store.OnCycle container ∧ session.store.Reaches container address := by
  let lost (address : Address) : Prop :=
    (session.store.object? address).isSome ∧ ¬session.Reaches address
  apply exists_onCycle_of_owned lost
  · intro address isLost
    exact Holding.lt_nextAddress_of_object? isLost.1
  · intro address isLost
    exact exists_owns_of_not_reaches sound isLost.1 isLost.2
  · exact ⟨alive, unreached⟩

/-- Without a cycle the variables reach everything there is. -/
theorem isSome_iff_reaches (acyclic : ∀ address, ¬session.store.OnCycle address) :
    (session.store.object? address).isSome ↔ session.Reaches address := by
  constructor
  · intro alive
    by_contra unreached
    obtain ⟨container, cycle, _⟩ := exists_onCycle_of_not_reaches sound alive unreached
    exact acyclic container cycle
  · exact isSome_of_reaches sound

end Between

/-- A new instance has an alias of itself for a field and is on no cycle, and no other
instance comes to be on one with it. -/
theorem exists_created {machine : Machine} {name : String} {cls : Class}
    (control : machine.control = .eval (.create name))
    (defined : machine.classes.find? name = some cls) :
    ∃ created, machine.step = .running created ∧
      created.store.object? machine.store.nextAddress =
        some (.instanceOf cls (.bind {} selfName (.alias machine.store.nextAddress))) ∧
      ∀ address, created.store.OnCycle address →
        address ≠ machine.store.nextAddress ∧ machine.store.OnCycle address := by
  refine ⟨machine.giveInstance cls, ?_, ?_, ?_⟩
  · simp only [Machine.step, control, Machine.evaluate, Machine.withClass, defined]
  · rw [Machine.giveInstance, object?, allocateInstance, cell?_allocate, if_pos rfl]
    rfl
  · intro address cycle
    have before := (OwnsNoMore.allocateInstance machine.store cls).onCycle cycle
    refine ⟨?_, before⟩
    rintro rfl
    exact not_onCycle_nextAddress machine.store before

/-- Between two commands, whatever errors there were, an object that no variable reaches
through owners is reached from an instance on a cycle of owning fields. So without such a
cycle the objects in the store are those that the variables reach, and there are none when
there are no variables. A cycle is never made by creating an instance: only setting a field
to an owner makes an owning field, whatever aliases are stored or handed to methods. -/
theorem only_owning_cycles_leak {output : Output}
    (reached : Leads (.between (.start output)) (.between session)) :
    (∀ address, (session.store.object? address).isSome → ¬session.Reaches address →
        ∃ container, session.store.OnCycle container ∧ session.store.Reaches container address) ∧
      ((∀ address, ¬session.store.OnCycle address) →
        (∀ address, (session.store.object? address).isSome ↔ session.Reaches address) ∧
          (session.scope.names = [] → ∀ address, session.store.object? address = none)) ∧
      (∀ (machine : Machine) (name : String) (cls : Class),
        machine.control = .eval (.create name) → machine.classes.find? name = some cls →
          ∃ created, machine.step = .running created ∧
            created.store.object? machine.store.nextAddress =
              some (.instanceOf cls (.bind {} selfName (.alias machine.store.nextAddress))) ∧
            ∀ address, created.store.OnCycle address →
              address ≠ machine.store.nextAddress ∧ machine.store.OnCycle address) ∧
      ∀ before after, Step before after → ∀ container target, after.store.Owns container target →
        before.store.Owns container target ∨ before.Stores container target := by
  have sound := reached.sound (sound_start output)
  refine ⟨?_, ?_, ?_, ?_⟩
  · intro address alive unreached
    exact exists_onCycle_of_not_reaches sound alive unreached
  · intro acyclic
    constructor
    · intro address
      exact isSome_iff_reaches sound acyclic
    · intro noNames address
      rw [← Option.not_isSome_iff_eq_none, isSome_iff_reaches sound acyclic]
      exact session.not_reaches_of_names_eq_nil noNames address
  · intro machine name cls control defined
    exact exists_created control defined
  · intro before after step container target owns
    exact step.owns owns

/-- Two instances, of which one owns itself and the other one, and no variable any more. -/
def tied : Session :=
  (((Session.start .silent).perform (.defineClass "Node" none [])).2.perform
    (.inspect .describe (.sequence
      [.assign "node" (.create "Node"),
       .binary (.setField "next") (.var "node") (.var "node"),
       .binary (.setField "kept") (.var "node") (.create "Node"),
       .unassign "node"]))).2

/-- What hangs on a cycle is kept without any variable. -/
theorem only_owning_cycles_leak_of_tied :
    Leads (.between (.start .silent)) (.between tied) ∧ tied.scope.names = [] ∧
      (tied.store.object? 1).isSome ∧
      ∃ container, tied.store.OnCycle container ∧ tied.store.Reaches container 1 := by
  have reached : Leads (.between (.start .silent)) (.between tied) :=
    (leads_perform _ _).trans (leads_perform _ _)
  have noNames : tied.scope.names = [] := by
    rw [tied, Session.perform_inspect _ _ _ 23]
    with_unfolding_all rfl
  have alive : (tied.store.object? 1).isSome := by
    rw [tied, Session.perform_inspect _ _ _ 23]
    with_unfolding_all rfl
  have unreached := tied.not_reaches_of_names_eq_nil noNames 1
  exact ⟨reached, noNames, alive, (only_owning_cycles_leak reached).1 1 alive unreached⟩

end Point

end Offside
