import Offside.Handle

/-!
# Scopes

A scope binds names to handles: the variables of a program, the locals of a call
or the fields of an instance. Binding a name again displaces what it was bound to,
and the displaced handles are for the caller to release.
-/

namespace Offside

/-- Names bound to handles, the latest binding first. -/
structure Scope where
  bindings : List (String × Handle) := []
  deriving DecidableEq, Repr

namespace Scope

instance : Inhabited Scope := ⟨{}⟩

/-- The binding of a name; a name that is not bound refers to nothing. -/
def get (scope : Scope) (name : String) : Handle :=
  (scope.bindings.lookup name).getD .empty

/-- The bound names. -/
def names (scope : Scope) : List String :=
  scope.bindings.map Prod.fst

/-- The handles that a scope holds. -/
def handles (scope : Scope) : List Handle :=
  scope.bindings.map Prod.snd

/-- The handles that a scope lets go when a name is bound again or removed. -/
def displaced (scope : Scope) (name : String) : List Handle :=
  (scope.bindings.filter (·.1 == name)).map Prod.snd

/-- Removes the binding of a name. -/
def unbind (scope : Scope) (name : String) : Scope :=
  { bindings := scope.bindings.filter (·.1 != name) }

/-- Binds a name, in place of any earlier binding. -/
def bind (scope : Scope) (name : String) (value : Handle) : Scope :=
  { bindings := (name, value) :: (scope.unbind name).bindings }

/-- Binds names to values pairwise and in order, so that of equal names the last
one counts. -/
def bindAll (scope : Scope) : List (String × Handle) → Scope
  | [] => scope
  | (name, value) :: rest => (scope.bind name value).bindAll rest

@[simp] theorem handles_empty : handles {} = [] := rfl

@[simp] theorem handles_bind (scope : Scope) (name : String) (value : Handle) :
    (scope.bind name value).handles = value :: (scope.unbind name).handles := rfl

/-- Removing a name splits the handles of a scope in two. -/
theorem perm_handles (scope : Scope) (name : String) :
    scope.handles.Perm (scope.displaced name ++ (scope.unbind name).handles) := by
  rw [handles, displaced, handles, unbind, ← List.map_append]
  exact ((List.filter_append_perm (·.1 == name) scope.bindings).symm).map Prod.snd

/-- Binding a name takes the value in and lets the displaced handles go. -/
theorem perm_handles_bind (scope : Scope) (name : String) (value : Handle) :
    (value :: scope.handles).Perm (scope.displaced name ++ (scope.bind name value).handles) := by
  rw [handles_bind]
  exact ((scope.perm_handles name).cons value).trans List.perm_middle.symm

@[simp] theorem get_bind_self (scope : Scope) (name : String) (value : Handle) :
    (scope.bind name value).get name = value := by
  simp [get, bind]

theorem lookup_filter_ne {bindings : List (String × Handle)} {name other : String}
    (different : other ≠ name) :
    (bindings.filter (·.1 != name)).lookup other = bindings.lookup other := by
  induction bindings with
  | nil => rfl
  | cons binding bindings ih =>
      by_cases removed : binding.1 = name
      · have passed : (other == binding.1) = false := by
          rw [removed]
          exact beq_false_of_ne different
        rw [List.filter_cons_of_neg (by simp [removed]), ih, List.lookup_cons, passed]
      · rw [List.filter_cons_of_pos (by simp [removed]), List.lookup_cons, List.lookup_cons, ih]

theorem get_bind_of_ne {scope : Scope} {name other : String} {value : Handle}
    (different : other ≠ name) : (scope.bind name value).get other = scope.get other := by
  have passed : (other == name) = false := beq_false_of_ne different
  rw [get, get, bind, List.lookup_cons, passed]
  exact congrArg (·.getD .empty) (lookup_filter_ne different)

theorem get_bindAll_of_not_mem {scope : Scope} {pairs : List (String × Handle)} {name : String}
    (free : name ∉ pairs.map Prod.fst) : (scope.bindAll pairs).get name = scope.get name := by
  induction pairs generalizing scope with
  | nil => rfl
  | cons pair pairs ih =>
      rw [List.map_cons, List.mem_cons, not_or] at free
      rw [bindAll, ih free.2, get_bind_of_ne free.1]

/-- A name is bound to one of the handles or to nothing. -/
theorem get_mem_handles (scope : Scope) (name : String) :
    scope.get name = .empty ∨ scope.get name ∈ scope.handles := by
  unfold get
  cases found : scope.bindings.lookup name with
  | none => exact .inl rfl
  | some value =>
      obtain ⟨before, after, same, _⟩ := List.lookup_eq_some_iff.mp found
      right
      rw [handles, same]
      simp

/-- Binding names brings in no other handles than the values. -/
theorem mem_handles_of_bindAll {scope : Scope} {pairs : List (String × Handle)} {handle : Handle}
    (member : handle ∈ (scope.bindAll pairs).handles) :
    handle ∈ scope.handles ∨ handle ∈ pairs.map Prod.snd := by
  induction pairs generalizing scope with
  | nil => exact .inl member
  | cons pair pairs ih =>
      rcases ih member with early | late
      · rw [handles_bind] at early
        rcases List.mem_cons.mp early with rfl | kept
        · exact .inr List.mem_cons_self
        · exact .inl ((scope.perm_handles pair.1).mem_iff.mpr (List.mem_append_right _ kept))
      · exact .inr (List.mem_cons_of_mem _ late)

end Scope

end Offside
