/-!
# Layout

How far a line is nested follows from the spaces before its first other
character: every full `width` of them is one level. Spaces that do not make up a
whole level do not count.
-/

namespace Offside

/-- The number of leading spaces that make one level of nesting. -/
structure Layout where
  width : Nat
  width_pos : 0 < width := by omega
  deriving DecidableEq, Repr

namespace Layout

/-- Two spaces a level, unless told otherwise. -/
def standard : Layout := { width := 2 }

instance : Inhabited Layout := ⟨standard⟩

/-- The layout with the given number of spaces a level. Zero counts as one. -/
def ofWidth (width : Nat) : Layout :=
  { width := max width 1, width_pos := by omega }

@[simp] theorem width_ofWidth (width : Nat) : (ofWidth width).width = max width 1 := rfl

/-- The depth of a line that starts with this many spaces. -/
def depth (layout : Layout) (spaces : Nat) : Nat :=
  spaces / layout.width

theorem depth_le (layout : Layout) (spaces : Nat) : layout.depth spaces ≤ spaces :=
  Nat.div_le_self _ _

end Layout

end Offside
