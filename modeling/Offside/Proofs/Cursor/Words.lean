import Mathlib.Algebra.Group.Int.Defs
import Mathlib.Algebra.Group.Nat.Defs
import Offside.Lexeme
import Offside.Text.Utf8

/-!
# Words and cuts

A program counts in machine words and cuts texts at byte positions. A sum, a difference or a cast
that does not fit is a trap, and so is a division by zero and a cut in the middle of a character.
-/

namespace Offside

/-- What stops a program that counts in words. -/
inductive Trap where
  /-- A text is cut inside of a character, or beyond its end. -/
  | cut
  | divisionByZero
  /-- A number does not fit in its word. -/
  | overflow
  /-- A lexeme is to be scanned where nothing is left. -/
  | nothingLeft
  deriving DecidableEq, Repr

/-- The result of a computation that may be trapped. -/
abbrev Checked := Except Trap

@[simp] theorem Checked.ok_bind {α β : Type} (value : α) (next : α → Checked β) :
    (Except.ok value : Checked α) >>= next = next value :=
  pure_bind value next

namespace Word

/-- A number as an unsigned word. -/
def unsigned (value : Int) : Checked Nat :=
  if 0 ≤ value ∧ value < 2 ^ 64 then .ok value.toNat else .error .overflow

/-- A number as a signed word. -/
def signed (value : Int) : Checked Int :=
  if -2 ^ 63 ≤ value ∧ value < 2 ^ 63 then .ok value else .error .overflow

/-- The quotient of two unsigned words. -/
def divide (dividend divisor : Nat) : Checked Nat :=
  if divisor = 0 then .error .divisionByZero else .ok (dividend / divisor)

variable {left right : Nat} {value : Int}

theorem unsigned_add (fits : left + right < 2 ^ 64) :
    unsigned (left + right) = .ok (left + right) := by
  rw [unsigned, if_pos (by omega)]
  rfl

theorem unsigned_sub (less : right ≤ left) (fits : left < 2 ^ 64) :
    unsigned (left - right) = .ok (left - right) := by
  rw [unsigned, if_pos (by omega), ← Int.natCast_sub less]
  rfl

theorem signed_of_lt (low : -2 ^ 63 ≤ value) (high : value < 2 ^ 63) : signed value = .ok value :=
  if_pos ⟨low, high⟩

theorem divide_of_pos (positive : 0 < right) : divide left right = .ok (left / right) :=
  if_neg (Nat.ne_of_gt positive)

end Word

namespace Text

/-- Cuts a text at a position that is counted in bytes, if a character begins or ends there. -/
def cut? : List Char → Nat → Option (List Char × List Char)
  | chars, 0 => some ([], chars)
  | [], _ + 1 => none
  | char :: chars, bytes + 1 =>
      if char.utf8Size ≤ bytes + 1 then
        (cut? chars (bytes + 1 - char.utf8Size)).map fun (front, back) => (char :: front, back)
      else none

/-- Cuts a text, or is trapped. -/
def cut (chars : List Char) (bytes : Nat) : Checked (List Char × List Char) :=
  match cut? chars bytes with
  | some parts => .ok parts
  | none => .error .cut

variable {chars front back : List Char} {bytes : Nat}

theorem cut?_append (front back : List Char) :
    cut? (front ++ back) (utf8Length front) = some (front, back) := by
  induction front with
  | nil => cases back <;> rfl
  | cons char front ih =>
      obtain ⟨size, positive⟩ := Nat.exists_eq_succ_of_ne_zero (Nat.ne_of_gt char.utf8Size_pos)
      have whole : utf8Length (char :: front) = size + utf8Length front + 1 := by
        rw [utf8Length_cons, positive, Nat.succ_add]
      have left : size + utf8Length front + 1 - char.utf8Size = utf8Length front := by omega
      rw [List.cons_append, whole, cut?, if_pos (by omega), left, ih]
      rfl

/-- The parts of a text are its own, and the first has as many bytes as asked for. -/
theorem cut?_eq_some_iff :
    cut? chars bytes = some (front, back) ↔ front ++ back = chars ∧ utf8Length front = bytes := by
  constructor
  · intro found
    fun_induction cut? chars bytes generalizing front with
    | case1 =>
        cases found
        exact ⟨rfl, rfl⟩
    | case2 => cases found
    | case3 char chars bytes within ih =>
        obtain ⟨⟨front, back⟩, rest, same⟩ := Option.map_eq_some_iff.mp found
        cases same
        obtain ⟨rfl, length⟩ := ih rest
        refine ⟨rfl, ?_⟩
        rw [utf8Length_cons, length]
        omega
    | case4 => cases found
  · rintro ⟨rfl, rfl⟩
    exact cut?_append front back

theorem cut_append (front back : List Char) :
    cut (front ++ back) (utf8Length front) = .ok (front, back) := by
  rw [cut, cut?_append]

/-- A character of more than one byte cannot be cut. -/
example : cut ['\u00e9', '!'] 2 = .ok (['\u00e9'], ['!']) ∧ cut ['\u00e9', '!'] 1 = .error .cut :=
  ⟨rfl, rfl⟩

end Text

end Offside
