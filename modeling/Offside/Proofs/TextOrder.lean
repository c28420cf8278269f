import Mathlib.Data.String.Basic
import Mathlib.Tactic.SplitIfs
import Offside.Proofs.ValueOrder

/-!
# The order of texts

Texts are ordered by their characters, from the first one on. In UTF-8 a character with a smaller
code point has the smaller bytes: either both take as many bytes, which have the digits of their
code points from the highest one on, or the first byte of the longer one is larger. As no
character has the beginning of another one for its bytes, the order of texts is the order of their
bytes as well.
-/

namespace Offside

namespace Text

/-! ## Sequences that part -/

section Parting

variable {α β : Type} [LT β]

/-- Two sequences differ at some place, and where they first do the first one is smaller. -/
inductive PartsBelow : List β → List β → Prop where
  | here {first second : β} {left right : List β} :
      first < second → PartsBelow (first :: left) (second :: right)
  | later {shared : β} {left right : List β} :
      PartsBelow left right → PartsBelow (shared :: left) (shared :: right)

theorem partsBelow_cons_iff {first second : β} {left right : List β} :
    PartsBelow (first :: left) (second :: right) ↔
      first < second ∨ first = second ∧ PartsBelow left right := by
  constructor
  · intro parts
    cases parts with
    | here less => exact .inl less
    | later parts => exact .inr ⟨rfl, parts⟩
  · rintro (less | ⟨rfl, parts⟩)
    · exact .here less
    · exact .later parts

/-- Whatever follows makes no difference any more. -/
theorem PartsBelow.lex_append {left right : List β} (parts : PartsBelow left right)
    (rest rest' : List β) : List.Lex (· < ·) (left ++ rest) (right ++ rest') := by
  induction parts with
  | here less => exact .rel less
  | later _ ih => exact .cons ih

variable [LinearOrder α] {encode : α → List β}
  (parts : ∀ {first second : α}, first < second → PartsBelow (encode first) (encode second))
  (nonempty : ∀ element, encode element ≠ []) {left right : List α}
include parts nonempty

theorem lex_flatMap (less : List.Lex (· < ·) left right) :
    List.Lex (· < ·) (left.flatMap encode) (right.flatMap encode) := by
  induction less with
  | @nil element rest =>
      obtain ⟨first, more, same⟩ := List.exists_cons_of_ne_nil (nonempty element)
      rw [List.flatMap_nil, List.flatMap_cons, same]
      exact .nil
  | cons _ ih => exact .append_left _ ih _
  | rel less => exact (parts less).lex_append _ _

variable (asymm : ∀ {first second : β}, first < second → ¬second < first)
include asymm

theorem flatMap_inj : left.flatMap encode = right.flatMap encode ↔ left = right := by
  refine ⟨fun same => ?_, congrArg _⟩
  have irrefl := List.lex_irrefl (fun element less => asymm less less) (left.flatMap encode)
  rcases lt_trichotomy left right with less | equal | greater
  · have less := lex_flatMap parts nonempty less
    rw [← same] at less
    exact (irrefl less).elim
  · exact equal
  · have greater := lex_flatMap parts nonempty greater
    rw [← same] at greater
    exact (irrefl greater).elim

/-- Where the elements part in the right order, the order is the one of what they stand for. -/
theorem lex_flatMap_iff : List.Lex (· < ·) (left.flatMap encode) (right.flatMap encode) ↔
    List.Lex (· < ·) left right := by
  refine ⟨fun less => ?_, lex_flatMap parts nonempty⟩
  rcases lt_trichotomy left right with below | same | above
  · exact below
  · rw [same] at less
    exact (List.lex_irrefl (fun element less => asymm less less) _ less).elim
  · exact (List.lex_asymm asymm less (lex_flatMap parts nonempty above)).elim

end Parting

/-! ## Bytes and code points of characters -/

theorem partsBelow_toNat {first second : Char} (less : first < second) :
    PartsBelow [first.toNat] [second.toNat] :=
  .here less

theorem partsBelow_ofNat_iff {first second : Nat} {left right : List UInt8} (small : first < 256)
    (small' : second < 256) :
    PartsBelow (UInt8.ofNat first :: left) (UInt8.ofNat second :: right) ↔
      first < second ∨ first = second ∧ PartsBelow left right := by
  rw [partsBelow_cons_iff, UInt8.lt_iff_toNat_lt, ← UInt8.toNat_inj,
    UInt8.toNat_ofNat_of_lt' small, UInt8.toNat_ofNat_of_lt' small']

/-- Characters with different code points have bytes that part. -/
theorem partsBelow_utf8EncodeChar {first second : Char} (less : first < second) :
    PartsBelow (String.utf8EncodeChar first) (String.utf8EncodeChar second) := by
  have lessPoint : first.val.toNat < second.val.toNat := less
  have bound : second.val.toNat < 0x110000 := by
    rcases second.valid with low | ⟨_, high⟩
    · exact Nat.lt_trans low (by decide)
    · exact high
  -- The digits of a code point come one by one, six bits each.
  have twoDigits (point : Nat) : point / 4096 = point / 64 / 64 :=
    (Nat.div_div_eq_div_mul point 64 64).symm
  have threeDigits (point : Nat) : point / 262144 = point / 64 / 64 / 64 := by
    rw [← twoDigits, Nat.div_div_eq_div_mul]
  simp only [String.utf8EncodeChar, twoDigits, threeDigits]
  -- With as many bytes they part at the first digit that differs, else at the first byte.
  split_ifs
  all_goals
    simp (disch := omega) only [partsBelow_ofNat_iff]
    omega

/-- The code points of a text. -/
def codePoints (text : String) : List Nat :=
  text.toList.map Char.toNat

variable {first second : String}

theorem lex_bytes_iff : List.Lex (· < ·) (bytes first) (bytes second) ↔ first < second := by
  rw [bytes_eq_flatMap, bytes_eq_flatMap,
    lex_flatMap_iff partsBelow_utf8EncodeChar (fun _ => String.utf8EncodeChar_ne_nil)
      UInt8.lt_asymm]
  exact String.lt_iff_toList_lt.symm

theorem bytes_inj : bytes first = bytes second ↔ first = second := by
  rw [bytes_eq_flatMap, bytes_eq_flatMap,
    flatMap_inj partsBelow_utf8EncodeChar (fun _ => String.utf8EncodeChar_ne_nil) UInt8.lt_asymm,
    String.toList_inj]

theorem lex_codePoints_iff :
    List.Lex (· < ·) (codePoints first) (codePoints second) ↔ first < second := by
  rw [codePoints, codePoints, List.map_eq_flatMap, List.map_eq_flatMap,
    lex_flatMap_iff partsBelow_toNat (fun _ => List.cons_ne_nil _ _) Nat.lt_asymm]
  exact String.lt_iff_toList_lt.symm

theorem codePoints_inj : codePoints first = codePoints second ↔ first = second := by
  rw [codePoints, codePoints, List.map_eq_flatMap, List.map_eq_flatMap,
    flatMap_inj partsBelow_toNat (fun _ => List.cons_ne_nil _ _) Nat.lt_asymm, String.toList_inj]

end Text

open Machine Text

/-- Of two texts, the one is less for the language exactly if its bytes in UTF-8 come first, where
a beginning comes before what it is the beginning of, and exactly if its code points do; and they
are equal exactly if they have the same bytes, or the same code points. -/
theorem text_order_is_byte_order {machine : Machine} {left right : Handle} {first second : String}
    (leftText : machine.store.peek? left = some (.text first))
    (rightText : machine.store.peek? right = some (.text second)) :
    (∃ answer, machine.Answers .less left right (.ok answer) ∧
      (answer = true ↔ List.Lex (· < ·) (bytes first) (bytes second)) ∧
      (answer = true ↔ List.Lex (· < ·) (codePoints first) (codePoints second))) ∧
    ∃ answer, machine.Answers .equal left right (.ok answer) ∧
      (answer = true ↔ bytes first = bytes second) ∧
      (answer = true ↔ codePoints first = codePoints second) := by
  have answers := answers_of_rankedBy Kind.rankedBy_text rfl leftText rfl rightText rfl
  refine ⟨⟨_, answers .less, ?_, ?_⟩, ⟨_, answers .equal, ?_, ?_⟩⟩
  · exact decide_eq_true_iff.trans lex_bytes_iff.symm
  · exact decide_eq_true_iff.trans lex_codePoints_iff.symm
  · exact decide_eq_true_iff.trans bytes_inj.symm
  · exact decide_eq_true_iff.trans codePoints_inj.symm

/-- The last character of the first plane and the first one after it. In UTF-16 the second one
would come first. -/
def twoPlanes : Machine :=
  { store := ((({} : Store).allocate (.text (.singleton (Char.ofNat 0xFFFF)))).allocate
      (.text (.singleton (Char.ofNat 0x10000))))
    fuel := 0
    control := .give .empty
    stack := []
    goal := .inspect .describe }

/-- The language has them in the order of their code points, as their bytes are. -/
theorem text_order_is_byte_order_of_planes :
    twoPlanes.Holds .less (.owner 0) (.alias 1) ∧
      List.Lex (· < ·) (bytes (.singleton (Char.ofNat 0xFFFF)))
        (bytes (.singleton (Char.ofNat 0x10000))) := by
  have first : twoPlanes.store.peek? (.owner 0) =
      some (.text (.singleton (Char.ofNat 0xFFFF))) := rfl
  have second : twoPlanes.store.peek? (.alias 1) =
      some (.text (.singleton (Char.ofNat 0x10000))) := rfl
  obtain ⟨⟨answer, answers, byBytes, byPoints⟩, _⟩ := text_order_is_byte_order first second
  have less : answer = true := byPoints.mpr (.rel (by decide))
  subst less
  exact ⟨answers, byBytes.mp rfl⟩

end Offside
