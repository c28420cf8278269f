import Offside.Proofs.FaultSite

/-!
# Blocks of lines

A block of lines without a fault can be exchanged for another one that is the text of the
same program. The tokens stay as they are, and so does the first error; only the number of
its line moves with the length of the block, if the line is below.
-/

namespace Offside

open Text Lexeme

/-- An error as it is after so many lines were put in below the first `above` lines. -/
def LexError.moved (above count : Nat) : LexError → LexError
  | .unterminatedText line column =>
      .unterminatedText (if above < line then line + count else line) column
  | .numberTooLarge digits line =>
      .numberTooLarge digits (if above < line then line + count else line)
  | .unexpected expected found => .unexpected expected found
  | .unreadableLine => .unreadableLine

theorem LexError.moved_zero (above : Nat) (error : LexError) :
    error.moved above 0 = error := by
  cases error <;> simp [moved]

theorem mapError_error {α : Type} (change : LexError → LexError) (error : LexError) :
    (.error error : Except LexError α).mapError change = .error (change error) := rfl

theorem mapError_moved_zero {α : Type} (above : Nat) (result : Except LexError α) :
    result.mapError (·.moved above 0) = result := by
  cases result with
  | ok value => rfl
  | error error => exact congrArg Except.error (error.moved_zero above)

variable {layout : Layout} {front block block' back lines : List (List Char)}
  {program program' : List ProgramLine}

theorem Describes.append (describes : Describes layout front program)
    (describes' : Describes layout back program') :
    Describes layout (front ++ back) (program ++ program') := by
  induction describes with
  | nil => exact describes'
  | skipped skipped _ ih => exact .skipped skipped ih
  | content content scans _ ih => exact .content content scans ih

namespace FaultSite

variable {site : FaultSite} {above count : Nat}

theorem moved_error_of_le (within : site.number ≤ above) :
    site.error.moved above count = site.error := by
  rw [error]
  cases site.fault <;> simp only [LexError.moved, if_neg (Nat.not_lt_of_le within)]

theorem moved_error_of_lt (below : above < site.number) :
    site.error.moved above count =
      { site with number := site.number + count : FaultSite }.error := by
  rw [error, error]
  cases site.fault <;> simp only [LexError.moved, if_pos below]

end FaultSite

namespace FirstFault

/-- Lines behind do not matter to the first fault. -/
def append (first : FirstFault layout lines) (back : List (List Char)) :
    FirstFault layout (lines ++ back) :=
  { first with
    after := first.after ++ back
    lines_eq := (congrArg (· ++ back) first.lines_eq).trans (List.append_assoc _ _ _) }

/-- Lines without a fault in front leave the first fault where it is. -/
def prepend (first : FirstFault layout lines) (describes : Describes layout front program) :
    FirstFault layout (front ++ lines) :=
  { first with
    before := front ++ first.before
    lines_eq := (congrArg (front ++ ·) first.lines_eq).trans (List.append_assoc _ _ _).symm
    program := program ++ first.program
    describes := describes.append first.describes }

theorem site_append (first : FirstFault layout lines) (back : List (List Char)) :
    (first.append back).site = first.site := rfl

theorem site_prepend (first : FirstFault layout lines)
    (describes : Describes layout front program) :
    (first.prepend describes).site =
      { first.site with number := front.length + first.site.number } := by
  rw [site, site, prepend, List.length_append, Nat.add_assoc]

theorem number_le_length (first : FirstFault layout lines) : first.site.number ≤ lines.length := by
  have whole := congrArg List.length first.lines_eq
  rw [List.length_append, List.length_cons] at whole
  show first.before.length + 1 ≤ lines.length
  omega

end FirstFault

/-- Blocks of lines that are the text of one program can be exchanged. -/
theorem tokenizeLines_exchange {count : Nat} (describes : Describes layout block program)
    (describes' : Describes layout block' program) (longer : block'.length = block.length + count)
    (front back : List (List Char)) :
    tokenizeLines layout ((front ++ (block' ++ back)).map .content) =
      (tokenizeLines layout ((front ++ (block ++ back)).map .content)).mapError
        (·.moved (front.length + block.length) count) := by
  rcases FirstFault.describes_or_nonempty layout front with ⟨before, described⟩ | ⟨⟨first⟩⟩
  · rcases FirstFault.describes_or_nonempty layout back with ⟨after, followed⟩ | ⟨⟨first⟩⟩
    · rw [tokenizeLines_of_describes (described.append (describes.append followed)),
        tokenizeLines_of_describes (described.append (describes'.append followed))]
      rfl
    · rw [((first.prepend describes).prepend described).tokenizeLines_eq,
        ((first.prepend describes').prepend described).tokenizeLines_eq]
      simp only [FirstFault.site_prepend, mapError_error]
      rw [FaultSite.moved_error_of_lt]
      · congr 3
        dsimp only
        omega
      · have positive : 0 < first.site.number := Nat.succ_pos first.before.length
        show front.length + block.length < front.length + (block.length + first.site.number)
        omega
  · rw [(first.append (block ++ back)).tokenizeLines_eq,
      (first.append (block' ++ back)).tokenizeLines_eq, FirstFault.site_append,
      FirstFault.site_append, mapError_error, FaultSite.moved_error_of_le]
    have within := first.number_le_length
    omega

end Offside
