import Offside.Proofs.Batch
import Offside.Proofs.Lexeme.Trailing
import Offside.Proofs.UndecodableLines

/-!
# Lines that are due

A lexer owes a newline for the line that it is in and for every line with content ahead. As
long as one is due, a turn does not depend on what comes at the end of the source, and a line
that does not scan stays due for ever.
-/

namespace Offside.Lexer

open Text Lexeme

variable {lexer after : Lexer} {outcome : Except LexError Token}

/-- The lexer with more lines at the end of its source. -/
def extended (lexer : Lexer) (back : List Line) : Lexer :=
  { lexer with remaining := lexer.remaining ++ back }

/-- The number of lines whose newline is still to come: the one that the lexer is in, and
those with content ahead. -/
def linesDue (lexer : Lexer) : Nat :=
  lexer.reading.toList.length + lexer.remaining.countP Line.hasContent

/-- Whether an outcome is the token at the end of a line. -/
def isNewline : Except LexError Token → Bool
  | .ok .newline => true
  | _ => false

/-- The number of lines that so many outcomes have finished. -/
def newlines (outcomes : List (Except LexError Token)) : Nat :=
  outcomes.countP isNewline

/-! ## Turns -/

section Due

variable (layout : Layout) (current : Token) (remaining : List Line) (number depth : Nat)
  (line rest : List Char)

theorem linesDue_betweenLines :
    (betweenLines layout current remaining number depth).linesDue =
      remaining.countP Line.hasContent :=
  Nat.zero_add _

theorem linesDue_insideLine (owed : Int) :
    (insideLine layout current remaining number depth owed line rest).linesDue =
      1 + remaining.countP Line.hasContent := rfl

end Due

section Passing

variable {layout : Layout} {current : Token} {remaining : List Line} {number number' depth : Nat}
  {line : List Char}

theorem linesDue_skip (skipped : hasContent line = false) :
    (betweenLines layout current (.content line :: remaining) number depth).linesDue =
      (betweenLines layout current remaining number' depth).linesDue := by
  rw [linesDue_betweenLines, linesDue_betweenLines]
  exact List.countP_cons_of_neg (Bool.eq_false_iff.mp skipped)

theorem linesDue_enter {depth' : Nat} {owed : Int} {rest : List Char} (content : hasContent line) :
    (betweenLines layout current (.content line :: remaining) number depth).linesDue =
      (insideLine layout current remaining number' depth' owed line rest).linesDue := by
  rw [linesDue_betweenLines, linesDue_insideLine, Nat.add_comm]
  exact List.countP_cons_of_pos content

end Passing

theorem newlines_cons (outcome : Except LexError Token) (outcomes : List (Except LexError Token)) :
    newlines (outcome :: outcomes) = newlines [outcome] + newlines outcomes := by
  rw [newlines, ← List.singleton_append, List.countP_append]
  rfl

theorem isNewline_iff : isNewline outcome ↔ outcome = .ok .newline := by
  constructor
  · intro ends
    unfold isNewline at ends
    split at ends
    · rfl
    · cases ends
  · rintro rfl
    rfl

theorem newlines_of_lexes {lexeme rest : List Char} {token : Token}
    (lexes : Lexes lexeme token rest) : newlines [.ok token] = 0 := by
  rw [newlines, List.countP_singleton, if_neg]
  rw [isNewline_iff]
  intro same
  cases same
  exact lexes.not_isStructural rfl

/-- A turn finishes one of the lines that are due exactly if it gives a newline. -/
theorem Turn.linesDue_eq (turn : Turn lexer outcome after) :
    lexer.linesDue = newlines [outcome] + after.linesDue := by
  induction turn with
  | dedent levels => exact (Nat.zero_add _).symm
  | indent levels => exact (Nat.zero_add _).symm
  | space _ ih => exact ih
  | lexeme lexes =>
      rw [newlines_of_lexes lexes, Nat.zero_add]
      rfl
  | newline _ =>
      rw [linesDue_insideLine, linesDue_betweenLines]
      rfl
  | fault _ => exact (Nat.zero_add _).symm
  | skip skipped _ ih => exact (linesDue_skip skipped).trans ih
  | enter content _ ih => exact (linesDue_enter content).trans ih
  | undecodable => exact (Nat.zero_add _).symm
  | close => exact (Nat.zero_add _).symm
  | ended => exact (Nat.zero_add _).symm

/-- As long as a line is due, a turn does not depend on what comes at the end. -/
theorem Turn.extended (turn : Turn lexer outcome after) (due : 0 < lexer.linesDue)
    (back : List Line) : Turn (lexer.extended back) outcome (after.extended back) := by
  induction turn with
  | dedent levels => exact .dedent levels
  | indent levels => exact .indent levels
  | space _ ih => exact .space (ih due)
  | lexeme lexes => exact .lexeme lexes
  | newline ended => exact .newline ended
  | fault faulty => exact .fault faulty
  | skip skipped _ ih =>
      rw [linesDue_skip skipped] at due
      exact .skip skipped (ih due)
  | enter content _ ih =>
      rw [linesDue_enter content] at due
      exact .enter content (ih due)
  | undecodable => exact .undecodable
  | close => exact absurd due (Nat.lt_irrefl 0)
  | ended => exact absurd due (Nat.lt_irrefl 0)

/-! ## Lines that do not scan -/

/-- Among the lines is one with content that does not scan. -/
def FaultAhead (lines : List Line) : Prop :=
  ∃ line, .content line ∈ lines ∧ hasContent line ∧ ∀ tokens, ¬Scans line tokens

/-- A line to come does not scan, or the rest of the line that the lexer is in. -/
def Blocked (lexer : Lexer) : Prop :=
  FaultAhead lexer.remaining ∨ ∃ reading, lexer.reading = some reading ∧
    ∀ tokens, ¬Scans reading.rest tokens

section Blocked

variable {layout : Layout} {current : Token} {remaining : List Line} {number depth : Nat}
  {owed : Int} {line rest : List Char}

theorem blocked_betweenLines :
    (betweenLines layout current remaining number depth).Blocked ↔ FaultAhead remaining := by
  constructor
  · rintro (ahead | ⟨reading, inLine, _⟩)
    · exact ahead
    · cases inLine
  · exact .inl

theorem blocked_insideLine :
    (insideLine layout current remaining number depth owed line rest).Blocked ↔
      FaultAhead remaining ∨ ∀ tokens, ¬Scans rest tokens := by
  constructor
  · rintro (ahead | ⟨reading, inLine, fails⟩)
    · exact .inl ahead
    · cases inLine
      exact .inr fails
  · rintro (ahead | fails)
    · exact .inl ahead
    · exact .inr ⟨_, rfl, fails⟩

theorem FaultAhead.of_cons {first : Line} (ahead : FaultAhead (first :: remaining)) :
    FaultAhead remaining ∨
      ∃ line, first = .content line ∧ hasContent line ∧ ∀ tokens, ¬Scans line tokens := by
  obtain ⟨line, member, content, fails⟩ := ahead
  rcases List.mem_cons.mp member with same | later
  · exact .inr ⟨line, same.symm, content, fails⟩
  · exact .inl ⟨line, later, content, fails⟩

theorem not_scans_lineContent (fails : ∀ tokens, ¬Scans line tokens) (tokens : List Token) :
    ¬Scans (lineContent line) tokens := by
  intro scans
  apply fails tokens
  rw [← lineContent_eq_spaces line]
  exact scans.spaces _

end Blocked

theorem Blocked.linesDue_pos (blocked : lexer.Blocked) : 0 < lexer.linesDue := by
  rw [linesDue]
  rcases blocked with ⟨line, member, content, _⟩ | ⟨reading, inLine, _⟩
  · have counted : 0 < lexer.remaining.countP Line.hasContent :=
      List.countP_pos_iff.mpr ⟨_, member, content⟩
    omega
  · rw [inLine]
    exact Nat.lt_add_right _ Nat.one_pos

/-- A turn does not get past a line that does not scan. -/
theorem Turn.blocked (turn : Turn lexer outcome after) (blocked : lexer.Blocked) :
    after.Blocked := by
  induction turn with
  | dedent levels => exact blocked_insideLine.mpr (blocked_insideLine.mp blocked)
  | indent levels => exact blocked_insideLine.mpr (blocked_insideLine.mp blocked)
  | space _ ih =>
      rcases blocked_insideLine.mp blocked with ahead | fails
      · exact ih (.inl ahead)
      · exact ih (blocked_insideLine.mpr (.inr fun tokens scans => fails tokens (scans.spaces 1)))
  | lexeme lexes =>
      rcases blocked_insideLine.mp blocked with ahead | fails
      · exact .inl ahead
      · exact blocked_insideLine.mpr (.inr fun tokens scans => fails _ (.cons lexes scans))
  | newline ended =>
      rcases blocked_insideLine.mp blocked with ahead | fails
      · exact .inl ahead
      · exact absurd (scans_of_ended ended) (fails [])
  | fault faulty => exact blocked
  | skip skipped _ ih =>
      rcases (blocked_betweenLines.mp blocked).of_cons with ahead | ⟨line, same, content, _⟩
      · exact ih (.inl ahead)
      · cases same
        exact absurd content (Bool.eq_false_iff.mp skipped)
  | enter _ _ ih =>
      rcases (blocked_betweenLines.mp blocked).of_cons with ahead | ⟨line, same, _, fails⟩
      · exact ih (.inl ahead)
      · cases same
        exact ih (blocked_insideLine.mpr (.inr (not_scans_lineContent fails)))
  | undecodable =>
      rcases (blocked_betweenLines.mp blocked).of_cons with ahead | ⟨line, same, _⟩
      · exact .inl ahead
      · cases same
  | close => exact blocked_betweenLines.mpr (blocked_betweenLines.mp blocked)
  | ended => exact blocked

/-! ## The first token of a line -/

/-- A line with content has something to scan. -/
theorem not_ended_lineContent {line : List Char} (content : hasContent line) :
    ¬Ended (lineContent line) := by
  intro ended
  obtain ⟨first, rest, starts⟩ := List.exists_cons_of_ne_nil (lineContent_ne_nil content)
  rw [hasContent, Bool.and_eq_true, starts] at content
  rw [starts] at ended
  cases ended first rfl
  exact absurd content.2 (by simp)

theorem ne_space_of_mem_head? {line : List Char} {first : Char}
    (found : first ∈ (lineContent line).head?) : ¬(first == ' ') :=
  @not_accept_of_mem_head?_dropWhile line (· == ' ') first found

/-- Where a lexeme could start, only the end of the line gives a newline. -/
theorem Turn.ended_of_newline (turn : Turn lexer outcome after) (ends : outcome = .ok .newline)
    {reading : OpenLine} (inLine : lexer.reading = some reading)
    (starts : ∀ first ∈ reading.rest.head?, ¬(first == ' ')) : Ended reading.rest := by
  cases turn with
  | dedent levels => cases ends
  | indent levels => cases ends
  | space =>
      cases inLine
      exact absurd rfl (starts ' ' rfl)
  | lexeme lexes =>
      cases ends
      exact absurd rfl lexes.not_isStructural
  | newline ended =>
      cases inLine
      exact ended
  | fault faulty => cases ends
  | _ => cases inLine

/-- The first token of a line is not its newline. -/
theorem Turn.newlines_eq_zero (turn : Turn lexer outcome after) (idle : lexer.reading = none) :
    newlines [outcome] = 0 := by
  induction turn with
  | skip _ _ ih => exact ih rfl
  | @enter _ _ _ _ _ line _ _ content turn _ =>
      rw [newlines, List.countP_singleton, if_neg]
      rw [isNewline_iff]
      intro ends
      exact not_ended_lineContent content (turn.ended_of_newline ends rfl fun first found =>
        ne_space_of_mem_head? found)
  | undecodable => rfl
  | close => rfl
  | ended => rfl
  | _ => cases idle

end Offside.Lexer
