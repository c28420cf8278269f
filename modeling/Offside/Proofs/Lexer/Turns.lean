import Offside.Proofs.Lexer.Yields

/-!
# Turns of a lexer

All that a call for the next token can come to, one case for each way there is: owed
layout is paid, a line is read on, the line ends or has a fault, lines are passed on the
way to the next one, and the end of the input closes what is open.
-/

namespace Offside.Lexer

open Text Lexeme

/-- What a lexer gives next, and what it is then. -/
inductive Turn : Lexer → Except LexError Token → Lexer → Prop where
  | dedent {layout : Layout} {current : Token} {remaining : List Line} {number depth : Nat}
      {line rest : List Char} (levels : Nat) :
      Turn (insideLine layout current remaining number depth (levels + 1 : Nat) line rest)
        (.ok .dedent) (insideLine layout current remaining number depth levels line rest)
  | indent {layout : Layout} {current : Token} {remaining : List Line} {number depth : Nat}
      {line rest : List Char} (levels : Nat) :
      Turn (insideLine layout current remaining number depth (-(levels + 1 : Nat)) line rest)
        (.ok .indent) (insideLine layout current remaining number depth (-levels) line rest)
  | space {layout : Layout} {current : Token} {remaining : List Line} {number depth : Nat}
      {line rest : List Char} {outcome : Except LexError Token} {after : Lexer} :
      Turn (insideLine layout current remaining number depth 0 line rest) outcome after →
      Turn (insideLine layout current remaining number depth 0 line (' ' :: rest)) outcome after
  | lexeme {layout : Layout} {current : Token} {remaining : List Line} {number depth : Nat}
      {line lexeme rest : List Char} {token : Token} :
      Lexes lexeme token rest →
      Turn (insideLine layout current remaining number depth 0 line (lexeme ++ rest))
        (.ok token) (insideLine layout current remaining number depth 0 line rest)
  | newline {layout : Layout} {current : Token} {remaining : List Line} {number depth : Nat}
      {line rest : List Char} :
      Ended rest →
      Turn (insideLine layout current remaining number depth 0 line rest)
        (.ok .newline) (betweenLines layout current remaining number depth)
  | fault {layout : Layout} {current : Token} {remaining : List Line} {number depth : Nat}
      {line rest : List Char} {fault : Fault} :
      Faulty rest fault →
      Turn (insideLine layout current remaining number depth 0 line rest)
        (.error ((insideLine layout current remaining number depth 0 line rest).faultError
          { line, rest } fault))
        (insideLine layout current remaining number depth 0 line rest)
  | skip {layout : Layout} {current : Token} {remaining : List Line} {number depth : Nat}
      {line : List Char} {outcome : Except LexError Token} {after : Lexer} :
      hasContent line = false →
      Turn (betweenLines layout current remaining (number + 1) depth) outcome after →
      Turn (betweenLines layout current (.content line :: remaining) number depth) outcome after
  | enter {layout : Layout} {current : Token} {remaining : List Line} {number depth : Nat}
      {line : List Char} {outcome : Except LexError Token} {after : Lexer} :
      hasContent line →
      Turn (insideLine layout current remaining (number + 1) (layout.depth (leadingSpaces line))
        (depth - layout.depth (leadingSpaces line) : Int) line (lineContent line)) outcome after →
      Turn (betweenLines layout current (.content line :: remaining) number depth) outcome after
  | undecodable {layout : Layout} {current : Token} {remaining : List Line}
      {number depth : Nat} :
      Turn (betweenLines layout current (.undecodable :: remaining) number depth)
        (.error .unreadableLine) (betweenLines layout current remaining number depth)
  | close {layout : Layout} {current : Token} {number depth : Nat} :
      Turn (betweenLines layout current [] number (depth + 1)) (.ok .dedent)
        (betweenLines layout current [] number depth)
  | ended {layout : Layout} {current : Token} {number : Nat} :
      Turn (betweenLines layout current [] number 0) (.ok .eof)
        (betweenLines layout current [] number 0)

/-- Between two lines the lexer owes nothing. -/
def Settled (lexer : Lexer) : Prop :=
  lexer.reading = none → lexer.owed = 0

theorem settled_ofLines (layout : Layout) (lines : List Line) : (ofLines layout lines).Settled :=
  fun _ => rfl

variable {lexer after : Lexer} {outcome : Except LexError Token}

/-- A turn is what the next call gives. -/
theorem Turn.next_eq (turn : Turn lexer outcome after) : lexer.next = (outcome, after) := by
  induction turn with
  | dedent levels => exact next_of_dedent ..
  | indent levels => exact next_of_indent ..
  | space _ ih => exact (next_of_space ..).trans ih
  | lexeme lexes => exact next_of_lexes _ _ _ _ _ _ lexes
  | newline ended => exact next_of_ended _ _ _ _ _ _ ended
  | fault faulty => exact next_of_faulty _ _ _ _ _ _ faulty
  | skip skipped _ ih => exact (next_of_skipped _ _ _ _ _ skipped).trans ih
  | enter content _ ih => exact (next_of_content _ _ _ _ _ content).trans ih
  | undecodable => rfl
  | close => exact next_of_close ..
  | ended => exact next_of_end ..

/-- A turn that ends between two lines leaves nothing owed. -/
theorem Turn.settled (turn : Turn lexer outcome after) : after.Settled := by
  induction turn with
  | dedent levels => exact fun idle => nomatch idle
  | indent levels => exact fun idle => nomatch idle
  | space _ ih => exact ih
  | lexeme _ => exact fun idle => nomatch idle
  | newline _ => exact fun _ => rfl
  | fault _ => exact fun idle => nomatch idle
  | skip _ _ ih => exact ih
  | enter _ _ ih => exact ih
  | undecodable => exact fun _ => rfl
  | close => exact fun _ => rfl
  | ended => exact fun _ => rfl

/-- A turn does not touch the current token. -/
theorem Turn.current_eq (turn : Turn lexer outcome after) : after.current = lexer.current := by
  induction turn with
  | space _ ih => exact ih
  | skip _ _ ih => exact ih
  | enter _ _ ih => exact ih
  | _ => rfl

section Exists

variable (layout : Layout) (current : Token) (remaining : List Line) (number depth : Nat)
variable (line rest : List Char)

theorem exists_turn_scanning : ∃ outcome after,
    Turn (insideLine layout current remaining number depth 0 line rest) outcome after := by
  induction rest with
  | nil => exact ⟨_, _, .newline fun first found => nomatch found⟩
  | cons first rest ih =>
      by_cases space : first = ' '
      · obtain ⟨outcome, after, turn⟩ := ih
        rw [space]
        exact ⟨outcome, after, .space turn⟩
      rcases scan_cases rest space with
        ⟨hash, _⟩ | ⟨lexeme, token, after, _, same, lexes⟩ | ⟨fault, _, faulty⟩
      · exact ⟨_, _, .newline fun other found => Option.some.inj found ▸ hash⟩
      · rw [same]
        exact ⟨_, _, .lexeme lexes⟩
      · exact ⟨_, _, .fault faulty⟩

theorem exists_turn_insideLine (owed : Int) : ∃ outcome after,
    Turn (insideLine layout current remaining number depth owed line rest) outcome after := by
  rcases owed with (_ | levels) | levels
  · exact exists_turn_scanning layout current remaining number depth line rest
  · exact ⟨_, _, .dedent levels⟩
  · exact ⟨_, _, .indent levels⟩

theorem exists_turn_betweenLines : ∃ outcome after,
    Turn (betweenLines layout current remaining number depth) outcome after := by
  induction remaining generalizing number with
  | nil =>
      cases depth with
      | zero => exact ⟨_, _, .ended⟩
      | succ depth => exact ⟨_, _, .close⟩
  | cons line remaining ih =>
      cases line with
      | undecodable => exact ⟨_, _, .undecodable⟩
      | content line =>
          by_cases content : hasContent line
          · obtain ⟨outcome, after, turn⟩ := exists_turn_insideLine layout current remaining
              (number + 1) (layout.depth (leadingSpaces line)) line (lineContent line)
              (depth - layout.depth (leadingSpaces line) : Int)
            exact ⟨outcome, after, .enter content turn⟩
          · obtain ⟨outcome, after, turn⟩ := ih (number + 1)
            exact ⟨outcome, after, .skip (Bool.eq_false_iff.mpr content) turn⟩

end Exists

/-- Every call of a lexer that owes nothing between lines is one of the turns. -/
theorem turn_next (settled : lexer.Settled) : Turn lexer lexer.next.1 lexer.next.2 := by
  obtain ⟨outcome, after, turn⟩ : ∃ outcome after, Turn lexer outcome after := by
    obtain ⟨layout, remaining, current, reading, number, depth, owed⟩ := lexer
    cases reading with
    | some reading =>
        exact exists_turn_insideLine layout current remaining number depth reading.line
          reading.rest owed
    | none =>
        cases settled rfl
        exact exists_turn_betweenLines layout current remaining number depth
  rw [turn.next_eq]
  exact turn

end Offside.Lexer
