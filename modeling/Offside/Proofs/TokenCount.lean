import Mathlib.Order.Basic
import Offside.Proofs.Lexer.Driving

/-!
# How many tokens a source has

Every token but the end of the input uses up some of the work that a lexer has left, and the
work that a source makes is at most twice the number of its bytes. So pulling tokens comes to
the end of the input or to an error after that many, however deep the layout is that has to be
opened and closed on the way.
-/

namespace Offside

open Text

namespace Lexer

/-- A lexer stops at the end of the input and at an error. -/
def Stops (lexer : Lexer) : Prop :=
  (∃ after, lexer.next = (.ok .eof, after)) ∨ ∃ error after, lexer.next = (.error error, after)

theorem cost_of_ne_eof {token : Token} (running : token ≠ .eof) : cost token = 1 := by
  cases token with
  | eof => exact (running rfl).elim
  | _ => rfl

/-- A lexer yields at most as many tokens as it has work left before it stops. -/
theorem exists_yields_stops (lexer : Lexer) :
    ∃ tokens target, lexer.Yields tokens target ∧ target.Stops ∧ .eof ∉ tokens ∧
      tokens.length ≤ lexer.work := by
  induction left : lexer.work using Nat.strongRecOn generalizing lexer with
  | ind bound ih =>
  subst left
  have stopped (stops : lexer.Stops) : ∃ tokens target, lexer.Yields tokens target ∧
      target.Stops ∧ .eof ∉ tokens ∧ tokens.length ≤ lexer.work :=
    ⟨[], lexer, .refl lexer, stops, List.not_mem_nil, Nat.zero_le _⟩
  rcases produced : lexer.next with ⟨error | token, after⟩
  · exact stopped (.inr ⟨error, after, produced⟩)
  by_cases ended : token = .eof
  · subst ended
    exact stopped (.inl ⟨after, produced⟩)
  · have used := work_next produced
    rw [cost_of_ne_eof ended] at used
    obtain ⟨tokens, target, yields, stops, running, within⟩ := ih after.work used after rfl
    refine ⟨token :: tokens, target, ⟨after, produced, yields⟩, stops, ?_, ?_⟩
    · rw [List.mem_cons, not_or]
      exact ⟨Ne.symm ended, running⟩
    · rw [List.length_cons]
      exact Nat.le_trans (Nat.succ_le_succ within) used

end Lexer

open Lexer

/-! ## The work that a source makes -/

theorem length_withoutTerminator_le (piece : List Char) :
    (withoutTerminator piece).length ≤ piece.length := by
  have same : piece.reverse.length = piece.length := List.length_reverse
  rw [← same, withoutTerminator]
  split
  next same => simp [same]; omega
  next same => simp [same]
  next => simp

theorem linesWork_content_le (cut : List (List Char)) :
    linesWork (cut.map fun piece => .content (withoutTerminator piece)) ≤
      2 * cut.flatten.length := by
  induction cut with
  | nil => exact Nat.le_refl 0
  | cons piece cut ih =>
      have shorter := length_withoutTerminator_le piece
      simp only [List.map_cons, linesWork, Line.work, List.flatten_cons, List.length_append]
      omega

/-- The lines of a text make at most two tokens for every byte. -/
theorem linesWork_linesOfText_le (source : String) :
    linesWork (linesOfText source) ≤ 2 * source.utf8ByteSize := by
  calc linesWork (linesOfText source)
      ≤ 2 * (pieces (· == '\n') source.toList).flatten.length := linesWork_content_le _
    _ = 2 * source.toList.length := by rw [flatten_pieces]
    _ ≤ 2 * source.utf8ByteSize := by
        rw [← utf8Length_toList]
        exact Nat.mul_le_mul_left 2 (length_le_utf8Length _)

/-! ## The whole source -/

/-- Tokenizing comes to an end, with as many calls as there are tokens before it and one more:
the end of the input or the first error. The tokens before it are at most two for every byte
of the source, whatever layout has to be opened and closed. -/
theorem tokenize_ends_within_bytes (source : String) (width : Nat) :
    ∃ tokens : List Token, .eof ∉ tokens ∧ tokens.length + 1 ≤ 2 * source.utf8ByteSize + 1 ∧
      ((tokenize source (.ofWidth width) = .ok (tokens ++ [.eof]) ∧
          Lexer.driven (.ofWidth width) (linesOfText source) tokens.length =
            tokens.map .ok ++ [.ok .eof]) ∨
        ∃ error, tokenize source (.ofWidth width) = .error error ∧
          Lexer.driven (.ofWidth width) (linesOfText source) tokens.length =
            tokens.map .ok ++ [.error error]) := by
  obtain ⟨tokens, target, yields, stops, running, within⟩ :=
    (ofLines (.ofWidth width) (linesOfText source)).exists_yields_stops
  have work : (ofLines (.ofWidth width) (linesOfText source)).work =
      linesWork (linesOfText source) := by
    simp [Lexer.work, ofLines, readingWork]
  rw [work] at within
  refine ⟨tokens, running, ?_, ?_⟩
  · exact Nat.succ_le_succ (Nat.le_trans within (linesWork_linesOfText_le source))
  rw [tokenize, tokenizeLines_eq_upcoming, yields.upcoming_eq running]
  rcases stops with ⟨after, ended⟩ | ⟨error, after, failed⟩
  · left
    have toEnd := yields.append (yields_of_next ended)
    have outcomes := toEnd.outcomes_eq 0
    rw [List.length_append, List.map_append] at outcomes
    rw [upcoming_of_eof ended, toEnd.driven_eq (by simp)]
    exact ⟨rfl, outcomes.trans (List.append_nil _)⟩
  · right
    rw [upcoming_of_error failed]
    refine ⟨error, rfl, ?_⟩
    cases tokens with
    | nil => exact driven_of_error (Eq.trans yields failed) 0
    | cons token tokens =>
        rw [yields.driven_eq (List.cons_ne_nil _ _), yields.outcomes_eq 1,
          outcomes_of_error failed 0]
        rfl

/-- The bound is reached by one character: a token, the newline and the end of the input. -/
example : tokenize "a" (.ofWidth 2) = .ok [.id "a", .newline, .eof] := by
  decide +kernel

end Offside
