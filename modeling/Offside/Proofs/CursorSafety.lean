import Offside.Proofs.Cursor.Following
import Offside.Proofs.PermanentErrors

/-!
# Safety of the cursor

On a source whose lines a word can measure, no request to a lexer with a cursor is trapped: no cut
falls inside of a character or beyond the line, no number leaves its word, nothing is divided by
zero, and no lexeme is scanned where nothing is left. It has the replies of the lexer without a
cursor, errors included.
-/

namespace Offside

open Text
open Lexer (Request Reply)

namespace CursorLexer

variable {reader : CursorLexer} {lexer : Lexer}

theorem follows_ofLines (width : Nat) {lines : List Line}
    (short : ∀ line, .content line ∈ lines → utf8Length line < 2 ^ 63) :
    (ofLines width lines).Follows (Lexer.ofLines (.ofWidth width) lines) where
  width := rfl
  remaining := rfl
  current := rfl
  lineNumber := rfl
  depth := rfl
  pending := rfl
  place := ⟨rfl, ⟨[], rfl, rfl⟩, show 0 < 2 ^ 63 by decide⟩
  finished := fun finished => nomatch finished
  short := short
  shallow := show 0 < 2 ^ 63 by decide
  owing := show (-2 ^ 63 : Int) < 0 ∧ (0 : Int) < 2 ^ 63 by decide

/-- An advance is not trapped, whether it gives a token or an error. -/
theorem Follows.exists_advance (follows : reader.Follows lexer) (settled : lexer.Settled) :
    ∃ next, reader.advance = .ok (lexer.advance.1, next) ∧ next.Follows lexer.advance.2 := by
  obtain ⟨next, given, follows'⟩ := follows.exists_nextToken (Lexer.turn_next settled)
  rcases produced : lexer.next with ⟨error | token, after⟩
  all_goals rw [produced] at given follows'
  · refine ⟨next, ?_, ?_⟩
    · rw [advance, given, Lexer.advance_of_error produced]
      rfl
    · rw [Lexer.advance_of_error produced]
      exact follows'
  · refine ⟨{ next with current := token }, ?_, ?_⟩
    · rw [advance, given, Lexer.advance_of_next produced]
      rfl
    · rw [Lexer.advance_of_next produced]
      exact { follows' with
        current := rfl
        place := follows'.place.congr rfl rfl rfl }

theorem check_eq (same : reader.current = lexer.current) (request : Request) :
    reader.check request = lexer.check request := by
  cases request with
  | advance => rw [check, same]; rfl
  | expect tag | expectNext tag =>
      simp only [check, Lexer.check, Lexer.expect, same]
      split <;> rfl
  | expectToken token | expectNextToken token =>
      simp only [check, Lexer.check, Lexer.expectToken, same]
      split <;> rfl
  | expectId =>
      simp only [check, Lexer.check, Lexer.expectId, same]
      cases lexer.current.asId? <;> rfl

theorem Follows.exists_answer (follows : reader.Follows lexer) (settled : lexer.Settled)
    (request : Request) :
    ∃ next, reader.answer request = .ok ((lexer.answer request).1, next) ∧
      next.Follows (lexer.answer request).2 := by
  rw [answer, Lexer.answer_eq]
  by_cases advances : request.advances
  · obtain ⟨next, advanced, follows'⟩ := follows.exists_advance settled
    simp only [if_pos advances, advanced, Checked.ok_bind, Lexer.advanceThen]
    rcases outcome : lexer.advance with ⟨error | token, after⟩
    all_goals rw [outcome] at follows'
    · exact ⟨next, rfl, follows'⟩
    · refine ⟨next, ?_, follows'⟩
      simp only [check_eq follows'.current]
      rfl
  · rw [if_neg advances, if_neg advances]
    refine ⟨reader, ?_, follows⟩
    rw [check_eq follows.current]
    rfl

theorem settled_answer (settled : lexer.Settled) (request : Request) :
    (lexer.answer request).2.Settled := by
  rw [Lexer.answer_snd]
  split
  · exact Lexer.settled_advance settled
  · exact settled

/-- No number of requests is trapped. -/
theorem Follows.exists_answers (follows : reader.Follows lexer) (settled : lexer.Settled)
    (requests : List Request) :
    ∃ last, reader.answers requests = .ok ((lexer.answers requests).map Prod.fst, last) ∧
      last.Follows (lexer.afterAll requests) := by
  induction requests generalizing reader lexer with
  | nil => exact ⟨reader, rfl, follows⟩
  | cons request requests ih =>
      obtain ⟨next, answered, follows'⟩ := follows.exists_answer settled request
      obtain ⟨last, rest, lastFollows⟩ := ih follows' (settled_answer settled request)
      refine ⟨last, ?_, lastFollows⟩
      simp only [answers, answered, rest, Checked.ok_bind, Lexer.answers, List.map_cons]
      rfl

theorem Follows.exists_passed (follows : reader.Follows lexer) :
    ∃ passed rest, passed ++ rest = reader.line ∧ utf8Length passed = reader.cursor := by
  have place := follows.place
  rcases inLine : lexer.reading with _ | reading
  all_goals rw [inLine] at place
  · obtain ⟨_, ⟨passed, same⟩, _⟩ := place
    exact ⟨passed, _, same⟩
  · obtain ⟨_, _, ⟨passed, same⟩, _⟩ := place
    exact ⟨passed, _, same⟩

end CursorLexer

/-- Requests in any number are answered without a trap, and with the replies of the lexer that has
no cursor. The cursor is then between two characters of the line, and so not beyond its end. -/
theorem cursor_lexer_never_trapped (bytes : List UInt8) (width : Nat)
    (short : ∀ line, .content line ∈ linesOfBytes bytes → utf8Length line < 2 ^ 63)
    (requests : List Request) :
    ∃ last : CursorLexer,
      (CursorLexer.ofLines width (linesOfBytes bytes)).answers requests =
        .ok (((Lexer.ofLines (.ofWidth width) (linesOfBytes bytes)).answers requests).map Prod.fst,
          last) ∧
      (∃ passed rest, passed ++ rest = last.line ∧ utf8Length passed = last.cursor) ∧
      last.cursor ≤ utf8Length last.line := by
  obtain ⟨last, answered, follows⟩ := (CursorLexer.follows_ofLines width short).exists_answers
    (Lexer.settled_ofLines _ _) requests
  obtain ⟨passed, rest, parts, length⟩ := follows.exists_passed
  refine ⟨last, answered, ⟨passed, rest, parts, length⟩, ?_⟩
  rw [← parts, ← length, utf8Length_append]
  exact Nat.le_add_right _ _

/-- A width of zero counts as one. A name of two bytes, a comparison and a text that does not end
stand behind two indents; the text is reported again and again, in the column of its quote. -/
theorem cursor_lexer_never_trapped_of_accent :
    let bytes : List UInt8 := [0x69, 0x66, 0x0A, 0x20, 0x20, 0xC3, 0xA9, 0x3C, 0x3D, 0x27]
    let requests : List Request :=
      [.advance, .advance, .advance, .expectNextToken .indent, .expectNext .id, .expectNext .char,
        .advance, .expectNext .eof]
    let replies : List (Except LexError Reply) :=
      [.ok (.token (.keyword .ifWord)), .ok (.token .newline), .ok (.token .indent), .ok .agreed,
        .ok (.token (.id "é")), .error (.unexpected (.tag .char) (.comparator .lessOrEqual)),
        .error (.unterminatedText 2 7), .error (.unterminatedText 2 7)]
    (∀ line, .content line ∈ linesOfBytes bytes → utf8Length line < 2 ^ 63) ∧
      ∃ last : CursorLexer,
        (CursorLexer.ofLines 0 (linesOfBytes bytes)).answers requests = .ok (replies, last) ∧
          last.cursor ≤ utf8Length last.line := by
  intro bytes requests replies
  have lines : linesOfBytes bytes =
      [.content ['i', 'f'], .content [' ', ' ', 'é', '<', '=', '\x27']] := by decide +kernel
  have short : ∀ line, .content line ∈ linesOfBytes bytes → utf8Length line < 2 ^ 63 := by
    rw [lines]
    intro line member
    simp only [List.mem_cons, List.not_mem_nil, or_false, Line.content.injEq] at member
    rcases member with rfl | rfl <;> decide
  obtain ⟨last, answered, _, within⟩ := cursor_lexer_never_trapped bytes 0 short requests
  have same : ((Lexer.ofLines (.ofWidth 0) (linesOfBytes bytes)).answers requests).map Prod.fst =
      replies := by decide +kernel
  rw [same] at answered
  exact ⟨short, last, answered, within⟩

end Offside
