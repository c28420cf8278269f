import Offside.Lexer.Work

/-!
# Tokens of a whole source

Pulls tokens until the end of the input is reported, or an error.
-/

namespace Offside

open Text

namespace Lexer

/-- The work left, counting the current token unless the input has ended. -/
def pending (lexer : Lexer) : Nat :=
  lexer.work + cost lexer.current

theorem pending_advance {lexer after : Lexer} {token : Token}
    (running : lexer.current ≠ .eof) (advanced : lexer.advance = (.ok token, after)) :
    after.pending < lexer.pending := by
  have price : cost lexer.current = 1 := by
    revert running
    cases lexer.current <;> simp [cost]
  unfold advance at advanced
  split at advanced
  next produced =>
    cases advanced
    have := work_next produced
    simp only [pending, price, work] at this ⊢
    omega
  next => cases advanced

/-- The tokens from the current one up to the first end of the input. -/
def tokens (lexer : Lexer) : Except LexError (List Token) :=
  if _ended : lexer.current = .eof then .ok [.eof]
  else
    match _advanced : lexer.advance with
    | (.ok _, after) => after.tokens.map (lexer.current :: ·)
    | (.error error, _) => .error error
termination_by lexer.pending
decreasing_by exact pending_advance ‹_› ‹_›

end Lexer

/-- The tokens of a sequence of lines. -/
def tokenizeLines (layout : Layout) (lines : List Line) : Except LexError (List Token) :=
  (Lexer.start layout lines).bind Lexer.tokens

/-- The tokens of a text. -/
def tokenize (source : String) (layout : Layout := .standard) : Except LexError (List Token) :=
  tokenizeLines layout (linesOfText source)

end Offside
