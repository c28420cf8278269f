import Offside.Token

/-!
# Lexical errors

Why the lexer could not go on, or why the current token is not the one asked for,
and the message for each.
-/

namespace Offside

/-- What a check on the current token asked for. -/
inductive Expected where
  /-- Any token of a kind. -/
  | tag (kind : Tag)
  /-- A token with this very value. -/
  | token (exact : Token)
  deriving DecidableEq, Repr

/-- Shows what was asked for. -/
def Expected.display : Expected → String
  | .tag kind => kind.name
  | .token exact => exact.display

/-- The errors of the lexer. Lines and columns count from one. -/
inductive LexError where
  /-- A text literal does not end on its line. -/
  | unterminatedText (line column : Nat)
  /-- A run of digits is too large for a number. -/
  | numberTooLarge (digits : String) (line : Nat)
  /-- The current token is not the one asked for. -/
  | unexpected (expected : Expected) (found : Token)
  /-- A line of the source cannot be read. -/
  | unreadableLine
  deriving DecidableEq, Repr

namespace LexError

/-- The line that an error points at, if it points at one. -/
def line? : LexError → Option Nat
  | .unterminatedText line _ => some line
  | .numberTooLarge _ line => some line
  | .unexpected _ _ => none
  | .unreadableLine => none

/-- The message of an error. -/
def message : LexError → String
  | .unterminatedText line column =>
      s!"line {line}, column {column}: unterminated string literal"
  | .numberTooLarge digits line =>
      s!"line {line}: integer literal \x60{digits}\x60 does not fit in 32 bits"
  | .unexpected expected found =>
      "expected " ++ expected.display ++ ", found " ++ found.display
  | .unreadableLine => "failed to read source line"

end LexError

end Offside
