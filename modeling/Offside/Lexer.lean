import Offside.Layout
import Offside.Lexeme
import Offside.Lexer.Error
import Offside.Text.Blank
import Offside.Text.Line
import Offside.Text.Utf8

/-!
# The pull lexer

A lexer holds the lines that are still to be read and what is left of the line
being read, and gives one token for each `advance`. When a line is entered, the
change of depth since the line before is owed as indents or dedents, which are
paid before the first token of the line. The end of a line is a newline; after
the last line every open level is closed by a dedent, and then the end of the
input is reported for ever.

An error leaves the lexer usable. A lexeme that cannot be scanned is not passed,
so the same error comes back; a line that cannot be decoded is passed.
-/

namespace Offside

open Text Lexeme

/-- The line being read: all of it, and the part that is not yet scanned. -/
structure OpenLine where
  line : List Char
  rest : List Char
  deriving DecidableEq, Repr

namespace OpenLine

/-- The column, counted from one in bytes, at which the unscanned part starts. -/
def column (reading : OpenLine) : Nat :=
  utf8Length reading.line - utf8Length reading.rest + 1

/-- Passes the spaces before the next lexeme. -/
def skipSpaces (reading : OpenLine) : OpenLine :=
  { reading with rest := reading.rest.dropWhile (· == ' ') }

end OpenLine

/-- The part of a line after its leading spaces. -/
def lineContent (line : List Char) : List Char :=
  line.dropWhile (· == ' ')

/-- Number of spaces at the start of a line. -/
def leadingSpaces (line : List Char) : Nat :=
  (line.takeWhile (· == ' ')).length

/-- Lines that are blank, or hold nothing but a comment, have no content and are
skipped. -/
def hasContent (line : List Char) : Bool :=
  !allBlank (lineContent line) && (lineContent line).head? != some '#'

/-- A lexer between two tokens. -/
structure Lexer where
  layout : Layout
  /-- The lines after the one being read. -/
  remaining : List Line
  /-- The most recent token. -/
  current : Token := .eof
  /-- The line whose newline is still to come. -/
  reading : Option OpenLine := none
  /-- How many lines were read. -/
  lineNumber : Nat := 0
  /-- The depth of the last line with content, less the levels closed at the end. -/
  depth : Nat := 0
  /-- The dedents that are owed, less the indents that are owed. -/
  owed : Int := 0
  deriving DecidableEq, Repr

namespace Lexer

/-- Pays one of the indents or dedents that are owed. -/
def payOwed (lexer : Lexer) : Option (Token × Lexer) :=
  if 0 < lexer.owed then some (.dedent, { lexer with owed := lexer.owed - 1 })
  else if lexer.owed < 0 then some (.indent, { lexer with owed := lexer.owed + 1 })
  else none

/-- Enters a line with content: the change of depth is owed from here on. -/
def enter (lexer : Lexer) (reading : OpenLine) (remaining : List Line) : Lexer :=
  let depth := lexer.layout.depth (leadingSpaces reading.line)
  { lexer with
    remaining
    reading := some reading
    depth
    owed := lexer.owed + (lexer.depth - depth : Int) }

/-- What reading on has come to. -/
inductive Found where
  | content (reading : OpenLine)
  | undecodable
  | endOfInput
  deriving DecidableEq, Repr

/-- Reads lines up to and including the first one with content. Skipped lines are
counted; a line that cannot be decoded is passed without being counted. -/
def readLine (lexer : Lexer) : List Line → Found × Lexer
  | [] => (.endOfInput, { lexer with remaining := [] })
  | .undecodable :: remaining => (.undecodable, { lexer with remaining })
  | .content line :: remaining =>
      let counted := { lexer with lineNumber := lexer.lineNumber + 1 }
      if hasContent line then
        let reading : OpenLine := { line, rest := lineContent line }
        (.content reading, counted.enter reading remaining)
      else counted.readLine remaining

/-- Closes one open level after the last line, or reports the end of the input. -/
def close (lexer : Lexer) : Token × Lexer :=
  if 0 < lexer.depth then (.dedent, { lexer with depth := lexer.depth - 1 })
  else (.eof, lexer)

/-- The error for a lexeme that cannot be scanned at the start of the unscanned part. -/
def faultError (lexer : Lexer) (reading : OpenLine) : Fault → LexError
  | .unterminated => .unterminatedText lexer.lineNumber reading.column
  | .tooLarge digits => .numberTooLarge (String.ofList digits) lexer.lineNumber

/-- Scans one token of the line being read. -/
def scanLine (lexer : Lexer) (reading : OpenLine) : Except LexError Token × Lexer :=
  let reading := reading.skipSpaces
  match reading.rest with
  | [] => (.ok .newline, { lexer with reading := none })
  | first :: rest =>
      match scan first rest with
      | .token token rest => (.ok token, { lexer with reading := some { reading with rest } })
      | .comment => (.ok .newline, { lexer with reading := none })
      | .fault fault =>
          (.error (lexer.faultError reading fault), { lexer with reading := some reading })

/-- Produces the next token, without making it the current one. -/
def next (lexer : Lexer) : Except LexError Token × Lexer :=
  match lexer.payOwed with
  | some (token, lexer) => (.ok token, lexer)
  | none =>
      match lexer.reading with
      | some reading => lexer.scanLine reading
      | none =>
          match lexer.readLine lexer.remaining with
          | (.undecodable, lexer) => (.error .unreadableLine, lexer)
          | (.endOfInput, lexer) =>
              let (token, lexer) := lexer.close
              (.ok token, lexer)
          | (.content reading, lexer) =>
              match lexer.payOwed with
              | some (token, lexer) => (.ok token, lexer)
              | none => lexer.scanLine reading

/-- Produces the next token and makes it the current one. An error leaves the
current token as it is. -/
def advance (lexer : Lexer) : Except LexError Token × Lexer :=
  match lexer.next with
  | (.ok token, lexer) => (.ok token, { lexer with current := token })
  | (.error error, lexer) => (.error error, lexer)

/-- A lexer before its first token. -/
def ofLines (layout : Layout) (lines : List Line) : Lexer :=
  { layout, remaining := lines }

/-- A lexer on its first token. -/
def start (layout : Layout) (lines : List Line) : Except LexError Lexer :=
  match (ofLines layout lines).advance with
  | (.ok _, lexer) => .ok lexer
  | (.error error, _) => .error error

end Lexer

end Offside
