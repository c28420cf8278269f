import Offside.Lexer.Request
import Offside.Proofs.Cursor.Words

/-!
# The lexer with a cursor

The lexer as a program runs it: it has the line that is being read without its indentation, and a
cursor that counts the bytes before the part that is left. What it passes is counted in bytes as
well, and for each kind of lexeme in its own way. Only lines are counted without a bound.
-/

namespace Offside

open Text Lexeme

/-! ## What is passed, in bytes -/

namespace Lexeme

/-- The position of the first character that is accepted. -/
def position? (accept : Char → Bool) : List Char → Option Nat
  | [] => none
  | char :: chars =>
      if accept char then some 0 else (position? accept chars).map (char.utf8Size + ·)

/-- Whether a byte is that of a decimal digit. -/
def isDigitByte (byte : UInt8) : Bool :=
  0x30 ≤ byte && byte ≤ 0x39

/-- The number of bytes of decimal digits that a text begins with. -/
def digitBytes (chars : List Char) : Nat :=
  ((chars.flatMap String.utf8EncodeChar).takeWhile isDigitByte).length

/-- Reads the items of a literal and its closing quote, and gives the position after it. The
position of the next character is counted along. -/
def readItemsAt (quote : Char) : List Char → Nat → Option (List Char × Nat)
  | [], _ => none
  | char :: chars, position =>
      if char = quote then some ([], position + char.utf8Size)
      else if char = backslash then
        match chars with
        | [] => none
        | escaped :: chars =>
            (readItemsAt quote chars (position + char.utf8Size + escaped.utf8Size)).map
              fun (value, after) => ((escapeValue? escaped).toList ++ value, after)
      else
        (readItemsAt quote chars (position + char.utf8Size)).map
          fun (value, after) => (char :: value, after)

/-- Reads a literal with its opening quote. -/
def readLiteral : List Char → Option (List Char × Nat)
  | [] => none
  | quote :: chars => readItemsAt quote chars quote.utf8Size

/-- The comparison that the first two bytes are. -/
def comparator? (chars : List Char) : Option Comparator :=
  match cut? chars 2 with
  | some ([first, second], _) => Comparator.ofSymbols? first second
  | _ => none

end Lexeme

/-! ## The lexer -/

/-- A lexer with a cursor. The line is empty when its newline has been given. -/
structure CursorLexer where
  width : Nat
  remaining : List Line
  current : Token := .eof
  line : List Char := []
  cursor : Nat := 0
  lineNumber : Nat := 0
  /-- The number of spaces that the line had before. -/
  indent : Nat := 0
  depth : Nat := 0
  /-- The dedents that are owed, less the indents that are owed. -/
  pending : Int := 0
  finished : Bool := false

namespace CursorLexer

open Lexer (Request Reply)

/-- A lexer before its first token. A width of zero counts as one. -/
def ofLines (width : Nat) (lines : List Line) : CursorLexer :=
  { width := max width 1, remaining := lines }

/-- The part of the line that is left. -/
def rest (lexer : CursorLexer) : Checked (List Char) := do
  let (_, rest) ← cut lexer.line lexer.cursor
  return rest

/-- Moves the cursor. -/
def move (lexer : CursorLexer) (bytes : Nat) : Checked CursorLexer := do
  let cursor ← Word.unsigned (lexer.cursor + bytes)
  return { lexer with cursor }

/-- Passes the spaces before the next lexeme. -/
def skipSpaces (lexer : CursorLexer) : Checked CursorLexer := do
  let rest ← lexer.rest
  let spaces ← Word.unsigned (utf8Length rest - utf8Length (rest.dropWhile (· == ' ')) : Int)
  lexer.move spaces

/-- Leaves the line. -/
def clearLine (lexer : CursorLexer) : CursorLexer :=
  { lexer with line := [], cursor := 0 }

/-- The column of the cursor, counted from one. -/
def column (lexer : CursorLexer) : Checked Nat := do
  let before ← Word.unsigned (lexer.indent + lexer.cursor)
  Word.unsigned (before + 1)

/-- Pays one of the indents or dedents that are owed. -/
def takePending (lexer : CursorLexer) : Checked (Option (Token × CursorLexer)) :=
  if 0 < lexer.pending then do
    let pending ← Word.signed (lexer.pending - 1)
    return some (.dedent, { lexer with pending })
  else if lexer.pending < 0 then do
    let pending ← Word.signed (lexer.pending + 1)
    return some (.indent, { lexer with pending })
  else return none

/-- Gives a token that is owed, or else what comes otherwise. -/
def payFirst (lexer : CursorLexer) (otherwise : Checked (Except LexError Token × CursorLexer)) :
    Checked (Except LexError Token × CursorLexer) := do
  match ← lexer.takePending with
  | some (token, lexer) => return (.ok token, lexer)
  | none => otherwise

/-- Closes one open level after the last line, or reports the end of the input. -/
def finishToken (lexer : CursorLexer) : Checked (Except LexError Token × CursorLexer) :=
  if 0 < lexer.depth then do
    let depth ← Word.unsigned (lexer.depth - 1)
    return (.ok .dedent, { lexer with depth })
  else return (.ok .eof, lexer)

/-- Enters a line with content. -/
def enter (lexer : CursorLexer) (line : List Char) : Checked CursorLexer := do
  let content := lineContent line
  let indent ← Word.unsigned (utf8Length line - utf8Length content)
  let depth ← Word.divide indent lexer.width
  let before ← Word.signed lexer.depth
  let now ← Word.signed depth
  let difference ← Word.signed (before - now)
  let pending ← Word.signed (lexer.pending + difference)
  return { lexer with pending, depth, indent, line := content, cursor := 0 }

/-- Reads lines up to and including the first one with content, and says whether there is one. -/
def pullLine (lexer : CursorLexer) :
    List Line → Checked (Except LexError Bool × CursorLexer)
  | [] => return (.ok false, { lexer with remaining := [] })
  | .undecodable :: remaining => return (.error .unreadableLine, { lexer with remaining })
  | .content line :: remaining =>
      let lexer := { lexer with remaining, lineNumber := lexer.lineNumber + 1 }
      if hasContent line then do
        let lexer ← lexer.enter line
        return (.ok true, lexer)
      else lexer.pullLine remaining

/-- Scans a text literal. -/
def scanText (lexer : CursorLexer) : Checked (Except LexError Token × CursorLexer) := do
  let rest ← lexer.rest
  match readLiteral rest with
  | some (value, bytes) =>
      let lexer ← lexer.move bytes
      return (.ok (.text (String.ofList value)), lexer)
  | none =>
      let column ← lexer.column
      return (.error (.unterminatedText lexer.lineNumber column), lexer)

/-- Scans a number. -/
def scanNumber (lexer : CursorLexer) : Checked (Except LexError Token × CursorLexer) := do
  let rest ← lexer.rest
  let (digits, _) ← cut rest (digitBytes rest)
  match numberToken? digits with
  | some token =>
      let lexer ← lexer.move (digitBytes rest)
      return (.ok token, lexer)
  | none => return (.error (.numberTooLarge (String.ofList digits) lexer.lineNumber), lexer)

/-- Scans a word, a two-character comparison or a single symbol. -/
def scanWord (lexer : CursorLexer) (first : Char) :
    Checked (Except LexError Token × CursorLexer) := do
  let rest ← lexer.rest
  let bytes := (position? isReserved rest).getD (utf8Length rest)
  if 0 < bytes then
    let (word, _) ← cut rest bytes
    let lexer ← lexer.move bytes
    return (.ok (wordToken (String.ofList word)), lexer)
  else
    match comparator? rest with
    | some sign =>
        let lexer ← lexer.move 2
        return (.ok (.comparator sign), lexer)
    | none =>
        let lexer ← lexer.move first.utf8Size
        return (.ok (.char first), lexer)

/-- Scans one token, of which at least the first character must be left. -/
def scanToken (lexer : CursorLexer) : Checked (Except LexError Token × CursorLexer) := do
  match ← lexer.rest with
  | [] => throw .nothingLeft
  | first :: _ =>
      if isQuote first then lexer.scanText
      else if first.isDigit then lexer.scanNumber
      else if first = '#' then return (.ok .newline, lexer.clearLine)
      else lexer.scanWord first

/-- Goes on with the next line. -/
def nextLine (lexer : CursorLexer) : Checked (Except LexError Token × CursorLexer) := do
  match ← lexer.pullLine lexer.remaining with
  | (.error error, lexer) => return (.error error, lexer)
  | (.ok false, lexer) =>
      let lexer := { lexer with finished := true }
      lexer.finishToken
  | (.ok true, lexer) => lexer.payFirst lexer.scanToken

/-- Produces the next token, without making it the current one. -/
def nextToken (lexer : CursorLexer) : Checked (Except LexError Token × CursorLexer) :=
  if lexer.finished then lexer.finishToken
  else lexer.payFirst do
    let lexer ← lexer.skipSpaces
    match ← lexer.rest, lexer.line with
    | _ :: _, _ => lexer.scanToken
    | [], _ :: _ => return (.ok .newline, lexer.clearLine)
    | [], [] => lexer.nextLine

/-- Produces the next token and makes it the current one. An error leaves the current token as it
is. -/
def advance (lexer : CursorLexer) : Checked (Except LexError Token × CursorLexer) := do
  match ← lexer.nextToken with
  | (.ok token, lexer) => return (.ok token, { lexer with current := token })
  | (.error error, lexer) => return (.error error, lexer)

/-- What a request asks of the current token, with its answer. -/
def check (lexer : CursorLexer) : Request → Except LexError Reply
  | .advance => .ok (.token lexer.current)
  | .expect tag | .expectNext tag =>
      if lexer.current.is tag then .ok (.token lexer.current)
      else .error (.unexpected (.tag tag) lexer.current)
  | .expectToken token | .expectNextToken token =>
      if lexer.current = token then .ok .agreed
      else .error (.unexpected (.token token) lexer.current)
  | .expectId =>
      match lexer.current.asId? with
      | some name => .ok (.name name)
      | none => .error (.unexpected (.tag .id) lexer.current)

/-- Answers one request. -/
def answer (lexer : CursorLexer) (request : Request) :
    Checked (Except LexError Reply × CursorLexer) :=
  if request.advances then do
    match ← lexer.advance with
    | (.ok _, lexer) => return (lexer.check request, lexer)
    | (.error error, lexer) => return (.error error, lexer)
  else return (lexer.check request, lexer)

/-- Answers requests in turn. An error does not end the list. -/
def answers (lexer : CursorLexer) :
    List Request → Checked (List (Except LexError Reply) × CursorLexer)
  | [] => return ([], lexer)
  | request :: requests => do
      let (reply, lexer) ← lexer.answer request
      let (replies, lexer) ← lexer.answers requests
      return (reply :: replies, lexer)

end CursorLexer

end Offside
