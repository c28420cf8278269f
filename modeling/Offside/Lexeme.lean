import Offside.Lexeme.Literal
import Offside.Lexeme.Word

/-!
# Lexemes

Scanning of one lexeme at the start of the rest of a line. The first character
decides: a quote opens a text literal, a digit a number, a hash mark ends the
line, and anything else is a word, a two-character comparison or a single symbol.
-/

namespace Offside.Lexeme

/-- What makes a lexeme unreadable. -/
inductive Fault where
  /-- A text literal has no closing quote. -/
  | unterminated
  /-- The run of digits is too large for a number. -/
  | tooLarge (digits : List Char)
  deriving DecidableEq, Repr

/-- Outcome of scanning one lexeme. -/
inductive Scan where
  /-- A token, and what follows its lexeme. -/
  | token (token : Token) (rest : List Char)
  /-- A comment: nothing more on this line counts. -/
  | comment
  | fault (fault : Fault)
  deriving DecidableEq, Repr

/-- Scans a number whose first digit is given. -/
def scanNumber (first : Char) (rest : List Char) : Scan :=
  let digits := first :: rest.takeWhile Char.isDigit
  match numberToken? digits with
  | some token => .token token (rest.dropWhile Char.isDigit)
  | none => .fault (.tooLarge digits)

/-- Scans a two-character comparison or a single symbol. -/
def scanSymbol (first : Char) : List Char → Scan
  | [] => .token (.char first) []
  | second :: rest =>
      match Comparator.ofSymbols? first second with
      | some sign => .token (.comparator sign) rest
      | none => .token (.char first) (second :: rest)

/-- Scans the lexeme that starts with the given character. -/
def scan (first : Char) (rest : List Char) : Scan :=
  if isQuote first then
    match readItems first rest with
    | some (value, after) => .token (.text (String.ofList value)) after
    | none => .fault .unterminated
  else if first.isDigit then scanNumber first rest
  else if first = '#' then .comment
  else if isReserved first then scanSymbol first rest
  else
    .token (wordToken (String.ofList (first :: rest.takeWhile isWordChar)))
      (rest.dropWhile isWordChar)

/-- What follows a scanned lexeme is a suffix of what followed its first character:
every lexeme has at least one. -/
theorem scan_suffix {first : Char} {rest after : List Char} {token : Token}
    (scanned : scan first rest = .token token after) : after <:+ rest := by
  unfold scan at scanned
  split at scanned
  · split at scanned
    next value remains read =>
      obtain ⟨rfl, rfl⟩ := Scan.token.inj scanned
      exact (readItems_suffix read).1
    next => cases scanned
  split at scanned
  · unfold scanNumber at scanned
    simp only at scanned
    split at scanned
    next => 
      obtain ⟨rfl, rfl⟩ := Scan.token.inj scanned
      exact List.dropWhile_suffix _
    next => cases scanned
  split at scanned
  · cases scanned
  split at scanned
  · unfold scanSymbol at scanned
    split at scanned
    next =>
      obtain ⟨rfl, rfl⟩ := Scan.token.inj scanned
      exact List.suffix_rfl
    next =>
      split at scanned
      next =>
        obtain ⟨rfl, rfl⟩ := Scan.token.inj scanned
        exact List.suffix_cons _ _
      next =>
        obtain ⟨rfl, rfl⟩ := Scan.token.inj scanned
        exact List.suffix_rfl
  · obtain ⟨rfl, rfl⟩ := Scan.token.inj scanned
    exact List.dropWhile_suffix _

end Offside.Lexeme
