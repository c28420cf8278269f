import Offside.Token

/-!
# Words and numbers

A word is a maximal run of characters outside the reserved set, and is a reserved
word of the language or a name. A number is a maximal run of ASCII digits, and
has to fit in 32 bits with a sign.
-/

namespace Offside.Lexeme

/-- The characters that end a word: the symbols of the language, the space that
separates tokens and the mark that starts a comment. -/
def reserved : List Char :=
  ['.', ',', '(', ')', '+', '-', '*', '/', ':', '<', '>', '=', '!', ' ', '#']

/-- Whether a character ends a word. -/
def isReserved (char : Char) : Bool :=
  reserved.contains char

/-- Whether a character continues a word. -/
def isWordChar (char : Char) : Bool :=
  !isReserved char

/-- The token of a word: the reserved word so spelled, or else a name. -/
def wordToken (spelling : String) : Token :=
  match Keyword.ofText? spelling with
  | some word => .keyword word
  | none => .id spelling

/-- The value of a run of decimal digits. -/
def digitsValue (digits : List Char) : Nat :=
  digits.foldl (fun value digit => 10 * value + (digit.toNat - '0'.toNat)) 0

/-- The largest value of a number token. -/
def largestNumber : Nat := 2147483647

/-- The number token of a run of digits, unless its value is too large. -/
def numberToken? (digits : List Char) : Option Token :=
  let value := digitsValue digits
  if value ≤ largestNumber then some (.number (Int32.ofNat value)) else none

end Offside.Lexeme
