import Offside.Text.Combining
import Offside.Text.Invisible

/-!
# Quoted text

Text as it is shown for inspection: between double quotes, with the quote, the
backslash, and every character that would be invisible or join the one before it
escaped. All other characters stand for themselves.
-/

namespace Offside.Text

/-- A character by its code point, in hexadecimal. -/
def codePointEscape (char : Char) : List Char :=
  "\\u\x7b".toList ++ Nat.toDigits 16 char.toNat ++ ['\x7d']

/-- A character as it is written between quotes. -/
def quotedChar : Char → List Char
  | '\x22' => ['\x5c', '\x22']
  | '\x5c' => ['\x5c', '\x5c']
  | '\n' => ['\x5c', 'n']
  | '\x0d' => ['\x5c', 'r']
  | '\t' => ['\x5c', 't']
  | '\x00' => ['\x5c', '0']
  | char =>
      if isInvisible char || isCombining char then codePointEscape char else [char]

/-- A text between quotes. -/
def quoted (text : String) : String :=
  "\x22" ++ String.ofList (text.toList.flatMap quotedChar) ++ "\x22"

end Offside.Text
