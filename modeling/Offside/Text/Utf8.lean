/-!
# Lengths and cuts in UTF-8

Positions in source text and the room of a limited output are counted in UTF-8
bytes, while text itself is kept as characters. This module has the byte length
of a run of characters, the bytes of a text, and the text of a byte sequence that
may have been cut in the middle of a character.
-/

namespace Offside.Text

/-- Number of UTF-8 bytes of a run of characters. -/
def utf8Length : List Char → Nat
  | [] => 0
  | char :: chars => char.utf8Size + utf8Length chars

@[simp] theorem utf8Length_nil : utf8Length [] = 0 := rfl

@[simp] theorem utf8Length_cons (char : Char) (chars : List Char) :
    utf8Length (char :: chars) = char.utf8Size + utf8Length chars := rfl

@[simp] theorem utf8Length_append (left right : List Char) :
    utf8Length (left ++ right) = utf8Length left + utf8Length right := by
  induction left with
  | nil => simp
  | cons char chars ih => simp [ih, Nat.add_assoc]

theorem length_le_utf8Length (chars : List Char) : chars.length ≤ utf8Length chars := by
  induction chars with
  | nil => simp
  | cons char chars ih =>
      have := char.utf8Size_pos
      simp only [List.length_cons, utf8Length_cons]
      omega

theorem utf8Length_spaces (count : Nat) : utf8Length (List.replicate count ' ') = count := by
  induction count with
  | zero => rfl
  | succ count ih =>
      rw [List.replicate_succ, utf8Length_cons, ih, Nat.add_comm]
      rfl

theorem size_utf8Encode (chars : List Char) : chars.utf8Encode.size = utf8Length chars := by
  rw [List.utf8Encode, List.size_toByteArray]
  induction chars with
  | nil => rfl
  | cons char chars ih =>
      rw [List.flatMap_cons, List.length_append, ih, String.length_utf8EncodeChar, utf8Length_cons]

/-- The characters of a text have as many bytes as the text. -/
theorem utf8Length_toList (text : String) : utf8Length text.toList = text.utf8ByteSize := by
  rw [← size_utf8Encode, ← String.toByteArray_ofList, String.ofList_toList]
  rfl

/-- The bytes of a text in UTF-8. -/
def bytes (text : String) : List UInt8 :=
  text.toUTF8.data.toList

theorem bytes_eq_flatMap (text : String) :
    bytes text = text.toList.flatMap String.utf8EncodeChar := by
  have encoded : text.toUTF8 = text.toList.utf8Encode := by
    rw [← String.toByteArray_ofList, String.ofList_toList]
    rfl
  rw [bytes, encoded, List.utf8Encode, List.data_toByteArray]

/-- The bytes of a text are decoded to the text. -/
theorem fromUTF8?_toUTF8 (text : String) : String.fromUTF8? text.toUTF8 = some text :=
  dif_pos text.isValidUTF8

/-- The text of bytes whose last character may be cut short: whole characters
stand for themselves, and a cut one for the replacement character U+FFFD. -/
def decodeCut (bytes : ByteArray) : String :=
  let wholeBefore (dropped : Nat) : Option String :=
    (String.fromUTF8? (bytes.extract 0 (bytes.size - dropped))).map (· ++ "\ufffd")
  String.fromUTF8? bytes
    |>.or (wholeBefore 1)
    |>.or (wholeBefore 2)
    |>.or (wholeBefore 3)
    |>.getD "\ufffd"

end Offside.Text
