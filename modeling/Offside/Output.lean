import Offside.Text.Utf8

/-!
# Output

Where printed text goes: a buffer, a buffer with limited room, the console, or
nowhere. A write that does not fit is stored as far as there is room, and the rest
is not accepted.
-/

namespace Offside

/-- A destination of printed text. Buffers keep the bytes that were written. -/
inductive Output where
  | buffer (stored : ByteArray)
  | limited (capacity : Nat) (stored : ByteArray)
  | silent
  | console

namespace Output

/-- A buffer that holds nothing yet. -/
def empty : Output := .buffer .empty

instance : Inhabited Output := ⟨.empty⟩

/-- A buffer that holds a text already. -/
def ofText (text : String) : Output := .buffer text.toUTF8

/-- An empty buffer for a limited number of bytes. -/
def ofCapacity (capacity : Nat) : Output := .limited capacity .empty

/-- An empty buffer, limited or not. -/
def ofLimit : Option Nat → Output
  | none => .empty
  | some capacity => .ofCapacity capacity

/-- The room that is left, where it is limited. -/
def room? : Output → Option Nat
  | .limited capacity stored => some (capacity - stored.size)
  | _ => none

/-- The number of bytes that a write of this many bytes would store. -/
def acceptable (output : Output) (size : Nat) : Nat :=
  match output.room? with
  | some room => min room size
  | none => size

/-- Whether no byte fits any more. -/
def isFull (output : Output) : Bool :=
  output.room? == some 0

/-- Writes as many of the bytes as there is room for. -/
def write (output : Output) (bytes : ByteArray) : Output :=
  let accepted := bytes.extract 0 (output.acceptable bytes.size)
  match output with
  | .buffer stored => .buffer (stored ++ accepted)
  | .limited capacity stored => .limited capacity (stored ++ accepted)
  | .silent => .silent
  | .console => .console

/-- Whether all of this many bytes would be stored. -/
def fits (output : Output) (size : Nat) : Bool :=
  output.acceptable size == size

/-- Writes pieces of a text one after another, up to the first one that does not fit,
and tells whether all of them did. -/
def writePieces (output : Output) : List String → Output × Bool
  | [] => (output, true)
  | piece :: pieces =>
      if output.fits piece.toUTF8.size then (output.write piece.toUTF8).writePieces pieces
      else (output.write piece.toUTF8, false)

/-- Forgets what a buffer holds. Other destinations have nothing to forget. -/
def clear : Output → Output
  | .buffer _ => .empty
  | output => output

/-- The bytes that were kept. -/
def stored : Output → ByteArray
  | .buffer stored => stored
  | .limited _ stored => stored
  | .silent | .console => .empty

/-- The text that was kept. -/
def captured (output : Output) : String :=
  Text.decodeCut output.stored

end Output

end Offside
