import Offside.Text.CodeRange

/-!
# Blank characters

The characters with the Unicode property `White_Space`. A line of nothing but
these has no content, whatever its indentation.
-/

namespace Offside.Text

/-- The code points with the property `White_Space`. -/
def blankRanges : List CodeRange :=
  [⟨0x09, 0x0D⟩, ⟨0x20, 0x20⟩, ⟨0x85, 0x85⟩, ⟨0xA0, 0xA0⟩, ⟨0x1680, 0x1680⟩,
    ⟨0x2000, 0x200A⟩, ⟨0x2028, 0x2029⟩, ⟨0x202F, 0x202F⟩, ⟨0x205F, 0x205F⟩,
    ⟨0x3000, 0x3000⟩]

/-- A character is blank when its code point lies in one of the ranges. -/
def isBlank (char : Char) : Bool :=
  inRanges blankRanges char

@[simp] theorem isBlank_space : isBlank ' ' = true := by decide

/-- Nothing in the text stands out from the background. -/
def allBlank (chars : List Char) : Bool :=
  chars.all isBlank

end Offside.Text
