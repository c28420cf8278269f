import Offside.Proofs.Cursor.Scanning
import Offside.Proofs.Lexer.Due

/-!
# Following a lexer

A reader with a cursor follows a lexer: it has read as many lines, owes as much layout, and stands
before the part that the lexer has left of its line. On a source whose lines a word can measure
it keeps doing so through every turn of the lexer, and nothing traps it on the way.
-/

namespace Offside

open Text Lexeme

namespace CursorLexer

/-! ## The ways to the next token -/

section Steps

variable {reader after : CursorLexer} {rest line : List Char} {first : Char} {lines : List Line}
  {otherwise : Checked (Except LexError Token × CursorLexer)}

theorem payFirst_of_pos (owing : 0 < reader.pending) (fits : reader.pending < 2 ^ 63) :
    reader.payFirst otherwise =
      .ok (.ok .dedent, { reader with pending := reader.pending - 1 }) := by
  rw [payFirst, takePending, if_pos owing, Word.signed_of_lt (by omega) (by omega)]
  rfl

theorem payFirst_of_neg (owing : reader.pending < 0) (fits : -2 ^ 63 < reader.pending) :
    reader.payFirst otherwise =
      .ok (.ok .indent, { reader with pending := reader.pending + 1 }) := by
  rw [payFirst, takePending, if_neg (by omega), if_pos owing,
    Word.signed_of_lt (by omega) (by omega)]
  rfl

theorem payFirst_of_zero (settled : reader.pending = 0) :
    reader.payFirst otherwise = otherwise := by
  rw [payFirst, takePending, if_neg (by omega), if_neg (by omega)]
  rfl

theorem nextToken_of_pos (running : reader.finished = false) (owing : 0 < reader.pending)
    (fits : reader.pending < 2 ^ 63) :
    reader.nextToken = .ok (.ok .dedent, { reader with pending := reader.pending - 1 }) := by
  rw [nextToken, if_neg (Bool.eq_false_iff.mp running), payFirst_of_pos owing fits]

theorem nextToken_of_neg (running : reader.finished = false) (owing : reader.pending < 0)
    (fits : -2 ^ 63 < reader.pending) :
    reader.nextToken = .ok (.ok .indent, { reader with pending := reader.pending + 1 }) := by
  rw [nextToken, if_neg (Bool.eq_false_iff.mp running), payFirst_of_neg owing fits]

theorem StandsBefore.skipSpaces_of_ne_space (stands : reader.StandsBefore rest)
    (noSpace : ∀ next ∈ rest.head?, next ≠ ' ') : reader.skipSpaces = .ok reader := by
  have nothing : rest.takeWhile (· == ' ') = [] := by
    cases rest with
    | nil => rfl
    | cons next rest => exact List.takeWhile_cons_of_neg (by simpa using noSpace next rfl)
  rw [stands.skipSpaces_eq, nothing]
  rfl

/-- A space is passed on the way to the next token. -/
theorem nextToken_of_space (running : reader.finished = false) (settled : reader.pending = 0)
    (stands : reader.StandsBefore (' ' :: rest)) :
    reader.nextToken = (reader.passing [' ']).nextToken := by
  have spaced : reader.StandsBefore ([' '] ++ rest) := stands
  have passed := spaced.passing
  have same : reader.skipSpaces = (reader.passing [' ']).skipSpaces := by
    rw [stands.skipSpaces_eq, passed.skipSpaces_eq, List.takeWhile_cons_of_pos rfl]
    simp only [CursorLexer.passing, utf8Length_cons, utf8Length_nil, Nat.add_zero, Nat.add_assoc]
  have settled' : (reader.passing [' ']).pending = 0 := settled
  have running' : (reader.passing [' ']).finished = false := running
  simp only [nextToken, running, running', payFirst_of_zero settled, payFirst_of_zero settled',
    Bool.false_eq_true, if_false, same]

/-- Before a lexeme the layout is paid first. -/
theorem nextToken_of_ne_space (running : reader.finished = false)
    (stands : reader.StandsBefore (first :: rest)) (noSpace : first ≠ ' ') :
    reader.nextToken = reader.payFirst reader.scanToken := by
  have within : reader.skipSpaces = .ok reader := by
    apply stands.skipSpaces_of_ne_space
    rintro next ⟨⟩
    exact noSpace
  simp only [nextToken, running, Bool.false_eq_true, if_false, within, Checked.ok_bind,
    stands.rest_eq]

theorem nextToken_eq_scanToken (running : reader.finished = false) (settled : reader.pending = 0)
    (stands : reader.StandsBefore (first :: rest)) (noSpace : first ≠ ' ') :
    reader.nextToken = reader.scanToken := by
  rw [nextToken_of_ne_space running stands noSpace, payFirst_of_zero settled]

/-- The end of a line is its newline, unless that has been given. -/
theorem nextToken_of_nil (running : reader.finished = false) (settled : reader.pending = 0)
    (stands : reader.StandsBefore []) :
    reader.nextToken =
      if reader.line = [] then reader.nextLine else .ok (.ok .newline, reader.clearLine) := by
  have within : reader.skipSpaces = .ok reader :=
    stands.skipSpaces_of_ne_space fun next found => nomatch found
  simp only [nextToken, running, Bool.false_eq_true, if_false, payFirst_of_zero settled, within,
    Checked.ok_bind, stands.rest_eq]
  cases reader.line <;> rfl

/-! ## The ways to the next line -/

theorem nextLine_of_undecodable (ahead : reader.remaining = .undecodable :: lines) :
    reader.nextLine = .ok (.error .unreadableLine, { reader with remaining := lines }) := by
  rw [nextLine, ahead]
  rfl

theorem nextLine_of_skipped (ahead : reader.remaining = .content line :: lines)
    (skipped : hasContent line = false) :
    reader.nextLine =
      { reader with remaining := lines, lineNumber := reader.lineNumber + 1 }.nextLine := by
  rw [nextLine, ahead, pullLine, skipped]
  rfl

theorem nextLine_of_content (ahead : reader.remaining = .content line :: lines)
    (content : hasContent line)
    (entered : { reader with remaining := lines, lineNumber := reader.lineNumber + 1 }.enter line =
      .ok after) :
    reader.nextLine = after.payFirst after.scanToken := by
  rw [nextLine, ahead, pullLine, content]
  simp only [if_true, entered, Checked.ok_bind]
  rfl

theorem finishToken_of_pos (deep : 0 < reader.depth) (fits : reader.depth < 2 ^ 64) :
    reader.finishToken = .ok (.ok .dedent, { reader with depth := reader.depth - 1 }) := by
  have closed : Word.unsigned (reader.depth - 1) = .ok (reader.depth - 1) :=
    Word.unsigned_sub deep fits
  rw [finishToken, if_pos deep, closed]
  rfl

theorem finishToken_of_zero (flat : reader.depth = 0) :
    reader.finishToken = .ok (.ok .eof, reader) := by
  rw [finishToken, if_neg (by omega)]
  rfl

/-- Where no lines are left, it closes what is open, now and from then on. -/
theorem nextToken_of_no_lines (settled : reader.pending = 0) (stands : reader.StandsBefore [])
    (left : reader.line = []) (last : reader.remaining = []) :
    reader.nextToken = { reader with finished := true }.finishToken := by
  by_cases finished : reader.finished = true
  · have same : { reader with finished := true } = reader := by
      rw [← finished]
    rw [nextToken, if_pos finished, same]
  · have running : reader.finished = false := by simpa using finished
    rw [nextToken_of_nil running settled stands, if_pos left, nextLine, last]
    rfl

/-- A line is entered with its change of depth, if a word can measure it. -/
theorem enter_eq (short : utf8Length line < 2 ^ 63) (shallow : reader.depth < 2 ^ 63)
    (settled : reader.pending = 0) (positive : 0 < reader.width) :
    reader.enter line =
      .ok { reader with
        pending := (reader.depth - (leadingSpaces line / reader.width : Nat) : Int)
        depth := leadingSpaces line / reader.width
        indent := leadingSpaces line
        line := lineContent line
        cursor := 0 } := by
  have whole := utf8Length_lineContent line
  have spaces : utf8Length line - utf8Length (lineContent line) = leadingSpaces line := by omega
  have indent : Word.unsigned (utf8Length line - utf8Length (lineContent line)) =
      .ok (leadingSpaces line) := by
    rw [Word.unsigned_sub (by omega) (by omega), spaces]
  have less : leadingSpaces line / reader.width ≤ leadingSpaces line := Nat.div_le_self _ _
  generalize quotient : leadingSpaces line / reader.width = depth at less ⊢
  have now : Word.signed depth = .ok (depth : Int) := Word.signed_of_lt (by omega) (by omega)
  have before : Word.signed reader.depth = .ok (reader.depth : Int) :=
    Word.signed_of_lt (by omega) (by omega)
  have difference : Word.signed (reader.depth - depth) = .ok (reader.depth - depth : Int) :=
    Word.signed_of_lt (by omega) (by omega)
  simp only [enter, indent, Word.divide_of_pos positive, quotient, now, before, difference, settled,
    Int.zero_add, Checked.ok_bind]
  rfl

end Steps

/-! ## Turn by turn -/

open Lexer (Turn insideLine betweenLines)

/-- Where a reader is in the line that a lexer is reading. -/
def Place (reader : CursorLexer) : Option OpenLine → Prop
  | some reading =>
      reader.line ≠ [] ∧ reader.indent + utf8Length reader.line = utf8Length reading.line ∧
        reader.StandsBefore reading.rest
  | none => reader.line = [] ∧ reader.StandsBefore []

/-- The place is in the line and nowhere else. -/
theorem Place.congr {reader other : CursorLexer} {reading : Option OpenLine}
    (place : reader.Place reading) (line : other.line = reader.line)
    (cursor : other.cursor = reader.cursor) (indent : other.indent = reader.indent) :
    other.Place reading := by
  have moved {rest : List Char} (stands : reader.StandsBefore rest) : other.StandsBefore rest := by
    obtain ⟨passed, short⟩ := stands
    rw [← line, ← cursor] at passed
    rw [← line, ← indent] at short
    exact ⟨passed, short⟩
  cases reading with
  | none =>
      obtain ⟨left, stands⟩ := place
      exact ⟨line.trans left, moved stands⟩
  | some reading =>
      obtain ⟨nonempty, whole, stands⟩ := place
      rw [← line, ← indent] at whole
      exact ⟨line ▸ nonempty, whole, moved stands⟩

/-- A reader is where a lexer is, and all that it counts is short of a word. -/
structure Follows (reader : CursorLexer) (lexer : Lexer) : Prop where
  width : reader.width = lexer.layout.width
  remaining : reader.remaining = lexer.remaining
  current : reader.current = lexer.current
  lineNumber : reader.lineNumber = lexer.lineNumber
  depth : reader.depth = lexer.depth
  pending : reader.pending = lexer.owed
  place : reader.Place lexer.reading
  finished : reader.finished → lexer.remaining = [] ∧ lexer.reading = none
  short : ∀ line, .content line ∈ lexer.remaining → utf8Length line < 2 ^ 63
  shallow : lexer.depth < 2 ^ 63
  owing : -2 ^ 63 < lexer.owed ∧ lexer.owed < 2 ^ 63

variable {reader : CursorLexer} {lexer after : Lexer} {outcome : Except LexError Token}

theorem Follows.running_of_reading (follows : reader.Follows lexer) {reading : OpenLine}
    (inLine : lexer.reading = some reading) : reader.finished = false := by
  by_contra finished
  have idle := (follows.finished (by simpa using finished)).2
  rw [inLine] at idle
  cases idle

theorem Follows.running_of_remaining (follows : reader.Follows lexer) {line : Line}
    {lines : List Line} (ahead : lexer.remaining = line :: lines) : reader.finished = false := by
  by_contra finished
  have idle := (follows.finished (by simpa using finished)).1
  rw [ahead] at idle
  cases idle

theorem absurd_finished {claim : Prop} (running : reader.finished = false)
    (finished : reader.finished) : claim :=
  absurd (running.symm.trans finished) Bool.false_ne_true

section Moves

variable {layout : Layout} {current : Token} {remaining : List Line} {number depth : Nat}
  {owed : Int} {line part rest : List Char} {first : Line}

theorem Follows.passing
    (follows : reader.Follows (insideLine layout current remaining number depth owed line
      (part ++ rest)))
    (stands : reader.StandsBefore (part ++ rest)) :
    (reader.passing part).Follows (insideLine layout current remaining number depth owed line
      rest) := by
  obtain ⟨nonempty, whole, _⟩ := follows.place
  exact { follows with
    place := ⟨nonempty, whole, stands.passing⟩
    finished := absurd_finished (follows.running_of_reading rfl) }

theorem Follows.clearLine
    (follows : reader.Follows (insideLine layout current remaining number depth 0 line rest)) :
    reader.clearLine.Follows (betweenLines layout current remaining number depth) := by
  obtain ⟨_, _, stands⟩ := follows.place
  have short : reader.indent < 2 ^ 63 := Nat.lt_of_le_of_lt (Nat.le_add_right _ _) stands.short
  exact { follows with
    place := ⟨rfl, ⟨[], rfl, rfl⟩, short⟩
    finished := absurd_finished (follows.running_of_reading rfl) }

theorem Follows.owing_less {levels : Int}
    (follows : reader.Follows (insideLine layout current remaining number depth owed line rest))
    (low : -2 ^ 63 < levels) (high : levels < 2 ^ 63) :
    { reader with pending := levels }.Follows
      (insideLine layout current remaining number depth levels line rest) :=
  { follows with
    pending := rfl
    place := follows.place.congr rfl rfl rfl
    owing := ⟨low, high⟩ }

/-- Both count the same columns, one from the start of the line and one from its end. -/
theorem Follows.faultError_eq
    (follows : reader.Follows (insideLine layout current remaining number depth owed line rest))
    (fault : Fault) :
    reader.faultError fault =
      (insideLine layout current remaining number depth owed line rest).faultError
        { line, rest } fault := by
  obtain ⟨_, whole, stands⟩ := follows.place
  have parts := stands.cursor_add
  have column : reader.indent + reader.cursor + 1 = utf8Length line - utf8Length rest + 1 := by
    simp only at whole parts
    omega
  have number : reader.lineNumber = number := follows.lineNumber
  cases fault with
  | unterminated => rw [faultError, column, number]; rfl
  | tooLarge digits => rw [faultError, number]; rfl

theorem Follows.nextToken_eq_nextLine
    (follows : reader.Follows (betweenLines layout current remaining number depth))
    (running : reader.finished = false) : reader.nextToken = reader.nextLine := by
  obtain ⟨left, stands⟩ := follows.place
  rw [nextToken_of_nil running follows.pending stands, if_pos left]

/-- A line is left behind, whether it is counted or not. -/
theorem Follows.behind
    (follows : reader.Follows (betweenLines layout current (first :: remaining) number depth))
    (counted : Nat) :
    { reader with remaining, lineNumber := counted }.Follows
      (betweenLines layout current remaining counted depth) := by
  exact { follows with
    remaining := rfl
    lineNumber := rfl
    place := follows.place.congr rfl rfl rfl
    finished := absurd_finished (follows.running_of_remaining rfl)
    short := fun line member => follows.short line (List.mem_cons_of_mem _ member) }

theorem Follows.at_end {levels : Nat}
    (follows : reader.Follows (betweenLines layout current [] number depth))
    (closing : levels ≤ depth) :
    { reader with finished := true, depth := levels }.Follows
      (betweenLines layout current [] number levels) :=
  { follows with
    depth := rfl
    place := follows.place.congr rfl rfl rfl
    finished := fun _ => ⟨rfl, rfl⟩
    shallow := Nat.lt_of_le_of_lt closing follows.shallow }

/-- A line is entered, with its change of depth owed. -/
theorem Follows.exists_enter
    (follows : reader.Follows (betweenLines layout current remaining number depth))
    (running : reader.finished = false) (content : hasContent line)
    (short : utf8Length line < 2 ^ 63) :
    ∃ entered, reader.enter line = .ok entered ∧
      entered.Follows (insideLine layout current remaining number
        (layout.depth (leadingSpaces line)) (depth - layout.depth (leadingSpaces line) : Int) line
        (lineContent line)) := by
  have width : reader.width = layout.width := follows.width
  have deep : reader.depth = depth := follows.depth
  have shallow : depth < 2 ^ 63 := follows.shallow
  have positive : 0 < reader.width := width ▸ layout.width_pos
  refine ⟨_, enter_eq short (deep ▸ shallow) follows.pending positive, ?_⟩
  have whole := (utf8Length_lineContent line).symm
  have less := layout.depth_le (leadingSpaces line)
  have same : leadingSpaces line / reader.width = layout.depth (leadingSpaces line) := by
    rw [width]
    rfl
  rw [same, deep]
  generalize layout.depth (leadingSpaces line) = entered at less ⊢
  exact { follows with
    depth := rfl
    pending := rfl
    place := ⟨Lexer.lineContent_ne_nil content, whole, ⟨[], rfl, rfl⟩, whole ▸ short⟩
    finished := absurd_finished running
    shallow := show entered < 2 ^ 63 by omega
    owing := show -2 ^ 63 < (depth - entered : Int) ∧ (depth - entered : Int) < 2 ^ 63 by omega }

/-- On the way to the next token a line with content is entered. -/
theorem Follows.exists_within
    (follows : reader.Follows (betweenLines layout current (.content line :: remaining) number
      depth))
    (content : hasContent line) :
    ∃ within : CursorLexer, reader.nextToken = within.nextToken ∧
      within.Follows (insideLine layout current remaining (number + 1)
        (layout.depth (leadingSpaces line)) (depth - layout.depth (leadingSpaces line) : Int) line
        (lineContent line)) := by
  have running := follows.running_of_remaining rfl
  obtain ⟨within, enters, follows'⟩ := (follows.behind (number + 1)).exists_enter running content
    (follows.short line List.mem_cons_self)
  have counted : reader.lineNumber = number := follows.lineNumber
  rw [← counted] at enters
  obtain ⟨_, _, stands⟩ := follows'.place
  obtain ⟨first, more, starts⟩ := List.exists_cons_of_ne_nil (Lexer.lineContent_ne_nil content)
  have noSpace := Lexer.ne_space_of_mem_head? (starts ▸ rfl : first ∈ (lineContent line).head?)
  refine ⟨within, ?_, follows'⟩
  rw [follows.nextToken_eq_nextLine running, nextLine_of_content follows.remaining content enters]
  exact (nextToken_of_ne_space (follows'.running_of_reading rfl) (starts ▸ stands)
    (by simpa using noSpace)).symm

end Moves

/-- Whatever a lexer does next, a reader that follows it does the same and follows it further. -/
theorem Follows.exists_nextToken (turn : Turn lexer outcome after)
    (follows : reader.Follows lexer) :
    ∃ next, reader.nextToken = .ok (outcome, next) ∧ next.Follows after := by
  induction turn generalizing reader with
  | dedent levels =>
      have pending : reader.pending = (levels + 1 : Nat) := follows.pending
      have fits : ((levels + 1 : Nat) : Int) < 2 ^ 63 := follows.owing.2
      have paid : reader.pending - 1 = levels := by omega
      rw [nextToken_of_pos (follows.running_of_reading rfl) (by omega) (by omega), paid]
      exact ⟨_, rfl, follows.owing_less (by omega) (by omega)⟩
  | indent levels =>
      have pending : reader.pending = -(levels + 1 : Nat) := follows.pending
      have fits : -2 ^ 63 < (-(levels + 1 : Nat) : Int) := follows.owing.1
      have paid : reader.pending + 1 = -levels := by omega
      rw [nextToken_of_neg (follows.running_of_reading rfl) (by omega) (by omega), paid]
      exact ⟨_, rfl, follows.owing_less (by omega) (by omega)⟩
  | space _ ih =>
      obtain ⟨_, _, stands⟩ := follows.place
      rw [nextToken_of_space (follows.running_of_reading rfl) follows.pending stands]
      exact ih (follows.passing stands)
  | lexeme lexes =>
      obtain ⟨_, _, stands⟩ := follows.place
      obtain ⟨first, more, rfl, noSpace, _⟩ := lexes.scan_append
      refine ⟨_, ?_, follows.passing stands⟩
      rw [nextToken_eq_scanToken (follows.running_of_reading rfl) follows.pending stands noSpace]
      exact stands.scanToken_of_lexes lexes
  | @newline _ _ _ _ _ _ rest ended =>
      obtain ⟨nonempty, _, stands⟩ := follows.place
      have running := follows.running_of_reading rfl
      refine ⟨reader.clearLine, ?_, follows.clearLine⟩
      cases rest with
      | nil => rw [nextToken_of_nil running follows.pending stands, if_neg nonempty]
      | cons first rest =>
          cases ended first rfl
          rw [nextToken_eq_scanToken running follows.pending stands (by decide)]
          exact stands.scanToken_hash
  | fault faulty =>
      obtain ⟨_, _, stands⟩ := follows.place
      obtain ⟨first, more, rfl, noSpace, _⟩ := faulty.scan_eq
      refine ⟨reader, ?_, follows⟩
      rw [nextToken_eq_scanToken (follows.running_of_reading rfl) follows.pending stands noSpace,
        stands.scanToken_of_faulty faulty, follows.faultError_eq]
  | @skip layout current remaining number depth line _ _ skipped _ ih =>
      have running := follows.running_of_remaining rfl
      have behind := follows.behind (number + 1)
      have counted : reader.lineNumber = number := follows.lineNumber
      rw [follows.nextToken_eq_nextLine running, nextLine_of_skipped follows.remaining skipped,
        counted, ← behind.nextToken_eq_nextLine running]
      exact ih behind
  | enter content _ ih =>
      obtain ⟨within, same, follows'⟩ := follows.exists_within content
      rw [same]
      exact ih follows'
  | @undecodable layout current remaining number depth =>
      have running := follows.running_of_remaining rfl
      obtain rfl : reader.lineNumber = number := follows.lineNumber
      refine ⟨{ reader with remaining }, ?_, follows.behind reader.lineNumber⟩
      rw [follows.nextToken_eq_nextLine running, nextLine_of_undecodable follows.remaining]
  | @close layout current number depth =>
      obtain ⟨left, stands⟩ := follows.place
      have deep : reader.depth = depth + 1 := follows.depth
      have shallow : depth + 1 < 2 ^ 63 := follows.shallow
      have closed : reader.depth - 1 = depth := by omega
      refine ⟨{ reader with finished := true, depth := reader.depth - 1 }, ?_, ?_⟩
      · rw [nextToken_of_no_lines follows.pending stands left follows.remaining]
        exact finishToken_of_pos (show 0 < reader.depth by omega)
          (show reader.depth < 2 ^ 64 by omega)
      · rw [closed]
        exact follows.at_end (Nat.le_succ depth)
  | ended =>
      obtain ⟨left, stands⟩ := follows.place
      have flat : reader.depth = 0 := follows.depth
      have same : { reader with finished := true, depth := 0 } =
          { reader with finished := true } := by
        rw [← flat]
      refine ⟨{ reader with finished := true, depth := 0 }, ?_, follows.at_end (Nat.le_refl 0)⟩
      rw [nextToken_of_no_lines follows.pending stands left follows.remaining, same]
      exact finishToken_of_zero flat

end CursorLexer

end Offside
