import Offside.Proofs.Lexer.Due

/-!
# Line numbers

The line number of a lexer is the position, among all lines that can be decoded, of the line
that its token is on or stands before; at the end it is the number of these lines. A line
with content is finished by its newline, so the newlines that were given tell which line it
is. Errors are about the same line, and a line that cannot be decoded is not counted.
-/

namespace Offside

open Text

namespace Text

/-- A line with content comes after so many others with content, has this number among the
lines that can be decoded, and is followed by the remaining lines. -/
def StandsAt (lines : List Line) (finished : Nat) (line : List Char) (number : Nat)
    (remaining : List Line) : Prop :=
  hasContent line ∧ ∃ before, lines = before ++ .content line :: remaining ∧
    before.countP Line.hasContent = finished ∧ (readableLines before).length + 1 = number

/-- So many lines with content and so many that can be decoded come before the remaining
lines. -/
def HasRead (lines : List Line) (finished number : Nat) (remaining : List Line) : Prop :=
  ∃ before, lines = before ++ remaining ∧
    before.countP Line.hasContent = finished ∧ (readableLines before).length = number

variable {lines remaining : List Line} {finished number : Nat} {line : List Char}

theorem hasRead_nil (lines : List Line) : HasRead lines 0 0 lines :=
  ⟨[], rfl, rfl, rfl⟩

/-- A line that is read counts if it has content, and gets a number if it can be decoded. -/
theorem HasRead.next {first : Line} (read : HasRead lines finished number (first :: remaining)) :
    HasRead lines (finished + [first].countP Line.hasContent)
      (number + (readableLines [first]).length) remaining := by
  obtain ⟨before, rfl, rfl, rfl⟩ := read
  refine ⟨before ++ [first], (List.append_assoc before [first] remaining).symm, ?_, ?_⟩
  · exact List.countP_append
  · rw [readableLines, List.filter_append, List.length_append]
    rfl

theorem HasRead.skip (read : HasRead lines finished number (.content line :: remaining))
    (skipped : hasContent line = false) : HasRead lines finished (number + 1) remaining := by
  have uncounted : [Line.content line].countP Line.hasContent = 0 :=
    List.countP_cons_of_neg (Bool.eq_false_iff.mp skipped)
  have later := read.next
  rw [uncounted] at later
  exact later

theorem HasRead.standsAt (read : HasRead lines finished number (.content line :: remaining))
    (content : hasContent line) : StandsAt lines finished line (number + 1) remaining := by
  obtain ⟨before, same, counted, rfl⟩ := read
  exact ⟨content, before, same, counted, rfl⟩

theorem StandsAt.hasRead (stands : StandsAt lines finished line number remaining) :
    HasRead lines (finished + 1) number remaining := by
  obtain ⟨content, before, same, counted, rfl⟩ := stands
  have counts : [Line.content line].countP Line.hasContent = 1 := List.countP_cons_of_pos content
  have later := HasRead.next ⟨before, same, counted, rfl⟩
  rw [counts] at later
  exact later

/-- Behind the last line all of them are counted. -/
theorem HasRead.total (read : HasRead lines finished number []) :
    lines.countP Line.hasContent = finished ∧ (readableLines lines).length = number := by
  obtain ⟨before, rfl, counted, numbered⟩ := read
  rw [List.append_nil]
  exact ⟨counted, numbered⟩

end Text

namespace Lexer

open Lexeme

/-- The lexeme of a token is on a line. -/
def WrittenOn (line : List Char) (token : Token) : Prop :=
  ∃ before lexeme after, line = before ++ (lexeme ++ after) ∧ Lexes lexeme token after

/-- The line number that belongs to an outcome, after so many lines with content. -/
inductive Numbered (lines : List Line) (finished : Nat) : Except LexError Token → Nat → Prop where
  | lexeme {line : List Char} {number : Nat} {remaining : List Line} {token : Token} :
      StandsAt lines finished line number remaining → WrittenOn line token →
      Numbered lines finished (.ok token) number
  | layout {line : List Char} {number : Nat} {remaining : List Line} {token : Token} :
      StandsAt lines finished line number remaining → token ∈ [.indent, .dedent, .newline] →
      Numbered lines finished (.ok token) number
  | closing {token : Token} :
      lines.countP Line.hasContent = finished → token ∈ [.dedent, .eof] →
      Numbered lines finished (.ok token) (readableLines lines).length
  | fault {line : List Char} {number : Nat} {remaining : List Line} {error : LexError} :
      StandsAt lines finished line number remaining → error.line? = some number →
      Numbered lines finished (.error error) number
  | undecodable {number : Nat} {remaining : List Line} :
      HasRead lines finished number (.undecodable :: remaining) →
      Numbered lines finished (.error .unreadableLine) number

/-! ## Turns -/

/-- The lines that a lexer has read are counted: those with content by the newlines that were
given, those that can be decoded by its line number. -/
def Tracks (lines : List Line) (finished : Nat) (lexer : Lexer) : Prop :=
  match lexer.reading with
  | none => HasRead lines finished lexer.lineNumber lexer.remaining
  | some reading =>
      StandsAt lines finished reading.line lexer.lineNumber lexer.remaining ∧
        reading.rest <:+ reading.line

variable {lines : List Line} {finished : Nat} {lexer after : Lexer}
  {outcome : Except LexError Token}

theorem tracks_ofLines (layout : Layout) (lines : List Line) :
    Tracks lines 0 (ofLines layout lines) :=
  hasRead_nil lines

section States

variable {layout : Layout} {current : Token} {remaining : List Line} {number depth : Nat}
  {owed : Int} {line rest : List Char}

theorem tracks_betweenLines :
    Tracks lines finished (betweenLines layout current remaining number depth) ↔
      HasRead lines finished number remaining := Iff.rfl

theorem tracks_insideLine :
    Tracks lines finished (insideLine layout current remaining number depth owed line rest) ↔
      StandsAt lines finished line number remaining ∧ rest <:+ line := Iff.rfl

theorem tracks_skip (skipped : hasContent line = false)
    (tracks : Tracks lines finished
      (betweenLines layout current (.content line :: remaining) number depth)) :
    Tracks lines finished (betweenLines layout current remaining (number + 1) depth) :=
  HasRead.skip tracks skipped

theorem tracks_enter {depth' : Nat} (content : hasContent line)
    (tracks : Tracks lines finished
      (betweenLines layout current (.content line :: remaining) number depth)) :
    Tracks lines finished
      (insideLine layout current remaining (number + 1) depth' owed line (lineContent line)) :=
  ⟨HasRead.standsAt tracks content, List.dropWhile_suffix _⟩

theorem tracks_space
    (tracks : Tracks lines finished
      (insideLine layout current remaining number depth owed line (' ' :: rest))) :
    Tracks lines finished (insideLine layout current remaining number depth owed line rest) :=
  ⟨tracks.1, (List.suffix_cons ..).trans tracks.2⟩

end States

/-- A turn counts the lines that it passes. -/
theorem Turn.tracks (turn : Turn lexer outcome after) (tracks : Tracks lines finished lexer) :
    Tracks lines (finished + newlines [outcome]) after := by
  induction turn with
  | dedent levels => exact tracks
  | indent levels => exact tracks
  | space _ ih => exact ih (tracks_space tracks)
  | lexeme lexes =>
      rw [newlines_of_lexes lexes]
      exact ⟨tracks.1, (List.suffix_append ..).trans tracks.2⟩
  -- With its newline the line that the lexer was in becomes one of those it has read.
  | newline _ => exact (tracks_insideLine.mp tracks).1.hasRead
  | fault _ => exact tracks
  | skip skipped _ ih => exact ih (tracks_skip skipped tracks)
  | enter content _ ih => exact ih (tracks_enter content tracks)
  | undecodable => exact (tracks_betweenLines.mp tracks).next
  | close => exact tracks
  | ended => exact tracks

/-- After a turn the lexer has the line number that belongs to its outcome. -/
theorem Turn.numbered (turn : Turn lexer outcome after) (tracks : Tracks lines finished lexer) :
    Numbered lines finished outcome after.lineNumber := by
  induction turn with
  | dedent levels => exact .layout tracks.1 (by decide)
  | indent levels => exact .layout tracks.1 (by decide)
  | space _ ih => exact ih (tracks_space tracks)
  | lexeme lexes =>
      obtain ⟨stands, before, same⟩ := tracks_insideLine.mp tracks
      exact .lexeme stands ⟨before, _, _, same.symm, lexes⟩
  | newline _ => exact .layout tracks.1 (by decide)
  | @fault _ _ _ _ _ _ _ fault _ => exact .fault tracks.1 (by cases fault <;> rfl)
  | skip skipped _ ih => exact ih (tracks_skip skipped tracks)
  | enter content _ ih => exact ih (tracks_enter content tracks)
  | undecodable => exact .undecodable tracks
  | close =>
      obtain ⟨all, same⟩ := (tracks_betweenLines.mp tracks).total
      exact same ▸ .closing all (by decide)
  | ended =>
      obtain ⟨all, same⟩ := (tracks_betweenLines.mp tracks).total
      exact same ▸ .closing all (by decide)

theorem Turn.lineNumber_le (turn : Turn lexer outcome after) :
    lexer.lineNumber ≤ after.lineNumber := by
  induction turn with
  | space _ ih => exact ih
  | skip _ _ ih => exact Nat.le_of_succ_le ih
  | enter _ _ ih => exact Nat.le_of_succ_le ih
  | _ => exact Nat.le_refl _

/-! ## Calls -/

/-- An advance counts the lines that it passes, and the line number afterwards belongs to its
outcome. -/
theorem Tracks.advance (tracks : Tracks lines finished lexer) (settled : lexer.Settled) :
    Tracks lines (finished + newlines [lexer.advance.1]) lexer.advance.2 ∧
      Numbered lines finished lexer.advance.1 lexer.advance.2.lineNumber ∧
      lexer.lineNumber ≤ lexer.advance.2.lineNumber := by
  have turn := turn_next settled
  obtain ⟨current, advanced⟩ := exists_advance_eq lexer
  rw [advanced]
  exact ⟨turn.tracks tracks, turn.numbered tracks, turn.lineNumber_le⟩

theorem Tracks.afterCalls (tracks : Tracks lines finished lexer) (settled : lexer.Settled)
    (count : Nat) :
    Tracks lines (finished + newlines (lexer.outcomes count)) (lexer.afterCalls count) := by
  induction count generalizing lexer finished with
  | zero => exact tracks
  | succ count ih =>
      rw [outcomes, newlines_cons, ← Nat.add_assoc]
      exact ih (tracks.advance settled).1 (settled_advance settled)

theorem outcome_of_start_error {layout : Layout} {error : LexError}
    (failed : start layout lines = .error error) :
    (ofLines layout lines).advance.1 = .error error := by
  rw [start] at failed
  split at failed
  next => cases failed
  next advanced =>
    cases failed
    rw [advanced]

/-- A lexer that has started has counted the lines before its first token, which is no
newline. -/
theorem tracks_of_start {layout : Layout} {first : Lexer}
    (started : start layout lines = .ok first) :
    Tracks lines 0 first ∧ Numbered lines 0 (.ok first.current) first.lineNumber := by
  obtain ⟨token, advanced⟩ := start_eq_ok_iff.mp started
  have fresh := settled_ofLines layout lines
  obtain ⟨tracks, numbered, _⟩ := (tracks_ofLines layout lines).advance fresh
  have noNewline := (turn_next fresh).newlines_eq_zero rfl
  obtain ⟨current, same⟩ := exists_advance_eq (ofLines layout lines)
  rw [congrArg Prod.fst same, noNewline] at tracks
  rw [advanced] at tracks numbered
  rw [current_of_advance advanced]
  exact ⟨tracks, numbered⟩

/-- The first token, and the outcome of every later call, come with the line number that
belongs to them after the newlines given before, and so does the error if there is no first
token. The number never decreases. -/
theorem lineNumber_counts_readable_lines (bytes : List UInt8) (width : Nat) :
    (∀ error, start (.ofWidth width) (linesOfBytes bytes) = .error error →
        ∃ number, Numbered (linesOfBytes bytes) 0 (.error error) number) ∧
      ∀ first, start (.ofWidth width) (linesOfBytes bytes) = .ok first →
        Numbered (linesOfBytes bytes) 0 (.ok first.current) first.lineNumber ∧
          ∀ count,
            let lexer := first.afterCalls count
            Numbered (linesOfBytes bytes) (newlines (first.outcomes count)) lexer.advance.1
                lexer.advance.2.lineNumber ∧
              lexer.lineNumber ≤ lexer.advance.2.lineNumber := by
  constructor
  · intro error failed
    have fresh := settled_ofLines (.ofWidth width) (linesOfBytes bytes)
    obtain ⟨_, numbered, _⟩ := (tracks_ofLines (.ofWidth width) (linesOfBytes bytes)).advance fresh
    rw [outcome_of_start_error failed] at numbered
    exact ⟨_, numbered⟩
  · intro first started
    obtain ⟨tracks, numbered⟩ := tracks_of_start started
    have settled := settled_of_start started
    refine ⟨numbered, fun count => ?_⟩
    have later := tracks.afterCalls settled count
    rw [Nat.zero_add] at later
    exact (later.advance (settled_afterCalls settled count)).2

/-- A comment and a blank line count, a line that cannot be decoded does not. The indent
stands before the line with the fourth number, and what comes at the end has the number of
the last line. -/
theorem lineNumber_counts_readable_lines_of_mixed_lines :
    let bytes : List UInt8 := [0x23, 0x0A, 0x61, 0x0A, 0xFF, 0x0A, 0x0A, 0x20, 0x62, 0x0A, 0x0A]
    let layout := Layout.ofWidth 1
    let first := (ofLines layout (linesOfBytes bytes)).advance.2
    start layout (linesOfBytes bytes) = .ok first ∧
      Numbered (linesOfBytes bytes) 0 (.ok (.id "a")) 2 ∧
      Numbered (linesOfBytes bytes) 1 (.error .unreadableLine) 2 ∧
      Numbered (linesOfBytes bytes) 1 (.ok .indent) 4 ∧
      Numbered (linesOfBytes bytes) 2 (.ok .dedent) 5 := by
  intro bytes layout first
  have started : start layout (linesOfBytes bytes) = .ok first := by decide +kernel
  obtain ⟨numbered, later⟩ := (lineNumber_counts_readable_lines bytes 1).2 first started
  have numberedAt (count finished : Nat) (outcome : Except LexError Token) (number : Nat)
      (finishes : newlines (first.outcomes count) = finished)
      (advanced : (first.afterCalls count).advance.1 = outcome)
      (read : (first.afterCalls count).advance.2.lineNumber = number) :
      Numbered (linesOfBytes bytes) finished outcome number := by
    rw [← finishes, ← advanced, ← read]
    exact (later count).1
  have starts : first.current = .id "a" ∧ first.lineNumber = 2 := by decide +kernel
  rw [starts.1, starts.2] at numbered
  refine ⟨started, numbered, ?_, ?_, ?_⟩
  · exact numberedAt 1 _ _ _ (by decide +kernel) (by decide +kernel) (by decide +kernel)
  · exact numberedAt 2 _ _ _ (by decide +kernel) (by decide +kernel) (by decide +kernel)
  · exact numberedAt 5 _ _ _ (by decide +kernel) (by decide +kernel) (by decide +kernel)

end Lexer

end Offside
