import Offside.Lexer

/-!
# Work left to a lexer

A bound on the tokens that a lexer can still produce before it reports the end of
the input: owed and closing layout, a newline and one token for each character of
the line being read, and two tokens for each character of a line still to be read,
because an indentation of one space may have to be opened and closed again. Every
token other than the end of the input uses up some of it.
-/

namespace Offside

open Text Lexeme

/-- The most tokens that a line still to be read can give. -/
def Text.Line.work : Line → Nat
  | .content line => 2 * line.length
  | .undecodable => 0

namespace Lexer

/-- The most tokens that the lines still to be read can give. -/
def linesWork : List Line → Nat
  | [] => 0
  | line :: lines => line.work + linesWork lines

/-- The most tokens that the rest of the line being read can give. -/
def readingWork : Option OpenLine → Nat
  | none => 0
  | some reading => reading.rest.length + 1

/-- The most tokens that a lexer can still give before the end of the input. -/
def work (lexer : Lexer) : Nat :=
  linesWork lexer.remaining + lexer.owed.natAbs + lexer.depth + readingWork lexer.reading

/-- What a token uses up. -/
def cost : Token → Nat
  | .eof => 0
  | _ => 1

theorem work_payOwed {lexer after : Lexer} {token : Token}
    (paid : lexer.payOwed = some (token, after)) :
    after.work + cost token ≤ lexer.work := by
  unfold payOwed at paid
  split at paid
  · cases paid
    simp only [work, cost]
    omega
  split at paid
  · cases paid
    simp only [work, cost]
    omega
  · cases paid

theorem length_lineContent (line : List Char) :
    leadingSpaces line + (lineContent line).length = line.length := by
  rw [leadingSpaces, lineContent, ← List.length_append, List.takeWhile_append_dropWhile]

theorem lineContent_ne_nil {line : List Char} (content : hasContent line) :
    lineContent line ≠ [] := by
  intro empty
  simp [hasContent, empty, allBlank] at content

theorem work_enter (lexer : Lexer) {line : List Char} (remaining : List Line)
    (content : hasContent line) :
    (lexer.enter { line, rest := lineContent line } remaining).work ≤
      linesWork remaining + 2 * line.length + lexer.owed.natAbs + lexer.depth := by
  have bounded := lexer.layout.depth_le (leadingSpaces line)
  have parts := length_lineContent line
  have nonempty := List.length_pos_iff.mpr (lineContent_ne_nil content)
  simp only [enter, work, readingWork]
  omega

theorem work_readLine (lexer : Lexer) (lines : List Line) (idle : lexer.reading = none) :
    (lexer.readLine lines).2.work ≤
      linesWork lines + lexer.owed.natAbs + lexer.depth := by
  induction lines generalizing lexer with
  | nil => simp [readLine, work, idle, readingWork]
  | cons line lines ih =>
      cases line with
      | undecodable => simp [readLine, work, idle, readingWork, linesWork, Line.work]
      | content line =>
          simp only [readLine]
          split
          next content =>
            have entered := work_enter { lexer with lineNumber := lexer.lineNumber + 1 }
              lines content
            simp only [linesWork, Line.work] at entered ⊢
            omega
          next =>
            have later := ih { lexer with lineNumber := lexer.lineNumber + 1 } idle
            simp only [linesWork] at later ⊢
            omega

theorem reading_readLine {lexer after : Lexer} {lines : List Line} {reading : OpenLine}
    (found : lexer.readLine lines = (.content reading, after)) :
    after.reading = some reading := by
  induction lines generalizing lexer with
  | nil => cases found
  | cons line lines ih =>
      cases line with
      | undecodable => cases found
      | content line =>
          simp only [readLine] at found
          split at found
          · cases found
            rfl
          · exact ih found

theorem work_scanLine {lexer after : Lexer} {reading : OpenLine} {token : Token}
    (isOpen : lexer.reading = some reading)
    (scanned : lexer.scanLine reading = (.ok token, after)) :
    after.work + cost token ≤ lexer.work := by
  have skipped := (List.dropWhile_suffix (· == ' ') (l := reading.rest)).length_le
  have price : cost token ≤ 1 := by cases token <;> simp [cost]
  simp only [scanLine, OpenLine.skipSpaces] at scanned
  split at scanned
  · cases scanned
    simp only [work, isOpen, readingWork]
    omega
  next first rest same =>
    rw [same] at skipped
    split at scanned
    next read remains found =>
      cases scanned
      have shorter := (scan_suffix found).length_le
      simp only [work, isOpen, readingWork, List.length_cons] at skipped ⊢
      omega
    next =>
      cases scanned
      simp only [work, isOpen, readingWork]
      omega
    next => cases scanned

/-- Every token but the end of the input uses up some of the work. -/
theorem work_next {lexer after : Lexer} {token : Token}
    (produced : lexer.next = (.ok token, after)) :
    after.work + cost token ≤ lexer.work := by
  unfold next at produced
  split at produced
  next paid => cases produced; exact work_payOwed paid
  split at produced
  next reading isOpen => exact work_scanLine isOpen produced
  next idle =>
    have read := work_readLine lexer lexer.remaining idle
    have whole : linesWork lexer.remaining + lexer.owed.natAbs + lexer.depth = lexer.work := by
      simp [work, idle, readingWork]
    split at produced
    next => cases produced
    next ended found =>
      rw [found] at read
      simp only [close] at produced
      split at produced
      · cases produced
        simp only [work, cost] at read ⊢
        omega
      · cases produced
        simp only [work, cost] at read ⊢
        omega
    next reading entered found =>
      rw [found] at read
      split at produced
      next paid =>
        cases produced
        exact Nat.le_trans (work_payOwed paid) (whole ▸ read)
      next =>
        exact Nat.le_trans (work_scanLine (reading_readLine found) produced) (whole ▸ read)

end Lexer

end Offside
