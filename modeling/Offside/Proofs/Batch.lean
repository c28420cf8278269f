import Offside.Proofs.Lexer.Driving

/-!
# Layout in one batch

The tokens of a whole source, stated line by line and without a lexer. Every line
with content has a depth and tokens of its own; between two lines stands the
layout that leads from one depth to the next, and the end closes what is open.
The lexer gives these tokens, one by one and all at once.
-/

namespace Offside

open Text Lexeme

/-- A line with content: its depth, and the tokens on it. -/
structure ProgramLine where
  depth : Nat
  tokens : List Token
  deriving DecidableEq, Repr

/-- The layout tokens between a line of one depth and a line of another. -/
def layoutShift (before after : Nat) : List Token :=
  List.replicate (after - before) .indent ++ List.replicate (before - after) .dedent

/-- The tokens of lines, each with its layout before it and a newline after it. -/
def linesTokens : Nat → List ProgramLine → List Token
  | _, [] => []
  | depth, line :: program =>
      layoutShift depth line.depth ++ line.tokens ++ .newline :: linesTokens line.depth program

/-- The depth after lines. -/
def depthAfter : Nat → List ProgramLine → Nat
  | depth, [] => depth
  | _, line :: program => depthAfter line.depth program

/-- The tokens of a program up to the end of the input. -/
def programTokens (program : List ProgramLine) : List Token :=
  linesTokens 0 program ++ List.replicate (depthAfter 0 program) .dedent ++ [.eof]

/-- The texts of the physical lines of a source. -/
def physicalLines (source : String) : List (List Char) :=
  (pieces (· == '\n') source.toList).map withoutTerminator

/-- Lines of white space and lines with nothing but a comment are skipped. -/
def isSkipped (line : List Char) : Bool :=
  line.all isBlank || (line.dropWhile (· == ' ')).head? == some '#'

/-- The physical lines with content. -/
def contentLines (source : String) : List (List Char) :=
  (physicalLines source).filter fun line => !isSkipped line

/-- The lines of a program whose tokens are known from the text of every line. -/
def programOf (width : Nat) (tokensOf : List Char → List Token) (lines : List (List Char)) :
    List ProgramLine :=
  lines.map fun line => { depth := leadingSpaces line / width, tokens := tokensOf line }

/-- Physical lines without a fault, and the program that they are the text of. -/
inductive Describes (layout : Layout) : List (List Char) → List ProgramLine → Prop where
  | nil : Describes layout [] []
  | skipped {line : List Char} {lines : List (List Char)} {program : List ProgramLine} :
      isSkipped line → Describes layout lines program → Describes layout (line :: lines) program
  | content {line : List Char} {tokens : List Token} {lines : List (List Char)}
      {program : List ProgramLine} :
      ¬isSkipped line → Scans line tokens → Describes layout lines program →
      Describes layout (line :: lines)
        ({ depth := layout.depth (leadingSpaces line), tokens } :: program)

theorem linesOfText_eq (source : String) :
    linesOfText source = (physicalLines source).map .content := by
  rw [physicalLines, List.map_map]
  rfl

theorem not_feed_of_not_mem {line : List Char} (noFeed : '\n' ∉ line) :
    ∀ char ∈ line, ¬(char == '\n') := by
  intro char member same
  exact noFeed (beq_iff_eq.mp same ▸ member)

/-- A text without a line feed is one line, if there is anything in it. -/
theorem physicalLines_of_not_mem {text : String} (noFeed : '\n' ∉ text.toList)
    (nonempty : text.toList ≠ []) : physicalLines text = [text.toList] := by
  rw [physicalLines, pieces_of_not_ended nonempty (not_feed_of_not_mem noFeed),
    List.map_singleton, withoutTerminator_of_not_mem noFeed]

theorem lineContent_eq_spaces (line : List Char) :
    List.replicate (leadingSpaces line) ' ' ++ lineContent line = line := by
  have spaces : line.takeWhile (· == ' ') = List.replicate (leadingSpaces line) ' ' := by
    apply List.eq_replicate_of_mem
    intro char taken
    have accepted := accept_of_mem_takeWhile taken
    exact beq_iff_eq.mp accepted
  rw [← spaces]
  exact List.takeWhile_append_dropWhile

theorem utf8Length_lineContent (line : List Char) :
    utf8Length line = leadingSpaces line + utf8Length (lineContent line) := by
  calc utf8Length line
      = utf8Length (List.replicate (leadingSpaces line) ' ' ++ lineContent line) := by
        rw [lineContent_eq_spaces]
    _ = leadingSpaces line + utf8Length (lineContent line) := by
        rw [utf8Length_append, utf8Length_spaces]

/-- The lexer skips the lines without content and no other. -/
theorem hasContent_eq (line : List Char) : hasContent line = !isSkipped line := by
  have spaces : (List.replicate (leadingSpaces line) ' ').all isBlank = true := by
    simp [List.all_replicate]
  have blank : line.all isBlank = allBlank (lineContent line) := by
    calc line.all isBlank
        = (List.replicate (leadingSpaces line) ' ' ++ lineContent line).all isBlank := by
          rw [lineContent_eq_spaces]
      _ = allBlank (lineContent line) := by
          rw [List.all_append, spaces, Bool.true_and, allBlank]
  rw [hasContent, isSkipped, blank, Bool.not_or]
  rfl

theorem hasContent_iff {line : List Char} : hasContent line ↔ ¬isSkipped line := by
  simp [hasContent_eq]

/-! ## What the lexer yields -/

namespace Lexer

variable (layout : Layout) (current : Token) (remaining : List Line) (number depth : Nat)

theorem yields_layoutShift (line rest : List Char) (before : Nat) :
    (insideLine layout current remaining number depth (before - depth : Int) line rest).Yields
      (layoutShift before depth)
      (insideLine layout current remaining number depth 0 line rest) := by
  rcases Nat.le_total before depth with deeper | shallower
  · have indents := yields_indents layout current remaining number depth line rest (depth - before)
    rw [Int.natCast_sub deeper, Int.neg_sub] at indents
    rw [layoutShift, Nat.sub_eq_zero_of_le deeper, List.replicate_zero, List.append_nil]
    exact indents
  · have dedents := yields_dedents layout current remaining number depth line rest (before - depth)
    rw [Int.natCast_sub shallower] at dedents
    rw [layoutShift, Nat.sub_eq_zero_of_le shallower, List.replicate_zero, List.nil_append]
    exact dedents

/-- Up to a place in a line with content, the layout of the line is yielded and
then what scanning passes. -/
theorem yields_before {line passed rest : List Char} {tokens : List Token}
    (content : ¬isSkipped line) (same : line = passed ++ rest)
    (passes : Passes passed tokens rest) :
    (betweenLines layout current (.content line :: remaining) number depth).Yields
      (layoutShift depth (layout.depth (leadingSpaces line)) ++ tokens)
      (insideLine layout current remaining (number + 1) (layout.depth (leadingSpaces line)) 0
        line rest) := by
  have entered := next_of_content layout current remaining number depth
    (hasContent_iff.mpr content)
  have paid := yields_layoutShift layout current remaining (number + 1)
    (layout.depth (leadingSpaces line)) line (lineContent line) depth
  have spaces := next_of_spaces layout current remaining (number + 1)
    (layout.depth (leadingSpaces line)) line (lineContent line) (leadingSpaces line)
  rw [lineContent_eq_spaces] at spaces
  have scanned := yields_of_passes layout current remaining (number + 1)
    (layout.depth (leadingSpaces line)) line passes
  rw [← same] at scanned
  exact (paid.append (scanned.of_next_eq spaces.symm)).of_next_eq entered

/-- Lines without a fault yield the tokens of their program. -/
theorem yields_lines {lines : List (List Char)} {program : List ProgramLine}
    (describes : Describes layout lines program) :
    (betweenLines layout current (lines.map .content ++ remaining) number depth).Yields
      (linesTokens depth program)
      (betweenLines layout current remaining (number + lines.length)
        (depthAfter depth program)) := by
  induction describes generalizing number depth with
  | nil => exact .refl _
  | @skipped line lines program skipped _ ih =>
      have noContent : hasContent line = false := by
        rw [hasContent_eq, skipped]
        rfl
      have passed := next_of_skipped layout current (lines.map .content ++ remaining) number depth
        noContent
      rw [List.length_cons, Nat.add_comm lines.length, ← Nat.add_assoc]
      exact (ih (number + 1) depth).of_next_eq passed
  | @content line tokens lines program content scans _ ih =>
      obtain ⟨passed, rest, same, passes, ended⟩ := scans
      have upTo := yields_before layout current (lines.map .content ++ remaining) number depth
        content same passes
      have newline := next_of_ended layout current (lines.map .content ++ remaining) (number + 1)
        (layout.depth (leadingSpaces line)) line ended
      rw [List.length_cons, Nat.add_comm lines.length, ← Nat.add_assoc]
      exact upTo.append ⟨_, newline, ih (number + 1) (layout.depth (leadingSpaces line))⟩

/-- A program is yielded with all its layout, and then the end of the input for
ever. -/
theorem yields_program {lines : List (List Char)} {program : List ProgramLine}
    (describes : Describes layout lines program) :
    (ofLines layout (lines.map .content)).Yields
      (linesTokens 0 program ++ List.replicate (depthAfter 0 program) .dedent)
      (betweenLines layout .eof [] lines.length 0) := by
  have upToEnd := yields_lines layout .eof [] 0 0 describes
  rw [List.append_nil, Nat.zero_add] at upToEnd
  exact upToEnd.append (yields_closing layout .eof lines.length (depthAfter 0 program))

end Lexer

/-! ## The whole source -/

variable {layout : Layout} {lines : List (List Char)} {program : List ProgramLine}

theorem Describes.programOf {tokensOf : List Char → List Token}
    (scans : ∀ line ∈ lines.filter (!isSkipped ·), Scans line (tokensOf line)) :
    Describes layout lines (programOf layout.width tokensOf (lines.filter (!isSkipped ·))) := by
  induction lines with
  | nil => exact .nil
  | cons line lines ih =>
      by_cases skipped : isSkipped line
      · rw [List.filter_cons_of_neg (by simp [skipped])] at scans ⊢
        exact .skipped skipped (ih scans)
      · rw [List.filter_cons_of_pos (by simp [skipped])] at scans ⊢
        obtain ⟨scansFirst, scans⟩ := List.forall_mem_cons.mp scans
        exact .content skipped scansFirst (ih scans)

theorem eof_not_mem_layoutShift (before after : Nat) : .eof ∉ layoutShift before after := by
  simp [layoutShift, List.mem_replicate]

/-- The end of the input is not among the tokens of the lines. -/
theorem Describes.eof_not_mem (describes : Describes layout lines program) (depth : Nat) :
    .eof ∉ linesTokens depth program := by
  induction describes generalizing depth with
  | nil => exact List.not_mem_nil
  | skipped _ _ ih => exact ih depth
  | content _ scans _ ih =>
      simp only [linesTokens, List.mem_append, List.mem_cons, not_or]
      exact ⟨⟨eof_not_mem_layoutShift _ _, scans.eof_not_mem⟩, by decide, ih _⟩

open Lexer in
theorem tokenizeLines_of_describes (describes : Describes layout lines program) :
    tokenizeLines layout (lines.map .content) = .ok (programTokens program) := by
  have running :
      Token.eof ∉ linesTokens 0 program ++ List.replicate (depthAfter 0 program) .dedent := by
    rw [List.mem_append, not_or]
    exact ⟨describes.eof_not_mem 0, by simp [List.mem_replicate]⟩
  rw [tokenizeLines_eq_upcoming, (yields_program layout describes).upcoming_eq running,
    upcoming_of_eof (next_of_end layout .eof lines.length)]
  rfl

open Lexer in
/-- Driving gives the tokens of the program in turn, and then the end of the input
as often as it is asked for. -/
theorem driven_of_describes (describes : Describes layout lines program) (count : Nat) :
    driven layout (lines.map .content) count =
      ((programTokens program ++ List.replicate count Token.eof).take (count + 1)).map
        Except.ok := by
  have yields := yields_program layout describes
  have stuck := next_of_end layout .eof lines.length
  have toEnd := yields.append (yields_of_next stuck)
  rw [toEnd.driven_eq (by simp), yields.outcomes_of_stuck stuck, programTokens, List.map_take,
    List.append_assoc, List.singleton_append, List.replicate_succ]
  simp only [List.map_append, List.map_cons, List.map_replicate]

/-- A source whose lines with content all scan has the tokens of its lines in one
batch, at once and one call at a time. -/
theorem tokenize_eq_batch (source : String) (width : Nat) (tokensOf : List Char → List Token)
    (scans : ∀ line ∈ contentLines source, Scans line (tokensOf line)) :
    tokenize source (.ofWidth width) =
        .ok (programTokens (programOf (max width 1) tokensOf (contentLines source))) ∧
      ∀ count, Lexer.driven (.ofWidth width) (linesOfText source) count =
        ((programTokens (programOf (max width 1) tokensOf (contentLines source)) ++
          List.replicate count Token.eof).take (count + 1)).map Except.ok := by
  have describes : Describes (.ofWidth width) (physicalLines source)
      (programOf (max width 1) tokensOf (contentLines source)) := .programOf scans
  constructor
  · rw [tokenize, linesOfText_eq]
    exact tokenizeLines_of_describes describes
  · rw [linesOfText_eq]
    exact driven_of_describes describes

/-- Two levels are opened at once and closed at once; a blank line, a comment and
an odd space do not matter. -/
theorem tokenize_eq_batch_of_jumps :
    tokenize "if x:\n\n    'a'==7\n #\n y" (.ofWidth 2) =
      .ok [.keyword .ifWord, .id "x", .char ':', .newline, .indent, .indent, .text "a",
        .comparator .equal, .number 7, .newline, .dedent, .dedent, .id "y", .newline, .eof] := by
  let tokensOf : List Char → List Token := fun line =>
    match leadingSpaces line with
    | 0 => [.keyword .ifWord, .id "x", .char ':']
    | 4 => [.text "a", .comparator .equal, .number 7]
    | _ => [.id "y"]
  have scans : ∀ line ∈ contentLines "if x:\n\n    'a'==7\n #\n y", Scans line (tokensOf line) := by
    decide +kernel
  exact (tokenize_eq_batch _ 2 tokensOf scans).1.trans (congrArg Except.ok (by decide +kernel))

end Offside
