import Offside.Proofs.Batch
import Offside.Proofs.Lexeme.Spelling

/-!
# Printing a program

A program is printed line by line: the spaces of its depth, its tokens with at least
one space between two of them, and a line feed. Tokenizing the printed text gives
back the program.
-/

namespace Offside

open Text Lexeme

/-- A token that can be written, and the quotes to write it with. -/
structure PrintedToken where
  token : Token
  printable : Printable token
  quote : Quote

/-- The text of a token. -/
def PrintedToken.text (printed : PrintedToken) : List Char :=
  spelling printed.quote printed.token

/-- A line with at least one token. Before every token but the first stand a space
and as many more as are given with it. -/
structure PrintedLine where
  depth : Nat
  first : PrintedToken
  others : List (Nat × PrintedToken)

/-- Tokens with the spaces before them. -/
def spacedText (tokens : List (Nat × PrintedToken)) : List Char :=
  tokens.flatMap fun (more, printed) => List.replicate (more + 1) ' ' ++ printed.text

namespace PrintedLine

/-- The tokens on the line. -/
def tokens (line : PrintedLine) : List Token :=
  line.first.token :: line.others.map (·.2.token)

/-- The line of a program that is printed. -/
def program (line : PrintedLine) : ProgramLine :=
  { depth := line.depth, tokens := line.tokens }

/-- The text of a line after its indentation. -/
def body (line : PrintedLine) : List Char :=
  line.first.text ++ spacedText line.others

/-- The text of a line, without the line feed that ends it. -/
def text (width : Nat) (line : PrintedLine) : List Char :=
  List.replicate (width * line.depth) ' ' ++ line.body

end PrintedLine

/-- The text of lines. -/
def printedText (width : Nat) (lines : List PrintedLine) : List Char :=
  lines.flatMap fun line => line.text width ++ ['\n']

/-- The source that a program is printed as. -/
def printProgram (width : Nat) (lines : List PrintedLine) : String :=
  String.ofList (printedText width lines)

/-! ## The tokens of a printed line -/

theorem separated_spacedText (tokens : List (Nat × PrintedToken)) :
    ∀ next ∈ (spacedText tokens).head?, next = ' ' := by
  cases tokens with
  | nil => exact fun next follows => nomatch follows
  | cons entry tokens => exact fun next follows => (Option.some.inj follows).symm

theorem scans_spacedText (tokens : List (Nat × PrintedToken)) :
    Scans (spacedText tokens) (tokens.map (·.2.token)) := by
  induction tokens with
  | nil => exact ⟨[], [], rfl, .done [], fun first follows => nomatch follows⟩
  | cons entry tokens ih =>
      have lexes := entry.2.printable.lexes entry.2.quote (separated_spacedText tokens)
      rw [spacedText, List.flatMap_cons, List.append_assoc]
      exact (Scans.cons lexes ih).spaces (entry.1 + 1)

namespace PrintedLine

variable (line : PrintedLine) (width : Nat)

theorem scans_text : Scans (line.text width) line.tokens := by
  have lexes := line.first.printable.lexes line.first.quote (separated_spacedText line.others)
  exact (Scans.cons lexes (scans_spacedText line.others)).spaces (width * line.depth)

/-! ## A printed line as a physical line -/

theorem exists_body_eq_cons :
    ∃ first more, line.body = first :: more ∧ ¬isBlank first ∧ first ≠ '#' := by
  obtain ⟨first, more, same, visible, noComment⟩ :=
    line.first.printable.exists_cons line.first.quote
  refine ⟨first, more ++ spacedText line.others, ?_, visible, noComment⟩
  rw [body, PrintedToken.text, same, List.cons_append]

theorem lineContent_text : lineContent (line.text width) = line.body := by
  obtain ⟨first, more, same, visible, _⟩ := line.exists_body_eq_cons
  have noSpace : ¬(first == ' ') := by
    intro space
    rw [beq_iff_eq.mp space] at visible
    exact visible isBlank_space
  rw [lineContent, text, List.dropWhile_append_of_pos (by simp [List.mem_replicate]), same]
  exact List.dropWhile_cons_of_neg noSpace

theorem leadingSpaces_text : leadingSpaces (line.text width) = width * line.depth := by
  have whole := congrArg List.length (lineContent_eq_spaces (line.text width))
  rw [lineContent_text, text, List.length_append, List.length_append, List.length_replicate,
    List.length_replicate] at whole
  exact Nat.add_right_cancel whole

theorem not_isSkipped_text : ¬isSkipped (line.text width) := by
  obtain ⟨first, more, same, visible, noComment⟩ := line.exists_body_eq_cons
  rw [← hasContent_iff, hasContent, lineContent_text, same]
  simp [allBlank, visible, noComment]

theorem ne_lineEnd_of_mem_text {char : Char} (member : char ∈ line.text width) :
    char ≠ '\n' ∧ char ≠ '\x0d' := by
  have spaces {count : Nat} (member : char ∈ List.replicate count ' ') :
      char ≠ '\n' ∧ char ≠ '\x0d' := by
    rw [List.eq_of_mem_replicate member]
    decide
  rcases List.mem_append.mp member with indentation | member
  · exact spaces indentation
  rcases List.mem_append.mp member with first | member
  · exact line.first.printable.ne_lineEnd line.first.quote first
  · obtain ⟨entry, _, member⟩ := List.mem_flatMap.mp member
    rcases List.mem_append.mp member with gap | other
    · exact spaces gap
    · exact entry.2.printable.ne_lineEnd entry.2.quote other

end PrintedLine

/-! ## The whole program -/

/-- The physical lines of a printed program are the lines that were printed. -/
theorem physicalLines_printProgram (width : Nat) (lines : List PrintedLine) :
    physicalLines (printProgram width lines) = lines.map (·.text width) := by
  rw [physicalLines, printProgram, String.toList_ofList]
  induction lines with
  | nil => rfl
  | cons line lines ih =>
      have within : ∀ char ∈ line.text width, ¬(char == '\n') := by
        intro char member feed
        exact (line.ne_lineEnd_of_mem_text width member).1 (beq_iff_eq.mp feed)
      have noReturn : '\x0d' ∉ line.text width := by
        intro member
        exact (line.ne_lineEnd_of_mem_text width member).2 rfl
      rw [printedText, List.flatMap_cons, List.append_assoc, List.singleton_append,
        pieces_append_cons within (beq_self_eq_true '\n'), List.map_cons, List.map_cons,
        withoutTerminator_append noReturn]
      exact congrArg _ ih

theorem describes_printed {layout : Layout} {width : Nat} (same : layout.width = width)
    (lines : List PrintedLine) :
    Describes layout (lines.map (·.text width)) (lines.map PrintedLine.program) := by
  induction lines with
  | nil => exact .nil
  | cons line lines ih =>
      have depth : layout.depth (leadingSpaces (line.text width)) = line.depth := by
        rw [line.leadingSpaces_text, Layout.depth, ← same,
          Nat.mul_div_cancel_left _ layout.width_pos]
      have describes := Describes.content (line.not_isSkipped_text width) (line.scans_text width) ih
      rw [depth] at describes
      exact describes

/-- Tokenizing a printed program gives the tokens of its lines, with the layout of
their depths. -/
theorem tokenize_printProgram {width : Nat} (positive : 1 ≤ width) (lines : List PrintedLine) :
    tokenize (printProgram width lines) (.ofWidth width) =
      .ok (programTokens (lines.map PrintedLine.program)) := by
  have same : (Layout.ofWidth width).width = width := Nat.max_eq_left positive
  rw [tokenize, linesOfText_eq, physicalLines_printProgram]
  exact tokenizeLines_of_describes (describes_printed same lines)

/-- Either quote, a jump over a level and a text with what has to be escaped. -/
theorem tokenize_printProgram_of_quotes :
    1 ≤ 3 ∧
      tokenize "if  'it\\'s'\n      \"a\\n\\\\\" <= 2147483647\n" (.ofWidth 3) =
        .ok [.keyword .ifWord, .text "it's", .newline, .indent, .indent, .text "a\n\\",
          .comparator .lessOrEqual, .number 2147483647, .newline, .dedent, .dedent, .eof] := by
  let lines : List PrintedLine :=
    [{ depth := 0
       first := { token := .keyword .ifWord, printable := trivial, quote := .single }
       others := [(1, { token := .text "it's", printable := trivial, quote := .single })] },
     { depth := 2
       first := { token := .text "a\n\\", printable := trivial, quote := .double }
       others :=
         [(0, { token := .comparator .lessOrEqual, printable := trivial, quote := .double }),
           (0, { token := .number 2147483647, printable := And.intro (by decide) (by decide),
                 quote := .double })] }]
  have printed :
      printProgram 3 lines = "if  'it\\'s'\n      \"a\\n\\\\\" <= 2147483647\n" := by
    decide +kernel
  have read := tokenize_printProgram (by decide : 1 ≤ 3) lines
  rw [printed] at read
  exact ⟨by decide, read⟩

end Offside
