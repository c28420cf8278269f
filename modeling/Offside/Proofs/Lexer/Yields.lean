import Offside.Lexer
import Offside.Proofs.Lexeme.Passage

/-!
# What a lexer yields

A lexer yields tokens in turn and then goes on as another lexer does. Between two
lines a lexer is known by the lines to come, their number and the depth; inside a
line also by the layout tokens it owes and by the text that is left. Here are the
moves of a lexer between these states.
-/

namespace Offside.Lexer

open Text Lexeme

/-- A lexer gives tokens in turn, and from there on does what the target does. -/
def Yields : Lexer → List Token → Lexer → Prop
  | lexer, [], target => lexer.next = target.next
  | lexer, token :: tokens, target =>
      ∃ after, lexer.next = (.ok token, after) ∧ Yields after tokens target

variable {lexer middle target : Lexer} {tokens more : List Token} {token : Token}

theorem Yields.refl (lexer : Lexer) : lexer.Yields [] lexer := rfl

theorem yields_of_next (produced : lexer.next = (.ok token, target)) :
    lexer.Yields [token] target :=
  ⟨target, produced, rfl⟩

theorem Yields.of_next_eq (same : lexer.next = middle.next) (yields : middle.Yields tokens target) :
    lexer.Yields tokens target := by
  cases tokens with
  | nil => exact same.trans yields
  | cons token tokens =>
      obtain ⟨after, produced, rest⟩ := yields
      exact ⟨after, same.trans produced, rest⟩

/-- Tokens are yielded one stretch after another. -/
theorem Yields.append (first : lexer.Yields tokens middle) (last : middle.Yields more target) :
    lexer.Yields (tokens ++ more) target := by
  induction tokens generalizing lexer with
  | nil => exact last.of_next_eq first
  | cons token tokens ih =>
      obtain ⟨after, produced, rest⟩ := first
      exact ⟨after, produced, ih rest⟩

section States

variable (layout : Layout) (current : Token) (remaining : List Line) (number depth : Nat)

/-- A lexer between two lines. It owes nothing. -/
def betweenLines : Lexer :=
  { layout, remaining, current, lineNumber := number, depth }

/-- A lexer inside a line. -/
def insideLine (owed : Int) (line rest : List Char) : Lexer :=
  { layout, remaining, current, reading := some { line, rest }, lineNumber := number, depth, owed }

/-! ## Between lines -/

theorem next_betweenLines :
    (betweenLines layout current remaining number depth).next =
      (match (betweenLines layout current remaining number depth).readLine remaining with
      | (.undecodable, lexer) => (.error .unreadableLine, lexer)
      | (.endOfInput, lexer) =>
          let (token, lexer) := lexer.close
          (.ok token, lexer)
      | (.content reading, lexer) =>
          match lexer.payOwed with
          | some (token, lexer) => (.ok token, lexer)
          | none => lexer.scanLine reading) := rfl

/-- Reading on depends on the lines that are read, not on those the lexer had. -/
theorem readLine_with_remaining (lexer : Lexer) (lines : List Line) :
    { lexer with remaining }.readLine lines = lexer.readLine lines := by
  induction lines generalizing lexer with
  | nil => rfl
  | cons line lines ih =>
      cases line with
      | undecodable => rfl
      | content line =>
          simp only [readLine]
          rw [← ih { lexer with lineNumber := lexer.lineNumber + 1 }]
          rfl

/-- A line without content is passed on the way to the next token. -/
theorem next_of_skipped {line : List Char} (skipped : hasContent line = false) :
    (betweenLines layout current (.content line :: remaining) number depth).next =
      (betweenLines layout current remaining (number + 1) depth).next := by
  have passed : (betweenLines layout current (.content line :: remaining) number depth).readLine
      (.content line :: remaining) =
      (betweenLines layout current remaining (number + 1) depth).readLine remaining := by
    simp only [readLine, skipped, Bool.false_eq_true, if_false]
    exact (readLine_with_remaining remaining
      (betweenLines layout current (.content line :: remaining) (number + 1) depth) remaining).symm
  rw [next_betweenLines, next_betweenLines, passed]

/-- A line with content is entered on the way to the next token. -/
theorem next_of_content {line : List Char} (content : hasContent line) :
    (betweenLines layout current (.content line :: remaining) number depth).next =
      (insideLine layout current remaining (number + 1) (layout.depth (leadingSpaces line))
        (depth - layout.depth (leadingSpaces line) : Int) line (lineContent line)).next := by
  have entered : (betweenLines layout current (.content line :: remaining) number depth).readLine
      (.content line :: remaining) =
      (.content ⟨line, lineContent line⟩,
        insideLine layout current remaining (number + 1) (layout.depth (leadingSpaces line))
          (depth - layout.depth (leadingSpaces line) : Int) line (lineContent line)) := by
    simp only [betweenLines, insideLine, readLine, content, enter, if_true, Int.zero_add]
  rw [next_betweenLines, entered]
  rfl

/-! ## Owed layout -/

variable (line rest : List Char)

theorem next_of_dedent (levels : Nat) :
    (insideLine layout current remaining number depth (levels + 1 : Nat) line rest).next =
      (.ok .dedent, insideLine layout current remaining number depth levels line rest) := by
  have owing : (0 : Int) < (levels + 1 : Nat) := Int.natCast_pos.mpr (Nat.succ_pos _)
  have paid : ((levels + 1 : Nat) : Int) - 1 = levels := by omega
  simp only [next, payOwed, insideLine, owing, if_true, paid]

theorem next_of_indent (levels : Nat) :
    (insideLine layout current remaining number depth (-(levels + 1 : Nat)) line rest).next =
      (.ok .indent, insideLine layout current remaining number depth (-levels) line rest) := by
  have owing : (-(levels + 1 : Nat) : Int) < 0 := by omega
  have notOwed : ¬(0 : Int) < -(levels + 1 : Nat) := by omega
  have paid : (-(levels + 1 : Nat) : Int) + 1 = -levels := by omega
  simp only [next, payOwed, insideLine, owing, notOwed, if_true, if_false, paid]

theorem yields_dedents (levels : Nat) :
    (insideLine layout current remaining number depth levels line rest).Yields
      (List.replicate levels .dedent)
      (insideLine layout current remaining number depth 0 line rest) := by
  induction levels with
  | zero => exact .refl _
  | succ levels ih => exact ⟨_, next_of_dedent _ _ _ _ _ _ _ levels, ih⟩

theorem yields_indents (levels : Nat) :
    (insideLine layout current remaining number depth (-levels) line rest).Yields
      (List.replicate levels .indent)
      (insideLine layout current remaining number depth 0 line rest) := by
  induction levels with
  | zero => exact .refl _
  | succ levels ih => exact ⟨_, next_of_indent _ _ _ _ _ _ _ levels, ih⟩

/-! ## Inside a line -/

theorem next_insideLine :
    (insideLine layout current remaining number depth 0 line rest).next =
      (insideLine layout current remaining number depth 0 line rest).scanLine { line, rest } := rfl

theorem next_of_space :
    (insideLine layout current remaining number depth 0 line (' ' :: rest)).next =
      (insideLine layout current remaining number depth 0 line rest).next := rfl

theorem next_of_spaces (count : Nat) :
    (insideLine layout current remaining number depth 0 line
      (List.replicate count ' ' ++ rest)).next =
      (insideLine layout current remaining number depth 0 line rest).next := by
  induction count with
  | zero => rfl
  | succ count ih =>
      rw [List.replicate_succ, List.cons_append, next_of_space]
      exact ih

theorem skipSpaces_of_ne {first : Char} (noSpace : first ≠ ' ') :
    (OpenLine.mk line (first :: rest)).skipSpaces = ⟨line, first :: rest⟩ := by
  have stays : (first :: rest).dropWhile (· == ' ') = first :: rest :=
    List.dropWhile_cons_of_neg fun same => noSpace (beq_iff_eq.mp same)
  simp only [OpenLine.skipSpaces, stays]

variable {rest}

theorem next_of_lexes {lexeme : List Char} (lexes : Lexes lexeme token rest) :
    (insideLine layout current remaining number depth 0 line (lexeme ++ rest)).next =
      (.ok token, insideLine layout current remaining number depth 0 line rest) := by
  obtain ⟨first, others, rfl, noSpace, _, scanned⟩ := lexes.scan_append
  rw [next_insideLine, scanLine, List.cons_append, skipSpaces_of_ne _ _ noSpace]
  simp only [scanned, insideLine]

/-- The end of a line and a comment give the newline. -/
theorem next_of_ended (ended : Ended rest) :
    (insideLine layout current remaining number depth 0 line rest).next =
      (.ok .newline, betweenLines layout current remaining number depth) := by
  rw [next_insideLine, scanLine]
  cases rest with
  | nil => rfl
  | cons first rest =>
      cases ended first rfl
      rfl

/-- A fault is reported, and not passed. -/
theorem next_of_faulty {fault : Fault} (faulty : Faulty rest fault) :
    (insideLine layout current remaining number depth 0 line rest).next =
      (.error ((insideLine layout current remaining number depth 0 line rest).faultError
        { line, rest } fault), insideLine layout current remaining number depth 0 line rest) := by
  obtain ⟨first, others, rfl, noSpace, failed⟩ := faulty.scan_eq
  rw [next_insideLine, scanLine, skipSpaces_of_ne _ _ noSpace]
  simp only [failed, insideLine]

/-- What scanning passes is yielded, token by token. -/
theorem yields_of_passes {passed : List Char} (passes : Passes passed tokens rest) :
    (insideLine layout current remaining number depth 0 line (passed ++ rest)).Yields tokens
      (insideLine layout current remaining number depth 0 line rest) := by
  induction passes with
  | done => exact .refl _
  | space _ ih => exact ih.of_next_eq (next_of_space _ _ _ _ _ _ _)
  | lexeme lexes _ ih =>
      rw [List.append_assoc]
      exact ⟨_, next_of_lexes _ _ _ _ _ _ lexes, ih⟩

/-! ## At the end of the input -/

theorem next_of_close :
    (betweenLines layout current [] number (depth + 1)).next =
      (.ok .dedent, betweenLines layout current [] number depth) := rfl

theorem next_of_end :
    (betweenLines layout current [] number 0).next =
      (.ok .eof, betweenLines layout current [] number 0) := rfl

/-- At the end of the input every open level is closed. -/
theorem yields_closing :
    (betweenLines layout current [] number depth).Yields (List.replicate depth .dedent)
      (betweenLines layout current [] number 0) := by
  induction depth with
  | zero => exact .refl _
  | succ depth ih => exact ⟨_, next_of_close _ _ _ _, ih⟩

end States

end Offside.Lexer
