import Offside.Proofs.Batch

/-!
# Where lexical errors stand

A fault has a place: a physical line with content, and the text of that line that
scanning passes before it. There is an error exactly when there is such a place,
the error is that of the first place in the source, and the lexer yields all
tokens before the place first.
-/

namespace Offside

open Text Lexeme Lexer

/-- A place where a lexeme should start and a fault stands: the number of the
physical line, counted from one, and the text on the line before the fault. -/
structure FaultSite where
  number : Nat
  passed : List Char
  fault : Fault
  deriving DecidableEq, Repr

namespace FaultSite

/-- Among the lines there is such a place. -/
def Occurs (lines : List (List Char)) (site : FaultSite) : Prop :=
  ∃ before line after tokens rest,
    lines = before ++ line :: after ∧ site.number = before.length + 1 ∧ ¬isSkipped line ∧
      line = site.passed ++ rest ∧ Passes site.passed tokens rest ∧ Faulty rest site.fault

/-- The order of the source: by line, and on a line by the bytes before the fault. -/
def NotAfter (site other : FaultSite) : Prop :=
  site.number < other.number ∨
    site.number = other.number ∧ utf8Length site.passed ≤ utf8Length other.passed

/-- The first place of a fault in the source. -/
def IsFirst (lines : List (List Char)) (site : FaultSite) : Prop :=
  site.Occurs lines ∧ ∀ other : FaultSite, other.Occurs lines → site.NotAfter other

/-- The error for a fault. The column of a text literal is that of its quote, counted
from one in bytes; a number is quoted as it is written. -/
def error (site : FaultSite) : LexError :=
  match site.fault with
  | .unterminated => .unterminatedText site.number (utf8Length site.passed + 1)
  | .tooLarge digits => .numberTooLarge (String.ofList digits) site.number

/-- The tokens before a place are those of the lines before it, the layout of its
line, and those before it on the line. -/
def Follows (layout : Layout) (lines : List (List Char)) (site : FaultSite)
    (tokens : List Token) : Prop :=
  ∃ before line after program onLine rest,
    lines = before ++ line :: after ∧ site.number = before.length + 1 ∧
      Describes layout before program ∧ line = site.passed ++ rest ∧
      Passes site.passed onLine rest ∧
      tokens = linesTokens 0 program ++
        layoutShift (depthAfter 0 program) (layout.depth (leadingSpaces line)) ++ onLine

end FaultSite

/-- Lines of a source cut at the first fault: the lines before its line have a
program, and its line is passed up to the fault. -/
structure FirstFault (layout : Layout) (lines : List (List Char)) where
  before : List (List Char)
  line : List Char
  after : List (List Char)
  lines_eq : lines = before ++ line :: after
  program : List ProgramLine
  describes : Describes layout before program
  content : ¬isSkipped line
  passed : List Char
  rest : List Char
  line_eq : line = passed ++ rest
  tokens : List Token
  passes : Passes passed tokens rest
  fault : Fault
  faulty : Faulty rest fault

namespace FirstFault

variable {layout : Layout} {lines : List (List Char)}

/-- The place of the first fault. -/
def site (first : FirstFault layout lines) : FaultSite :=
  { number := first.before.length + 1, passed := first.passed, fault := first.fault }

/-- The tokens before the first fault. -/
def preceding (first : FirstFault layout lines) : List Token :=
  linesTokens 0 first.program ++
    (layoutShift (depthAfter 0 first.program) (layout.depth (leadingSpaces first.line)) ++
      first.tokens)

/-- A line without a fault in front leaves the first fault where it is. -/
def cons (first : FirstFault layout lines) {line : List Char} {program : List ProgramLine}
    (describes : Describes layout (line :: first.before) program) :
    FirstFault layout (line :: lines) :=
  { first with
    before := line :: first.before
    lines_eq := congrArg (line :: ·) first.lines_eq
    program
    describes }

/-- The lines are all without a fault, or there is a first one. -/
theorem describes_or_nonempty (layout : Layout) (lines : List (List Char)) :
    (∃ program, Describes layout lines program) ∨ Nonempty (FirstFault layout lines) := by
  induction lines with
  | nil => exact .inl ⟨[], .nil⟩
  | cons line lines ih =>
      by_cases skipped : isSkipped line
      · rcases ih with ⟨program, describes⟩ | ⟨⟨first⟩⟩
        · exact .inl ⟨program, .skipped skipped describes⟩
        · exact .inr ⟨first.cons (.skipped skipped first.describes)⟩
      rcases scans_or_faulty line with ⟨tokens, scans⟩ |
        ⟨passed, tokens, rest, fault, line_eq, passes, faulty⟩
      · rcases ih with ⟨program, describes⟩ | ⟨⟨first⟩⟩
        · exact .inl ⟨_, .content skipped scans describes⟩
        · exact .inr ⟨first.cons (.content skipped scans first.describes)⟩
      · exact .inr ⟨{
          before := []
          line
          after := lines
          lines_eq := rfl
          program := []
          describes := .nil
          content := skipped
          passed, rest, line_eq, tokens, passes, fault, faulty }⟩

theorem occurs (first : FirstFault layout lines) : first.site.Occurs lines :=
  ⟨first.before, first.line, first.after, first.tokens, first.rest, first.lines_eq, rfl,
    first.content, first.line_eq, first.passes, first.faulty⟩

theorem follows (first : FirstFault layout lines) :
    first.site.Follows layout lines first.preceding :=
  ⟨first.before, first.line, first.after, first.program, first.tokens, first.rest, first.lines_eq,
    rfl, first.describes, first.line_eq, first.passes, (List.append_assoc _ _ _).symm⟩

end FirstFault

/-- A line without a fault has no place of one. -/
theorem Describes.not_faulty {layout : Layout} {lines : List (List Char)}
    {program : List ProgramLine} (describes : Describes layout lines program)
    {line passed rest : List Char} {tokens : List Token} {fault : Fault} (member : line ∈ lines)
    (content : ¬isSkipped line) (same : line = passed ++ rest)
    (passes : Passes passed tokens rest) : ¬Faulty rest fault := by
  induction describes with
  | nil => cases member
  | skipped skipped _ ih =>
      rcases List.mem_cons.mp member with rfl | member
      · exact (content skipped).elim
      · exact ih member
  | content _ scans _ ih =>
      rcases List.mem_cons.mp member with rfl | member
      · exact scans.not_faulty same passes
      · exact ih member

namespace FaultSite

variable {layout : Layout} {lines : List (List Char)} {site other : FaultSite}

theorem Occurs.not_describes (occurs : site.Occurs lines) {program : List ProgramLine} :
    ¬Describes layout lines program := by
  intro describes
  obtain ⟨before, line, after, tokens, rest, rfl, _, content, same, passes, faulty⟩ := occurs
  exact describes.not_faulty (by simp) content same passes faulty

/-- On a line there is one place at most. -/
theorem Occurs.eq_of_number_eq (occurs : site.Occurs lines) (occurs' : other.Occurs lines)
    (same : site.number = other.number) : site = other := by
  obtain ⟨before, line, after, tokens, rest, linesEq, number, _, lineEq, passes, faulty⟩ := occurs
  obtain ⟨before', line', after', tokens', rest', linesEq', number', _, lineEq', passes',
    faulty'⟩ := occurs'
  have sameLength : before.length = before'.length := by omega
  have sameLines : before ++ line :: after = before' ++ line' :: after' :=
    linesEq.symm.trans linesEq'
  obtain ⟨rfl, sameRest⟩ := List.append_inj sameLines sameLength
  obtain ⟨rfl, rfl⟩ := List.cons.inj sameRest
  obtain ⟨samePassed, rfl, rfl⟩ := passes.unique passes' (.inr ⟨_, faulty⟩) (.inr ⟨_, faulty'⟩)
    (lineEq.symm.trans lineEq')
  have sameFault := faulty.unique faulty'
  cases site
  cases other
  simp_all

end FaultSite

/-- Of two cuts of a list, the item behind the shorter front is in the longer one. -/
theorem mem_of_append_eq {before before' after rest : List (List Char)} {line : List Char}
    (same : before ++ line :: after = before' ++ rest) (shorter : before.length < before'.length) :
    line ∈ before' := by
  have found : (before' ++ rest)[before.length]? = some line := by
    rw [← same]
    simp
  rw [List.getElem?_append_left shorter] at found
  exact List.mem_of_getElem? found

/-- No other place of a fault is in front of the first one. -/
theorem FirstFault.isFirst {layout : Layout} {lines : List (List Char)}
    (first : FirstFault layout lines) : first.site.IsFirst lines := by
  refine ⟨first.occurs, fun other occurs => ?_⟩
  rcases Nat.lt_trichotomy first.site.number other.number with earlier | same | later
  · exact .inl earlier
  · rw [first.occurs.eq_of_number_eq occurs same]
    exact .inr ⟨rfl, Nat.le_refl _⟩
  · obtain ⟨before, line, after, tokens, rest, linesEq, number, content, lineEq, passes, faulty⟩ :=
      occurs
    have inFront : before.length < first.before.length := by
      have later : other.number < first.before.length + 1 := later
      omega
    have member := mem_of_append_eq (linesEq.symm.trans first.lines_eq) inFront
    exact (first.describes.not_faulty member content lineEq passes faulty).elim


theorem FaultSite.IsFirst.eq {lines : List (List Char)} {site other : FaultSite}
    (first : site.IsFirst lines) (first' : other.IsFirst lines) : site = other := by
  apply first.1.eq_of_number_eq first'.1
  have notAfter := first.2 other first'.1
  have notAfter' := first'.2 site first.1
  simp only [FaultSite.NotAfter] at notAfter notAfter'
  omega

/-! ## What the lexer does at a fault -/

namespace FirstFault

open Lexer

variable {layout : Layout} {lines : List (List Char)} (first : FirstFault layout lines)

/-- The lexer inside the line of the first fault, having passed what is before it. -/
def lexer : Lexer :=
  insideLine layout .eof (first.after.map .content) (first.before.length + 1)
    (layout.depth (leadingSpaces first.line)) 0 first.line first.rest

theorem yields_preceding :
    (ofLines layout (lines.map .content)).Yields first.preceding first.lexer := by
  have upToLine := yields_lines layout .eof ((first.line :: first.after).map .content) 0 0
    first.describes
  rw [← List.map_append, ← first.lines_eq, Nat.zero_add, List.map_cons] at upToLine
  exact upToLine.append (yields_before layout .eof (first.after.map .content) first.before.length
    (depthAfter 0 first.program) first.content first.line_eq first.passes)

/-- The lexer reports the first fault with its place. -/
theorem next_lexer : first.lexer.next = (.error first.site.error, first.lexer) := by
  have failed := next_of_faulty layout .eof (first.after.map .content) (first.before.length + 1)
    (layout.depth (leadingSpaces first.line)) first.line first.faulty
  rw [lexer, failed]
  have column : utf8Length first.line - utf8Length first.rest = utf8Length first.passed := by
    rw [first.line_eq, utf8Length_append, Nat.add_sub_cancel]
  congr 2
  simp only [faultError, FaultSite.error, site, insideLine, OpenLine.column]
  cases first.fault <;> simp only [column]

theorem eof_not_mem_preceding : .eof ∉ first.preceding := by
  simp only [preceding, List.mem_append, not_or]
  exact ⟨first.describes.eof_not_mem 0, eof_not_mem_layoutShift _ _, first.passes.eof_not_mem⟩

theorem tokenizeLines_eq : tokenizeLines layout (lines.map .content) = .error first.site.error := by
  rw [tokenizeLines_eq_upcoming, first.yields_preceding.upcoming_eq first.eof_not_mem_preceding,
    upcoming_of_error first.next_lexer]
  rfl

/-- Driving gives all tokens before the fault, and then its error. -/
theorem driven_eq :
    driven layout (lines.map .content) first.preceding.length =
      first.preceding.map Except.ok ++ [.error first.site.error] := by
  have yields := first.yields_preceding
  rcases first.preceding.eq_nil_or_concat with none | ⟨_, _, some⟩
  · rw [none] at yields ⊢
    exact driven_of_error (yields.trans first.next_lexer) 0
  · rw [yields.driven_eq (by simp [some]), yields.outcomes_eq 1, outcomes_of_error first.next_lexer]
    rfl

end FirstFault

/-- Tokenizing fails exactly when there is a fault in the source, with the error of
the first one, and all tokens before it are yielded first. -/
theorem tokenize_eq_error_iff (source : String) (width : Nat) :
    (∀ error, tokenize source (.ofWidth width) = .error error ↔
        ∃ site : FaultSite, site.IsFirst (physicalLines source) ∧ error = site.error) ∧
      ((∃ error, tokenize source (.ofWidth width) = .error error) ↔
        ∃ site : FaultSite, site.Occurs (physicalLines source)) ∧
      ∀ site : FaultSite, site.IsFirst (physicalLines source) →
        ∃ tokens, site.Follows (.ofWidth width) (physicalLines source) tokens ∧
          Lexer.driven (.ofWidth width) (linesOfText source) tokens.length =
            tokens.map Except.ok ++ [.error site.error] := by
  rw [tokenize, linesOfText_eq]
  rcases FirstFault.describes_or_nonempty (.ofWidth width) (physicalLines source) with
    ⟨program, describes⟩ | ⟨⟨first⟩⟩
  · -- Without a fault there is no place of one, and no error.
    have none (site : FaultSite) : ¬site.Occurs (physicalLines source) :=
      fun occurs => occurs.not_describes describes
    rw [tokenizeLines_of_describes describes]
    refine ⟨?_, ?_, ?_⟩
    · intro error
      constructor
      · intro failed
        cases failed
      · rintro ⟨site, isFirst, _⟩
        exact (none site isFirst.1).elim
    · constructor
      · rintro ⟨error, failed⟩
        cases failed
      · rintro ⟨site, occurs⟩
        exact (none site occurs).elim
    · intro site isFirst
      exact (none site isFirst.1).elim
  · rw [first.tokenizeLines_eq]
    refine ⟨?_, ?_, ?_⟩
    · intro error
      constructor
      · intro failed
        cases failed
        exact ⟨first.site, first.isFirst, rfl⟩
      · rintro ⟨site, isFirst, rfl⟩
        rw [isFirst.eq first.isFirst]
    · exact iff_of_true ⟨first.site.error, rfl⟩ ⟨first.site, first.occurs⟩
    · intro site isFirst
      rw [isFirst.eq first.isFirst]
      exact ⟨first.preceding, first.follows, first.driven_eq⟩

/-- A quote in a comment is no fault, and an escaped one closes nothing. The column
counts the indentation, and the accented letter as two bytes. -/
theorem tokenize_eq_error_of_unclosed :
    tokenize "# \"\nif 'x' :\n\n   é \"a\\\" \n7" (.ofWidth 2) =
      .error (.unterminatedText 4 7) := by
  let source := "# \"\nif 'x' :\n\n   é \"a\\\" \n7"
  let first : FirstFault (.ofWidth 2) (physicalLines source) :=
    { before := ["# \"".toList, "if 'x' :".toList, []]
      line := "   é \"a\\\" ".toList
      after := [['7']]
      lines_eq := by decide
      program := [{ depth := 0, tokens := [.keyword .ifWord, .text "x", .char ':'] }]
      describes := .skipped (by decide) (.content (by decide) (by decide +kernel)
        (.skipped (by decide) .nil))
      content := by decide
      passed := "   é ".toList
      rest := "\"a\\\" ".toList
      line_eq := by decide
      tokens := [.id "é"]
      passes := .spaces (@Passes.lexeme ['é'] [' '] _ _ _
        (.word (by decide) (by decide) (List.forall_mem_singleton.mpr (by decide))
          (fun next follows => Option.some.inj follows ▸ by decide)) (.space (.done _))) 3
      fault := .unterminated
      faulty := .unterminated (by decide) ((readItems_eq_none_iff (by decide)).mp (by decide)) }
  exact ((tokenize_eq_error_iff source 2).1 _).mpr ⟨first.site, first.isFirst, by decide⟩

end Offside
