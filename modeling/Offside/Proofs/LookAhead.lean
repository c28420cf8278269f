import Offside.Proofs.Lexer.Due

/-!
# No look-ahead past a line

A lexer does not see the lines behind the one that it has come to. As long as a line with
content is still to be finished, more lines at the end of its source change nothing in what
it gives and in what it has become, but that it still has these lines before it.
-/

namespace Offside.Lexer

open Text Lexeme

variable {lexer : Lexer}

/-! ## Calls -/

/-- An advance finishes one of the lines that are due exactly if it gives a newline. -/
theorem linesDue_eq (settled : lexer.Settled) :
    lexer.linesDue = newlines [lexer.advance.1] + lexer.advance.2.linesDue := by
  obtain ⟨current, advanced⟩ := exists_advance_eq lexer
  rw [advanced]
  exact (turn_next settled).linesDue_eq

theorem blocked_advance (settled : lexer.Settled) (blocked : lexer.Blocked) :
    lexer.advance.2.Blocked := by
  obtain ⟨current, advanced⟩ := exists_advance_eq lexer
  rw [advanced]
  exact (turn_next settled).blocked blocked

/-- As long as a line is due, an advance does not depend on what comes at the end. -/
theorem advance_extended (settled : lexer.Settled) (due : 0 < lexer.linesDue) (back : List Line) :
    (lexer.extended back).advance = (lexer.advance.1, lexer.advance.2.extended back) := by
  have turn := turn_next settled
  rcases produced : lexer.next with ⟨error | token, after⟩
  · rw [produced] at turn
    rw [advance_of_error produced]
    exact advance_of_error (turn.extended due back).next_eq
  · rw [produced] at turn
    rw [advance_of_next produced]
    exact advance_of_next (turn.extended due back).next_eq

/-- Calls finish as many of the lines that are due as they give newlines. -/
theorem linesDue_eq_add_afterCalls (settled : lexer.Settled) (count : Nat) :
    lexer.linesDue = newlines (lexer.outcomes count) + (lexer.afterCalls count).linesDue := by
  induction count generalizing lexer with
  | zero => exact (Nat.zero_add _).symm
  | succ count ih =>
      rw [outcomes, afterCalls, newlines_cons, linesDue_eq settled, ih (settled_advance settled),
        Nat.add_assoc]

/-- Calls that leave a line due do not depend on what comes at the end. -/
theorem calls_extended (settled : lexer.Settled) {count : Nat}
    (due : 0 < (lexer.afterCalls count).linesDue) (back : List Line) :
    (lexer.extended back).afterCalls count = (lexer.afterCalls count).extended back ∧
      (lexer.extended back).outcomes count = lexer.outcomes count := by
  induction count generalizing lexer with
  | zero => exact ⟨rfl, rfl⟩
  | succ count ih =>
      have dueBefore : 0 < lexer.linesDue := by
        rw [linesDue_eq_add_afterCalls settled (count + 1)]
        exact Nat.lt_add_left _ due
      obtain ⟨sameAfter, sameOutcomes⟩ := ih (settled_advance settled) due
      rw [afterCalls, outcomes, advance_extended settled dueBefore, outcomes]
      exact ⟨sameAfter, congrArg _ sameOutcomes⟩

/-- Calls that finish fewer lines than are due leave a line due. -/
theorem due_of_newlines_lt (settled : lexer.Settled) {back : List Line} {count : Nat}
    (fewer : newlines ((lexer.extended back).outcomes count) < lexer.linesDue) :
    0 < (lexer.afterCalls count).linesDue := by
  induction count generalizing lexer with
  | zero => exact fewer
  | succ count ih =>
      rw [outcomes, advance_extended settled (Nat.zero_lt_of_lt fewer), newlines_cons,
        linesDue_eq settled] at fewer
      exact ih (settled_advance settled) (Nat.lt_of_add_lt_add_left fewer)

theorem blocked_afterCalls (settled : lexer.Settled) (blocked : lexer.Blocked) (count : Nat) :
    (lexer.afterCalls count).Blocked := by
  induction count generalizing lexer with
  | zero => exact blocked
  | succ count ih => exact ih (settled_advance settled) (blocked_advance settled blocked)

/-! ## Two continuations -/

/-- Two attempts to start a lexer have the same error, or the same first token in the same
line. -/
def StartAlike : Except LexError Lexer → Except LexError Lexer → Prop
  | .ok first, .ok other => first.current = other.current ∧ first.lineNumber = other.lineNumber
  | .error error, .error other => error = other
  | _, _ => False

/-- Two lexers have the same outcome of the next call, and the same current token and line
number after it. -/
structure AdvanceAlike (first other : Lexer) : Prop where
  outcome : first.advance.1 = other.advance.1
  current : first.advance.2.current = other.advance.2.current
  lineNumber : first.advance.2.lineNumber = other.advance.2.lineNumber

theorem advanceAlike_extended (settled : lexer.Settled) {count : Nat}
    (due : 0 < (lexer.afterCalls count).linesDue) (back back' : List Line) :
    AdvanceAlike ((lexer.extended back).afterCalls count)
      ((lexer.extended back').afterCalls count) := by
  have later := settled_afterCalls settled count
  rw [(calls_extended settled due back).1, (calls_extended settled due back').1]
  constructor
  · rw [advance_extended later due, advance_extended later due]
  · rw [advance_extended later due, advance_extended later due]
    rfl
  · rw [advance_extended later due, advance_extended later due]
    rfl

/-- The call that finishes the last of the lines that are due has read nothing of what comes
at the end. -/
theorem exists_remaining_eq (settled : lexer.Settled) {count : Nat} {back : List Line}
    (last : newlines ((lexer.extended back).outcomes count) + 1 = lexer.linesDue)
    (ends : ((lexer.extended back).afterCalls count).advance.1 = .ok .newline) :
    ∃ passed tail, lexer.remaining = passed ++ tail ∧ (∀ line ∈ tail, ¬line.hasContent) ∧
      ((lexer.extended back).afterCalls count).advance.2.remaining = tail ++ back := by
  have due := due_of_newlines_lt settled (Nat.le_of_eq last)
  obtain ⟨sameAfter, sameOutcomes⟩ := calls_extended settled due back
  have later := settled_afterCalls settled count
  obtain ⟨passed, same, _⟩ := exists_passed settled count
  obtain ⟨passed', same', _⟩ := exists_passed_advance later
  rw [sameAfter, advance_extended later due] at ends ⊢
  have none : (lexer.afterCalls count).advance.2.linesDue = 0 := by
    have whole := linesDue_eq_add_afterCalls settled count
    have parts := linesDue_eq later
    rw [ends] at parts
    rw [sameOutcomes] at last
    have one : newlines [.ok .newline] = 1 := rfl
    omega
  refine ⟨passed ++ passed', (lexer.afterCalls count).advance.2.remaining, ?_, ?_, rfl⟩
  · rw [List.append_assoc, ← same', same]
  · exact List.countP_eq_zero.mp (Nat.eq_zero_of_add_eq_zero_left none)

section Start

variable {layout : Layout} {lines : List Line}

theorem linesDue_ofLines : (ofLines layout lines).linesDue = lines.countP Line.hasContent :=
  Nat.zero_add _

/-- A lexer that has started has all lines of its source still to finish. -/
theorem linesDue_started {token : Token} {begun : Lexer}
    (advanced : (ofLines layout lines).advance = (.ok token, begun)) :
    begun.linesDue = lines.countP Line.hasContent := by
  have fresh := settled_ofLines layout lines
  have parts := linesDue_eq fresh
  have turn := turn_next fresh
  obtain ⟨current, advanced'⟩ := exists_advance_eq (ofLines layout lines)
  have none : newlines [(ofLines layout lines).advance.1] = 0 := by
    rw [advanced']
    exact turn.newlines_eq_zero rfl
  rw [none, Nat.zero_add, advanced, linesDue_ofLines] at parts
  exact parts.symm

theorem start_append (content : 0 < lines.countP Line.hasContent) (back : List Line) :
    start layout (lines ++ back) = (start layout lines).map (·.extended back) := by
  have fresh := settled_ofLines layout lines
  have more : ofLines layout (lines ++ back) = (ofLines layout lines).extended back := rfl
  rw [start, start, more, advance_extended fresh (linesDue_ofLines ▸ content)]
  rcases (ofLines layout lines).advance with ⟨error | token, begun⟩
  · rfl
  · rfl

end Start

/-- The lexers of two sources with the same front, which ends with a line and has a line
with content, start alike and go on alike, token by token and error by error, up to and
including the newline of the last line with content of the front, when they have not yet
read anything behind the front. If a line of the front does not scan, they never part. -/
theorem front_decides_calls (front : List UInt8) (width : Nat)
    (ends : front.getLast? = some 0x0A) (content : ∃ line ∈ linesOfBytes front, line.hasContent)
    (back back' : List UInt8) :
    StartAlike (start (.ofWidth width) (linesOfBytes (front ++ back)))
        (start (.ofWidth width) (linesOfBytes (front ++ back'))) ∧
      ∀ first other, start (.ofWidth width) (linesOfBytes (front ++ back)) = .ok first →
        start (.ofWidth width) (linesOfBytes (front ++ back')) = .ok other →
          (∀ count, newlines (first.outcomes count) < (linesOfBytes front).countP Line.hasContent →
            AdvanceAlike (first.afterCalls count) (other.afterCalls count)) ∧
          (∀ count,
            newlines (first.outcomes count) + 1 = (linesOfBytes front).countP Line.hasContent →
            (first.afterCalls count).advance.1 = .ok .newline →
              ∃ passed tail, linesOfBytes front = passed ++ tail ∧
                (∀ line ∈ tail, ¬line.hasContent) ∧
                (first.afterCalls count).advance.2.remaining = tail ++ linesOfBytes back) ∧
          (FaultAhead (linesOfBytes front) →
            ∀ count, AdvanceAlike (first.afterCalls count) (other.afterCalls count)) := by
  have counted : 0 < (linesOfBytes front).countP Line.hasContent := List.countP_pos_iff.mpr content
  rw [linesOfBytes_append ends, linesOfBytes_append ends, start_append counted,
    start_append counted]
  have fresh := settled_ofLines (.ofWidth width) (linesOfBytes front)
  cases started : start (.ofWidth width) (linesOfBytes front) with
  | error error =>
      refine ⟨rfl, ?_⟩
      intro first other startedFirst
      cases startedFirst
  | ok begun =>
      refine ⟨⟨rfl, rfl⟩, ?_⟩
      rintro first other ⟨⟩ ⟨⟩
      obtain ⟨token, advanced⟩ := start_eq_ok_iff.mp started
      have settled := settled_advance fresh
      have parts := linesDue_started advanced
      obtain ⟨passed, same, _⟩ := exists_passed_advance fresh
      rw [advanced] at settled same
      rw [← parts]
      refine ⟨?_, ?_, ?_⟩
      · intro count fewer
        exact advanceAlike_extended settled (due_of_newlines_lt settled fewer) _ _
      · intro count last finishes
        obtain ⟨passed', tail, same', without, remains⟩ := exists_remaining_eq settled last finishes
        refine ⟨passed ++ passed', tail, ?_, without, remains⟩
        rw [List.append_assoc, ← same']
        exact same
      · intro faulty count
        have blocked := blocked_advance fresh (.inl faulty)
        rw [advanced] at blocked
        have due := (blocked_afterCalls settled blocked count).linesDue_pos
        exact advanceAlike_extended settled due _ _

/-- A quote that is not closed on its line is not closed by one on a later line, which may as
well be no line at all. After the newline of the only line of a source all that was put behind
it is still to be read. -/
theorem front_decides_calls_of_unclosed :
    let layout := Layout.ofWidth 2
    let begun (bytes : List UInt8) := (ofLines layout (linesOfBytes bytes)).advance.2
    start layout (linesOfBytes [0x78, 0x0A, 0x27, 0x0A, 0x27]) =
        .ok (begun [0x78, 0x0A, 0x27, 0x0A, 0x27]) ∧
      start layout (linesOfBytes [0x78, 0x0A, 0x27, 0x0A, 0xFF]) =
        .ok (begun [0x78, 0x0A, 0x27, 0x0A, 0xFF]) ∧
      (∀ count, AdvanceAlike ((begun [0x78, 0x0A, 0x27, 0x0A, 0x27]).afterCalls count)
        ((begun [0x78, 0x0A, 0x27, 0x0A, 0xFF]).afterCalls count)) ∧
      AdvanceAlike (begun [0x78, 0x0A, 0x27]) (begun [0x78, 0x0A, 0xFF]) ∧
      ∃ passed tail, linesOfBytes [0x78, 0x0A] = passed ++ tail ∧
        (∀ line ∈ tail, ¬line.hasContent) ∧
        (begun [0x78, 0x0A, 0x27]).advance.2.remaining = tail ++ linesOfBytes [0x27] := by
  intro layout begun
  have started : start layout (linesOfBytes [0x78, 0x0A, 0x27, 0x0A, 0x27]) =
      .ok (begun [0x78, 0x0A, 0x27, 0x0A, 0x27]) := by decide +kernel
  have started' : start layout (linesOfBytes [0x78, 0x0A, 0x27, 0x0A, 0xFF]) =
      .ok (begun [0x78, 0x0A, 0x27, 0x0A, 0xFF]) := by decide +kernel
  have faulty : FaultAhead (linesOfBytes [0x78, 0x0A, 0x27, 0x0A]) := by
    refine ⟨['\x27'], by decide +kernel, by decide, ?_⟩
    intro tokens scans
    cases lineTokens?_eq_some_iff.mpr scans
  have forEver := ((front_decides_calls [0x78, 0x0A, 0x27, 0x0A] 2 rfl (by decide +kernel) [0x27]
    [0xFF]).2 _ _ started started').2.2 faulty
  obtain ⟨alike, remains, _⟩ := (front_decides_calls [0x78, 0x0A] 2 rfl (by decide +kernel) [0x27]
    [0xFF]).2 (begun [0x78, 0x0A, 0x27]) (begun [0x78, 0x0A, 0xFF]) (by decide +kernel)
    (by decide +kernel)
  exact ⟨started, started', forEver, alike 0 (by decide +kernel),
    remains 0 (by decide +kernel) (by decide +kernel)⟩

end Offside.Lexer
