import Offside.Tokenize
import Offside.Proofs.Lexer.Yields

/-!
# Driving a lexer

A lexer is driven one `advance` at a time, or to the end at once. Neither depends
on the current token, so what a lexer yields decides both: the outcomes of any
number of calls, and the tokens of the whole source.
-/

namespace Offside.Lexer

open Text Lexeme

variable {lexer target after : Lexer} {tokens : List Token} {token : Token} {error : LexError}

/-! ## The current token does not matter -/

/-- The lexer with another current token. -/
def withCurrent (lexer : Lexer) (current : Token) : Lexer :=
  { lexer with current }

section Current

variable (lexer : Lexer) (current : Token)

theorem payOwed_withCurrent :
    (lexer.withCurrent current).payOwed =
      lexer.payOwed.map fun (token, after) => (token, after.withCurrent current) := by
  by_cases closing : 0 < lexer.owed
  · simp only [payOwed, withCurrent, closing, if_true, Option.map_some]
  by_cases opening : lexer.owed < 0
  · simp only [payOwed, withCurrent, closing, opening, if_true, if_false, Option.map_some]
  · simp only [payOwed, withCurrent, closing, opening, if_false, Option.map_none]

theorem readLine_withCurrent (lines : List Line) :
    (lexer.withCurrent current).readLine lines =
      ((lexer.readLine lines).1, (lexer.readLine lines).2.withCurrent current) := by
  induction lines generalizing lexer with
  | nil => rfl
  | cons line lines ih =>
      cases line with
      | undecodable => rfl
      | content line =>
          simp only [readLine]
          split
          · rfl
          · exact ih { lexer with lineNumber := lexer.lineNumber + 1 }

theorem scanLine_withCurrent (reading : OpenLine) :
    (lexer.withCurrent current).scanLine reading =
      ((lexer.scanLine reading).1, (lexer.scanLine reading).2.withCurrent current) := by
  simp only [scanLine]
  split
  · rfl
  split <;> rfl

theorem close_withCurrent :
    (lexer.withCurrent current).close = (lexer.close.1, lexer.close.2.withCurrent current) := by
  by_cases deep : 0 < lexer.depth
  · simp only [close, withCurrent, deep, if_true]
  · simp only [close, withCurrent, deep, if_false]

theorem next_withCurrent :
    (lexer.withCurrent current).next = (lexer.next.1, lexer.next.2.withCurrent current) := by
  unfold next
  rw [payOwed_withCurrent]
  cases lexer.payOwed with
  | some paid => rfl
  | none =>
      have same : (lexer.withCurrent current).reading = lexer.reading := rfl
      rw [same]
      cases lexer.reading with
      | some reading => exact scanLine_withCurrent lexer current reading
      | none =>
          have same : (lexer.withCurrent current).remaining = lexer.remaining := rfl
          simp only [Option.map_none, same, readLine_withCurrent]
          obtain ⟨found, after⟩ := lexer.readLine lexer.remaining
          cases found with
          | undecodable => rfl
          | endOfInput => simp only [close_withCurrent]
          | content reading =>
              simp only [payOwed_withCurrent]
              cases after.payOwed with
              | some paid => rfl
              | none => exact scanLine_withCurrent after current reading

end Current

/-! ## Single calls -/

theorem advance_of_next (produced : lexer.next = (.ok token, after)) :
    lexer.advance = (.ok token, after.withCurrent token) := by
  rw [advance, produced]
  rfl

theorem advance_of_error (failed : lexer.next = (.error error, after)) :
    lexer.advance = (.error error, after) := by
  rw [advance, failed]

/-- A token that an advance gives is the current one afterwards. -/
theorem current_of_advance (advanced : lexer.advance = (.ok token, after)) :
    after.current = token := by
  rcases produced : lexer.next with ⟨error | given, target⟩
  · rw [advance_of_error produced] at advanced
    cases advanced
  · rw [advance_of_next produced] at advanced
    cases advanced
    rfl

/-- An advance is the next turn, and sets the current token besides. -/
theorem exists_advance_eq (lexer : Lexer) :
    ∃ current, lexer.advance = (lexer.next.1, lexer.next.2.withCurrent current) := by
  rcases produced : lexer.next with ⟨error | token, after⟩
  · exact ⟨after.current, advance_of_error produced⟩
  · exact ⟨_, advance_of_next produced⟩

theorem advance_congr (same : lexer.next = target.next) : lexer.advance = target.advance := by
  rw [advance, advance, same]

/-! ## Any number of calls -/

/-- The outcomes of so many calls of `advance`. -/
def outcomes : Lexer → Nat → List (Except LexError Token)
  | _, 0 => []
  | lexer, count + 1 => lexer.advance.1 :: outcomes lexer.advance.2 count

theorem outcomes_congr (same : lexer.next = target.next) (count : Nat) :
    lexer.outcomes count = target.outcomes count := by
  cases count with
  | zero => rfl
  | succ count => rw [outcomes, outcomes, advance_congr same]

theorem outcomes_withCurrent (lexer : Lexer) (current : Token) (count : Nat) :
    (lexer.withCurrent current).outcomes count = lexer.outcomes count := by
  induction count generalizing lexer with
  | zero => rfl
  | succ count ih =>
      have same := next_withCurrent lexer current
      rcases produced : lexer.next with ⟨outcome, after⟩
      rw [produced] at same
      cases outcome with
      | ok token =>
          rw [outcomes, outcomes, advance_of_next same, advance_of_next produced]
          rfl
      | error error =>
          rw [outcomes, outcomes, advance_of_error same, advance_of_error produced, ih]

theorem outcomes_of_next (produced : lexer.next = (.ok token, after)) (count : Nat) :
    lexer.outcomes (count + 1) = .ok token :: after.outcomes count := by
  rw [outcomes, advance_of_next produced, outcomes_withCurrent]

theorem outcomes_of_error (failed : lexer.next = (.error error, after)) (count : Nat) :
    lexer.outcomes (count + 1) = .error error :: after.outcomes count := by
  rw [outcomes, advance_of_error failed]

/-- The outcomes of a lexer that yields tokens are the tokens, and then those of
the lexer that it has become. -/
theorem Yields.outcomes_eq (yields : lexer.Yields tokens target) (count : Nat) :
    lexer.outcomes (tokens.length + count) =
      tokens.map Except.ok ++ target.outcomes count := by
  induction tokens generalizing lexer with
  | nil =>
      rw [List.length_nil, Nat.zero_add]
      exact outcomes_congr yields count
  | cons token tokens ih =>
      obtain ⟨after, produced, rest⟩ := yields
      rw [List.length_cons, Nat.add_right_comm, outcomes_of_next produced, ih rest]
      rfl

theorem take_outcomes (lexer : Lexer) (count more : Nat) :
    (lexer.outcomes (count + more)).take count = lexer.outcomes count := by
  induction count generalizing lexer with
  | zero => rfl
  | succ count ih =>
      rw [Nat.add_right_comm, outcomes, outcomes, List.take_succ_cons, ih]

/-- A lexer that stays as it is keeps giving the same outcome. -/
theorem outcomes_of_stuck {outcome : Except LexError Token} (stuck : lexer.next = (outcome, lexer))
    (count : Nat) : lexer.outcomes count = List.replicate count outcome := by
  induction count with
  | zero => rfl
  | succ count ih =>
      rw [List.replicate_succ, ← ih]
      cases outcome with
      | ok token => exact outcomes_of_next stuck count
      | error error => exact outcomes_of_error stuck count

/-- The first outcomes of a lexer that yields tokens and is then stuck. -/
theorem Yields.outcomes_of_stuck {outcome : Except LexError Token}
    (yields : lexer.Yields tokens target) (stuck : target.next = (outcome, target)) (count : Nat) :
    lexer.outcomes count =
      (tokens.map Except.ok ++ List.replicate count outcome).take count := by
  rw [← take_outcomes lexer count tokens.length, Nat.add_comm, yields.outcomes_eq,
    Lexer.outcomes_of_stuck stuck]

/-! ## From the first token on -/

/-- The outcome of starting a lexer and, once it has started, of advancing it so
many times. -/
def driven (layout : Layout) (lines : List Line) (count : Nat) : List (Except LexError Token) :=
  match start layout lines with
  | .ok lexer => .ok lexer.current :: lexer.outcomes count
  | .error error => [.error error]

variable {layout : Layout} {lines : List Line}

theorem driven_of_next (produced : (ofLines layout lines).next = (.ok token, after)) (count : Nat) :
    driven layout lines count = (ofLines layout lines).outcomes (count + 1) := by
  rw [driven, start, advance_of_next produced, outcomes_of_next produced]
  simp only [outcomes_withCurrent]
  rfl

theorem Yields.driven_eq (yields : (ofLines layout lines).Yields tokens target)
    (nonempty : tokens ≠ []) (count : Nat) :
    driven layout lines count = (ofLines layout lines).outcomes (count + 1) := by
  cases tokens with
  | nil => exact (nonempty rfl).elim
  | cons token tokens =>
      obtain ⟨after, produced, _⟩ := yields
      exact driven_of_next produced count

theorem driven_of_error (failed : (ofLines layout lines).next = (.error error, after))
    (count : Nat) : driven layout lines count = [.error error] := by
  rw [driven, start, advance_of_error failed]

/-! ## To the end -/

/-- The tokens after the current one, up to the first end of the input. -/
def upcoming (lexer : Lexer) : Except LexError (List Token) :=
  match lexer.advance with
  | (.ok _, after) => after.tokens
  | (.error error, _) => .error error

theorem tokenizeLines_eq_upcoming :
    tokenizeLines layout lines = (ofLines layout lines).upcoming := by
  rw [tokenizeLines, start, upcoming]
  rcases (ofLines layout lines).advance with ⟨_ | _, after⟩ <;> rfl

theorem upcoming_congr (same : lexer.next = target.next) : lexer.upcoming = target.upcoming := by
  rw [upcoming, upcoming, advance_congr same]

theorem upcoming_withCurrent (lexer : Lexer) (current : Token) :
    (lexer.withCurrent current).upcoming = lexer.upcoming := by
  have same := next_withCurrent lexer current
  rcases produced : lexer.next with ⟨outcome, after⟩
  rw [produced] at same
  cases outcome with
  | ok token =>
      rw [upcoming, upcoming, advance_of_next same, advance_of_next produced]
      rfl
  | error error => rw [upcoming, upcoming, advance_of_error same, advance_of_error produced]

theorem upcoming_of_error (failed : lexer.next = (.error error, after)) :
    lexer.upcoming = .error error := by
  rw [upcoming, advance_of_error failed]

theorem tokens_of_current_eq (ended : lexer.current = .eof) : lexer.tokens = .ok [.eof] := by
  rw [Lexer.tokens, dif_pos ended]

theorem tokens_of_current_ne (running : lexer.current ≠ .eof) :
    lexer.tokens = lexer.upcoming.map (lexer.current :: ·) := by
  rw [Lexer.tokens, dif_neg running, upcoming]
  split
  next advanced => rw [advanced]
  next advanced =>
    rw [advanced]
    rfl

theorem upcoming_of_eof (produced : lexer.next = (.ok .eof, after)) :
    lexer.upcoming = .ok [.eof] := by
  rw [upcoming, advance_of_next produced]
  exact tokens_of_current_eq rfl

theorem upcoming_of_next (produced : lexer.next = (.ok token, after)) (running : token ≠ .eof) :
    lexer.upcoming = after.upcoming.map (token :: ·) := by
  rw [upcoming, advance_of_next produced]
  change (after.withCurrent token).tokens = _
  rw [tokens_of_current_ne running, upcoming_withCurrent]
  rfl

/-- A lexer that yields tokens before the end of the input has them in front of
the tokens that come afterwards. -/
theorem Yields.upcoming_eq (yields : lexer.Yields tokens target) (running : .eof ∉ tokens) :
    lexer.upcoming = target.upcoming.map (tokens ++ ·) := by
  induction tokens generalizing lexer with
  | nil =>
      rw [upcoming_congr yields]
      cases target.upcoming <;> rfl
  | cons token tokens ih =>
      obtain ⟨after, produced, rest⟩ := yields
      rw [List.mem_cons, not_or] at running
      rw [upcoming_of_next produced (Ne.symm running.1), ih rest running.2]
      cases target.upcoming <;> rfl

end Offside.Lexer
