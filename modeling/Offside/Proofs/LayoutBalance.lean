import Offside.Proofs.Lexer.Driving
import Offside.Proofs.Lexer.History
import Offside.Proofs.Lexer.Turns

/-!
# The balance of layout

The indents that a lexer has given, less the dedents, are the levels it stands in and
has already opened. This holds after every request, also after one that failed: an error
in the middle of a line leaves it half scanned, and one between two lines leaves the
levels of the line before open, but neither touches what is owed.
-/

namespace Offside.Lexer

open Text Lexeme

/-- The line read last, which the lines that remain come after. -/
def IsLastRead (lines : List Line) (lexer : Lexer) (line : List Char) : Prop :=
  ∃ before, lines = before ++ .content line :: lexer.remaining

/-- A line was entered, and nothing of its content is scanned. -/
def AtLineStart (lines : List Line) (lexer : Lexer) : Prop :=
  ∃ line, IsLastRead lines lexer line ∧ lexer.reading = some ⟨line, lineContent line⟩

/-- A token comes where layout allows it: indents at the start of a line, dedents there
or after the last line, the end of the input when every level is closed, and all other
tokens at the depth of the line they are in. -/
def Placed (layout : Layout) (lines : List Line) (history : List Token) (token : Token)
    (after : Lexer) : Prop :=
  match token with
  | .indent => AtLineStart lines after
  | .dedent => AtLineStart lines after ∨ (after.reading = none ∧ after.remaining = [])
  | .eof => balance history = 0
  | _ => ∃ line, IsLastRead lines after line ∧
      balance history = layout.depth (leadingSpaces line)

/-! ## The invariant -/

/-- A lexer between two lines has opened the levels of the line before. -/
structure BalancedBetween (lines : List Line) (history : List Token) (remaining : List Line)
    (depth : Nat) : Prop where
  counted : balance history = depth
  upcoming : remaining <:+ lines
  shiftsFirst : ShiftsFirst (sinceNewline history)
  fresh : remaining ≠ [] → sinceNewline history = []
  closing : 0 < depth → ∃ levels, sinceNewline history = List.replicate levels .dedent

/-- A lexer inside a line is on the way to the depth of that line, and has given nothing
but layout of the one kind it owes before it is there. -/
structure BalancedInside (layout : Layout) (lines : List Line) (history : List Token)
    (remaining : List Line) (depth : Nat) (owed : Int) (line rest : List Char) : Prop where
  counted : balance history = depth + owed
  nonneg : 0 ≤ balance history
  own : ∃ before, lines = before ++ .content line :: remaining
  ownDepth : depth = layout.depth (leadingSpaces line)
  shiftsFirst : ShiftsFirst (sinceNewline history)
  unscanned : owed ≠ 0 → rest = lineContent line
  opening : owed < 0 → ∃ levels, sinceNewline history = List.replicate levels .indent
  closing : 0 < owed → ∃ levels, sinceNewline history = List.replicate levels .dedent

/-- What a lexer has given agrees with where it stands. -/
def Balanced (layout : Layout) (lines : List Line) (history : List Token) (lexer : Lexer) : Prop :=
  lexer.layout = layout ∧
    match lexer.reading with
    | none => lexer.owed = 0 ∧ BalancedBetween lines history lexer.remaining lexer.depth
    | some reading => BalancedInside layout lines history lexer.remaining lexer.depth lexer.owed
        reading.line reading.rest

variable {layout : Layout} {lines remaining : List Line} {history : List Token} {depth : Nat}
variable {line rest passed : List Char} {token : Token} {owed : Int}

theorem balanced_ofLines (layout : Layout) (lines : List Line) :
    Balanced layout lines [] (ofLines layout lines) :=
  ⟨rfl, rfl, rfl, List.suffix_refl _, shiftsFirst_nil, fun _ => rfl, fun _ => ⟨0, rfl⟩⟩

/-! ## Moves between lines -/

namespace BalancedBetween

theorem skip {skipped : Line}
    (balanced : BalancedBetween lines history (skipped :: remaining) depth) :
    BalancedBetween lines history remaining depth where
  counted := balanced.counted
  upcoming := (List.suffix_cons ..).trans balanced.upcoming
  shiftsFirst := balanced.shiftsFirst
  fresh := fun _ => balanced.fresh (List.cons_ne_nil _ _)
  closing := balanced.closing

/-- Entering a line owes the change of depth. -/
theorem enter (balanced : BalancedBetween lines history (.content line :: remaining) depth) :
    BalancedInside layout lines history remaining (layout.depth (leadingSpaces line))
      (depth - layout.depth (leadingSpaces line)) line (lineContent line) := by
  have fresh := balanced.fresh (List.cons_ne_nil _ _)
  have counted := balanced.counted
  have nonneg := Int.natCast_nonneg depth
  obtain ⟨before, same⟩ := balanced.upcoming
  exact {
    counted := by rw [counted]; omega
    nonneg := counted ▸ nonneg
    own := ⟨before, same.symm⟩
    ownDepth := rfl
    shiftsFirst := balanced.shiftsFirst
    unscanned := fun _ => rfl
    opening := fun _ => ⟨0, fresh⟩
    closing := fun _ => ⟨0, fresh⟩ }

theorem close (balanced : BalancedBetween lines history [] (depth + 1)) :
    BalancedBetween lines (history ++ [.dedent]) [] depth := by
  obtain ⟨levels, given⟩ := balanced.closing (Nat.succ_pos depth)
  have more : sinceNewline (history ++ [.dedent]) = List.replicate (levels + 1) .dedent := by
    rw [sinceNewline_append (by decide), given, List.replicate_succ']
  have counted := balanced.counted
  exact {
    counted := by rw [balance_append_dedent, counted]; omega
    upcoming := balanced.upcoming
    shiftsFirst := more ▸ shiftsFirst_replicate rfl
    fresh := fun more => absurd rfl more
    closing := fun _ => ⟨levels + 1, more⟩ }

theorem ended (balanced : BalancedBetween lines history [] 0) :
    BalancedBetween lines (history ++ [.eof]) [] 0 where
  counted := by rw [balance_append_of_not_isShift (by decide), balanced.counted]
  upcoming := balanced.upcoming
  shiftsFirst := by
    rw [sinceNewline_append (by decide)]
    exact balanced.shiftsFirst.append (by decide)
  fresh := fun more => absurd rfl more
  closing := fun open_ => absurd open_ (Nat.lt_irrefl 0)

end BalancedBetween

/-! ## Moves inside a line -/

namespace BalancedInside

theorem dedent {levels : Nat}
    (balanced : BalancedInside layout lines history remaining depth (levels + 1 : Nat) line rest) :
    BalancedInside layout lines (history ++ [.dedent]) remaining depth levels line rest := by
  obtain ⟨paid, given⟩ := balanced.closing (by omega)
  have more : sinceNewline (history ++ [.dedent]) = List.replicate (paid + 1) .dedent := by
    rw [sinceNewline_append (by decide), given, List.replicate_succ']
  have counted := balanced.counted
  exact {
    counted := by rw [balance_append_dedent, counted]; omega
    nonneg := by rw [balance_append_dedent, counted]; omega
    own := balanced.own
    ownDepth := balanced.ownDepth
    shiftsFirst := more ▸ shiftsFirst_replicate rfl
    unscanned := fun _ => balanced.unscanned (by omega)
    opening := fun owing => absurd owing (by omega)
    closing := fun _ => ⟨paid + 1, more⟩ }

theorem indent {levels : Nat}
    (balanced : BalancedInside layout lines history remaining depth (-(levels + 1 : Nat)) line
      rest) :
    BalancedInside layout lines (history ++ [.indent]) remaining depth (-levels) line rest := by
  obtain ⟨paid, given⟩ := balanced.opening (by omega)
  have more : sinceNewline (history ++ [.indent]) = List.replicate (paid + 1) .indent := by
    rw [sinceNewline_append (by decide), given, List.replicate_succ']
  have counted := balanced.counted
  have nonneg := balanced.nonneg
  exact {
    counted := by rw [balance_append_indent, counted]; omega
    nonneg := by rw [balance_append_indent]; omega
    own := balanced.own
    ownDepth := balanced.ownDepth
    shiftsFirst := more ▸ shiftsFirst_replicate rfl
    unscanned := fun _ => balanced.unscanned (by omega)
    opening := fun _ => ⟨paid + 1, more⟩
    closing := fun owing => absurd owing (by omega) }

/-- What is not owed does not depend on how much of the line is scanned. -/
theorem scan (balanced : BalancedInside layout lines history remaining depth 0 line passed) :
    BalancedInside layout lines history remaining depth 0 line rest :=
  { balanced with unscanned := fun owing => absurd rfl owing }

theorem lexeme (balanced : BalancedInside layout lines history remaining depth 0 line passed)
    (stays : ¬token.isShift) (within : token ≠ .newline) :
    BalancedInside layout lines (history ++ [token]) remaining depth 0 line rest where
  counted := by rw [balance_append_of_not_isShift stays, balanced.counted]
  nonneg := by rw [balance_append_of_not_isShift stays]; exact balanced.nonneg
  own := balanced.own
  ownDepth := balanced.ownDepth
  shiftsFirst := by rw [sinceNewline_append within]; exact balanced.shiftsFirst.append stays
  unscanned := fun owing => absurd rfl owing
  opening := fun owing => absurd owing (Int.lt_irrefl 0)
  closing := fun owing => absurd owing (Int.lt_irrefl 0)

theorem newline (balanced : BalancedInside layout lines history remaining depth 0 line rest) :
    BalancedBetween lines (history ++ [.newline]) remaining depth := by
  obtain ⟨before, same⟩ := balanced.own
  have counted := balanced.counted
  exact {
    counted := by rw [balance_append_of_not_isShift (by decide), counted, Int.add_zero]
    upcoming := ⟨before ++ [.content line], by rw [same, List.append_assoc]; rfl⟩
    shiftsFirst := by rw [sinceNewline_append_newline]; exact shiftsFirst_nil
    fresh := fun _ => sinceNewline_append_newline
    closing := fun _ => ⟨0, sinceNewline_append_newline⟩ }

theorem balance_eq (balanced : BalancedInside layout lines history remaining depth 0 line rest) :
    balance history = layout.depth (leadingSpaces line) := by
  rw [balanced.counted, balanced.ownDepth, Int.add_zero]

end BalancedInside

/-! ## Turns -/

variable {lexer after : Lexer} {outcome : Except LexError Token}

theorem isStructural_of_isShift (shifts : token.isShift) : token.tag.isStructural := by
  cases token with
  | indent => rfl
  | dedent => rfl
  | _ => exact absurd shifts Bool.false_ne_true

/-- A turn keeps the balance, whether it gives a token or an error. -/
theorem Turn.balanced (turn : Turn lexer outcome after)
    (balanced : Balanced layout lines history lexer) :
    Balanced layout lines (history ++ outcome.toOption.toList) after := by
  induction turn with
  | dedent levels => exact ⟨balanced.1, balanced.2.dedent⟩
  | indent levels => exact ⟨balanced.1, balanced.2.indent⟩
  | space _ ih => exact ih ⟨balanced.1, balanced.2.scan⟩
  | lexeme lexes =>
      have content := lexes.not_isStructural
      refine ⟨balanced.1, balanced.2.lexeme ?_ ?_⟩
      · intro shifts
        exact content (isStructural_of_isShift shifts)
      · intro newline
        exact content (newline ▸ rfl)
  | newline _ => exact ⟨balanced.1, rfl, balanced.2.newline⟩
  | fault _ => exact (List.append_nil history).symm ▸ balanced
  | skip _ _ ih => exact ih ⟨balanced.1, rfl, balanced.2.2.skip⟩
  | enter _ _ ih =>
      obtain ⟨rfl, _, between⟩ := balanced
      exact ih ⟨rfl, between.enter⟩
  | undecodable => exact (List.append_nil history).symm ▸ ⟨balanced.1, rfl, balanced.2.2.skip⟩
  | close => exact ⟨balanced.1, rfl, balanced.2.2.close⟩
  | ended => exact ⟨balanced.1, rfl, balanced.2.2.ended⟩

/-- A turn gives its token where layout allows it. -/
theorem Turn.placed (turn : Turn lexer outcome after)
    (balanced : Balanced layout lines history lexer) (given : outcome = .ok token) :
    Placed layout lines history token after := by
  induction turn with
  | dedent levels =>
      cases given
      have start := balanced.2.unscanned (Int.natCast_ne_zero.mpr (Nat.succ_ne_zero levels))
      exact .inl ⟨_, balanced.2.own, start ▸ rfl⟩
  | indent levels =>
      cases given
      have start := balanced.2.unscanned (Int.neg_ne_zero.mpr
        (Int.natCast_ne_zero.mpr (Nat.succ_ne_zero levels)))
      exact ⟨_, balanced.2.own, start ▸ rfl⟩
  | space _ ih => exact ih ⟨balanced.1, balanced.2.scan⟩ given
  | lexeme lexes =>
      cases given
      have content := lexes.not_isStructural
      cases token with
      | newline => exact absurd rfl content
      | indent => exact absurd rfl content
      | dedent => exact absurd rfl content
      | eof => exact absurd rfl content
      | _ => exact ⟨_, balanced.2.own, balanced.2.balance_eq⟩
  | newline _ =>
      cases given
      exact ⟨_, balanced.2.own, balanced.2.balance_eq⟩
  | fault _ => cases given
  | skip _ _ ih => exact ih ⟨balanced.1, rfl, balanced.2.2.skip⟩ given
  | enter _ _ ih =>
      obtain ⟨rfl, _, between⟩ := balanced
      exact ih ⟨rfl, between.enter⟩ given
  | undecodable => cases given
  | close =>
      cases given
      exact .inr ⟨rfl, rfl⟩
  | ended =>
      cases given
      exact balanced.2.2.counted

/-- Something is owed only after an indent or a dedent. -/
theorem Turn.owed_eq_zero (turn : Turn lexer outcome after)
    (stays : ∀ token, outcome = .ok token → ¬token.isShift) : after.owed = 0 := by
  induction turn with
  | dedent levels => exact absurd rfl (stays .dedent rfl)
  | indent levels => exact absurd rfl (stays .indent rfl)
  | space _ ih => exact ih stays
  | skip _ _ ih => exact ih stays
  | enter _ _ ih => exact ih stays
  | lexeme _ => rfl
  | newline _ => rfl
  | fault _ => rfl
  | undecodable => rfl
  | close => rfl
  | ended => rfl

/-! ## Runs -/

/-- The balance holds, and nothing is owed when the last token stayed on the level. -/
structure Accounted (layout : Layout) (lines : List Line) (history : List Token)
    (lexer : Lexer) : Prop where
  balanced : Balanced layout lines history lexer
  settled : ∀ token, history.getLast? = some token → ¬token.isShift → lexer.owed = 0

theorem Balanced.isSettled (balanced : Balanced layout lines history lexer) : lexer.Settled := by
  intro idle
  have between := balanced.2
  rw [idle] at between
  exact between.1

theorem Balanced.balance_eq (balanced : Balanced layout lines history lexer) :
    balance history = lexer.depth + lexer.owed ∧ 0 ≤ balance history ∧
      ShiftsFirst (sinceNewline history) := by
  obtain ⟨_, stands⟩ := balanced
  split at stands
  next =>
    obtain ⟨settled, between⟩ := stands
    have counted := between.counted
    exact ⟨by omega, by omega, between.shiftsFirst⟩
  next => exact ⟨stands.counted, stands.nonneg, stands.shiftsFirst⟩

theorem Accounted.advance (accounted : Accounted layout lines history lexer) :
    Accounted layout lines (history ++ lexer.advance.1.toOption.toList) lexer.advance.2 := by
  obtain ⟨current, advanced⟩ := exists_advance_eq lexer
  rw [advanced]
  have turn := turn_next accounted.balanced.isSettled
  refine ⟨turn.balanced accounted.balanced, ?_⟩
  intro token last stays
  refine turn.owed_eq_zero ?_
  intro given produced
  have last : (history ++ [given]).getLast? = some token := by
    rw [produced] at last
    exact last
  rw [List.getLast?_concat] at last
  exact Option.some.inj last ▸ stays

theorem Accounted.answer (accounted : Accounted layout lines history lexer) (request : Request) :
    Accounted layout lines (history ++ (lexer.produces request).toList)
      (lexer.answer request).2 := by
  rw [answer_snd, produces]
  by_cases advances : request.advances
  · rw [if_pos advances, if_pos advances]
    exact accounted.advance
  · rw [if_neg advances, if_neg advances]
    exact (List.append_nil history).symm ▸ accounted

/-- Every request keeps the account, and so do all of them in turn. -/
theorem Accounted.afterAll (accounted : Accounted layout lines history lexer)
    (requests : List Request) :
    Accounted layout lines (history ++ lexer.produced requests) (lexer.afterAll requests) := by
  induction requests generalizing history lexer with
  | nil => exact (List.append_nil history).symm ▸ accounted
  | cons request requests ih =>
      have later := ih (accounted.answer request)
      rw [List.append_assoc] at later
      exact later

theorem accounted_ofLines (layout : Layout) (lines : List Line) (requests : List Request) :
    Accounted layout lines ((ofLines layout lines).produced requests)
      ((ofLines layout lines).afterAll requests) := by
  have start : Accounted layout lines [] (ofLines layout lines) :=
    ⟨balanced_ofLines layout lines, fun _ none => nomatch none⟩
  exact start.afterAll requests

/-- Whatever the bytes are and whatever was asked so far, the first token included: the
indents given, less the dedents, are the depth and what is owed, and never fewer than none;
nothing is owed after any other token or when the next line is to be read; and the tokens
come in the order and at the depth that the lines have. -/
theorem layout_balanced (bytes : List UInt8) (width : Nat) (requests : List Request) :
    let lines := linesOfBytes bytes
    let lexer := (ofLines (.ofWidth width) lines).afterAll requests
    let history := (ofLines (.ofWidth width) lines).produced requests
    balance history = lexer.depth + lexer.owed ∧ 0 ≤ balance history ∧
      (∀ token, history.getLast? = some token → ¬token.isShift → lexer.owed = 0) ∧
      (lexer.reading = none → lexer.owed = 0) ∧
      ShiftsFirst (sinceNewline history) ∧
      ∀ token after, lexer.advance = (.ok token, after) →
        Placed (.ofWidth width) lines history token after := by
  intro lines lexer history
  have accounted := accounted_ofLines (.ofWidth width) lines requests
  obtain ⟨counted, nonneg, shiftsFirst⟩ := accounted.balanced.balance_eq
  refine ⟨counted, nonneg, accounted.settled, accounted.balanced.isSettled, shiftsFirst, ?_⟩
  intro token after given
  obtain ⟨current, advanced⟩ := exists_advance_eq lexer
  obtain ⟨produced, same⟩ := Prod.mk.inj (advanced.symm.trans given)
  have turn := turn_next accounted.balanced.isSettled
  have placed := turn.placed accounted.balanced produced
  rw [← same]
  exact placed

/-- A request that fails in its check has taken an indent. One more is owed then, and it
comes before the line is scanned. -/
theorem layout_balanced_of_failed_request :
    let lines := linesOfBytes [0x61, 0x0A, 0x20, 0x20, 0x62]
    let requests : List Request := [.advance, .advance, .expectNext .eof]
    let lexer := (ofLines (.ofWidth 1) lines).afterAll requests
    let history := (ofLines (.ofWidth 1) lines).produced requests
    history = [.id "a", .newline, .indent] ∧ lexer.owed = -1 ∧
      Placed (.ofWidth 1) lines history .indent lexer.advance.2 := by
  intro lines requests lexer history
  have holds := layout_balanced [0x61, 0x0A, 0x20, 0x20, 0x62] 1 requests
  have given : lexer.advance = (.ok .indent, lexer.advance.2) := by decide +kernel
  exact ⟨by decide +kernel, by decide +kernel, holds.2.2.2.2.2 .indent lexer.advance.2 given⟩

end Offside.Lexer
