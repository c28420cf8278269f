import Offside.Proofs.Lexer.History
import Offside.Proofs.UndecodableLines

/-!
# Permanent errors

Requests move a lexer only by advancing it, whatever they expect and whether it is found. A
lexeme that cannot be scanned is never passed: from then on every advance has the same error,
and the lexer and its current token stay as they are.
-/

namespace Offside

/-- Whether an error is about a lexeme that cannot be scanned. -/
def LexError.isFault : LexError → Bool
  | .unterminatedText _ _ | .numberTooLarge _ _ => true
  | .unexpected _ _ | .unreadableLine => false

namespace Lexer

open Text Lexeme

variable {lexer other after : Lexer} {outcome : Except LexError Token} {request : Request}
  {error : LexError}

/-! ## What requests ask of the current token -/

/-- What a request asks of the current token, with its answer. -/
def check (lexer : Lexer) : Request → Except LexError Reply
  | .advance => .ok (.token lexer.current)
  | .expect tag | .expectNext tag => (lexer.expect tag).map .token
  | .expectToken token | .expectNextToken token => (lexer.expectToken token).map fun _ => .agreed
  | .expectId => lexer.expectId.map .name

/-- A request is answered by a check, after an advance if it asks for one. -/
theorem answer_eq (lexer : Lexer) (request : Request) :
    lexer.answer request =
      if request.advances then lexer.advanceThen (check · request)
      else (lexer.check request, lexer) := by
  cases request <;> rfl

/-- A check sees nothing but the current token. -/
theorem check_congr (same : lexer.current = other.current) (request : Request) :
    lexer.check request = other.check request := by
  cases request <;> simp only [check, expect, expectToken, expectId, same]

/-- A check that fails says which token there was, and not that a lexeme cannot be scanned. -/
theorem not_isFault_of_check (fails : lexer.check request = .error error) : ¬error.isFault := by
  have unexpected : ∃ expected found, error = .unexpected expected found := by
    cases request <;> simp only [check, expect, expectToken, expectId] at fails
    case advance => cases fails
    all_goals
      split at fails
      · cases fails
      · cases fails
        exact ⟨_, _, rfl⟩
  obtain ⟨expected, found, rfl⟩ := unexpected
  exact Bool.false_ne_true

theorem advanceThen_of_error {checks : Lexer → Except LexError Reply}
    (fails : lexer.advance = (.error error, after)) :
    lexer.advanceThen checks = (.error error, after) := by
  rw [advanceThen, fails]

/-- An answer that a lexeme cannot be scanned comes from advancing. -/
theorem advance_eq_of_isFault (answered : lexer.answer request = (.error error, after))
    (fault : error.isFault) : lexer.advance = (.error error, after) := by
  rw [answer_eq] at answered
  split at answered
  · rw [advanceThen] at answered
    split at answered
    · exact absurd fault (not_isFault_of_check (congrArg Prod.fst answered))
    next failed =>
      cases answered
      exact failed
  · exact absurd fault (not_isFault_of_check (congrArg Prod.fst answered))

/-- Requests leave a lexer where as many calls of `advance` would as there are requests that
advance. -/
theorem afterAll_eq_afterCalls (lexer : Lexer) (requests : List Request) :
    lexer.afterAll requests = lexer.afterCalls (requests.countP Request.advances) := by
  induction requests generalizing lexer with
  | nil => rfl
  | cons request requests ih =>
      rw [afterAll, ih, answer_snd]
      by_cases advances : request.advances
      · rw [if_pos advances, List.countP_cons_of_pos advances, afterCalls]
      · rw [if_neg advances, List.countP_cons_of_neg advances]

/-! ## Lexemes that cannot be scanned -/

/-- A lexeme that cannot be scanned is not passed: the next turn is the same again, even if
this one came to the line and paid its layout. -/
theorem Turn.next_after_fault (turn : Turn lexer outcome after) (fails : outcome = .error error)
    (fault : error.isFault) : after.next = (outcome, after) := by
  induction turn with
  | space _ ih => exact ih fails
  | fault faulty => exact next_of_faulty _ _ _ _ _ _ faulty
  | skip _ _ ih => exact ih fails
  | enter _ _ ih => exact ih fails
  | undecodable =>
      cases fails
      cases fault
  | _ => cases fails

theorem advance_after_fault (settled : lexer.Settled)
    (advanced : lexer.advance = (.error error, after)) (fault : error.isFault) :
    after.advance = (.error error, after) ∧ after.current = lexer.current := by
  have turn := turn_next settled
  rcases produced : lexer.next with ⟨failure | token, target⟩
  · rw [advance_of_error produced] at advanced
    cases advanced
    rw [produced] at turn
    exact ⟨advance_of_error (turn.next_after_fault rfl fault), turn.current_eq⟩
  · rw [advance_of_next produced] at advanced
    cases advanced

/-- A lexer that fails and stays as it is answers all requests from its current token, or with
its error. -/
theorem answers_of_stuck (stuck : lexer.advance = (.error error, lexer))
    (requests : List Request) :
    lexer.answers requests = requests.map fun request =>
      (if request.advances then .error error else lexer.check request, lexer) := by
  induction requests with
  | nil => rfl
  | cons request requests ih =>
      have answered : lexer.answer request =
          (if request.advances then .error error else lexer.check request, lexer) := by
        rw [answer_eq]
        split
        · exact advanceThen_of_error stuck
        · rfl
      rw [answers, answered, ih, List.map_cons]

/-- Of the requests made so far, it counts only how many of them advance. One that advances
makes its token the current one, whatever the check says. After an error about a lexeme that
cannot be scanned, every request that advances has this very error again, every other is
answered as before the error, and the lexer stays as it is. -/
theorem scan_errors_permanent (bytes : List UInt8) (width : Nat) (first : Lexer)
    (started : start (.ofWidth width) (linesOfBytes bytes) = .ok first)
    (requests : List Request) :
    let lexer := first.afterAll requests
    lexer = first.afterCalls (requests.countP Request.advances) ∧
      (∀ request token after, request.advances → lexer.advance = (.ok token, after) →
        (lexer.answer request).2 = after ∧ after.current = token) ∧
      ∀ request error after, lexer.answer request = (.error error, after) → error.isFault →
        after.current = lexer.current ∧
          ∀ later, after.answers later = later.map fun request =>
            (if request.advances then .error error else (lexer.answer request).1, after) := by
  intro lexer
  have counted := first.afterAll_eq_afterCalls requests
  refine ⟨counted, ?_, ?_⟩
  · intro request token after advances advanced
    rw [answer_snd, if_pos advances, advanced]
    exact ⟨rfl, current_of_advance advanced⟩
  · intro request error after answered fault
    have settled : (first.afterAll requests).Settled := by
      rw [counted]
      exact settled_afterCalls (settled_of_start started) _
    obtain ⟨stuck, sameCurrent⟩ :=
      advance_after_fault settled (advance_eq_of_isFault answered fault) fault
    refine ⟨sameCurrent, fun later => ?_⟩
    rw [answers_of_stuck stuck]
    apply List.map_congr_left
    intro request _
    by_cases advances : request.advances
    · rw [if_pos advances, if_pos advances]
    · rw [if_neg advances, if_neg advances, answer_eq, if_neg advances, check_congr sameCurrent]

/-- A check fails and its token is consumed all the same. In the line after it the layout is
paid and the spaces are passed, and then a text that does not end is reported once and for
all. -/
theorem scan_errors_permanent_of_unterminated :
    let bytes : List UInt8 := [0x61, 0x0A, 0x20, 0x62, 0x20, 0x27, 0x63]
    let layout := Layout.ofWidth 1
    let first := (ofLines layout (linesOfBytes bytes)).advance.2
    let lexer := first.afterAll [.expectNext .id, .advance, .expectNextToken .eof]
    let after := lexer.advance.2
    let stuck : Except LexError Reply := .error (.unterminatedText 2 4)
    start layout (linesOfBytes bytes) = .ok first ∧
      (first.answer (.expectNext .id)).1 = .error (.unexpected (.tag .id) .newline) ∧
      lexer = first.afterCalls 3 ∧ lexer.answer (.expectNext .number) = (stuck, after) ∧
      after.answers [.expectId, .advance, .expectNextToken (.id "c"), .expect .id] =
        [(.ok (.name "b"), after), (stuck, after), (stuck, after),
          (.ok (.token (.id "b")), after)] := by
  intro bytes layout first lexer after stuck
  have started : start layout (linesOfBytes bytes) = .ok first := by decide +kernel
  obtain ⟨counted, _, permanent⟩ := scan_errors_permanent bytes 1 first started
    [.expectNext .id, .advance, .expectNextToken .eof]
  have fails : lexer.answer (.expectNext .number) = (stuck, after) := by decide +kernel
  refine ⟨started, by decide +kernel, counted, fails, ?_⟩
  rw [(permanent (.expectNext .number) _ after fails rfl).2]
  decide +kernel

end Lexer

end Offside
