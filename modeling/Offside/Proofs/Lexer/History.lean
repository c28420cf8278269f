import Mathlib.Data.List.DropRight
import Offside.Lexer.Request

/-!
# What a lexer has given

The tokens that a lexer has produced so far, whatever was asked of it, and two
readings of such a history: how many levels it has open, and what it has given since
the last newline.
-/

namespace Offside

namespace Token

/-- Indents and dedents change the level, all other tokens stay on it. -/
def isShift : Token → Bool
  | .indent | .dedent => true
  | _ => false

end Token

/-- The indents of a history less its dedents. -/
def balance (history : List Token) : Int :=
  history.count .indent - history.count .dedent

/-- The tokens since the last newline. -/
def sinceNewline (history : List Token) : List Token :=
  history.rtakeWhile (· != .newline)

/-- Any indents or dedents come first, and all of them are of one kind. -/
def ShiftsFirst (tokens : List Token) : Prop :=
  ∃ levels shift others, tokens = List.replicate levels shift ++ others ∧
    shift.isShift ∧ ∀ token ∈ others, ¬token.isShift

variable {history tokens : List Token} {token : Token} {levels : Nat}

theorem balance_append (history tokens : List Token) :
    balance (history ++ tokens) = balance history + balance tokens := by
  simp only [balance, List.count_append]
  omega

@[simp] theorem balance_append_indent : balance (history ++ [.indent]) = balance history + 1 :=
  balance_append ..

@[simp] theorem balance_append_dedent : balance (history ++ [.dedent]) = balance history - 1 :=
  balance_append ..

theorem balance_append_of_not_isShift (stays : ¬token.isShift) :
    balance (history ++ [token]) = balance history := by
  cases token with
  | indent => exact absurd rfl stays
  | dedent => exact absurd rfl stays
  | _ => exact (balance_append ..).trans (Int.add_zero _)

@[simp] theorem sinceNewline_append_newline : sinceNewline (history ++ [.newline]) = [] :=
  List.rtakeWhile_concat_neg _ _ _ (by decide)

theorem sinceNewline_append (within : token ≠ .newline) :
    sinceNewline (history ++ [token]) = sinceNewline history ++ [token] :=
  List.rtakeWhile_concat_pos _ _ _ (bne_iff_ne.mpr within)

theorem shiftsFirst_nil : ShiftsFirst [] :=
  ⟨0, .indent, [], rfl, rfl, fun _ member => nomatch member⟩

theorem shiftsFirst_replicate (shifts : token.isShift) :
    ShiftsFirst (List.replicate levels token) :=
  ⟨levels, token, [], (List.append_nil _).symm, shifts, fun _ member => nomatch member⟩

/-- Tokens that stay on the level may come at any time. -/
theorem ShiftsFirst.append (first : ShiftsFirst tokens) (stays : ¬token.isShift) :
    ShiftsFirst (tokens ++ [token]) := by
  obtain ⟨levels, shift, others, rfl, shifts, staying⟩ := first
  refine ⟨levels, shift, others ++ [token], List.append_assoc .., shifts, ?_⟩
  intro other member
  rcases List.mem_append.mp member with earlier | last
  · exact staying other earlier
  · exact List.mem_singleton.mp last ▸ stays

namespace Lexer

/-- The token that answering a request produces, if it produces one. A request that
fails in its check has produced a token all the same. -/
def produces (lexer : Lexer) (request : Request) : Option Token :=
  if request.advances then lexer.advance.1.toOption else none

/-- The tokens that answering requests in turn produces. -/
def produced : Lexer → List Request → List Token
  | _, [] => []
  | lexer, request :: requests =>
      (lexer.produces request).toList ++ produced (lexer.answer request).2 requests

/-- A lexer after answering requests in turn. -/
def afterAll : Lexer → List Request → Lexer
  | lexer, [] => lexer
  | lexer, request :: requests => afterAll (lexer.answer request).2 requests

theorem advanceThen_snd (lexer : Lexer) (check : Lexer → Except LexError Reply) :
    (lexer.advanceThen check).2 = lexer.advance.2 := by
  rw [advanceThen]
  split
  next advanced => rw [advanced]
  next advanced => rw [advanced]

/-- Only the requests that advance move a lexer, and they move it as `advance` does. -/
theorem answer_snd (lexer : Lexer) (request : Request) :
    (lexer.answer request).2 = if request.advances then lexer.advance.2 else lexer := by
  cases request with
  | advance => exact advanceThen_snd ..
  | expect => rfl
  | expectToken => rfl
  | expectId => rfl
  | expectNext => exact advanceThen_snd ..
  | expectNextToken => exact advanceThen_snd ..

end Lexer

end Offside
