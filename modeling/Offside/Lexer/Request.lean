import Offside.Lexer

/-!
# Requests to a lexer

What a reader of tokens asks of a lexer: to advance, to check the current token
against a kind or a value, or to do both in turn. A check never moves the lexer.
-/

namespace Offside.Lexer

/-- The current token, if it is of the given kind. -/
def expect (lexer : Lexer) (tag : Tag) : Except LexError Token :=
  if lexer.current.is tag then .ok lexer.current
  else .error (.unexpected (.tag tag) lexer.current)

/-- Succeeds if the current token is the given one, value included. -/
def expectToken (lexer : Lexer) (token : Token) : Except LexError Unit :=
  if lexer.current = token then .ok ()
  else .error (.unexpected (.token token) lexer.current)

/-- The name in the current token, if it is an identifier. -/
def expectId (lexer : Lexer) : Except LexError String :=
  match lexer.current.asId? with
  | some name => .ok name
  | none => .error (.unexpected (.tag .id) lexer.current)

/-- A request to a lexer. -/
inductive Request where
  | advance
  | expect (tag : Tag)
  | expectToken (token : Token)
  | expectId
  | expectNext (tag : Tag)
  | expectNextToken (token : Token)
  deriving DecidableEq, Repr

/-- Whether a request asks for the next token first. -/
def Request.advances : Request → Bool
  | .advance | .expectNext _ | .expectNextToken _ => true
  | .expect _ | .expectToken _ | .expectId => false

/-- The answer to a request that succeeds. -/
inductive Reply where
  | token (token : Token)
  | name (name : String)
  | agreed
  deriving DecidableEq, Repr

/-- Advances and then checks the new current token. -/
def advanceThen (lexer : Lexer) (check : Lexer → Except LexError Reply) :
    Except LexError Reply × Lexer :=
  match lexer.advance with
  | (.ok _, lexer) => (check lexer, lexer)
  | (.error error, lexer) => (.error error, lexer)

/-- Answers one request. -/
def answer (lexer : Lexer) : Request → Except LexError Reply × Lexer
  | .advance => lexer.advanceThen fun lexer => .ok (.token lexer.current)
  | .expect tag => ((lexer.expect tag).map .token, lexer)
  | .expectToken token => ((lexer.expectToken token).map fun _ => .agreed, lexer)
  | .expectId => (lexer.expectId.map .name, lexer)
  | .expectNext tag => lexer.advanceThen fun lexer => (lexer.expect tag).map .token
  | .expectNextToken token =>
      lexer.advanceThen fun lexer => (lexer.expectToken token).map fun _ => .agreed

/-- Answers requests in turn. Every answer comes with the lexer that gave it, and
an error does not end the list. -/
def answers (lexer : Lexer) : List Request → List (Except LexError Reply × Lexer)
  | [] => []
  | request :: requests =>
      let answered := lexer.answer request
      answered :: answered.2.answers requests

end Offside.Lexer
