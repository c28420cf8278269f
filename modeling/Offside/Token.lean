/-!
# Tokens

The vocabulary that the lexer hands out. A token is a value (a number, a name, a
text or a single symbol), a word of the language, a two-character comparison, or
a piece of layout. Its tag forgets the value. Tags have a fixed order, a numeric
code by group, and a name under which tokens are shown.
-/

namespace Offside

/-- The reserved words of the language. -/
inductive Keyword where
  | classWord | returnWord | ifWord | elseWord | defWord | printWord
  | andWord | orWord | notWord | noneWord | trueWord | falseWord
  deriving DecidableEq, Repr

namespace Keyword

/-- Every reserved word, in the order of the codes. -/
def all : List Keyword :=
  [.classWord, .returnWord, .ifWord, .elseWord, .defWord, .printWord,
    .andWord, .orWord, .notWord, .noneWord, .trueWord, .falseWord]

theorem mem_all (word : Keyword) : word ∈ all := by
  cases word <;> simp [all]

/-- The spelling of a reserved word in source text. -/
def text : Keyword → String
  | .classWord => "class"
  | .returnWord => "return"
  | .ifWord => "if"
  | .elseWord => "else"
  | .defWord => "def"
  | .printWord => "print"
  | .andWord => "and"
  | .orWord => "or"
  | .notWord => "not"
  | .noneWord => "None"
  | .trueWord => "True"
  | .falseWord => "False"

/-- The name under which a reserved word is shown. -/
def name : Keyword → String
  | .classWord => "Class"
  | .returnWord => "Return"
  | .ifWord => "If"
  | .elseWord => "Else"
  | .defWord => "Def"
  | .printWord => "Print"
  | .andWord => "And"
  | .orWord => "Or"
  | .notWord => "Not"
  | .noneWord => "None"
  | .trueWord => "True"
  | .falseWord => "False"

/-- Position of a reserved word among all of them. -/
def index : Keyword → Nat
  | .classWord => 0
  | .returnWord => 1
  | .ifWord => 2
  | .elseWord => 3
  | .defWord => 4
  | .printWord => 5
  | .andWord => 6
  | .orWord => 7
  | .notWord => 8
  | .noneWord => 9
  | .trueWord => 10
  | .falseWord => 11

/-- The reserved word with exactly this spelling. Case matters. -/
def ofText? (spelling : String) : Option Keyword :=
  all.find? fun word => word.text == spelling

@[simp] theorem ofText?_text (word : Keyword) : ofText? word.text = some word := by
  cases word <;> decide

/-- A word is reserved exactly when it is spelled like one. -/
theorem ofText?_eq_some_iff {spelling : String} {word : Keyword} :
    ofText? spelling = some word ↔ spelling = word.text := by
  constructor
  · intro found
    have same := List.find?_some found
    exact (by simpa using same : word.text = spelling).symm
  · rintro rfl
    exact ofText?_text word

end Keyword

/-- The comparisons that are written with two characters. -/
inductive Comparator where
  | equal | notEqual | lessOrEqual | greaterOrEqual
  deriving DecidableEq, Repr

namespace Comparator

/-- The two characters of a comparison. -/
def symbols : Comparator → Char × Char
  | .equal => ('=', '=')
  | .notEqual => ('!', '=')
  | .lessOrEqual => ('<', '=')
  | .greaterOrEqual => ('>', '=')

/-- The name under which a comparison is shown. -/
def name : Comparator → String
  | .equal => "Eq"
  | .notEqual => "NotEq"
  | .lessOrEqual => "LessOrEq"
  | .greaterOrEqual => "GreaterOrEq"

/-- Position of a comparison among all of them. -/
def index : Comparator → Nat
  | .equal => 0
  | .notEqual => 1
  | .lessOrEqual => 2
  | .greaterOrEqual => 3

/-- Every two-character comparison, in the order of the codes. -/
def all : List Comparator :=
  [.equal, .notEqual, .lessOrEqual, .greaterOrEqual]

theorem mem_all (comparator : Comparator) : comparator ∈ all := by
  cases comparator <;> simp [all]

/-- The comparison written with these two characters. -/
def ofSymbols? : Char → Char → Option Comparator
  | '=', '=' => some .equal
  | '!', '=' => some .notEqual
  | '<', '=' => some .lessOrEqual
  | '>', '=' => some .greaterOrEqual
  | _, _ => none

theorem ofSymbols?_eq_some_iff {first second : Char} {comparator : Comparator} :
    ofSymbols? first second = some comparator ↔
      comparator.symbols = (first, second) := by
  constructor
  · intro found
    unfold ofSymbols? at found
    split at found <;> cases found <;> rfl
  · intro written
    cases comparator <;> cases written <;> rfl

end Comparator

/-- The kind of a token, without its value. -/
inductive Tag where
  | number | id | text | char
  | keyword (word : Keyword)
  | comparator (sign : Comparator)
  | newline | indent | dedent | eof
  deriving DecidableEq, Repr

namespace Tag

/-- Every tag, in the order of the codes. -/
def all : List Tag :=
  [.number, .id, .text, .char] ++ Keyword.all.map .keyword ++
    Comparator.all.map .comparator ++ [.newline, .indent, .dedent, .eof]

theorem mem_all (tag : Tag) : tag ∈ all := by
  cases tag <;> simp [all, Keyword.mem_all, Comparator.mem_all]

/-- The name of a tag. -/
def name : Tag → String
  | .number => "Number"
  | .id => "Id"
  | .text => "String"
  | .char => "Char"
  | .keyword word => word.name
  | .comparator sign => sign.name
  | .newline => "Newline"
  | .indent => "Indent"
  | .dedent => "Dedent"
  | .eof => "Eof"

/-- The tag with this name. -/
def ofName? (name : String) : Option Tag :=
  all.find? fun tag => tag.name == name

/-- The numeric code of a tag. Valued tags start at 0, reserved words at 10,
comparisons at 30 and layout at 40. -/
def code : Tag → Nat
  | .number => 0
  | .id => 1
  | .text => 2
  | .char => 3
  | .keyword word => 10 + word.index
  | .comparator sign => 30 + sign.index
  | .newline => 40
  | .indent => 41
  | .dedent => 42
  | .eof => 43

/-- Tokens with this tag carry a value. -/
def isValued : Tag → Bool
  | .number | .id | .text | .char => true
  | _ => false

/-- Tokens with this tag are layout: they stand for no characters of their own. -/
def isStructural : Tag → Bool
  | .newline | .indent | .dedent | .eof => true
  | _ => false

end Tag

/-- A token of the language. -/
inductive Token where
  | number (value : Int32)
  | id (name : String)
  | text (value : String)
  | char (symbol : Char)
  | keyword (word : Keyword)
  | comparator (sign : Comparator)
  | newline | indent | dedent | eof
  deriving DecidableEq, Repr

namespace Token

/-- The kind of a token. -/
def tag : Token → Tag
  | .number _ => .number
  | .id _ => .id
  | .text _ => .text
  | .char _ => .char
  | .keyword word => .keyword word
  | .comparator sign => .comparator sign
  | .newline => .newline
  | .indent => .indent
  | .dedent => .dedent
  | .eof => .eof

/-- Whether a token is of the given kind. -/
def is (token : Token) (tag : Tag) : Bool :=
  token.tag == tag

@[simp] theorem is_iff {token : Token} {tag : Tag} : token.is tag ↔ token.tag = tag := by
  simp [is]

/-- The value of a number token. -/
def asNumber? : Token → Option Int32
  | .number value => some value
  | _ => none

/-- The name in an identifier token. -/
def asId? : Token → Option String
  | .id name => some name
  | _ => none

/-- The value of a text token. -/
def asText? : Token → Option String
  | .text value => some value
  | _ => none

/-- The symbol of a single-character token. -/
def asChar? : Token → Option Char
  | .char symbol => some symbol
  | _ => none

/-- The value of a token as text, if it has one. -/
def valueText? : Token → Option String
  | .number value => some (toString value.toInt)
  | .id name => some name
  | .text value => some value
  | .char symbol => some symbol.toString
  | _ => none

/-- Shows a token: the name of its tag, followed by the value in braces if there
is one. -/
def display (token : Token) : String :=
  match token.valueText? with
  | some value => token.tag.name ++ "\x7b" ++ value ++ "\x7d"
  | none => token.tag.name

end Token

end Offside
