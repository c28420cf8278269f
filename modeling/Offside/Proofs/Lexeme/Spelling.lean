import Offside.Proofs.Lexeme.Grammar
import Offside.Text.Blank

/-!
# Spelling tokens

How a token is written: a number in decimal, a text between either quote with its
escapes, a name or a reserved word as it is. Before a space and at the end of a
line the written token is a lexeme, whose token it is.
-/

namespace Offside.Lexeme

open Text

/-- The quotes between which a text can be written. -/
inductive Quote where
  | single | double
  deriving DecidableEq, Repr

/-- The character of a quote. -/
def Quote.char : Quote → Char
  | .single => '\x27'
  | .double => '\x22'

/-- The characters that are tokens on their own. -/
def symbols : List Char :=
  ['.', ',', '(', ')', '+', '-', '*', '/', ':', '<', '>', '=', '!']

/-- A text that is read as one word: visible characters outside the reserved set,
of which the first starts neither a number nor a text. -/
structure IsWord (name : String) : Prop where
  nonempty : name ≠ ""
  unreserved : ∀ char ∈ name.toList, ¬isReserved char
  visible : ∀ char ∈ name.toList, ¬isBlank char
  starts : ∀ first ∈ name.toList.head?, ¬first.isDigit ∧ ¬isQuote first

/-- The tokens that can be written. -/
def Printable : Token → Prop
  | .number value => 0 ≤ value.toInt ∧ value.toInt ≤ 2147483647
  | .id name => IsWord name ∧ ∀ word : Keyword, name ≠ word.text
  | .text _ => True
  | .char symbol => symbol ∈ symbols
  | .keyword _ => True
  | .comparator _ => True
  | .newline | .indent | .dedent | .eof => False

/-- A token as it is written. -/
def spelling (quote : Quote) : Token → List Char
  | .number value => Nat.toDigits 10 value.toInt.toNat
  | .id name => name.toList
  | .text value => quote.char :: writtenItems quote.char value.toList ++ [quote.char]
  | .char symbol => [symbol]
  | .keyword word => word.text.toList
  | .comparator sign => [sign.symbols.1, sign.symbols.2]
  | .newline | .indent | .dedent | .eof => []

variable {after : List Char} {token : Token} {name : String}

/-! ## Words -/

theorem isWord_text (word : Keyword) : IsWord word.text := by
  have every : word.text.toList.all (fun char =>
      !isReserved char && !isBlank char && !char.isDigit && !isQuote char) = true := by
    cases word <;> decide
  simp only [List.all_eq_true, Bool.and_eq_true, Bool.not_eq_true'] at every
  refine ⟨by cases word <;> decide, fun char member => ?_, fun char member => ?_,
    fun first member => ?_⟩
  · simp [(every char member).1.1.1]
  · simp [(every char member).1.1.2]
  · have member := List.mem_of_mem_head? member
    simp [(every first member).1.2, (every first member).2]

theorem IsWord.exists_cons (isWord : IsWord name) :
    ∃ first more, name.toList = first :: more ∧ ¬first.isDigit ∧ ¬isQuote first := by
  cases same : name.toList with
  | nil => exact (isWord.nonempty (String.toList_eq_nil_iff.mp same)).elim
  | cons first more =>
      exact ⟨first, more, rfl, isWord.starts first (by rw [same]; rfl)⟩

/-- A word that is not continued is a lexeme. -/
theorem IsWord.lexes (isWord : IsWord name) (ends : ∀ next ∈ after.head?, isReserved next) :
    Lexes name.toList (wordToken name) after := by
  obtain ⟨first, more, same, noDigit, noQuote⟩ := isWord.exists_cons
  have unreserved := isWord.unreserved
  have whole : String.ofList (first :: more) = name := by rw [← same, String.ofList_toList]
  rw [same] at unreserved ⊢
  rw [← whole]
  exact Lexes.word noQuote noDigit unreserved ends

theorem wordToken_text (word : Keyword) : wordToken word.text = .keyword word := by
  rw [wordToken, Keyword.ofText?_text]

theorem wordToken_of_ne (other : ∀ word : Keyword, name ≠ word.text) :
    wordToken name = .id name := by
  have unknown : Keyword.ofText? name = none := by
    rw [Option.eq_none_iff_forall_ne_some]
    intro word found
    exact other word (Keyword.ofText?_eq_some_iff.mp found)
  rw [wordToken, unknown]

/-! ## Numbers -/

theorem isDigit_of_mem_toDigits {value : Nat} {digit : Char}
    (member : digit ∈ Nat.toDigits 10 value) : digit.isDigit :=
  Nat.isDigit_of_mem_toDigits (by decide) (by decide) member

theorem ofNat_toNat_toInt {value : Int32} (positive : 0 ≤ value.toInt) :
    Int32.ofNat value.toInt.toNat = value := by
  rw [← Int32.ofInt_eq_ofNat, Int.toNat_of_nonneg positive, Int32.ofInt_toInt]

/-! ## Every token -/

theorem isQuote_char (quote : Quote) : isQuote quote.char := by
  cases quote <;> decide

theorem of_mem_symbols {symbol : Char} (member : symbol ∈ symbols) :
    isReserved symbol ∧ symbol ≠ ' ' ∧ symbol ≠ '#' ∧ ¬isBlank symbol ∧ symbol ≠ '\n' ∧
      symbol ≠ '\x0d' := by
  have every : symbols.all (fun char => isReserved char && char != ' ' && char != '#' &&
      !isBlank char && char != '\n' && char != '\x0d') = true := by decide
  have holds := List.all_eq_true.mp every symbol member
  simpa [and_assoc] using holds

/-- Before a space and at the end of a line a written token is a lexeme. -/
theorem Printable.lexes (printable : Printable token) (quote : Quote)
    (separated : ∀ next ∈ after.head?, next = ' ') : Lexes (spelling quote token) token after := by
  have ends : ∀ next ∈ after.head?, isReserved next := by
    intro next follows
    rw [separated next follows]
    exact isReserved_space
  cases token with
  | number value =>
      have lexes := @Lexes.number (Nat.toDigits 10 value.toInt.toNat) after Nat.toDigits_ne_nil
        (fun digit => isDigit_of_mem_toDigits)
        (fun next follows => by rw [separated next follows]; decide)
        (by
          rw [Nat.ofDigitChars_ten_toDigits]
          exact Int.toNat_le.mpr printable.2)
      rw [Nat.ofDigitChars_ten_toDigits, ofNat_toNat_toInt printable.1] at lexes
      exact lexes
  | id name =>
      have lexes := printable.1.lexes ends
      rw [wordToken_of_ne printable.2] at lexes
      exact lexes
  | text value =>
      have lexes := @Lexes.text quote.char _ _ after (isQuote_char quote)
        (items_writtenItems (isQuote_char quote) value.toList)
      rw [String.ofList_toList] at lexes
      exact lexes
  | char symbol =>
      obtain ⟨ends, noSpace, noComment, _⟩ := of_mem_symbols printable
      refine .symbol ends noSpace noComment fun second follows sign written => ?_
      rw [separated second follows] at written
      cases sign <;> cases written
  | keyword word =>
      have lexes := (isWord_text word).lexes ends
      rw [wordToken_text] at lexes
      exact lexes
  | comparator sign => exact .comparator sign rfl
  | newline | indent | dedent | eof => exact printable.elim

/-! ## What a written token keeps clear of -/

theorem not_isBlank_of_isDigit {char : Char} (digit : char.isDigit) : ¬isBlank char := by
  simp only [Char.isDigit, Bool.and_eq_true, decide_eq_true_eq, ge_iff_le] at digit
  have lower : 48 ≤ char.toNat := UInt32.le_iff_toNat_le.mp digit.1
  have upper : char.toNat ≤ 57 := UInt32.le_iff_toNat_le.mp digit.2
  intro blank
  obtain ⟨range, member, inside⟩ := List.any_eq_true.mp blank
  simp only [CodeRange.contains, Bool.and_eq_true, decide_eq_true_eq] at inside
  have apart : blankRanges.all (fun range => range.last < 48 || 57 < range.first) = true := by
    decide
  have apart := List.all_eq_true.mp apart range member
  simp only [Bool.or_eq_true, decide_eq_true_eq] at apart
  omega

theorem not_isBlank_of_isQuote {char : Char} (quote : isQuote char) : ¬isBlank char := by
  simp only [isQuote, Bool.or_eq_true, beq_iff_eq] at quote
  rcases quote with rfl | rfl <;> decide

theorem ne_lineEnd_of_not_isBlank {char : Char} (visible : ¬isBlank char) :
    char ≠ '\n' ∧ char ≠ '\x0d' := by
  constructor
  · rintro rfl
    exact visible (by decide)
  · rintro rfl
    exact visible (by decide)

/-- A written token is not empty, and starts neither a blank nor a comment. -/
theorem Printable.exists_cons (printable : Printable token) (quote : Quote) :
    ∃ first more, spelling quote token = first :: more ∧ ¬isBlank first ∧ first ≠ '#' := by
  obtain ⟨first, more, same, _, noComment, _⟩ :=
    (printable.lexes quote (fun next (follows : next ∈ [].head?) => by cases follows)).scan_append
  refine ⟨first, more, same, ?_, noComment⟩
  have member : first ∈ spelling quote token := by
    rw [same]
    exact List.mem_cons_self
  cases token with
  | number value => exact not_isBlank_of_isDigit (isDigit_of_mem_toDigits member)
  | id name => exact printable.1.visible first member
  | text value =>
      rw [← (List.cons.inj same).1]
      exact not_isBlank_of_isQuote (isQuote_char quote)
  | char symbol =>
      rw [← (List.cons.inj same).1]
      exact (of_mem_symbols printable).2.2.2.1
  | keyword word => exact (isWord_text word).visible first member
  | comparator sign =>
      rw [← (List.cons.inj same).1]
      cases sign <;> decide
  | newline | indent | dedent | eof => exact printable.elim

theorem ne_lineEnd_of_mem_writtenItems {quote char : Char} {value : List Char}
    (opens : isQuote quote) (member : char ∈ writtenItems quote value) :
    char ≠ '\n' ∧ char ≠ '\x0d' := by
  obtain ⟨source, _, member⟩ := List.mem_flatMap.mp member
  have visible := ne_lineEnd_of_not_isBlank (not_isBlank_of_isQuote opens)
  have escaped {letter : Char} (clear : letter ≠ '\n' ∧ letter ≠ '\x0d')
      (member : char ∈ [backslash, letter]) : char ≠ '\n' ∧ char ≠ '\x0d' := by
    rcases List.mem_cons.mp member with rfl | member
    · decide
    · rw [List.mem_singleton.mp member]
      exact clear
  unfold writtenChar at member
  split at member
  next special =>
    apply escaped _ member
    rcases special with rfl | rfl
    · exact visible
    · decide
  split at member
  next => exact escaped (by decide) member
  split at member
  next => exact escaped (by decide) member
  split at member
  next => exact escaped (by decide) member
  next noFeed noReturn _ =>
    rw [List.mem_singleton.mp member]
    exact ⟨noFeed, noReturn⟩

/-- A written token stays on its line. -/
theorem Printable.ne_lineEnd (printable : Printable token) (quote : Quote) {char : Char}
    (member : char ∈ spelling quote token) : char ≠ '\n' ∧ char ≠ '\x0d' := by
  cases token with
  | number value =>
      exact ne_lineEnd_of_not_isBlank (not_isBlank_of_isDigit (isDigit_of_mem_toDigits member))
  | id name => exact ne_lineEnd_of_not_isBlank (printable.1.visible char member)
  | text value =>
      have quoteVisible := ne_lineEnd_of_not_isBlank (not_isBlank_of_isQuote (isQuote_char quote))
      simp only [spelling, List.cons_append, List.mem_cons, List.mem_append, List.not_mem_nil,
        or_false] at member
      rcases member with rfl | member | rfl
      · exact quoteVisible
      · exact ne_lineEnd_of_mem_writtenItems (isQuote_char quote) member
      · exact quoteVisible
  | char symbol =>
      obtain rfl := List.mem_singleton.mp member
      exact (of_mem_symbols printable).2.2.2.2
  | keyword word => exact ne_lineEnd_of_not_isBlank ((isWord_text word).visible char member)
  | comparator sign =>
      simp only [spelling, List.mem_cons, List.not_mem_nil, or_false] at member
      rcases member with rfl | rfl <;> cases sign <;> decide
  | newline | indent | dedent | eof => exact printable.elim

end Offside.Lexeme
