import Mathlib.Tactic.SplitIfs
import Offside.Proofs.Cursor.Lexer
import Offside.Proofs.Lexeme.Grammar

/-!
# Scanning at a cursor

Where a cursor stands between two characters, the part of the line behind it can be cut off. Each
lexeme of the grammar is then passed as a whole, although its bytes are counted by its kind: the
bytes of digits, the position where a word ends, the positions along a literal, and two bytes
for a comparison. So the cursor stands between two characters again.
-/

namespace Offside

open Text Lexeme

/-! ## Bytes that are counted -/

namespace Lexeme

variable {quote char first second : Char} {chars rest after digits word body value : List Char}
  {position bytes : Nat}

theorem isDigit_iff : char.isDigit ↔ 48 ≤ char.val.toNat ∧ char.val.toNat ≤ 57 := by
  simp only [Char.isDigit, Bool.and_eq_true, decide_eq_true_eq]
  rfl

theorem isDigitByte_ofNat {byte : Nat} (small : byte < 256) :
    isDigitByte (UInt8.ofNat byte) ↔ 48 ≤ byte ∧ byte ≤ 57 := by
  simp only [isDigitByte, Bool.and_eq_true, decide_eq_true_eq, UInt8.le_iff_toNat_le,
    UInt8.toNat_ofNat_of_lt' small]
  rfl

/-- A digit is one byte, and no other character begins with the byte of a digit. -/
theorem exists_utf8EncodeChar_eq_cons (char : Char) :
    ∃ first more, String.utf8EncodeChar char = first :: more ∧
      (isDigitByte first ↔ char.isDigit) ∧ (char.isDigit → more = []) := by
  simp only [String.utf8EncodeChar, isDigit_iff]
  split_ifs
  · exact ⟨_, _, rfl, isDigitByte_ofNat (by omega), fun _ => rfl⟩
  -- More than one byte: the first of them is too large.
  all_goals
    refine ⟨_, _, rfl, ?_, fun digit => ?_⟩
    · rw [isDigitByte_ofNat (by omega)]
      omega
    · omega

theorem digitBytes_append (run : ∀ digit ∈ digits, digit.isDigit)
    (ends : ∀ next ∈ after.head?, ¬next.isDigit) :
    digitBytes (digits ++ after) = utf8Length digits := by
  induction digits with
  | nil =>
      cases after with
      | nil => rfl
      | cons next after =>
          obtain ⟨first, more, encoded, digit, _⟩ := exists_utf8EncodeChar_eq_cons next
          have stops : ¬isDigitByte first := mt digit.mp (ends next rfl)
          rw [digitBytes, List.nil_append, List.flatMap_cons, encoded, List.cons_append,
            List.takeWhile_cons_of_neg stops]
          rfl
  | cons char digits ih =>
      obtain ⟨isDigit, run⟩ := List.forall_mem_cons.mp run
      obtain ⟨first, more, encoded, digit, single⟩ := exists_utf8EncodeChar_eq_cons char
      have size := String.length_utf8EncodeChar char
      rw [encoded, single isDigit] at size
      rw [digitBytes, List.cons_append, List.flatMap_cons, encoded, single isDigit,
        List.singleton_append, List.takeWhile_cons_of_pos (digit.mpr isDigit), List.length_cons,
        utf8Length_cons, ← size, ← ih run, Nat.add_comm]
      rfl

/-- The position where a word ends is its length, and a word may also end the text. -/
theorem position?_append (wordChars : ∀ char ∈ word, ¬isReserved char)
    (ends : ∀ next ∈ after.head?, isReserved next) :
    (position? isReserved (word ++ after)).getD (utf8Length (word ++ after)) =
      utf8Length word := by
  induction word with
  | nil =>
      cases after with
      | nil => rfl
      | cons next after =>
          rw [List.nil_append, position?, if_pos (ends next rfl)]
          rfl
  | cons char word ih =>
      obtain ⟨wordChar, wordChars⟩ := List.forall_mem_cons.mp wordChars
      have later := ih wordChars
      rw [List.cons_append, position?, if_neg wordChar, utf8Length_cons, utf8Length_cons]
      cases found : position? isReserved (word ++ after) with
      | none =>
          rw [found, Option.getD_none] at later
          rw [Option.map_none, Option.getD_none, later]
      | some bytes =>
          rw [found, Option.getD_some] at later
          rw [Option.map_some, Option.getD_some, later]

theorem position?_of_isReserved (ends : isReserved first) :
    position? isReserved (first :: rest) = some 0 :=
  if_pos ends

/-- The position after a literal is counted along its items. -/
theorem readItemsAt_append (opens : isQuote quote) (items : Items quote body value)
    (after : List Char) (position : Nat) :
    readItemsAt quote (body ++ quote :: after) position =
      some (value, position + utf8Length body + quote.utf8Size) := by
  induction items generalizing position with
  | none =>
      rw [List.nil_append, readItemsAt.eq_def]
      simp only [if_true, utf8Length_nil, Nat.add_zero]
  | plain notQuote notBackslash _ ih =>
      rw [List.cons_append, readItemsAt.eq_def]
      simp only [notQuote, notBackslash, if_false, ih, Option.map_some, utf8Length_cons,
        Nat.add_assoc]
  | escape escaped _ ih =>
      rw [List.cons_append, List.cons_append, readItemsAt.eq_def]
      simp only [(ne_backslash_of_isQuote opens).symm, if_true, if_false, ih, Option.map_some,
        utf8Length_cons, Nat.add_assoc]

/-- Whatever is read was a body and its closing quote. -/
theorem exists_items_of_readItemsAt
    (read : readItemsAt quote chars position = some (value, bytes)) :
    ∃ body after, Items quote body value ∧ chars = body ++ quote :: after := by
  fun_induction readItemsAt quote chars position generalizing value with
  | case1 => cases read
  | case2 rest position =>
      cases read
      exact ⟨[], rest, .none, rfl⟩
  | case3 => cases read
  | case4 position escaped rest _ ih =>
      obtain ⟨⟨inner, position⟩, found, same⟩ := Option.map_eq_some_iff.mp read
      cases same
      obtain ⟨body, after, items, rfl⟩ := ih found
      exact ⟨backslash :: escaped :: body, after, .escape escaped items, rfl⟩
  | case5 char rest position notQuote notBackslash ih =>
      obtain ⟨⟨inner, position⟩, found, same⟩ := Option.map_eq_some_iff.mp read
      cases same
      obtain ⟨body, after, items, rfl⟩ := ih found
      exact ⟨char :: body, after, .plain notQuote notBackslash items, rfl⟩

/-- Nothing is read where no quote closes a body. -/
theorem readItemsAt_eq_none
    (unclosed : ∀ body value after, Items quote body value → chars ≠ body ++ quote :: after) :
    readItemsAt quote chars position = none := by
  rw [Option.eq_none_iff_forall_ne_some]
  rintro ⟨value, bytes⟩ read
  obtain ⟨body, after, items, same⟩ := exists_items_of_readItemsAt read
  exact unclosed body value after items same

/-- A comparison is two bytes. -/
theorem comparator?_of_symbols {sign : Comparator} (written : sign.symbols = (first, second)) :
    comparator? (first :: second :: rest) = some sign := by
  have two : utf8Length [first, second] = 2 := by
    cases sign <;> cases written <;> rfl
  have parts := cut?_append [first, second] rest
  rw [two, List.cons_append, List.singleton_append] at parts
  rw [comparator?, parts]
  exact Comparator.ofSymbols?_eq_some_iff.mpr written

/-- Two bytes that are one character, or that end inside of one, are no comparison. -/
theorem comparator?_eq_none (alone : ∀ second ∈ rest.head?, ∀ sign : Comparator,
    sign.symbols ≠ (first, second)) : comparator? (first :: rest) = none := by
  rw [comparator?]
  split
  next cut =>
    obtain ⟨same, _⟩ := cut?_eq_some_iff.mp cut
    cases same
    rw [Option.eq_none_iff_forall_ne_some]
    intro sign found
    exact alone _ rfl sign (Comparator.ofSymbols?_eq_some_iff.mp found)
  next => rfl

end Lexeme

/-! ## Where the cursor stands -/

namespace CursorLexer

/-- The cursor has passed a part of the line and stands before the rest of it, and the columns
of the line are words. -/
structure StandsBefore (lexer : CursorLexer) (rest : List Char) : Prop where
  exists_passed : ∃ passed, passed ++ rest = lexer.line ∧ utf8Length passed = lexer.cursor
  short : lexer.indent + utf8Length lexer.line < 2 ^ 63

/-- The lexer with its cursor behind a part of the rest. -/
def passing (lexer : CursorLexer) (part : List Char) : CursorLexer :=
  { lexer with cursor := lexer.cursor + utf8Length part }

/-- The error for a lexeme that cannot be scanned at the cursor. -/
def faultError (lexer : CursorLexer) : Fault → LexError
  | .unterminated => .unterminatedText lexer.lineNumber (lexer.indent + lexer.cursor + 1)
  | .tooLarge digits => .numberTooLarge (String.ofList digits) lexer.lineNumber

variable {lexer : CursorLexer} {lexeme part rest after : List Char} {token : Token} {fault : Fault}

namespace StandsBefore

theorem cursor_add (stands : lexer.StandsBefore rest) :
    lexer.cursor + utf8Length rest = utf8Length lexer.line := by
  obtain ⟨passed, parts, length⟩ := stands.exists_passed
  rw [← parts, ← length, utf8Length_append]

theorem passing (stands : lexer.StandsBefore (part ++ rest)) :
    (lexer.passing part).StandsBefore rest := by
  obtain ⟨passed, parts, length⟩ := stands.exists_passed
  refine ⟨⟨passed ++ part, ?_, ?_⟩, stands.short⟩
  · rw [List.append_assoc]
    exact parts
  · rw [utf8Length_append, length]
    rfl

/-! ## Steps at the cursor -/

theorem rest_eq (stands : lexer.StandsBefore rest) : lexer.rest = .ok rest := by
  obtain ⟨passed, parts, length⟩ := stands.exists_passed
  rw [CursorLexer.rest, ← parts, ← length, cut_append]
  rfl

theorem move_eq (stands : lexer.StandsBefore (part ++ rest)) :
    lexer.move (utf8Length part) = .ok (lexer.passing part) := by
  have whole := stands.cursor_add
  have short := stands.short
  rw [utf8Length_append] at whole
  rw [move, Word.unsigned_add (by omega)]
  rfl

theorem column_eq (stands : lexer.StandsBefore rest) :
    lexer.column = .ok (lexer.indent + lexer.cursor + 1) := by
  have whole := stands.cursor_add
  have short := stands.short
  have fits : lexer.indent + lexer.cursor + 1 < 2 ^ 64 := by omega
  rw [column, Word.unsigned_add (by omega), Checked.ok_bind]
  exact Word.unsigned_add fits

theorem skipSpaces_eq (stands : lexer.StandsBefore rest) :
    lexer.skipSpaces = .ok (lexer.passing (rest.takeWhile (· == ' '))) := by
  have parts : rest.takeWhile (· == ' ') ++ rest.dropWhile (· == ' ') = rest :=
    List.takeWhile_append_dropWhile
  have whole := stands.cursor_add
  have short := stands.short
  have lengths := congrArg utf8Length parts
  rw [utf8Length_append] at lengths
  have spaces : utf8Length rest - utf8Length (rest.dropWhile (· == ' ')) =
      utf8Length (rest.takeWhile (· == ' ')) := by omega
  rw [skipSpaces, stands.rest_eq, Checked.ok_bind, Word.unsigned_sub (by omega) (by omega),
    Checked.ok_bind, spaces]
  rw [← parts] at stands
  exact stands.move_eq

/-! ## Lexemes at the cursor -/

theorem scanText_of_items {quote : Char} {body value : List Char} (opens : isQuote quote)
    (items : Items quote body value)
    (stands : lexer.StandsBefore (quote :: body ++ [quote] ++ after)) :
    lexer.scanText =
      .ok (.ok (.text (String.ofList value)), lexer.passing (quote :: body ++ [quote])) := by
  have read : readLiteral (quote :: body ++ [quote] ++ after) =
      some (value, utf8Length (quote :: body ++ [quote])) := by
    rw [utf8Length_append, utf8Length_cons, List.append_assoc]
    exact readItemsAt_append opens items after quote.utf8Size
  rw [scanText, stands.rest_eq, Checked.ok_bind, read]
  simp only [stands.move_eq, Checked.ok_bind]
  rfl

theorem scanText_of_unclosed {quote : Char} (stands : lexer.StandsBefore (quote :: rest))
    (unclosed : ∀ body value after, Items quote body value → rest ≠ body ++ quote :: after) :
    lexer.scanText = .ok (.error (lexer.faultError .unterminated), lexer) := by
  have unread : readLiteral (quote :: rest) = none := readItemsAt_eq_none unclosed
  rw [scanText, stands.rest_eq, Checked.ok_bind, unread]
  simp only [stands.column_eq, Checked.ok_bind]
  rfl

/-- A run of digits is cut off, and is a number if it is not too large. -/
theorem scanNumber_eq {digits : List Char} (run : ∀ digit ∈ digits, digit.isDigit)
    (ends : ∀ next ∈ after.head?, ¬next.isDigit) (stands : lexer.StandsBefore (digits ++ after)) :
    lexer.scanNumber =
      if Nat.ofDigitChars 10 digits 0 ≤ 2147483647 then
        .ok (.ok (.number (Int32.ofNat (Nat.ofDigitChars 10 digits 0))), lexer.passing digits)
      else .ok (.error (lexer.faultError (.tooLarge digits)), lexer) := by
  simp only [scanNumber, stands.rest_eq, Checked.ok_bind, digitBytes_append run ends, cut_append,
    numberToken?_eq]
  by_cases bounded : Nat.ofDigitChars 10 digits 0 ≤ 2147483647
  · simp only [if_pos bounded, stands.move_eq, Checked.ok_bind]
    rfl
  · simp only [if_neg bounded]
    rfl

theorem scanWord_of_word {first : Char} {more : List Char}
    (wordChars : ∀ char ∈ first :: more, ¬isReserved char)
    (ends : ∀ next ∈ after.head?, isReserved next)
    (stands : lexer.StandsBefore (first :: more ++ after)) :
    lexer.scanWord first =
      .ok (.ok (wordToken (String.ofList (first :: more))), lexer.passing (first :: more)) := by
  have positive : 0 < utf8Length (first :: more) := Nat.add_pos_left first.utf8Size_pos _
  simp only [scanWord, stands.rest_eq, Checked.ok_bind, position?_append wordChars ends,
    if_pos positive, cut_append, stands.move_eq]
  rfl

theorem scanWord_of_symbols {first second : Char} {sign : Comparator}
    (written : sign.symbols = (first, second))
    (stands : lexer.StandsBefore ([first, second] ++ after)) :
    lexer.scanWord first = .ok (.ok (.comparator sign), lexer.passing [first, second]) := by
  have two : utf8Length [first, second] = 2 := by
    cases sign <;> cases written <;> rfl
  have moved := stands.move_eq
  rw [two] at moved
  simp only [scanWord, stands.rest_eq, Checked.ok_bind, List.cons_append, List.nil_append,
    position?_of_isReserved (isReserved_of_symbols written).1, Option.getD_some,
    Nat.lt_irrefl, if_false, comparator?_of_symbols written, moved]
  rfl

theorem scanWord_of_symbol {char : Char} (ends : isReserved char)
    (alone : ∀ second ∈ after.head?, ∀ sign : Comparator, sign.symbols ≠ (char, second))
    (stands : lexer.StandsBefore ([char] ++ after)) :
    lexer.scanWord char = .ok (.ok (.char char), lexer.passing [char]) := by
  have moved : lexer.move char.utf8Size = .ok (lexer.passing [char]) := stands.move_eq
  simp only [scanWord, stands.rest_eq, Checked.ok_bind, List.cons_append, List.nil_append,
    position?_of_isReserved ends, Option.getD_some, Nat.lt_irrefl, if_false,
    comparator?_eq_none alone, moved]
  rfl

/-- A lexeme of the grammar is scanned, and the cursor passes all of it. -/
theorem scanToken_of_lexes (stands : lexer.StandsBefore (lexeme ++ after))
    (lexes : Lexes lexeme token after) :
    lexer.scanToken = .ok (.ok token, lexer.passing lexeme) := by
  rw [scanToken, stands.rest_eq, Checked.ok_bind]
  cases lexes with
  | @number digits _ nonempty run ends bounded =>
      obtain ⟨first, more, rfl⟩ := List.exists_cons_of_ne_nil nonempty
      obtain ⟨digit, _⟩ := List.forall_mem_cons.mp run
      simp only [List.cons_append]
      rw [if_neg (not_isQuote_of_isDigit digit), if_pos digit, stands.scanNumber_eq run ends,
        if_pos bounded]
  | @text quote body value _ opens items =>
      simp only [List.cons_append]
      rw [if_pos opens]
      exact stands.scanText_of_items opens items
  | @word first more _ noQuote noDigit wordChars ends =>
      have noComment : first ≠ '#' := by
        rintro rfl
        exact wordChars _ List.mem_cons_self isReserved_hash
      simp only [List.cons_append]
      rw [if_neg noQuote, if_neg noDigit, if_neg noComment]
      exact stands.scanWord_of_word wordChars ends
  | @comparator first second _ sign written =>
      obtain ⟨ends, _, noComment⟩ := isReserved_of_symbols written
      simp only [List.cons_append]
      rw [if_neg (not_isQuote_of_isReserved ends), if_neg (not_isDigit_of_isReserved ends),
        if_neg noComment]
      exact stands.scanWord_of_symbols written
  | @symbol char _ ends _ noComment alone =>
      simp only [List.cons_append]
      rw [if_neg (not_isQuote_of_isReserved ends), if_neg (not_isDigit_of_isReserved ends),
        if_neg noComment]
      exact stands.scanWord_of_symbol ends alone

/-- A fault of the grammar is reported, and the cursor stays. -/
theorem scanToken_of_faulty (stands : lexer.StandsBefore rest) (faulty : Faulty rest fault) :
    lexer.scanToken = .ok (.error (lexer.faultError fault), lexer) := by
  rw [scanToken, stands.rest_eq, Checked.ok_bind]
  cases faulty with
  | @unterminated quote rest opens unclosed =>
      simp only
      rw [if_pos opens]
      exact stands.scanText_of_unclosed unclosed
  | @tooLarge digits after nonempty run ends excessive =>
      obtain ⟨first, more, rfl⟩ := List.exists_cons_of_ne_nil nonempty
      obtain ⟨digit, _⟩ := List.forall_mem_cons.mp run
      simp only [List.cons_append]
      rw [if_neg (not_isQuote_of_isDigit digit), if_pos digit, stands.scanNumber_eq run ends,
        if_neg (Nat.not_le_of_lt excessive)]

theorem scanToken_hash (stands : lexer.StandsBefore ('#' :: rest)) :
    lexer.scanToken = .ok (.ok .newline, lexer.clearLine) := by
  rw [scanToken, stands.rest_eq]
  rfl

end StandsBefore

end CursorLexer

end Offside
