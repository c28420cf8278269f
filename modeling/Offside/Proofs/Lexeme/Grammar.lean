import Offside.Lexeme
import Offside.Proofs.Lexeme.Items

/-!
# The grammar of lexemes

What a lexeme is, stated on the text alone: which characters it has, which token
it stands for, and what may follow it, since numbers and words are as long as
they can be. Beside the lexemes stand the two faults. The scanner of one lexeme
agrees with both.
-/

namespace Offside.Lexeme

/-- The characters of a lexeme, its token, and the text after it. -/
inductive Lexes : List Char → Token → List Char → Prop where
  | number {digits after : List Char} :
      digits ≠ [] → (∀ digit ∈ digits, digit.isDigit) → (∀ next ∈ after.head?, ¬next.isDigit) →
      Nat.ofDigitChars 10 digits 0 ≤ 2147483647 →
      Lexes digits (.number (Int32.ofNat (Nat.ofDigitChars 10 digits 0))) after
  | text {quote : Char} {body value after : List Char} :
      isQuote quote → Items quote body value →
      Lexes (quote :: body ++ [quote]) (.text (String.ofList value)) after
  | word {first : Char} {more after : List Char} :
      ¬isQuote first → ¬first.isDigit → (∀ char ∈ first :: more, ¬isReserved char) →
      (∀ next ∈ after.head?, isReserved next) →
      Lexes (first :: more) (wordToken (String.ofList (first :: more))) after
  | comparator {first second : Char} {after : List Char} (sign : Comparator) :
      sign.symbols = (first, second) → Lexes [first, second] (.comparator sign) after
  | symbol {char : Char} {after : List Char} :
      isReserved char → char ≠ ' ' → char ≠ '#' →
      (∀ second ∈ after.head?, ∀ sign : Comparator, sign.symbols ≠ (char, second)) →
      Lexes [char] (.char char) after

/-- The faults that a text can start with: a quote that no quote closes, and a run
of digits that is too large. -/
inductive Faulty : List Char → Fault → Prop where
  | unterminated {quote : Char} {rest : List Char} :
      isQuote quote →
      (∀ body value after, Items quote body value → rest ≠ body ++ quote :: after) →
      Faulty (quote :: rest) .unterminated
  | tooLarge {digits after : List Char} :
      digits ≠ [] → (∀ digit ∈ digits, digit.isDigit) → (∀ next ∈ after.head?, ¬next.isDigit) →
      2147483647 < Nat.ofDigitChars 10 digits 0 →
      Faulty (digits ++ after) (.tooLarge digits)

variable {first : Char} {lexeme rest after : List Char} {token : Token} {fault : Fault}

/-! ## Maximal runs -/

variable {accept : Char → Bool} {run : List Char}

/-- A run of accepted characters is taken whole when the text after it cannot
extend it. -/
theorem takeWhile_append_of_run (accepted : ∀ char ∈ run, accept char)
    (ends : ∀ next ∈ after.head?, ¬accept next) : (run ++ after).takeWhile accept = run := by
  rw [List.takeWhile_append_of_pos accepted]
  cases after with
  | nil => rw [List.takeWhile_nil, List.append_nil]
  | cons next after =>
      rw [List.takeWhile_cons_of_neg (ends next rfl), List.append_nil]

theorem dropWhile_append_of_run (accepted : ∀ char ∈ run, accept char)
    (ends : ∀ next ∈ after.head?, ¬accept next) : (run ++ after).dropWhile accept = after := by
  rw [List.dropWhile_append_of_pos accepted]
  cases after with
  | nil => rfl
  | cons next after => rw [List.dropWhile_cons_of_neg (ends next rfl)]

theorem not_accept_of_mem_head?_dropWhile {next : Char}
    (follows : next ∈ (rest.dropWhile accept).head?) : ¬accept next := by
  have rejected := List.head?_dropWhile_not accept rest
  rw [Option.mem_def.mp follows] at rejected
  simpa using rejected

theorem accept_of_mem_takeWhile {char : Char} (taken : char ∈ rest.takeWhile accept) :
    accept char :=
  List.all_eq_true.mp List.all_takeWhile char taken

/-! ## The classes of first characters -/

theorem not_isQuote_of_isDigit (digit : first.isDigit) : ¬isQuote first := by
  intro quote
  simp only [isQuote, Bool.or_eq_true, beq_iff_eq] at quote
  rcases quote with rfl | rfl <;> exact absurd digit (by decide)

theorem not_isQuote_of_isReserved (ends : isReserved first) : ¬isQuote first := by
  intro quote
  simp only [isQuote, Bool.or_eq_true, beq_iff_eq] at quote
  rcases quote with rfl | rfl <;> exact absurd ends (by decide)

theorem not_isDigit_of_isReserved (ends : isReserved first) : ¬first.isDigit := by
  have every : reserved.all (fun char => !char.isDigit) = true := by decide
  have member : first ∈ reserved := by
    simpa only [isReserved, List.contains_eq_mem, decide_eq_true_eq] using ends
  have noDigit := List.all_eq_true.mp every first member
  simpa using noDigit

theorem isReserved_hash : isReserved '#' := by decide

theorem isReserved_space : isReserved ' ' := by decide

theorem isReserved_of_symbols {second : Char} {sign : Comparator}
    (written : sign.symbols = (first, second)) : isReserved first ∧ first ≠ ' ' ∧ first ≠ '#' := by
  cases sign <;> cases written <;> decide

/-! ## The scanner on each class -/

theorem scan_of_isQuote_of_some {value : List Char} (quote : isQuote first)
    (read : readItems first rest = some (value, after)) :
    scan first rest = .token (.text (String.ofList value)) after := by
  rw [scan, if_pos quote, read]

theorem scan_of_isQuote_of_none (quote : isQuote first) (unread : readItems first rest = none) :
    scan first rest = .fault .unterminated := by
  rw [scan, if_pos quote, unread]

theorem scan_of_isDigit (digit : first.isDigit) : scan first rest = scanNumber first rest := by
  rw [scan, if_neg (not_isQuote_of_isDigit digit), if_pos digit]

theorem scan_hash (rest : List Char) : scan '#' rest = .comment := rfl

theorem scan_of_isReserved (ends : isReserved first) (noComment : first ≠ '#') :
    scan first rest = scanSymbol first rest := by
  rw [scan, if_neg (not_isQuote_of_isReserved ends), if_neg (not_isDigit_of_isReserved ends),
    if_neg noComment, if_pos ends]

theorem scan_of_word (noQuote : ¬isQuote first) (noDigit : ¬first.isDigit)
    (wordChar : ¬isReserved first) :
    scan first rest =
      .token (wordToken (String.ofList (first :: rest.takeWhile isWordChar)))
        (rest.dropWhile isWordChar) := by
  have noComment : first ≠ '#' := by
    rintro rfl
    exact wordChar isReserved_hash
  rw [scan, if_neg noQuote, if_neg noDigit, if_neg noComment, if_neg wordChar]

/-- The scanner reads a run of digits as the number that it writes in base ten. -/
theorem digitsValue_eq (digits : List Char) :
    digitsValue digits = Nat.ofDigitChars 10 digits 0 := rfl

theorem numberToken?_eq (digits : List Char) :
    numberToken? digits =
      if Nat.ofDigitChars 10 digits 0 ≤ 2147483647 then
        some (.number (Int32.ofNat (Nat.ofDigitChars 10 digits 0)))
      else none := by
  rw [numberToken?, digitsValue_eq, largestNumber]

/-- A number is its run of digits, or too large. -/
theorem scanNumber_append (digits : List Char) (first : Char)
    (run : ∀ digit ∈ digits, digit.isDigit) (ends : ∀ next ∈ after.head?, ¬next.isDigit) :
    scanNumber first (digits ++ after) =
      if Nat.ofDigitChars 10 (first :: digits) 0 ≤ 2147483647 then
        .token (.number (Int32.ofNat (Nat.ofDigitChars 10 (first :: digits) 0))) after
      else .fault (.tooLarge (first :: digits)) := by
  simp only [scanNumber, takeWhile_append_of_run run ends, dropWhile_append_of_run run ends,
    numberToken?_eq]
  split
  next found => split at found <;> simp_all
  next missing => split at missing <;> simp_all

theorem isWordChar_iff {char : Char} : isWordChar char ↔ ¬isReserved char := by
  simp [isWordChar]

/-! ## Agreement -/

/-- The scanner reads every lexeme of the grammar. -/
theorem Lexes.scan_append (lexes : Lexes lexeme token after) :
    ∃ first more, lexeme = first :: more ∧ first ≠ ' ' ∧ first ≠ '#' ∧
      scan first (more ++ after) = .token token after := by
  cases lexes with
  | @number digits _ nonempty run ends bounded =>
      obtain ⟨first, more, rfl⟩ := List.exists_cons_of_ne_nil nonempty
      obtain ⟨digit, run⟩ := List.forall_mem_cons.mp run
      refine ⟨first, more, rfl, ?_, ?_, ?_⟩
      · rintro rfl
        exact absurd digit (by decide)
      · rintro rfl
        exact absurd digit (by decide)
      · rw [scan_of_isDigit digit, scanNumber_append more first run ends, if_pos bounded]
  | @text quote body value _ opens items =>
      refine ⟨quote, body ++ [quote], rfl, ?_, ?_, ?_⟩
      · rintro rfl
        exact absurd opens (by decide)
      · rintro rfl
        exact absurd opens (by decide)
      · rw [List.append_assoc]
        exact scan_of_isQuote_of_some opens (items.readItems_append opens after)
  | @word first more _ noQuote noDigit wordChars ends =>
      obtain ⟨wordChar, run⟩ := List.forall_mem_cons.mp wordChars
      have run : ∀ char ∈ more, isWordChar char := fun char member =>
        isWordChar_iff.mpr (run char member)
      have ends : ∀ next ∈ after.head?, ¬isWordChar next := fun next follows =>
        fun wordChar => isWordChar_iff.mp wordChar (ends next follows)
      refine ⟨first, more, rfl, ?_, ?_, ?_⟩
      · rintro rfl
        exact wordChar isReserved_space
      · rintro rfl
        exact wordChar isReserved_hash
      · rw [scan_of_word noQuote noDigit wordChar, takeWhile_append_of_run run ends,
          dropWhile_append_of_run run ends]
  | @comparator first second _ sign written =>
      obtain ⟨ends, noSpace, noComment⟩ := isReserved_of_symbols written
      refine ⟨first, [second], rfl, noSpace, noComment, ?_⟩
      rw [scan_of_isReserved ends noComment, List.singleton_append, scanSymbol,
        Comparator.ofSymbols?_eq_some_iff.mpr written]
  | @symbol char _ ends noSpace noComment alone =>
      refine ⟨char, [], rfl, noSpace, noComment, ?_⟩
      rw [scan_of_isReserved ends noComment, List.nil_append]
      cases after with
      | nil => rfl
      | cons second after =>
          have single : Comparator.ofSymbols? char second = none := by
            rw [Option.eq_none_iff_forall_ne_some]
            intro sign found
            exact alone second rfl sign (Comparator.ofSymbols?_eq_some_iff.mp found)
          rw [scanSymbol, single]

/-- The digits that a number is scanned from are a maximal run. -/
theorem scanNumber_run (rest : List Char) (digit : first.isDigit) :
    (∀ char ∈ first :: rest.takeWhile Char.isDigit, char.isDigit) ∧
      (∀ next ∈ (rest.dropWhile Char.isDigit).head?, ¬next.isDigit) := by
  constructor
  · exact List.forall_mem_cons.mpr ⟨digit, fun char => accept_of_mem_takeWhile⟩
  · exact fun next => not_accept_of_mem_head?_dropWhile

theorem lexes_or_faulty_of_isDigit (digit : first.isDigit) :
    (∃ lexeme token after, scan first rest = .token token after ∧
        first :: rest = lexeme ++ after ∧ Lexes lexeme token after) ∨
      ∃ fault, scan first rest = .fault fault ∧ Faulty (first :: rest) fault := by
  obtain ⟨run, ends⟩ := scanNumber_run rest digit
  have parts : rest.takeWhile Char.isDigit ++ rest.dropWhile Char.isDigit = rest :=
    List.takeWhile_append_dropWhile
  have scanned := scanNumber_append (rest.takeWhile Char.isDigit) first
    (List.forall_mem_cons.mp run).2 ends
  rw [parts, ← scan_of_isDigit digit] at scanned
  rw [scanned]
  split
  next bounded =>
    left
    exact ⟨_, _, _, rfl, by rw [List.cons_append, parts],
      .number (List.cons_ne_nil _ _) run ends bounded⟩
  next excessive =>
    right
    have faulty := Faulty.tooLarge (List.cons_ne_nil _ _) run ends (Nat.lt_of_not_le excessive)
    rw [List.cons_append, parts] at faulty
    exact ⟨_, rfl, faulty⟩

theorem lexes_or_faulty_of_isQuote (quote : isQuote first) :
    (∃ lexeme token after, scan first rest = .token token after ∧
        first :: rest = lexeme ++ after ∧ Lexes lexeme token after) ∨
      ∃ fault, scan first rest = .fault fault ∧ Faulty (first :: rest) fault := by
  cases read : readItems first rest with
  | none =>
      right
      exact ⟨_, scan_of_isQuote_of_none quote read,
        .unterminated quote ((readItems_eq_none_iff quote).mp read)⟩
  | some found =>
      left
      obtain ⟨value, after⟩ := found
      obtain ⟨body, items, rfl⟩ := (readItems_eq_some_iff quote).mp read
      exact ⟨_, _, _, scan_of_isQuote_of_some quote read, by simp, .text quote items⟩

theorem lexes_of_isReserved (ends : isReserved first) (noSpace : first ≠ ' ')
    (noComment : first ≠ '#') :
    ∃ lexeme token after, scan first rest = .token token after ∧
      first :: rest = lexeme ++ after ∧ Lexes lexeme token after := by
  rw [scan_of_isReserved ends noComment]
  cases rest with
  | nil =>
      refine ⟨[first], _, [], rfl, rfl, .symbol ends noSpace noComment ?_⟩
      intro second follows
      cases follows
  | cons second rest =>
      rw [scanSymbol]
      split
      next sign found =>
        exact ⟨[first, second], _, _, rfl, rfl,
          .comparator sign (Comparator.ofSymbols?_eq_some_iff.mp found)⟩
      next single =>
        refine ⟨[first], _, second :: rest, rfl, rfl, .symbol ends noSpace noComment ?_⟩
        intro next follows sign written
        cases follows
        rw [Comparator.ofSymbols?_eq_some_iff.mpr written] at single
        cases single

theorem lexes_of_word (noQuote : ¬isQuote first) (noDigit : ¬first.isDigit)
    (wordChar : ¬isReserved first) :
    ∃ lexeme token after, scan first rest = .token token after ∧
      first :: rest = lexeme ++ after ∧ Lexes lexeme token after := by
  refine ⟨first :: rest.takeWhile isWordChar, _, rest.dropWhile isWordChar,
    scan_of_word noQuote noDigit wordChar, ?_, ?_⟩
  · rw [List.cons_append, List.takeWhile_append_dropWhile]
  · apply Lexes.word noQuote noDigit
    · exact List.forall_mem_cons.mpr ⟨wordChar, fun char taken =>
        isWordChar_iff.mp (accept_of_mem_takeWhile taken)⟩
    · intro next follows
      have stops := not_accept_of_mem_head?_dropWhile follows
      rwa [isWordChar_iff, Decidable.not_not] at stops

/-- Past the spaces a text starts with a comment, a lexeme or a fault, and the
scanner tells which. -/
theorem scan_cases (rest : List Char) (noSpace : first ≠ ' ') :
    first = '#' ∧ scan first rest = .comment ∨
      (∃ lexeme token after, scan first rest = .token token after ∧
        first :: rest = lexeme ++ after ∧ Lexes lexeme token after) ∨
      ∃ fault, scan first rest = .fault fault ∧ Faulty (first :: rest) fault := by
  by_cases quote : isQuote first
  · exact .inr (lexes_or_faulty_of_isQuote quote)
  by_cases digit : first.isDigit
  · exact .inr (lexes_or_faulty_of_isDigit digit)
  by_cases comment : first = '#'
  · exact .inl ⟨comment, comment ▸ scan_hash rest⟩
  by_cases ends : isReserved first
  · exact .inr (.inl (lexes_of_isReserved ends noSpace comment))
  · exact .inr (.inl (lexes_of_word quote digit ends))

/-- Every token of the scanner has a lexeme. -/
theorem exists_lexes_of_scan (noSpace : first ≠ ' ')
    (scanned : scan first rest = .token token after) :
    ∃ lexeme, first :: rest = lexeme ++ after ∧ Lexes lexeme token after := by
  rcases scan_cases rest noSpace with
    ⟨_, other⟩ | ⟨lexeme, _, _, other, same, lexes⟩ | ⟨_, other, _⟩
  all_goals rw [scanned] at other
  · cases other
  · obtain ⟨rfl, rfl⟩ := Scan.token.inj other
    exact ⟨lexeme, same, lexes⟩
  · cases other

theorem eq_hash_of_scan (noSpace : first ≠ ' ') (comment : scan first rest = .comment) :
    first = '#' := by
  rcases scan_cases rest noSpace with ⟨hash, _⟩ | ⟨_, _, _, other, _⟩ | ⟨_, other, _⟩
  · exact hash
  all_goals
    rw [comment] at other
    cases other

/-- The scanner reports every fault of the grammar. -/
theorem Faulty.scan_eq (faulty : Faulty lexeme fault) :
    ∃ first rest, lexeme = first :: rest ∧ first ≠ ' ' ∧ scan first rest = .fault fault := by
  cases faulty with
  | @unterminated quote rest opens unclosed =>
      refine ⟨quote, rest, rfl, ?_, ?_⟩
      · rintro rfl
        exact absurd opens (by decide)
      · exact scan_of_isQuote_of_none opens ((readItems_eq_none_iff opens).mpr unclosed)
  | @tooLarge digits after nonempty run ends excessive =>
      obtain ⟨first, more, rfl⟩ := List.exists_cons_of_ne_nil nonempty
      obtain ⟨digit, run⟩ := List.forall_mem_cons.mp run
      refine ⟨first, more ++ after, rfl, ?_, ?_⟩
      · rintro rfl
        exact absurd digit (by decide)
      · rw [scan_of_isDigit digit, scanNumber_append more first run ends,
          if_neg (Nat.not_le_of_lt excessive)]

end Offside.Lexeme
