import Offside.Proofs.Lexeme.Spelling
import Offside.Proofs.TextLiterals

/-!
# Classes of lexemes

The lexemes of the language, class by class and told without the scanner: which characters
are in a lexeme, which token it stands for, and what may not come next because the lexeme
would be longer then. These are the lexemes of the grammar that the scanner follows.
-/

namespace Offside.Lexeme

/-- A character of words: neither a symbol, nor the space, nor the mark of a comment. -/
def InWord (char : Char) : Prop :=
  char ∉ symbols ∧ char ≠ ' ' ∧ char ≠ '#'

instance (char : Char) : Decidable (InWord char) :=
  inferInstanceAs (Decidable (_ ∧ _))

/-- The classes of lexemes, each with its token, in front of the text that follows. -/
inductive IsLexeme : List Char → Token → List Char → Prop where
  | number {digits after : List Char} :
      digits ≠ [] → (∀ digit ∈ digits, digit.isDigit) → (∀ next ∈ after.head?, ¬next.isDigit) →
      Nat.ofDigitChars 10 digits 0 ≤ 2147483647 →
      IsLexeme digits (.number (Int32.ofNat (Nat.ofDigitChars 10 digits 0))) after
  | text {quote : Char} {items : List Item} {after : List Char} :
      quote = '\x22' ∨ quote = '\x27' → (∀ item ∈ items, item.Fits quote) →
      IsLexeme (literal quote items) (.text (String.ofList (itemsValue items))) after
  | keyword {word : Keyword} {after : List Char} :
      (∀ next ∈ after.head?, ¬InWord next) →
      IsLexeme word.text.toList (.keyword word) after
  | name {first : Char} {more after : List Char} :
      (∀ char ∈ first :: more, InWord char) → ¬first.isDigit → first ≠ '\x22' → first ≠ '\x27' →
      (∀ word : Keyword, first :: more ≠ word.text.toList) →
      (∀ next ∈ after.head?, ¬InWord next) →
      IsLexeme (first :: more) (.id (String.ofList (first :: more))) after
  | comparator {first : Char} {sign : Comparator} {after : List Char} :
      (first, sign) ∈ [('=', Comparator.equal), ('!', .notEqual), ('<', .lessOrEqual),
        ('>', .greaterOrEqual)] →
      IsLexeme [first, '='] (.comparator sign) after
  | symbol {char : Char} {after : List Char} :
      char ∈ symbols → (char ∈ ['=', '!', '<', '>'] → after.head? ≠ some '=') →
      IsLexeme [char] (.char char) after

variable {lexeme after : List Char} {token : Token}

theorem isReserved_iff {char : Char} :
    isReserved char ↔ char ∈ symbols ∨ char = ' ' ∨ char = '#' := by
  rw [isReserved, List.contains_iff_mem]
  exact List.mem_append (s := symbols) (t := [' ', '#']) |>.trans (by simp)

theorem inWord_iff {char : Char} : InWord char ↔ ¬isReserved char := by
  rw [isReserved_iff, InWord, not_or, not_or]

theorem not_inWord_iff {char : Char} : ¬InWord char ↔ isReserved char := by
  rw [inWord_iff, Decidable.not_not]

theorem isQuote_iff {char : Char} : isQuote char ↔ char = '\x22' ∨ char = '\x27' := by
  rw [isQuote, Bool.or_eq_true, beq_iff_eq, beq_iff_eq]

/-- The classes of lexemes have the lexemes of the grammar. -/
theorem IsLexeme.lexes (isLexeme : IsLexeme lexeme token after) : Lexes lexeme token after := by
  cases isLexeme with
  | number nonempty run ends bounded => exact .number nonempty run ends bounded
  | text opens fits => exact .text (isQuote_iff.mpr opens) (items_of_fits fits)
  | @keyword word _ ends =>
      have lexes := (isWord_text word).lexes fun next follows =>
        not_inWord_iff.mp (ends next follows)
      rw [wordToken_text] at lexes
      exact lexes
  | @name first more _ wordChars noDigit noDouble noSingle noKeyword ends =>
      have noQuote : ¬isQuote first := by
        rw [isQuote_iff, not_or]
        exact ⟨noDouble, noSingle⟩
      have other : ∀ word : Keyword, String.ofList (first :: more) ≠ word.text := by
        rintro word same
        exact noKeyword word (by rw [← same, String.toList_ofList])
      rw [← wordToken_of_ne other]
      exact .word noQuote noDigit (fun char member => inWord_iff.mp (wordChars char member))
        fun next follows => not_inWord_iff.mp (ends next follows)
  | @comparator first sign _ listed =>
      simp only [List.mem_cons, Prod.mk.injEq, List.not_mem_nil, or_false] at listed
      rcases listed with ⟨rfl, rfl⟩ | ⟨rfl, rfl⟩ | ⟨rfl, rfl⟩ | ⟨rfl, rfl⟩
      all_goals exact .comparator _ rfl
  | @symbol char _ member alone =>
      obtain ⟨ends, noSpace, noComment, _⟩ := of_mem_symbols member
      refine .symbol ends noSpace noComment fun second follows sign written => ?_
      cases sign <;> cases written <;> exact alone (by decide) follows

/-- The lexemes of the grammar belong to the classes. -/
theorem Lexes.isLexeme (lexes : Lexes lexeme token after) : IsLexeme lexeme token after := by
  cases lexes with
  | number nonempty run ends bounded => exact .number nonempty run ends bounded
  | @text quote body value _ opens read =>
      obtain ⟨items, fits, rfl, rfl⟩ := exists_fits read
      exact .text (isQuote_iff.mp opens) fits
  | @word first more _ noQuote noDigit wordChars ends =>
      have ends : ∀ next ∈ after.head?, ¬InWord next := fun next follows =>
        not_inWord_iff.mpr (ends next follows)
      unfold wordToken
      split
      next word found =>
        have same := Keyword.ofText?_eq_some_iff.mp found
        rw [← String.toList_ofList (l := first :: more), same]
        exact .keyword ends
      next missing =>
        rw [isQuote_iff, not_or] at noQuote
        refine .name (fun char member => inWord_iff.mpr (wordChars char member)) noDigit noQuote.1
          noQuote.2 ?_ ends
        intro word same
        rw [same, String.ofList_toList, Keyword.ofText?_text] at missing
        cases missing
  | comparator sign written =>
      cases sign <;> cases written <;> exact .comparator (by decide)
  | @symbol char _ ends noSpace noComment alone =>
      have member : char ∈ symbols := by
        rcases isReserved_iff.mp ends with member | space | comment
        · exact member
        · exact absurd space noSpace
        · exact absurd comment noComment
      refine .symbol member ?_
      intro opens follows
      simp only [List.mem_cons, List.not_mem_nil, or_false] at opens
      rcases opens with rfl | rfl | rfl | rfl
      · exact alone _ follows .equal rfl
      · exact alone _ follows .notEqual rfl
      · exact alone _ follows .lessOrEqual rfl
      · exact alone _ follows .greaterOrEqual rfl

/-- Spaces stand around a lexeme, and not at its ends. -/
theorem Lexes.space_not_at_end (lexes : Lexes lexeme token after) :
    lexeme.head? ≠ some ' ' ∧ lexeme.getLast? ≠ some ' ' := by
  constructor
  · obtain ⟨first, more, rfl, noSpace, _⟩ := lexes.scan_append
    intro starts
    exact noSpace (Option.some.inj starts)
  intro ends
  have member : ' ' ∈ lexeme := List.mem_of_getLast? ends
  cases lexes with
  | number _ run => exact absurd (run ' ' member) (by decide)
  | text opens =>
      rw [List.getLast?_concat] at ends
      cases ends
      exact absurd opens (by decide)
  | word _ _ wordChars => exact wordChars ' ' member isReserved_space
  | comparator sign written => cases sign <;> cases written <;> cases ends
  | symbol _ noSpace => exact noSpace (List.mem_singleton.mp member).symm

end Offside.Lexeme
