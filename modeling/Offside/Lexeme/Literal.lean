/-!
# Text literals

A text literal is a quote, a run of items and the same quote again. An item is a
character other than that quote and the backslash, which stands for itself, or a
backslash with the character after it. Six escapes stand for a character; every
other escape stands for nothing.
-/

namespace Offside.Lexeme

/-- The two quotes that open a text literal: the double and the single one. -/
def isQuote (char : Char) : Bool :=
  char == '\x22' || char == '\x27'

/-- The character that starts an escape. -/
def backslash : Char := '\x5c'

/-- The character that an escape stands for, if it stands for one. -/
def escapeValue? : Char → Option Char
  | 'n' => some '\n'
  | 't' => some '\t'
  | 'r' => some '\x0d'
  | '\x22' => some '\x22'
  | '\x27' => some '\x27'
  | '\x5c' => some '\x5c'
  | _ => none

/-- Reads the items of a literal and its closing quote. Gives the characters that
the items stand for and what follows the literal, and nothing if the text ends
before the closing quote. -/
def readItems (quote : Char) : List Char → Option (List Char × List Char)
  | [] => none
  | char :: rest =>
      if char = quote then some ([], rest)
      else if char = backslash then
        match rest with
        | [] => none
        | escaped :: rest =>
            (readItems quote rest).map fun (value, after) =>
              ((escapeValue? escaped).toList ++ value, after)
      else
        (readItems quote rest).map fun (value, after) => (char :: value, after)

/-- What follows a literal is a proper suffix of the text after its opening quote. -/
theorem readItems_suffix {quote : Char} {chars value after : List Char}
    (read : readItems quote chars = some (value, after)) :
    after <:+ chars ∧ after.length < chars.length := by
  fun_induction readItems quote chars generalizing value with
  | case1 => simp at read
  | case2 rest =>
      obtain ⟨rfl, rfl⟩ : [] = value ∧ rest = after := by simpa using read
      exact ⟨List.suffix_cons _ _, by simp⟩
  | case3 => simp at read
  | case4 escaped rest _ ih =>
      obtain ⟨⟨inner, remains⟩, found, same⟩ := Option.map_eq_some_iff.mp read
      simp only [Prod.mk.injEq] at same
      obtain ⟨_, rfl⟩ := same
      obtain ⟨suffix, shorter⟩ := ih found
      exact ⟨(suffix.trans (List.suffix_cons _ _)).trans (List.suffix_cons _ _),
        by simp only [List.length_cons]; omega⟩
  | case5 char rest _ _ ih =>
      obtain ⟨⟨inner, remains⟩, found, same⟩ := Option.map_eq_some_iff.mp read
      simp only [Prod.mk.injEq] at same
      obtain ⟨_, rfl⟩ := same
      obtain ⟨suffix, shorter⟩ := ih found
      exact ⟨suffix.trans (List.suffix_cons _ _), by simp only [List.length_cons]; omega⟩

end Offside.Lexeme
