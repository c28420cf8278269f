import Offside.Lexeme.Literal

/-!
# Items of text literals

The body of a literal is a run of items, and the reader of literals accepts
exactly a body with the closing quote after it. A text can be written as such a
body between either quote, by escaping what may not stand for itself.
-/

namespace Offside.Lexeme

/-- A body between two quotes, and the characters that its items stand for. -/
inductive Items (quote : Char) : List Char → List Char → Prop where
  | none : Items quote [] []
  | plain {char : Char} {body value : List Char} :
      char ≠ quote → char ≠ backslash → Items quote body value →
      Items quote (char :: body) (char :: value)
  | escape {body value : List Char} (escaped : Char) :
      Items quote body value →
      Items quote (backslash :: escaped :: body) ((escapeValue? escaped).toList ++ value)

variable {quote : Char} {chars body value after : List Char}

theorem ne_backslash_of_isQuote (opens : isQuote quote) : quote ≠ backslash := by
  rintro rfl
  exact absurd opens (by decide)

/-- A body and its closing quote are read, whatever comes after. -/
theorem Items.readItems_append (items : Items quote body value) (opens : isQuote quote)
    (after : List Char) : readItems quote (body ++ quote :: after) = some (value, after) := by
  induction items with
  | none =>
      rw [List.nil_append, readItems.eq_def]
      simp only [if_true]
  | plain notQuote notBackslash _ ih =>
      rw [List.cons_append, readItems.eq_def]
      simp only [notQuote, notBackslash, if_false, ih, Option.map_some]
  | escape escaped _ ih =>
      rw [List.cons_append, List.cons_append, readItems.eq_def]
      simp only [(ne_backslash_of_isQuote opens).symm, if_true, if_false, ih, Option.map_some]

/-- Whatever is read was a body and its closing quote. -/
theorem exists_items_of_readItems (read : readItems quote chars = some (value, after)) :
    ∃ body, Items quote body value ∧ chars = body ++ quote :: after := by
  fun_induction readItems quote chars generalizing value with
  | case1 => cases read
  | case2 rest =>
      cases read
      exact ⟨[], .none, rfl⟩
  | case3 => cases read
  | case4 escaped rest _ ih =>
      obtain ⟨⟨inner, remains⟩, found, same⟩ := Option.map_eq_some_iff.mp read
      cases same
      obtain ⟨body, items, rfl⟩ := ih found
      exact ⟨backslash :: escaped :: body, .escape escaped items, rfl⟩
  | case5 char rest notQuote notBackslash ih =>
      obtain ⟨⟨inner, remains⟩, found, same⟩ := Option.map_eq_some_iff.mp read
      cases same
      obtain ⟨body, items, rfl⟩ := ih found
      exact ⟨char :: body, .plain notQuote notBackslash items, rfl⟩

theorem readItems_eq_some_iff (opens : isQuote quote) :
    readItems quote chars = some (value, after) ↔
      ∃ body, Items quote body value ∧ chars = body ++ quote :: after := by
  constructor
  · exact exists_items_of_readItems
  · rintro ⟨body, items, rfl⟩
    exact items.readItems_append opens after

/-- Nothing is read exactly when no quote closes a body. -/
theorem readItems_eq_none_iff (opens : isQuote quote) :
    readItems quote chars = none ↔
      ∀ body value after, Items quote body value → chars ≠ body ++ quote :: after := by
  rw [Option.eq_none_iff_forall_ne_some]
  constructor
  · rintro unread body value after items rfl
    exact unread _ (items.readItems_append opens after)
  · rintro unclosed ⟨value, after⟩ read
    obtain ⟨body, items, same⟩ := (readItems_eq_some_iff opens).mp read
    exact unclosed body value after items same

/-! ## Writing literals -/

/-- A character as it is written in a literal. What would end the literal or its
line, or start an escape, is escaped. -/
def writtenChar (quote char : Char) : List Char :=
  if char = quote ∨ char = backslash then [backslash, char]
  else if char = '\n' then [backslash, 'n']
  else if char = '\x0d' then [backslash, 'r']
  else if char = '\t' then [backslash, 't']
  else [char]

/-- The body that is written for a text. -/
def writtenItems (quote : Char) (value : List Char) : List Char :=
  value.flatMap (writtenChar quote)

theorem escapeValue?_of_isQuote (opens : isQuote quote) : escapeValue? quote = some quote := by
  simp only [isQuote, Bool.or_eq_true, beq_iff_eq] at opens
  rcases opens with rfl | rfl <;> rfl

/-- One written character is one item that stands for it. -/
theorem Items.writtenChar_append (opens : isQuote quote) (char : Char)
    (items : Items quote body value) :
    Items quote (writtenChar quote char ++ body) (char :: value) := by
  have escape (escaped : Char) (stands : escapeValue? escaped = some char) :
      Items quote ([backslash, escaped] ++ body) (char :: value) := by
    have escaping := Items.escape escaped items
    rw [stands] at escaping
    exact escaping
  unfold writtenChar
  split
  next special =>
    rcases special with rfl | rfl
    · exact escape _ (escapeValue?_of_isQuote opens)
    · exact escape _ rfl
  next ordinary =>
    obtain ⟨notQuote, notBackslash⟩ := not_or.mp ordinary
    split
    next same => exact escape 'n' (by rw [same]; rfl)
    split
    next same => exact escape 'r' (by rw [same]; rfl)
    split
    next same => exact escape 't' (by rw [same]; rfl)
    exact .plain notQuote notBackslash items

/-- A written body stands for the text that it was written for. -/
theorem items_writtenItems (opens : isQuote quote) (value : List Char) :
    Items quote (writtenItems quote value) value := by
  induction value with
  | nil => exact .none
  | cons char value ih => exact ih.writtenChar_append opens char

end Offside.Lexeme
