import Offside.Proofs.Lexeme.Grammar
import Offside.Text.Utf8

/-!
# The grammar of text literals

A text literal is a quote, a row of items and the same quote again. Scanning a text that
starts with a quote gives what the items of such a literal stand for and passes exactly its
bytes. There is one such literal at most, so what follows it does not matter; where there is
none, the literal is reported as not closed.
-/

namespace Offside.Lexeme

open Text

/-- An item of a text literal: a character for itself, or a backslash with the character
after it. -/
inductive Item where
  | plain (char : Char)
  | escape (escaped : Char)
  deriving DecidableEq, Repr

/-- The escapes that stand for a character. -/
def escapes : List (Char × Char) :=
  [('n', '\n'), ('t', '\t'), ('r', '\x0d'), ('\x22', '\x22'), ('\x5c', '\x5c'), ('\x27', '\x27')]

namespace Item

/-- The characters of an item. -/
def chars : Item → List Char
  | .plain char => [char]
  | .escape escaped => ['\x5c', escaped]

/-- What an item stands for. An escape that is not listed stands for nothing. -/
def value : Item → List Char
  | .plain char => [char]
  | .escape escaped => (escapes.lookup escaped).toList

/-- Neither the quote of a literal nor a backslash can stand for itself in it. -/
def Fits (quote : Char) : Item → Prop
  | .plain char => char ≠ quote ∧ char ≠ '\x5c'
  | .escape _ => True

end Item

/-- The characters of a row of items. -/
def itemsChars (items : List Item) : List Char :=
  items.flatMap Item.chars

/-- What a row of items stands for. -/
def itemsValue (items : List Item) : List Char :=
  items.flatMap Item.value

/-- A literal as it stands in the source. -/
def literal (quote : Char) (items : List Item) : List Char :=
  quote :: itemsChars items ++ [quote]

/-- What scanning the literal at the start of a text gives: the text that it stands for, and
the number of bytes that are passed. -/
def scanLiteral? : List Char → Option (String × Nat)
  | [] => none
  | first :: rest =>
      match scan first rest with
      | .token (.text value) after =>
          some (value, utf8Length (first :: rest) - utf8Length after)
      | _ => none

variable {quote : Char} {items : List Item} {body value rest after : List Char}

/-! ## Items -/

theorem escapeValue?_eq_lookup (escaped : Char) :
    escapeValue? escaped = escapes.lookup escaped := by
  unfold escapeValue?
  split
  iterate 6 rfl
  next noFeed noTab noReturn noDouble noSingle noBackslash =>
    simp only [escapes, List.lookup_cons, List.lookup_nil, beq_eq_false_iff_ne.mpr noFeed,
      beq_eq_false_iff_ne.mpr noTab, beq_eq_false_iff_ne.mpr noReturn,
      beq_eq_false_iff_ne.mpr noDouble, beq_eq_false_iff_ne.mpr noSingle,
      beq_eq_false_iff_ne.mpr noBackslash]

/-- Items that fit are a body that the reader accepts. -/
theorem items_of_fits (fits : ∀ item ∈ items, item.Fits quote) :
    Items quote (itemsChars items) (itemsValue items) := by
  induction items with
  | nil => exact .none
  | cons item items ih =>
      obtain ⟨fitsFirst, fitsLater⟩ := List.forall_mem_cons.mp fits
      cases item with
      | plain char => exact .plain fitsFirst.1 fitsFirst.2 (ih fitsLater)
      | escape escaped =>
          have escaping := Items.escape escaped (ih fitsLater)
          rw [escapeValue?_eq_lookup] at escaping
          exact escaping

theorem exists_fits (read : Items quote body value) :
    ∃ items, (∀ item ∈ items, Item.Fits quote item) ∧ itemsChars items = body ∧
      itemsValue items = value := by
  induction read with
  | none => exact ⟨[], fun _ member => (List.not_mem_nil member).elim, rfl, rfl⟩
  | @plain char _ _ notQuote notBackslash _ ih =>
      obtain ⟨items, fits, rfl, rfl⟩ := ih
      exact ⟨.plain char :: items, List.forall_mem_cons.mpr ⟨⟨notQuote, notBackslash⟩, fits⟩,
        rfl, rfl⟩
  | escape escaped _ ih =>
      obtain ⟨items, fits, rfl, rfl⟩ := ih
      refine ⟨.escape escaped :: items, List.forall_mem_cons.mpr ⟨trivial, fits⟩, rfl, ?_⟩
      rw [escapeValue?_eq_lookup]
      rfl

/-- No item starts with the quote of its literal. -/
theorem Item.Fits.exists_cons {item : Item} (fits : item.Fits quote) (opens : isQuote quote) :
    ∃ first more, item.chars = first :: more ∧ first ≠ quote := by
  cases item with
  | plain char => exact ⟨char, [], rfl, fits.1⟩
  | escape escaped => exact ⟨_, [escaped], rfl, (ne_backslash_of_isQuote opens).symm⟩

/-- The items before a closing quote, and what is after it, follow from the text. -/
theorem itemsChars_append_inj (opens : isQuote quote) {items' : List Item} {after' : List Char}
    (fits : ∀ item ∈ items, item.Fits quote) (fits' : ∀ item ∈ items', item.Fits quote)
    (same : itemsChars items ++ quote :: after = itemsChars items' ++ quote :: after') :
    items = items' ∧ after = after' := by
  induction items generalizing items' with
  | nil =>
      cases items' with
      | nil => exact ⟨rfl, (List.cons.inj same).2⟩
      | cons item' items' =>
          obtain ⟨first, more, starts, notQuote⟩ :=
            (List.forall_mem_cons.mp fits').1.exists_cons opens
          rw [itemsChars, itemsChars, List.flatMap_cons, starts] at same
          exact absurd (List.cons.inj same).1.symm notQuote
  | cons item items ih =>
      obtain ⟨fitsFirst, fitsLater⟩ := List.forall_mem_cons.mp fits
      cases items' with
      | nil =>
          obtain ⟨first, more, starts, notQuote⟩ := fitsFirst.exists_cons opens
          rw [itemsChars, itemsChars, List.flatMap_cons, starts] at same
          exact absurd (List.cons.inj same).1 notQuote
      | cons item' items' =>
          obtain ⟨fitsFirst', fitsLater'⟩ := List.forall_mem_cons.mp fits'
          cases item with
          | plain char =>
              cases item' with
              | plain char' =>
                  obtain ⟨rfl, later⟩ := List.cons.inj same
                  obtain ⟨rfl, rfl⟩ := ih fitsLater fitsLater' later
                  exact ⟨rfl, rfl⟩
              | escape escaped' => exact absurd (List.cons.inj same).1 fitsFirst.2
          | escape escaped =>
              cases item' with
              | plain char' => exact absurd (List.cons.inj same).1.symm fitsFirst'.2
              | escape escaped' =>
                  obtain ⟨rfl, later⟩ := List.cons.inj (List.cons.inj same).2
                  obtain ⟨rfl, rfl⟩ := ih fitsLater fitsLater' later
                  exact ⟨rfl, rfl⟩

/-! ## Literals -/

/-- The text is a literal with these items, and what follows it. -/
def StartsWith (quote : Char) (items : List Item) (text after : List Char) : Prop :=
  (∀ item ∈ items, item.Fits quote) ∧ text = literal quote items ++ after

theorem startsWith_cons_iff :
    StartsWith quote items (quote :: rest) after ↔
      (∀ item ∈ items, item.Fits quote) ∧ rest = itemsChars items ++ quote :: after := by
  rw [StartsWith, literal, List.cons_append, List.cons_append, List.append_assoc, List.cons.injEq]
  simp only [true_and, List.singleton_append]

theorem StartsWith.unique (opens : isQuote quote) {items' : List Item} {after' : List Char}
    (starts : StartsWith quote items (quote :: rest) after)
    (starts' : StartsWith quote items' (quote :: rest) after') :
    items = items' ∧ after = after' := by
  obtain ⟨fits, same⟩ := startsWith_cons_iff.mp starts
  obtain ⟨fits', same'⟩ := startsWith_cons_iff.mp starts'
  exact itemsChars_append_inj opens fits fits' (same.symm.trans same')

/-- The reader accepts what a literal starts with, and nothing else. -/
theorem readItems_iff_startsWith (opens : isQuote quote) :
    readItems quote rest = some (value, after) ↔
      ∃ items, StartsWith quote items (quote :: rest) after ∧ itemsValue items = value := by
  rw [readItems_eq_some_iff opens]
  constructor
  · rintro ⟨body, read, same⟩
    obtain ⟨items, fits, rfl, rfl⟩ := exists_fits read
    exact ⟨items, startsWith_cons_iff.mpr ⟨fits, same⟩, rfl⟩
  · rintro ⟨items, starts, rfl⟩
    obtain ⟨fits, same⟩ := startsWith_cons_iff.mp starts
    exact ⟨itemsChars items, items_of_fits fits, same⟩

theorem scanLiteral?_cons (opens : isQuote quote) (rest : List Char) :
    scanLiteral? (quote :: rest) = (readItems quote rest).map fun (value, after) =>
      (String.ofList value, utf8Length (quote :: rest) - utf8Length after) := by
  rw [scanLiteral?]
  cases read : readItems quote rest with
  | none =>
      rw [scan_of_isQuote_of_none opens read]
      rfl
  | some found =>
      rw [scan_of_isQuote_of_some opens read]
      rfl

/-- Scanning passes the bytes of the literal. -/
theorem StartsWith.scanLiteral?_eq (opens : isQuote quote)
    (starts : StartsWith quote items (quote :: rest) after) :
    scanLiteral? (quote :: rest) =
      some (String.ofList (itemsValue items), utf8Length (literal quote items)) := by
  have read := (readItems_iff_startsWith opens).mpr ⟨items, starts, rfl⟩
  have passed :
      utf8Length (quote :: rest) - utf8Length after = utf8Length (literal quote items) := by
    rw [starts.2, utf8Length_append, Nat.add_sub_cancel]
  rw [scanLiteral?_cons opens, read]
  simp only [Option.map_some, passed]

theorem scanLiteral?_eq_some_iff (opens : isQuote quote) {text : String} {length : Nat} :
    scanLiteral? (quote :: rest) = some (text, length) ↔
      ∃ items after, StartsWith quote items (quote :: rest) after ∧
        text = String.ofList (itemsValue items) ∧ length = utf8Length (literal quote items) := by
  constructor
  · intro scanned
    rw [scanLiteral?_cons opens, Option.map_eq_some_iff] at scanned
    obtain ⟨⟨value, after⟩, read, same⟩ := scanned
    obtain ⟨items, starts, rfl⟩ := (readItems_iff_startsWith opens).mp read
    cases same
    refine ⟨items, after, starts, rfl, ?_⟩
    rw [starts.2, utf8Length_append, Nat.add_sub_cancel]
  · rintro ⟨items, after, starts, rfl, rfl⟩
    exact starts.scanLiteral?_eq opens

theorem scanLiteral?_eq_none_iff (opens : isQuote quote) :
    scanLiteral? (quote :: rest) = none ↔
      ∀ items after, ¬StartsWith quote items (quote :: rest) after := by
  constructor
  · intro unread items after starts
    rw [starts.scanLiteral?_eq opens] at unread
    cases unread
  · intro none
    rw [Option.eq_none_iff_forall_ne_some]
    rintro ⟨text, length⟩ scanned
    obtain ⟨items, after, starts, _⟩ := (scanLiteral?_eq_some_iff opens).mp scanned
    exact none items after starts

theorem scanLiteral?_eq_none_iff_fault (opens : isQuote quote) :
    scanLiteral? (quote :: rest) = none ↔ scan quote rest = .fault .unterminated := by
  rw [scanLiteral?_cons opens]
  cases read : readItems quote rest with
  | none => exact iff_of_true rfl (scan_of_isQuote_of_none opens read)
  | some found =>
      rw [scan_of_isQuote_of_some opens read]
      apply iff_of_false
      · intro scanned
        cases scanned
      · intro scanned
        cases scanned

/-- Behind items the reader goes on with what follows them. -/
theorem Items.readItems_append_eq (read : Items quote body value) (opens : isQuote quote)
    (rest : List Char) : readItems quote (body ++ rest) =
      (readItems quote rest).map fun (others, after) => (value ++ others, after) := by
  induction read with
  | none =>
      rw [List.nil_append]
      exact Option.map_id'.symm
  | plain notQuote notBackslash _ ih =>
      rw [List.cons_append, readItems.eq_def]
      simp only [notQuote, notBackslash, if_false, ih, Option.map_map]
      rfl
  | escape escaped _ ih =>
      rw [List.cons_append, List.cons_append, readItems.eq_def]
      simp only [(ne_backslash_of_isQuote opens).symm, if_true, if_false, ih, Option.map_map,
        Function.comp_def, List.append_assoc]

/-- A text that ends in the middle of an escape is not read. -/
theorem scanLiteral?_open_escape (opens : isQuote quote) (fits : ∀ item ∈ items, item.Fits quote) :
    scanLiteral? (quote :: (itemsChars items ++ ['\x5c'])) = none := by
  have notQuote : '\x5c' ≠ quote := (ne_backslash_of_isQuote opens).symm
  have ends : readItems quote ['\x5c'] = none := by
    rw [readItems, if_neg notQuote]
    rfl
  rw [scanLiteral?_cons opens, (items_of_fits fits).readItems_append_eq opens, ends]
  rfl

/-- A text is written as the items of a literal. -/
theorem startsWith_written (opens : isQuote quote) (value rest : List Char) :
    ∃ items, StartsWith quote items (quote :: (writtenItems quote value ++ quote :: rest)) rest ∧
      itemsValue items = value ∧
      literal quote items = quote :: writtenItems quote value ++ [quote] := by
  obtain ⟨items, fits, chars, stands⟩ := exists_fits (items_writtenItems opens value)
  refine ⟨items, startsWith_cons_iff.mpr ⟨fits, ?_⟩, stands, ?_⟩
  · rw [chars]
  · rw [literal, chars]

/-- Scanning a text that starts with a quote gives a value and a length exactly if the text
starts with a literal of that value and length. The literal and what follows it are the only
ones. Where there is none the quote is reported as not closed, as at the end of the text in
the middle of an escape. Every text is read back from the way it is written. -/
theorem literal_scanned_exactly (quote : Char) (opens : quote = '\x22' ∨ quote = '\x27')
    (rest : List Char) :
    (∀ text length, scanLiteral? (quote :: rest) = some (text, length) ↔
        ∃ items after, StartsWith quote items (quote :: rest) after ∧
          text = String.ofList (itemsValue items) ∧ length = utf8Length (literal quote items)) ∧
      (∀ items after items' after', StartsWith quote items (quote :: rest) after →
        StartsWith quote items' (quote :: rest) after' → items = items' ∧ after = after') ∧
      (scanLiteral? (quote :: rest) = none ↔
        ∀ items after, ¬StartsWith quote items (quote :: rest) after) ∧
      (scanLiteral? (quote :: rest) = none ↔ scan quote rest = .fault .unterminated) ∧
      (∀ items, (∀ item ∈ items, Item.Fits quote item) → rest = itemsChars items ++ ['\x5c'] →
        scanLiteral? (quote :: rest) = none) ∧
      ∀ value : String,
        scanLiteral? (quote :: (writtenItems quote value.toList ++ quote :: rest)) =
          some (value, utf8Length (quote :: writtenItems quote value.toList ++ [quote])) := by
  have opens : isQuote quote := by
    rcases opens with rfl | rfl <;> decide
  refine ⟨fun text length => scanLiteral?_eq_some_iff opens, ?_, scanLiteral?_eq_none_iff opens, ?_,
    ?_, ?_⟩
  · intro items after items' after' starts starts'
    exact starts.unique opens starts'
  · exact scanLiteral?_eq_none_iff_fault opens
  · rintro items fits rfl
    exact scanLiteral?_open_escape opens fits
  · intro value
    obtain ⟨items, starts, stands, written⟩ := startsWith_written opens value.toList rest
    rw [starts.scanLiteral?_eq opens, stands, String.ofList_toList, written]

/-- An escaped quote does not close a literal, an escaped backslash escapes nothing, and an
unknown escape stands for nothing but has its bytes. -/
theorem literal_scanned_exactly_of_escapes :
    let rest := ['a', '\x5c', '\x22', '\x5c', 'é', '\x5c', '\x5c', '\x22', '\x22', 'z']
    scanLiteral? ('\x22' :: rest) = some ("a\"\\", 10) ∧
      (∀ items after, StartsWith '\x22' items ('\x22' :: rest) after → after = ['\x22', 'z']) ∧
      scanLiteral? "'it\\'s\\n'=".toList = some ("it's\n", 9) := by
  intro rest
  obtain ⟨scans, unique, _⟩ := literal_scanned_exactly '\x22' (.inl rfl) rest
  let items : List Item :=
    [.plain 'a', .escape '\x22', .escape 'é', .escape '\x5c']
  have starts : StartsWith '\x22' items ('\x22' :: rest) ['\x22', 'z'] := by
    refine ⟨?_, rfl⟩
    simp [items, Item.Fits]
  refine ⟨?_, ?_, ?_⟩
  · exact (scans _ _).mpr ⟨items, _, starts, by decide, by decide⟩
  · intro items' after starts'
    exact (unique items' after items _ starts' starts).2
  · obtain ⟨_, _, _, _, _, written⟩ := literal_scanned_exactly '\x27' (.inr rfl) ['=']
    exact written "it's\n"

end Offside.Lexeme
