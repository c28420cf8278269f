import Mathlib.Order.Basic
import Offside.Proofs.LineBlocks
import Offside.Proofs.Lexeme.Classes

/-!
# Terminators of lines

A line ends in a line feed, or in a carriage return and a line feed. Which of the two is
chosen for a line, and whether the last line has one at all, is not seen in the tokens of a
source nor in its error. A carriage return in any other place is a character like a letter.
-/

namespace Offside

open Text Lexeme Lexer

/-- A terminator of a line. -/
inductive LineBreak where
  | feed
  | returnFeed
  deriving DecidableEq, Repr

def LineBreak.text : LineBreak → String
  | .feed => "\n"
  | .returnFeed => "\x0d\n"

/-- A text that either terminator can follow: the one of a line, and not of several, that
does not end in what could be the start of a terminator. -/
def IsLineText (text : String) : Prop :=
  '\n' ∉ text.toList ∧ text.toList.getLast? ≠ some '\x0d'

instance (text : String) : Decidable (IsLineText text) :=
  inferInstanceAs (Decidable (_ ∧ _))

/-- Lines as they are written: each with the terminator that is chosen for it, and possibly
one more without any. -/
structure WrittenLines where
  ended : List (String × LineBreak)
  last : Option String := none
  deriving DecidableEq, Repr

namespace WrittenLines

/-- The texts of the lines, without regard to their terminators. -/
def texts (written : WrittenLines) : List String :=
  written.ended.map Prod.fst ++ written.last.toList

/-- The text that is written. -/
def source (written : WrittenLines) : String :=
  String.join (written.ended.map fun (text, lineBreak) => text ++ lineBreak.text) ++
    written.last.getD ""

end WrittenLines

/-! ## Lines as they are read -/

namespace IsLineText

variable {text : String}

/-- A line that is written with either terminator is read as its text. -/
theorem physicalLines_break (isLineText : IsLineText text) (lineBreak : LineBreak)
    (after : String) :
    physicalLines (text ++ lineBreak.text ++ after) = text.toList :: physicalLines after := by
  rw [physicalLines, String.toList_append, String.toList_append]
  cases lineBreak with
  | feed =>
      have cut := pieces_append_cons (not_feed_of_not_mem isLineText.1) (beq_self_eq_true '\n')
        after.toList
      rw [LineBreak.text, List.append_assoc]
      exact (congrArg (List.map withoutTerminator) cut).trans
        (congrArg (· :: physicalLines after) (withoutTerminator_feed isLineText.2))
  | returnFeed =>
      have within : ∀ char ∈ text.toList ++ ['\x0d'], ¬(char == '\n') := by
        rw [List.forall_mem_append, List.forall_mem_singleton]
        exact ⟨not_feed_of_not_mem isLineText.1, by decide⟩
      have cut := pieces_append_cons within (beq_self_eq_true '\n') after.toList
      rw [List.append_assoc, List.append_assoc] at cut
      rw [LineBreak.text, List.append_assoc]
      exact (congrArg (List.map withoutTerminator) cut).trans
        (congrArg (· :: physicalLines after) (withoutTerminator_return_feed text.toList))

end IsLineText

theorem physicalLines_join {ended : List (String × LineBreak)}
    (areTexts : ∀ text ∈ ended.map Prod.fst, IsLineText text) (after : String) :
    physicalLines (String.join (ended.map fun (text, lineBreak) => text ++ lineBreak.text) ++
        after) =
      (ended.map Prod.fst).map String.toList ++ physicalLines after := by
  induction ended with
  | nil => rw [List.map_nil, String.join_nil, String.empty_append]; rfl
  | cons line ended ih =>
      obtain ⟨isLineText, areTexts⟩ := List.forall_mem_cons.mp areTexts
      rw [List.map_cons, String.join_cons, String.append_assoc,
        isLineText.physicalLines_break line.2, ih areTexts]
      rfl

/-! ## Lines that are not there -/

/-- An empty line at the end changes nothing. -/
theorem tokenizeLines_append_empty (layout : Layout) (lines : List (List Char)) :
    tokenizeLines layout ((lines ++ [[]]).map .content) =
      tokenizeLines layout (lines.map .content) := by
  rcases FirstFault.describes_or_nonempty layout lines with ⟨program, describes⟩ | ⟨⟨first⟩⟩
  · have longer := describes.append (.skipped rfl .nil : Describes layout [[]] [])
    rw [tokenizeLines_of_describes longer, tokenizeLines_of_describes describes, List.append_nil]
  · rw [first.tokenizeLines_eq, (first.append [[]]).tokenizeLines_eq, first.site_append]

/-- What is written is tokenized as the texts of its lines. -/
theorem WrittenLines.tokenize_source {written : WrittenLines}
    (areTexts : ∀ text ∈ written.texts, IsLineText text) (layout : Layout) :
    tokenize written.source layout =
      tokenizeLines layout ((written.texts.map String.toList).map .content) := by
  obtain ⟨ended, last⟩ := written
  obtain ⟨endedTexts, lastText⟩ := List.forall_mem_append.mp areTexts
  rw [tokenize, linesOfText_eq, source, physicalLines_join endedTexts, texts,
    List.map_append (f := String.toList)]
  have noLines : physicalLines "" = [] := rfl
  cases last with
  | none =>
      rw [Option.getD_none, noLines]
      rfl
  | some text =>
      by_cases empty : text = ""
      · subst empty
        rw [Option.getD_some, noLines, List.append_nil]
        exact (tokenizeLines_append_empty layout _).symm
      · have isLineText := lastText text (List.mem_singleton_self text)
        have nonempty : text.toList ≠ [] := fun none => empty (String.toList_eq_nil_iff.mp none)
        rw [Option.getD_some, physicalLines_of_not_mem isLineText.1 nonempty]
        rfl

/-! ## Carriage returns inside a line -/

theorem inWord_return : InWord '\x0d' := by
  decide

/-- No keyword has a carriage return in it. -/
theorem ne_text_of_return (before after : List Char) (word : Keyword) :
    before ++ '\x0d' :: after ≠ word.text.toList := by
  intro same
  have member : '\x0d' ∈ word.text.toList := same ▸ List.mem_append_cons_self
  revert member
  cases word <;> decide

/-- A run of word characters with a carriage return in it is a name. -/
theorem isLexeme_return {before after rest : List Char}
    (wordChars : ∀ char ∈ before ++ after, InWord char)
    (starts : ∀ first ∈ before.head?, ¬first.isDigit ∧ first ≠ '\x22' ∧ first ≠ '\x27')
    (ends : ∀ next ∈ rest.head?, ¬InWord next) :
    IsLexeme (before ++ '\x0d' :: after) (.id (String.ofList (before ++ '\x0d' :: after)))
      rest := by
  have noKeyword := ne_text_of_return before after
  have inWord : ∀ char ∈ before ++ '\x0d' :: after, InWord char := by
    obtain ⟨wordBefore, wordAfter⟩ := List.forall_mem_append.mp wordChars
    exact List.forall_mem_append.mpr
      ⟨wordBefore, List.forall_mem_cons.mpr ⟨inWord_return, wordAfter⟩⟩
  cases before with
  | nil => exact .name inWord (by decide) (by decide) (by decide) noKeyword ends
  | cons first before =>
      obtain ⟨noDigit, noDouble, noSingle⟩ := starts first rfl
      exact .name inWord noDigit noDouble noSingle noKeyword ends

/-- Sources whose lines have the same texts have the same tokens, or the same error with the
same place, whichever terminators are chosen for the lines and whether or not the last line
has one: every line is read as its text. What the text of a line has of carriage returns
stays in it and separates nothing, neither in a word nor in a text literal. -/
theorem lineBreaks_do_not_matter (width : Nat) :
    (∀ written written' : WrittenLines, (∀ text ∈ written.texts, IsLineText text) →
        written'.texts = written.texts →
        tokenize written'.source (.ofWidth width) = tokenize written.source (.ofWidth width) ∧
          tokenize written.source (.ofWidth width) = tokenizeLines (.ofWidth width)
            (written.texts.map fun text => .content text.toList)) ∧
      ∀ (layout : Layout) (current : Token) (remaining : List Line) (number depth : Nat)
          (line rest : List Char),
        (∀ before after : List Char, (∀ char ∈ before ++ after, InWord char) →
            (∀ first ∈ before.head?, ¬first.isDigit ∧ first ≠ '\x22' ∧ first ≠ '\x27') →
            (∀ next ∈ rest.head?, ¬InWord next) →
            (insideLine layout current remaining number depth 0 line
                (before ++ '\x0d' :: after ++ rest)).next =
              (.ok (.id (String.ofList (before ++ '\x0d' :: after))),
                insideLine layout current remaining number depth 0 line rest)) ∧
          ∀ (quote : Char) (items items' : List Item), quote = '\x22' ∨ quote = '\x27' →
            (∀ item ∈ items ++ items', item.Fits quote) →
            (insideLine layout current remaining number depth 0 line
                (literal quote (items ++ .plain '\x0d' :: items') ++ rest)).next =
              (.ok (.text (String.ofList (itemsValue items ++ '\x0d' :: itemsValue items'))),
                insideLine layout current remaining number depth 0 line rest) := by
  refine ⟨?_, ?_⟩
  · intro written written' areTexts same
    have read := written.tokenize_source areTexts (.ofWidth width)
    have areTexts' : ∀ text ∈ written'.texts, IsLineText text := by
      rw [same]
      exact areTexts
    rw [written'.tokenize_source areTexts', same, read, List.map_map]
    exact ⟨rfl, rfl⟩
  · intro layout current remaining number depth line rest
    refine ⟨?_, ?_⟩
    · intro before after wordChars starts ends
      exact next_of_lexes _ _ _ _ _ _ (isLexeme_return wordChars starts ends).lexes
    · intro quote items items' opens fits
      obtain ⟨fitsBefore, fitsAfter⟩ := List.forall_mem_append.mp fits
      have fitsReturn : Item.Fits quote (.plain '\x0d') := by
        rcases opens with rfl | rfl
        all_goals exact ⟨by decide, by decide⟩
      have isLexeme : IsLexeme (literal quote (items ++ .plain '\x0d' :: items'))
          (.text (String.ofList (itemsValue (items ++ .plain '\x0d' :: items')))) rest :=
        .text opens (List.forall_mem_append.mpr
          ⟨fitsBefore, List.forall_mem_cons.mpr ⟨fitsReturn, fitsAfter⟩⟩)
      rw [next_of_lexes _ _ _ _ _ _ isLexeme.lexes, itemsValue, List.flatMap_append]
      rfl

/-- Terminators mixed in two ways, an empty line among the lines, and carriage returns in a
word, a text and a comment. -/
theorem lineBreaks_do_not_matter_of_mixed :
    tokenize "a\x0db:\x0d\n\n  'x\x0dy' #\x0d z\x0d\n7" (.ofWidth 2) =
        tokenize "a\x0db:\n\x0d\n  'x\x0dy' #\x0d z\n7\x0d\n" (.ofWidth 2) ∧
      tokenize "a\x0db:\n\x0d\n  'x\x0dy' #\x0d z\n7\x0d\n" (.ofWidth 2) =
        .ok [.id "a\x0db", .char ':', .newline, .indent, .text "x\x0dy", .newline, .dedent,
          .number 7, .newline, .eof] := by
  let written : WrittenLines :=
    { ended := [("a\x0db:", .feed), ("", .returnFeed), ("  'x\x0dy' #\x0d z", .feed),
        ("7", .returnFeed)] }
  let written' : WrittenLines :=
    { ended := [("a\x0db:", .returnFeed), ("", .feed), ("  'x\x0dy' #\x0d z", .returnFeed)]
      last := some "7" }
  obtain ⟨same, read⟩ := (lineBreaks_do_not_matter 2).1 written written' (by decide) rfl
  refine ⟨same, read.trans ?_⟩
  decide +kernel

end Offside
