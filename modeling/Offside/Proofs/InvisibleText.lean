import Mathlib.Order.Basic
import Offside.Proofs.Lexeme.Trailing
import Offside.Proofs.LineBlocks

/-!
# Text that leaves no tokens

Lines of white space, lines with nothing but a comment, and what stands behind the last
lexeme of a line leave nothing in the tokens, not even in the layout. Such a line can be put
in anywhere, and moves errors below it down by one line; such an ending can be put behind any
line that scans, and moves nothing.
-/

namespace Offside

open Text Lexeme

/-- The text is empty or ends in a line feed, so that a line can begin after it. -/
def EndsLine (text : String) : Prop :=
  text = "" ∨ ∃ front, text = front ++ "\n"

/-- The text is empty or starts with a line feed, so that a line can end before it. -/
def StartsBreak (text : String) : Prop :=
  text = "" ∨ ∃ back, text = "\n" ++ back

/-- There is no line feed and no carriage return in the text. -/
def OnOneLine (text : String) : Prop :=
  '\n' ∉ text.toList ∧ '\x0d' ∉ text.toList

instance (text : String) : Decidable (OnOneLine text) :=
  inferInstanceAs (Decidable (_ ∧ _))

/-- The line consists of white space, or of any number of spaces and a comment. -/
def IsInvisible (line : String) : Prop :=
  (∀ char ∈ line.toList, isBlank char) ∨
    ∃ count comment, line.toList = List.replicate count ' ' ++ '#' :: comment

/-! ## Texts and their lines -/

section Lines

variable {before line after : String}

theorem EndsLine.closed (ends : EndsLine before) : Closed (· == '\n') before.toList := by
  rcases ends with rfl | ⟨front, rfl⟩
  · exact fun last found => nomatch found
  · intro last found
    rw [String.toList_append, List.getLast?_append] at found
    cases found
    rfl

theorem physicalLines_append (ends : EndsLine before) (after : String) :
    physicalLines (before ++ after) = physicalLines before ++ physicalLines after := by
  rw [physicalLines, String.toList_append, pieces_append ends.closed, List.map_append]
  rfl

theorem length_physicalLines (ends : EndsLine before) :
    (physicalLines before).length = before.toList.count '\n' := by
  rw [physicalLines, List.length_map, length_pieces ends.closed]
  rfl

theorem physicalLines_break (oneLine : OnOneLine line) (after : String) :
    physicalLines (line ++ ("\n" ++ after)) = line.toList :: physicalLines after := by
  have cut := pieces_append_cons (not_feed_of_not_mem oneLine.1) (beq_self_eq_true '\n')
    after.toList
  rw [physicalLines, String.toList_append, String.toList_append]
  exact (congrArg (List.map withoutTerminator) cut).trans
    (congrArg (· :: physicalLines after) (withoutTerminator_append oneLine.2))

/-- The lines after one that is not empty do not depend on it. -/
theorem exists_physicalLines_append (starts : StartsBreak after) :
    ∃ back, ∀ line : String, OnOneLine line → line.toList ≠ [] →
      physicalLines (line ++ after) = line.toList :: back := by
  rcases starts with rfl | ⟨more, rfl⟩
  · refine ⟨[], fun line oneLine nonempty => ?_⟩
    rw [String.append_empty]
    exact physicalLines_of_not_mem oneLine.1 nonempty
  · exact ⟨physicalLines more, fun line oneLine _ => physicalLines_break oneLine more⟩

theorem tokenize_eq_tokenizeLines (source : String) (layout : Layout) :
    tokenize source layout = tokenizeLines layout ((physicalLines source).map .content) := by
  rw [tokenize, linesOfText_eq]

end Lines

/-! ## Lines without content, and lines with more behind them -/

section Content

variable {line trailer : List Char}

theorem isSkipped_of_isInvisible {line : String} (invisible : IsInvisible line) :
    isSkipped line.toList := by
  rw [isSkipped, Bool.or_eq_true]
  rcases invisible with blank | ⟨count, comment, same⟩
  · exact .inl (List.all_eq_true.mpr blank)
  · right
    have noSpaces : (List.replicate count ' ' ++ '#' :: comment).dropWhile (· == ' ') =
        '#' :: comment := by
      rw [List.dropWhile_append_of_pos]
      · rfl
      · intro char member
        rw [List.eq_of_mem_replicate member]
        rfl
    rw [same, noSpaces]
    rfl

theorem ne_nil_of_content (content : ¬isSkipped line) : line ≠ [] := by
  rintro rfl
  exact content rfl

theorem lineContent_append (content : ¬isSkipped line) (trailer : List Char) :
    lineContent (line ++ trailer) = lineContent line ++ trailer := by
  have nonempty := Lexer.lineContent_ne_nil (hasContent_iff.mpr content)
  rw [lineContent, List.dropWhile_append, if_neg]
  · rfl
  · rw [List.isEmpty_iff]
    exact nonempty

/-- A line keeps its content with more behind it. -/
theorem not_isSkipped_append (content : ¬isSkipped line) (trailer : List Char) :
    ¬isSkipped (line ++ trailer) := by
  obtain ⟨first, rest, starts⟩ :=
    List.exists_cons_of_ne_nil (Lexer.lineContent_ne_nil (hasContent_iff.mpr content))
  have starts' := lineContent_append content trailer
  rw [starts, List.cons_append] at starts'
  intro skipped
  apply content
  rw [isSkipped, Bool.or_eq_true] at skipped ⊢
  rcases skipped with blank | comment
  · rw [List.all_append, Bool.and_eq_true] at blank
    exact .inl blank.1
  · -- Both lines start with the same character after their spaces.
    right
    rw [← lineContent, starts'] at comment
    rw [← lineContent, starts]
    exact comment

/-- A line keeps its indentation with more behind it. -/
theorem leadingSpaces_append (content : ¬isSkipped line) (trailer : List Char) :
    leadingSpaces (line ++ trailer) = leadingSpaces line := by
  have parts := Lexer.length_lineContent line
  have parts' := Lexer.length_lineContent (line ++ trailer)
  rw [lineContent_append content, List.length_append, List.length_append] at parts'
  omega

/-- With a trailer behind it a line that scans is the text of the same program. -/
theorem describes_append_trailer {tokens : List Token} (layout : Layout)
    (content : ¬isSkipped line) (scans : Scans line tokens) (isTrailer : IsTrailer trailer) :
    Describes layout [line ++ trailer]
      [{ depth := layout.depth (leadingSpaces line), tokens }] := by
  rw [← leadingSpaces_append content trailer]
  exact .content (not_isSkipped_append content trailer) (scans.append_trailer isTrailer) .nil

end Content

/-- A line of white space or with nothing but a comment, put in where a line can begin,
changes nothing but the line of errors below, and spaces and a comment behind a line that
scans change nothing at all. -/
theorem tokenize_eq_of_invisible_text (width : Nat) :
    (∀ before line after : String, EndsLine before → OnOneLine line → IsInvisible line →
        tokenize (before ++ (line ++ ("\n" ++ after))) (.ofWidth width) =
          (tokenize (before ++ after) (.ofWidth width)).mapError
            (·.moved (before.toList.count '\n') 1)) ∧
      ∀ before line trailer after : String, EndsLine before → StartsBreak after →
        OnOneLine line → ¬isSkipped line.toList → (∃ tokens, Scans line.toList tokens) →
        OnOneLine trailer → IsTrailer trailer.toList →
          tokenize (before ++ (line ++ trailer ++ after)) (.ofWidth width) =
            tokenize (before ++ (line ++ after)) (.ofWidth width) := by
  constructor
  · intro before line after ends oneLine invisible
    have skipped : Describes (.ofWidth width) [line.toList] [] :=
      .skipped (isSkipped_of_isInvisible invisible) .nil
    have exchanged := tokenizeLines_exchange .nil skipped rfl (physicalLines before)
      (physicalLines after)
    rw [tokenize_eq_tokenizeLines, tokenize_eq_tokenizeLines, physicalLines_append ends,
      physicalLines_append ends, physicalLines_break oneLine, ← length_physicalLines ends]
    exact exchanged
  · rintro before line trailer after ends starts oneLine content ⟨tokens, scans⟩ oneLine' isTrailer
    have nonempty := ne_nil_of_content content
    obtain ⟨back, same⟩ := exists_physicalLines_append starts
    have whole : OnOneLine (line ++ trailer) := by
      rw [OnOneLine, String.toList_append, List.mem_append, List.mem_append, not_or, not_or]
      exact ⟨⟨oneLine.1, oneLine'.1⟩, ⟨oneLine.2, oneLine'.2⟩⟩
    have nonempty' : (line ++ trailer).toList ≠ [] := by
      rw [String.toList_append]
      exact List.append_ne_nil_of_left_ne_nil nonempty _
    have exchanged := tokenizeLines_exchange (.content content scans .nil)
      (describes_append_trailer (.ofWidth width) content scans isTrailer) (Nat.add_zero 1).symm
      (physicalLines before) back
    rw [tokenize_eq_tokenizeLines, tokenize_eq_tokenizeLines, physicalLines_append ends,
      physicalLines_append ends, same line oneLine nonempty, same _ whole nonempty',
      String.toList_append]
    exact exchanged.trans (mapError_moved_zero _ _)

/-- The quotes in the comments open nothing. The first one puts the error on the third line,
and the second one leaves it on the second. -/
theorem tokenize_eq_of_invisible_text_of_comments :
    tokenize ("x\n" ++ ("   # 'a" ++ ("\n" ++ " 'b"))) (.ofWidth 2) =
        .error (.unterminatedText 3 2) ∧
      tokenize ("" ++ ("x" ++ "  # 'a" ++ "\n 'b")) (.ofWidth 2) =
        .error (.unterminatedText 2 2) := by
  have unclosed : tokenize ("x\n" ++ " 'b") (.ofWidth 2) = .error (.unterminatedText 2 2) := by
    decide +kernel
  obtain ⟨inserted, appended⟩ := tokenize_eq_of_invisible_text 2
  constructor
  · have moved := inserted "x\n" "   # 'a" " 'b" (.inr ⟨"x", rfl⟩) (by decide)
      (.inr ⟨3, " 'a".toList, by decide⟩)
    rw [unclosed] at moved
    exact moved
  · have same := appended "" "x" "  # 'a" "\n 'b" (.inl rfl) (.inr ⟨" 'b", by decide⟩)
      (by decide) (by decide) ⟨[.id "x"], by decide +kernel⟩ (by decide)
      ⟨2, "# 'a".toList, by decide, fun first found => (Option.some.inj found).symm⟩
    rw [same]
    exact unclosed

end Offside
