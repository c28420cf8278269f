import Offside.Proofs.Batch
import Offside.Proofs.Lexeme.Segments
import Offside.Proofs.UndecodableLines

/-!
# Maximal munch

A lexer gives the tokens and the newline of a line exactly if the line can be cut into
lexemes that are each as long as can be. There is one such cut at most, the tokens are those
of its lexemes, and with every token the lexer moves on by the bytes of the spaces and the
lexeme.
-/

namespace Offside.Lexer

open Text Lexeme

variable {lexer target : Lexer} {shift tokens tokens' : List Token}

/-- The lexer gives layout tokens, other tokens and the newline that ends their line. -/
def FinishesLine (lexer : Lexer) (shift tokens : List Token) : Prop :=
  Token.newline ∉ tokens ∧
    lexer.outcomes (shift.length + tokens.length + 1) =
      (shift ++ tokens ++ [Token.newline]).map .ok

/-! ## Any number of calls -/

theorem isPrefix_outcomes (lexer : Lexer) {count more : Nat} (fewer : count ≤ more) :
    lexer.outcomes count <+: lexer.outcomes more := by
  obtain ⟨rest, rfl⟩ := Nat.exists_eq_add_of_le fewer
  rw [← take_outcomes lexer count rest]
  exact List.take_prefix _ _

theorem finishesLine_congr (same : lexer.next = target.next) :
    lexer.FinishesLine shift tokens ↔ target.FinishesLine shift tokens := by
  rw [FinishesLine, FinishesLine, outcomes_congr same]

/-- Of two lists before the same last item, one is not the start of the other. -/
theorem eq_of_isPrefix_concat {α : Type} {front items items' : List α} {last : α}
    (absent : last ∉ items') (starts : front ++ items ++ [last] <+: front ++ items' ++ [last]) :
    items = items' := by
  rcases List.prefix_concat_iff.mp starts with same | shorter
  · exact List.append_cancel_left (List.append_cancel_right same)
  · rw [List.append_assoc, List.prefix_append_right_inj] at shorter
    exact absurd (shorter.subset (List.mem_append_right _ (List.mem_singleton_self last))) absent

theorem newline_not_mem_map (absent : Token.newline ∉ tokens) :
    (.ok .newline : Except LexError Token) ∉ tokens.map .ok := by
  intro member
  obtain ⟨token, member, same⟩ := List.mem_map.mp member
  cases same
  exact absent member

theorem newline_not_mem_layoutShift (before after : Nat) :
    Token.newline ∉ layoutShift before after := by
  simp [layoutShift, List.mem_replicate]

theorem FinishesLine.eq_of_length_le (finishes : lexer.FinishesLine shift tokens)
    (finishes' : lexer.FinishesLine shift tokens') (shorter : tokens.length ≤ tokens'.length) :
    tokens = tokens' := by
  -- What fewer calls give is the start of what more calls give.
  have starts := lexer.isPrefix_outcomes (show shift.length + tokens.length + 1 ≤
    shift.length + tokens'.length + 1 by omega)
  rw [finishes.2, finishes'.2] at starts
  simp only [List.map_append, List.map_cons, List.map_nil] at starts
  apply (List.map_inj_right fun _ _ (same : Except.ok _ = Except.ok _) => Except.ok.inj same).mp
  exact eq_of_isPrefix_concat (newline_not_mem_map finishes'.1) starts

/-- The newline that ends a line is the first one, so the tokens before it are known. -/
theorem FinishesLine.unique (finishes : lexer.FinishesLine shift tokens)
    (finishes' : lexer.FinishesLine shift tokens') : tokens = tokens' := by
  rcases Nat.le_total tokens.length tokens'.length with shorter | shorter
  · exact finishes.eq_of_length_le finishes' shorter
  · exact (finishes'.eq_of_length_le finishes shorter).symm

theorem afterCalls_add (lexer : Lexer) (count more : Nat) :
    lexer.afterCalls (count + more) = (lexer.afterCalls count).afterCalls more := by
  induction count generalizing lexer with
  | zero => rw [Nat.zero_add, afterCalls]
  | succ count ih => rw [Nat.add_right_comm, afterCalls, afterCalls, ih]

theorem afterCalls_congr (same : lexer.next = target.next) (count : Nat) :
    lexer.afterCalls (count + 1) = target.afterCalls (count + 1) := by
  rw [afterCalls, afterCalls, advance_congr same]

section States

variable (layout : Layout) (current : Token) (remaining : List Line) (number depth : Nat)
variable (line : List Char)

/-- Owed layout is paid by as many calls, and the lexer stays where it is. -/
theorem exists_afterCalls_dedents (rest : List Char) (levels : Nat) : ∃ current',
    (insideLine layout current remaining number depth levels line rest).afterCalls levels =
      insideLine layout current' remaining number depth 0 line rest := by
  induction levels generalizing current with
  | zero => exact ⟨current, rfl⟩
  | succ levels ih =>
      obtain ⟨current', later⟩ := ih .dedent
      refine ⟨current', ?_⟩
      rw [afterCalls, advance_of_next (next_of_dedent ..)]
      exact later

theorem exists_afterCalls_indents (rest : List Char) (levels : Nat) : ∃ current',
    (insideLine layout current remaining number depth (-levels) line rest).afterCalls levels =
      insideLine layout current' remaining number depth 0 line rest := by
  induction levels generalizing current with
  | zero => exact ⟨current, rfl⟩
  | succ levels ih =>
      obtain ⟨current', later⟩ := ih .indent
      refine ⟨current', ?_⟩
      rw [afterCalls, advance_of_next (next_of_indent ..)]
      exact later

theorem exists_afterCalls_layoutShift (rest : List Char) (before : Nat) : ∃ current',
    (insideLine layout current remaining number depth (before - depth : Int) line rest).afterCalls
        (layoutShift before depth).length =
      insideLine layout current' remaining number depth 0 line rest := by
  rw [layoutShift, List.length_append, List.length_replicate, List.length_replicate]
  rcases Nat.le_total before depth with deeper | shallower
  · have paid := exists_afterCalls_indents layout current remaining number depth line rest
      (depth - before)
    rw [Int.natCast_sub deeper, Int.neg_sub] at paid
    rw [Nat.sub_eq_zero_of_le deeper]
    exact paid
  · have paid := exists_afterCalls_dedents layout current remaining number depth line rest
      (before - depth)
    rw [Int.natCast_sub shallower] at paid
    rw [Nat.sub_eq_zero_of_le shallower, Nat.zero_add]
    exact paid

/-- After so many calls the lexer is behind so many lexemes. -/
theorem exists_afterCalls_drop {segments : Segments} (munch : segments.IsMunch) (count : Nat)
    (within : count ≤ segments.tokens.length) : ∃ current',
    (insideLine layout current remaining number depth 0 line segments.text).afterCalls count =
      insideLine layout current' remaining number depth 0 line (segments.drop count).text := by
  induction count generalizing segments current with
  | zero => exact ⟨current, by cases segments <;> rfl⟩
  | succ count ih =>
      cases segments with
      | ended spaces rest => exact absurd within (Nat.not_succ_le_zero count)
      | piece spaces lexeme token others =>
          obtain ⟨isLexeme, _, _, munchOthers⟩ := munch
          have passed := (next_of_spaces layout current remaining number depth line
            (lexeme ++ others.text) spaces).trans (next_of_lexes _ _ _ _ _ _ isLexeme.lexes)
          obtain ⟨current', later⟩ := ih token munchOthers (Nat.le_of_succ_le_succ within)
          refine ⟨current', ?_⟩
          rw [afterCalls, Segments.text, advance_of_next passed]
          exact later

theorem exists_afterCalls_munch {segments : Segments} (before : Nat) (munch : segments.IsMunch)
    (count : Nat) (within : count ≤ segments.tokens.length) : ∃ current',
    (insideLine layout current remaining number depth (before - depth : Int) line
        segments.text).afterCalls ((layoutShift before depth).length + count) =
      insideLine layout current' remaining number depth 0 line (segments.drop count).text := by
  obtain ⟨paying, paid⟩ := exists_afterCalls_layoutShift layout current remaining number depth line
    segments.text before
  rw [afterCalls_add, paid]
  exact exists_afterCalls_drop layout paying remaining number depth line munch count within

/-- A line that scans is finished, with the tokens on it. -/
theorem finishesLine_of_scans (content : hasContent line) (scans : Scans line tokens) :
    (betweenLines layout current (.content line :: remaining) number depth).FinishesLine
      (layoutShift depth (layout.depth (leadingSpaces line))) tokens := by
  obtain ⟨passed, rest, same, passes, ended⟩ := scans
  have yields := yields_before layout current remaining number depth
    (hasContent_iff.mp content) same passes
  have newline := next_of_ended layout current remaining (number + 1)
    (layout.depth (leadingSpaces line)) line ended
  have given := yields.outcomes_eq 1
  rw [List.length_append, outcomes_of_next newline 0] at given
  constructor
  · intro member
    exact passes.not_isStructural _ member rfl
  · rw [given, List.map_append, List.map_append, List.map_append]
    rfl

/-- A line that does not scan is not finished. -/
theorem exists_scans_of_finishesLine (content : hasContent line)
    (finishes : (betweenLines layout current (.content line :: remaining) number
      depth).FinishesLine (layoutShift depth (layout.depth (leadingSpaces line))) tokens) :
    ∃ tokens, Scans line tokens := by
  rcases scans_or_faulty line with scans | ⟨passed, before, rest, fault, same, passes, faulty⟩
  · exact scans
  have yields := yields_before layout current remaining number depth
    (hasContent_iff.mp content) same passes
  have stuck := next_of_faulty layout current remaining (number + 1)
    (layout.depth (leadingSpaces line)) line faulty
  have ends : (.ok .newline : Except LexError Token) ∈
      (layoutShift depth (layout.depth (leadingSpaces line)) ++ tokens ++ [Token.newline]).map
        .ok :=
    List.mem_map_of_mem (List.mem_append_right _ (List.mem_singleton_self _))
  -- The fault comes back for ever, so the newline would have to come before it.
  rw [← finishes.2, yields.outcomes_of_stuck stuck] at ends
  rcases List.mem_append.mp (List.mem_of_mem_take ends) with given | failed
  · refine absurd given (newline_not_mem_map ?_)
    rw [List.mem_append, not_or]
    exact ⟨newline_not_mem_layoutShift _ _, fun member => passes.not_isStructural _ member rfl⟩
  · cases List.eq_of_mem_replicate failed

/-- The tokens of its own that a lexer gives before the newline are those of the line. -/
theorem finishesLine_iff (content : hasContent line) :
    (betweenLines layout current (.content line :: remaining) number depth).FinishesLine
        (layoutShift depth (layout.depth (leadingSpaces line))) tokens ↔ Scans line tokens := by
  constructor
  · intro finishes
    obtain ⟨others, scans⟩ := exists_scans_of_finishesLine _ _ _ _ _ _ content finishes
    cases finishes.unique (finishesLine_of_scans _ _ _ _ _ _ content scans)
    exact scans
  · exact finishesLine_of_scans _ _ _ _ _ _ content

theorem next_of_skipped_lines {skipped : List (List Char)}
    (blank : ∀ text ∈ skipped, hasContent text = false) :
    (betweenLines layout current (skipped.map .content ++ remaining) number depth).next =
      (betweenLines layout current remaining (number + skipped.length) depth).next := by
  induction skipped generalizing number with
  | nil => rfl
  | cons text skipped ih =>
      obtain ⟨blankFirst, blankLater⟩ := List.forall_mem_cons.mp blank
      rw [List.length_cons, Nat.add_comm skipped.length, ← Nat.add_assoc, ← ih _ blankLater]
      exact next_of_skipped _ _ _ _ _ blankFirst

end States

/-! ## Lines -/

/-- A line scans after its leading spaces as it does with them. -/
theorem scans_lineContent_iff {line : List Char} :
    Scans line tokens ↔ Scans (lineContent line) tokens := by
  have withSpaces {tokens : List Token} (scans : Scans (lineContent line) tokens) :
      Scans line tokens := by
    have spaced := scans.spaces (leadingSpaces line)
    rw [lineContent_eq_spaces] at spaced
    exact spaced
  refine ⟨?_, withSpaces⟩
  intro scans
  rcases scans_or_faulty (lineContent line) with ⟨others, scansContent⟩ | faulty
  · have again := lineTokens?_eq_some_iff.mpr (withSpaces scansContent)
    cases (lineTokens?_eq_some_iff.mpr scans).symm.trans again
    exact scansContent
  · obtain ⟨passed, before, rest, fault, same, passes, faulty⟩ := faulty
    refine absurd faulty (scans.not_faulty ?_ (passes.spaces (leadingSpaces line)))
    rw [List.append_assoc, ← same, lineContent_eq_spaces]

/-- Behind so many lexemes the column is that of their bytes. -/
theorem column_drop {line : List Char} {segments : Segments}
    (text : segments.text = lineContent line) (count : Nat) :
    (OpenLine.mk line (segments.drop count).text).column =
      leadingSpaces line + segments.bytes count + 1 := by
  have bytes := utf8Length_lineContent line
  rw [← text, segments.utf8Length_text count, ← Nat.add_assoc] at bytes
  rw [OpenLine.column, bytes, Nat.add_sub_cancel]

/-- Whatever lines without content come first, the lexer gives the layout of a line, tokens
of its own and a newline exactly if the line after its indentation is cut into lexemes that
are each as long as can be, and the tokens are theirs. There is one such cut at most. With
each of its tokens the lexer has moved on by the bytes of one lexeme and of the spaces before
it. -/
theorem line_munched_in_one_way (layout : Layout) (current : Token) (skipped : List (List Char))
    (line : List Char) (remaining : List Line) (number depth : Nat)
    (blank : ∀ text ∈ skipped, hasContent text = false) (content : hasContent line) :
    let lexer := betweenLines layout current (skipped.map .content ++ .content line :: remaining)
      number depth
    let shift := layoutShift depth (layout.depth (leadingSpaces line))
    (∀ tokens, lexer.FinishesLine shift tokens ↔
        ∃ segments : Segments, segments.IsMunch ∧ segments.text = lineContent line ∧
          segments.tokens = tokens) ∧
      (∀ segments segments' : Segments, segments.IsMunch → segments'.IsMunch →
        segments.text = lineContent line → segments'.text = lineContent line →
          segments = segments') ∧
      ∀ segments : Segments, segments.IsMunch → segments.text = lineContent line →
        ∀ count < segments.tokens.length,
          (lexer.afterCalls (shift.length + (count + 1))).reading.map OpenLine.column =
            some (leadingSpaces line + segments.bytes (count + 1) + 1) := by
  intro lexer shift
  have met : lexer.next = (betweenLines layout current (.content line :: remaining)
      (number + skipped.length) depth).next := next_of_skipped_lines _ _ _ _ _ blank
  refine ⟨?_, ?_, ?_⟩
  · intro tokens
    rw [finishesLine_congr met, finishesLine_iff _ _ _ _ _ _ content, scans_lineContent_iff,
      Segments.scans_iff_exists_isMunch]
  · intro segments segments' munch munch' text text'
    exact munch.unique munch' (text.trans text'.symm)
  · intro segments munch text count within
    have entered := met.trans (next_of_content layout current remaining _ depth content)
    obtain ⟨current', came⟩ := exists_afterCalls_munch layout current remaining
      (number + skipped.length + 1) (layout.depth (leadingSpaces line)) line depth munch (count + 1)
      within
    rw [text, ← Nat.add_assoc, ← afterCalls_congr entered] at came
    rw [← Nat.add_assoc, came]
    exact congrArg some (column_drop text (count + 1))

/-- A quote inside a word belongs to it, a character of two bytes counts as two, and two
symbols together are one comparison. -/
theorem line_munched_in_one_way_of_quote_in_word :
    let skipped := [" ".toList, "# x".toList]
    let line := "  é'b <=7 # c".toList
    let segments : Segments := .piece 0 ['é', '\x27', 'b'] (.id "é'b")
      (.piece 1 ['<', '='] (.comparator .lessOrEqual)
        (.piece 0 ['7'] (.number 7) (.ended 1 "# c".toList)))
    let lexer := betweenLines (.ofWidth 2) .eof (skipped.map .content ++ [.content line]) 0 0
    (∀ text ∈ skipped, hasContent text = false) ∧ hasContent line ∧ segments.IsMunch ∧
      lexer.FinishesLine [.indent] [.id "é'b", .comparator .lessOrEqual, .number 7] ∧
      (lexer.afterCalls 3).reading.map OpenLine.column = some 10 := by
  intro skipped line segments lexer
  have blank : ∀ text ∈ skipped, hasContent text = false := by decide +kernel
  have content : hasContent line := by decide +kernel
  have munch : segments.IsMunch := by
    have word : IsLexeme ['é', '\x27', 'b'] (.id "é'b") " <=7 # c".toList := by
      refine .name ?_ (by decide) (by decide) (by decide) (fun word => by cases word <;> decide) ?_
      · simp only [List.forall_mem_cons]
        exact ⟨by decide, by decide, by decide, fun _ member => nomatch member⟩
      · intro next follows
        exact Option.some.inj follows ▸ (by decide : ¬InWord ' ')
    have sign : IsLexeme ['<', '='] (.comparator .lessOrEqual) "7 # c".toList :=
      .comparator (by decide)
    have number : IsLexeme ['7'] (.number 7) " # c".toList := by
      refine .number (by decide) (List.forall_mem_singleton.mpr rfl) ?_ (by decide)
      intro next follows
      exact Option.some.inj follows ▸ (by decide : ¬Char.isDigit ' ')
    exact ⟨word, by decide, by decide, sign, by decide, by decide, number, by decide, by decide,
      fun first follows => (Option.some.inj follows).symm⟩
  have text : segments.text = lineContent line := by decide +kernel
  obtain ⟨finished, _, columns⟩ :=
    line_munched_in_one_way (.ofWidth 2) .eof skipped line [] 0 0 blank content
  have deeper : (Layout.ofWidth 2).depth (leadingSpaces line) = 1 := by decide +kernel
  rw [deeper] at finished columns
  exact ⟨blank, content, munch, (finished _).mpr ⟨segments, munch, text, rfl⟩,
    columns segments munch text 1 (by decide)⟩

end Offside.Lexer
