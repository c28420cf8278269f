import Mathlib.Order.Basic
import Offside.Proofs.Lexer.Driving
import Offside.Proofs.Lexer.Turns

/-!
# Undecodable lines

A line that cannot be decoded gives one error when it is reached and is passed by that.
Whatever a lexer does on a source with such lines, with these errors left out, it does on
the source without the lines: they are the hidden moves of the longer run, and every
other move is made by both lexers.
-/

namespace Offside

open Text

/-! ## Sources without undecodable lines -/

namespace Text

variable {α : Type} {ends : α → Bool} {items line : List α} {parts : List (List α)}

/-- Parts that a list is cut into: each is ended by its last element, and only the last
part may lack such an end. -/
inductive Cut (ends : α → Bool) : List (List α) → Prop where
  | none : Cut ends []
  | last {line : List α} :
      line ≠ [] → (∀ item ∈ line, ¬ends item) → Cut ends [line]
  | line {line : List α} {last : α} {others : List (List α)} :
      (∀ item ∈ line, ¬ends item) → ends last → Cut ends others →
      Cut ends ((line ++ [last]) :: others)

theorem cut_pieces (ends : α → Bool) (items : List α) : Cut ends (pieces ends items) := by
  induction items with
  | nil => exact .none
  | cons item items ih =>
      have nothing : ∀ other ∈ ([] : List α), ¬ends other := fun _ member => nomatch member
      rw [pieces]
      by_cases ended : ends item
      · rw [if_pos ended]
        exact .line nothing ended ih
      · rw [if_neg ended]
        generalize pieces ends items = parts at ih
        have longer {line : List α} (within : ∀ other ∈ line, ¬ends other) :
            ∀ other ∈ item :: line, ¬ends other :=
          List.forall_mem_cons.mpr ⟨ended, within⟩
        cases ih with
        | none => exact .last (List.cons_ne_nil _ _) (longer nothing)
        | last _ within => exact .last (List.cons_ne_nil _ _) (longer within)
        | line within ended others => exact .line (longer within) ended others

/-- Parts may be left out of a cut. -/
theorem Cut.filter (cut : Cut ends parts) (keep : List α → Bool) :
    Cut ends (parts.filter keep) := by
  induction cut with
  | none => exact .none
  | @last line nonempty within =>
      by_cases kept : keep line
      · rw [List.filter_cons_of_pos kept]
        exact .last nonempty within
      · rw [List.filter_cons_of_neg kept]
        exact .none
  | @line line last others within ended _ ih =>
      by_cases kept : keep (line ++ [last])
      · rw [List.filter_cons_of_pos kept]
        exact .line within ended ih
      · rw [List.filter_cons_of_neg kept]
        exact ih

/-- Joined parts are cut into the same parts again. -/
theorem Cut.pieces_flatten (cut : Cut ends parts) : pieces ends parts.flatten = parts := by
  induction cut with
  | none => rfl
  | last nonempty within =>
      rw [List.flatten_singleton]
      exact pieces_of_not_ended nonempty within
  | line within ended _ ih =>
      rw [List.flatten_cons, List.append_assoc, List.singleton_append,
        pieces_append_cons within ended, ih]

/-- The bytes without the lines that are not UTF-8, each left out with its terminator. -/
def withoutUndecodable (bytes : List UInt8) : List UInt8 :=
  ((pieces (· == 0x0A) bytes).filter fun piece =>
    (String.fromUTF8? ⟨piece.toArray⟩).isSome).flatten

/-- The lines that can be decoded. -/
def readableLines (lines : List Line) : List Line :=
  lines.filter (· ≠ .undecodable)

theorem lineOfBytes_ne_undecodable (piece : List UInt8) :
    decide (lineOfBytes piece ≠ .undecodable) =
      (String.fromUTF8? ⟨piece.toArray⟩).isSome := by
  rw [lineOfBytes]
  cases String.fromUTF8? ⟨piece.toArray⟩ with
  | none => rfl
  | some text => rfl

theorem linesOfBytes_withoutUndecodable (bytes : List UInt8) :
    linesOfBytes (withoutUndecodable bytes) = readableLines (linesOfBytes bytes) := by
  rw [linesOfBytes, withoutUndecodable, ((cut_pieces _ bytes).filter _).pieces_flatten,
    readableLines, linesOfBytes, List.filter_map]
  congr 1
  refine List.filter_congr ?_
  intro piece _
  exact (lineOfBytes_ne_undecodable piece).symm

end Text

namespace Lexer

variable {lexer after target : Lexer} {outcome : Except LexError Token}

/-! ## The lexer on the readable lines -/

/-- The lexer with the undecodable lines taken from its source. -/
def readable (lexer : Lexer) : Lexer :=
  { lexer with remaining := readableLines lexer.remaining }

/-- Whether an outcome is the error of an undecodable line. -/
def isUnreadable : Except LexError Token → Bool
  | .error .unreadableLine => true
  | _ => false

/-- A turn with any outcome but the error of an undecodable line is a turn of the lexer
on the readable lines. -/
theorem Turn.readable (turn : Turn lexer outcome after) (reads : ¬isUnreadable outcome) :
    Turn lexer.readable outcome after.readable := by
  induction turn with
  | dedent levels => exact .dedent levels
  | indent levels => exact .indent levels
  | space _ ih => exact .space (ih reads)
  | lexeme lexes => exact .lexeme lexes
  | newline ended => exact .newline ended
  | fault faulty => exact .fault faulty
  | skip skipped _ ih => exact .skip skipped (ih reads)
  | enter content _ ih => exact .enter content (ih reads)
  | undecodable => exact absurd rfl reads
  | close => exact .close
  | ended => exact .ended

/-- The error of an undecodable line makes no difference to the lexer on the readable
lines. -/
theorem Turn.readable_next_eq (turn : Turn lexer outcome after) (fails : isUnreadable outcome) :
    lexer.readable.next = after.readable.next := by
  induction turn with
  | dedent levels => cases fails
  | indent levels => cases fails
  | space _ ih => exact (next_of_space ..).trans (ih fails)
  | lexeme _ => cases fails
  | newline _ => cases fails
  | @fault _ _ _ _ _ _ _ fault _ => cases fault <;> cases fails
  | skip skipped _ ih => exact (next_of_skipped _ _ _ _ _ skipped).trans (ih fails)
  | enter content _ ih => exact (next_of_content _ _ _ _ _ content).trans (ih fails)
  | undecodable => rfl
  | close => cases fails
  | ended => cases fails

/-- A turn passes lines, and one undecodable line exactly if that is its error. -/
theorem Turn.remaining_eq (turn : Turn lexer outcome after) :
    ∃ passed, lexer.remaining = passed ++ after.remaining ∧
      passed.count .undecodable = [outcome].countP isUnreadable := by
  induction turn with
  | dedent levels => exact ⟨[], rfl, rfl⟩
  | indent levels => exact ⟨[], rfl, rfl⟩
  | space _ ih => exact ih
  | lexeme _ => exact ⟨[], rfl, rfl⟩
  | newline _ => exact ⟨[], rfl, rfl⟩
  | @fault _ _ _ _ _ _ _ fault _ => cases fault <;> exact ⟨[], rfl, rfl⟩
  | @skip _ _ _ _ _ line _ _ _ _ ih =>
      obtain ⟨passed, same, counted⟩ := ih
      exact ⟨.content line :: passed, congrArg _ same, counted⟩
  | @enter _ _ _ _ _ line _ _ _ _ ih =>
      obtain ⟨passed, same, counted⟩ := ih
      exact ⟨.content line :: passed, congrArg _ same, counted⟩
  | undecodable => exact ⟨[.undecodable], rfl, rfl⟩
  | close => exact ⟨[], rfl, rfl⟩
  | ended => exact ⟨[], rfl, rfl⟩

/-! ## Runs of calls -/

/-- A lexer after so many calls of `advance`. -/
def afterCalls : Lexer → Nat → Lexer
  | lexer, 0 => lexer
  | lexer, count + 1 => afterCalls lexer.advance.2 count

/-- The outcomes of so many calls of `advance`, each with the line number after it. -/
def record : Lexer → Nat → List (Except LexError Token × Nat)
  | _, 0 => []
  | lexer, count + 1 =>
      (lexer.advance.1, lexer.advance.2.lineNumber) :: record lexer.advance.2 count

/-- The entries of a record that are not the error of an undecodable line. -/
def readEntries (entries : List (Except LexError Token × Nat)) :
    List (Except LexError Token × Nat) :=
  entries.filter fun entry => ¬isUnreadable entry.1

/-- How often a record has the error of an undecodable line. -/
def unreadableCount (entries : List (Except LexError Token × Nat)) : Nat :=
  entries.countP fun entry => isUnreadable entry.1

theorem record_congr (same : lexer.next = target.next) (count : Nat) :
    lexer.record count = target.record count := by
  cases count with
  | zero => rfl
  | succ count => rw [record, record, advance_congr same]

/-- Any outcome but the error of an undecodable line is that of the lexer on the readable
lines. -/
theorem advance_readable (settled : lexer.Settled) (reads : ¬isUnreadable lexer.advance.1) :
    lexer.readable.advance = (lexer.advance.1, lexer.advance.2.readable) := by
  have turn := turn_next settled
  rcases produced : lexer.next with ⟨error | token, after⟩
  · rw [advance_of_error produced] at reads ⊢
    rw [produced] at turn
    exact advance_of_error (turn.readable reads).next_eq
  · rw [advance_of_next produced] at reads ⊢
    rw [produced] at turn
    exact advance_of_next (turn.readable reads).next_eq

/-- An error is what the next call gives, and nothing else changes. -/
theorem advance_eq_next_of_isUnreadable (fails : isUnreadable lexer.advance.1) :
    lexer.advance = lexer.next := by
  rcases produced : lexer.next with ⟨error | token, after⟩
  · exact advance_of_error produced
  · rw [advance_of_next produced] at fails
    exact absurd fails Bool.false_ne_true

/-- The error of an undecodable line leaves the lexer on the readable lines as it was. -/
theorem readable_next_eq (settled : lexer.Settled) (fails : isUnreadable lexer.advance.1) :
    lexer.readable.next = lexer.advance.2.readable.next := by
  have same := advance_eq_next_of_isUnreadable fails
  rw [same] at fails ⊢
  exact (turn_next settled).readable_next_eq fails

theorem current_advance_of_isUnreadable (settled : lexer.Settled)
    (fails : isUnreadable lexer.advance.1) : lexer.advance.2.current = lexer.current := by
  rw [advance_eq_next_of_isUnreadable fails]
  exact (turn_next settled).current_eq

theorem settled_advance (settled : lexer.Settled) : lexer.advance.2.Settled := by
  obtain ⟨current, advanced⟩ := exists_advance_eq lexer
  rw [advanced]
  exact (turn_next settled).settled

theorem readEntries_record_succ_of_isUnreadable (fails : isUnreadable lexer.advance.1)
    (count : Nat) :
    readEntries (lexer.record (count + 1)) = readEntries (lexer.advance.2.record count) :=
  List.filter_cons_of_neg (by simpa using fails)

theorem readEntries_record_succ_of_not (reads : ¬isUnreadable lexer.advance.1) (count : Nat) :
    readEntries (lexer.record (count + 1)) =
      (lexer.advance.1, lexer.advance.2.lineNumber) :: readEntries (lexer.advance.2.record count) :=
  List.filter_cons_of_pos (by simpa using reads)

/-- The record of a lexer, with the errors of undecodable lines left out, is the record
of the lexer on the readable lines. -/
theorem readEntries_record (settled : lexer.Settled) (count : Nat) :
    readEntries (lexer.record count) =
      lexer.readable.record (readEntries (lexer.record count)).length := by
  induction count generalizing lexer with
  | zero => rfl
  | succ count ih =>
      have later := ih (settled_advance settled)
      by_cases fails : isUnreadable lexer.advance.1
      · rw [readEntries_record_succ_of_isUnreadable fails,
          record_congr (readable_next_eq settled fails)]
        exact later
      · rw [readEntries_record_succ_of_not fails, List.length_cons, record,
          advance_readable settled fails]
        exact congrArg _ later

/-- An advance passes lines, and one undecodable line exactly if that is its error. -/
theorem exists_passed_advance (settled : lexer.Settled) :
    ∃ passed, lexer.remaining = passed ++ lexer.advance.2.remaining ∧
      passed.count .undecodable = [lexer.advance.1].countP isUnreadable := by
  obtain ⟨current, advanced⟩ := exists_advance_eq lexer
  rw [advanced]
  exact (turn_next settled).remaining_eq

/-- The lines that so many calls pass have as many undecodable ones among them as the
calls had errors for them. -/
theorem exists_passed (settled : lexer.Settled) (count : Nat) :
    ∃ passed, lexer.remaining = passed ++ (lexer.afterCalls count).remaining ∧
      unreadableCount (lexer.record count) = passed.count .undecodable := by
  induction count generalizing lexer with
  | zero => exact ⟨[], rfl, rfl⟩
  | succ count ih =>
      obtain ⟨later, sameLater, countedLater⟩ := ih (settled_advance settled)
      obtain ⟨passed, same, counted⟩ := exists_passed_advance settled
      refine ⟨passed ++ later, ?_, ?_⟩
      · rw [afterCalls, List.append_assoc, ← sameLater]
        exact same
      · rw [List.count_append, counted, ← countedLater, record, ← List.singleton_append,
          unreadableCount, List.countP_append]
        rfl

theorem settled_afterCalls (settled : lexer.Settled) (count : Nat) :
    (lexer.afterCalls count).Settled := by
  induction count generalizing lexer with
  | zero => exact settled
  | succ count ih => exact ih (settled_advance settled)

/-- No entry of the shorter record is kept back for ever: each undecodable line delays it
by one call. -/
theorem exists_length_readEntries (settled : lexer.Settled) (length : Nat) :
    ∃ count, (readEntries (lexer.record count)).length = length := by
  have bounded : ∃ calls, length + lexer.remaining.count .undecodable ≤ calls :=
    ⟨_, Nat.le_refl _⟩
  obtain ⟨calls, bounded⟩ := bounded
  induction calls generalizing lexer length with
  | zero =>
      have none : length = 0 := Nat.eq_zero_of_add_eq_zero_right (Nat.le_zero.mp bounded)
      exact ⟨0, none.symm⟩
  | succ calls ih =>
      obtain ⟨passed, same, counted⟩ := exists_passed_advance settled
      rw [same, List.count_append] at bounded
      cases length with
      | zero => exact ⟨0, rfl⟩
      | succ length =>
          by_cases fails : isUnreadable lexer.advance.1
          · rw [counted, List.countP_singleton, if_pos fails] at bounded
            obtain ⟨count, found⟩ := ih (settled_advance settled) (length + 1) (by omega)
            exact ⟨count + 1, (readEntries_record_succ_of_isUnreadable fails count).symm ▸ found⟩
          · obtain ⟨count, found⟩ := ih (settled_advance settled) length (by omega)
            refine ⟨count + 1, ?_⟩
            rw [readEntries_record_succ_of_not fails, List.length_cons, found]

/-! ## Construction -/

/-- A lexer inside a line has no undecodable line to report. -/
theorem Turn.not_isUnreadable (turn : Turn lexer outcome after) (inside : lexer.reading.isSome) :
    ¬isUnreadable outcome := by
  induction turn with
  | space _ ih => exact ih rfl
  | @fault _ _ _ _ _ _ _ fault _ => cases fault <;> exact Bool.false_ne_true
  | skip _ _ _ => cases inside
  | enter _ _ _ => cases inside
  | undecodable => cases inside
  | _ => exact Bool.false_ne_true

end Lexer

namespace Text

/-- A line that can be decoded and has content. -/
def Line.hasContent : Line → Bool
  | .content line => Offside.hasContent line
  | .undecodable => false

/-- There is an undecodable line with no line of content before it. -/
def UndecodableFirst (lines : List Line) : Prop :=
  ∃ before others, lines = before ++ .undecodable :: others ∧ ∀ line ∈ before, ¬line.hasContent

theorem undecodableFirst_cons {line : List Char} {lines : List Line} :
    UndecodableFirst (.content line :: lines) ↔
      Offside.hasContent line = false ∧ UndecodableFirst lines := by
  constructor
  · intro first
    obtain ⟨before, others, same, blank⟩ := first
    cases before with
    | nil => cases same
    | cons head before =>
        cases same
        obtain ⟨skipped, blank⟩ := List.forall_mem_cons.mp blank
        exact ⟨Bool.eq_false_iff.mpr skipped, before, others, rfl, blank⟩
  · intro later
    obtain ⟨skipped, before, others, same, blank⟩ := later
    refine ⟨.content line :: before, others, congrArg _ same, ?_⟩
    exact List.forall_mem_cons.mpr ⟨Bool.eq_false_iff.mp skipped, blank⟩

theorem not_undecodableFirst_nil : ¬UndecodableFirst [] := by
  intro first
  obtain ⟨before, others, same, _⟩ := first
  cases before <;> cases same

end Text

namespace Lexer

variable {lexer after : Lexer} {outcome : Except LexError Token}

/-- Between lines, the next outcome is the error of an undecodable line exactly if there
is one with no line of content before it. -/
theorem Turn.isUnreadable_iff (turn : Turn lexer outcome after) (idle : lexer.reading = none) :
    isUnreadable outcome ↔ UndecodableFirst lexer.remaining := by
  induction turn with
  | skip skipped _ ih =>
      rw [ih rfl]
      exact ⟨fun first => undecodableFirst_cons.mpr ⟨skipped, first⟩,
        fun first => (undecodableFirst_cons.mp first).2⟩
  | enter content turn _ =>
      refine iff_of_false (turn.not_isUnreadable rfl) ?_
      intro first
      exact Bool.eq_false_iff.mp (undecodableFirst_cons.mp first).1 content
  | @undecodable _ _ remaining _ _ =>
      refine iff_of_true rfl ?_
      exact ⟨[], remaining, rfl, fun _ member => nomatch member⟩
  | close => exact iff_of_false Bool.false_ne_true not_undecodableFirst_nil
  | ended => exact iff_of_false Bool.false_ne_true not_undecodableFirst_nil
  | _ => cases idle

section Start

variable {layout : Layout} {lines : List Line} {first : Lexer}

theorem start_eq_ok_iff :
    start layout lines = .ok first ↔
      ∃ token, (ofLines layout lines).advance = (.ok token, first) := by
  rw [start]
  rcases (ofLines layout lines).advance with ⟨error | token, after⟩
  · constructor
    · intro started
      cases started
    · rintro ⟨_, advanced⟩
      cases advanced
  · constructor
    · intro started
      cases started
      exact ⟨token, rfl⟩
    · rintro ⟨_, advanced⟩
      cases advanced
      rfl

theorem settled_of_start (started : start layout lines = .ok first) : first.Settled := by
  obtain ⟨token, advanced⟩ := start_eq_ok_iff.mp started
  have settled := settled_advance (settled_ofLines layout lines)
  rw [advanced] at settled
  exact settled

theorem isUnreadable_iff : isUnreadable outcome ↔ outcome = .error .unreadableLine := by
  constructor
  · intro fails
    cases outcome with
    | ok token => cases fails
    | error error =>
        cases error with
        | unreadableLine => rfl
        | _ => cases fails
  · intro same
    rw [same]
    rfl

theorem start_eq_unreadable_iff :
    start layout lines = .error .unreadableLine ↔ UndecodableFirst lines := by
  have turn := turn_next (settled_ofLines layout lines)
  refine Iff.trans ?_ (isUnreadable_iff.symm.trans (turn.isUnreadable_iff rfl))
  rw [start]
  rcases produced : (ofLines layout lines).next with ⟨error | token, after⟩
  · rw [advance_of_error produced]
    exact ⟨fun same => congrArg _ (Except.error.inj same),
      fun same => congrArg _ (Except.error.inj same)⟩
  · rw [advance_of_next produced]
    apply iff_of_false
    · intro same
      cases same
    · intro same
      cases same

end Start

/-- A line that is not UTF-8 costs one error and nothing else. Construction fails on it
exactly if no line of content comes before. Otherwise the lexer of the same bytes without
such lines starts with the same token in the same line, and its outcomes and line numbers
are the others of the longer run; there has been one error for each such line passed, and
it leaves the current token. -/
theorem undecodable_line_costs_one_error (bytes : List UInt8) (width : Nat) :
    (start (.ofWidth width) (linesOfBytes bytes) = .error .unreadableLine ↔
      UndecodableFirst (linesOfBytes bytes)) ∧
    ∀ first, start (.ofWidth width) (linesOfBytes bytes) = .ok first →
      ∃ other, start (.ofWidth width) (linesOfBytes (withoutUndecodable bytes)) = .ok other ∧
        other.current = first.current ∧ other.lineNumber = first.lineNumber ∧
        (∀ count, readEntries (first.record count) =
          other.record (readEntries (first.record count)).length) ∧
        (∀ length, ∃ count, readEntries (first.record count) = other.record length) ∧
        ∀ count,
          (∃ passed, linesOfBytes bytes = passed ++ (first.afterCalls count).remaining ∧
            unreadableCount (first.record count) = passed.count .undecodable) ∧
          (isUnreadable (first.afterCalls count).advance.1 →
            (first.afterCalls count).advance.2.current = (first.afterCalls count).current) := by
  refine ⟨start_eq_unreadable_iff, ?_⟩
  intro first started
  obtain ⟨token, advanced⟩ := start_eq_ok_iff.mp started
  have fresh := settled_ofLines (.ofWidth width) (linesOfBytes bytes)
  have settled := settled_advance fresh
  have startsAlike := advance_readable fresh
  obtain ⟨before, sameBefore, countedBefore⟩ := exists_passed_advance fresh
  rw [advanced] at settled startsAlike sameBefore countedBefore
  refine ⟨first.readable, ?_, rfl, rfl, readEntries_record settled, ?_, ?_⟩
  · rw [linesOfBytes_withoutUndecodable]
    exact start_eq_ok_iff.mpr ⟨token, startsAlike Bool.false_ne_true⟩
  · intro length
    obtain ⟨count, found⟩ := exists_length_readEntries settled length
    exact ⟨count, found ▸ readEntries_record settled count⟩
  · intro count
    obtain ⟨passed, same, counted⟩ := exists_passed settled count
    have later := settled_afterCalls settled count
    refine ⟨⟨before ++ passed, ?_, ?_⟩, current_advance_of_isUnreadable later⟩
    · rw [List.append_assoc, ← same]
      exact sameBefore
    · rw [List.count_append, countedBefore, counted]
      exact (Nat.zero_add _).symm

/-- Between two lines of different depth the error comes before the layout, which is paid
all the same. -/
theorem undecodable_line_costs_one_error_of_indent :
    let bytes : List UInt8 := [0x61, 0x0A, 0xFF, 0x0A, 0x20, 0x62]
    let layout := Layout.ofWidth 1
    let first := (ofLines layout (linesOfBytes bytes)).advance.2
    start layout (linesOfBytes bytes) = .ok first ∧
      (first.record 4).map Prod.fst =
        [.ok .newline, .error .unreadableLine, .ok .indent, .ok (.id "b")] ∧
      ∃ other, start layout (linesOfBytes [0x61, 0x0A, 0x20, 0x62]) = .ok other ∧
        readEntries (first.record 4) = other.record 3 := by
  intro bytes layout first
  have started : start layout (linesOfBytes bytes) = .ok first := by decide +kernel
  have fewer : withoutUndecodable bytes = [0x61, 0x0A, 0x20, 0x62] := by decide +kernel
  obtain ⟨other, startedOther, _, _, same, _⟩ :=
    (undecodable_line_costs_one_error bytes 1).2 first started
  have shown : (readEntries (first.record 4)).length = 3 := by decide +kernel
  refine ⟨started, by decide +kernel, other, fewer ▸ startedOther, ?_⟩
  rw [← shown]
  exact same 4

end Lexer

end Offside
