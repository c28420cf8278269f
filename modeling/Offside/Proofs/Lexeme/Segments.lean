import Offside.Proofs.Lexeme.Classes
import Offside.Proofs.Lexeme.Trailing

/-!
# Lines cut into lexemes

A line is cut from left to right into runs of spaces, lexemes and what ends it, and nothing
of it is lost. A line that scans is cut so that each lexeme is as long as can be, and there is
no other such cut.
-/

namespace Offside.Lexeme

open Text

/-- A line cut from left to right: spaces and a lexeme with its token before what follows,
or spaces before what ends the line. -/
inductive Segments where
  | ended (spaces : Nat) (rest : List Char)
  | piece (spaces : Nat) (lexeme : List Char) (token : Token) (others : Segments)
  deriving DecidableEq, Repr

namespace Segments

/-- The line that was cut. -/
def text : Segments → List Char
  | .ended spaces rest => List.replicate spaces ' ' ++ rest
  | .piece spaces lexeme _ others => List.replicate spaces ' ' ++ (lexeme ++ others.text)

/-- The tokens of the lexemes. -/
def tokens : Segments → List Token
  | .ended _ _ => []
  | .piece _ _ token others => token :: others.tokens

/-- The number of bytes of so many lexemes, each with the spaces before it. -/
def bytes : Nat → Segments → Nat
  | count + 1, .piece spaces lexeme _ others => spaces + utf8Length lexeme + others.bytes count
  | _, _ => 0

/-- What is left of a cut line behind so many lexemes. -/
def drop : Nat → Segments → Segments
  | count + 1, .piece _ _ _ others => others.drop count
  | _, segments => segments

/-- A line cut with one more space in front. -/
def indent : Segments → Segments
  | .ended spaces rest => .ended (spaces + 1) rest
  | .piece spaces lexeme token others => .piece (spaces + 1) lexeme token others

/-- Every lexeme belongs to a class and goes as far as the class lets it, the spaces around it
are not part of it, and the line ends or goes on with a comment. -/
def IsMunch : Segments → Prop
  | .ended _ rest => ∀ first ∈ rest.head?, first = '#'
  | .piece _ lexeme token others =>
      IsLexeme lexeme token others.text ∧ lexeme.head? ≠ some ' ' ∧ lexeme.getLast? ≠ some ' ' ∧
        others.IsMunch

variable {segments segments' : Segments}

theorem text_indent (segments : Segments) : segments.indent.text = ' ' :: segments.text := by
  cases segments <;> rfl

theorem tokens_indent (segments : Segments) : segments.indent.tokens = segments.tokens := by
  cases segments <;> rfl

theorem IsMunch.indent (munch : segments.IsMunch) : segments.indent.IsMunch := by
  cases segments <;> exact munch

end Segments

/-- What scanning passes up to the end of a line is cut into lexemes. -/
theorem Passes.exists_segments {passed rest : List Char} {tokens : List Token}
    (passes : Passes passed tokens rest) (ended : Ended rest) :
    ∃ segments : Segments, segments.IsMunch ∧ segments.text = passed ++ rest ∧
      segments.tokens = tokens := by
  induction passes with
  | done rest => exact ⟨.ended 0 rest, ended, rfl, rfl⟩
  | space _ ih =>
      obtain ⟨segments, munch, text, tokens⟩ := ih ended
      refine ⟨segments.indent, munch.indent, ?_, segments.tokens_indent.trans tokens⟩
      rw [segments.text_indent, text]
      rfl
  | @lexeme lexeme passed rest token _ lexes _ ih =>
      obtain ⟨segments, munch, text, tokens⟩ := ih ended
      obtain ⟨noSpace, noSpaceLast⟩ := lexes.space_not_at_end
      rw [← text] at lexes
      refine ⟨.piece 0 lexeme token segments, ⟨lexes.isLexeme, noSpace, noSpaceLast, munch⟩, ?_,
        congrArg _ tokens⟩
      rw [List.append_assoc, ← text]
      rfl

namespace Segments

variable {segments segments' : Segments}

/-- A line that is cut scans, and gives the tokens of the lexemes. -/
theorem IsMunch.scans (munch : segments.IsMunch) : Scans segments.text segments.tokens := by
  induction segments with
  | ended spaces rest => exact (scans_of_ended munch).spaces spaces
  | piece spaces lexeme token others ih =>
      obtain ⟨isLexeme, _, _, munchOthers⟩ := munch
      exact (Scans.cons isLexeme.lexes (ih munchOthers)).spaces spaces

/-- The lines that scan are those that can be cut. -/
theorem scans_iff_exists_isMunch {line : List Char} {tokens : List Token} :
    Scans line tokens ↔
      ∃ segments : Segments,
        segments.IsMunch ∧ segments.text = line ∧ segments.tokens = tokens := by
  constructor
  · rintro ⟨passed, rest, rfl, passes, ended⟩
    exact passes.exists_segments ended
  · rintro ⟨segments, munch, rfl, rfl⟩
    exact munch.scans

/-- Spaces in front of something else are cut off in one way. -/
theorem spaces_append_inj {count count' : Nat} {rest rest' : List Char}
    (stops : ∀ next ∈ rest.head?, next ≠ ' ') (stops' : ∀ next ∈ rest'.head?, next ≠ ' ')
    (same : List.replicate count ' ' ++ rest = List.replicate count' ' ' ++ rest') :
    count = count' ∧ rest = rest' := by
  have spaces (count : Nat) : ∀ char ∈ List.replicate count ' ', char == ' ' := by
    intro char member
    exact beq_iff_eq.mpr (List.eq_of_mem_replicate member)
  have stops : ∀ next ∈ rest.head?, ¬(next == ' ') := by simpa using stops
  have stops' : ∀ next ∈ rest'.head?, ¬(next == ' ') := by simpa using stops'
  have sameRun := congrArg (List.takeWhile (· == ' ')) same
  rw [takeWhile_append_of_run (spaces count) stops, takeWhile_append_of_run (spaces count') stops']
    at sameRun
  obtain rfl : count = count' := by simpa using congrArg List.length sameRun
  exact ⟨rfl, List.append_cancel_left same⟩

theorem ne_space_of_isLexeme {lexeme after : List Char} {token : Token}
    (isLexeme : IsLexeme lexeme token after) : ∀ next ∈ (lexeme ++ after).head?, next ≠ ' ' := by
  obtain ⟨first, more, rfl, noSpace, _⟩ := isLexeme.lexes.scan_append
  rintro next ⟨⟩
  exact noSpace

theorem ne_space_of_ended {rest : List Char} (ended : Ended rest) :
    ∀ next ∈ rest.head?, next ≠ ' ' := by
  intro next follows
  rw [ended next follows]
  decide

/-- A line is cut in one way at most. -/
theorem IsMunch.unique (munch : segments.IsMunch) (munch' : segments'.IsMunch)
    (same : segments.text = segments'.text) : segments = segments' := by
  induction segments generalizing segments' with
  | ended spaces rest =>
      cases segments' with
      | ended spaces' rest' =>
          obtain ⟨rfl, rfl⟩ := spaces_append_inj (ne_space_of_ended munch)
            (ne_space_of_ended munch') same
          rfl
      | piece spaces' lexeme' token' others' =>
          -- Where one line ends, the other would have a lexeme.
          obtain ⟨_, rfl⟩ := spaces_append_inj (ne_space_of_ended munch)
            (ne_space_of_isLexeme munch'.1) same
          exact (Stopped.not_lexes (.inl munch) munch'.1.lexes).elim
  | piece spaces lexeme token others ih =>
      obtain ⟨isLexeme, _, _, munchOthers⟩ := munch
      cases segments' with
      | ended spaces' rest' =>
          obtain ⟨_, rfl⟩ := spaces_append_inj (ne_space_of_isLexeme isLexeme)
            (ne_space_of_ended munch') same
          exact (Stopped.not_lexes (.inl munch') isLexeme.lexes).elim
      | piece spaces' lexeme' token' others' =>
          obtain ⟨isLexeme', _, _, munchOthers'⟩ := munch'
          obtain ⟨rfl, sameLater⟩ := spaces_append_inj (ne_space_of_isLexeme isLexeme)
            (ne_space_of_isLexeme isLexeme') same
          obtain ⟨rfl, rfl, sameOthers⟩ := isLexeme.lexes.unique isLexeme'.lexes sameLater
          rw [ih munchOthers munchOthers' sameOthers]

/-- The lexemes that are passed and what is left make up the line. -/
theorem utf8Length_text (segments : Segments) (count : Nat) :
    utf8Length segments.text = segments.bytes count + utf8Length (segments.drop count).text := by
  induction segments generalizing count with
  | ended spaces rest =>
      cases count with
      | zero => exact (Nat.zero_add _).symm
      | succ count => exact (Nat.zero_add _).symm
  | piece spaces lexeme token others ih =>
      cases count with
      | zero => exact (Nat.zero_add _).symm
      | succ count =>
          rw [text, utf8Length_append, utf8Length_append, utf8Length_spaces, ih count, bytes, drop,
            Nat.add_assoc, Nat.add_assoc]

end Segments

end Offside.Lexeme
