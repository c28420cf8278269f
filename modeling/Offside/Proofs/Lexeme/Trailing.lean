import Offside.Proofs.Lexeme.Passage

/-!
# Spaces and comments at the end of a line

A lexeme ends where it does because of the character after it, and a space or the mark of
a comment ends every lexeme. So spaces and a comment can be put behind a line that scans,
and the line still gives the same tokens.
-/

namespace Offside.Lexeme

/-- Any number of spaces, and a comment or nothing after them. -/
def IsTrailer (trailer : List Char) : Prop :=
  ∃ count comment, trailer = List.replicate count ' ' ++ comment ∧ Ended comment

/-- What stands after a lexeme may be replaced: the replacement starts with the same
character, with a space or with a comment, or is empty. -/
def Replaces (after' after : List Char) : Prop :=
  ∀ next ∈ after'.head?, next ∈ after.head? ∨ next = ' ' ∨ next = '#'

variable {lexeme passed rest after after' trailer : List Char} {token : Token}
  {tokens : List Token}

theorem Replaces.append (replaces : Replaces after' after) (passed : List Char) :
    Replaces (passed ++ after') (passed ++ after) := by
  cases passed with
  | nil => exact replaces
  | cons first passed => exact fun next follows => .inl follows

theorem Replaces.forall_head? {accepted : Char → Prop} (replaces : Replaces after' after)
    (space : accepted ' ') (hash : accepted '#') (before : ∀ next ∈ after.head?, accepted next) :
    ∀ next ∈ after'.head?, accepted next := by
  intro next follows
  rcases replaces next follows with same | rfl | rfl
  · exact before next same
  · exact space
  · exact hash

/-- A lexeme is not affected by a replacement of what stands after it. -/
theorem Lexes.replace (lexes : Lexes lexeme token after) (replaces : Replaces after' after) :
    Lexes lexeme token after' := by
  cases lexes with
  | number nonempty run ends bounded =>
      exact .number nonempty run (replaces.forall_head? (by decide) (by decide) ends) bounded
  | text opens items => exact .text opens items
  | word noQuote noDigit wordChars ends =>
      exact .word noQuote noDigit wordChars
        (replaces.forall_head? isReserved_space isReserved_hash ends)
  | comparator sign written => exact .comparator sign written
  | @symbol char _ ends noSpace noComment alone =>
      refine .symbol ends noSpace noComment (replaces.forall_head? ?_ ?_ alone)
      · intro sign written
        cases sign <;> cases written
      · intro sign written
        cases sign <;> cases written

theorem scans_of_ended (ended : Ended rest) : Scans rest [] :=
  ⟨[], rest, rfl, .done rest, ended⟩

/-- What scanning passes gives the same tokens in front of anything that gives none. -/
theorem Passes.scans_append (passes : Passes passed tokens rest) (replaces : Replaces after rest)
    (nothing : Scans after []) : Scans (passed ++ after) tokens := by
  induction passes with
  | done => exact nothing
  | space _ ih => exact (ih replaces).spaces 1
  | lexeme lexes _ ih =>
      rw [List.append_assoc]
      exact .cons (lexes.replace (replaces.append _)) (ih replaces)

/-- A line that scans gives the same tokens with a trailer behind it. -/
theorem Scans.append_trailer {line : List Char} (scans : Scans line tokens)
    (isTrailer : IsTrailer trailer) : Scans (line ++ trailer) tokens := by
  obtain ⟨passed, rest, rfl, passes, ended⟩ := scans
  obtain ⟨count, comment, rfl, ended'⟩ := isTrailer
  rw [List.append_assoc]
  cases rest with
  | nil =>
      refine passes.scans_append ?_ ((scans_of_ended ended').spaces count)
      intro next follows
      cases count with
      | zero => exact .inr (.inr (ended' next follows))
      | succ count => exact .inr (.inl (Option.some.inj follows).symm)
  | cons first rest =>
      -- The line ends in a comment already, and the trailer becomes part of it.
      refine passes.scans_append (fun next follows => .inl follows) (scans_of_ended ?_)
      exact fun next follows => ended next follows

end Offside.Lexeme
