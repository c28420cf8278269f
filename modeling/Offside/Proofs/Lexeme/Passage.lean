import Offside.Proofs.Lexeme.Grammar

/-!
# Passing a line from left to right

Scanning passes spaces and lexemes one after another, and stops at the end of the
line, at a comment or at a fault. How far it comes and with which tokens follows
from the text alone: there is always a place to stop, and only one.
-/

namespace Offside.Lexeme

/-- Scanning passes a text, giving tokens, and has come to the text that is left. -/
inductive Passes : List Char → List Token → List Char → Prop where
  | done (rest : List Char) : Passes [] [] rest
  | space {passed rest : List Char} {tokens : List Token} :
      Passes passed tokens rest → Passes (' ' :: passed) tokens rest
  | lexeme {lexeme passed rest : List Char} {token : Token} {tokens : List Token} :
      Lexes lexeme token (passed ++ rest) → Passes passed tokens rest →
      Passes (lexeme ++ passed) (token :: tokens) rest

/-- There is nothing left but a comment. -/
def Ended (rest : List Char) : Prop :=
  ∀ first ∈ rest.head?, first = '#'

/-- Scanning cannot go on: the line has ended or there is a fault. -/
def Stopped (rest : List Char) : Prop :=
  Ended rest ∨ ∃ fault, Faulty rest fault

/-- A line gives these tokens and no fault. -/
def Scans (line : List Char) (tokens : List Token) : Prop :=
  ∃ passed rest, line = passed ++ rest ∧ Passes passed tokens rest ∧ Ended rest

variable {lexeme passed rest : List Char} {token : Token} {tokens : List Token} {fault : Fault}

/-- Spaces are passed without a token. -/
theorem Passes.spaces (passes : Passes passed tokens rest) (count : Nat) :
    Passes (List.replicate count ' ' ++ passed) tokens rest := by
  induction count with
  | zero => exact passes
  | succ count ih =>
      rw [List.replicate_succ, List.cons_append]
      exact ih.space

theorem Scans.spaces {line : List Char} (scans : Scans line tokens) (count : Nat) :
    Scans (List.replicate count ' ' ++ line) tokens := by
  obtain ⟨passed, rest, rfl, passes, ended⟩ := scans
  exact ⟨List.replicate count ' ' ++ passed, rest, (List.append_assoc _ _ _).symm,
    passes.spaces count, ended⟩

/-- A lexeme in front of a line gives its token first. -/
theorem Scans.cons {line : List Char} (lexes : Lexes lexeme token line)
    (scans : Scans line tokens) : Scans (lexeme ++ line) (token :: tokens) := by
  obtain ⟨passed, rest, rfl, passes, ended⟩ := scans
  exact ⟨lexeme ++ passed, rest, (List.append_assoc _ _ _).symm, passes.lexeme lexes, ended⟩

/-! ## One place to stop -/

theorem Stopped.ne_space (stopped : Stopped (' ' :: rest)) : False := by
  rcases stopped with ended | ⟨fault, faulty⟩
  · exact absurd (ended ' ' rfl) (by decide)
  · obtain ⟨first, others, same, noSpace, _⟩ := faulty.scan_eq
    exact noSpace (List.cons.inj same).1.symm

theorem Stopped.not_lexes (stopped : Stopped (lexeme ++ rest)) :
    ¬Lexes lexeme token rest := by
  intro lexes
  obtain ⟨first, more, rfl, _, noComment, scanned⟩ := lexes.scan_append
  rcases stopped with ended | ⟨fault, faulty⟩
  · exact noComment (ended first rfl)
  · obtain ⟨other, others, same, _, failed⟩ := faulty.scan_eq
    rw [List.cons_append, List.cons.injEq] at same
    obtain ⟨rfl, rfl⟩ := same
    rw [scanned] at failed
    cases failed

/-- The lexeme that a text starts with, and its token, follow from the text. -/
theorem Lexes.unique {lexeme' after after' : List Char} {token' : Token}
    (lexes : Lexes lexeme token after) (lexes' : Lexes lexeme' token' after')
    (same : lexeme ++ after = lexeme' ++ after') :
    lexeme = lexeme' ∧ token = token' ∧ after = after' := by
  obtain ⟨first, more, rfl, _, _, scanned⟩ := lexes.scan_append
  obtain ⟨first', more', rfl, _, _, scanned'⟩ := lexes'.scan_append
  have sameParts := same
  rw [List.cons_append, List.cons_append, List.cons.injEq] at sameParts
  obtain ⟨rfl, sameRest⟩ := sameParts
  rw [sameRest, scanned'] at scanned
  obtain ⟨rfl, rfl⟩ := Scan.token.inj scanned
  exact ⟨List.append_cancel_right same, rfl, rfl⟩

theorem Faulty.unique {fault' : Fault} (faulty : Faulty rest fault) (faulty' : Faulty rest fault') :
    fault = fault' := by
  obtain ⟨first, more, rfl, _, failed⟩ := faulty.scan_eq
  obtain ⟨first', more', same, _, failed'⟩ := faulty'.scan_eq
  obtain ⟨rfl, rfl⟩ := List.cons.inj same
  rw [failed] at failed'
  exact Scan.fault.inj failed'

theorem Faulty.not_ended (faulty : Faulty rest fault) : ¬Ended rest := by
  intro ended
  obtain ⟨first, more, rfl, _, failed⟩ := faulty.scan_eq
  rw [ended first rfl, scan_hash] at failed
  cases failed

theorem Lexes.ne_space_cons (lexes : Lexes lexeme token rest) {line : List Char} :
    lexeme ++ rest ≠ ' ' :: line := by
  intro same
  obtain ⟨first, more, rfl, noSpace, _⟩ := lexes.scan_append
  exact noSpace (List.cons.inj same).1

/-- Two ways to pass the same line stop at the same place. -/
theorem Passes.unique {passed' rest' : List Char} {tokens' : List Token}
    (passes : Passes passed tokens rest) (passes' : Passes passed' tokens' rest')
    (stopped : Stopped rest) (stopped' : Stopped rest')
    (same : passed ++ rest = passed' ++ rest') :
    passed = passed' ∧ tokens = tokens' ∧ rest = rest' := by
  induction passes generalizing passed' tokens' with
  | done rest =>
      rw [List.nil_append] at same
      cases passes' with
      | done => exact ⟨rfl, rfl, same⟩
      | space => exact (Stopped.ne_space (same ▸ stopped)).elim
      | lexeme lexes' =>
          rw [List.append_assoc] at same
          exact (Stopped.not_lexes (same ▸ stopped) lexes').elim
  | space _ ih =>
      rw [List.cons_append] at same
      cases passes' with
      | done =>
          rw [List.nil_append] at same
          exact (Stopped.ne_space (same ▸ stopped')).elim
      | space passes' =>
          obtain ⟨rfl, rfl, rfl⟩ := ih passes' stopped (List.cons.inj same).2
          exact ⟨rfl, rfl, rfl⟩
      | lexeme lexes' =>
          rw [List.append_assoc] at same
          exact (lexes'.ne_space_cons same.symm).elim
  | lexeme lexes _ ih =>
      rw [List.append_assoc] at same
      cases passes' with
      | done =>
          rw [List.nil_append] at same
          exact (Stopped.not_lexes (same ▸ stopped') lexes).elim
      | space => exact (lexes.ne_space_cons same).elim
      | lexeme lexes' passes' =>
          rw [List.append_assoc] at same
          obtain ⟨rfl, rfl, sameAfter⟩ := lexes.unique lexes' same
          obtain ⟨rfl, rfl, rfl⟩ := ih passes' stopped sameAfter
          exact ⟨rfl, rfl, rfl⟩

/-- Every line is passed up to a place to stop. -/
theorem exists_passes (line : List Char) :
    ∃ passed tokens rest, line = passed ++ rest ∧ Passes passed tokens rest ∧ Stopped rest := by
  -- A lexeme is not empty, so what comes after it is shorter.
  induction size : line.length using Nat.strongRecOn generalizing line with
  | ind size ih =>
    subst size
    cases line with
    | nil => exact ⟨[], [], [], rfl, .done [], .inl (fun first found => by cases found)⟩
    | cons first line =>
        by_cases space : first = ' '
        · subst space
          obtain ⟨passed, tokens, rest, rfl, passes, stopped⟩ :=
            ih line.length (Nat.lt_succ_self _) line rfl
          exact ⟨' ' :: passed, tokens, rest, rfl, passes.space, stopped⟩
        rcases scan_cases line space with ⟨comment, _⟩ | token | ⟨fault, _, faulty⟩
        · exact ⟨[], [], first :: line, rfl, .done _, .inl (fun other found => by
            rw [← Option.some.inj found]
            exact comment)⟩
        · obtain ⟨lexeme, token, after, scanned, same, lexes⟩ := token
          have shorter : after.length < (first :: line).length :=
            Nat.lt_succ_of_le (scan_suffix scanned).length_le
          obtain ⟨passed, tokens, rest, rfl, passes, stopped⟩ := ih _ shorter after rfl
          exact ⟨lexeme ++ passed, token :: tokens, rest, by rw [same, List.append_assoc],
            passes.lexeme lexes, stopped⟩
        · exact ⟨[], [], first :: line, rfl, .done _, .inr ⟨fault, faulty⟩⟩

/-- A line scans, or there is a fault where a lexeme should start. -/
theorem scans_or_faulty (line : List Char) :
    (∃ tokens, Scans line tokens) ∨
      ∃ passed tokens rest fault,
        line = passed ++ rest ∧ Passes passed tokens rest ∧ Faulty rest fault := by
  obtain ⟨passed, tokens, rest, same, passes, ended | ⟨fault, faulty⟩⟩ := exists_passes line
  · exact .inl ⟨tokens, passed, rest, same, passes, ended⟩
  · exact .inr ⟨passed, tokens, rest, fault, same, passes, faulty⟩

/-- A line that scans has no fault. -/
theorem Scans.not_faulty {line : List Char} {tokens' : List Token} (scans : Scans line tokens)
    (same : line = passed ++ rest) (passes : Passes passed tokens' rest) : ¬Faulty rest fault := by
  rintro faulty
  obtain ⟨passed', rest', rfl, passes', ended⟩ := scans
  obtain ⟨_, _, rfl⟩ := passes'.unique passes (.inl ended) (.inr ⟨fault, faulty⟩) same
  exact faulty.not_ended ended

/-! ## Computing the tokens of a line -/

/-- The tokens of a line, unless there is a fault on it. Every lexeme and every
space takes one from the count. -/
def lineTokens? : Nat → List Char → Option (List Token)
  | 0, _ => none
  | _ + 1, [] => some []
  | count + 1, first :: rest =>
      if first = ' ' then lineTokens? count rest
      else match scan first rest with
        | .token token after => (lineTokens? count after).map (token :: ·)
        | .comment => some []
        | .fault _ => none

theorem scans_of_lineTokens? {count : Nat} {line : List Char}
    (found : lineTokens? count line = some tokens) : Scans line tokens := by
  fun_induction lineTokens? count line generalizing tokens with
  | case1 => cases found
  | case2 =>
      cases found
      exact ⟨[], [], rfl, .done [], fun first follows => by cases follows⟩
  | case3 count rest ih => exact (ih found).spaces 1
  | case4 count first rest noSpace token after scanned ih =>
      obtain ⟨others, later, rfl⟩ := Option.map_eq_some_iff.mp found
      obtain ⟨lexeme, same, lexes⟩ := exists_lexes_of_scan noSpace scanned
      rw [same]
      exact (ih later).cons lexes
  | case5 count first rest noSpace comment =>
      cases found
      refine ⟨[], first :: rest, rfl, .done _, fun next follows => ?_⟩
      rw [← Option.some.inj follows]
      exact eq_hash_of_scan noSpace comment
  | case6 => cases found

theorem lineTokens?_of_passes (passes : Passes passed tokens rest) (ended : Ended rest)
    {count : Nat} (enough : (passed ++ rest).length < count) :
    lineTokens? count (passed ++ rest) = some tokens := by
  induction passes generalizing count with
  | done rest =>
      obtain ⟨count, rfl⟩ := Nat.exists_eq_add_one_of_ne_zero (Nat.ne_zero_of_lt enough)
      cases rest with
      | nil => rfl
      | cons first rest =>
          cases ended first rfl
          rfl
  | space _ ih =>
      obtain ⟨count, rfl⟩ := Nat.exists_eq_add_one_of_ne_zero (Nat.ne_zero_of_lt enough)
      rw [List.cons_append, List.length_cons] at enough
      rw [List.cons_append, lineTokens?, if_pos rfl]
      exact ih ended (Nat.lt_of_succ_lt_succ enough)
  | @lexeme lexeme passed rest token tokens lexes _ ih =>
      obtain ⟨count, rfl⟩ := Nat.exists_eq_add_one_of_ne_zero (Nat.ne_zero_of_lt enough)
      obtain ⟨first, more, rfl, noSpace, _, scanned⟩ := lexes.scan_append
      have shorter : (passed ++ rest).length < count := by
        simp only [List.cons_append, List.append_assoc, List.length_cons,
          List.length_append] at enough ⊢
        omega
      rw [List.append_assoc, List.cons_append, lineTokens?, if_neg noSpace, scanned]
      simp only [ih ended shorter, Option.map_some]

/-- Whether a line gives the tokens can be computed. -/
theorem lineTokens?_eq_some_iff {line : List Char} :
    lineTokens? (line.length + 1) line = some tokens ↔ Scans line tokens := by
  constructor
  · exact scans_of_lineTokens?
  · rintro ⟨passed, rest, rfl, passes, ended⟩
    exact lineTokens?_of_passes passes ended (Nat.lt_succ_self _)

instance (line : List Char) (tokens : List Token) : Decidable (Scans line tokens) :=
  decidable_of_iff _ lineTokens?_eq_some_iff

/-! ## Tokens of lexemes -/

theorem Lexes.not_isStructural (lexes : Lexes lexeme token rest) : ¬token.tag.isStructural := by
  cases lexes with
  | word =>
      unfold wordToken
      split <;> simp [Token.tag, Tag.isStructural]
  | _ => simp [Token.tag, Tag.isStructural]

theorem Passes.not_isStructural (passes : Passes passed tokens rest) :
    ∀ token ∈ tokens, ¬token.tag.isStructural := by
  induction passes with
  | done => exact fun token member => (List.not_mem_nil member).elim
  | space _ ih => exact ih
  | lexeme lexes _ ih => exact List.forall_mem_cons.mpr ⟨lexes.not_isStructural, ih⟩

theorem Passes.eof_not_mem (passes : Passes passed tokens rest) : .eof ∉ tokens :=
  fun member => passes.not_isStructural .eof member rfl

theorem Scans.eof_not_mem {line : List Char} (scans : Scans line tokens) : .eof ∉ tokens := by
  obtain ⟨passed, rest, _, passes, _⟩ := scans
  exact passes.eof_not_mem

end Offside.Lexeme
