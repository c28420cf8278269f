import Offside.Text.Utf8

/-!
# Physical lines

Source text is read one physical line at a time. A line ends at a line feed or at
the end of the input; a carriage return directly before the line feed belongs to
the terminator, and one anywhere else to the line. After a final line feed there
is no further line. Lines of bytes are decoded one by one, so that bytes that are
not UTF-8 spoil only the line they are in.
-/

namespace Offside.Text

/-- Cuts a list after every element that ends a line. Every piece keeps the
element that ended it; only the last piece may lack one. -/
def pieces {α : Type} (ends : α → Bool) : List α → List (List α)
  | [] => []
  | item :: rest =>
      if ends item then [item] :: pieces ends rest
      else match pieces ends rest with
        | [] => [[item]]
        | piece :: others => (item :: piece) :: others

/-- Cutting into lines loses nothing. -/
@[simp] theorem flatten_pieces {α : Type} (ends : α → Bool) (items : List α) :
    (pieces ends items).flatten = items := by
  induction items with
  | nil => rfl
  | cons item rest ih =>
      simp only [pieces]
      split
      · simp [ih]
      · split
        next none => simp_all
        next piece others some => simp_all

/-- What comes before the first element that ends a line is cut off with that element. -/
theorem pieces_append_cons {α : Type} {ends : α → Bool} {line : List α} {last : α}
    (within : ∀ item ∈ line, ¬ends item) (ended : ends last) (rest : List α) :
    pieces ends (line ++ last :: rest) = (line ++ [last]) :: pieces ends rest := by
  induction line with
  | nil =>
      rw [List.nil_append, List.nil_append, pieces, if_pos ended]
  | cons item line ih =>
      obtain ⟨notEnded, within⟩ := List.forall_mem_cons.mp within
      rw [List.cons_append, pieces, if_neg notEnded, ih within]
      rfl

theorem pieces_cons_of_ends {α : Type} {ends : α → Bool} {item : α} (ended : ends item)
    (rest : List α) : pieces ends (item :: rest) = [item] :: pieces ends rest :=
  if_pos ended

theorem pieces_cons_of_eq_cons {α : Type} {ends : α → Bool} {item : α} {rest piece : List α}
    {others : List (List α)} (notEnded : ¬ends item) (cut : pieces ends rest = piece :: others) :
    pieces ends (item :: rest) = (item :: piece) :: others := by
  rw [pieces, if_neg notEnded, cut]

theorem exists_pieces_cons {α : Type} (ends : α → Bool) (item : α) (rest : List α) :
    ∃ piece others, pieces ends (item :: rest) = piece :: others := by
  apply List.exists_cons_of_ne_nil
  intro none
  have lost := flatten_pieces ends (item :: rest)
  rw [none] at lost
  cases lost

theorem pieces_of_not_ended {α : Type} {ends : α → Bool} {line : List α} (nonempty : line ≠ [])
    (within : ∀ item ∈ line, ¬ends item) : pieces ends line = [line] := by
  induction line with
  | nil => exact absurd rfl nonempty
  | cons item line ih =>
      obtain ⟨notEnded, within⟩ := List.forall_mem_cons.mp within
      cases line with
      | nil => rw [pieces, if_neg notEnded, pieces]
      | cons other line => exact pieces_cons_of_eq_cons notEnded (ih (List.cons_ne_nil _ _) within)

/-- What ends no line goes with the piece that comes after it. -/
theorem pieces_append_of_eq_cons {α : Type} {ends : α → Bool} {front rest piece : List α}
    {others : List (List α)} (within : ∀ item ∈ front, ¬ends item)
    (cut : pieces ends rest = piece :: others) :
    pieces ends (front ++ rest) = (front ++ piece) :: others := by
  induction front with
  | nil => exact cut
  | cons item front ih =>
      obtain ⟨notEnded, within⟩ := List.forall_mem_cons.mp within
      exact pieces_cons_of_eq_cons notEnded (ih within)

/-- A list is closed if it has nothing after the last element that ends a line. -/
def Closed {α : Type} (ends : α → Bool) (items : List α) : Prop :=
  ∀ last ∈ items.getLast?, ends last

theorem Closed.of_cons {α : Type} {ends : α → Bool} {item : α} {items : List α}
    (closed : Closed ends (item :: items)) : Closed ends items := by
  cases items with
  | nil => exact fun last found => nomatch found
  | cons next items => exact fun last found => closed last (List.getLast?_cons_cons.trans found)

/-- What comes after a closed list is cut on its own. -/
theorem pieces_append {α : Type} {ends : α → Bool} {front : List α} (closed : Closed ends front)
    (rest : List α) : pieces ends (front ++ rest) = pieces ends front ++ pieces ends rest := by
  induction front with
  | nil => rfl
  | cons item front ih =>
      have later := ih closed.of_cons
      rw [List.cons_append]
      by_cases ended : ends item
      · rw [pieces_cons_of_ends ended, pieces_cons_of_ends ended, later, List.cons_append]
      · cases front with
        | nil => exact absurd (closed item rfl) ended
        | cons next front =>
            obtain ⟨piece, others, cut⟩ := exists_pieces_cons ends next front
            rw [cut] at later
            rw [pieces_cons_of_eq_cons ended later, pieces_cons_of_eq_cons ended cut]
            rfl

/-- A closed list is cut into as many pieces as it has elements that end one. -/
theorem length_pieces {α : Type} {ends : α → Bool} {items : List α} (closed : Closed ends items) :
    (pieces ends items).length = items.countP ends := by
  induction items with
  | nil => rfl
  | cons item items ih =>
      have later := ih closed.of_cons
      by_cases ended : ends item
      · rw [pieces_cons_of_ends ended, List.length_cons, List.countP_cons_of_pos ended, later]
      · cases items with
        | nil => exact absurd (closed item rfl) ended
        | cons next items =>
            obtain ⟨piece, others, cut⟩ := exists_pieces_cons ends next items
            rw [List.countP_cons_of_neg ended, ← later, pieces_cons_of_eq_cons ended cut, cut]
            rfl

/-- A piece without its terminator: a line feed, and one carriage return before it. -/
def withoutTerminator (piece : List Char) : List Char :=
  match piece.reverse with
  | '\n' :: '\r' :: rest => rest.reverse
  | '\n' :: rest => rest.reverse
  | _ => piece

/-- A line feed is all of the terminator unless a carriage return is directly before it. -/
theorem withoutTerminator_feed {line : List Char} (noReturn : line.getLast? ≠ some '\x0d') :
    withoutTerminator (line ++ ['\n']) = line := by
  rw [withoutTerminator, List.reverse_append, List.reverse_singleton, List.singleton_append]
  split
  next rest same =>
    rw [← List.head?_reverse, (List.cons.inj same).2] at noReturn
    exact (noReturn rfl).elim
  next rest _ same => rw [← (List.cons.inj same).2, List.reverse_reverse]
  next none => exact (none _ rfl).elim

/-- Of the carriage returns before a line feed one belongs to the terminator. -/
theorem withoutTerminator_return_feed (line : List Char) :
    withoutTerminator (line ++ ['\x0d', '\n']) = line := by
  rw [withoutTerminator, List.reverse_append]
  exact List.reverse_reverse line

/-- Only a carriage return at the very end of a line is taken with the line feed. -/
theorem withoutTerminator_append {line : List Char} (noReturn : '\x0d' ∉ line) :
    withoutTerminator (line ++ ['\n']) = line :=
  withoutTerminator_feed fun last => noReturn (List.mem_of_getLast? last)

theorem withoutTerminator_of_not_mem {piece : List Char} (noFeed : '\n' ∉ piece) :
    withoutTerminator piece = piece := by
  rw [← List.mem_reverse] at noFeed
  rw [withoutTerminator]
  split
  next same => exact absurd (same ▸ List.mem_cons_self) noFeed
  next same => exact absurd (same ▸ List.mem_cons_self) noFeed
  next => rfl

/-- A physical line of the source. -/
inductive Line where
  | content (chars : List Char)
  | undecodable
  deriving DecidableEq, Repr

/-- The physical lines of a text. -/
def linesOfText (text : String) : List Line :=
  (pieces (· == '\n') text.toList).map fun piece => .content (withoutTerminator piece)

/-- The line that a piece of bytes stands for: undecodable unless it is UTF-8. -/
def lineOfBytes (piece : List UInt8) : Line :=
  match String.fromUTF8? ⟨piece.toArray⟩ with
  | some text => .content (withoutTerminator text.toList)
  | none => .undecodable

/-- The physical lines of a sequence of bytes. -/
def linesOfBytes (bytes : List UInt8) : List Line :=
  (pieces (· == 0x0A) bytes).map lineOfBytes

/-- After a line feed the lines do not depend on what was before it. -/
theorem linesOfBytes_append {front : List UInt8} (ends : front.getLast? = some 0x0A)
    (back : List UInt8) :
    linesOfBytes (front ++ back) = linesOfBytes front ++ linesOfBytes back := by
  have closed : Closed (· == 0x0A) front := by
    intro last found
    rw [Option.mem_def, ends] at found
    cases found
    rfl
  rw [linesOfBytes, pieces_append closed, List.map_append]
  rfl

/-! ## The bytes of a text -/

theorem feed_eq_ofNat_iff {byte : Nat} (small : byte < 256) :
    (0x0A : UInt8) = UInt8.ofNat byte ↔ byte = 10 := by
  rw [← UInt8.toNat_inj, UInt8.toNat_ofNat_of_lt' small]
  exact eq_comm

/-- In UTF-8 the byte of a line feed stands for nothing else. -/
theorem feed_not_mem_utf8EncodeChar {char : Char} (other : char ≠ '\n') :
    0x0A ∉ String.utf8EncodeChar char := by
  intro member
  have point : char.val.toNat ≠ 10 := fun same => other (Char.ext (UInt32.toNat.inj same))
  simp only [String.utf8EncodeChar] at member
  -- It is a character of one byte, and the bytes of longer ones are larger.
  repeat' split at member
  all_goals
    simp (disch := omega) only [List.mem_cons, List.not_mem_nil, or_false,
      feed_eq_ofNat_iff] at member
    omega

/-- A text is cut into lines where its bytes are. -/
theorem pieces_flatMap_utf8EncodeChar (chars : List Char) :
    pieces (· == 0x0A) (chars.flatMap String.utf8EncodeChar) =
      (pieces (· == '\n') chars).map (·.flatMap String.utf8EncodeChar) := by
  induction chars with
  | nil => rfl
  | cons char chars ih =>
      by_cases feed : char = '\n'
      · subst feed
        have cut : pieces (· == 0x0A) (0x0A :: chars.flatMap String.utf8EncodeChar) =
            [0x0A] :: pieces (· == 0x0A) (chars.flatMap String.utf8EncodeChar) :=
          pieces_cons_of_ends rfl _
        have cut' : pieces (· == '\n') ('\n' :: chars) =
            ['\n'] :: pieces (· == '\n') chars :=
          pieces_cons_of_ends rfl _
        rw [cut', List.map_cons, ← ih]
        exact cut
      · have notEnded : ¬(char == '\n') := fun same => feed (eq_of_beq same)
        have within : ∀ byte ∈ String.utf8EncodeChar char, ¬(byte == 0x0A) :=
          fun byte member same => feed_not_mem_utf8EncodeChar feed (eq_of_beq same ▸ member)
        cases chars with
        | nil =>
            have alone : pieces (· == '\n') [char] = [[char]] :=
              pieces_of_not_ended (List.cons_ne_nil _ _) (List.forall_mem_singleton.mpr notEnded)
            rw [alone, List.map_singleton, List.flatMap_singleton]
            exact pieces_of_not_ended String.utf8EncodeChar_ne_nil within
        | cons next chars =>
            obtain ⟨piece, others, cut⟩ := exists_pieces_cons (· == '\n') next chars
            have joined : pieces (· == '\n') (char :: next :: chars) = (char :: piece) :: others :=
              pieces_cons_of_eq_cons notEnded cut
            rw [cut, List.map_cons] at ih
            rw [joined, List.map_cons, List.flatMap_cons, List.flatMap_cons]
            exact pieces_append_of_eq_cons within ih

theorem lineOfBytes_flatMap_utf8EncodeChar (piece : List Char) :
    lineOfBytes (piece.flatMap String.utf8EncodeChar) = .content (withoutTerminator piece) := by
  have encoded : (⟨(piece.flatMap String.utf8EncodeChar).toArray⟩ : ByteArray) =
      (String.ofList piece).toUTF8 := by
    have whole := bytes_eq_flatMap (String.ofList piece)
    rw [String.toList_ofList, bytes] at whole
    rw [← whole]
  rw [lineOfBytes, encoded, fromUTF8?_toUTF8]
  simp only [String.toList_ofList]

/-- The lines of a text are the lines of its bytes. -/
theorem linesOfBytes_bytes (text : String) : linesOfBytes (bytes text) = linesOfText text := by
  rw [linesOfBytes, bytes_eq_flatMap, pieces_flatMap_utf8EncodeChar, List.map_map, linesOfText]
  exact List.map_congr_left fun piece _ => lineOfBytes_flatMap_utf8EncodeChar piece

end Offside.Text
