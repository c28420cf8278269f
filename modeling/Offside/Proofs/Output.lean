import Offside.Output

/-!
# Writes one after another

Two writes keep what one write of both keeps, and nothing is kept after a write that did
not fit. So an output that has taken everything so far is known by the text as a whole.
-/

namespace Offside.Output

variable (output : Output) {first : ByteArray}

theorem extract_min_size (bytes : ByteArray) (count : Nat) :
    bytes.extract 0 (min count bytes.size) = bytes.extract 0 count := by
  have whole : bytes.extract 0 bytes.size = bytes := ByteArray.extract_zero_size
  calc bytes.extract 0 (min count bytes.size)
      = (bytes.extract 0 bytes.size).extract 0 count := by
        rw [ByteArray.extract_extract, Nat.zero_add, Nat.zero_add]
    _ = bytes.extract 0 count := by rw [whole]

theorem extract_of_size_le {bytes : ByteArray} {count : Nat} (within : bytes.size ≤ count) :
    bytes.extract 0 count = bytes := by
  rw [← extract_min_size, Nat.min_eq_right within, ByteArray.extract_zero_size]

theorem write_buffer (stored bytes : ByteArray) :
    (buffer stored).write bytes = .buffer (stored ++ bytes) := by
  simp only [write, acceptable, room?, ByteArray.extract_zero_size]

theorem write_limited (capacity : Nat) (stored bytes : ByteArray) :
    (limited capacity stored).write bytes =
      .limited capacity (stored ++ bytes.extract 0 (capacity - stored.size)) := by
  simp only [write, acceptable, room?, extract_min_size]

/-- A write fits unless there is a limit and it leaves no room for all of it. -/
theorem fits_iff (size : Nat) : output.fits size ↔ ∀ room ∈ output.room?, size ≤ room := by
  cases output with
  | limited capacity stored =>
      simp only [fits, acceptable, room?, beq_iff_eq, Option.mem_def, Option.some.injEq,
        forall_eq']
      omega
  | buffer | silent | console => simp [fits, acceptable, room?]

theorem fits_of_unlimited (unlimited : output.room? = none) (size : Nat) : output.fits size := by
  rw [fits_iff, unlimited]
  exact fun room found => nomatch found

theorem room?_write (bytes : ByteArray) :
    (output.write bytes).room? = output.room?.map (· - bytes.size) := by
  cases output with
  | limited capacity stored =>
      rw [write_limited]
      simp only [room?, Option.map_some, ByteArray.size_append, ByteArray.size_extract]
      congr 1
      omega
  | buffer | silent | console => rfl

theorem toUTF8_append (first rest : String) :
    (first ++ rest).toUTF8 = first.toUTF8 ++ rest.toUTF8 :=
  String.toByteArray_append

theorem join_singleton (text : String) : String.join [text] = text := by
  rw [String.join_cons, String.join_nil, String.append_empty]

/-- Nothing is written by writing nothing, and for that there is always room. -/
theorem write_empty : output.write "".toUTF8 = output ∧ output.fits "".toUTF8.size := by
  have nothing : "".toUTF8 = .empty := rfl
  rw [nothing]
  constructor
  · cases output with
    | buffer stored => rw [write_buffer, ByteArray.append_empty]
    | limited capacity stored =>
        have none : ByteArray.empty.extract 0 (capacity - stored.size) = .empty := by
          rw [ByteArray.extract_eq_empty_iff]
          exact Nat.min_le_right _ _
        rw [write_limited, none, ByteArray.append_empty]
    | silent | console => rfl
  · rw [fits_iff]
    exact fun room _ => Nat.zero_le room

/-- Writing in two goes is writing all at once. -/
theorem write_append (first rest : ByteArray) :
    (output.write first).write rest = output.write (first ++ rest) := by
  cases output with
  | buffer stored => simp only [write_buffer, ByteArray.append_assoc]
  | limited capacity stored =>
      have room : capacity - (stored.size + (min (capacity - stored.size) first.size - 0)) =
          capacity - stored.size - first.size := by omega
      simp only [write_limited, ByteArray.extract_append, ByteArray.append_assoc,
        ByteArray.size_append, ByteArray.size_extract, room, Nat.zero_sub]
  | silent | console => rfl

theorem fits_append (size : Nat) :
    output.fits (first.size + size) ↔
      output.fits first.size ∧ (output.write first).fits size := by
  simp only [fits_iff, room?_write]
  cases output.room? with
  | none => simp
  | some room =>
      simp only [Option.mem_def, Option.map_some, Option.some.injEq, forall_eq']
      omega

/-- Nothing is kept after a write that did not fit. -/
theorem write_append_of_not_fits (rest : ByteArray) (crossed : ¬output.fits first.size) :
    output.write (first ++ rest) = output.write first := by
  rw [fits_iff] at crossed
  cases output with
  | buffer | silent | console => exact (crossed fun room found => nomatch found).elim
  | limited capacity stored =>
      have full : capacity - stored.size < first.size := by
        simpa [room?] using crossed
      have none : rest.extract 0 (capacity - stored.size - first.size) = .empty := by
        rw [Nat.sub_eq_zero_of_le (Nat.le_of_lt full), ByteArray.extract_same]
      rw [write_limited, write_limited, ByteArray.extract_append, Nat.zero_sub, none,
        ByteArray.append_empty]

/-- It makes no difference into which pieces a text is cut. -/
theorem writePieces_eq (pieces : List String) :
    output.writePieces pieces =
      (output.write (String.join pieces).toUTF8, output.fits (String.join pieces).toUTF8.size) := by
  induction pieces generalizing output with
  | nil =>
      obtain ⟨nothing, room⟩ := output.write_empty
      rw [writePieces, String.join_nil, nothing, room]
  | cons piece pieces ih =>
      rw [writePieces, String.join_cons, toUTF8_append, ByteArray.size_append]
      have both : output.fits (piece.toUTF8.size + (String.join pieces).toUTF8.size) ↔
          output.fits piece.toUTF8.size ∧
            (output.write piece.toUTF8).fits (String.join pieces).toUTF8.size :=
        output.fits_append _
      by_cases fits : output.fits piece.toUTF8.size
      · rw [if_pos fits, ih, write_append]
        simp only [fits, true_and] at both
        rw [Bool.eq_iff_iff.mpr both]
      · have crossed := mt both.mp fun ⟨first, _⟩ => fits first
        rw [if_neg fits, write_append_of_not_fits output _ fits, Bool.eq_false_iff.mpr crossed]

/-- A limited output that has taken everything so far keeps the beginning of it all. -/
theorem write_limited_of_size_le {capacity : Nat} {stored : ByteArray}
    (within : stored.size ≤ capacity) (bytes : ByteArray) :
    (limited capacity stored).write bytes =
      .limited capacity ((stored ++ bytes).extract 0 capacity) := by
  rw [write_limited, ByteArray.extract_append, extract_of_size_le within, Nat.zero_sub]

/-- What is stored grows by as much of a text as there is room for. -/
theorem stored_write_of_room? {room : Nat} (limited : output.room? = some room)
    (bytes : ByteArray) : (output.write bytes).stored = output.stored ++ bytes.extract 0 room := by
  cases output with
  | limited capacity stored =>
      obtain rfl := Option.some.inj limited
      rw [write_limited]
      rfl
  | buffer | silent | console => cases limited

/-- An output for a limited number of bytes keeps the beginning of a text. -/
theorem stored_write_ofCapacity (capacity : Nat) (bytes : ByteArray) :
    ((ofCapacity capacity).write bytes).stored = bytes.extract 0 (min capacity bytes.size) := by
  rw [ofCapacity, write_limited, extract_min_size]
  exact ByteArray.empty_append

theorem fits_ofCapacity (capacity size : Nat) :
    (ofCapacity capacity).fits size = decide (size ≤ capacity) := by
  rw [Bool.eq_iff_iff, fits_iff, decide_eq_true_iff]
  simp [ofCapacity, room?]

theorem room?_write_of_unlimited (unlimited : output.room? = none) (bytes : ByteArray) :
    (output.write bytes).room? = none := by
  rw [room?_write, unlimited]
  rfl

theorem room?_clear (output : Output) : output.clear.room? = output.room? := by
  cases output <;> rfl

theorem clear_write (unlimited : output.room? = none) (bytes : ByteArray) :
    (output.write bytes).clear = output.clear := by
  cases output with
  | limited => cases unlimited
  | buffer | silent | console => rfl

theorem clear_clear (output : Output) : output.clear.clear = output.clear := by
  cases output <;> rfl

theorem write_ofText (stored text : String) :
    (ofText stored).write text.toUTF8 = .ofText (stored ++ text) := by
  rw [ofText, ofText, write_buffer, toUTF8_append]

theorem write_empty_eq (text : String) : empty.write text.toUTF8 = .ofText text :=
  (write_buffer _ _).trans (congrArg buffer ByteArray.empty_append)

/-- A limited output that has room for a text keeps all of it. -/
theorem write_limited_of_fits {capacity : Nat} {stored text : String}
    (within : stored.toUTF8.size ≤ capacity)
    (fits : (limited capacity stored.toUTF8).fits text.toUTF8.size) :
    (limited capacity stored.toUTF8).write text.toUTF8 =
        .limited capacity (stored ++ text).toUTF8 ∧ (stored ++ text).toUTF8.size ≤ capacity := by
  rw [fits_iff] at fits
  have room := fits _ rfl
  have together : (stored ++ text).toUTF8.size ≤ capacity := by
    rw [toUTF8_append, ByteArray.size_append]
    omega
  refine ⟨?_, together⟩
  rw [write_limited_of_size_le within, ← toUTF8_append, extract_of_size_le together]

/-- Whole texts can be read back from the bytes that they were written as. -/
theorem captured_ofText (text : String) : (ofText text).captured = text := by
  simp only [captured, ofText, stored, Text.decodeCut, Text.fromUTF8?_toUTF8]
  rfl

end Offside.Output
