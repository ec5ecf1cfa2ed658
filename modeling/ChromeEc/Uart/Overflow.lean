import ChromeEc.Uart.Transmit

/-! What the producers report. `__tx_char` stores as much of a character's translation as
the ring has room for, and `uart_puts` stores as much of its string's translation: the stored
bytes are a prefix of the translation, cut at the ring's free space. So a newline that finds
one free slot leaves a lone carriage return behind although `__tx_char` reports it dropped,
and `uart_puts` reports success when only its last character was refused, because it steps
past a refused character before it tests for the NUL. -/
namespace ChromeEc.Uart

variable {bits txBits rxBits : Nat}

/-- The bytes `__tx_char` is meant to store for `c`: CR LF for a newline, the byte itself
otherwise. -/
def translation (c : Int) : List UInt8 := if c = 10 then [13,toByte c] else [toByte c]

/-- The translation of every character of a string. -/
def putsTranslation (outstr : List UInt8) : List UInt8 := outstr.flatMap fun c => translation c.toNat

@[simp] theorem putsTranslation_nil : putsTranslation [] = [] := rfl

@[simp] theorem putsTranslation_cons (c : UInt8) (outstr : List UInt8) :
    putsTranslation (c :: outstr) = translation c.toNat ++ putsTranslation outstr := rfl

/-- The room left in a ring of `2 ^ bits` slots. -/
def Ring.free (r : Ring bits) : Nat := 2 ^ bits - 1 - r.contents.length

theorem Ring.length_contents_le (r : Ring bits) : r.contents.length ≤ 2 ^ bits - 1 := by
  have := r.count_lt
  rw [Ring.length_contents]
  omega

theorem txPut_full (r : Ring bits) (c : UInt8) (full : r.free = 0) : txPut r c = ⟨r,true,[]⟩ := by
  have length : r.count = 2 ^ bits - 1 := by
    have := r.count_lt
    rw [Ring.free, Ring.length_contents] at full
    omega
  rw [← Ring.bufNext_head_eq_tail_iff] at length
  rw [txPut, if_pos length]

theorem txPut_roomy (r : Ring bits) (c : UInt8) (roomy : 0 < r.free) :
    (txPut r c).dropped = false ∧ (txPut r c).ring.contents = r.contents ++ [c] := by
  rw [Ring.free, Ring.length_contents] at roomy
  have open_ : bufNext bits r.head ≠ r.tail := by rw [Ne, Ring.bufNext_head_eq_tail_iff]; omega
  rw [txPut, if_neg open_]
  exact ⟨rfl,r.store_contents (by omega)⟩

theorem txChar_spec (r : Ring bits) (c : Int) :
    ((txChar r c).dropped = true ↔ r.free < (translation c).length) ∧
      (txChar r c).ring.contents = r.contents ++ (translation c).take r.free := by
  unfold txChar translation
  by_cases newline : c = 10
  · simp only [newline, if_true]
    rcases Nat.lt_or_ge r.free 2 with tight | roomy
    · rcases Nat.lt_or_ge r.free 1 with full | one
      · have empty : r.free = 0 := by omega
        simp [txPut_full r 13 empty, empty]
      · obtain ⟨kept,stored⟩ := txPut_roomy r 13 (by omega)
        have full : (txPut r 13).ring.free = 0 := by
          simp only [Ring.free, stored, List.length_append, List.length_singleton] at tight ⊢
          omega
        have single : r.free = 1 := by omega
        simp [kept, txPut_full _ _ full, stored, single]
    · obtain ⟨kept,stored⟩ := txPut_roomy r 13 (by omega)
      obtain ⟨kept',stored'⟩ := txPut_roomy (txPut r 13).ring (toByte 10) (by
        simp only [Ring.free, stored, List.length_append, List.length_singleton] at roomy ⊢
        omega)
      simp only [kept, kept', stored', stored, Bool.false_eq_true, if_false, List.append_assoc]
      constructor
      · simp only [List.length_cons, List.length_nil, false_iff, not_lt]
        omega
      · rw [List.take_of_length_le (by simpa using roomy)]
        rfl
  · simp only [newline, if_false]
    rcases Nat.eq_zero_or_pos r.free with full | roomy
    · simp [txPut_full _ _ full, full]
    · obtain ⟨kept,stored⟩ := txPut_roomy r (toByte c) roomy
      rw [kept, stored, List.take_of_length_le (by simpa using roomy)]
      simp only [Bool.false_eq_true, false_iff, not_lt, List.length_singleton, and_true]
      omega

theorem txChar_of_fits (r : Ring bits) (c : Int) (fits : (translation c).length ≤ r.free) :
    (txChar r c).dropped = false ∧ (txChar r c).ring.contents = r.contents ++ translation c ∧
      (txChar r c).ring.free = r.free - (translation c).length := by
  obtain ⟨dropped,stored⟩ := txChar_spec r c
  rw [List.take_of_length_le fits] at stored
  refine ⟨by simpa using mt dropped.mp (by omega),stored,?_⟩
  simp only [Ring.free, stored, List.length_append]
  omega

theorem putsLoop_contents (r : Ring bits) (outstr : List UInt8) :
    (putsLoop r outstr).1.ring.contents = r.contents ++ (putsTranslation outstr).take r.free := by
  induction outstr generalizing r with
  | nil => simp [putsLoop]
  | cons c outstr ih =>
    obtain ⟨dropped,stored⟩ := txChar_spec r c.toNat
    simp only [putsLoop, putsTranslation_cons]
    split_ifs with refused
    · rw [stored, List.take_append_of_le_length (by have := dropped.mp refused; omega)]
    · have fits : (translation c.toNat).length ≤ r.free := by
        simpa using mt dropped.mpr refused
      obtain ⟨-,whole,free⟩ := txChar_of_fits r c.toNat fits
      rw [ih, whole, free, List.take_append_eq_append_take, List.take_of_length_le fits,
        List.append_assoc]

theorem putsLoop_reaches_last (r : Ring bits) (outstr : List UInt8) (c : UInt8)
    (fits : (putsTranslation outstr).length ≤ r.free) : (putsLoop r (outstr ++ [c])).2 = [] := by
  induction outstr generalizing r with
  | nil =>
    simp only [List.nil_append, putsLoop]
    split_ifs <;> rfl
  | cons d outstr ih =>
    simp only [putsTranslation_cons, List.length_append] at fits
    obtain ⟨kept,-,free⟩ := txChar_of_fits r d.toNat (by omega)
    simp only [List.cons_append, putsLoop, kept, Bool.false_eq_true, if_false]
    exact ih _ (by omega)

/-- The producers' reports and stores where the translation stops fitting: a newline with one
free slot stores its CR and is reported dropped, and a string whose last character is
refused is reported stored. -/
theorem lone_cr_and_refused_last_char_misreported :
    (∀ r : Ring bits, r.contents.length + 2 = 2 ^ bits →
      (txChar r 10).dropped = true ∧ (txChar r 10).ring.contents = r.contents ++ [13]) ∧
    (∀ (u : Buffers txBits rxBits) (outstr : List UInt8) (c : UInt8),
      u.tx.contents.length + (putsTranslation outstr).length ≤ 2 ^ txBits - 1 →
      2 ^ txBits - 1 < u.tx.contents.length + (putsTranslation (outstr ++ [c])).length →
      (uartPuts u (outstr ++ [c])).2.1 = .success ∧
        (uartPuts u (outstr ++ [c])).1.tx.contents ≠ u.tx.contents ++ putsTranslation (outstr ++ [c])) := by
  refine ⟨fun r oneFree => ?_,fun u outstr c fits refused => ?_⟩
  · have single : r.free = 1 := by rw [Ring.free]; omega
    obtain ⟨dropped,stored⟩ := txChar_spec r 10
    refine ⟨dropped.mpr (by simp [translation, single]),?_⟩
    rw [stored, single]
    rfl
  · refine ⟨by simp [uartPuts, putsLoop_reaches_last u.tx outstr c (by rw [Ring.free]; omega)],?_⟩
    intro appended
    have lengths := congrArg List.length appended
    have := u.tx.length_contents_le
    simp only [uartPuts, putsLoop_contents, List.length_append, List.length_take, Ring.free] at lengths
    omega

end ChromeEc.Uart
