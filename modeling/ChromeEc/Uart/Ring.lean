import Mathlib.Logic.Function.Basic
import Mathlib.Tactic.Ring

/-! The circular buffers of common/uart_buffering.c. A buffer has `2 ^ bits` bytes and two
indices kept below its size by masking with `SIZE - 1`; it holds the bytes from `tail` up to
`head`, so it holds at most `SIZE - 1` of them. `contents` reads them out in order, and each
index update is matched by the list operation it performs. -/
namespace ChromeEc.Uart

/-- `TX_BUF_NEXT(i)` and `RX_BUF_NEXT(i)`: `((i) + 1) & (SIZE - 1)`. -/
def bufNext (bits i : Nat) : Nat := (i + 1) &&& (2 ^ bits - 1)

@[simp] theorem bufNext_eq (bits i : Nat) : bufNext bits i = (i + 1) % 2 ^ bits :=
  Nat.and_pow_two_sub_one_eq_mod _ _

/-- A buffer `buf` of `2 ^ bits` bytes with its head and tail indices. -/
@[ext] structure Ring (bits : Nat) where
  buf : Nat → UInt8
  head : Nat
  tail : Nat
  head_lt : head < 2 ^ bits
  tail_lt : tail < 2 ^ bits

theorem mod_of_lt_double {a n : Nat} (lt : a < 2 * n) : a % n = if a < n then a else a - n := by
  split_ifs with small
  · exact Nat.mod_eq_of_lt small
  · rw [Nat.mod_eq_sub_mod (by omega), Nat.mod_eq_of_lt (by omega)]

namespace Ring

variable {bits : Nat} (r : Ring bits)

/-- The empty buffer the statics start as. -/
def empty : Ring bits := ⟨fun _ => 0,0,0,Nat.two_pow_pos bits,Nat.two_pow_pos bits⟩

/-- How many bytes lie from `tail` up to `head`. -/
def count : Nat := (r.head + 2 ^ bits - r.tail) % 2 ^ bits

/-- The bytes from `tail` up to `head`, oldest first. -/
def contents : List UInt8 := (List.range r.count).map fun i => r.buf ((r.tail + i) % 2 ^ bits)

/-- `buf[head] = c; head = NEXT(head)`. -/
def store (c : UInt8) : Ring bits :=
  ⟨Function.update r.buf r.head c,bufNext bits r.head,r.tail,
    by simpa using Nat.mod_lt _ (Nat.two_pow_pos bits),r.tail_lt⟩

/-- `tail = NEXT(tail)`. -/
def advance : Ring bits :=
  ⟨r.buf,r.head,bufNext bits r.tail,r.head_lt,by simpa using Nat.mod_lt _ (Nat.two_pow_pos bits)⟩

/-- The receive DMA writing `cs` at `head` onwards, as the hardware does, with no test for room. -/
def storeAll (cs : List UInt8) : Ring bits := cs.foldl store r

/-- `tail = (tail + n) & (SIZE - 1)`. -/
def advanceBy (n : Nat) : Ring bits :=
  ⟨r.buf,r.head,(r.tail + n) &&& (2 ^ bits - 1),r.head_lt,
    by simpa using Nat.mod_lt _ (Nat.two_pow_pos bits)⟩

theorem count_lt : r.count < 2 ^ bits := Nat.mod_lt _ (Nat.two_pow_pos bits)

theorem count_eq_of_head {k : Nat} (lt : k < 2 ^ bits) (reaches : r.head = (r.tail + k) % 2 ^ bits) :
    r.count = k := by
  have tail := r.tail_lt
  rw [count, reaches, mod_of_lt_double (a := r.tail + k) (by omega)]
  split_ifs <;> rw [mod_of_lt_double (by omega)] <;> split_ifs <;> omega

theorem head_eq : r.head = (r.tail + r.count) % 2 ^ bits := by
  have head := r.head_lt
  have tail := r.tail_lt
  rw [count, mod_of_lt_double (a := r.head + 2 ^ bits - r.tail) (by omega)]
  split_ifs <;> rw [mod_of_lt_double (by omega)] <;> split_ifs <;> omega

theorem tail_add_count :
    r.tail + r.count = if r.tail ≤ r.head then r.head else r.head + 2 ^ bits := by
  have reaches := r.head_eq
  have := r.count_lt
  have := r.tail_lt
  rw [mod_of_lt_double (by omega)] at reaches
  split_ifs at reaches ⊢ <;> omega

theorem count_eq_zero_iff : r.count = 0 ↔ r.head = r.tail := by
  have tail := r.tail_lt
  constructor
  · intro zero
    rw [r.head_eq, zero, Nat.add_zero, Nat.mod_eq_of_lt tail]
  · exact fun same => r.count_eq_of_head (Nat.two_pow_pos bits) (by rw [same, Nat.add_zero, Nat.mod_eq_of_lt tail])

theorem bufNext_head_eq_tail_iff : bufNext bits r.head = r.tail ↔ r.count = 2 ^ bits - 1 := by
  have tail := r.tail_lt
  have := r.count_lt
  rw [bufNext_eq, r.head_eq, Nat.mod_add_mod, Nat.add_assoc,
    mod_of_lt_double (by omega)]
  split_ifs <;> omega

@[simp] theorem length_contents : r.contents.length = r.count := by simp [contents]

theorem contents_eq_nil_iff : r.contents = [] ↔ r.head = r.tail := by
  rw [← List.length_eq_zero, length_contents, count_eq_zero_iff]

@[simp] theorem empty_contents : (empty : Ring bits).contents = [] := by
  simp [contents, count, empty]

@[simp] theorem store_tail (c : UInt8) : (r.store c).tail = r.tail := rfl
@[simp] theorem advance_head : r.advance.head = r.head := rfl
@[simp] theorem advance_buf : r.advance.buf = r.buf := rfl
@[simp] theorem advanceBy_head (n : Nat) : (r.advanceBy n).head = r.head := rfl
@[simp] theorem advanceBy_buf (n : Nat) : (r.advanceBy n).buf = r.buf := rfl

theorem store_count {c : UInt8} (roomy : r.count < 2 ^ bits - 1) :
    (r.store c).count = r.count + 1 :=
  count_eq_of_head _ (by omega) (by
    simp only [store, bufNext_eq]
    rw [r.head_eq, Nat.mod_add_mod, Nat.add_assoc])

theorem store_contents {c : UInt8} (roomy : r.count < 2 ^ bits - 1) :
    (r.store c).contents = r.contents ++ [c] := by
  have head := r.head_eq
  have tail := r.tail_lt
  have := r.count_lt
  rw [contents, store_count r roomy, List.range_succ, List.map_append, contents]
  congr 1
  · apply List.map_congr_left
    intro i member
    have below : i < r.count := List.mem_range.mp member
    have other : (r.tail + i) % 2 ^ bits ≠ r.head := by
      rw [head, mod_of_lt_double (by omega), mod_of_lt_double (by omega)]
      split_ifs <;> omega
    simp [store, Function.update_apply, other]
  · simp only [store, store_tail, List.map_cons, List.map_nil]
    rw [← head, Function.update_same]

theorem advanceBy_count {n : Nat} (within : n ≤ r.count) : (r.advanceBy n).count = r.count - n :=
  count_eq_of_head _ (by have := r.count_lt; omega) (by
    simp only [advanceBy, Nat.and_pow_two_sub_one_eq_mod]
    rw [r.head_eq, Nat.mod_add_mod, Nat.add_assoc, Nat.add_sub_cancel' within])

theorem advance_eq_advanceBy_one : r.advance = r.advanceBy 1 := by
  ext <;> simp [advance, advanceBy]

theorem advance_count_lt (nonempty : r.head ≠ r.tail) : r.advance.count < r.count := by
  have positive : r.count ≠ 0 := fun zero => nonempty (r.count_eq_zero_iff.mp zero)
  rw [advance_eq_advanceBy_one, advanceBy_count r (by omega)]
  omega

theorem contents_eq_cons (nonempty : r.head ≠ r.tail) :
    r.contents = r.buf r.tail :: r.advance.contents := by
  have positive : r.count ≠ 0 := fun zero => nonempty (r.count_eq_zero_iff.mp zero)
  obtain ⟨n,counted⟩ : ∃ n, r.count = n + 1 := ⟨r.count - 1,by omega⟩
  rw [contents, contents, advance_eq_advanceBy_one, advanceBy_count r (by omega), counted,
    List.range_succ_eq_map]
  simp only [List.map_cons, List.map_map, Nat.add_zero, Nat.mod_eq_of_lt r.tail_lt,
    Nat.add_sub_cancel]
  congr 1
  apply List.map_congr_left
  intro i _
  simp only [Function.comp_apply, advanceBy, Nat.and_pow_two_sub_one_eq_mod, Nat.mod_add_mod]
  congr 2
  omega

theorem getElem_contents {i : Nat} (within : i < r.contents.length) :
    r.contents[i] = r.buf ((r.tail + i) % 2 ^ bits) := by
  simp [contents]

theorem advanceBy_contents {n : Nat} (within : n ≤ r.count) :
    (r.advanceBy n).contents = r.contents.drop n := by
  apply List.ext_getElem
  · simp [advanceBy_count r within]
  · intro i _ _
    rw [getElem_contents, List.getElem_drop, getElem_contents]
    simp only [advanceBy, Nat.and_pow_two_sub_one_eq_mod, Nat.mod_add_mod, Nat.add_assoc]

theorem block_eq_take {len : Nat} (within : len ≤ r.count) (fits : r.tail + len ≤ 2 ^ bits) :
    (List.range len).map (fun i => r.buf (r.tail + i)) = r.contents.take len := by
  apply List.ext_getElem
  · simp [within]
  · intro i below _
    simp only [List.length_map, List.length_range] at below
    rw [List.getElem_take, getElem_contents, List.getElem_map, List.getElem_range,
      Nat.mod_eq_of_lt (by omega)]

theorem storeAll_contents {cs : List UInt8} (roomy : r.count + cs.length < 2 ^ bits) :
    (r.storeAll cs).contents = r.contents ++ cs ∧ (r.storeAll cs).count = r.count + cs.length := by
  induction cs generalizing r with
  | nil => simp [storeAll]
  | cons c cs ih =>
    simp only [List.length_cons] at roomy
    obtain ⟨contents,counted⟩ := ih (r.store c) (by rw [r.store_count (by omega)]; omega)
    refine ⟨?_,?_⟩
    · rw [storeAll, List.foldl_cons, ← storeAll, contents, r.store_contents (by omega),
        List.append_assoc, List.singleton_append]
    · rw [storeAll, List.foldl_cons, ← storeAll, counted, r.store_count (by omega),
        List.length_cons]
      omega

@[simp] theorem storeAll_tail (cs : List UInt8) : (r.storeAll cs).tail = r.tail := by
  induction cs generalizing r with
  | nil => rfl
  | cons c cs ih => exact ih (r.store c)

theorem storeAll_buf_head (r' : Ring bits) (buf : r.buf = r'.buf) (head : r.head = r'.head)
    (cs : List UInt8) :
    (r.storeAll cs).buf = (r'.storeAll cs).buf ∧ (r.storeAll cs).head = (r'.storeAll cs).head := by
  induction cs generalizing r r' with
  | nil => exact ⟨buf,head⟩
  | cons c cs ih => exact ih (r.store c) (r'.store c) (by simp [store, buf, head]) (by simp [store, head])

theorem storeAll_from_head {cs : List UInt8} (roomy : cs.length < 2 ^ bits) :
    ({r.storeAll cs with tail := r.head,tail_lt := r.head_lt} : Ring bits).contents = cs := by
  let start : Ring bits := {r with tail := r.head,tail_lt := r.head_lt}
  have empty : start.count = 0 := start.count_eq_zero_iff.mpr rfl
  have same := r.storeAll_buf_head start rfl rfl cs
  have restarted : ({r.storeAll cs with tail := r.head,tail_lt := r.head_lt} : Ring bits) =
      start.storeAll cs := Ring.ext same.1 same.2 (by simp [start])
  rw [restarted, (start.storeAll_contents (show start.count + cs.length < 2 ^ bits by omega)).1,
    start.contents_eq_nil_iff.mpr rfl, List.nil_append]

end Ring

end ChromeEc.Uart
