import Mathlib.Data.Nat.Bitwise

/-! Bit fields of the STM32's 32-bit peripheral registers. The drivers write a field as
`reg = (reg & ~(mask << shift)) | (value << shift)`: GPIOx_CRL/CRH and AFIO_EXTICR in
chip/stm32/gpio-stm32f.c, the ADC's sequence registers in chip/stm32/adc-stm32l.c. One lemma
says what such a write does to every field of the word. -/
namespace ChromeEc.Stm32

/-- Field `j` of width `w` of a register word: bits `w * j` to `w * j + w - 1`. -/
def regField (w j word : Nat) : Nat := (word >>> (w * j)) % 2 ^ w

theorem regField_testBit (w j word b : Nat) :
    (regField w j word).testBit b = (decide (b < w) && word.testBit (w * j + b)) := by
  simp [regField]

private theorem clearField_testBit {w j n : Nat} (small : n < 32) :
    (0xffffffff ^^^ (2 ^ w - 1) <<< (w * j)).testBit n =
      !(decide (w * j ≤ n) && decide (n < w * j + w)) := by
  have ones : (0xffffffff : Nat) = 2 ^ 32 - 1 := rfl
  rw [ones, Nat.testBit_xor, Nat.testBit_two_pow_sub_one, Nat.testBit_shiftLeft,
    Nat.testBit_two_pow_sub_one]
  simp only [small, decide_True, ge_iff_le]
  by_cases h : w * j ≤ n
  · simp [h]; omega
  · simp [h]

theorem regField_replace (old : Nat) {w i j v : Nat} (iFits : w * (i + 1) ≤ 32)
    (vLt : v < 2 ^ w) :
    regField w i (old &&& (0xffffffff ^^^ (2 ^ w - 1) <<< (w * j)) ||| v <<< (w * j)) =
      if i = j then v else regField w i old := by
  apply Nat.eq_of_testBit_eq
  intro b
  by_cases small : b < w
  · have inWord : w * i + b < 32 := by rw [Nat.mul_succ] at iFits; omega
    rw [regField_testBit, Nat.testBit_or, Nat.testBit_and, clearField_testBit inWord,
      Nat.testBit_shiftLeft]
    split
    · subst_vars
      simp [small]
    · have apart : w * i + b < w * j ∨ w * j + w ≤ w * i + b := by
        rcases Nat.lt_or_gt_of_ne ‹i ≠ j› with lt | gt
        · have := Nat.mul_le_mul_left w (Nat.succ_le_of_lt lt); rw [Nat.mul_succ] at this; omega
        · have := Nat.mul_le_mul_left w (Nat.succ_le_of_lt gt); rw [Nat.mul_succ] at this; omega
      have shifted : (decide (w * i + b ≥ w * j) && v.testBit (w * i + b - w * j)) = false := by
        by_cases ge : w * j ≤ w * i + b
        · have above : 2 ^ w ≤ 2 ^ (w * i + b - w * j) := Nat.pow_le_pow_right (by decide) (by omega)
          simp [Nat.testBit_lt_two_pow (Nat.lt_of_lt_of_le vLt above)]
        · simp [ge]
      simp only [shifted, Bool.or_false, regField_testBit, small, decide_True, Bool.true_and]
      rcases apart with lo | hi
      · simp [Nat.not_le.mpr lo]
      · simp [Nat.not_lt.mpr hi]
  · have high : v.testBit b = false := Nat.testBit_lt_two_pow
      (Nat.lt_of_lt_of_le vLt (Nat.pow_le_pow_right (by decide) (Nat.le_of_not_lt small)))
    split <;> simp [regField_testBit, small, high]

end ChromeEc.Stm32
