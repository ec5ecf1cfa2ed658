import Mathlib.Data.List.OfFn
import ChromeEc.Stm32.Registers

/-! chip/stm32/adc-stm32l.c: the STM32L ADC driver. A regular conversion takes its inputs from
the sequence registers ADC_SQR1-SQR5 (RM0038, not in src/): sample `k` in a five-bit field of
ADC_SQR(5 - k / 6), and the length less one in bits 20-24 of ADC_SQR1, the field a 29th sample
would have. `adc_configure_all` writes a board's channel table there, and for a table of 1 to 28
inputs the sequence read back is the table, so `adc_read_all_channels`, one scan stored by DMA,
gives every channel what `adc_read_channel` gives it alone. A table of 29 inputs writes its last
input over the length. Both reads power the ADC down and give its clock back, on every path. -/
namespace ChromeEc.Stm32.Adc

/-- `EC_SUCCESS` and `EC_ERROR_UNKNOWN` (common.h, not in src/). -/
def ecSuccess : Int := 0
def ecErrorUnknown : Int := 1

/-- `ADC_READ_ERROR` (adc.h, not in src/). -/
def adcReadError : Int := -1

/-- `ADC_READ_MAX` of the STM32 (adc_chip.h, not in src/): results have twelve bits. -/
def adcReadMax : Nat := 4095

/-- `struct adc_t` (adc_chip.h, not in src/), the fields this driver reads: the ADC input of the
entry and the factors that scale its raw value. -/
structure AdcT where
  channel : Nat
  factorMul : Int
  factorDiv : Int
  shift : Int
  deriving DecidableEq, Repr

/-- `raw * adc->factor_mul / adc->factor_div + adc->shift` in C `int` arithmetic, the division
truncating toward zero; the boards' factors keep the product within `int`. -/
def AdcT.scale (adc : AdcT) (raw : Int) : Int := (raw * adc.factorMul).tdiv adc.factorDiv + adc.shift

/-- The registers the driver reads and writes: ADC_SQR(reg_id) for every `reg_id`, ADC_CR1,
ADC_CR2, ADC_SR, ADC_DR, ADC_CCR, ADC_SMPR1-3 and RCC_APB2ENR. -/
structure Regs where
  sqr : Int → Nat
  cr1 : Nat
  cr2 : Nat
  sr : Nat
  dr : Nat
  ccr : Nat
  smpr1 : Nat
  smpr2 : Nat
  smpr3 : Nat
  apb2enr : Nat

/-- The driver's state: the registers, whether the ADC's clock is asked for
(`clock_enable_module(MODULE_ADC, on)`, clock.c, not in src/), and `restore_clock`. -/
structure State where
  regs : Regs
  moduleClock : Bool
  restoreClock : Bool

/-! ### The regular sequence -/

/-- `adc_set_channel(sample_id, channel)`: the five-bit field of sample `sample_id` in
ADC_SQR(5 - sample_id / 6), in `uint32_t` arithmetic. -/
def adcSetChannel (sampleId channel : Nat) (r : Regs) : Regs :=
  let regId : Int := 5 - ((sampleId / 6 : Nat) : Int)
  let mask := 0x1f <<< (sampleId % 6 * 5)
  let val := (channel <<< (sampleId % 6 * 5)) % 2 ^ 32
  {r with sqr := fun i => if i = regId then r.sqr regId &&& (0xffffffff ^^^ mask) ||| val else r.sqr i}

/-- `adc_configure(ain_id)`: the input as the first sample, DMA (ADC_CR2 bit 8) and scan mode
(ADC_CR1 bit 8) off. -/
def adcConfigure (ainId : Nat) (r : Regs) : Regs :=
  let r := adcSetChannel 0 ainId r
  {r with cr2 := r.cr2 &&& (0xffffffff ^^^ 1 <<< 8), cr1 := r.cr1 &&& (0xffffffff ^^^ 1 <<< 8)}

/-- The loop of `adc_configure_all`, from sample `i` on: `adc_set_channel(i, adc_channels[i].channel)`. -/
def adcSetChannels : Nat → List AdcT → Regs → Regs
  | _, [], r => r
  | i, adc :: rest, r => adcSetChannels (i + 1) rest (adcSetChannel i adc.channel r)

/-- `adc_configure_all()` for the table `adc_channels` of `ADC_CH_COUNT` entries, at least one on
every board: the length less one into ADC_SQR1, every entry's input as its sample, DMA and scan
mode on. -/
def adcConfigureAll (adcChannels : List AdcT) (r : Regs) : Regs :=
  let r := {r with sqr := fun i => if i = 1 then ((adcChannels.length - 1) <<< 20) % 2 ^ 32 else r.sqr i}
  let r := adcSetChannels 0 adcChannels r
  {r with cr2 := r.cr2 ||| 1 <<< 8, cr1 := r.cr1 ||| 1 <<< 8}

/-- The input of sample `k` as the ADC reads it (RM0038, not in src/): field `k % 6` of
ADC_SQR(5 - k / 6). -/
def Regs.sq (r : Regs) (k : Nat) : Nat := regField 5 (k % 6) (r.sqr (5 - ((k / 6 : Nat) : Int)))

/-- The inputs a regular conversion goes through (RM0038, not in src/): in scan mode the first
`L + 1` samples, with `L` in ADC_SQR1 bits 20-24, and otherwise the first alone. -/
def Regs.sequence (r : Regs) : List Nat :=
  (List.range (if r.cr1.testBit 8 then regField 5 4 (r.sqr 1) + 1 else 1)).map r.sq

/-! ### Power and clock -/

/-- `adc_powered()`: ADONS, which the ADC sets while ADON (ADC_CR2 bit 0) is on; the model takes
it to follow ADON at once. -/
def adcPowered (r : Regs) : Bool := r.cr2.testBit 0

/-- `adc_enable_clock()`. -/
def adcEnableClock (r : Regs) : Regs :=
  {r with apb2enr := r.apb2enr ||| 1 <<< 9, ccr := r.ccr ||| 1 <<< 16}

/-- `adc_init()`: clock, power, right alignment and sample times. -/
def adcInit (r : Regs) : Regs :=
  let r := adcEnableClock r
  let r := if !adcPowered r then {r with cr2 := r.cr2 ||| 1 <<< 0} else r
  {r with cr2 := r.cr2 &&& (0xffffffff ^^^ 1 <<< 11),
          smpr1 := 0x24924892, smpr2 := 0x24924892, smpr3 := 0x24924892}

/-- `adc_prepare()`. -/
def adcPrepare (s : State) : State :=
  if !adcPowered s.regs then ⟨adcInit s.regs, true, true⟩ else s

/-- `adc_release()`. -/
def adcRelease (s : State) : State :=
  let s := if s.restoreClock then {s with moduleClock := false, restoreClock := false} else s
  if adcPowered s.regs then {s with regs := {s.regs with cr2 := 0}} else s

/-! ### Reads -/

/-- The analog side (not in src/): the value converting each input gives, twelve bits
right-aligned as `adc_init` sets ADC_CR2. -/
structure Inputs where
  sample : Nat → Nat
  twelveBit : ∀ c, sample c < 2 ^ 12

/-- What the ADC does after SWSTART (RM0038, not in src/): it converts the inputs of the
sequence one after another into ADC_DR and sets EOC (ADC_SR bit 1), if `ended`, before the
driver stops waiting. -/
def Regs.convert (inputs : Inputs) (ended : Bool) (r : Regs) : Regs :=
  if ended then {r with dr := (r.sequence.map inputs.sample).getLastD r.dr, sr := r.sr ||| 1 <<< 1}
  else r

/-- `STM32_ADC_SR &= ~(1 << 1)`: clear EOC. -/
def Regs.clearEoc (r : Regs) : Regs := {r with sr := r.sr &&& (0xffffffff ^^^ 1 <<< 1)}

/-- `STM32_ADC_CR2 |= (1 << 30)`: SWSTART, start the conversion. -/
def Regs.swstart (r : Regs) : Regs := {r with cr2 := r.cr2 ||| 1 <<< 30}

/-- `adc_conversion_ended()`. -/
def adcConversionEnded (r : Regs) : Bool := r.sr.testBit 1

/-- `adc_read_channel(ch)`, with `adc_lock` held throughout; `ended` says whether EOC comes
before the deadline of `ADC_SINGLE_READ_TIMEOUT`. -/
def adcReadChannel (adcChannels : List AdcT) (ch : Fin adcChannels.length) (inputs : Inputs)
    (ended : Bool) (s : State) : Int × State :=
  let adc := adcChannels.get ch
  let s := adcPrepare s
  let r := (adcConfigure adc.channel s.regs).clearEoc.swstart.convert inputs ended
  let value : Int := if adcConversionEnded r then ((r.dr &&& adcReadMax : Nat) : Int) else adcReadError
  (if value = adcReadError then adcReadError else adc.scale value, adcRelease {s with regs := r})

/-- What `dma_start_rx(&dma_adc_option, count, raw_data)` and `dma_wait` (dma.c, not in src/)
give with the ADC scanning: one halfword for each conversion, and completion after `count` of
them, if the conversions are `finished` before `dma_wait` gives up. -/
def dmaTransfer (count : Nat) (conversions : List Nat) (finished : Bool) : Option (List Nat) :=
  if finished ∧ count ≤ conversions.length then some (conversions.take count) else none

/-- `(int16_t)` of a halfword. -/
def int16 (v : Nat) : Int :=
  if v % 2 ^ 16 < 2 ^ 15 then ((v % 2 ^ 16 : Nat) : Int) else ((v % 2 ^ 16 : Nat) : Int) - ((2 ^ 16 : Nat) : Int)

/-- `adc_read_all_channels(data)`, with `adc_lock` held throughout: the status, the values
stored into `data` (`none` when it is left alone), and the state after. -/
def adcReadAllChannels (adcChannels : List AdcT) (inputs : Inputs) (finished : Bool) (s : State) :
    Int × Option (List Int) × State :=
  let s := adcPrepare s
  let r := (adcConfigureAll adcChannels s.regs).swstart
  let s := adcRelease {s with regs := r}
  match dmaTransfer adcChannels.length (r.sequence.map inputs.sample) finished with
  | none => (ecErrorUnknown, none, s)
  | some raw => (ecSuccess, some (List.zipWith (fun adc v => adc.scale (int16 v)) adcChannels raw), s)

/-! ### Writing and reading the sequence -/

private theorem channel_shift_lt {c j : Nat} (cLt : c < 32) (jLt : j < 6) : c <<< (j * 5) < 2 ^ 32 := by
  rw [Nat.shiftLeft_eq]
  calc c * 2 ^ (j * 5) < 32 * 2 ^ (j * 5) := Nat.mul_lt_mul_of_pos_right cLt (Nat.two_pow_pos _)
    _ ≤ 32 * 2 ^ 25 := Nat.mul_le_mul_left _ (Nat.pow_le_pow_right (by decide) (by omega))
    _ < 2 ^ 32 := by decide

private theorem sqField_replace (old : Nat) {i j c : Nat} (iLt : i < 6) (cLt : c < 32) :
    regField 5 i (old &&& (0xffffffff ^^^ 0x1f <<< (5 * j)) ||| c <<< (5 * j)) =
      if i = j then c else regField 5 i old :=
  regField_replace old (by omega) cLt

theorem adcSetChannel_sq (k : Nat) {c : Nat} (cLt : c < 32) (r : Regs) (m : Nat) :
    (adcSetChannel k c r).sq m = if m = k then c else r.sq m := by
  simp only [Regs.sq, adcSetChannel]
  by_cases same : m / 6 = k / 6
  · rw [if_pos (by rw [same]), Nat.mod_eq_of_lt (channel_shift_lt cLt (Nat.mod_lt k (by decide))),
      Nat.mul_comm (k % 6) 5]
    rw [sqField_replace _ (Nat.mod_lt m (by decide)) cLt, same]
    by_cases field : m % 6 = k % 6
    · rw [if_pos field, if_pos (by omega)]
    · rw [if_neg field, if_neg (by omega)]
  · rw [if_neg (by omega), if_neg (by omega)]

theorem adcSetChannels_sq (adcChannels : List AdcT) (valid : ∀ adc ∈ adcChannels, adc.channel < 32)
    (i : Nat) (r : Regs) (m : Nat) :
    (adcSetChannels i adcChannels r).sq m =
      if i ≤ m ∧ m < i + adcChannels.length then (adcChannels.map AdcT.channel).getD (m - i) 0
      else r.sq m := by
  induction adcChannels generalizing i r with
  | nil => simp only [adcSetChannels, List.length_nil]; rw [if_neg (by omega)]
  | cons adc rest ih =>
    simp only [adcSetChannels]
    rw [ih (fun a mem => valid a (List.mem_cons_of_mem adc mem)),
      adcSetChannel_sq i (valid adc (List.mem_cons_self adc rest))]
    rcases Nat.lt_trichotomy m i with lt | rfl | gt
    · rw [if_neg (by omega), if_neg (by omega), if_neg (by omega)]
    · rw [if_neg (by omega), if_pos rfl, if_pos (by simp), Nat.sub_self]; rfl
    · have index : m - i = m - (i + 1) + 1 := by omega
      simp only [List.length_cons, List.map_cons, index, List.getD_cons_succ]
      by_cases inside : m < i + 1 + rest.length
      · rw [if_pos ⟨gt, inside⟩, if_pos ⟨by omega, by omega⟩]
      · rw [if_neg (by omega), if_neg (by omega), if_neg (by omega)]

theorem Regs.sq_twentyEight (r : Regs) : r.sq 28 = regField 5 4 (r.sqr 1) := rfl

private theorem testBit_or_bit (x n : Nat) : (x ||| 1 <<< n).testBit n = true := by
  simp [Nat.testBit_or, Nat.one_shiftLeft, Nat.testBit_two_pow_self]

private theorem testBit_clear_bit (x n : Nat) (lt : n < 32) :
    (x &&& (0xffffffff ^^^ 1 <<< n)).testBit n = false := by
  rw [Nat.testBit_and, Nat.testBit_xor, show (0xffffffff : Nat) = 2 ^ 32 - 1 from rfl,
    Nat.testBit_two_pow_sub_one, Nat.one_shiftLeft, Nat.testBit_two_pow_self]
  simp [lt]

private theorem length_field {n : Nat} (lt : n < 32) : regField 5 4 ((n <<< 20) % 2 ^ 32) = n := by
  rw [Nat.mod_eq_of_lt (channel_shift_lt lt (by decide : 4 < 6)), regField]
  simp [Nat.mod_eq_of_lt lt]

theorem Regs.sequence_adcConfigureAll (adcChannels : List AdcT) (r : Regs)
    (nonempty : adcChannels ≠ []) (fits : adcChannels.length ≤ 28)
    (valid : ∀ adc ∈ adcChannels, adc.channel < 32) :
    (adcConfigureAll adcChannels r).sequence = adcChannels.map AdcT.channel := by
  have length : 0 < adcChannels.length := List.length_pos.mpr nonempty
  have sq : ∀ m, (adcConfigureAll adcChannels r).sq m = _ := adcSetChannels_sq adcChannels valid 0 _
  have scan : (adcConfigureAll adcChannels r).cr1.testBit 8 = true := testBit_or_bit _ 8
  have total : regField 5 4 ((adcConfigureAll adcChannels r).sqr 1) = adcChannels.length - 1 := by
    rw [← Regs.sq_twentyEight, sq, if_neg (by omega), Regs.sq_twentyEight]
    exact length_field (by omega)
  rw [Regs.sequence, scan, if_pos rfl, total, Nat.sub_add_cancel length]
  apply List.ext_getElem (by simp)
  intro m inRange _
  simp only [List.length_map, List.length_range] at inRange
  rw [List.getElem_map, List.getElem_range, sq, if_pos ⟨Nat.zero_le m, by omega⟩, Nat.sub_zero,
    List.getD_eq_getElem _ _ (by simpa using inRange)]

theorem Regs.sequence_adcConfigure {c : Nat} (cLt : c < 32) (r : Regs) :
    (adcConfigure c r).sequence = [c] := by
  have scan : (adcConfigure c r).cr1.testBit 8 = false := testBit_clear_bit _ 8 (by decide)
  rw [Regs.sequence, scan, if_neg Bool.false_ne_true]
  show [(adcSetChannel 0 c r).sq 0] = [c]
  rw [adcSetChannel_sq 0 cLt r 0, if_pos rfl]

/-- The registers after reset (RM0038, not in src/), and the driver before its first read. -/
def resetRegs : Regs := ⟨fun _ => 0, 0, 0, 0, 0, 0, 0, 0, 0, 0⟩
def resetState : State := ⟨resetRegs, false, false⟩

/-! ### The two reads -/

@[simp] theorem Regs.clearEoc_sequence (r : Regs) : r.clearEoc.sequence = r.sequence := rfl
@[simp] theorem Regs.swstart_sequence (r : Regs) : r.swstart.sequence = r.sequence := rfl

theorem Inputs.sample_and_max (inputs : Inputs) (c : Nat) :
    inputs.sample c &&& adcReadMax = inputs.sample c :=
  Nat.and_pow_two_sub_one_of_lt_two_pow (inputs.twelveBit c)

theorem Inputs.int16_sample (inputs : Inputs) (c : Nat) : int16 (inputs.sample c) = inputs.sample c := by
  have lt := inputs.twelveBit c
  have small : inputs.sample c % 2 ^ 16 = inputs.sample c := Nat.mod_eq_of_lt (by omega)
  simp only [int16, small, if_pos (show inputs.sample c < 2 ^ 15 by omega)]

theorem Regs.conversionEnded_convert (r : Regs) (inputs : Inputs) (ended : Bool) :
    adcConversionEnded (r.clearEoc.swstart.convert inputs ended) = ended := by
  cases ended
  · exact testBit_clear_bit _ 1 (by decide)
  · exact testBit_or_bit _ 1

theorem Regs.convert_dr {r : Regs} {c : Nat} (seq : r.sequence = [c]) (inputs : Inputs) :
    (r.convert inputs true).dr = inputs.sample c := by
  simp only [Regs.convert, if_pos, seq, List.map_cons, List.map_nil]
  rfl

theorem adcReadChannel_value (adcChannels : List AdcT) (ch : Fin adcChannels.length)
    (inputs : Inputs) (ended : Bool) (s : State) (valid : (adcChannels.get ch).channel < 32) :
    (adcReadChannel adcChannels ch inputs ended s).1 =
      if ended then (adcChannels.get ch).scale (inputs.sample (adcChannels.get ch).channel)
      else adcReadError := by
  simp only [adcReadChannel, Regs.conversionEnded_convert]
  cases ended
  · rw [if_neg Bool.false_ne_true, if_pos rfl, if_neg Bool.false_ne_true]
  · have seq := Regs.sequence_adcConfigure valid (adcPrepare s).regs
    rw [if_pos rfl, Regs.convert_dr (by rw [Regs.swstart_sequence, Regs.clearEoc_sequence, seq]),
      inputs.sample_and_max, if_neg (by simp only [adcReadError]; omega), if_pos rfl]

theorem adcReadAllChannels_result (adcChannels : List AdcT) (inputs : Inputs) (finished : Bool)
    (s : State) (nonempty : adcChannels ≠ []) (fits : adcChannels.length ≤ 28)
    (valid : ∀ adc ∈ adcChannels, adc.channel < 32) :
    (adcReadAllChannels adcChannels inputs finished s).1 =
      (if finished then ecSuccess else ecErrorUnknown) ∧
    (adcReadAllChannels adcChannels inputs finished s).2.1 =
      if finished then some (adcChannels.map fun adc => adc.scale (inputs.sample adc.channel))
      else none := by
  have seq := Regs.sequence_adcConfigureAll adcChannels (adcPrepare s).regs nonempty fits valid
  simp only [adcReadAllChannels, Regs.swstart_sequence, seq, dmaTransfer, List.map_map,
    List.length_map, Nat.le_refl, and_true]
  cases finished
  · exact ⟨rfl, rfl⟩
  · refine ⟨rfl, ?_⟩
    simp only [if_pos, List.take_of_length_le (List.length_map _ _).le, List.zipWith_map_right,
      List.zipWith_same, Function.comp, inputs.int16_sample]

/-- `adc_configure_all` programs the table as the regular sequence, and `adc_configure` after it
programs the one input it is given: the length and scan mode that `adc_configure_all` left
do not reach a single conversion. -/
theorem adcConfigure_programs_sequence (adcChannels : List AdcT) (nonempty : adcChannels ≠ [])
    (fits : adcChannels.length ≤ 28) (valid : ∀ adc ∈ adcChannels, adc.channel < 32) (r : Regs) :
    (adcConfigureAll adcChannels r).sequence = adcChannels.map AdcT.channel ∧
    ∀ adc ∈ adcChannels,
      (adcConfigure adc.channel (adcConfigureAll adcChannels r)).sequence = [adc.channel] :=
  ⟨Regs.sequence_adcConfigureAll adcChannels r nonempty fits valid,
    fun adc mem => Regs.sequence_adcConfigure (valid adc mem) _⟩

/-- A table of two inputs to evaluate the results on: input 4 scaled to millivolts, input 16
scaled and offset. -/
def twoInputs : List AdcT := [⟨4, 3300, 4096, 0⟩, ⟨16, 1650, 4096, -825⟩]

theorem two_inputs_programmed :
    twoInputs ≠ [] ∧ twoInputs.length ≤ 28 ∧ (∀ adc ∈ twoInputs, adc.channel < 32) ∧
    (adcConfigureAll twoInputs resetRegs).sequence = twoInputs.map AdcT.channel ∧
    ∀ adc ∈ twoInputs,
      (adcConfigure adc.channel (adcConfigureAll twoInputs resetRegs)).sequence = [adc.channel] :=
  ⟨by decide, by decide, by decide,
    adcConfigure_programs_sequence twoInputs (by decide) (by decide) (by decide) resetRegs⟩

/-- The scan that `adc_read_all_channels` stores by DMA gives every channel of a table of 1 to 28
inputs what `adc_read_channel` gives it alone, in whatever state that read finds the ADC, and
the scan's status says whether the values were stored. -/
theorem adcReadAllChannels_agrees (adcChannels : List AdcT) (inputs : Inputs) (finished : Bool)
    (s t : State) (nonempty : adcChannels ≠ []) (fits : adcChannels.length ≤ 28)
    (valid : ∀ adc ∈ adcChannels, adc.channel < 32) :
    ((adcReadAllChannels adcChannels inputs finished s).1 = ecSuccess ↔ finished = true) ∧
    (adcReadAllChannels adcChannels inputs finished s).2.1 =
      if finished then some (List.ofFn fun ch => (adcReadChannel adcChannels ch inputs true t).1)
      else none := by
  obtain ⟨status, data⟩ := adcReadAllChannels_result adcChannels inputs finished s nonempty fits valid
  have single : (List.ofFn fun ch => (adcReadChannel adcChannels ch inputs true t).1) =
      adcChannels.map fun adc => adc.scale (inputs.sample adc.channel) := by
    have each : (fun ch => (adcReadChannel adcChannels ch inputs true t).1) =
        fun ch => (adcChannels.get ch).scale (inputs.sample (adcChannels.get ch).channel) :=
      funext fun ch => (adcReadChannel_value adcChannels ch inputs true t
        (valid _ (List.get_mem _ ch.1 ch.2))).trans (if_pos rfl)
    rw [each]
    exact List.ofFn_getElem_eq_map adcChannels fun adc => adc.scale (inputs.sample adc.channel)
  rw [status, data, single]
  cases finished <;> exact ⟨by decide, rfl⟩

/-- Every input reading the middle of the range. -/
def midscale : Inputs := ⟨fun _ => 2048, fun _ => show 2048 < 2 ^ 12 by decide⟩

theorem two_inputs_agree :
    twoInputs ≠ [] ∧ twoInputs.length ≤ 28 ∧ (∀ adc ∈ twoInputs, adc.channel < 32) ∧
    ((adcReadAllChannels twoInputs midscale true resetState).1 = ecSuccess ↔ true = true) ∧
    (adcReadAllChannels twoInputs midscale true resetState).2.1 =
      if true then some (List.ofFn fun ch => (adcReadChannel twoInputs ch midscale true resetState).1)
      else none :=
  ⟨by decide, by decide, by decide,
    adcReadAllChannels_agrees twoInputs midscale true resetState resetState (by decide) (by decide)
      (by decide)⟩

theorem Regs.sequence_length_overflow (pre : List AdcT) (last : AdcT) (r : Regs)
    (full : pre.length = 28) (valid : ∀ adc ∈ pre ++ [last], adc.channel < 32) :
    (adcConfigureAll (pre ++ [last]) r).sequence.length = last.channel + 1 := by
  have scan : (adcConfigureAll (pre ++ [last]) r).cr1.testBit 8 = true := testBit_or_bit _ 8
  have total : regField 5 4 ((adcConfigureAll (pre ++ [last]) r).sqr 1) = last.channel := by
    rw [← Regs.sq_twentyEight]
    show (adcSetChannels 0 (pre ++ [last]) _).sq 28 = _
    rw [adcSetChannels_sq _ valid, if_pos (by simp [full]), List.map_append,
      List.getD_append_right _ _ _ _ (by simp [full])]
    simp [full]
  rw [Regs.sequence, scan, if_pos rfl, total, List.length_map, List.length_range]

/-- `ADC_CH_COUNT` of 29 overflows the sequence registers: the last input is taken for the
sequence length, and when it is below 28 the scan stops short of the 29 halfwords the DMA waits
for, so `adc_read_all_channels` fails whatever the hardware does. -/
theorem adcReadAllChannels_overflow (pre : List AdcT) (last : AdcT) (inputs : Inputs)
    (finished : Bool) (s : State) (full : pre.length = 28)
    (valid : ∀ adc ∈ pre ++ [last], adc.channel < 32) (short : last.channel < 28) :
    (adcConfigureAll (pre ++ [last]) (adcPrepare s).regs).sequence.length = last.channel + 1 ∧
    (adcReadAllChannels (pre ++ [last]) inputs finished s).1 = ecErrorUnknown := by
  have length := Regs.sequence_length_overflow pre last (adcPrepare s).regs full valid
  refine ⟨length, ?_⟩
  have stops : ¬(finished = true ∧ (pre ++ [last]).length ≤
      (((adcConfigureAll (pre ++ [last]) (adcPrepare s).regs).swstart.sequence).map
        inputs.sample).length) := by
    simp only [Regs.swstart_sequence, List.length_map, length, List.length_append, full,
      List.length_singleton]
    omega
  simp only [adcReadAllChannels, dmaTransfer, if_neg stops]

theorem twenty_nine_inputs_fail :
    (List.replicate 28 (⟨0, 1, 1, 0⟩ : AdcT)).length = 28 ∧
    (∀ adc ∈ List.replicate 28 (⟨0, 1, 1, 0⟩ : AdcT) ++ [⟨3, 1, 1, 0⟩], adc.channel < 32) ∧
    (⟨3, 1, 1, 0⟩ : AdcT).channel < 28 ∧
    (adcConfigureAll (List.replicate 28 ⟨0, 1, 1, 0⟩ ++ [⟨3, 1, 1, 0⟩])
      (adcPrepare resetState).regs).sequence.length = (⟨3, 1, 1, 0⟩ : AdcT).channel + 1 ∧
    (adcReadAllChannels (List.replicate 28 ⟨0, 1, 1, 0⟩ ++ [⟨3, 1, 1, 0⟩]) midscale true
      resetState).1 = ecErrorUnknown :=
  ⟨by decide, by decide, by decide,
    adcReadAllChannels_overflow _ _ midscale true resetState (by decide) (by decide) (by decide)⟩

/-! ### Power and clock over runs -/

/-- Between reads: the ADC powered down, its clock not asked for, nothing to restore. -/
def State.Idle (s : State) : Prop :=
  adcPowered s.regs = false ∧ s.moduleClock = false ∧ s.restoreClock = false

theorem adcRelease_idle {s : State} (restore : s.restoreClock = true) : (adcRelease s).Idle := by
  simp only [adcRelease, restore, if_pos]
  by_cases powered : adcPowered s.regs = true
  · simp only [powered, if_pos]
    exact ⟨Nat.zero_testBit 0, rfl, rfl⟩
  · simp only [powered, if_false, Bool.false_eq_true]
    exact ⟨by simpa using powered, rfl, rfl⟩

theorem adcPrepare_restore {s : State} (idle : s.Idle) : (adcPrepare s).restoreClock = true := by
  simp [adcPrepare, idle.1]

theorem adcReadChannel_idle (adcChannels : List AdcT) (ch : Fin adcChannels.length)
    (inputs : Inputs) (ended : Bool) {s : State} (idle : s.Idle) :
    (adcReadChannel adcChannels ch inputs ended s).2.Idle :=
  adcRelease_idle (adcPrepare_restore idle)

theorem adcReadAllChannels_idle (adcChannels : List AdcT) (inputs : Inputs) (finished : Bool)
    {s : State} (idle : s.Idle) : (adcReadAllChannels adcChannels inputs finished s).2.2.Idle := by
  simp only [adcReadAllChannels]
  split <;> exact adcRelease_idle (adcPrepare_restore idle)

/-- A call into the driver: `adc_read_channel` or `adc_read_all_channels`, each under
`adc_lock`, with what the hardware does during it. -/
inductive Request (adcChannels : List AdcT)
  | channel (ch : Fin adcChannels.length) (ended : Bool)
  | all (finished : Bool)

/-- Serving one request. -/
def State.serve (adcChannels : List AdcT) (inputs : Inputs) (s : State) :
    Request adcChannels → State
  | .channel ch ended => (adcReadChannel adcChannels ch inputs ended s).2
  | .all finished => (adcReadAllChannels adcChannels inputs finished s).2.2

/-- Serving requests one after another, as `adc_lock` orders them. -/
def State.run (adcChannels : List AdcT) (inputs : Inputs) :
    State → List (Request adcChannels) → State
  | s, [] => s
  | s, q :: rest => (s.serve adcChannels inputs q).run adcChannels inputs rest

theorem State.Idle.serve {s : State} (idle : s.Idle) (adcChannels : List AdcT) (inputs : Inputs)
    (q : Request adcChannels) : (s.serve adcChannels inputs q).Idle := by
  cases q with
  | channel ch ended => exact adcReadChannel_idle adcChannels ch inputs ended idle
  | all finished => exact adcReadAllChannels_idle adcChannels inputs finished idle

/-- Whatever the callers ask and however the hardware answers, with timeouts and DMA failures
included, the driver leaves the ADC powered down, its clock given back and `restore_clock`
clear after every read. -/
theorem State.run_idle {s : State} (idle : s.Idle) (adcChannels : List AdcT) (inputs : Inputs)
    (requests : List (Request adcChannels)) : (s.run adcChannels inputs requests).Idle := by
  induction requests generalizing s with
  | nil => exact idle
  | cons q rest ih => exact ih (idle.serve adcChannels inputs q)

theorem resetState_idle : resetState.Idle := ⟨rfl, rfl, rfl⟩

theorem reads_from_reset_idle :
    resetState.Idle ∧
    (resetState.run [⟨4, 3300, 4096, 0⟩] midscale
      [.all false, .channel ⟨0, by decide⟩ true, .all true]).Idle :=
  ⟨resetState_idle, State.run_idle resetState_idle _ _ _⟩

end ChromeEc.Stm32.Adc
