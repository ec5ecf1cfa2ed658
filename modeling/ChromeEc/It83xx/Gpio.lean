import ChromeEc.Stm32.Gpio

/-! chip/it83xx/gpio.c: GPIO pins and their wake-up (WKO) interrupts on the IT83xx. Each pin has
a control byte GPCR at `CTRL_BASE(port) + pin`, and `gpio_set_flags_by_mask` sets the direction
and pull of every pin of a mask there. `gpio_irqs[]` names, for each WKO interrupt, its pin and
its bit in the wake-up controller (WUC); `gpio_to_irq` searches it the other way. The table
is written with designated initializers, and `[IT83XX_IRQ_WKO65]` is written twice: the second
(pin F6) replaces the first (pin F5), and WKO66 is left empty. So pin F5 has no interrupt, and
configuring an edge on it reads `gpio_irqs[-1]`. -/
namespace ChromeEc.It83xx.Gpio

open ChromeEc.Stm32.Gpio (Flags GpioInfo)

/-- `EC_SUCCESS` and `EC_ERROR_UNKNOWN` (common.h, not in src/). -/
def ecSuccess : Int := 0
def ecErrorUnknown : Int := 1

/-- The port codes of registers.h (not in src/): `CTRL_BASE(port)` is `port * 8 + 8`, which puts
GPCRA0 at offset 16 for GPIO_A = 1. -/
def gpioA : Nat := 1
def gpioB : Nat := 2
def gpioC : Nat := 3
def gpioD : Nat := 4
def gpioE : Nat := 5
def gpioF : Nat := 6
def gpioG : Nat := 7
def gpioH : Nat := 8
def gpioI : Nat := 9
def gpioJ : Nat := 10

/-- An entry of `gpio_irqs[]`. -/
structure IrqEntry where
  gpioPort : Nat
  gpioMask : Nat
  wucGroup : Nat
  wucMask : Nat
  deriving DecidableEq, Repr

/-- The initializer `[IT83XX_IRQ_WKOn] = {port, (1<<pin), group, (1<<bit)}`. -/
def row (n port pin group bit : Nat) : Nat × IrqEntry := (n, ⟨port, 1 <<< pin, group, 1 <<< bit⟩)

/-- The designated initializers of `gpio_irqs[]`, in the order written, each slot
`IT83XX_IRQ_WKOn` named by `n`. The last, `[IT83XX_IRQ_COUNT-1]`, is all zeros and left out. -/
def gpioIrqInits : List (Nat × IrqEntry) :=
  [
    row 20 gpioD 0 2 0,
    row 21 gpioD 1 2 1,
    row 22 gpioC 4 2 2,
    row 23 gpioC 6 2 3,
    row 24 gpioD 2 2 4,
    row 60 gpioH 0 6 0,
    row 61 gpioH 1 6 1,
    row 62 gpioH 2 6 2,
    row 63 gpioH 3 6 3,
    row 64 gpioF 4 6 4,
    row 65 gpioF 5 6 5,
    row 65 gpioF 6 6 6,
    row 67 gpioF 7 6 7,
    row 70 gpioE 0 7 0,
    row 71 gpioE 1 7 1,
    row 72 gpioE 2 7 2,
    row 73 gpioE 3 7 3,
    row 74 gpioI 4 7 4,
    row 75 gpioI 5 7 5,
    row 76 gpioI 6 7 6,
    row 77 gpioI 7 7 7,
    row 80 gpioA 3 8 0,
    row 81 gpioA 4 8 1,
    row 82 gpioA 5 8 2,
    row 83 gpioA 6 8 3,
    row 84 gpioB 2 8 4,
    row 85 gpioC 0 8 5,
    row 86 gpioC 7 8 6,
    row 87 gpioD 7 8 7,
    row 88 gpioH 4 9 0,
    row 89 gpioH 5 9 1,
    row 90 gpioH 6 9 2,
    row 91 gpioA 0 9 3,
    row 92 gpioA 1 9 4,
    row 93 gpioA 2 9 5,
    row 94 gpioB 4 9 6,
    row 95 gpioC 2 9 7,
    row 96 gpioF 0 10 0,
    row 97 gpioF 1 10 1,
    row 98 gpioF 2 10 2,
    row 99 gpioF 3 10 3,
    row 100 gpioA 7 10 4,
    row 101 gpioB 0 10 5,
    row 102 gpioB 1 10 6,
    row 103 gpioB 3 10 7,
    row 104 gpioB 5 11 0,
    row 105 gpioB 6 11 1,
    row 106 gpioB 7 11 2,
    row 107 gpioC 1 11 3,
    row 108 gpioC 3 11 4,
    row 109 gpioC 5 11 5,
    row 110 gpioD 3 11 6,
    row 111 gpioD 4 11 7,
    row 112 gpioD 5 12 0,
    row 113 gpioD 6 12 1,
    row 114 gpioE 4 12 2,
    row 115 gpioG 0 12 3,
    row 116 gpioG 1 12 4,
    row 117 gpioG 2 12 5,
    row 118 gpioG 6 12 6,
    row 119 gpioI 0 12 7,
    row 120 gpioI 1 13 0,
    row 121 gpioI 2 13 1,
    row 122 gpioI 3 13 2,
    row 128 gpioJ 0 14 0,
    row 129 gpioJ 1 14 1,
    row 130 gpioJ 2 14 2,
    row 131 gpioJ 3 14 3,
    row 132 gpioJ 4 14 4,
    row 133 gpioJ 5 14 5]

/-- `gpio_irqs[IT83XX_IRQ_WKOn]`: as C initializes an array, the last initializer of the slot,
and zeros for a slot with none. -/
def gpioIrqs (n : Nat) : IrqEntry :=
  ((gpioIrqInits.filter (·.1 = n)).getLast?.map (·.2)).getD ⟨0, 0, 0, 0⟩

/-- `gpio_to_irq(port, mask)`, `none` for -1. The IRQs without an initializer have zero entries
and no port code is zero, so the search is over the WKO slots 0-133, in the order of their
numbers; the slots' keys are distinct (`gpioIrqs_keys_distinct`), so the order does not
matter. -/
def gpioToIrq (port mask : Nat) : Option Nat :=
  (List.range 134).find? fun n => (gpioIrqs n).gpioPort = port ∧ (gpioIrqs n).gpioMask = mask

/-- `gpio_irqs[gpio_to_irq(port, mask)]`, the parameters truncated to `uint8_t` as
`gpio_to_irq` takes them; `none` where the index is -1, outside the array. -/
def gpioIrqEntry (port mask : Nat) : Option IrqEntry :=
  (gpioToIrq (port % 256) (mask % 256)).map gpioIrqs

/-- The registers `gpio_set_flags_by_mask` and `__gpio_irq` write: the pins' control bytes GPCR,
by their offset `CTRL_BASE(port) + pin`; GPDR (`IT83XX_GPIO_DATA`) and GPOT of each port; and the
WUC's WUEMR and WUESR of each group (registers.h, not in src/, gives their addresses). -/
structure Regs where
  ctrl : Nat → Nat
  data : Nat → Nat
  gpot : Nat → Nat
  wuemr : Nat → Nat
  wuesr : Nat → Nat

/-- `CTRL_BASE(port)`. -/
def ctrlBase (port : Nat) : Nat := port * 8 + 8

/-- The loop body of `gpio_set_flags_by_mask` for a pin of the mask, in `uint8_t` arithmetic:
input or output in bits 7:6, then pull-up, pull-down or neither in bits 2:1. -/
def ctrlPin (flags : Flags) (v : Nat) : Nat :=
  let v := if flags.output then (v ||| 0x40) &&& (0xff ^^^ 0x80) else (v ||| 0x80) &&& (0xff ^^^ 0x40)
  if flags.pullUp then (v ||| 0x04) &&& (0xff ^^^ 0x02)
  else if flags.pullDown then (v ||| 0x02) &&& (0xff ^^^ 0x04)
  else v &&& (0xff ^^^ 0x06)

/-- The loop over the pins of a mask that `gpio_set_flags_by_mask` (`while (mask_copy > 0)`) and
`gpio_set_alternate_function` (`while (mask > 0)`) both run: from pin `pin`, for at most `fuel`
turns (a `uint32_t` mask needs 32), `body` applied to the control byte of each pin whose bit is
set. -/
def pinLoop (port : Nat) (body : Nat → Nat) : Nat → Nat → Nat → (Nat → Nat) → Nat → Nat
  | 0, _, _, ctrl => ctrl
  | fuel + 1, pin, maskCopy, ctrl =>
    if maskCopy > 0 then
      pinLoop port body fuel (pin + 1) (maskCopy >>> 1)
        (if maskCopy &&& 1 ≠ 0 then
          fun a => if a = ctrlBase port + pin then body (ctrl a) else ctrl a
        else ctrl)
    else ctrl

/-- Or `mask` into WUEMR (falling edge) or clear it (rising edge) for the WUC bit of the line of
`port` and `mask`, reading `gpio_irqs[-1]` (`none`) when there is no such line. -/
def setEdge (falling : Bool) (port mask : Nat) (r : Regs) : Option Regs :=
  (gpioIrqEntry port mask).map fun e =>
    {r with wuemr := fun g => if g = e.wucGroup then
      (if falling then r.wuemr g ||| e.wucMask else r.wuemr g &&& (0xff ^^^ e.wucMask)) else r.wuemr g}

/-- `gpio_set_flags_by_mask` up to its interrupt edges: GPOT, then GPDR for an output, then the
pins' control bytes, in `uint8_t` registers. -/
def setPins (port mask : Nat) (flags : Flags) (r : Regs) : Regs :=
  let gpot := if flags.openDrain then r.gpot port ||| mask else r.gpot port &&& (0xffffffff ^^^ mask)
  let r := {r with gpot := fun p => if p = port then gpot % 256 else r.gpot p}
  let r :=
    if flags.output ∧ flags.high then
      {r with data := fun p => if p = port then (r.data port ||| mask) % 256 else r.data p}
    else if flags.output ∧ flags.low then
      {r with data := fun p => if p = port then (r.data port &&& (0xffffffff ^^^ mask)) % 256 else r.data p}
    else r
  {r with ctrl := pinLoop port (ctrlPin flags) 32 0 mask r.ctrl}

/-- `gpio_set_flags_by_mask(port, mask, flags)`; `none` where it reads outside `gpio_irqs[]`. -/
def gpioSetFlagsByMask (port mask : Nat) (flags : Flags) (r : Regs) : Option Regs :=
  let r := setPins port mask flags r
  let rising := if flags.intRising then setEdge false port mask r else some r
  rising.bind fun r => if flags.intFalling then setEdge true port mask r else some r

/-- The loop body of `gpio_set_alternate_function` for a pin of the mask, in `uint8_t`
arithmetic: bits 7:6 cleared for an alternate function (`func >= 0`), and the pin made an input
otherwise. -/
def altPin (func : Int) (v : Nat) : Nat :=
  if func ≥ 0 then v &&& (0xff ^^^ 0xc0) else (v ||| 0x80) &&& (0xff ^^^ 0x40)

/-- `gpio_set_alternate_function(port, mask, func)`. -/
def gpioSetAlternateFunction (port mask : Nat) (func : Int) (r : Regs) : Regs :=
  {r with ctrl := pinLoop port (altPin func) 32 0 mask r.ctrl}

/-- `gpio_get_level(signal)`. -/
def gpioGetLevel (gpioList : Nat → GpioInfo) (signal : Nat) (r : Regs) : Nat :=
  if r.data (gpioList signal).port &&& (gpioList signal).mask ≠ 0 then 1 else 0

/-- `gpio_set_level(signal, value)`, in the `uint8_t` register GPDR. -/
def gpioSetLevel (gpioList : Nat → GpioInfo) (signal : Nat) (value : Int) (r : Regs) : Regs :=
  let g := gpioList signal
  {r with data := fun p => if p = g.port then
    (if value ≠ 0 then r.data g.port ||| g.mask else r.data g.port &&& (0xffffffff ^^^ g.mask)) % 256
    else r.data p}

/-- `gpio_enable_interrupt(signal)` with the set of enabled IRQs (`task_enable_irq`), named by
WKO number. -/
def gpioEnableInterrupt (gpioList : Nat → GpioInfo) (signal : Nat) (enabled : Nat → Bool) :
    Int × (Nat → Bool) :=
  match gpioToIrq ((gpioList signal).port % 256) ((gpioList signal).mask % 256) with
  | none => (ecErrorUnknown, enabled)
  | some irq => (ecSuccess, fun i => i = irq || enabled i)

/-- `gpio_disable_interrupt(signal)`. -/
def gpioDisableInterrupt (gpioList : Nat → GpioInfo) (signal : Nat) (enabled : Nat → Bool) :
    Int × (Nat → Bool) :=
  match gpioToIrq ((gpioList signal).port % 256) ((gpioList signal).mask % 256) with
  | none => (ecErrorUnknown, enabled)
  | some irq => (ecSuccess, fun i => i ≠ irq && enabled i)

/-- `gpio_interrupt(port, mask)` over the first `gpioCount` signals of `gpio_list`: the signal
whose handler it calls. -/
def gpioInterrupt (gpioList : Nat → GpioInfo) (gpioCount port mask : Nat) : Option Nat :=
  (List.range gpioCount).find? fun i =>
    port = (gpioList i).port ∧ mask &&& (gpioList i).mask ≠ 0 ∧ (gpioList i).irqHandler

/-- `__gpio_irq()` for the WKO interrupt `irq` (IVCT2 less 16): the signal whose handler runs,
and WUESR after the write of the line's WUC bit, which clears it (write-1-to-clear, the IT83xx
datasheet, not in src/). -/
def gpioIrq (gpioList : Nat → GpioInfo) (gpioCount irq : Nat) (r : Regs) : Option Nat × Regs :=
  (gpioInterrupt gpioList gpioCount (gpioIrqs irq).gpioPort (gpioIrqs irq).gpioMask,
    {r with wuesr := fun g => if g = (gpioIrqs irq).wucGroup then
      r.wuesr g &&& (0xff ^^^ (gpioIrqs irq).wucMask) else r.wuesr g})

/-! ### Looking up a pin -/

theorem gpioToIrq_found {port mask n : Nat} (found : gpioToIrq port mask = some n) :
    n < 134 ∧ (gpioIrqs n).gpioPort = port ∧ (gpioIrqs n).gpioMask = mask := by
  have pin := List.find?_some found
  simp only [decide_eq_true_eq] at pin
  exact ⟨List.mem_range.mp (List.mem_of_find?_eq_some found), pin⟩

/-! ### Configuring pins -/

/-- The mode bits of a GPCR byte (the IT83xx datasheet, not in src/): input (bit 7), output
(bit 6), pull-up (bit 2) and pull-down (bit 1). -/
def ctrlMode (v : Nat) : Bool × Bool × Bool × Bool := (v.testBit 7, v.testBit 6, v.testBit 2, v.testBit 1)

/-- The mode bits the flags ask for. -/
def flagsMode (flags : Flags) : Bool × Bool × Bool × Bool :=
  (!flags.output, flags.output, flags.pullUp, !flags.pullUp && flags.pullDown)

private theorem byte_high {c j : Nat} (lt : c < 256) : c.testBit (j + 8) = false :=
  Nat.testBit_lt_two_pow (Nat.lt_of_lt_of_le lt
    (show 2 ^ 8 ≤ 2 ^ (j + 8) from Nat.pow_le_pow_right (by decide) (by omega)))

theorem ctrlPin_testBit (flags : Flags) {v : Nat} (byte : v < 256) (i : Nat) :
    (ctrlPin flags v).testBit i =
      if i = 7 then !flags.output else if i = 6 then flags.output
      else if i = 2 then flags.pullUp else if i = 1 then !flags.pullUp && flags.pullDown
      else v.testBit i := by
  simp only [ctrlPin, apply_ite (Nat.testBit · i), Nat.testBit_and, Nat.testBit_or, Nat.testBit_xor]
  rcases i with _ | _ | _ | _ | _ | _ | _ | _ | j
  case succ.succ.succ.succ.succ.succ.succ.succ =>
    simp (disch := decide) only [byte_high, byte_high byte, Bool.and_false, Bool.or_false,
      Bool.false_and, Bool.false_or, Bool.xor_false, Bool.false_xor, ite_self, Nat.reduceEqDiff,
      if_false]
  all_goals
    generalize v.testBit _ = b
    cases flags.output <;> cases flags.pullUp <;> cases flags.pullDown <;> revert b <;> decide

theorem ctrlPin_spec (flags : Flags) {v : Nat} (byte : v < 256) :
    ctrlMode (ctrlPin flags v) = flagsMode flags ∧
    ∀ i, i ≠ 7 → i ≠ 6 → i ≠ 2 → i ≠ 1 → (ctrlPin flags v).testBit i = v.testBit i := by
  refine ⟨?_, fun i n7 n6 n2 n1 => by simp [ctrlPin_testBit flags byte, n7, n6, n2, n1]⟩
  simp [ctrlMode, flagsMode, ctrlPin_testBit flags byte]

theorem pinLoop_eq (port : Nat) (body : Nat → Nat) (fuel : Nat) : ∀ (pin maskCopy : Nat)
    (ctrl : Nat → Nat), maskCopy < 2 ^ fuel → ∀ a,
    pinLoop port body fuel pin maskCopy ctrl a =
      if ctrlBase port + pin ≤ a ∧ maskCopy.testBit (a - (ctrlBase port + pin)) then
        body (ctrl a) else ctrl a := by
  induction fuel with
  | zero =>
    intro pin maskCopy ctrl lt a
    have zero : maskCopy = 0 := by omega
    simp [pinLoop, zero]
  | succ fuel ih =>
    intro pin maskCopy ctrl lt a
    simp only [pinLoop]
    by_cases more : maskCopy > 0
    · rw [if_pos more, ih (pin + 1) (maskCopy >>> 1) _ (by rw [Nat.shiftRight_one]; omega) a]
      have low : (maskCopy &&& 1 ≠ 0) = (maskCopy.testBit 0 = true) := by
        rw [Nat.and_one_is_mod, Nat.testBit_zero]; simp
      have other : ∀ b ≠ ctrlBase port + pin, (if maskCopy &&& 1 ≠ 0 then
          fun a => if a = ctrlBase port + pin then body (ctrl a) else ctrl a else ctrl) b = ctrl b :=
        fun b ne => by split <;> simp [ne]
      rcases Nat.lt_trichotomy a (ctrlBase port + pin) with below | rfl | above
      · rw [other a below.ne]
        simp [show ¬ctrlBase port + (pin + 1) ≤ a by omega, show ¬ctrlBase port + pin ≤ a by omega]
      · simp only [low]
        by_cases bit : maskCopy.testBit 0 <;> simp [bit]
      · have shifted : (maskCopy >>> 1).testBit (a - (ctrlBase port + (pin + 1))) =
            maskCopy.testBit (a - (ctrlBase port + pin)) := by
          rw [Nat.testBit_shiftRight]; congr 1; omega
        rw [other a above.ne']
        simp [shifted, show ctrlBase port + (pin + 1) ≤ a by omega, show ctrlBase port + pin ≤ a by omega]
    · have zero : maskCopy = 0 := by omega
      simp [more, zero]

theorem setEdge_frame {falling : Bool} {port mask : Nat} {r r' : Regs}
    (mem : r' ∈ setEdge falling port mask r) :
    r'.ctrl = r.ctrl ∧ r'.gpot = r.gpot ∧ r'.data = r.data := by
  obtain ⟨e, -, rfl⟩ := Option.mem_map.mp mem
  exact ⟨rfl, rfl, rfl⟩

theorem setEdge_eq_none (falling : Bool) (port mask : Nat) (r : Regs) :
    setEdge falling port mask r = none ↔ gpioToIrq (port % 256) (mask % 256) = none := by
  simp [setEdge, gpioIrqEntry]

theorem gpioSetFlagsByMask_pins {port mask : Nat} {flags : Flags} {r r' : Regs}
    (mem : r' ∈ gpioSetFlagsByMask port mask flags r) :
    r'.ctrl = (setPins port mask flags r).ctrl ∧ r'.gpot = (setPins port mask flags r).gpot ∧
      r'.data = (setPins port mask flags r).data := by
  simp only [gpioSetFlagsByMask] at mem
  generalize setPins port mask flags r = s at mem ⊢
  obtain ⟨t, rising, falling⟩ := Option.mem_bind_iff.mp mem
  have first : t.ctrl = s.ctrl ∧ t.gpot = s.gpot ∧ t.data = s.data := by
    split at rising
    · exact setEdge_frame rising
    · cases rising; exact ⟨rfl, rfl, rfl⟩
  have second : r'.ctrl = t.ctrl ∧ r'.gpot = t.gpot ∧ r'.data = t.data := by
    split at falling
    · exact setEdge_frame falling
    · cases falling; exact ⟨rfl, rfl, rfl⟩
  exact ⟨second.1.trans first.1, second.2.1.trans first.2.1, second.2.2.trans first.2.2⟩

theorem gpioSetFlagsByMask_outside (port mask : Nat) (flags : Flags) (r : Regs) :
    gpioSetFlagsByMask port mask flags r = none ↔
      (flags.intRising = true ∨ flags.intFalling = true) ∧ gpioToIrq (port % 256) (mask % 256) = none := by
  simp only [gpioSetFlagsByMask]
  generalize setPins port mask flags r = s
  cases found : gpioToIrq (port % 256) (mask % 256) with
  | none =>
    have missing := fun falling r => (setEdge_eq_none falling port mask r).mpr found
    cases flags.intRising <;> cases flags.intFalling <;> simp [missing]
  | some n =>
    have present : ∀ falling r, ∃ r', setEdge falling port mask r = some r' := fun falling r =>
      Option.ne_none_iff_exists'.mp (mt (setEdge_eq_none falling port mask r).mp (by simp [found]))
    obtain ⟨t, first⟩ := present false s
    obtain ⟨u, second⟩ := present true t
    obtain ⟨w, only⟩ := present true s
    cases flags.intRising <;> cases flags.intFalling <;> simp [first, second, only]

private theorem ones_testBit {i : Nat} (lt : i < 32) : (0xffffffff : Nat).testBit i = true := by
  rw [show (0xffffffff : Nat) = 2 ^ 32 - 1 from rfl, Nat.testBit_two_pow_sub_one]
  simpa using lt

private theorem testBit_mod_256 (x i : Nat) : (x % 256).testBit i = (decide (i < 8) && x.testBit i) := by
  rw [show (256 : Nat) = 2 ^ 8 from rfl, Nat.testBit_mod_two_pow]

private theorem byteOr_testBit {x m b : Nat} (lt : b < 8) (bit : m.testBit b = true) :
    ((x ||| m) % 256).testBit b = true := by
  simp [testBit_mod_256, lt, Nat.testBit_or, bit]

private theorem byteClear_testBit {x m b : Nat} (bit : m.testBit b = true) :
    ((x &&& (0xffffffff ^^^ m)) % 256).testBit b = false := by
  by_cases lt : b < 8
  · simp [testBit_mod_256, Nat.testBit_and, Nat.testBit_xor, bit, ones_testBit (by omega : b < 32)]
  · simp [testBit_mod_256, lt]

theorem setPins_ctrl (port mask : Nat) (flags : Flags) (r : Regs) :
    (setPins port mask flags r).ctrl = pinLoop port (ctrlPin flags) 32 0 mask r.ctrl := by
  simp only [setPins]
  split_ifs <;> rfl

theorem setPins_gpot (port mask : Nat) (flags : Flags) (r : Regs) :
    (setPins port mask flags r).gpot port =
      (if flags.openDrain then r.gpot port ||| mask else r.gpot port &&& (0xffffffff ^^^ mask)) % 256 := by
  simp only [setPins]
  split_ifs <;> simp

theorem setPins_data (port mask : Nat) (flags : Flags) (r : Regs) :
    (setPins port mask flags r).data port =
      if flags.output ∧ flags.high then (r.data port ||| mask) % 256
      else if flags.output ∧ flags.low then (r.data port &&& (0xffffffff ^^^ mask)) % 256
      else r.data port := by
  simp only [setPins]
  split_ifs <;> simp

/-- What configuring the pins of `mask` on `port` with `flags` means: each pin of the mask,
counted from `CTRL_BASE(port)`, has the flags' mode bits in its control byte and keeps the other
bits, every other control byte is unchanged, and the pins of the port's first eight have the
flags' open-drain setting and, for an output given a level, that level. -/
structure PinsConfigured (port mask : Nat) (flags : Flags) (r r' : Regs) : Prop where
  mode : ∀ pin, mask.testBit pin = true → r.ctrl (ctrlBase port + pin) < 256 →
    ctrlMode (r'.ctrl (ctrlBase port + pin)) = flagsMode flags
  kept : ∀ pin, mask.testBit pin = true → r.ctrl (ctrlBase port + pin) < 256 →
    ∀ i, i ≠ 7 → i ≠ 6 → i ≠ 2 → i ≠ 1 →
      (r'.ctrl (ctrlBase port + pin)).testBit i = (r.ctrl (ctrlBase port + pin)).testBit i
  others : ∀ a, (∀ pin, mask.testBit pin = true → a ≠ ctrlBase port + pin) → r'.ctrl a = r.ctrl a
  drain : ∀ b < 8, mask.testBit b = true → (r'.gpot port).testBit b = flags.openDrain
  level : flags.output = true → (flags.high = true ∨ flags.low = true) →
    ∀ b < 8, mask.testBit b = true → (r'.data port).testBit b = flags.high

theorem setPins_configures (port : Nat) {mask : Nat} (uint : mask < 2 ^ 32) (flags : Flags)
    (r : Regs) : PinsConfigured port mask flags r (setPins port mask flags r) := by
  have ctrl := pinLoop_eq port (ctrlPin flags) 32 0 mask r.ctrl uint
  simp only [Nat.add_zero] at ctrl
  refine ⟨fun pin bit byte => ?_, fun pin bit byte => ?_, fun a apart => ?_, fun b lt bit => ?_,
    fun output given b lt bit => ?_⟩
  · rw [setPins_ctrl, ctrl, if_pos ⟨Nat.le_add_right _ _, by simpa using bit⟩]
    exact (ctrlPin_spec flags byte).1
  · rw [setPins_ctrl, ctrl, if_pos ⟨Nat.le_add_right _ _, by simpa using bit⟩]
    exact (ctrlPin_spec flags byte).2
  · rw [setPins_ctrl, ctrl, if_neg]
    rintro ⟨le, bit⟩
    exact apart _ bit (by omega)
  · rw [setPins_gpot]
    cases flags.openDrain
    · exact byteClear_testBit bit
    · exact byteOr_testBit lt bit
  · rw [setPins_data]
    by_cases high : flags.high = true
    · simp [output, high, byteOr_testBit lt bit]
    · have low : flags.low = true := by simpa [high] using given
      simp [output, high, low, byteClear_testBit bit]

theorem gpioSetFlagsByMask_pinsConfigured (port : Nat) {mask : Nat} (uint : mask < 2 ^ 32)
    (flags : Flags) (r : Regs) :
    ∀ r' ∈ gpioSetFlagsByMask port mask flags r, PinsConfigured port mask flags r r' := by
  intro r' mem
  obtain ⟨ctrl, gpot, data⟩ := gpioSetFlagsByMask_pins mem
  have pins := setPins_configures port uint flags r
  exact ⟨by rw [ctrl]; exact pins.mode, by rw [ctrl]; exact pins.kept, by rw [ctrl]; exact pins.others,
    by rw [gpot]; exact pins.drain, by rw [data]; exact pins.level⟩

/-- The whole of `gpio_set_flags_by_mask` on a `uint32_t` mask: it reads outside `gpio_irqs[]`
exactly when asked for an edge on a pin no WKO line has, and otherwise configures the pins of
the mask (`PinsConfigured`). -/
theorem gpioSetFlagsByMask_spec (port : Nat) {mask : Nat} (uint : mask < 2 ^ 32) (flags : Flags)
    (r : Regs) :
    (gpioSetFlagsByMask port mask flags r = none ↔
      (flags.intRising = true ∨ flags.intFalling = true) ∧ gpioToIrq (port % 256) (mask % 256) = none) ∧
    ∀ r' ∈ gpioSetFlagsByMask port mask flags r, PinsConfigured port mask flags r r' :=
  ⟨gpioSetFlagsByMask_outside port mask flags r, gpioSetFlagsByMask_pinsConfigured port uint flags r⟩

/-- Registers all zero. -/
def clearedRegs : Regs := ⟨fun _ => 0, fun _ => 0, fun _ => 0, fun _ => 0, fun _ => 0⟩

/-- Pins A0 and A1 as pulled-up inputs with a falling edge: A0 is on WKO91, A1 on WKO92, but
the edge is looked up for the mask `0x03` as a whole, which no line has. -/
theorem pins_a0_a1_edge_outside : (0x03 : Nat) < 2 ^ 32 ∧
    ((gpioSetFlagsByMask gpioA 0x03 {pullUp := true, intFalling := true} clearedRegs = none ↔
      (false = true ∨ true = true) ∧ gpioToIrq (gpioA % 256) (0x03 % 256) = none) ∧
    ∀ r' ∈ gpioSetFlagsByMask gpioA 0x03 {pullUp := true, intFalling := true} clearedRegs,
      PinsConfigured gpioA 0x03 {pullUp := true, intFalling := true} clearedRegs r') :=
  ⟨by decide, gpioSetFlagsByMask_spec gpioA (by decide) {pullUp := true, intFalling := true} clearedRegs⟩

/-! ### Interrupts -/

theorem gpioInterrupt_eq_some (gpioList : Nat → GpioInfo) {gpioCount port mask signal : Nat} :
    gpioInterrupt gpioList gpioCount port mask = some signal ↔
      signal < gpioCount ∧ (port = (gpioList signal).port ∧ mask &&& (gpioList signal).mask ≠ 0 ∧
        (gpioList signal).irqHandler = true) ∧
      ∀ i < signal, ¬(port = (gpioList i).port ∧ mask &&& (gpioList i).mask ≠ 0 ∧
        (gpioList i).irqHandler = true) := by
  simp only [gpioInterrupt, List.find?_range_eq_some, decide_eq_true_eq, List.mem_range,
    Bool.not_eq_true', decide_eq_false_iff_not]
  tauto

/-- A signal of one pin that is the first of `gpio_list` with a handler on that pin has its
interrupt enabled by `gpio_enable_interrupt` exactly when a WKO line has the pin; the line is
then enabled, and `__gpio_irq` on it calls the signal's handler. -/
theorem gpioEnableInterrupt_dispatches (gpioList : Nat → GpioInfo) {gpioCount signal : Nat}
    (enabled : Nat → Bool) (r : Regs) (listed : signal < gpioCount)
    (handler : (gpioList signal).irqHandler = true)
    (byte : (gpioList signal).port < 256 ∧ 0 < (gpioList signal).mask ∧ (gpioList signal).mask < 256)
    (first : ∀ i < signal, (gpioList i).port = (gpioList signal).port →
      (gpioList signal).mask &&& (gpioList i).mask ≠ 0 → (gpioList i).irqHandler = false) :
    ((gpioEnableInterrupt gpioList signal enabled).1 = ecSuccess ↔
      ∃ n, gpioToIrq (gpioList signal).port (gpioList signal).mask = some n) ∧
    ∀ n, gpioToIrq (gpioList signal).port (gpioList signal).mask = some n →
      (gpioEnableInterrupt gpioList signal enabled).2 n = true ∧
      (gpioIrq gpioList gpioCount n r).1 = some signal := by
  obtain ⟨port, pos, mask⟩ := byte
  have truncated : gpioToIrq ((gpioList signal).port % 256) ((gpioList signal).mask % 256) =
      gpioToIrq (gpioList signal).port (gpioList signal).mask := by
    rw [Nat.mod_eq_of_lt port, Nat.mod_eq_of_lt mask]
  refine ⟨?_, fun n found => ?_⟩
  · simp only [gpioEnableInterrupt, truncated]
    cases gpioToIrq (gpioList signal).port (gpioList signal).mask <;> simp [ecSuccess, ecErrorUnknown]
  · obtain ⟨-, linePort, lineMask⟩ := gpioToIrq_found found
    refine ⟨by simp [gpioEnableInterrupt, truncated, found], ?_⟩
    simp only [gpioIrq, linePort, lineMask]
    refine (gpioInterrupt_eq_some gpioList).mpr ⟨listed, ⟨rfl, by simp [Nat.and_self]; omega, handler⟩, ?_⟩
    rintro i lt ⟨samePort, overlap, irqHandler⟩
    simp [first i lt samePort.symm overlap] at irqHandler

/-- A board's `gpio_list` whose first signal is a switch on pin A3, which is on WKO80. -/
def switchList : Nat → GpioInfo := fun _ => ⟨gpioA, 1 <<< 3, true⟩

theorem switch_a3_dispatches :
    ((gpioEnableInterrupt switchList 0 fun _ => false).1 = ecSuccess ↔
      ∃ n, gpioToIrq (switchList 0).port (switchList 0).mask = some n) ∧
    ∀ n, gpioToIrq (switchList 0).port (switchList 0).mask = some n →
      (gpioEnableInterrupt switchList 0 fun _ => false).2 n = true ∧
      (gpioIrq switchList 1 n clearedRegs).1 = some 0 :=
  gpioEnableInterrupt_dispatches switchList _ clearedRegs (by decide) rfl (by decide) (by decide)

/-! ### Levels -/

/-- `gpio_get_level` after `gpio_set_level` reads back the level written when the signal has a
pin among GPDR's eight bits; a signal whose mask has none there reads 0 whatever is written. -/
theorem gpioGetLevel_gpioSetLevel (gpioList : Nat → GpioInfo) (signal : Nat) (value : Int)
    (r : Regs) :
    gpioGetLevel gpioList signal (gpioSetLevel gpioList signal value r) =
      if value ≠ 0 ∧ (gpioList signal).mask % 256 ≠ 0 then 1 else 0 := by
  simp only [gpioGetLevel, gpioSetLevel, if_true]
  generalize r.data (gpioList signal).port = d
  generalize (gpioList signal).mask = m
  by_cases set : value ≠ 0
  · have read : (d ||| m) % 256 &&& m = m % 256 := Nat.eq_of_testBit_eq fun i => by
      simp only [Nat.testBit_and, testBit_mod_256, Nat.testBit_or]
      cases m.testBit i <;> simp
    simp [set, read]
  · have read : (d &&& (0xffffffff ^^^ m)) % 256 &&& m = 0 := Nat.eq_of_testBit_eq fun i => by
      simp only [Nat.testBit_and, testBit_mod_256, Nat.testBit_xor, Nat.zero_testBit]
      cases m.testBit i <;> simp
      exact fun lt _ => ones_testBit (by omega)
    simp [set, read]

private theorem byteUpdate_and {d m m' : Nat} (byte : d < 256) (disjoint : m &&& m' = 0)
    (c : Prop) [Decidable c] :
    (if c then d ||| m else d &&& (0xffffffff ^^^ m)) % 256 &&& m' = d &&& m' := by
  apply Nat.eq_of_testBit_eq
  intro i
  have apart : (m.testBit i && m'.testBit i) = false := by
    simpa [Nat.testBit_and] using congrArg (Nat.testBit · i) disjoint
  by_cases lt : i < 8
  · have ones := ones_testBit (show i < 32 by omega)
    split <;>
      simp only [Nat.testBit_and, Nat.testBit_or, Nat.testBit_xor, testBit_mod_256, lt, ones,
        decide_True, Bool.true_and] <;>
      revert apart <;> cases m.testBit i <;> cases m'.testBit i <;> cases d.testBit i <;> decide
  · obtain ⟨j, rfl⟩ : ∃ j, i = j + 8 := ⟨i - 8, by omega⟩
    simp [Nat.testBit_and, testBit_mod_256, byte_high byte]

theorem gpioSetLevel_other (gpioList : Nat → GpioInfo) {signal other : Nat} (value : Int)
    {r : Regs} (apart : (gpioList signal).port ≠ (gpioList other).port ∨
      (gpioList signal).mask &&& (gpioList other).mask = 0)
    (byte : r.data (gpioList other).port < 256) :
    gpioGetLevel gpioList other (gpioSetLevel gpioList signal value r) =
      gpioGetLevel gpioList other r := by
  simp only [gpioGetLevel, gpioSetLevel]
  by_cases same : (gpioList other).port = (gpioList signal).port
  · have disjoint := apart.resolve_left (by rw [same]; simp)
    rw [same] at byte
    simp only [same, eq_self_iff_true, if_true, byteUpdate_and byte disjoint]
  · simp only [same, if_false]

/-! ### Alternate functions -/

theorem altPin_testBit (func : Int) {v : Nat} (byte : v < 256) (i : Nat) :
    (altPin func v).testBit i =
      if i = 7 then decide (func < 0) else if i = 6 then false else v.testBit i := by
  have sign : func ≥ 0 ∧ decide (func < 0) = false ∨ ¬func ≥ 0 ∧ decide (func < 0) = true := by
    by_cases nonneg : func ≥ 0 <;> simp [nonneg]
    omega
  simp only [altPin, apply_ite (Nat.testBit · i), Nat.testBit_and, Nat.testBit_or, Nat.testBit_xor]
  rcases i with _ | _ | _ | _ | _ | _ | _ | _ | j
  case succ.succ.succ.succ.succ.succ.succ.succ =>
    simp (disch := decide) only [byte_high, byte_high byte, Bool.and_false, Bool.or_false,
      Bool.false_and, Bool.false_or, Bool.xor_false, Bool.false_xor, ite_self, Nat.reduceEqDiff,
      if_false]
  all_goals
    generalize v.testBit _ = b
    rcases sign with ⟨nonneg, neg⟩ | ⟨nonneg, neg⟩ <;> simp only [nonneg, neg, if_true, if_false] <;>
      revert b <;> decide

theorem gpioSetAlternateFunction_ctrl (port : Nat) {mask : Nat} (uint : mask < 2 ^ 32)
    (func : Int) (r : Regs) (a : Nat) (byte : r.ctrl a < 256) :
    ∀ i, ((gpioSetAlternateFunction port mask func r).ctrl a).testBit i =
      if ctrlBase port ≤ a ∧ mask.testBit (a - ctrlBase port) then
        (if i = 7 then decide (func < 0) else if i = 6 then false else (r.ctrl a).testBit i)
      else (r.ctrl a).testBit i := by
  intro i
  simp only [gpioSetAlternateFunction]
  rw [pinLoop_eq port _ 32 0 mask r.ctrl uint a, Nat.add_zero]
  split
  · exact altPin_testBit func byte i
  · rfl

end ChromeEc.It83xx.Gpio
