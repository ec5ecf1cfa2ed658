import Mathlib.Data.Nat.Bitwise
import Mathlib.Data.List.Nodup
import ChromeEc.Stm32.Registers

/-! chip/stm32/gpio-stm32f.c: pin configuration on the STM32F1. Each pin has four bits in
GPIOx_CRL (pins 0-7) or GPIOx_CRH (pins 8-15), and `gpio_config_info` builds the masks of a
pin's bits by raising the pin mask to the fourth power. For a mask of one pin this is the pin's
field, and `gpio_set_flags_by_mask` writes exactly the mode the flags ask for into it, with the
pull direction or the output level in GPIOx_ODR. For a mask of two adjacent pins the fourth
power carries into the next field: both pins are configured, and the MODE bits of the pin after
them, which the mask does not name, are cleared. -/
namespace ChromeEc.Stm32.Gpio

/-- The flags of gpio.h (not in src/) that `gpio_set_flags_by_mask` tests, one field for each
`flags & GPIO_...`; a flag not given is clear. -/
structure Flags where
  output : Bool := false
  openDrain : Bool := false
  analog : Bool := false
  pullUp : Bool := false
  pullDown : Bool := false
  high : Bool := false
  low : Bool := false
  intRising : Bool := false
  intFalling : Bool := false
  intLow : Bool := false
  intHigh : Bool := false
  deriving DecidableEq, Repr

/-- `struct port_config`: the configuration register of a mask, and the MODE and CNF bits of its
pins there. -/
@[ext] structure PortConfig where
  addr : Nat
  mode : Nat
  cnf : Nat
  deriving DecidableEq, Repr

/-- `gpio_config_info(port, mask, &addr, &mode, &cnf)`, in `uint32_t` arithmetic. -/
def gpioConfigInfo (port mask : Nat) : PortConfig :=
  let mode := if mask &&& 0xff ≠ 0 then mask else mask >>> 8
  let mode := mode * mode * mode * mode % 2 ^ 32
  let mode := (mode ||| mode <<< 1) % 2 ^ 32
  { addr := if mask &&& 0xff ≠ 0 then port else port + 0x04
    mode
    cnf := (mode <<< 2) % 2 ^ 32 }

/-- The registers `gpio_set_flags_by_mask` reads and writes: the words at each address (`REG32`,
of which it uses GPIOx_CRL and GPIOx_CRH), GPIOx_ODR of each port, and EXTI_RTSR and
EXTI_FTSR. -/
structure Regs where
  word : Nat → Nat
  odr : Nat → Nat
  rtsr : Nat
  ftsr : Nat

/-- `REG32(addr) = value`. -/
def Regs.write (addr value : Nat) (r : Regs) : Regs :=
  {r with word := fun a => if a = addr then value else r.word a}

/-- `STM32_GPIO_BSRR(port) = value` (the register is described in RM0041, not in src/): bits 0-15
set pins of GPIOx_ODR and bits 16-31 reset them, a set winning over a reset. -/
def Regs.bsrr (port value : Nat) (r : Regs) : Regs :=
  {r with odr := fun p => if p = port
    then r.odr p &&& (0xffff ^^^ (value >>> 16 &&& 0xffff)) ||| value &&& 0xffff else r.odr p}

/-- The first if-chain of `gpio_set_flags_by_mask`, on the flags: `mask`, the configuration word
with the pins' bits cleared, after the bits of the mode are set, and the registers after the
GPIOx_BSRR write that selects the pull resistor of an input. -/
def setMode (port pmask : Nat) (flags : Flags) (c : PortConfig) (mask : Nat) (r : Regs) :
    Nat × Regs :=
  if flags.output then
    (if flags.openDrain then mask ||| 0x11111111 &&& c.mode ||| 0x44444444 &&& c.cnf
      else mask ||| 0x11111111 &&& c.mode, r)
  else if flags.analog then (mask, r)
  else if flags.pullUp then (mask ||| 0x88888888 &&& c.cnf, r.bsrr port pmask)
  else if flags.pullDown then (mask ||| 0x88888888 &&& c.cnf, r.bsrr port (pmask <<< 16 % 2 ^ 32))
  else (mask ||| 0x44444444 &&& c.cnf, r)

/-- The second if-chain of `gpio_set_flags_by_mask`: an output's level, set through GPIOx_BSRR
once the configuration word is written. -/
def outputLevel (port pmask : Nat) (flags : Flags) (r : Regs) : Regs :=
  if flags.output then
    if flags.high then r.bsrr port pmask
    else if flags.low then r.bsrr port (pmask <<< 16 % 2 ^ 32) else r
  else r

/-- `gpio_set_flags_by_mask(port, pmask, flags)`. `none` is the failed
`ASSERT(!(flags & (GPIO_INT_F_LOW | GPIO_INT_F_HIGH)))`, after which the EC stops. -/
def gpioSetFlagsByMask (port pmask : Nat) (flags : Flags) (r : Regs) : Option Regs :=
  let c := gpioConfigInfo port pmask
  let set := setMode port pmask flags c (r.word c.addr &&& (0xffffffff ^^^ (c.cnf ||| c.mode))) r
  let r := outputLevel port pmask flags (set.2.write c.addr set.1)
  if flags.intLow || flags.intHigh then none
  else some {r with
    rtsr := if flags.intRising then r.rtsr ||| pmask else r.rtsr
    ftsr := if flags.intFalling then r.ftsr ||| pmask else r.ftsr}

/-! ### What a pin's four bits mean -/

/-- Pin `pin`'s four bits in a GPIOx_CRL or GPIOx_CRH word: MODE in bits 0-1, CNF in bits 2-3. -/
def pinField (word pin : Nat) : Nat := (word >>> (4 * pin)) &&& 0xf

/-- The level `flags` ask GPIOx_ODR to hold for the pins: an output's level, or the direction of
an input's pull resistor; `none` leaves GPIOx_ODR as it is. -/
def Flags.level (flags : Flags) : Option Bool :=
  if flags.output then (if flags.high then some true else if flags.low then some false else none)
  else if flags.analog then none
  else if flags.pullUp then some true
  else if flags.pullDown then some false else none

@[simp] theorem Regs.write_odr (r : Regs) (addr value : Nat) : (r.write addr value).odr = r.odr := rfl
@[simp] theorem Regs.bsrr_word (r : Regs) (port value : Nat) : (r.bsrr port value).word = r.word := rfl
@[simp] theorem Regs.bsrr_rtsr (r : Regs) (port value : Nat) : (r.bsrr port value).rtsr = r.rtsr := rfl
@[simp] theorem Regs.bsrr_ftsr (r : Regs) (port value : Nat) : (r.bsrr port value).ftsr = r.ftsr := rfl

theorem pinField_eq_regField (word pin : Nat) : pinField word pin = regField 4 pin word :=
  Nat.and_pow_two_sub_one_eq_mod _ 4

theorem pinField_replace (old : Nat) {i j v : Nat} (iLt : i < 8) (vLt : v < 16) :
    pinField (old &&& (0xffffffff ^^^ 0xf <<< (4 * j)) ||| v <<< (4 * j)) i =
      if i = j then v else pinField old i := by
  simp only [pinField_eq_regField]
  exact regField_replace old (by omega) vLt

/-- The registers after reset (RM0041): every pin a floating input, GPIOx_ODR and the EXTI edge
registers clear. -/
def resetRegs : Regs := ⟨fun _ => 0x44444444, fun _ => 0, 0, 0⟩

@[simp] theorem pinField_and (a b k : Nat) : pinField (a &&& b) k = pinField a k &&& pinField b k := by
  apply Nat.eq_of_testBit_eq
  intro i
  simp only [pinField, Nat.testBit_and, Nat.testBit_shiftRight]
  cases a.testBit (4 * k + i) <;> cases (0xf : Nat).testBit i <;> simp

@[simp] theorem pinField_or (a b k : Nat) : pinField (a ||| b) k = pinField a k ||| pinField b k := by
  apply Nat.eq_of_testBit_eq
  intro i
  simp only [pinField, Nat.testBit_and, Nat.testBit_or, Nat.testBit_shiftRight]
  cases a.testBit (4 * k + i) <;> cases (0xf : Nat).testBit i <;> simp

@[simp] theorem pinField_and_fifteen (word k : Nat) : pinField word k &&& 0xf = pinField word k := by
  rw [pinField, Nat.and_assoc, Nat.and_self]

/-- Pin 4, a push-pull output, becomes an analog input when pins 2 and 3 are made outputs. -/
example : (gpioSetFlagsByMask 0x40010800 (3 <<< 2) {output := true}
    {resetRegs with word := fun _ => 0x44414444}).map (fun r => pinField (r.word 0x40010800) 4) =
      some 0 := by decide

/-! ### External interrupts -/

/-- `STM32_GPIOA_BASE` (registers.h, not in src/), and `EC_SUCCESS` and `EC_ERROR_INVAL` (common.h,
not in src/). -/
def stm32GpioaBase : Nat := 0x40010800
def ecSuccess : Int := 0
def ecErrorInval : Int := 5

/-- An entry of `gpio_list` (board files, not in src/): the base address of its port, its pin
mask, and whether it has an `irq_handler`. Its name, which only a console message prints, is
left out. -/
structure GpioInfo where
  port : Nat
  mask : Nat
  irqHandler : Bool

/-- What `gpio_enable_interrupt` and `gpio_interrupt` keep: `exti_events`, the signal each EXTI
line dispatches to (`none` for NULL), and AFIO_EXTICR1-4, EXTI_IMR and EXTI_PR. -/
structure Exti where
  events : Nat → Option Nat
  exticr : Nat → Nat
  imr : Nat
  pr : Nat

/-- `gpio_enable_interrupt(signal)`. `31 - __builtin_clz(g->mask)`, the index of the highest set
bit of a nonzero 32-bit mask, is its `Nat.log2`. -/
def gpioEnableInterrupt (gpioList : Nat → GpioInfo) (signal : Nat) (e : Exti) : Int × Exti :=
  let g := gpioList signal
  if g.mask = 0 ∨ g.irqHandler = false then (ecErrorInval, e)
  else
    let bit := Nat.log2 g.mask
    let group := bit / 4
    let shift := bit % 4 * 4
    let bank := (g.port + 2 ^ 32 - stm32GpioaBase) % 2 ^ 32 / 0x400
    (ecSuccess,
      { events := fun b => if b = bit then some signal else e.events b
        exticr := fun n => if n = group
          then e.exticr group &&& (0xffffffff ^^^ 0xf <<< shift) ||| (bank <<< shift) % 2 ^ 32
          else e.exticr n
        imr := e.imr ||| g.mask
        pr := e.pr })

/-- The handler an EXTI line calls: the signal `exti_events[bit]` names, if it has an
`irq_handler`. -/
def lineHandler (gpioList : Nat → GpioInfo) (events : Nat → Option Nat) (bit : Nat) : Option Nat :=
  (events bit).filter fun s => (gpioList s).irqHandler

/-- The loop of `gpio_interrupt` over `pending`, one turn for each of its set bits, so at most 16:
`get_next_bit(&pending)` (common/util.c, not in src/) takes the highest set bit,
`31 - __builtin_clz(*mask)`, and clears it, and the line's handler is called. The result lists
the signals whose handlers are called, in order. -/
def dispatch (gpioList : Nat → GpioInfo) (events : Nat → Option Nat) : Nat → Nat → List Nat
  | 0, _ => []
  | fuel + 1, pending =>
    if pending = 0 then []
    else
      let bit := Nat.log2 pending
      (lineHandler gpioList events bit).toList ++
        dispatch gpioList events fuel (pending &&& (0xffffffff ^^^ 1 <<< bit))

/-- `gpio_interrupt()`: the pending EXTI lines 0-15 are acknowledged by writing them back to
EXTI_PR, where a written 1 clears its bit (RM0041, not in src/), and each one's handler is
called. -/
def gpioInterrupt (gpioList : Nat → GpioInfo) (e : Exti) : List Nat × Exti :=
  let pending := e.pr &&& 0xffff
  (dispatch gpioList e.events 16 pending, {e with pr := e.pr &&& (0xffffffff ^^^ pending)})

/-- The lines below `n` set in `pending`, highest first: the order in which a plain scan from the
top would visit them. -/
def setLines (n pending : Nat) : List Nat := (List.range n).reverse.filter pending.testBit

theorem setLines_succ (n pending : Nat) :
    setLines (n + 1) pending = if pending.testBit n then n :: setLines n pending else setLines n pending := by
  simp [setLines, List.range_succ, List.filter_cons]

theorem setLines_congr {n p q : Nat} (same : ∀ b < n, p.testBit b = q.testBit b) :
    setLines n p = setLines n q :=
  List.filter_congr fun b mem => same b (List.mem_range.mp (List.mem_reverse.mp mem))

private theorem word_testBit : ∀ b < 32, (0xffffffff : Nat).testBit b = true := by decide

theorem clearTop_testBit {p : Nat} (lt : p < 2 ^ 32) (b : Nat) :
    (p &&& (0xffffffff ^^^ 1 <<< Nat.log2 p)).testBit b = (p.testBit b && !decide (b = Nat.log2 p)) := by
  by_cases small : b < 32
  · simp [word_testBit b small, Nat.one_shiftLeft, Nat.testBit_two_pow, @eq_comm _ (Nat.log2 p)]
  · have : p.testBit b = false :=
      Nat.testBit_lt_two_pow (Nat.lt_of_lt_of_le lt (Nat.pow_le_pow_right Nat.zero_lt_two (by omega)))
    simp [this]

theorem testBit_log2 {p : Nat} (ne : p ≠ 0) : p.testBit (Nat.log2 p) = true := by
  have low := Nat.log2_self_le ne
  have high := (Nat.lt_log2_self (n := p))
  rw [Nat.testBit_to_div_mod, Nat.div_eq_of_lt_le (by rw [Nat.one_mul]; exact low)
    (by rw [Nat.pow_succ] at high; omega)]
  rfl

theorem testBit_above_log2 {p b : Nat} (above : Nat.log2 p < b) : p.testBit b = false :=
  Nat.testBit_lt_two_pow (Nat.lt_of_lt_of_le Nat.lt_log2_self (Nat.pow_le_pow_right Nat.zero_lt_two above))

theorem clearTop_lt {p : Nat} (lt : p < 2 ^ 32) :
    p &&& (0xffffffff ^^^ 1 <<< Nat.log2 p) < 2 ^ Nat.log2 p := by
  apply Nat.lt_pow_two_of_testBit
  intro b above
  rw [clearTop_testBit lt]
  rcases Nat.eq_or_lt_of_le above with same | above
  · simp [same]
  · simp [testBit_above_log2 above]

theorem setLines_top {n p : Nat} (ne : p ≠ 0) (lt : p < 2 ^ n) (word : n ≤ 32) :
    setLines n p = Nat.log2 p :: setLines n (p &&& (0xffffffff ^^^ 1 <<< Nat.log2 p)) := by
  have lt32 : p < 2 ^ 32 := Nat.lt_of_lt_of_le lt (Nat.pow_le_pow_right Nat.zero_lt_two word)
  induction n with
  | zero => omega
  | succ n ih =>
    have below := (Nat.log2_lt ne).mpr lt
    have restTop : (p &&& (0xffffffff ^^^ 1 <<< Nat.log2 p)).testBit n = false :=
      Nat.testBit_lt_two_pow (Nat.lt_of_lt_of_le (clearTop_lt lt32)
        (Nat.pow_le_pow_right Nat.zero_lt_two (by omega)))
    rw [setLines_succ, setLines_succ, restTop]
    by_cases top : Nat.log2 p = n
    · rw [← top, testBit_log2 ne, if_pos rfl, if_neg Bool.false_ne_true]
      exact congrArg _ (setLines_congr fun b lt => by simp [clearTop_testBit lt32, Nat.ne_of_lt lt])
    · have lower : Nat.log2 p < n := by omega
      rw [if_neg (by rw [testBit_above_log2 lower]; exact Bool.false_ne_true), if_neg Bool.false_ne_true]
      exact ih ((Nat.log2_lt ne).mp lower) (by omega)

theorem dispatch_setLines (gpioList : Nat → GpioInfo) (events : Nat → Option Nat) {fuel n : Nat}
    (enough : fuel ≤ n) (word : n ≤ 32) {pending : Nat} (lt : pending < 2 ^ fuel) :
    dispatch gpioList events fuel pending =
      (setLines n pending).filterMap (lineHandler gpioList events) := by
  induction fuel generalizing pending with
  | zero =>
    obtain rfl : pending = 0 := by omega
    simp [dispatch, setLines]
  | succ fuel ih =>
    by_cases zero : pending = 0
    · subst zero; simp [dispatch, setLines]
    have below := (Nat.log2_lt zero).mpr lt
    have lt32 : pending < 2 ^ 32 :=
      Nat.lt_of_lt_of_le lt (Nat.pow_le_pow_right Nat.zero_lt_two (by omega))
    rw [dispatch, if_neg zero]
    dsimp only
    rw [setLines_top zero (Nat.lt_of_lt_of_le lt
      (Nat.pow_le_pow_right Nat.zero_lt_two enough)) word, ih (by omega) (Nat.lt_of_lt_of_le
      (clearTop_lt lt32) (Nat.pow_le_pow_right Nat.zero_lt_two (by omega)))]
    cases h : lineHandler gpioList events (Nat.log2 pending) <;> simp [List.filterMap_cons, h]

private theorem halfword_testBit : ∀ b < 32, (0xffff : Nat).testBit b = decide (b < 16) := by decide

theorem gpioInterrupt_calls (gpioList : Nat → GpioInfo) (e : Exti) :
    (gpioInterrupt gpioList e).1 = (setLines 16 e.pr).filterMap (lineHandler gpioList e.events) := by
  rw [gpioInterrupt, dispatch_setLines gpioList e.events (Nat.le_refl 16) (by decide)
    (Nat.and_lt_two_pow _ (by decide : 0xffff < 2 ^ 16))]
  exact congrArg _ (setLines_congr fun b lt => by simp [halfword_testBit b (by omega), lt])

theorem gpioInterrupt_acknowledges (gpioList : Nat → GpioInfo) (e : Exti) {b : Nat} (lt : b < 32) :
    (gpioInterrupt gpioList e).2.pr.testBit b = (e.pr.testBit b && 16 ≤ b) := by
  by_cases low : b < 16
  · simp [gpioInterrupt, word_testBit b lt, halfword_testBit b lt, low, Nat.not_le.mpr low]
  · simp [gpioInterrupt, word_testBit b lt, halfword_testBit b lt, low, Nat.le_of_not_lt low]

/-- `gpio_interrupt` calls the handler of every pending EXTI line 0-15 once, from the highest line
down, as a plain scan of the lines would, and clears exactly those lines in EXTI_PR. -/
theorem gpioInterrupt_scans (gpioList : Nat → GpioInfo) (e : Exti) :
    (gpioInterrupt gpioList e).1 = (setLines 16 e.pr).filterMap (lineHandler gpioList e.events) ∧
    ∀ b < 32, (gpioInterrupt gpioList e).2.pr.testBit b = (e.pr.testBit b && 16 ≤ b) :=
  ⟨gpioInterrupt_calls gpioList e, fun _ lt => gpioInterrupt_acknowledges gpioList e lt⟩

/-- What enabling the interrupt of a one-pin signal should leave: the pin's EXTI line dispatches to
the signal, AFIO_EXTICR routes the line to the signal's port and the other lines where they
were, and EXTI_IMR lets the line through. -/
structure Routed (signal pin bank : Nat) (e e' : Exti) : Prop where
  events : e'.events pin = some signal
  otherEvents : ∀ b ≠ pin, e'.events b = e.events b
  port : pinField (e'.exticr (pin / 4)) (pin % 4) = bank
  otherPorts : ∀ line < 16, line ≠ pin →
    pinField (e'.exticr (line / 4)) (line % 4) = pinField (e.exticr (line / 4)) (line % 4)
  unmasked : e'.imr.testBit pin = true

theorem gpioEnableInterrupt_routes (gpioList : Nat → GpioInfo) {signal pin bank : Nat}
    (mask : (gpioList signal).mask = 1 <<< pin)
    (handler : (gpioList signal).irqHandler = true)
    (port : (gpioList signal).port = stm32GpioaBase + 0x400 * bank) (bankLt : bank < 16) (e : Exti) :
    (gpioEnableInterrupt gpioList signal e).1 = ecSuccess ∧
      Routed signal pin bank e (gpioEnableInterrupt gpioList signal e).2 := by
  have line : Nat.log2 (1 <<< pin) = pin := by rw [Nat.one_shiftLeft, Nat.log2_two_pow]
  have nonzero : (1 <<< pin) ≠ 0 := by rw [Nat.one_shiftLeft]; exact Nat.pos_pow_of_pos _ Nat.zero_lt_two |>.ne'
  have bankOf : (stm32GpioaBase + 0x400 * bank + 2 ^ 32 - stm32GpioaBase) % 2 ^ 32 / 0x400 = bank := by
    rw [Nat.add_assoc, Nat.add_sub_cancel_left, Nat.add_mod_right, Nat.mod_eq_of_lt (by omega),
      Nat.mul_div_cancel_left _ (by decide)]
  have shifted : bank <<< (4 * (pin % 4)) % 2 ^ 32 = bank <<< (4 * (pin % 4)) := by
    rw [Nat.shiftLeft_eq, Nat.mod_eq_of_lt]
    have : 2 ^ (4 * (pin % 4)) ≤ 2 ^ 12 := Nat.pow_le_pow_right Nat.zero_lt_two (by omega)
    calc bank * 2 ^ (4 * (pin % 4)) < 16 * 2 ^ 12 :=
          Nat.mul_lt_mul_of_lt_of_le bankLt this (Nat.two_pow_pos _)
      _ < 2 ^ 32 := by decide
  have j : pin % 4 < 8 := by omega
  simp only [gpioEnableInterrupt, mask, handler, port, line, nonzero, bankOf,
    Nat.mul_comm (pin % 4) 4, false_or, Bool.true_eq_false, if_false]
  refine ⟨trivial, if_pos rfl, fun b other => if_neg other, ?_, fun other lt ne => ?_, ?_⟩ <;>
    dsimp only
  · rw [if_pos rfl, shifted, pinField_replace _ j bankLt, if_pos rfl]
  · by_cases group : other / 4 = pin / 4
    · have index : other % 4 ≠ pin % 4 := by omega
      rw [group, if_pos rfl, shifted, pinField_replace _ (by omega : other % 4 < 8) bankLt,
        if_neg index]
    · rw [if_neg group]
  · simp [Nat.one_shiftLeft, Nat.testBit_two_pow]

/-- The EXTI block after reset, with no interrupt enabled, and a board with one signal, on pin 5
of GPIOC, that has an interrupt handler. -/
def resetExti : Exti := ⟨fun _ => none, fun _ => 0, 0, 0⟩
def buttonList : Nat → GpioInfo := fun _ => ⟨0x40011000, 1 <<< 5, true⟩

theorem route_button : (buttonList 0).mask = 1 <<< 5 ∧ (buttonList 0).irqHandler = true ∧
    (buttonList 0).port = stm32GpioaBase + 0x400 * 2 ∧ 2 < 16 ∧
    (gpioEnableInterrupt buttonList 0 resetExti).1 = ecSuccess ∧
      Routed 0 5 2 resetExti (gpioEnableInterrupt buttonList 0 resetExti).2 :=
  ⟨rfl, rfl, rfl, by decide, @gpioEnableInterrupt_routes buttonList 0 5 2 rfl rfl rfl (by decide) resetExti⟩

/-- `exti_events` names for each line only a signal whose mask has that line as its highest bit, as
`gpio_enable_interrupt` registers it. -/
def Exti.Consistent (gpioList : Nat → GpioInfo) (e : Exti) : Prop :=
  ∀ b s, e.events b = some s → Nat.log2 (gpioList s).mask = b

/-- What happens to the EXTI block: a driver enables a signal's interrupt, edges on `lines` make
them pending in EXTI_PR, or `gpio_interrupt` runs. -/
inductive ExtiEvent
  | enable (signal : Nat)
  | raise (lines : Nat)
  | interrupt

def Exti.step (gpioList : Nat → GpioInfo) (e : Exti) : ExtiEvent → Exti
  | .enable signal => (gpioEnableInterrupt gpioList signal e).2
  | .raise lines => {e with pr := e.pr ||| lines}
  | .interrupt => (gpioInterrupt gpioList e).2

def Exti.run (gpioList : Nat → GpioInfo) (e : Exti) (events : List ExtiEvent) : Exti :=
  events.foldl (Exti.step gpioList) e

theorem Exti.Consistent.step {gpioList : Nat → GpioInfo} {e : Exti} (consistent : e.Consistent gpioList)
    (event : ExtiEvent) : (e.step gpioList event).Consistent gpioList := by
  cases event with
  | enable signal =>
    show (gpioEnableInterrupt gpioList signal e).2.Consistent gpioList
    unfold gpioEnableInterrupt
    dsimp only
    split
    · exact consistent
    · intro b s registered
      dsimp only at registered
      split at registered
      · cases registered; subst_vars; rfl
      · exact consistent b s registered
  | raise lines => exact consistent
  | interrupt => exact consistent

theorem Exti.Consistent.run {gpioList : Nat → GpioInfo} {e : Exti} (consistent : e.Consistent gpioList)
    (events : List ExtiEvent) : (e.run gpioList events).Consistent gpioList := by
  induction events generalizing e with
  | nil => exact consistent
  | cons event events ih => exact ih (consistent.step event)

theorem Exti.Consistent.interrupt_nodup {gpioList : Nat → GpioInfo} {e : Exti}
    (consistent : e.Consistent gpioList) : (gpioInterrupt gpioList e).1.Nodup := by
  rw [gpioInterrupt_calls gpioList e]
  refine List.Nodup.filterMap (fun a a' s first second => ?_)
    ((List.nodup_reverse.mpr (List.nodup_range 16)).filter _)
  simp only [lineHandler, Option.mem_def, Option.filter_eq_some] at first second
  exact (consistent a s first.1).symm.trans (consistent a' s second.1)

/-- From a state whose `exti_events` is consistent, such as the reset state where it is empty,
every `gpio_interrupt` of every run of interrupt enables, edges and interrupts calls each handler
at most once. -/
theorem gpioInterrupt_calls_once (gpioList : Nat → GpioInfo) {e : Exti} (start : e.Consistent gpioList)
    (events : List ExtiEvent) : (gpioInterrupt gpioList (e.run gpioList events)).1.Nodup :=
  (start.run events).interrupt_nodup

theorem gpioEnableInterrupt_events (gpioList : Nat → GpioInfo) {signal pin : Nat}
    (mask : (gpioList signal).mask = 1 <<< pin) (handler : (gpioList signal).irqHandler = true)
    (e : Exti) : (gpioEnableInterrupt gpioList signal e).2.events pin = some signal := by
  have line : Nat.log2 (1 <<< pin) = pin := by rw [Nat.one_shiftLeft, Nat.log2_two_pow]
  have nonzero : (1 <<< pin) ≠ 0 := by rw [Nat.one_shiftLeft]; exact (Nat.two_pow_pos _).ne'
  simp [gpioEnableInterrupt, mask, handler, line, nonzero]

/-- From a consistent state, enabling a one-pin signal's interrupt, an edge on its line and
`gpio_interrupt` call the signal's handler exactly once. -/
theorem enabled_handler_called_once (gpioList : Nat → GpioInfo) {signal pin : Nat}
    (mask : (gpioList signal).mask = 1 <<< pin) (valid : pin < 16)
    (handler : (gpioList signal).irqHandler = true) {e : Exti} (start : e.Consistent gpioList) :
    (gpioInterrupt gpioList (e.run gpioList [.enable signal, .raise (1 <<< pin)])).1.count signal = 1 := by
  refine List.count_eq_one_of_mem (start.run _).interrupt_nodup ?_
  rw [gpioInterrupt_calls gpioList _, List.mem_filterMap]
  refine ⟨pin, ?_, ?_⟩
  · simp [setLines, Exti.run, Exti.step, valid, Nat.one_shiftLeft, Nat.testBit_two_pow]
  · simp [lineHandler, Exti.run, Exti.step, gpioEnableInterrupt_events gpioList mask handler, handler]

theorem resetExti_consistent (gpioList : Nat → GpioInfo) : resetExti.Consistent gpioList :=
  fun _ _ none => nomatch none

theorem button_interrupts_once : resetExti.Consistent buttonList ∧
    (gpioInterrupt buttonList (resetExti.run buttonList
      [.enable 0, .raise 0x20, .interrupt, .raise 0x21])).1.Nodup :=
  ⟨resetExti_consistent buttonList, gpioInterrupt_calls_once buttonList (resetExti_consistent buttonList) _⟩

theorem button_called_once : (buttonList 0).mask = 1 <<< 5 ∧ 5 < 16 ∧
    (buttonList 0).irqHandler = true ∧ resetExti.Consistent buttonList ∧
    (gpioInterrupt buttonList (resetExti.run buttonList [.enable 0, .raise (1 <<< 5)])).1.count 0 = 1 :=
  ⟨rfl, by decide, rfl, resetExti_consistent buttonList,
    enabled_handler_called_once buttonList rfl (by decide) rfl (resetExti_consistent buttonList)⟩

end ChromeEc.Stm32.Gpio
