import Mathlib.Data.Nat.Bitwise

/-! chip/stm32/hwtimer32.c: the 32-bit timer TIM_CLOCK32 that is the EC's clock source. The
counter counts microseconds and wraps every 2^32 of them; `__hw_clock_source_irq` reads TIMx_SR
and passes its overflow flag to `process_timers` (common/timer.c, not in src/), which counts the
wraps in `clksrc_high`. The handler reads TIMx_SR and then writes 0 to it, and the timer keeps
counting in between: the model lets the counter tick there. Across every interleaving of ticks,
interrupts and deadline changes, `process_timers` is never told of an overflow that did not
happen. It is told of each one exactly once unless the counter wraps between the handler's read
and its write, and an overflow lost there is never made up. -/
namespace ChromeEc.Stm32.Hwtimer

/-- The registers of a general-purpose timer that the driver uses (RM0008, RM0038; not in
src/). The flags of TIMx_SR, UIF (bit 0) and CC1IF (bit 1), are `rc_w0`: a write clears the
flags written as 0 and keeps the others. -/
structure Tim where
  cnt : Nat
  arr : Nat
  psc : Nat
  ccr1 : Nat
  cr1 : Nat
  cr2 : Nat
  smcr : Nat
  sr : Nat
  dier : Nat
  deriving DecidableEq, Repr

/-- A write of `value` to TIMx_SR. -/
def Tim.writeSr (value : Nat) (t : Tim) : Tim := {t with sr := t.sr &&& value}

/-- A write of `value` to TIMx_EGR (RM0008, not in src/): UG (bit 0) reinitialises the counter,
and raises UIF unless URS (TIMx_CR1 bit 2) is set. -/
def Tim.writeEgr (value : Nat) (t : Tim) : Tim :=
  if value.testBit 0 then {t with cnt := 0, sr := if t.cr1.testBit 2 then t.sr else t.sr ||| 1}
  else t

/-- Whether the counter overflows on its next count: it counts while CEN (TIMx_CR1 bit 0) is
set, and overflows from TIMx_ARR to 0. -/
def Tim.wraps (t : Tim) : Bool := t.cr1.testBit 0 && t.cnt == t.arr

/-- One count of the counter (RM0008, not in src/): it overflows from TIMx_ARR to 0, raising
UIF, and raises CC1IF when it reaches TIMx_CCR1. -/
def Tim.tick (t : Tim) : Tim :=
  if t.cr1.testBit 0 then
    let cnt := if t.cnt = t.arr then 0 else t.cnt + 1
    let sr := if t.cnt = t.arr then t.sr ||| 1 else t.sr
    {t with cnt := cnt, sr := if cnt = t.ccr1 then sr ||| 2 else sr}
  else t

/-! ### The driver -/

/-- `__hw_clock_event_set(deadline)`. -/
def hwClockEventSet (deadline : Nat) (t : Tim) : Tim :=
  let t := {t with ccr1 := deadline}
  let t := t.writeSr (0xffffffff ^^^ 2)
  {t with dier := t.dier ||| 2}

/-- `__hw_clock_event_get()`. -/
def hwClockEventGet (t : Tim) : Nat := t.ccr1

/-- `__hw_clock_event_clear()`. -/
def hwClockEventClear (t : Tim) : Tim := {t with dier := t.dier &&& (0xffffffff ^^^ 2)}

/-- `__hw_clock_source_read()`. -/
def hwClockSourceRead (t : Tim) : Nat := t.cnt

/-- `__hw_clock_source_set(ts)`. -/
def hwClockSourceSet (ts : Nat) (t : Tim) : Tim := {t with cnt := ts}

/-- `__hw_clock_source_irq()` after its read of TIMx_SR into `stat_tim`: the status cleared, and
the argument it passes to `process_timers`. -/
def hwClockSourceIrqFinish (statTim : Nat) (t : Tim) : Tim × Nat := (t.writeSr 0, statTim &&& 0x01)

/-- `__hw_clock_source_irq()`, when nothing happens between its two statements. -/
def hwClockSourceIrq (t : Tim) : Tim × Nat := hwClockSourceIrqFinish t.sr t

/-- The chip families `__hw_timer_enable_clock` distinguishes (`CHIP_FAMILY_*`). -/
inductive ChipFamily
  | stm32f
  | stm32f0
  | stm32l
  deriving DecidableEq, Repr

/-- The timer enable bits of RCC_APB1ENR and RCC_APB2ENR (registers.h, not in src/). -/
def stm32RccPb2Tim1 : Nat := 1 <<< 11
def stm32RccPb2Tim9 : Nat := 1 <<< 2
def stm32RccPb2Tim15 : Nat := 1 <<< 16
def stm32RccPb1Tim14 : Nat := 1 <<< 8
def stm32RccPb1Tim2 : Nat := 1 <<< 0

/-- RCC_APB1ENR and RCC_APB2ENR. -/
structure Rcc where
  apb1enr : Nat
  apb2enr : Nat
  deriving DecidableEq, Repr

/-- The register (`true` for RCC_APB2ENR) and mask `__hw_timer_enable_clock` picks for timer
`n`; a mask of 0 for a timer it does not know. -/
def timerClockBit (family : ChipFamily) (n : Nat) : Bool × Nat :=
  let pick : Bool × Nat := (false, 0)
  let pick := match family with
    | .stm32f | .stm32f0 => if n = 1 then (true, stm32RccPb2Tim1) else pick
    | .stm32l => if 9 ≤ n ∧ n ≤ 11 then (true, stm32RccPb2Tim9 <<< (n - 9)) else pick
  let pick := if family = .stm32f0 ∧ 15 ≤ n ∧ n ≤ 17 then (true, stm32RccPb2Tim15 <<< (n - 15))
    else pick
  let pick := if family = .stm32f0 ∧ n = 14 then (false, stm32RccPb1Tim14) else pick
  if 2 ≤ n ∧ n ≤ 7 then (false, stm32RccPb1Tim2 <<< (n - 2)) else pick

/-- `__hw_timer_enable_clock(n, enable)`. -/
def hwTimerEnableClock (family : ChipFamily) (n : Nat) (enable : Bool) (rcc : Rcc) : Rcc :=
  let (apb2, mask) := timerClockBit family n
  let set (v : Nat) := if enable then v ||| mask else v &&& (0xffffffff ^^^ mask)
  if mask = 0 then rcc
  else if apb2 then {rcc with apb2enr := set rcc.apb2enr} else {rcc with apb1enr := set rcc.apb1enr}

/-- `update_prescaler()`, with `clock_get_freq()` (clock.c, not in src/) given: one count per
microsecond (`SECOND` is 1000000). -/
def updatePrescaler (freq : Nat) (t : Tim) : Tim := {t with psc := (freq / 1000000 - 1) % 2 ^ 32}

/-- `__hw_clock_source_init(start_t)` for timer `n`, up to `task_enable_irq`; it returns the
timer's IRQ number, a chip constant. -/
def hwClockSourceInit (family : ChipFamily) (n freq startT : Nat) (rcc : Rcc) (t : Tim) :
    Rcc × Tim :=
  let rcc := hwTimerEnableClock family n true rcc
  let t := {t with cr1 := 0x0004, cr2 := 0x0000, smcr := 0x0000, arr := 0xffffffff}
  let t := updatePrescaler freq t
  let t := t.writeEgr 0x0001
  let t := {t with dier := 0x0001}
  let t := {t with cr1 := t.cr1 ||| 1}
  (rcc, hwClockSourceSet startT t)

/-! ### The clock source over interleavings -/

/-- The clock source as the rest of the EC sees it: the timer; `clksrc_high` of
common/timer.c (not in src/), which `process_timers(overflow)` advances by `overflow`; where the
interrupt handler is, `some stat_tim` between its read of TIMx_SR and its write; and, to state
what the clock should know, the number of times the counter has wrapped. -/
structure Clock where
  tim : Tim
  clksrcHigh : Nat
  handler : Option Nat
  wrapCount : Nat
  deriving DecidableEq, Repr

/-- What can happen next: the counter counts; the timer's interrupt is taken and the handler
reads TIMx_SR; the handler writes TIMx_SR and calls `process_timers`; or code outside the
handler sets or clears the deadline (`process_timers` does, after the handler's write). -/
inductive Event
  | tick
  | irqEnter
  | irqExit
  | eventSet (deadline : Nat)
  | eventClear
  deriving DecidableEq, Repr

/-- One event. The interrupt is taken when a flag of TIMx_SR is enabled in TIMx_DIER; nothing
but the counter runs while the handler is between its read and its write. -/
def Clock.step (c : Clock) : Event → Clock
  | .tick => {c with tim := c.tim.tick, wrapCount := if c.tim.wraps then c.wrapCount + 1 else c.wrapCount}
  | .irqEnter =>
    if c.handler = none ∧ c.tim.sr &&& c.tim.dier ≠ 0 then {c with handler := some c.tim.sr} else c
  | .irqExit =>
    match c.handler with
    | some statTim =>
      {c with tim := (hwClockSourceIrqFinish statTim c.tim).1,
              clksrcHigh := c.clksrcHigh + (hwClockSourceIrqFinish statTim c.tim).2, handler := none}
    | none => c
  | .eventSet deadline => if c.handler = none then {c with tim := hwClockEventSet deadline c.tim} else c
  | .eventClear => if c.handler = none then {c with tim := hwClockEventClear c.tim} else c

def Clock.run (c : Clock) : List Event → Clock
  | [] => c
  | e :: rest => (c.step e).run rest

/-- The overflow the clock will still be told of: the one the handler has read, or UIF. -/
def Clock.pending (c : Clock) : Nat := c.handler.getD c.tim.sr &&& 0x01

/-- A count that wraps the counter while the handler is between its read and its write, or
while an earlier overflow is still flagged: that overflow is never reported. -/
def Clock.losesWrap (c : Clock) : Event → Bool
  | .tick => c.tim.wraps && (c.handler.isSome || c.tim.sr.testBit 0)
  | _ => false

/-- How many events of the run lose a wrap. -/
def Clock.lostWraps (c : Clock) : List Event → Nat
  | [] => 0
  | e :: rest => (if c.losesWrap e then 1 else 0) + (c.step e).lostWraps rest

/-! ### Every wrap is reported, pending or lost -/

private theorem and_one_eq (x : Nat) : x &&& 0x01 = if x.testBit 0 then 1 else 0 := by
  rw [Nat.and_one_is_mod, Nat.testBit_zero]
  by_cases h : x % 2 = 1
  · simp [h]
  · simp [h]; omega

private theorem or_one_testBit (x : Nat) : (x ||| 1).testBit 0 = true := by
  simp [Nat.testBit_or]

private theorem or_two_testBit (x : Nat) : (x ||| 2).testBit 0 = x.testBit 0 := by
  simp [Nat.testBit_or, show (2 : Nat).testBit 0 = false by decide]

theorem Tim.tick_uif (t : Tim) : t.tick.sr.testBit 0 = (t.wraps || t.sr.testBit 0) := by
  unfold Tim.tick Tim.wraps
  by_cases cen : t.cr1.testBit 0
  · simp only [if_pos cen, cen, Bool.true_and]
    by_cases top : t.cnt = t.arr
    · simp only [top, if_pos, beq_self_eq_true, Bool.true_or]
      split <;> simp only [or_two_testBit, or_one_testBit]
    · have differ : (t.cnt == t.arr) = false := beq_false_of_ne top
      simp only [top, if_false, differ, Bool.false_or]
      by_cases hit : t.cnt + 1 = t.ccr1 <;> simp only [hit, if_true, if_false, or_two_testBit]
  · simp [cen]

theorem hwClockEventSet_uif (deadline : Nat) (t : Tim) :
    (hwClockEventSet deadline t).sr.testBit 0 = t.sr.testBit 0 := by
  simp [hwClockEventSet, Tim.writeSr, Nat.testBit_and, Nat.testBit_xor]

theorem Clock.pending_eq (c : Clock) :
    c.pending = if (c.handler.getD c.tim.sr).testBit 0 then 1 else 0 := and_one_eq _

theorem Clock.step_accounts (c : Clock) (e : Event) :
    (c.step e).clksrcHigh + (c.step e).pending + (if c.losesWrap e then 1 else 0) + c.wrapCount =
      c.clksrcHigh + c.pending + (c.step e).wrapCount := by
  obtain ⟨t, high, handler, wrapCount⟩ := c
  cases e with
  | tick =>
    simp only [Clock.step, Clock.losesWrap, Clock.pending_eq]
    cases handler with
    | some statTim => by_cases w : t.wraps <;> simp [w]; omega
    | none =>
      simp only [Option.getD_none, Option.isSome_none, Bool.false_or, Tim.tick_uif]
      by_cases w : t.wraps <;> by_cases b : t.sr.testBit 0 <;> simp [w, b] <;> omega
  | irqEnter =>
    simp only [Clock.step, Clock.losesWrap]
    split
    · simp [Clock.pending, ‹_ ∧ _›.1]
    · simp
  | irqExit =>
    cases handler with
    | some statTim =>
      simp [Clock.step, Clock.losesWrap, Clock.pending, hwClockSourceIrqFinish, Tim.writeSr]
    | none => simp [Clock.step, Clock.losesWrap]
  | eventSet deadline =>
    simp only [Clock.step, Clock.losesWrap]
    split
    · simp only [Clock.pending_eq, ‹handler = none›, Option.getD_none, hwClockEventSet_uif]
      simp
    · simp
  | eventClear =>
    simp only [Clock.step, Clock.losesWrap]
    split
    · simp [Clock.pending, ‹handler = none›, hwClockEventClear]
    · simp

theorem Clock.run_accounts (c : Clock) (events : List Event) :
    (c.run events).clksrcHigh + (c.run events).pending + c.lostWraps events + c.wrapCount =
      c.clksrcHigh + c.pending + (c.run events).wrapCount := by
  induction events generalizing c with
  | nil => simp [Clock.run, Clock.lostWraps]
  | cons e rest ih =>
    have step := c.step_accounts e
    have run := ih (c.step e)
    simp only [Clock.run, Clock.lostWraps] at run ⊢
    omega

/-! ### From reset -/

/-- The timer at reset (RM0008, not in src/): TIMx_SR and TIMx_CCR1, which
`__hw_clock_source_init` does not write, are zero, as are the others. -/
def resetTim : Tim := ⟨0, 0, 0, 0, 0, 0, 0, 0, 0⟩

/-- The clock source after `__hw_clock_source_init(start_t)` from reset, with `clksrc_high`
zero as timer.c starts it. -/
def Clock.boot (family : ChipFamily) (n freq startT : Nat) (rcc : Rcc) : Clock :=
  ⟨(hwClockSourceInit family n freq startT rcc resetTim).2, 0, none, 0⟩

theorem Clock.boot_pending (family : ChipFamily) (n freq startT : Nat) (rcc : Rcc) :
    (Clock.boot family n freq startT rcc).pending = 0 := by
  have urs : (0x0004 : Nat).testBit 2 = true := by decide
  simp [Clock.boot, Clock.pending, hwClockSourceInit, hwClockSourceSet, updatePrescaler,
    Tim.writeEgr, resetTim, urs]

/-- From `__hw_clock_source_init`, over every interleaving of counts, interrupts and deadline
changes: the wraps of the counter are exactly those `process_timers` has counted in
`clksrc_high`, the one still pending, and those the run lost, so the clock never counts an
overflow twice or one that did not happen, and misses only those it loses. -/
theorem Clock.boot_accounts (family : ChipFamily) (n freq startT : Nat) (rcc : Rcc)
    (events : List Event) :
    ((Clock.boot family n freq startT rcc).run events).clksrcHigh +
        ((Clock.boot family n freq startT rcc).run events).pending +
        (Clock.boot family n freq startT rcc).lostWraps events =
      ((Clock.boot family n freq startT rcc).run events).wrapCount := by
  have run := (Clock.boot family n freq startT rcc).run_accounts events
  rw [Clock.boot_pending] at run
  simpa [Clock.boot] using run

/-- A run from reset on a 16 MHz STM32F with timer 2: a deadline at the counter's last value,
whose match interrupt is taken one count before the counter wraps, and the wrap falls between
the handler's read of TIMx_SR and its write. The wrap is lost. -/
example :
    ((Clock.boot .stm32f 2 16000000 0xfffffffe ⟨0, 0⟩).run
      [.eventSet 0xffffffff, .tick, .irqEnter, .tick, .irqExit]).clksrcHigh = 0 ∧
    ((Clock.boot .stm32f 2 16000000 0xfffffffe ⟨0, 0⟩).run
      [.eventSet 0xffffffff, .tick, .irqEnter, .tick, .irqExit]).pending = 0 ∧
    ((Clock.boot .stm32f 2 16000000 0xfffffffe ⟨0, 0⟩).run
      [.eventSet 0xffffffff, .tick, .irqEnter, .tick, .irqExit]).wrapCount = 1 := by decide

/-- The race in `__hw_clock_source_irq`: when the counter wraps after the handler has read
TIMx_SR without UIF and before it writes 0 to it, the write clears the new UIF and the handler
passes no overflow to `process_timers`. The wrap is made and nothing will report it. -/
theorem Clock.wrap_in_irq_window_lost (c : Clock) {statTim : Nat}
    (inWindow : c.handler = some statTim) (noOverflow : statTim.testBit 0 = false)
    (wrapping : c.tim.wraps = true) :
    ((c.step .tick).step .irqExit).clksrcHigh = c.clksrcHigh ∧
    ((c.step .tick).step .irqExit).pending = 0 ∧
    ((c.step .tick).step .irqExit).wrapCount = c.wrapCount + 1 := by
  obtain ⟨t, high, handler, wrapCount⟩ := c
  subst inWindow
  simp [Clock.step, Clock.pending, hwClockSourceIrqFinish, Tim.writeSr, wrapping,
    and_one_eq statTim, noOverflow]

theorem deadline_before_wrap_lost :
    ((Clock.boot .stm32f 2 16000000 0xfffffffe ⟨0, 0⟩).run
      [.eventSet 0xffffffff, .tick, .irqEnter]).handler = some 2 ∧
    (2 : Nat).testBit 0 = false ∧
    ((Clock.boot .stm32f 2 16000000 0xfffffffe ⟨0, 0⟩).run
      [.eventSet 0xffffffff, .tick, .irqEnter]).tim.wraps = true ∧
    ((((Clock.boot .stm32f 2 16000000 0xfffffffe ⟨0, 0⟩).run
      [.eventSet 0xffffffff, .tick, .irqEnter]).step .tick).step .irqExit).clksrcHigh =
      ((Clock.boot .stm32f 2 16000000 0xfffffffe ⟨0, 0⟩).run
        [.eventSet 0xffffffff, .tick, .irqEnter]).clksrcHigh ∧
    ((((Clock.boot .stm32f 2 16000000 0xfffffffe ⟨0, 0⟩).run
      [.eventSet 0xffffffff, .tick, .irqEnter]).step .tick).step .irqExit).pending = 0 ∧
    ((((Clock.boot .stm32f 2 16000000 0xfffffffe ⟨0, 0⟩).run
      [.eventSet 0xffffffff, .tick, .irqEnter]).step .tick).step .irqExit).wrapCount =
      ((Clock.boot .stm32f 2 16000000 0xfffffffe ⟨0, 0⟩).run
        [.eventSet 0xffffffff, .tick, .irqEnter]).wrapCount + 1 :=
  ⟨by decide, by decide, by decide, @Clock.wrap_in_irq_window_lost _ 2 (by decide) (by decide) (by decide)⟩

end ChromeEc.Stm32.Hwtimer
