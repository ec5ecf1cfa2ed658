import Mathlib.Data.Nat.Bitwise
import Mathlib.Logic.Function.Basic

/-! chip/it83xx/irq.c: the EC's side of the IT83xx interrupt controller (INTC). IRQ `irq` is bit
`irq % 8` of group `irq / 8`. Each of the 20 groups has a status register ISR, an enable register
IER and an extended enable register EXT_IER, all bytes (registers.h, not in src/), and
`irq_groups[]` names the CPU interrupt each IRQ reaches: a `uint8_t`, in which the -1 of an IRQ
with none is stored as 255.

What the controller is for is a set of enabled IRQs and a set of pending ones (`Controller`).
Enabling and disabling keep IER and EXT_IER equal to the first in every run (`Tracks`). ISR is
write-1-to-clear (the IT83xx datasheet, not in src/), and `chip_clear_pending_irq` clears an IRQ
with `ISR |= 1 << bit`: that reads the group's status and writes it back with the IRQ's bit
added, so it writes 1 to, and clears, every IRQ pending in the group. -/
namespace ChromeEc.It83xx.Irq

/-- The `cpu_int` rows of `irq_groups[]`, as written. -/
def cpuIntRows : List (List Int) :=
  [[-1,  2,  5,  4,  6,  2,  2,  4],
   [ 7,  6,  6,  5,  2,  2,  2,  8],
   [ 6,  2,  8,  8,  8,  2, 12, -1],
   [ 5,  4,  4,  4, 11, 11,  3,  2],
   [11, 11, 11, 11,  8,  9,  9,  9],
   [-1, -1, -1, -1, -1, -1, -1, -1],
   [ 2,  2,  2,  2,  2,  2,  2,  2],
   [10, 10,  3, -1,  3,  3,  3,  3],
   [ 4,  4,  4,  4,  4,  4, 12, 12],
   [ 2,  2,  2,  2,  2,  2,  2,  2],
   [ 3,  6, 12, 12,  5,  2,  2,  2],
   [ 2,  2,  2,  2,  2,  2,  2,  2],
   [ 2,  2,  2,  2,  2,  2,  2,  2],
   [ 2,  2,  2,  2,  2,  2,  2,  2],
   [ 2,  2,  2,  2,  2,  2,  2,  2],
   [ 2,  2,  2,  2,  2,  2,  2,  2],
   [ 2,  2,  2,  2,  2,  2,  2, -1],
   [-1, -1, -1, -1, -1, -1, -1, -1],
   [ 2,  2,  2,  2,  2,  4,  4,  7],
   [ 6,  6, 12,  3,  3,  3,  3,  3]]

/-- `irq_groups[group].cpu_int[bit]`, the row's entry as the `uint8_t` it is stored as. -/
def cpuInt (group bit : Nat) : Nat := (((cpuIntRows.getD group []).getD bit 0) % 256).toNat

/-- The INTC registers the code writes, by group. -/
structure Intc where
  isr : Nat → Nat
  ier : Nat → Nat
  extIer : Nat → Nat

/-- `reg |= 1 << bit` on a byte register. -/
def setBit (v bit : Nat) : Nat := (v ||| 1 <<< bit) % 256

/-- `reg &= ~(1 << bit)` on a byte register. -/
def clearBit (v bit : Nat) : Nat := v &&& (0xff ^^^ 1 <<< bit)

/-- What a write of `value` leaves in a write-1-to-clear status register holding `old`. -/
def w1c (old value : Nat) : Nat := old &&& (0xff ^^^ value)

/-- `reg[group] |= 1 << bit` with the group and bit of IRQ `irq`. -/
def orIrqBit (reg : Nat → Nat) (irq : Nat) : Nat → Nat :=
  Function.update reg (irq / 8) (setBit (reg (irq / 8)) (irq % 8))

/-- `reg[group] &= ~(1 << bit)` with the group and bit of IRQ `irq`. -/
def andNotIrqBit (reg : Nat → Nat) (irq : Nat) : Nat → Nat :=
  Function.update reg (irq / 8) (clearBit (reg (irq / 8)) (irq % 8))

/-- `chip_enable_irq(irq)`: the CPU interrupt, and IER and EXT_IER with the IRQ's bit set; `none`
where `irq_groups[group]` is outside the array. -/
def chipEnableIrq (irq : Nat) (s : Intc) : Option (Nat × Intc) :=
  if irq / 8 < 20 then
    some (cpuInt (irq / 8) (irq % 8), {s with ier := orIrqBit s.ier irq, extIer := orIrqBit s.extIer irq})
  else none

/-- `chip_disable_irq(irq)`. -/
def chipDisableIrq (irq : Nat) (s : Intc) : Option (Int × Intc) :=
  if irq / 8 < 20 then
    some (-1, {s with ier := andNotIrqBit s.ier irq, extIer := andNotIrqBit s.extIer irq})
  else none

/-- `chip_clear_pending_irq(irq)`: `ISR |= 1 << bit`, a read of ISR and a write of what was read
with the IRQ's bit added, to a write-1-to-clear register. -/
def chipClearPendingIrq (irq : Nat) (s : Intc) : Option (Int × Intc) :=
  if irq / 8 < 20 then
    some (-1, {s with
      isr := Function.update s.isr (irq / 8) (w1c (s.isr (irq / 8)) (setBit (s.isr (irq / 8)) (irq % 8)))})
  else none

/-- `chip_trigger_irq(irq)`. -/
def chipTriggerIrq (irq : Nat) : Option Nat :=
  if irq / 8 < 20 then some (cpuInt (irq / 8) (irq % 8)) else none

/-- An IRQ's source setting its status bit (the hardware, not in src/). -/
def Intc.raise (s : Intc) (irq : Nat) : Intc := {s with isr := orIrqBit s.isr irq}

def Intc.enabled (s : Intc) (irq : Nat) : Bool := (s.ier (irq / 8)).testBit (irq % 8)
def Intc.extEnabled (s : Intc) (irq : Nat) : Bool := (s.extIer (irq / 8)).testBit (irq % 8)
def Intc.pending (s : Intc) (irq : Nat) : Bool := (s.isr (irq / 8)).testBit (irq % 8)

/-- What happens to the controller: the EC core's calls, and a source raising its IRQ. -/
inductive Op
  | enable (irq : Nat)
  | disable (irq : Nat)
  | clearPending (irq : Nat)
  | raise (irq : Nat)
  deriving DecidableEq, Repr

def Op.irq : Op → Nat
  | .enable irq | .disable irq | .clearPending irq | .raise irq => irq

def Intc.step (s : Intc) : Op → Option Intc
  | .enable irq => (chipEnableIrq irq s).map (·.2)
  | .disable irq => (chipDisableIrq irq s).map (·.2)
  | .clearPending irq => (chipClearPendingIrq irq s).map (·.2)
  | .raise irq => some (s.raise irq)

def Intc.run (s : Intc) : List Op → Option Intc
  | [] => some s
  | op :: ops => (s.step op).bind fun s => s.run ops

/-- What an interrupt controller is for: which IRQs are enabled and which are pending, each
IRQ's own. -/
structure Controller where
  enabled : Nat → Bool
  pending : Nat → Bool

def Controller.step (c : Controller) : Op → Controller
  | .enable irq => {c with enabled := Function.update c.enabled irq true}
  | .disable irq => {c with enabled := Function.update c.enabled irq false}
  | .clearPending irq => {c with pending := Function.update c.pending irq false}
  | .raise irq => {c with pending := Function.update c.pending irq true}

def Controller.run (c : Controller) (ops : List Op) : Controller := ops.foldl Controller.step c

/-- IER and EXT_IER hold the controller's enabled set for the IRQs of the 20 groups. -/
structure EnableTracks (s : Intc) (c : Controller) : Prop where
  ier : ∀ irq < 160, s.enabled irq = c.enabled irq
  extIer : ∀ irq < 160, s.extEnabled irq = c.enabled irq

/-- The registers hold the whole of the controller's state. -/
structure Tracks (s : Intc) (c : Controller) extends EnableTracks s c : Prop where
  isr : ∀ irq < 160, s.pending irq = c.pending irq

/-! ### Bits of the group registers -/

private theorem byteOnes_testBit (i : Nat) : (0xff : Nat).testBit i = decide (i < 8) := by
  rw [show (0xff : Nat) = 2 ^ 8 - 1 from rfl, Nat.testBit_two_pow_sub_one]

theorem setBit_testBit (v : Nat) {bit i : Nat} (small : i < 8) :
    (setBit v bit).testBit i = (decide (i = bit) || v.testBit i) := by
  rw [setBit, show (256 : Nat) = 2 ^ 8 from rfl, Nat.testBit_mod_two_pow, Nat.testBit_or,
    Nat.one_shiftLeft, Nat.testBit_two_pow]
  simp [small, Bool.or_comm, eq_comm]

theorem clearBit_testBit (v : Nat) {bit i : Nat} (small : i < 8) :
    (clearBit v bit).testBit i = (decide (i ≠ bit) && v.testBit i) := by
  rw [clearBit, Nat.testBit_and, Nat.testBit_xor, byteOnes_testBit, Nat.one_shiftLeft,
    Nat.testBit_two_pow]
  by_cases same : i = bit
  · subst same
    simp [small]
  · simp [same, small, Ne.symm same]

theorem w1c_setBit (old bit : Nat) : w1c old (setBit old bit) = 0 := by
  apply Nat.eq_of_testBit_eq
  intro i
  rw [w1c, setBit, Nat.testBit_and, Nat.testBit_xor, byteOnes_testBit,
    show (256 : Nat) = 2 ^ 8 from rfl, Nat.testBit_mod_two_pow, Nat.testBit_or, Nat.zero_testBit]
  cases old.testBit i <;> simp

private theorem irq_eq_iff {irq j : Nat} (group : j / 8 = irq / 8) : j = irq ↔ j % 8 = irq % 8 := by
  omega

@[simp] theorem orIrqBit_testBit (reg : Nat → Nat) (irq j : Nat) :
    (orIrqBit reg irq (j / 8)).testBit (j % 8) = (decide (j = irq) || (reg (j / 8)).testBit (j % 8)) := by
  by_cases group : j / 8 = irq / 8
  · rw [orIrqBit, group, Function.update_same, ← group,
      setBit_testBit _ (Nat.mod_lt _ (by decide))]
    simp only [irq_eq_iff group]
  · rw [orIrqBit, Function.update_noteq group]
    simp [show j ≠ irq by rintro rfl; exact group rfl]

@[simp] theorem andNotIrqBit_testBit (reg : Nat → Nat) (irq j : Nat) :
    (andNotIrqBit reg irq (j / 8)).testBit (j % 8) = (decide (j ≠ irq) && (reg (j / 8)).testBit (j % 8)) := by
  by_cases group : j / 8 = irq / 8
  · rw [andNotIrqBit, group, Function.update_same, ← group,
      clearBit_testBit _ (Nat.mod_lt _ (by decide))]
    simp only [ne_eq, irq_eq_iff group]
  · rw [andNotIrqBit, Function.update_noteq group]
    simp [show j ≠ irq by rintro rfl; exact group rfl]

/-! ### One step, then whole runs -/

theorem Intc.step_isSome (s : Intc) {op : Op} (lt : op.irq < 160) : (s.step op).isSome := by
  have group : op.irq / 8 < 20 := by omega
  cases op <;> simp_all [Intc.step, Op.irq, chipEnableIrq, chipDisableIrq, chipClearPendingIrq]

theorem EnableTracks.step {s s' : Intc} {c : Controller} (tracks : EnableTracks s c) {op : Op}
    (stepped : s.step op = some s') : EnableTracks s' (c.step op) := by
  cases op with
  | enable irq =>
    simp only [Intc.step, chipEnableIrq] at stepped
    split at stepped <;> cases stepped
    exact ⟨fun j lt => by simp [Intc.enabled, Controller.step, Function.update_apply, ← tracks.ier j lt],
      fun j lt => by simp [Intc.extEnabled, Controller.step, Function.update_apply, ← tracks.extIer j lt]⟩
  | disable irq =>
    simp only [Intc.step, chipDisableIrq] at stepped
    split at stepped <;> cases stepped
    exact ⟨fun j lt => by simp [Intc.enabled, Controller.step, Function.update_apply, ← tracks.ier j lt],
      fun j lt => by simp [Intc.extEnabled, Controller.step, Function.update_apply, ← tracks.extIer j lt]⟩
  | clearPending irq =>
    simp only [Intc.step, chipClearPendingIrq] at stepped
    split at stepped <;> cases stepped
    exact ⟨tracks.ier, tracks.extIer⟩
  | raise irq =>
    cases stepped
    exact ⟨tracks.ier, tracks.extIer⟩

theorem Tracks.step {s s' : Intc} {c : Controller} (tracks : Tracks s c) {op : Op}
    (noClear : ∀ irq, op ≠ .clearPending irq) (stepped : s.step op = some s') :
    Tracks s' (c.step op) := by
  refine ⟨tracks.toEnableTracks.step stepped, ?_⟩
  cases op with
  | enable irq =>
    simp only [Intc.step, chipEnableIrq] at stepped
    split at stepped <;> cases stepped
    exact tracks.isr
  | disable irq =>
    simp only [Intc.step, chipDisableIrq] at stepped
    split at stepped <;> cases stepped
    exact tracks.isr
  | clearPending irq => exact absurd rfl (noClear irq)
  | raise irq =>
    cases stepped
    exact fun j lt => by simp [Intc.pending, Intc.raise, Controller.step, Function.update_apply,
      ← tracks.isr j lt]

theorem chipClearPendingIrq_pending {irq : Nat} (lt : irq < 160) (s : Intc) :
    ∃ s', chipClearPendingIrq irq s = some (-1, s') ∧
      ∀ j, s'.pending j = if j / 8 = irq / 8 then false else s.pending j := by
  refine ⟨_, if_pos (by omega), fun j => ?_⟩
  by_cases group : j / 8 = irq / 8
  · simp only [Intc.pending, if_pos group]
    rw [group]
    simp [w1c_setBit]
  · simp [Intc.pending, group, Function.update_noteq group]

theorem Intc.run_cons (s : Intc) (op : Op) (ops : List Op) :
    s.run (op :: ops) = (s.step op).bind fun s => s.run ops := rfl

theorem Controller.run_cons (c : Controller) (op : Op) (ops : List Op) :
    c.run (op :: ops) = (c.step op).run ops := rfl

theorem Intc.run_isSome (s : Intc) {ops : List Op} (inGroups : ∀ op ∈ ops, op.irq < 160) :
    (s.run ops).isSome := by
  induction ops generalizing s with
  | nil => rfl
  | cons op ops ih =>
    obtain ⟨t, stepped⟩ := Option.isSome_iff_exists.mp (s.step_isSome (inGroups op (.head _)))
    simpa [Intc.run_cons, stepped] using ih t fun op mem => inGroups op (.tail _ mem)

theorem EnableTracks.along {s s' : Intc} {c : Controller} (tracks : EnableTracks s c)
    {ops : List Op} (ran : s.run ops = some s') : EnableTracks s' (c.run ops) := by
  induction ops generalizing s c with
  | nil => cases ran; exact tracks
  | cons op ops ih =>
    obtain ⟨t, stepped, rest⟩ := Option.bind_eq_some.mp ran
    exact ih (tracks.step stepped) rest

theorem Tracks.along {s s' : Intc} {c : Controller} (tracks : Tracks s c) {ops : List Op}
    (noClear : ∀ op ∈ ops, ∀ irq, op ≠ .clearPending irq) (ran : s.run ops = some s') :
    Tracks s' (c.run ops) := by
  induction ops generalizing s c with
  | nil => cases ran; exact tracks
  | cons op ops ih =>
    obtain ⟨t, stepped, rest⟩ := Option.bind_eq_some.mp ran
    exact ih (tracks.step (noClear op (.head _)) stepped) (fun op mem => noClear op (.tail _ mem)) rest

theorem intc_refines_controller {s : Intc} {c : Controller} (tracks : Tracks s c) (ops : List Op)
    (inGroups : ∀ op ∈ ops, op.irq < 160) :
    ∃ s', s.run ops = some s' ∧ EnableTracks s' (c.run ops) ∧
      ((∀ op ∈ ops, ∀ irq, op ≠ .clearPending irq) → Tracks s' (c.run ops)) := by
  obtain ⟨s', ran⟩ := Option.isSome_iff_exists.mp (s.run_isSome inGroups)
  exact ⟨s', ran, tracks.toEnableTracks.along ran, fun noClear => tracks.along noClear ran⟩

/-- All registers zero. -/
def clearedIntc : Intc := ⟨fun _ => 0, fun _ => 0, fun _ => 0⟩

/-- No IRQ enabled or pending. -/
def quietController : Controller := ⟨fun _ => false, fun _ => false⟩

theorem clearedIntc_tracks : Tracks clearedIntc quietController :=
  ⟨⟨fun _ _ => Nat.zero_testBit _, fun _ _ => Nat.zero_testBit _⟩, fun _ _ => Nat.zero_testBit _⟩

theorem clearPending_loses_group_mate (s : Intc) (c : Controller) {irq other : Nat} (lt : irq < 160) (sameGroup : other / 8 = irq / 8) (apart : other ≠ irq) :
    ∃ s', s.run [.raise irq, .raise other, .clearPending irq] = some s' ∧
      s'.pending other = false ∧
      (c.run [.raise irq, .raise other, .clearPending irq]).pending other = true := by
  obtain ⟨s', cleared, pending⟩ := chipClearPendingIrq_pending lt ((s.raise irq).raise other)
  refine ⟨s', by simp [Intc.run_cons, Intc.step, cleared, Intc.run], by simp [pending, sameGroup], ?_⟩
  simp [Controller.run, Controller.step, Function.update_apply, apart]

/-- The INTC as the EC drives it refines `Controller` up to `chip_clear_pending_irq`. From
registers that hold a controller's state, every run of operations on IRQs of the 20 groups goes
through, leaves IER and EXT_IER holding the controller's enabled set and, if it clears no pending
IRQ, ISR its pending set. A clear of one IRQ of a group with another pending leaves neither
pending, where the controller keeps the other. -/
theorem intc_refines_controller_but_clear :
    (∀ {s : Intc} {c : Controller}, Tracks s c → ∀ ops : List Op, (∀ op ∈ ops, op.irq < 160) →
      ∃ s', s.run ops = some s' ∧ EnableTracks s' (c.run ops) ∧
        ((∀ op ∈ ops, ∀ irq, op ≠ .clearPending irq) → Tracks s' (c.run ops))) ∧
    (∀ (s : Intc) (c : Controller) {irq other : Nat}, irq < 160 → other / 8 = irq / 8 → other ≠ irq →
      ∃ s', s.run [.raise irq, .raise other, .clearPending irq] = some s' ∧
        s'.pending other = false ∧
        (c.run [.raise irq, .raise other, .clearPending irq]).pending other = true) :=
  ⟨intc_refines_controller, clearPending_loses_group_mate⟩

theorem intc_runs_from_cleared :
    (∃ s', clearedIntc.run [.enable 8, .raise 9, .disable 8, .enable 17] = some s' ∧
      EnableTracks s' (quietController.run [.enable 8, .raise 9, .disable 8, .enable 17]) ∧
      ((∀ op ∈ [Op.enable 8, .raise 9, .disable 8, .enable 17], ∀ irq, op ≠ .clearPending irq) →
        Tracks s' (quietController.run [.enable 8, .raise 9, .disable 8, .enable 17]))) ∧
    ∃ s', clearedIntc.run [.raise 8, .raise 9, .clearPending 8] = some s' ∧
      s'.pending 9 = false ∧
      (quietController.run [.raise 8, .raise 9, .clearPending 8]).pending 9 = true :=
  ⟨intc_refines_controller_but_clear.1 clearedIntc_tracks _ (by decide),
    intc_refines_controller_but_clear.2 clearedIntc quietController (by decide) (by decide) (by decide)⟩

end ChromeEc.It83xx.Irq
