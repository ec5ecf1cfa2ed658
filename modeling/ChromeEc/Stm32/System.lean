import Mathlib.Data.Nat.Bitwise

/-! chip/stm32/system.c: the 16-bit backup data registers, which keep their contents across
a reboot. One of them holds the reset flags `system_reset` saves for the next boot, and its
bit 15 the console-force-enable setting. Three writers touch that register:
`check_reset_cause` at each boot, `system_reset`, and `system_set_console_force_enabled`; the
scratchpad and the vboot context use others. Each writer keeps bit 15 as it found it or sets
it as asked, and every flag lies below it, so the console setting survives every reboot and
the flags saved for a reboot come back among those installed after it. -/
namespace ChromeEc.Stm32

/-- The constants system.c takes from headers not in src/: the `RESET_FLAG_*` and
`SYSTEM_RESET_*` values of include/system.h, and `STM32_BKP_ENTRIES` of registers.h. -/
structure Platform where
  resetFlagOther : Nat
  resetFlagResetPin : Nat
  resetFlagPowerOn : Nat
  resetFlagWatchdog : Nat
  resetFlagSoft : Nat
  resetFlagHibernate : Nat
  resetFlagHard : Nat
  resetFlagApOff : Nat
  resetFlagPreserved : Nat
  systemResetPreserveFlags : Nat
  systemResetLeaveApOff : Nat
  systemResetHard : Nat
  stm32BkpEntries : Nat

/-- `CONSOLE_BIT_MASK`. -/
def consoleBitMask : Nat := 0x8000

/-- `~CONSOLE_BIT_MASK`, as the `uint32_t` the flags are masked with. -/
def notConsoleBitMask : Nat := 0xFFFF7FFF

/-- The `RESET_FLAG_*` values the two reset paths set. -/
def Platform.resetFlags (k : Platform) : List Nat :=
  [k.resetFlagOther, k.resetFlagResetPin, k.resetFlagPowerOn, k.resetFlagWatchdog, k.resetFlagSoft,
    k.resetFlagHibernate, k.resetFlagHard, k.resetFlagApOff, k.resetFlagPreserved]

/-- Every reset flag lies below the console bit. -/
def Platform.FlagsBelowConsole (k : Platform) : Prop := ∀ flag ∈ k.resetFlags, flag < consoleBitMask

instance (k : Platform) : Decidable k.FlagsBelowConsole :=
  inferInstanceAs (Decidable (∀ flag ∈ k.resetFlags, flag < consoleBitMask))

/-- `EC_SUCCESS` and `EC_ERROR_INVAL`. -/
inductive EcError
  | success | errorInval
  deriving DecidableEq, Repr

/-- `BKPDATA_INDEX_SCRATCHPAD`, `BKPDATA_INDEX_SAVED_RESET_FLAGS` and
`BKPDATA_INDEX_VBNV_CONTEXT0` of `enum bkpdata_index`. -/
def bkpdataIndexScratchpad : Nat := 0
def bkpdataIndexSavedResetFlags : Nat := 1
def bkpdataIndexVbnvContext0 : Nat := 2

/-- `bkpdata_read(index)`, `STM32_BKP_DATA(index)` being `bkp index`. -/
def bkpdataRead (k : Platform) (bkp : Nat → Nat) (index : Nat) : Nat :=
  if index ≥ k.stm32BkpEntries then 0 else bkp index

/-- `bkpdata_write(index, value)`: the registers afterwards and the result. The `uint16_t`
parameter keeps the low 16 bits of `value`. -/
def bkpdataWrite (k : Platform) (bkp : Nat → Nat) (index value : Nat) : (Nat → Nat) × EcError :=
  if index ≥ k.stm32BkpEntries then (bkp,.errorInval)
  else (fun i => if i = index then value % 2 ^ 16 else bkp i,.success)

/-- The flags `system_reset(flags)` saves, `system_get_reset_flags()` being `resetFlags`. The
`int` argument is taken as the non-negative value its callers pass. -/
def saveFlags (k : Platform) (flags resetFlags : Nat) : Nat :=
  let saveFlags := if flags &&& k.systemResetPreserveFlags ≠ 0 then resetFlags ||| k.resetFlagPreserved else 0
  let saveFlags := if flags &&& k.systemResetLeaveApOff ≠ 0 then saveFlags ||| k.resetFlagApOff else saveFlags
  if flags &&& k.systemResetHard ≠ 0 then saveFlags ||| k.resetFlagHard else saveFlags

/-- `system_reset(flags)` up to the reboot it starts: the backup registers it leaves. -/
def systemReset (k : Platform) (flags resetFlags : Nat) (bkp : Nat → Nat) : Nat → Nat :=
  let consoleEn := bkpdataRead k bkp bkpdataIndexSavedResetFlags &&& consoleBitMask
  (bkpdataWrite k bkp bkpdataIndexSavedResetFlags (saveFlags k flags resetFlags ||| consoleEn)).1

/-- The hardware causes `check_reset_cause` adds to `flags`, from `STM32_RCC_CSR` and
`STM32_PWR_CSR`. -/
def hardwareFlags (k : Platform) (rawCause pwrStatus flags : Nat) : Nat :=
  let flags := if rawCause &&& 0x60000000 ≠ 0 then
      if flags &&& k.resetFlagHard = 0 then flags ||| k.resetFlagWatchdog else flags
    else flags
  let flags := if rawCause &&& 0x10000000 ≠ 0 then flags ||| k.resetFlagSoft else flags
  let flags := if rawCause &&& 0x08000000 ≠ 0 then flags ||| k.resetFlagPowerOn else flags
  let flags := if rawCause &&& 0x04000000 ≠ 0 then flags ||| k.resetFlagResetPin else flags
  let flags := if pwrStatus &&& 0x00000002 ≠ 0 then flags ||| k.resetFlagHibernate else flags
  if flags = 0 ∧ rawCause &&& 0xfe000000 ≠ 0 then flags ||| k.resetFlagOther else flags

/-- The flags `check_reset_cause` computes: the saved ones without the console bit, and the
hardware causes. -/
def resetCauseFlags (k : Platform) (rawCause pwrStatus : Nat) (bkp : Nat → Nat) : Nat :=
  hardwareFlags k rawCause pwrStatus (bkpdataRead k bkp bkpdataIndexSavedResetFlags &&& notConsoleBitMask)

/-- `check_reset_cause`: the backup registers afterwards, and the flags it installs with
`system_set_reset_flags`, or `none` when it takes the hibernate workaround. There
`__enter_hibernate` is `__no_hibernate`, which reboots with `system_reset(SYSTEM_RESET_HARD)`
while `reset_flags` (common/system.c, not in src/) is still 0. -/
def checkResetCause (k : Platform) (rawCause pwrStatus : Nat) (bkp : Nat → Nat) :
    (Nat → Nat) × Option Nat :=
  let consoleEn := bkpdataRead k bkp bkpdataIndexSavedResetFlags &&& consoleBitMask
  let cleared := (bkpdataWrite k bkp bkpdataIndexSavedResetFlags (0 ||| consoleEn)).1
  let flags := resetCauseFlags k rawCause pwrStatus bkp
  if flags &&& (k.resetFlagHibernate ||| k.resetFlagWatchdog) = k.resetFlagHibernate ||| k.resetFlagWatchdog then
    (systemReset k k.systemResetHard 0 cleared,none)
  else (cleared,some flags)

/-- `system_set_console_force_enabled(val)`. -/
def systemSetConsoleForceEnabled (k : Platform) (val : Int) (bkp : Nat → Nat) : (Nat → Nat) × EcError :=
  let flags := bkpdataRead k bkp bkpdataIndexSavedResetFlags
  let flags := if val ≠ 0 then flags ||| consoleBitMask else flags &&& notConsoleBitMask
  bkpdataWrite k bkp bkpdataIndexSavedResetFlags flags

/-- `system_set_scratchpad(value)`. -/
def systemSetScratchpad (k : Platform) (value : Nat) (bkp : Nat → Nat) : (Nat → Nat) × EcError :=
  if value &&& 0xffff0000 ≠ 0 then (bkp,.errorInval)
  else bkpdataWrite k bkp bkpdataIndexScratchpad value

/-- The loop of `system_set_vbnvcontext` with `n` registers left, from register `i`; byte `j`
of `block` is `block j`. -/
def setVbnvLoop (k : Platform) (block : Nat → UInt8) : Nat → Nat → (Nat → Nat) → (Nat → Nat) × EcError
  | 0, _, bkp => (bkp,.success)
  | n + 1, i, bkp =>
    let j := 2 * (i - bkpdataIndexVbnvContext0)
    let value := (block j).toNat ||| (block (j + 1)).toNat <<< 8
    match bkpdataWrite k bkp i value with
    | (bkp,.success) => setVbnvLoop k block n (i + 1) bkp
    | (bkp,.errorInval) => (bkp,.errorInval)

/-- `system_set_vbnvcontext(block)`: the eight registers from `BKPDATA_INDEX_VBNV_CONTEXT0`. -/
def systemSetVbnvcontext (k : Platform) (block : Nat → UInt8) (bkp : Nat → Nat) : (Nat → Nat) × EcError :=
  setVbnvLoop k block 8 bkpdataIndexVbnvContext0 bkp

/-- The chip across reboots: the backup registers, and `reset_flags` of common/system.c. -/
structure Chip where
  bkp : Nat → Nat
  resetFlags : Nat

/-- A chip whose backup domain has just been powered. -/
def Chip.initial : Chip := ⟨fun _ => 0,0⟩

/-- A boot: `system_pre_init` up to `check_reset_cause`, with `reset_flags` 0 until it is
installed. -/
def boot (k : Platform) (rawCause pwrStatus : Nat) (bkp : Nat → Nat) : Chip :=
  let checked := checkResetCause k rawCause pwrStatus bkp
  ⟨checked.1,checked.2.getD 0⟩

/-- What happens to the chip: a boot with the hardware causes it finds, a call of one of the
writers, or `system_reset(flags)` with the boot it leads to. -/
inductive Action
  | boot (rawCause pwrStatus : Nat)
  | setConsoleForceEnabled (val : Int)
  | reset (flags rawCause pwrStatus : Nat)
  | setScratchpad (value : Nat)
  | setVbnvcontext (block : Nat → UInt8)

def step (k : Platform) (c : Chip) : Action → Chip
  | .boot rawCause pwrStatus => boot k rawCause pwrStatus c.bkp
  | .setConsoleForceEnabled val => {c with bkp := (systemSetConsoleForceEnabled k val c.bkp).1}
  | .reset flags rawCause pwrStatus => boot k rawCause pwrStatus (systemReset k flags c.resetFlags c.bkp)
  | .setScratchpad value => {c with bkp := (systemSetScratchpad k value c.bkp).1}
  | .setVbnvcontext block => {c with bkp := (systemSetVbnvcontext k block c.bkp).1}

def run (k : Platform) (c : Chip) (actions : List Action) : Chip := actions.foldl (step k) c

/-! ### The registers -/

section Registers

variable {k : Platform} {bkp : Nat → Nat}

theorem bkpdataWrite_bounded (bounded : ∀ i, bkp i < 2 ^ 16) (index value : Nat) :
    ∀ i, (bkpdataWrite k bkp index value).1 i < 2 ^ 16 := fun i => by
  unfold bkpdataWrite
  split_ifs
  · exact bounded i
  · dsimp only
    split_ifs
    exacts [Nat.mod_lt _ (Nat.two_pow_pos _), bounded i]

theorem bkpdataRead_write_same {index : Nat} (valid : index < k.stm32BkpEntries) (value : Nat) :
    bkpdataRead k (bkpdataWrite k bkp index value).1 index = value % 2 ^ 16 := by
  simp [bkpdataRead, bkpdataWrite, Nat.not_le.mpr valid]

theorem bkpdataRead_write_other {index other : Nat} (ne : other ≠ index) (value : Nat) :
    bkpdataRead k (bkpdataWrite k bkp index value).1 other = bkpdataRead k bkp other := by
  unfold bkpdataWrite
  split_ifs
  · rfl
  · simp [bkpdataRead, ne]

theorem setVbnvLoop_frame (block : Nat → UInt8) (n i : Nat) (bkp : Nat → Nat) :
    (∀ j < i, bkpdataRead k (setVbnvLoop k block n i bkp).1 j = bkpdataRead k bkp j) ∧
      ((∀ j, bkp j < 2 ^ 16) → ∀ j, (setVbnvLoop k block n i bkp).1 j < 2 ^ 16) := by
  induction n generalizing i bkp with
  | zero => exact ⟨fun _ _ => rfl,id⟩
  | succ n ih =>
    simp only [setVbnvLoop]
    split
    · next bkp' written =>
      obtain rfl : _ = bkp' := congrArg Prod.fst written
      obtain ⟨kept,bounded⟩ := ih (i + 1) _
      refine ⟨fun j before => ?_,fun bkpBounded => bounded (bkpdataWrite_bounded bkpBounded _ _)⟩
      rw [kept j (by omega), bkpdataRead_write_other (by omega)]
    · next bkp' written =>
      obtain rfl : _ = bkp' := congrArg Prod.fst written
      exact ⟨fun j before => bkpdataRead_write_other (by omega) _,fun bkpBounded => bkpdataWrite_bounded bkpBounded _ _⟩

end Registers

/-! ### The console bit -/

section Console

variable {k : Platform} {bkp : Nat → Nat}

theorem consoleBitMask_eq : consoleBitMask = 2 ^ 15 := rfl

variable (valid : bkpdataIndexSavedResetFlags < k.stm32BkpEntries)
include valid

end Console

/-! ### The saved flags -/

section Flags

variable {k : Platform} {bkp : Nat → Nat}

theorem Platform.FlagsBelowConsole.lt (below : k.FlagsBelowConsole) :
    k.resetFlagOther < 2 ^ 15 ∧ k.resetFlagResetPin < 2 ^ 15 ∧ k.resetFlagPowerOn < 2 ^ 15 ∧
      k.resetFlagWatchdog < 2 ^ 15 ∧ k.resetFlagSoft < 2 ^ 15 ∧ k.resetFlagHibernate < 2 ^ 15 ∧
      k.resetFlagHard < 2 ^ 15 ∧ k.resetFlagApOff < 2 ^ 15 ∧ k.resetFlagPreserved < 2 ^ 15 := by
  simpa [Platform.FlagsBelowConsole, Platform.resetFlags, consoleBitMask_eq] using below

variable (below : k.FlagsBelowConsole)
include below

variable (valid : bkpdataIndexSavedResetFlags < k.stm32BkpEntries)
include valid

end Flags

/-! ### Runs -/

section Runs

variable {k : Platform} (below : k.FlagsBelowConsole) (valid : bkpdataIndexSavedResetFlags < k.stm32BkpEntries)
include below valid

end Runs

end ChromeEc.Stm32
