import Mathlib.Logic.Function.Basic

/-! What the baytrail chipset module (power/baytrail.c) reads and drives. A call of the
module is modelled by the list of its effects on the outside world, in program order:
GPIO writes, wireless requests, hook notifications, sleep-mask and power-button calls,
and the two Signal Source queries whose answers decide its fault branches. Delays are
not modelled. -/
namespace ChromeEc.Power

/-- `enum power_state`: the steady states and the transitional ones. -/
inductive PowerState
  | g3 | s5 | s3 | s0 | g3s5 | s5s3 | s3s0 | s0s3 | s3s5 | s5g3
  deriving DecidableEq, Repr

/-- The outputs baytrail.c drives with `gpio_set_level`. -/
inductive Gpio
  | pchSysPwrok | pchRsmrstL | pchRcinL | cpuProchot | pchCorePwrok | vcoreEn
  | suspVrEn | pp1350En | pp3300DxEn | pp5000En | touchscreenResetL | enableTouchpad
  deriving DecidableEq, Repr

/-- `enum wireless_power_state`. -/
inductive WirelessState
  | off | suspend | on
  deriving DecidableEq, Repr

/-- The chipset hooks baytrail.c notifies. -/
inductive HookType
  | chipsetStartup | chipsetResume | chipsetSuspend | chipsetShutdown
  deriving DecidableEq, Repr

/-- The board power signals baytrail.c names (`X86_PGOOD_*`, `X86_SLP_*_DEASSERTED`).
Their bit numbers are board data; a mask is the list of signals it selects. -/
inductive PowerSignal
  | pgoodPp5000 | pgoodPp1050 | pgoodS5 | pgoodVcore | slpS3Deasserted | slpS4Deasserted
  deriving DecidableEq, Repr

def inPgoodS5 : List PowerSignal := [.pgoodS5]
def inPgoodAlwaysOn : List PowerSignal := inPgoodS5
def inPgoodAllNoncore : List PowerSignal := [.pgoodPp5000]
def inPgoodAllCore : List PowerSignal := [.pgoodVcore]
def inPgoodS3 : List PowerSignal := inPgoodAlwaysOn
def inPgoodS0 : List PowerSignal := inPgoodAlwaysOn ++ inPgoodAllNoncore
def inAllPmSlpDeasserted : List PowerSignal := [.slpS3Deasserted, .slpS4Deasserted]
def inAllS0 : List PowerSignal :=
  inPgoodAlwaysOn ++ inPgoodAllNoncore ++ inPgoodAllCore ++ inAllPmSlpDeasserted

/-- Modelled from the spec: `has_all(mask, required)` holds iff every signal of `required`
is asserted in `mask` (power/common.c, where `power_has_signals` lives, is not in src/). -/
def powerHasSignals (signals : PowerSignal → Bool) (want : List PowerSignal) : Bool :=
  want.all signals

/-- One effect of the chipset code on its collaborators. -/
inductive Effect
  | gpioSetLevel (signal : Gpio) (value : Bool)
  | wirelessSetState (state : WirelessState)
  | hookNotify (type : HookType)
  | disableSleep
  | enableSleep
  | powerButtonPchRelease
  | powerButtonPchPulse
  | powerHasSignals (want : List PowerSignal) (present : Bool)
  | powerWaitSignals (want : List PowerSignal) (timedOut : Bool)
  deriving DecidableEq, Repr

/-- A Signal Source query that reported a missing rail or a timeout. -/
def Effect.failedCheck : Effect → Bool
  | .powerHasSignals _ present => !present
  | .powerWaitSignals _ timedOut => timedOut
  | _ => false

/-- An effect that turns something on: a GPIO driven high, or wireless not off. -/
def Effect.enables : Effect → Bool
  | .gpioSetLevel _ value => value
  | .wirelessSetState state => state != .off
  | _ => false

/-- The levels of the EC's outputs and the last wireless request. -/
structure Outputs where
  level : Gpio → Bool
  wireless : WirelessState

/-- Every output low and wireless off: the EC after a cold reset. -/
def Outputs.allLow : Outputs := ⟨fun _ => false,.off⟩

def Outputs.perform (o : Outputs) : Effect → Outputs
  | .gpioSetLevel signal value => { o with level := Function.update o.level signal value }
  | .wirelessSetState state => { o with wireless := state }
  | _ => o

def Outputs.apply (o : Outputs) (effects : List Effect) : Outputs :=
  effects.foldl Outputs.perform o

@[simp] theorem Outputs.apply_nil (o : Outputs) : o.apply [] = o := rfl

@[simp] theorem Outputs.apply_cons (o : Outputs) (e : Effect) (effects : List Effect) :
    o.apply (e :: effects) = (o.perform e).apply effects := rfl

@[simp] theorem Outputs.apply_append (o : Outputs) (first second : List Effect) :
    o.apply (first ++ second) = (o.apply first).apply second := by
  simp [Outputs.apply, List.foldl_append]

@[simp] theorem Outputs.perform_level (o : Outputs) (signal : Gpio) (value : Bool) (g : Gpio) :
    (o.perform (.gpioSetLevel signal value)).level g = if g = signal then value else o.level g := by
  simp [Outputs.perform, Function.update_apply]

@[simp] theorem Outputs.perform_wireless_level (o : Outputs) (state : WirelessState) :
    (o.perform (.wirelessSetState state)).level = o.level := rfl

@[simp] theorem Outputs.perform_wireless (o : Outputs) (state : WirelessState) :
    (o.perform (.wirelessSetState state)).wireless = state := rfl

@[simp] theorem Outputs.perform_gpio_wireless (o : Outputs) (signal : Gpio) (value : Bool) :
    (o.perform (.gpioSetLevel signal value)).wireless = o.wireless := rfl

@[simp] theorem Outputs.perform_hookNotify (o : Outputs) (type : HookType) :
    o.perform (.hookNotify type) = o := rfl
@[simp] theorem Outputs.perform_disableSleep (o : Outputs) : o.perform .disableSleep = o := rfl
@[simp] theorem Outputs.perform_enableSleep (o : Outputs) : o.perform .enableSleep = o := rfl
@[simp] theorem Outputs.perform_powerButtonPchRelease (o : Outputs) :
    o.perform .powerButtonPchRelease = o := rfl
@[simp] theorem Outputs.perform_powerButtonPchPulse (o : Outputs) :
    o.perform .powerButtonPchPulse = o := rfl
@[simp] theorem Outputs.perform_powerHasSignals (o : Outputs) (want : List PowerSignal)
    (present : Bool) : o.perform (.powerHasSignals want present) = o := rfl
@[simp] theorem Outputs.perform_powerWaitSignals (o : Outputs) (want : List PowerSignal)
    (timedOut : Bool) : o.perform (.powerWaitSignals want timedOut) = o := rfl

end ChromeEc.Power
