import ChromeEc.Power.Chipset

/-! The baytrail chipset power state machine (power/baytrail.c): `power_handle_state` and
`power_chipset_init`, the calls other tasks and commands make into the module, and runs of
the chipset task built from them. -/
namespace ChromeEc.Power

/-- The module's static variables. -/
structure Vars where
  throttleCpu : Int
  pauseInS5 : Bool
  restartFromS5 : Bool
  fakePltrstTimeout : Bool
  deriving DecidableEq, Repr

/-- The statics at image start: `pause_in_s5 = 1`, the others zero. -/
def Vars.initial : Vars := ⟨0,true,false,false⟩

/-- What one `power_handle_state` call reads: the power signals, the PCH sleep lines, the
lid, the outcome of its k-th `power_wait_signals` call, the i-th PLTRST# poll, and whether
a USB port is powered. -/
structure Inputs where
  signals : PowerSignal → Bool
  slpS3L : Bool
  slpS4L : Bool
  lidOpen : Bool
  waitTimeout : Nat → Bool
  pltrstAsserted : Nat → Bool
  usbChargePortsEnabled : Bool

/-- Every power-good present, both PCH sleep lines asserted (low), the lid open, no wait
timing out and PLTRST# deasserted at the first poll: a board at rest. -/
def Inputs.settled : Inputs := ⟨fun _ => true,false,false,true,fun _ => false,fun _ => false,false⟩

/-- The state a call returns, the statics after it, and its effects in order. -/
structure Transition where
  next : PowerState
  vars : Vars
  effects : List Effect

def chipsetForceShutdown : List Effect :=
  [.gpioSetLevel .pchSysPwrok false, .gpioSetLevel .pchRsmrstL false]

/-- `chipset_reset`; a cold reset reads PCH_SYS_PWROK back and is ignored when it is low. -/
def chipsetReset (sysPwrok coldReset : Bool) : List Effect :=
  if coldReset then
    if !sysPwrok then []
    else [.gpioSetLevel .pchSysPwrok false, .gpioSetLevel .pchSysPwrok true]
  else [.gpioSetLevel .pchRcinL false, .gpioSetLevel .pchRcinL true]

/-- Modelled from the spec: the AP is on (`CHIPSET_STATE_ON`) exactly in S0, "fully on";
`chipset_in_state` lives in power/common.c, which is not in src/. -/
def chipsetInStateOn (state : PowerState) : Bool := state == .s0

def chipsetThrottleCpu (state : PowerState) (throttle : Int) : List Effect :=
  if chipsetInStateOn state then [.gpioSetLevel .cpuProchot (throttle != 0)] else []

/-- `power_chipset_init`: after a jump between images with every S0 input present the AP
is left in S0; after any other jump the G3 levels are forced; a cold boot does nothing. -/
def powerChipsetInit (jumped : Bool) (signals : PowerSignal → Bool) : PowerState × List Effect :=
  if jumped then
    if inAllS0.all signals then (.s0,[.disableSleep])
    else (.g3,[.gpioSetLevel .pchCorePwrok false, .gpioSetLevel .vcoreEn false,
      .gpioSetLevel .suspVrEn false, .gpioSetLevel .pp1350En false,
      .gpioSetLevel .pp3300DxEn false, .gpioSetLevel .pp5000En false,
      .gpioSetLevel .pchRsmrstL false, .gpioSetLevel .pchSysPwrok false,
      .wirelessSetState .off])
  else (.g3,[])

/-- The loop `for (i = 0; i < 50; i++) { usleep(MSEC); if (!lpc_get_pltrst_asserted()) break; }`
from index `i` with `n` iterations left; the result is the final `i`. -/
def pltrstPoll (asserted : Nat → Bool) (i : Nat) : Nat → Nat
  | 0 => i
  | n + 1 => if asserted i then pltrstPoll asserted (i + 1) n else i

def powerHandleState (usbPortPowerInS3 : Bool) (io : Inputs) (v : Vars) :
    PowerState → Transition
  | .g3 => ⟨.g3,v,[]⟩
  | .s5 => ⟨if io.slpS4L then .s5s3 else .s5,v,[]⟩
  | .s3 =>
    let present := powerHasSignals io.signals inPgoodS3
    let checked := [.gpioSetLevel .touchscreenResetL io.lidOpen, .powerHasSignals inPgoodS3 present]
    if !present then ⟨.s3s5,v,checked ++ chipsetForceShutdown⟩
    else if io.slpS3L then ⟨.s3s0,v,checked⟩
    else if !io.slpS4L then ⟨.s3s5,v,checked⟩
    else ⟨.s3,v,checked⟩
  | .s0 =>
    let present := powerHasSignals io.signals inPgoodS0
    let checked := [.powerHasSignals inPgoodS0 present]
    if !present then ⟨.s0s3,v,checked ++ chipsetForceShutdown⟩
    else if !io.slpS3L then ⟨.s0s3,v,checked⟩
    else ⟨.s0,v,checked⟩
  | .g3s5 =>
    let waited := [.gpioSetLevel .suspVrEn true, .powerWaitSignals inPgoodS5 (io.waitTimeout 0)]
    if io.waitTimeout 0 then
      ⟨.g3,v,waited ++ .gpioSetLevel .suspVrEn false :: chipsetForceShutdown⟩
    else ⟨.s5,v,waited ++ [.gpioSetLevel .pchRsmrstL true]⟩
  | .s5s3 =>
    let first := [.powerWaitSignals inPgoodAlwaysOn (io.waitTimeout 0)]
    if io.waitTimeout 0 then ⟨.s5g3,v,first ++ chipsetForceShutdown⟩
    else
      let second := first ++
        [.gpioSetLevel .pp1350En true, .powerWaitSignals inPgoodS3 (io.waitTimeout 1)]
      if io.waitTimeout 1 then ⟨.s5g3,v,second ++ chipsetForceShutdown⟩
      else ⟨.s3,v,second ++ [.gpioSetLevel .enableTouchpad true, .hookNotify .chipsetStartup]⟩
  | .s3s0 =>
    let waited := [.gpioSetLevel .pp5000En true, .gpioSetLevel .pp3300DxEn true,
      .wirelessSetState .on, .gpioSetLevel .touchscreenResetL true,
      .powerWaitSignals inPgoodS0 (io.waitTimeout 0)]
    if io.waitTimeout 0 then
      ⟨.s3,v,waited ++ chipsetForceShutdown ++ [.wirelessSetState .off,
        .gpioSetLevel .pp3300DxEn false, .gpioSetLevel .pp5000En false,
        .gpioSetLevel .touchscreenResetL false]⟩
    else
      let powered := waited ++ [.gpioSetLevel .vcoreEn true, .hookNotify .chipsetResume,
        .disableSleep, .gpioSetLevel .cpuProchot (v.throttleCpu != 0),
        .gpioSetLevel .pchSysPwrok true, .gpioSetLevel .pchCorePwrok true]
      if pltrstPoll io.pltrstAsserted 0 50 < 50 && !v.fakePltrstTimeout then ⟨.s0,v,powered⟩
      else ⟨.s0,{ v with restartFromS5 := true, fakePltrstTimeout := false },
        powered ++ .powerButtonPchRelease :: chipsetForceShutdown⟩
  | .s0s3 =>
    ⟨.s3,v,[.hookNotify .chipsetSuspend, .gpioSetLevel .pchSysPwrok false,
      .gpioSetLevel .pchCorePwrok false, .gpioSetLevel .vcoreEn false,
      .wirelessSetState .suspend, .enableSleep, .gpioSetLevel .cpuProchot false,
      .gpioSetLevel .pp3300DxEn false] ++
      (if usbPortPowerInS3 && io.usbChargePortsEnabled then []
       else [.gpioSetLevel .pp5000En false])⟩
  | .s3s5 =>
    let down := [.hookNotify .chipsetShutdown, .gpioSetLevel .pp5000En false,
      .wirelessSetState .off, .gpioSetLevel .enableTouchpad false,
      .gpioSetLevel .touchscreenResetL false, .gpioSetLevel .pp1350En false]
    if v.restartFromS5 then
      ⟨.g3s5,{ v with restartFromS5 := false },down ++ [.powerButtonPchPulse]⟩
    else ⟨if v.pauseInS5 then .s5 else .s5g3,v,down⟩
  | .s5g3 => ⟨.g3,v,[.gpioSetLevel .pchRsmrstL false, .gpioSetLevel .suspVrEn false]⟩

/-- Modelled from the spec: G3 "stays off until `power_chipset_init` or external request
moves to G3→S5"; the request (`chipset_exit_hard_off`, power/common.c) is not in src/. -/
def chipsetExitHardOff (state : PowerState) : PowerState :=
  if state = .g3 then .g3s5 else state

/-- One iteration of the chipset task, or a call another task or command makes into the
module between two iterations (`pause_in_s5` and `powerfail` are the tunables). -/
inductive Action
  | handleState (io : Inputs)
  | exitHardOff
  | forceShutdown
  | reset (coldReset : Bool)
  | throttleCpu (throttle : Int)
  | setPauseInS5 (pause : Bool)
  | powerfail

/-- The module with the outputs it drives; the build option `CONFIG_USB_PORT_POWER_IN_S3`
is fixed for a run. -/
structure Chipset where
  usbPortPowerInS3 : Bool
  state : PowerState
  vars : Vars
  outputs : Outputs

def perform (m : Chipset) : Action → Transition
  | .handleState io => powerHandleState m.usbPortPowerInS3 io m.vars m.state
  | .exitHardOff => ⟨chipsetExitHardOff m.state,m.vars,[]⟩
  | .forceShutdown => ⟨m.state,m.vars,chipsetForceShutdown⟩
  | .reset coldReset => ⟨m.state,m.vars,chipsetReset (m.outputs.level .pchSysPwrok) coldReset⟩
  | .throttleCpu throttle => ⟨m.state,m.vars,chipsetThrottleCpu m.state throttle⟩
  | .setPauseInS5 pause => ⟨m.state,{ m.vars with pauseInS5 := pause },[]⟩
  | .powerfail => ⟨m.state,{ m.vars with fakePltrstTimeout := true },[]⟩

def step (m : Chipset) (a : Action) : Chipset :=
  { m with state := (perform m a).next, vars := (perform m a).vars,
           outputs := m.outputs.apply (perform m a).effects }

def run (m : Chipset) (actions : List Action) : Chipset := actions.foldl step m

/-- Every effect of a run, in order. -/
def trace : Chipset → List Action → List Effect
  | _, [] => []
  | m, a :: actions => (perform m a).effects ++ trace (step m a) actions

/-- The module after `power_chipset_init` from the outputs the EC found. -/
def boot (usbPortPowerInS3 jumped : Bool) (signals : PowerSignal → Bool) (found : Outputs) :
    Chipset :=
  ⟨usbPortPowerInS3,(powerChipsetInit jumped signals).1,Vars.initial,
    found.apply (powerChipsetInit jumped signals).2⟩

/-- A state the module reaches: `power_chipset_init` from any outputs, then any actions. -/
def Reachable (m : Chipset) : Prop :=
  ∃ usbPortPowerInS3 jumped signals found actions,
    m = run (boot usbPortPowerInS3 jumped signals found) actions

@[simp] theorem run_nil (m : Chipset) : run m [] = m := rfl

@[simp] theorem run_cons (m : Chipset) (a : Action) (actions : List Action) :
    run m (a :: actions) = run (step m a) actions := rfl

@[simp] theorem trace_nil (m : Chipset) : trace m [] = [] := rfl

@[simp] theorem trace_cons (m : Chipset) (a : Action) (actions : List Action) :
    trace m (a :: actions) = (perform m a).effects ++ trace (step m a) actions := rfl

@[simp] theorem step_state (m : Chipset) (a : Action) : (step m a).state = (perform m a).next := rfl
@[simp] theorem step_vars (m : Chipset) (a : Action) : (step m a).vars = (perform m a).vars := rfl
@[simp] theorem step_outputs (m : Chipset) (a : Action) :
    (step m a).outputs = m.outputs.apply (perform m a).effects := rfl

@[simp] theorem step_usbPortPowerInS3 (m : Chipset) (a : Action) :
    (step m a).usbPortPowerInS3 = m.usbPortPowerInS3 := rfl

/-- A property of every action of a run, each judged in the state it is taken from. -/
def Always (P : Chipset → Action → Prop) : Chipset → List Action → Prop
  | _, [] => True
  | m, a :: actions => P m a ∧ Always P (step m a) actions

theorem run_invariant {Inv : Chipset → Prop} {P : Chipset → Action → Prop}
    (keeps : ∀ m a, Inv m → P m a → Inv (step m a)) :
    ∀ (m : Chipset) (actions : List Action), Inv m → Always P m actions → Inv (run m actions)
  | _, [], holds, _ => holds
  | m, a :: actions, holds, ⟨allowed, rest⟩ =>
    run_invariant keeps (step m a) actions (keeps m a holds allowed) rest

theorem run_append (m : Chipset) (first second : List Action) :
    run m (first ++ second) = run (run m first) second := List.foldl_append _ _ _ _

theorem run_keeps {Inv : Chipset → Prop} (keeps : ∀ m a, Inv m → Inv (step m a)) :
    ∀ (m : Chipset) (actions : List Action), Inv m → Inv (run m actions)
  | _, [], holds => holds
  | m, a :: actions, holds => run_keeps keeps (step m a) actions (keeps m a holds)

theorem Reachable.after {m : Chipset} (reached : Reachable m) (a : Action) :
    Reachable (step m a) := by
  obtain ⟨usb,jumped,signals,found,actions,rfl⟩ := reached
  exact ⟨usb,jumped,signals,found,actions ++ [a],by rw [run_append]; rfl⟩

theorem Reachable.induction {Inv : Chipset → Prop}
    (booted : ∀ usb jumped signals found, Inv (boot usb jumped signals found))
    (keeps : ∀ m a, Inv m → Inv (Power.step m a)) {m : Chipset} (reached : Reachable m) :
    Inv m := by
  obtain ⟨usb,jumped,signals,found,actions,rfl⟩ := reached
  exact run_keeps keeps _ actions (booted usb jumped signals found)

end ChromeEc.Power
