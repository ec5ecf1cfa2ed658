import Mathlib.Data.Fin.VecNotation
import Mathlib.Data.List.FinRange

/-! common/lightbar.c: the lightbar task and what it reads. The task runs the sequence
`cur_seq` names; a sequence either returns PENDING_MSG from a wait, when `lightbar_sequence`
has posted a request, or ends on its own, and the task then picks the next sequence. The
animation itself (LED levels, ramps, delays) is not modelled: a sequence is modelled by how it
can end and by the indices it reads `st.p.color` at. -/
namespace ChromeEc.Lightbar

/-- The sequences of `LIGHTBAR_MSG_LIST`, numbered in the order `sequences` gives. Modelled
from the spec: lightbar_msg_list.h is not in src/; ERROR is 0, the number `lightbar_sequence`
refuses, and the order of the others only fixes which number requests which sequence. -/
inductive LightbarSequence
  | error | s5 | s3 | s0 | s5s3 | s3s0 | s0s3 | s3s5 | stop | run | pulse | test | konami | tap
  deriving DecidableEq, Repr

def sequences : List LightbarSequence :=
  [.error, .s5, .s3, .s0, .s5s3, .s3s0, .s0s3, .s3s5, .stop, .run, .pulse, .test, .konami, .tap]

/-- `LIGHTBAR_NUM_SEQUENCES`. -/
def lightbarNumSequences : Nat := sequences.length

/-- `LB_BATTERY_LEVELS`, the length of the rows of `s0_idx` and `s3_idx` in `default_params`. -/
def lbBatteryLevels : Nat := 4

/-- `NUM_LEDS`: the konami table's LED 4 is `lb_set_rgb(NUM_LEDS, ...)`, all four LEDs. -/
def numLeds : Nat := 4

/-- `ARRAY_SIZE(st.p.color)`: `default_params` fills all eight. -/
def colorCount : Nat := 8

/-- The fields of `struct lightbar_params_v1` that the modelled code reads; any value of each
is a byte image `LIGHTBAR_CMD_SET_PARAMS_V1` can install. The timing and brightness fields
and the colors themselves are read only by the animation; only the indices into `color` are
kept. -/
structure Params where
  tapPctRed : UInt8
  tapPctGreen : UInt8
  tapIdx : Fin 3 → UInt8
  batteryThreshold : Fin (lbBatteryLevels - 1) → UInt8
  s0Idx : Fin 2 → Fin lbBatteryLevels → UInt8
  s3Idx : Fin 2 → Fin lbBatteryLevels → UInt8

def defaultParams : Params where
  tapPctRed := 10
  tapPctGreen := 97
  tapIdx := ![5,6,7]
  batteryThreshold := ![14,40,99]
  s0Idx := ![![5,4,4,4],![4,4,4,4]]
  s3Idx := ![![5,0xff,0xff,0xff],![0xff,0xff,0xff,0xff]]

/-- The battery part of `st`: `battery_level`, `battery_percent` and `battery_is_charging`,
which `get_battery_level` sets to 0 or 1. -/
structure Battery where
  level : Fin lbBatteryLevels
  percent : Int
  isCharging : Bool

/-- `st` and the task's own statics: `pending_msg`, whether the PENDING_MSG event is set and
not yet taken by a wait, and `demo_mode`. -/
structure State where
  curSeq : LightbarSequence
  prevSeq : LightbarSequence
  pendingMsg : LightbarSequence
  eventPending : Bool
  battery : Battery
  p : Params
  demoMode : Bool

/-- `lightbar_restore_state` without a saved state, with `pending_msg` and `demo_mode` as the
statics start (`DEMO_MODE_DEFAULT` off). -/
def State.initial : State :=
  ⟨.s5,.s5,.error,false,⟨⟨lbBatteryLevels - 1,by decide⟩,100,false⟩,defaultParams,false⟩

/-! ### Battery level -/

def quantizeBatteryLevel (p : Params) (pct : Int) : Nat :=
  (List.finRange (lbBatteryLevels - 1)).foldl
    (fun bl i => if pct ≥ (p.batteryThreshold i).toNat then bl + 1 else bl) 0

theorem quantizeBatteryLevel_lt (p : Params) (pct : Int) :
    quantizeBatteryLevel p pct < lbBatteryLevels := by
  have counted : ∀ (is : List (Fin (lbBatteryLevels - 1))) (bl : Nat),
      is.foldl (fun bl i => if pct ≥ (p.batteryThreshold i).toNat then bl + 1 else bl) bl ≤
        bl + is.length := by
    intro is
    induction is with
    | nil => simp
    | cons i is ih =>
      intro bl
      simp only [List.foldl_cons, List.length_cons]
      split_ifs
      · have := ih (bl + 1); omega
      · have := ih bl; omega
  have := counted (List.finRange (lbBatteryLevels - 1)) 0
  simp only [List.length_finRange] at this
  simp only [quantizeBatteryLevel, lbBatteryLevels] at this ⊢
  omega

/-- `get_battery_level`, given what `charge_get_percent()` and `charge_get_state()` answer:
`discharging` is `PWR_STATE_DISCHARGE == charge_get_state()`. -/
def getBatteryLevel (l : State) (pct : Int) (discharging : Bool) : State :=
  if l.demoMode then l
  else
    let bl := quantizeBatteryLevel l.p pct
    let threshold (i : Nat) : Int := if h : i < lbBatteryLevels - 1 then (l.p.batteryThreshold ⟨i,h⟩).toNat else 0
    let level :=
      if bl > l.battery.level.val ∧ pct ≥ threshold (bl - 1) + 1 then ⟨bl,quantizeBatteryLevel_lt _ _⟩
      else if bl < l.battery.level.val ∧ pct ≤ threshold bl - 1 then ⟨bl,quantizeBatteryLevel_lt _ _⟩
      else l.battery.level
    {l with battery := ⟨level,pct,!discharging⟩}

/-! ### Colors -/

/-- Index a `[2][LB_BATTERY_LEVELS]` table by `battery_is_charging` and `battery_level`. -/
def byBattery (table : Fin 2 → Fin lbBatteryLevels → UInt8) (b : Battery) : Nat :=
  (table (if b.isCharging then 1 else 0) b.level).toNat

/-- `ci` of `sequence_S3S0` and `sequence_S0`: `s0_idx[...]`, replaced by 0 when it is not
below `ARRAY_SIZE(st.p.color)`. -/
def s0ColorIndex (p : Params) (b : Battery) : Nat :=
  if byBattery p.s0Idx b ≥ colorCount then 0 else byBattery p.s0Idx b

/-- `ci` of `sequence_S3`: `s3_idx[...]`, with no pulse when it is not below
`ARRAY_SIZE(st.p.color)`. -/
def s3ColorIndex (p : Params) (b : Battery) : Option Nat :=
  if byBattery p.s3Idx b ≥ colorCount then none else some (byBattery p.s3Idx b)

/-- `base_color` of `sequence_TAP_inner`: RED, YELLOW or GREEN. -/
def tapBaseColor (p : Params) (b : Battery) : Fin 3 :=
  if b.percent < p.tapPctRed.toNat then 0 else if b.percent > p.tapPctGreen.toNat then 2 else 1

/-- `ci` of `sequence_TAP_inner`: `tap_idx[base_color]`, used as it is. -/
def tapColorIndex (p : Params) (b : Battery) : Nat := (p.tapIdx (tapBaseColor p b)).toNat

/-- The indices a sequence reads `st.p.color` at: `pulse_google_colors` reads LEDs 0 to
`NUM_LEDS - 1` (in S3S0 and S0S3), and S3S0, S0, S3 and TAP read `ci`. -/
def colorReads (p : Params) (b : Battery) : LightbarSequence → List Nat
  | .s3s0 => List.range numLeds ++ [s0ColorIndex p b]
  | .s0 => [s0ColorIndex p b]
  | .s0s3 => List.range numLeds
  | .s3 => (s3ColorIndex p b).toList
  | .tap => [tapColorIndex p b]
  | _ => []

/-! ### The task -/

/-- Whether a sequence has a wait where a request makes it return PENDING_MSG: a
`WAIT_OR_RET`, or the `task_wait_event` of `sequence_PULSE`. S5S3, RUN and KONAMI never wait
so; STOP waits in a loop of its own that returns 0. -/
def LightbarSequence.waits : LightbarSequence → Bool
  | .s5s3 | .stop | .run | .konami => false
  | _ => true

/-- Whether a sequence can return on its own, other than STOP: S0 and S3 loop until a
request. -/
def LightbarSequence.ends : LightbarSequence → Bool
  | .s0 | .s3 | .stop => false
  | _ => true

/-- How one run of the current sequence returned. -/
inductive Outcome
  | pendingMsg
  | done
  deriving DecidableEq, Repr

/-- The `else` branch of `lightbar_task`: the sequence that follows one that returned on its
own. The one-shot sequences go back to `prev_seq`. -/
def nextSequence (cur prev : LightbarSequence) : LightbarSequence :=
  match cur with
  | .s5s3 => .s3
  | .s3s0 => .s0
  | .s0s3 => .s3
  | .s3s5 => .s5
  | .test | .stop | .run | .error | .konami | .tap => prev
  | _ => cur

/-- One pass of the loop of `lightbar_task`, or `none` when the current sequence cannot return
that way. A sequence returns PENDING_MSG only from a wait that finds the event set, and takes
the event. `sequence_STOP` returns only when it takes the event with `pending_msg` RUN. -/
def lightbarTask (l : State) : Outcome → Option State
  | .pendingMsg =>
    if l.eventPending ∧ l.curSeq.waits then
      if l.curSeq ≠ l.pendingMsg then
        some {l with eventPending := false,prevSeq := l.curSeq,curSeq := l.pendingMsg}
      else some {l with eventPending := false}
    else none
  | .done =>
    if l.curSeq = .stop then
      if l.eventPending ∧ l.pendingMsg = .run then
        some {l with eventPending := false,curSeq := nextSequence l.curSeq l.prevSeq}
      else none
    else if l.curSeq.ends then some {l with curSeq := nextSequence l.curSeq l.prevSeq}
    else none

/-- `lightbar_sequence(num)`: a number from 1 to `LIGHTBAR_NUM_SEQUENCES - 1` becomes
`pending_msg` and sets the event; any other is ignored. -/
def lightbarSequence (l : State) (num : Nat) : State :=
  if 0 < num ∧ num < lightbarNumSequences then
    {l with pendingMsg := sequences.getD num .error,eventPending := true}
  else l

/-- What can happen to the lightbar: a request (from the chipset hooks, the host's
`LIGHTBAR_CMD_SEQ` or the console), a pass of the task's loop, `get_battery_level` run by a
sequence with the charger's answers, and the host's `LIGHTBAR_CMD_SET_PARAMS_V1` and
`LIGHTBAR_CMD_DEMO`. -/
inductive Action
  | sequence (num : Nat)
  | task (outcome : Outcome)
  | batteryLevel (pct : Int) (discharging : Bool)
  | setParams (p : Params)
  | demo (num : UInt8)

def step (l : State) : Action → Option State
  | .sequence num => some (lightbarSequence l num)
  | .task outcome => lightbarTask l outcome
  | .batteryLevel pct discharging => some (getBatteryLevel l pct discharging)
  | .setParams p => some {l with p}
  | .demo num => some {l with demoMode := num ≠ 0}

def run (l : State) (actions : List Action) : Option State := actions.foldlM step l

/-- The states some run from the start reaches. -/
inductive Reachable : State → Prop
  | initial : Reachable State.initial
  | step {l l' : State} (a : Action) : Reachable l → step l a = some l' → Reachable l'

theorem reachable_of_run {l : State} (actions : List Action) (reached : Reachable l) :
    ∀ {l'}, run l actions = some l' → Reachable l' := by
  induction actions generalizing l with
  | nil =>
    intro l' ran
    cases ran
    exact reached
  | cons a actions ih =>
    intro l' ran
    simp only [run, List.foldlM_cons, Option.bind_eq_bind, Option.bind_eq_some] at ran
    obtain ⟨next,stepped,rest⟩ := ran
    exact ih (reached.step a stepped) rest

end ChromeEc.Lightbar
