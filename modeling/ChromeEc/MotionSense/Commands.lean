import ChromeEc.MotionSense.Memmap

/-! common/motion_sense.c: the host command `EC_CMD_MOTION_SENSE_CMD`, the chipset hooks that
switch the sampling interval, the start and the passes of `motion_sense_task` with the wait
between passes, and the accelerometer console commands. The accelerometer driver is not in src/:
what it stores for a requested data rate or range is a parameter. The build is taken without
`CONFIG_LID_ANGLE_KEY_SCAN`, so `MOTIONSENSE_CMD_KB_WAKE_ANGLE` answers 0. -/
namespace ChromeEc.MotionSense

/-- The `MOTIONSENSE_CMD_*` subcommands, `EC_MOTION_SENSOR_ACCEL_*`, `EC_MOTION_SENSE_NO_VALUE`
and the flag, type, location and chip codes of the responses (ec_commands.h, not in src/). -/
def motionsenseCmdDump : Nat := 0
def motionsenseCmdInfo : Nat := 1
def motionsenseCmdEcRate : Nat := 2
def motionsenseCmdSensorOdr : Nat := 3
def motionsenseCmdSensorRange : Nat := 4
def motionsenseCmdKbWakeAngle : Nat := 5
def ecMotionSensorAccelBase : Nat := 0
def ecMotionSensorAccelLid : Nat := 1
def ecMotionSenseNoValue : Int := -1
def motionsenseModuleFlagActive : Nat := 1
def motionsenseSensorFlagPresent : Nat := 1
def motionsenseTypeAccel : Nat := 0
def motionsenseLocBase : Nat := 0
def motionsenseLocLid : Nat := 1
def motionsenseChipKxcj9 : Nat := 0

/-- The board's `enum accel_id` (board files, not in src/): `ACCEL_BASE`, `ACCEL_LID` and
`ACCEL_COUNT`. -/
def accelBase : Int := 0
def accelLid : Int := 1
def accelCount : Int := 2

/-- `MIN_POLLING_INTERVAL_MS`, `MAX_POLLING_INTERVAL_MS`, the initial `accel_interval_ap_on_ms`,
`accel_interval_ap_suspend_ms` and `MIN_MOTION_SENSE_WAIT_TIME` (1 ms, in microseconds). -/
def minPollingIntervalMs : Int := 5
def maxPollingIntervalMs : Int := 1000
def accelIntervalApOnMsInitial : Int := 10
def accelIntervalApSuspendMs : Int := 100
def minMotionSenseWaitTime : Int := 1000

/-- `enum ec_status` (ec_commands.h, not in src/): the results `host_cmd_motion_sense` returns. -/
inductive EcStatus
  | success | invalidParam
  deriving DecidableEq, Repr

/-- The fields of `struct ec_params_motion_sense` the command reads: `cmd`; the sensor number,
read as `sensor_odr.sensor_num` for INFO, SENSOR_ODR and SENSOR_RANGE alike; `roundup` and the
`int32` `data` of SENSOR_ODR and SENSOR_RANGE; and the `int16` `data` of EC_RATE. -/
structure Params where
  cmd : Nat
  sensorNum : Nat := 0
  roundup : Nat := 0
  data : Int := 0
  rate : Int := 0
  deriving DecidableEq, Repr

/-- The member of `struct ec_response_motion_sense` the command fills in. -/
inductive Response
  | dump (moduleFlags : Nat) (sensorFlags : List Nat) (data : List Int)
  | info (type location chip : Nat)
  | ecRate (ret : Int)
  | sensorOdr (ret : Int)
  | sensorRange (ret : Int)
  | kbWakeAngle (ret : Int)
  deriving DecidableEq, Repr

/-- The accelerometer driver's setters (not in src/): for an EC sensor id, a requested value and
the roundup flag, the value `accel_set_datarate` or `accel_set_range` stores, or `none` when it
does not return `EC_SUCCESS` and stores nothing. -/
structure Driver where
  setDatarate : Nat → Int → Nat → Option Int
  setRange : Nat → Int → Nat → Option Int

/-- What the command, the hooks and the task keep: `accel_interval_ap_on_ms`,
`accel_interval_ms`, the memory map, `sample_id`, `acc_base_host` and `acc_lid_host`, the data
rate and range each sensor's driver holds (what `accel_get_datarate` and `accel_get_range`
report), and whether `motion_sense_task` is past its initialisation. -/
structure Motion where
  accelIntervalApOnMs : Int
  accelIntervalMs : Int
  memmap : Memmap
  sampleId : Nat
  accBaseHost : Fin 3 → Int
  accLidHost : Fin 3 → Int
  datarate : Nat → Int
  range : Nat → Int
  started : Bool

/-- `host_sensor_id_to_ec_sensor_id`. -/
def hostSensorIdToEcSensorId (hostId : Nat) : Int :=
  if hostId = ecMotionSensorAccelBase then accelBase
  else if hostId = ecMotionSensorAccelLid then accelLid
  else -1

/-- The new `accel_interval_ap_on_ms` of `MOTIONSENSE_CMD_EC_RATE` for a value `data`. -/
def boundInterval (data : Int) : Int :=
  let data := if data < minPollingIntervalMs then minPollingIntervalMs else data
  if data > maxPollingIntervalMs then maxPollingIntervalMs else data

/-- A sensor's data rate or range after a successful set. -/
def setAt (f : Nat → Int) (id : Nat) (v : Int) : Nat → Int := fun i => if i = id then v else f i

/-- `host_cmd_motion_sense`: the result, the response it fills in, and the state after. -/
def hostCmdMotionSense (d : Driver) (p : Params) (s : Motion) : EcStatus × Option Response × Motion :=
  if p.cmd = motionsenseCmdDump then
    (.success, some (.dump
      (if s.memmap.status &&& ecMemmapAccStatusPresenceBit ≠ 0 then motionsenseModuleFlagActive else 0)
      [motionsenseSensorFlagPresent, motionsenseSensorFlagPresent, 0]
      [s.accBaseHost 0, s.accBaseHost 1, s.accBaseHost 2, s.accLidHost 0, s.accLidHost 1,
        s.accLidHost 2]), s)
  else if p.cmd = motionsenseCmdInfo then
    let id := hostSensorIdToEcSensorId p.sensorNum
    if id < 0 then (.invalidParam, none, s)
    else if id = accelBase then
      (.success, some (.info motionsenseTypeAccel motionsenseLocBase motionsenseChipKxcj9), s)
    else if id = accelLid then
      (.success, some (.info motionsenseTypeAccel motionsenseLocLid motionsenseChipKxcj9), s)
    else (.invalidParam, none, s)
  else if p.cmd = motionsenseCmdEcRate then
    let s := if p.rate ≠ ecMotionSenseNoValue then
        {s with accelIntervalApOnMs := boundInterval p.rate, accelIntervalMs := boundInterval p.rate}
      else s
    (.success, some (.ecRate s.accelIntervalApOnMs), s)
  else if p.cmd = motionsenseCmdSensorOdr then
    let id := hostSensorIdToEcSensorId p.sensorNum
    if id < 0 then (.invalidParam, none, s)
    else if p.data ≠ ecMotionSenseNoValue then
      match d.setDatarate id.toNat p.data p.roundup with
      | none => (.invalidParam, none, s)
      | some v =>
        let s := {s with datarate := setAt s.datarate id.toNat v}
        (.success, some (.sensorOdr (s.datarate id.toNat)), s)
    else (.success, some (.sensorOdr (s.datarate id.toNat)), s)
  else if p.cmd = motionsenseCmdSensorRange then
    let id := hostSensorIdToEcSensorId p.sensorNum
    if id < 0 then (.invalidParam, none, s)
    else if p.data ≠ ecMotionSenseNoValue then
      match d.setRange id.toNat p.data p.roundup with
      | none => (.invalidParam, none, s)
      | some v =>
        let s := {s with range := setAt s.range id.toNat v}
        (.success, some (.sensorRange (s.range id.toNat)), s)
    else (.success, some (.sensorRange (s.range id.toNat)), s)
  else if p.cmd = motionsenseCmdKbWakeAngle then (.success, some (.kbWakeAngle 0), s)
  else (.invalidParam, none, s)

/-- `set_ap_suspend_polling` (HOOK_CHIPSET_SUSPEND). -/
def setApSuspendPolling (s : Motion) : Motion := {s with accelIntervalMs := accelIntervalApSuspendMs}

/-- `set_ap_on_polling` (HOOK_CHIPSET_RESUME). -/
def setApOnPolling (s : Motion) : Motion := {s with accelIntervalMs := s.accelIntervalApOnMs}

/-- The initialisation of `motion_sense_task` once `accel_init` succeeded for both sensors: the
suspend interval, the default range and data rate (what the driver stores, if it accepts them;
the default resolution is not part of the state), and the presence bit. -/
def motionSenseStart (d : Driver) (s : Motion) : Motion :=
  let range (id : Nat) (r : Nat → Int) := (d.setRange id 2 1).elim r (setAt r id)
  let rate (id : Nat) (r : Nat → Int) := (d.setDatarate id 100000 1).elim r (setAt r id)
  { s with
    accelIntervalMs := accelIntervalApSuspendMs
    range := range accelBase.toNat (range accelLid.toNat s.range)
    datarate := rate accelBase.toNat (rate accelLid.toNat s.datarate)
    memmap := s.memmap.store (.orStatus ecMemmapAccStatusPresenceBit)
    started := true }

/-- One pass of the loop of `motion_sense_task`: the vectors rotated into the host's frame and the
stores to the memory map (`sample` as in `passStores`: the lid angle, then the base and lid
vectors). -/
def motionSensePass (sample : Fin 7 → Int) (s : Motion) : Motion :=
  { s with
    accBaseHost := fun i => sample ⟨i.val + 1, by omega⟩
    accLidHost := fun i => sample ⟨i.val + 4, by omega⟩
    memmap := (passStores s.sampleId sample).foldl Memmap.store s.memmap
    sampleId := nextSampleId s.sampleId }

/-- The `int` a wider integer converts to on the ARM targets: its low 32 bits, read in two's
complement. -/
def int32 (x : Int) : Int :=
  (x + ((2 ^ 31 : Nat) : Int)) % ((2 ^ 32 : Nat) : Int) - ((2 ^ 31 : Nat) : Int)

theorem int32_emod_of_lt {x : Int} (lo : -((2 ^ 31 : Nat) : Int) ≤ x) (hi : x < ((2 ^ 31 : Nat) : Int)) :
    int32 (x % ((2 ^ 64 : Nat) : Int)) = x := by
  unfold int32
  push_cast at lo hi ⊢
  omega

/-- The wait at the end of a pass that began at `ts0` and ended at `ts1` (`get_time()`, in µs):
`accel_interval_ms * MSEC - (ts1.val - ts0.val)`, computed in `uint64_t` and stored into the
`int wait_us`, and at least `MIN_MOTION_SENSE_WAIT_TIME`. -/
def motionSenseWait (s : Motion) (ts0 ts1 : Nat) : Int :=
  let elapsed := ((ts1 : Int) - ts0) % ((2 ^ 64 : Nat) : Int)
  let waitUs := int32 ((s.accelIntervalMs * 1000 - elapsed) % ((2 ^ 64 : Nat) : Int))
  if waitUs < minMotionSenseWaitTime then minMotionSenseWaitTime else waitUs

/-- The state at boot: the statics' initial values, an empty memory map, and a driver that holds
`range0` and `rate0`. -/
def Motion.boot (range0 rate0 : Nat → Int) : Motion :=
  ⟨accelIntervalApOnMsInitial, 0, ⟨0, fun _ => 0⟩, 0, fun _ => 0, fun _ => 0, rate0, range0, false⟩

/-- What happens to the module: a host command, a chipset hook, the task's initialisation, or a
pass of its loop (which only runs once the task started). -/
inductive Event
  | host (p : Params)
  | suspend
  | resume
  | start
  | pass (sample : Fin 7 → Int)

def Motion.step (d : Driver) (s : Motion) : Event → Motion
  | .host p => (hostCmdMotionSense d p s).2.2
  | .suspend => setApSuspendPolling s
  | .resume => setApOnPolling s
  | .start => if s.started then s else motionSenseStart d s
  | .pass sample => if s.started then motionSensePass sample s else s

def Motion.run (d : Driver) (s : Motion) (events : List Event) : Motion :=
  events.foldl (Motion.step d) s

/-! ### Refused requests -/

/-- The requests `host_cmd_motion_sense` refuses: an unknown subcommand; for INFO, SENSOR_ODR or
SENSOR_RANGE a sensor number that is neither the base's nor the lid's; and for SENSOR_ODR or
SENSOR_RANGE with a value, a value the driver does not accept. -/
def Refused (d : Driver) (p : Params) : Prop :=
  motionsenseCmdKbWakeAngle < p.cmd ∨
  (p.cmd = motionsenseCmdInfo ∨ p.cmd = motionsenseCmdSensorOdr ∨ p.cmd = motionsenseCmdSensorRange) ∧
    1 < p.sensorNum ∨
  p.cmd = motionsenseCmdSensorOdr ∧ p.sensorNum ≤ 1 ∧ p.data ≠ ecMotionSenseNoValue ∧
    d.setDatarate p.sensorNum p.data p.roundup = none ∨
  p.cmd = motionsenseCmdSensorRange ∧ p.sensorNum ≤ 1 ∧ p.data ≠ ecMotionSenseNoValue ∧
    d.setRange p.sensorNum p.data p.roundup = none

theorem hostSensorIdToEcSensorId_eq (hostId : Nat) :
    hostSensorIdToEcSensorId hostId = if hostId ≤ 1 then (hostId : Int) else -1 := by
  unfold hostSensorIdToEcSensorId ecMotionSensorAccelBase ecMotionSensorAccelLid accelBase accelLid
  split_ifs <;> omega

theorem hostCmdMotionSense_invalid_unchanged (d : Driver) (p : Params) (s : Motion)
    (invalid : (hostCmdMotionSense d p s).1 = .invalidParam) :
    (hostCmdMotionSense d p s).2 = (none, s) := by
  revert invalid
  rcases p with ⟨cmd, n, roundup, data, rate⟩
  rcases (by omega : 5 < cmd ∨ cmd = 0 ∨ cmd = 1 ∨ cmd = 2 ∨ cmd = 3 ∨ cmd = 4 ∨ cmd = 5) with
    big | rfl | rfl | rfl | rfl | rfl | rfl
  · obtain ⟨c0, c1, c2, c3, c4, c5⟩ : cmd ≠ 0 ∧ cmd ≠ 1 ∧ cmd ≠ 2 ∧ cmd ≠ 3 ∧ cmd ≠ 4 ∧ cmd ≠ 5 := by
      omega
    simp [hostCmdMotionSense, motionsenseCmdDump, motionsenseCmdInfo, motionsenseCmdEcRate,
      motionsenseCmdSensorOdr, motionsenseCmdSensorRange, motionsenseCmdKbWakeAngle,
      c0, c1, c2, c3, c4, c5]
  all_goals simp only [hostCmdMotionSense, motionsenseCmdDump, motionsenseCmdInfo,
    motionsenseCmdEcRate, motionsenseCmdSensorOdr, motionsenseCmdSensorRange,
    motionsenseCmdKbWakeAngle, Nat.reduceEqDiff, ↓reduceIte]
  all_goals
    repeat' split
    all_goals first | exact fun _ => rfl | exact fun refused => nomatch refused

/-- `host_cmd_motion_sense` returns `EC_RES_INVALID_PARAM` exactly for the refused requests, and
then fills in no response and changes nothing. -/
theorem hostCmdMotionSense_refuses (d : Driver) (p : Params) (s : Motion) :
    ((hostCmdMotionSense d p s).1 = .invalidParam ↔ Refused d p) ∧
    ((hostCmdMotionSense d p s).1 = .invalidParam → (hostCmdMotionSense d p s).2 = (none, s)) := by
  refine ⟨?_, hostCmdMotionSense_invalid_unchanged d p s⟩
  rcases p with ⟨cmd, n, roundup, data, rate⟩
  simp only [hostCmdMotionSense, Refused, hostSensorIdToEcSensorId_eq, motionsenseCmdDump,
    motionsenseCmdInfo, motionsenseCmdEcRate, motionsenseCmdSensorOdr, motionsenseCmdSensorRange,
    motionsenseCmdKbWakeAngle, accelBase, accelLid]
  rcases (by omega : cmd = 0 ∨ cmd = 1 ∨ cmd = 2 ∨ cmd = 3 ∨ cmd = 4 ∨ cmd = 5 ∨ 5 < cmd) with
    rfl | rfl | rfl | rfl | rfl | rfl | big
  · simp
  · by_cases sensor : n ≤ 1
    · rcases (by omega : n = 0 ∨ n = 1) with rfl | rfl <;> simp
    · simp [sensor, Nat.lt_of_not_le sensor]
  · simp
  · by_cases sensor : n ≤ 1
    · have : ¬((n : Int) < 0) := by omega
      by_cases noValue : data = ecMotionSenseNoValue <;> cases h : d.setDatarate n data roundup <;>
        simp [noValue, h, sensor, this]
    · simp [sensor, Nat.lt_of_not_le sensor]
  · by_cases sensor : n ≤ 1
    · have : ¬((n : Int) < 0) := by omega
      by_cases noValue : data = ecMotionSenseNoValue <;> cases h : d.setRange n data roundup <;>
        simp [noValue, h, sensor, this]
    · simp [sensor, Nat.lt_of_not_le sensor]
  · simp
  · obtain ⟨c0, c1, c2, c3, c4, c5⟩ : cmd ≠ 0 ∧ cmd ≠ 1 ∧ cmd ≠ 2 ∧ cmd ≠ 3 ∧ cmd ≠ 4 ∧ cmd ≠ 5 := by
      omega
    simp [big, c0, c1, c2, c3, c4, c5]

theorem hostCmdMotionSense_cases (d : Driver) (p : Params) (s : Motion) :
    (hostCmdMotionSense d p s).2.2 = s ∨
    (hostCmdMotionSense d p s).2.2 =
      {s with accelIntervalApOnMs := boundInterval p.rate, accelIntervalMs := boundInterval p.rate} ∨
    (∃ id v, (hostCmdMotionSense d p s).2.2 = {s with datarate := setAt s.datarate id v}) ∨
    (∃ id v, (hostCmdMotionSense d p s).2.2 = {s with range := setAt s.range id v}) := by
  rcases p with ⟨cmd, n, roundup, data, rate⟩
  rcases (by omega : cmd = 0 ∨ cmd = 1 ∨ cmd = 2 ∨ cmd = 3 ∨ cmd = 4 ∨ 4 < cmd) with
    rfl | rfl | rfl | rfl | rfl | big
  all_goals simp only [hostCmdMotionSense, motionsenseCmdDump, motionsenseCmdInfo,
    motionsenseCmdEcRate, motionsenseCmdSensorOdr, motionsenseCmdSensorRange,
    motionsenseCmdKbWakeAngle, Nat.reduceEqDiff, ↓reduceIte]
  · exact .inl trivial
  · left; split_ifs <;> rfl
  · by_cases noValue : rate = ecMotionSenseNoValue
    · exact .inl (by simp [noValue])
    · exact .inr (.inl (by simp [noValue]))
  · split_ifs
    · exact .inl rfl
    · split
      · exact .inl rfl
      · exact .inr (.inr (.inl ⟨_, _, rfl⟩))
    · exact .inl rfl
  · split_ifs
    · exact .inl rfl
    · split
      · exact .inl rfl
      · exact .inr (.inr (.inr ⟨_, _, rfl⟩))
    · exact .inl rfl
  · obtain ⟨c0, c1, c2, c3, c4⟩ : cmd ≠ 0 ∧ cmd ≠ 1 ∧ cmd ≠ 2 ∧ cmd ≠ 3 ∧ cmd ≠ 4 := by omega
    simp only [c0, c1, c2, c3, c4, ↓reduceIte]
    split <;> exact .inl rfl

/-! ### The sampling interval over runs -/

/-- What EC_RATE and the hooks keep of the polling intervals: the AP-on interval within the
bounds EC_RATE enforces and, once the task started, the current one too. -/
structure Motion.Bounded (s : Motion) : Prop where
  apOn : minPollingIntervalMs ≤ s.accelIntervalApOnMs ∧ s.accelIntervalApOnMs ≤ maxPollingIntervalMs
  current : s.started = true →
    minPollingIntervalMs ≤ s.accelIntervalMs ∧ s.accelIntervalMs ≤ maxPollingIntervalMs

theorem boundInterval_bounds (data : Int) :
    minPollingIntervalMs ≤ boundInterval data ∧ boundInterval data ≤ maxPollingIntervalMs := by
  simp only [boundInterval, minPollingIntervalMs, maxPollingIntervalMs]
  split_ifs <;> omega

theorem Motion.boot_bounded (range0 rate0 : Nat → Int) : (Motion.boot range0 rate0).Bounded :=
  ⟨show minPollingIntervalMs ≤ accelIntervalApOnMsInitial ∧
    accelIntervalApOnMsInitial ≤ maxPollingIntervalMs by decide, nofun⟩

theorem Motion.Bounded.step {d : Driver} {s : Motion} (bounded : s.Bounded) (event : Event) :
    (s.step d event).Bounded := by
  have suspend : minPollingIntervalMs ≤ accelIntervalApSuspendMs ∧
      accelIntervalApSuspendMs ≤ maxPollingIntervalMs := by decide
  cases event with
  | host p =>
    rcases hostCmdMotionSense_cases d p s with same | rate | ⟨_, _, rates⟩ | ⟨_, _, ranges⟩
    · rw [Motion.step, same]; exact bounded
    · rw [Motion.step, rate]
      exact ⟨boundInterval_bounds p.rate, fun _ => boundInterval_bounds p.rate⟩
    · rw [Motion.step, rates]; exact ⟨bounded.apOn, bounded.current⟩
    · rw [Motion.step, ranges]; exact ⟨bounded.apOn, bounded.current⟩
  | suspend => exact ⟨bounded.apOn, fun _ => suspend⟩
  | resume => exact ⟨bounded.apOn, fun _ => bounded.apOn⟩
  | start =>
    show (if s.started then s else motionSenseStart d s).Bounded
    split
    · exact bounded
    · exact ⟨bounded.apOn, fun _ => suspend⟩
  | pass sample =>
    show (if s.started then motionSensePass sample s else s).Bounded
    split
    · exact ⟨bounded.apOn, bounded.current⟩
    · exact bounded

theorem Motion.Bounded.run {d : Driver} {s : Motion} (bounded : s.Bounded) (events : List Event) :
    (s.run d events).Bounded := by
  induction events generalizing s with
  | nil => exact bounded
  | cons event events ih => exact ih (bounded.step event)

/-- Whatever the host sends through EC_RATE and whenever the chipset suspends or resumes, once
`motion_sense_task` started, a pass that took less than 2^31 µs (about 35 minutes), so that the
`uint64_t` difference fits the `int` it is stored in, ends with a wait between 1 ms and 1 s, and
the pass and its wait together take at least `MIN_POLLING_INTERVAL_MS`. -/
theorem motionSenseWait_bounded (d : Driver) (range0 rate0 : Nat → Int) (events : List Event)
    (started : ((Motion.boot range0 rate0).run d events).started = true) {ts0 ts1 : Nat}
    (later : ts0 ≤ ts1) (short : ts1 - ts0 < 2 ^ 31) :
    minMotionSenseWaitTime ≤ motionSenseWait ((Motion.boot range0 rate0).run d events) ts0 ts1 ∧
    motionSenseWait ((Motion.boot range0 rate0).run d events) ts0 ts1 ≤ maxPollingIntervalMs * 1000 ∧
    minPollingIntervalMs * 1000 ≤
      ((ts1 - ts0 : Nat) : Int) + motionSenseWait ((Motion.boot range0 rate0).run d events) ts0 ts1 := by
  have current := ((Motion.boot_bounded range0 rate0).run events).current started
  simp only [motionSenseWait, minMotionSenseWaitTime, minPollingIntervalMs,
    maxPollingIntervalMs] at current ⊢
  generalize ((Motion.boot range0 rate0).run d events).accelIntervalMs = interval at current ⊢
  have elapsed : ((ts1 : Int) - ts0) % ((2 ^ 64 : Nat) : Int) = ((ts1 - ts0 : Nat) : Int) := by
    push_cast; omega
  rw [elapsed, int32_emod_of_lt (by push_cast; omega) (by push_cast; omega)]
  split_ifs <;> omega

/-- A driver that stores every value it is asked for. -/
def acceptAll : Driver := ⟨fun _ v _ => some v, fun _ v _ => some v⟩

theorem wait_after_start :
    ((Motion.boot (fun _ => 2) (fun _ => 100000)).run acceptAll [.start]).started = true ∧
    minMotionSenseWaitTime ≤
      motionSenseWait ((Motion.boot (fun _ => 2) (fun _ => 100000)).run acceptAll [.start]) 0 300 ∧
    motionSenseWait ((Motion.boot (fun _ => 2) (fun _ => 100000)).run acceptAll [.start]) 0 300 ≤
      maxPollingIntervalMs * 1000 ∧
    minPollingIntervalMs * 1000 ≤ ((300 - 0 : Nat) : Int) +
      motionSenseWait ((Motion.boot (fun _ => 2) (fun _ => 100000)).run acceptAll [.start]) 0 300 :=
  ⟨rfl, motionSenseWait_bounded acceptAll _ _ [.start] rfl (by decide) (by decide)⟩

/-! ### The presence bit -/

theorem passStores_status (id : Nat) (sample : Fin 7 → Int) (m : Memmap) :
    ((passStores id sample).foldl Memmap.store m).status =
      ecMemmapAccStatusPresenceBit ||| nextSampleId id := by
  simp [passStores, dataStores, List.foldl_append, Memmap.store]

theorem presenceBit_or (x : Nat) : (ecMemmapAccStatusPresenceBit ||| x) &&& ecMemmapAccStatusPresenceBit ≠ 0 := by
  intro zero
  have bit : ((ecMemmapAccStatusPresenceBit ||| x) &&& ecMemmapAccStatusPresenceBit).testBit 7 = true := by
    have : ecMemmapAccStatusPresenceBit.testBit 7 = true := by decide
    simp [this]
  rw [zero, Nat.zero_testBit] at bit
  exact Bool.false_ne_true bit

/-- Once `motion_sense_task` started, the presence bit of the status byte is set: the start sets
it and every pass writes the status byte with it. -/
def Motion.Present (s : Motion) : Prop :=
  s.started = true → s.memmap.status &&& ecMemmapAccStatusPresenceBit ≠ 0

theorem Motion.Present.step {d : Driver} {s : Motion} (present : s.Present) (event : Event) :
    (s.step d event).Present := by
  cases event with
  | host p =>
    show (hostCmdMotionSense d p s).2.2.Present
    rcases hostCmdMotionSense_cases d p s with h | h | ⟨_, _, h⟩ | ⟨_, _, h⟩ <;> rw [h] <;>
      exact present
  | suspend => exact present
  | resume => exact present
  | start =>
    show (if s.started then s else motionSenseStart d s).Present
    split
    · exact present
    · exact fun _ => by
        simpa [motionSenseStart, Memmap.store, Nat.or_comm] using presenceBit_or s.memmap.status
  | pass sample =>
    show (if s.started then motionSensePass sample s else s).Present
    split
    · exact fun _ => by
        simpa [motionSensePass, passStores_status] using presenceBit_or (nextSampleId s.sampleId)
    · exact present

theorem Motion.Present.run {d : Driver} {s : Motion} (present : s.Present) (events : List Event) :
    (s.run d events).Present := by
  induction events generalizing s with
  | nil => exact present
  | cons event events ih => exact ih (present.step event)

/-- Once `motion_sense_task` started, whatever the host sent and the task stored since,
`MOTIONSENSE_CMD_DUMP` reports the module active. -/
theorem dump_reports_active (d : Driver) (range0 rate0 : Nat → Int) (events : List Event)
    (started : ((Motion.boot range0 rate0).run d events).started = true) :
    ∃ flags data, (hostCmdMotionSense d {cmd := motionsenseCmdDump}
      ((Motion.boot range0 rate0).run d events)).2.1 = some (.dump motionsenseModuleFlagActive flags data) := by
  have present := (show (Motion.boot range0 rate0).Present from nofun).run (d := d) events started
  simp [hostCmdMotionSense, present]

theorem dump_after_start : ((Motion.boot (fun _ => 2) (fun _ => 100000)).run acceptAll
      [.start, .host {cmd := motionsenseCmdEcRate, rate := 20}]).started = true ∧
    ∃ flags data, (hostCmdMotionSense acceptAll {cmd := motionsenseCmdDump}
      ((Motion.boot (fun _ => 2) (fun _ => 100000)).run acceptAll
        [.start, .host {cmd := motionsenseCmdEcRate, rate := 20}])).2.1 =
      some (.dump motionsenseModuleFlagActive flags data) :=
  ⟨rfl, dump_reports_active acceptAll _ _ _ rfl⟩

/-! ### Console commands -/

/-- `enum ec_error_list` (common.h, not in src/): what the console commands return, and what the
driver's setters return to them (`unknown` standing for any other error). -/
inductive EcError
  | success | unknown | inval | param1 | param2 | param3 | paramCount
  deriving DecidableEq, Repr

/-- The settings the console commands read and write through the accelerometer driver. -/
inductive AccelSetting
  | range | resolution | datarate
  deriving DecidableEq, Repr

/-- A call a console command makes to the accelerometer driver (accelerometer.h, not in src/):
`accel_set_*(id, data, round)`, `accel_get_*(id, &data)` or `accel_set_interrupt(id, thresh)`. -/
inductive AccelCall
  | set (setting : AccelSetting) (id data round : Int)
  | get (setting : AccelSetting) (id : Int)
  | setInterrupt (id thresh : Int)
  deriving DecidableEq, Repr

/-- The sensor a driver call is about. -/
def AccelCall.id : AccelCall → Int
  | .set _ id _ _ => id
  | .get _ id => id
  | .setInterrupt id _ => id

/-- The body `command_accelrange`, `command_accelresolution` and `command_acceldatarate` share,
for the setting each reads and writes. `argv` is the command line as `strtoi(argv[i], &e, 0)`
(common/util.c, not in src/) reads each word: `some n` when the whole word is the number `n`,
`none` when `*e` stops on a character of it; `argv[0]`, the command's name, is not read. `answer`
is what the driver's setter returns. The result is the command's error code and the driver call
it makes. -/
def accelSettingCommand (setting : AccelSetting) (argv : List (Option Int)) (answer : EcError) :
    EcError × Option AccelCall :=
  if argv.length < 2 ∨ argv.length > 4 then (.paramCount, none)
  else match argv.getD 1 none with
    | none => (.param1, none)
    | some id =>
      if id < 0 ∨ id > accelCount then (.param1, none)
      else if argv.length ≥ 3 then
        match argv.getD 2 none with
        | none => (.param2, none)
        | some data =>
          match (if argv.length = 4 then argv.getD 3 none else some 1) with
          | none => (.param3, none)
          | some round =>
            (if answer = .inval then .param2 else .success, some (.set setting id data round))
      else (.success, some (.get setting id))

/-- `command_accelrange`. -/
def commandAccelrange (argv : List (Option Int)) (answer : EcError) : EcError × Option AccelCall :=
  accelSettingCommand .range argv answer

/-- `command_accelresolution`. -/
def commandAccelresolution (argv : List (Option Int)) (answer : EcError) :
    EcError × Option AccelCall :=
  accelSettingCommand .resolution argv answer

/-- `command_acceldatarate`. -/
def commandAcceldatarate (argv : List (Option Int)) (answer : EcError) :
    EcError × Option AccelCall :=
  accelSettingCommand .datarate argv answer

/-- `command_accelerometer_interrupt` (`CONFIG_ACCEL_INTERRUPTS`), with checks of its own:
exactly two arguments, and a sensor id below `ACCEL_COUNT`. -/
def commandAccelerometerInterrupt (argv : List (Option Int)) : EcError × Option AccelCall :=
  if argv.length ≠ 3 then (.paramCount, none)
  else match argv.getD 1 none with
    | none => (.param1, none)
    | some id =>
      if id < 0 ∨ id ≥ accelCount then (.param1, none)
      else match argv.getD 2 none with
        | none => (.param2, none)
        | some thresh => (.success, some (.setInterrupt id thresh))

theorem accelSettingCommand_calls (setting : AccelSetting) (argv : List (Option Int))
    (answer : EcError) {call : AccelCall} (made : (accelSettingCommand setting argv answer).2 = some call) :
    0 ≤ call.id ∧ call.id ≤ accelCount := by
  unfold accelSettingCommand at made
  split at made
  · cases made
  split at made
  · cases made
  rename_i id _
  split at made
  · cases made
  have bounds : 0 ≤ id ∧ id ≤ accelCount := by omega
  split at made
  · split at made
    · cases made
    split at made
    · cases made
    · cases made; exact bounds
  · cases made; exact bounds

theorem commandAccelerometerInterrupt_calls (argv : List (Option Int)) {call : AccelCall}
    (made : (commandAccelerometerInterrupt argv).2 = some call) : 0 ≤ call.id ∧ call.id < accelCount := by
  unfold commandAccelerometerInterrupt at made
  split at made
  · cases made
  split at made
  · cases made
  rename_i id _
  split at made
  · cases made
  have bounds : 0 ≤ id ∧ id < accelCount := by omega
  split at made
  · cases made
  · cases made; exact bounds

/-- `accelrange`, `accelres` and `accelrate` test the sensor id with `id > ACCEL_COUNT`, where
`accelint` tests `id >= ACCEL_COUNT`. So every driver call of the three names a sensor from 0 to
`ACCEL_COUNT`, and a write for any id of that range reaches the driver, `ACCEL_COUNT` included,
which names no sensor; every call of `accelint` names one below `ACCEL_COUNT`, and it refuses
`ACCEL_COUNT` with `EC_ERROR_PARAM1`. -/
theorem accel_commands_reach_missing_sensor (setting : AccelSetting) (answer : EcError) :
    (∀ argv call, (accelSettingCommand setting argv answer).2 = some call →
      0 ≤ call.id ∧ call.id ≤ accelCount) ∧
    (∀ argv call, (commandAccelerometerInterrupt argv).2 = some call →
      0 ≤ call.id ∧ call.id < accelCount) ∧
    ∀ name id data thresh,
      (accelSettingCommand setting [name, some id, some data] answer).2 =
        (if 0 ≤ id ∧ id ≤ accelCount then some (.set setting id data 1) else none) ∧
      commandAccelerometerInterrupt [name, some id, some thresh] =
        if 0 ≤ id ∧ id < accelCount then (.success, some (.setInterrupt id thresh))
        else (.param1, none) := by
  refine ⟨fun argv _ => accelSettingCommand_calls setting argv answer,
    fun argv _ => commandAccelerometerInterrupt_calls argv, fun name id data thresh => ⟨?_, ?_⟩⟩
  · by_cases inRange : 0 ≤ id ∧ id ≤ accelCount
    · simp [accelSettingCommand, inRange, not_or.mpr (show ¬ id < 0 ∧ ¬ id > accelCount by omega)]
    · simp [accelSettingCommand, inRange, show id < 0 ∨ id > accelCount by omega]
  · by_cases inRange : 0 ≤ id ∧ id < accelCount
    · simp [commandAccelerometerInterrupt, inRange,
        not_or.mpr (show ¬ id < 0 ∧ ¬ id ≥ accelCount by omega)]
    · simp [commandAccelerometerInterrupt, inRange, show id < 0 ∨ id ≥ accelCount by omega]

end ChromeEc.MotionSense
