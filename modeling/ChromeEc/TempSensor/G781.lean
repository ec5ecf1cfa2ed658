import Mathlib.Tactic.Ring

/-! drivers/temp_sensor/g781.c: the G781 sensor's two temperatures, read over I2C once a
second by `temp_sensor_poll` and reported by `g781_get_val`. A read's outcome is the bus's
answer, an input of the poll. `get_temp` treats only a negative result as a failure, and the
poll converts to Kelvin whatever `get_temp` left: after a failed read the reported value is
no longer the last good reading, but 273 K more than the value before (a negative error
code) or 0 °C in Kelvin (a positive one, the EC's own codes). -/
namespace ChromeEc.TempSensor

/-- What `i2c_read8` answers for one register: `EC_SUCCESS` with the byte, or a non-zero
error code. -/
inductive I2cRead
  | ok (byte : UInt8)
  | error (code : Int) (failed : code ≠ 0)

/-- `i2c_read8(port, addr, offset, &data)` (common/i2c.c, not in src/): the result, and
`data`, which takes the byte read only when the transfer succeeded. -/
def i2cRead8 (answer : I2cRead) (data : Int) : Int × Int :=
  match answer with
  | .ok byte => (0,byte.toNat)
  | .error code _ => (code,data)

/-- `(int)(int8_t)x`: the low byte of `x`, sign-extended. -/
def int8 (x : Int) : Int := (x + 128) % 256 - 128

/-- `C_TO_K` of include/temp_sensor.h (not in src/): `((temp_c) + 273)`. -/
def cToK (tempC : Int) : Int := tempC + 273

/-- `get_temp(offset, &temp)`: its result and what `temp` holds afterwards. `temp_raw`
starts at 0. -/
def getTemp (answer : I2cRead) (temp : Int) : Int × Int :=
  let read := i2cRead8 answer 0
  if read.1 < 0 then (read.1,temp) else (0,int8 read.2)

/-- `temp_val_local` and `temp_val_remote`. -/
structure G781 where
  tempValLocal : Int
  tempValRemote : Int

/-- One register's update in `temp_sensor_poll`: `get_temp(offset, &temp_val)`, then
`temp_val = C_TO_K(temp_val)`. -/
def pollRegister (answer : I2cRead) (temp : Int) : Int := cToK (getTemp answer temp).2

/-- `temp_sensor_poll`, given `has_power()` and the outcomes of its reads of
`G781_TEMP_LOCAL` and `G781_TEMP_REMOTE`. -/
def tempSensorPoll (powered : Bool) (localRead remoteRead : I2cRead) (s : G781) : G781 :=
  if !powered then s
  else ⟨pollRegister localRead s.tempValLocal,pollRegister remoteRead s.tempValRemote⟩

/-- `G781_IDX_INTERNAL` and `G781_IDX_EXTERNAL` of g781.h (not in src/). -/
def g781IdxInternal : Int := 0
def g781IdxExternal : Int := 1

/-- The errors of `g781_get_val`: `EC_ERROR_NOT_POWERED` and `EC_ERROR_UNKNOWN`. -/
inductive G781Error
  | errorNotPowered | errorUnknown
  deriving DecidableEq, Repr

/-- `g781_get_val(idx, &temp)`: the value it reports, or its error. -/
def g781GetVal (powered : Bool) (idx : Int) (s : G781) : Except G781Error Int :=
  if !powered then .error .errorNotPowered
  else if idx = g781IdxInternal then .ok s.tempValLocal
  else if idx = g781IdxExternal then .ok s.tempValRemote
  else .error .errorUnknown

/-- A poll, with the sensor's power and the bus's answers. -/
structure Poll where
  powered : Bool
  localRead : I2cRead
  remoteRead : I2cRead

def run (s : G781) (polls : List Poll) : G781 :=
  polls.foldl (fun s poll => tempSensorPoll poll.powered poll.localRead poll.remoteRead s) s

/-! ### The two temperatures alike -/

/-- The two temperatures the sensor reports. -/
inductive Sensor
  | internal | external
  deriving DecidableEq, Repr

def Sensor.idx : Sensor → Int
  | .internal => g781IdxInternal
  | .external => g781IdxExternal

/-- The stored value of a sensor's temperature. -/
def G781.value (s : G781) : Sensor → Int
  | .internal => s.tempValLocal
  | .external => s.tempValRemote

/-- The outcome of a poll's read of a sensor's register. -/
def Poll.read (poll : Poll) : Sensor → I2cRead
  | .internal => poll.localRead
  | .external => poll.remoteRead

theorem g781GetVal_idx (s : G781) (sensor : Sensor) : g781GetVal true sensor.idx s = .ok (s.value sensor) := by
  cases sensor <;> rfl

theorem tempSensorPoll_value (poll : Poll) (s : G781) (sensor : Sensor) :
    (tempSensorPoll poll.powered poll.localRead poll.remoteRead s).value sensor =
      if poll.powered then pollRegister (poll.read sensor) (s.value sensor) else s.value sensor := by
  cases poll.powered <;> cases sensor <;> rfl

/-! ### What a poll stores -/

theorem pollRegister_eq (answer : I2cRead) (temp : Int) :
    pollRegister answer temp =
      match answer with
      | .ok byte => cToK (int8 byte.toNat)
      | .error code _ => if code < 0 then cToK temp else cToK 0 := by
  cases answer with
  | ok byte => simp [pollRegister, getTemp, i2cRead8]
  | error code failed =>
    rcases Int.lt_or_gt_of_ne failed with negative | positive
    · simp [pollRegister, getTemp, i2cRead8, negative]
    · simp [pollRegister, getTemp, i2cRead8, Int.not_lt.mpr (Int.le_of_lt positive), int8]

/-- What the sensor is meant to report: C_TO_K of the sign-extended byte of the last
successful read of its register, the value it started with before any; a failed read or an
unpowered poll changes nothing. -/
def lastReading (sensor : Sensor) (start : Int) (polls : List Poll) : Int :=
  polls.foldl (fun v poll =>
    if poll.powered then
      match poll.read sensor with
      | .ok byte => cToK (int8 byte.toNat)
      | .error _ _ => v
    else v) start

/-- A failed read changes the temperature `g781_get_val` reports: a negative code adds
273 K to the value the sensor had, a positive code reports 0 °C; the meant value stays. -/
theorem failed_read_changes_reported_temperature :
    (∀ (s : G781) (poll : Poll) (sensor : Sensor) (code : Int) (failed : code < 0),
      poll.powered = true → poll.read sensor = .error code (Int.ne_of_lt failed) →
      g781GetVal true sensor.idx (run s [poll]) = .ok (s.value sensor + 273) ∧
        lastReading sensor (s.value sensor) [poll] = s.value sensor) ∧
    (∀ (s : G781) (poll : Poll) (sensor : Sensor) (code : Int) (failed : 0 < code),
      poll.powered = true → poll.read sensor = .error code (Int.ne_of_gt failed) →
      g781GetVal true sensor.idx (run s [poll]) = .ok 273 ∧
        lastReading sensor (s.value sensor) [poll] = s.value sensor) := by
  refine ⟨fun s poll sensor code failed powered read => ?_,fun s poll sensor code failed powered read => ?_⟩
  all_goals
    simp only [run, lastReading, List.foldl_cons, List.foldl_nil, g781GetVal_idx]
    rw [tempSensorPoll_value]
    simp only [powered, if_true, read, pollRegister_eq]
  · simp [failed, cToK]
  · simp [Int.not_lt.mpr (Int.le_of_lt failed), cToK]

end ChromeEc.TempSensor
