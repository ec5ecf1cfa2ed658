import Mathlib.Data.Int.Bitwise

/-! driver/battery/bq27541.c: the BQ27541 fuel gauge, read over I2C. The driver's transfers go
through `i2c_read8`, `i2c_read16` and `i2c_write16` (i2c.c, not in src/), which are the gauge's
`Bus` here: a read either fails with a nonzero error code and stores nothing, or stores the byte
or 16-bit word it read.

`battery_device_name` is modelled with the stores it makes to the caller's buffer. With
`buf_size` at least 1 it stores a terminated name of at most `buf_size - 1` characters inside the
buffer; with `buf_size` 0 it still stores the terminator, at `device_name[0]`, outside it. -/
namespace ChromeEc.Battery.Bq27541

/-- `EC_SUCCESS` and `EC_ERROR_UNKNOWN` (common.h, not in src/). -/
def ecSuccess : Int := 0
def ecErrorUnknown : Int := 1

def bq27541TypeId : Int := 0x0541

def regCtrl : Nat := 0x00
def regAtRate : Nat := 0x02
def regAtRateTimeToEmpty : Nat := 0x04
def regTemperature : Nat := 0x06
def regVoltage : Nat := 0x08
def regFlags : Nat := 0x0a
def regRemainingCapacity : Nat := 0x10
def regFullChargeCapacity : Nat := 0x12
def regAverageCurrent : Nat := 0x14
def regTimeToEmpty : Nat := 0x16
def regTimeToFull : Nat := 0x18
def regCycleCount : Nat := 0x2a
def regStateOfCharge : Nat := 0x2c
def regDesignCapacity : Nat := 0x3c
def regDeviceNameLength : Nat := 0x62
def regDeviceName : Nat := 0x63

/-- The gauge at `BQ27541_ADDR` on `I2C_PORT_BATTERY` as the I2C calls see it, by register
offset. -/
structure Bus where
  read8 : Nat → Except Int (Fin 256)
  read16 : Nat → Except Int (Fin 65536)
  write16 : Nat → Int → Int
  read8_error : ∀ offset e, read8 offset = .error e → e ≠ 0
  read16_error : ∀ offset e, read16 offset = .error e → e ≠ 0

/-- A read's return code. -/
def rvOf {n : Nat} : Except Int (Fin n) → Int
  | .error e => e
  | .ok _ => ecSuccess

/-- What an `int` read into holds after the read: the value read, or what it held. -/
def storedOr {n : Nat} (old : Int) : Except Int (Fin n) → Int
  | .error _ => old
  | .ok v => ((v : Nat) : Int)

/-- `bq27541_read(offset, &data)`: the return code and `data` after it. -/
def bq27541Read (bus : Bus) (offset : Nat) (data : Int) : Int × Int :=
  (rvOf (bus.read16 offset), storedOr data (bus.read16 offset))

/-- `bq27541_probe()`, with what the uninitialised `dev_type` holds. The read is made even when
the write fails. -/
def bq27541Probe (bus : Bus) (devType : Int) : Int :=
  let rv := bus.write16 regCtrl 0x1
  let (read, devType) := bq27541Read bus regCtrl devType
  let rv := rv.lor read
  if rv ≠ 0 then rv else if devType = bq27541TypeId then ecSuccess else ecErrorUnknown

/-- The `for` loop of `battery_device_name` from character `i`, `count` more to read: the return
code, and the stores to `device_name`, the terminator last. -/
def nameLoop (bus : Bus) : Nat → Nat → Int → Int → Int × List (Nat × Int)
  | 0, i, rv, _ => (rv, [(i, 0)])
  | count + 1, i, rv, val =>
    let answer := bus.read8 (regDeviceName + i)
    let rest := nameLoop bus count (i + 1) (rv.lor (rvOf answer)) (storedOr val answer)
    (rest.1, (i, storedOr val answer) :: rest.2)

/-- `battery_device_name(device_name, buf_size)`: the return code and its stores to
`device_name`, each an index and the `int` stored there as a `char`. -/
def batteryDeviceName (bus : Bus) (bufSize : Int) : Int × List (Nat × Int) :=
  let len := min 7 (bufSize - 1)
  match bus.read8 regDeviceNameLength with
  | .error e => (e, [])
  | .ok v => nameLoop bus (min len ((v : Nat) : Int)).toNat 0 ecSuccess ((v : Nat) : Int)

def batteryRemainingCapacity (bus : Bus) (capacity : Int) : Int × Int :=
  bq27541Read bus regRemainingCapacity capacity
def batteryFullChargeCapacity (bus : Bus) (capacity : Int) : Int × Int :=
  bq27541Read bus regFullChargeCapacity capacity
def batteryTimeToEmpty (bus : Bus) (minutes : Int) : Int × Int :=
  bq27541Read bus regTimeToEmpty minutes
def batteryTimeToFull (bus : Bus) (minutes : Int) : Int × Int :=
  bq27541Read bus regTimeToFull minutes
def batteryCycleCount (bus : Bus) (count : Int) : Int × Int :=
  bq27541Read bus regCycleCount count
def batteryDesignCapacity (bus : Bus) (capacity : Int) : Int × Int :=
  bq27541Read bus regDesignCapacity capacity

/-- `battery_time_at_rate(rate, &minutes)`. -/
def batteryTimeAtRate (bus : Bus) (rate minutes : Int) : Int × Int :=
  let rv := bus.write16 regAtRate rate
  if rv ≠ 0 then (rv, minutes) else bq27541Read bus regAtRateTimeToEmpty minutes

/-- `battery_charging_allowed(&allowed)`. -/
def batteryChargingAllowed (bus : Bus) (allowed : Int) : Int × Int :=
  match bus.read16 regFlags with
  | .error e => (e, allowed)
  | .ok val => (ecSuccess, ((val : Nat) &&& 0x100 : Nat))

/-- The `BATT_FLAG_*` bits `battery_get_params` sets (battery.h, not in src/). -/
inductive BattFlag
  | wantCharge
  | responsive
  | badTemperature
  | badStateOfCharge
  | badVoltage
  | badCurrent
  | badAny
  deriving DecidableEq, Repr

/-- The fields of `struct batt_params` that `battery_get_params` sets, its flags as the list of
`BATT_FLAG_*` it or-s in, in order. -/
structure BattParams where
  temperature : Int
  stateOfCharge : Int
  voltage : Int
  current : Int
  desiredVoltage : Int
  desiredCurrent : Int
  flags : List BattFlag
  deriving DecidableEq, Repr

/-- `(int16_t)v`. -/
def int16 (v : Int) : Int := if v % 65536 < 32768 then v % 65536 else v % 65536 - 65536

/-- A flag or-ed in when a read fails. -/
def flagIfFailed {n : Nat} (flag : BattFlag) : Except Int (Fin n) → List BattFlag
  | .error _ => [flag]
  | .ok _ => []

/-- The flag or-ed in for the temperature read. -/
def temperatureFlag {n : Nat} : Except Int (Fin n) → BattFlag
  | .error _ => .badTemperature
  | .ok _ => .responsive

/-- What `battery_get_params` makes of the return code and `allowed` of
`battery_charging_allowed`: the flags it or-s in, and the desired voltage and current. -/
def chargeRequest (voltageMax : Int) (allowed : Int × Int) : List BattFlag × Int × Int :=
  if allowed.1 ≠ 0 then ([.badAny], 0, 0)
  else if allowed.2 ≠ 0 then ([.wantCharge], voltageMax, 99999) else ([], 0, 0)

/-- `battery_get_params(batt)`, from the fields `batt` held, with `battery_get_info()->voltage_max`
(board code, not in src/). -/
def batteryGetParams (bus : Bus) (voltageMax : Int) (batt : BattParams) : BattParams :=
  let temperature := bus.read16 regTemperature
  let stateOfCharge := bus.read16 regStateOfCharge
  let voltage := bus.read16 regVoltage
  let current := bus.read16 regAverageCurrent
  let request := chargeRequest voltageMax (batteryChargingAllowed bus 0)
  { temperature := storedOr batt.temperature temperature
    stateOfCharge := storedOr batt.stateOfCharge stateOfCharge
    voltage := storedOr batt.voltage voltage
    current := int16 (storedOr 0 current)
    desiredVoltage := request.2.1
    desiredCurrent := request.2.2
    flags := [temperatureFlag temperature] ++ flagIfFailed .badStateOfCharge stateOfCharge ++
      flagIfFailed .badVoltage voltage ++ flagIfFailed .badCurrent current ++ request.1 }

/-! ### The device name -/

theorem nameLoop_stores (bus : Bus) (count : Nat) : ∀ (i : Nat) (rv val : Int),
    (nameLoop bus count i rv val).2.map (·.1) = List.range' i (count + 1) ∧
    (nameLoop bus count i rv val).2.getLast? = some (i + count, 0) := by
  induction count with
  | zero => intro i rv val; simp [nameLoop]
  | succ count ih =>
    intro i rv val
    obtain ⟨indices, last⟩ := ih (i + 1) (rv.lor (rvOf (bus.read8 (regDeviceName + i))))
      (storedOr val (bus.read8 (regDeviceName + i)))
    simp only [nameLoop, List.map_cons, indices, List.getLast?_cons, last, Option.getD_some]
    exact ⟨(List.range'_succ i (count + 1) 1).symm, by simp only [Nat.add_assoc, Nat.add_comm 1 count]⟩

theorem nameLoop_values (bus : Bus) (count : Nat) : ∀ (i : Nat) (rv val : Int), ∀ k < count,
    ((nameLoop bus count i rv val).2.map (·.2)).getD k 0 =
      storedOr (if k = 0 then val else ((nameLoop bus count i rv val).2.map (·.2)).getD (k - 1) 0)
        (bus.read8 (regDeviceName + (i + k))) := by
  induction count with
  | zero => intro i rv val k lt; omega
  | succ count ih =>
    intro i rv val k lt
    cases k with
    | zero => simp [nameLoop]
    | succ k =>
      have rest := ih (i + 1) (rv.lor (rvOf (bus.read8 (regDeviceName + i))))
        (storedOr val (bus.read8 (regDeviceName + i))) k (by omega)
      simp only [nameLoop, List.map_cons, List.getD_cons_succ, Nat.add_sub_cancel,
        Nat.add_one_ne_zero, if_false] at rest ⊢
      rw [rest, show i + 1 + k = i + (k + 1) by omega]
      cases k <;> simp

/-- What `battery_device_name` stores when the gauge answers the length read: characters at 0,
1, ... and the terminator after them, `min(7, buf_size - 1)` and the length read bounding their
count. Each character is the byte the gauge returns for its register; where that read fails, `val`
keeps the character before it (the length, before the first). Every store is inside the buffer
exactly when `buf_size` is at least 1: with `buf_size` 0 the terminator is stored at
`device_name[0]`. -/
theorem batteryDeviceName_stores (bus : Bus) (bufSize : Int) {length : Fin 256}
    (answered : bus.read8 regDeviceNameLength = .ok length) :
    (batteryDeviceName bus bufSize).2.map (·.1) =
      List.range ((min (min 7 (bufSize - 1)) ((length : Nat) : Int)).toNat + 1) ∧
    (batteryDeviceName bus bufSize).2.getLast? =
      some ((min (min 7 (bufSize - 1)) ((length : Nat) : Int)).toNat, 0) ∧
    ((∀ store ∈ (batteryDeviceName bus bufSize).2, (store.1 : Int) < bufSize) ↔ 0 < bufSize) ∧
    ∀ k < (min (min 7 (bufSize - 1)) ((length : Nat) : Int)).toNat,
      ((batteryDeviceName bus bufSize).2.map (·.2)).getD k 0 =
        storedOr (if k = 0 then ((length : Nat) : Int)
          else ((batteryDeviceName bus bufSize).2.map (·.2)).getD (k - 1) 0)
          (bus.read8 (regDeviceName + k)) := by
  simp only [batteryDeviceName, answered]
  have small : ((min (min 7 (bufSize - 1)) ((length : Nat) : Int)).toNat : Int) < bufSize ↔
      0 < bufSize := by omega
  generalize (min (min 7 (bufSize - 1)) ((length : Nat) : Int)).toNat = count at *
  obtain ⟨indices, last⟩ := nameLoop_stores bus count 0 ecSuccess (length : Nat)
  refine ⟨by rw [List.range_eq_range']; exact indices, by simpa using last,
    ⟨fun inside => ?_, fun pos => ?_⟩, fun k lt => by
      simpa using nameLoop_values bus count 0 ecSuccess (length : Nat) k lt⟩
  · have top : count ∈ (nameLoop bus count 0 ecSuccess (length : Nat)).2.map (·.1) := by
      rw [indices]; simp
    obtain ⟨store, mem, rfl⟩ := List.mem_map.mp top
    exact small.mp (inside store mem)
  · intro store mem
    have within := List.mem_range'_1.mp (indices ▸ List.mem_map_of_mem (fun store : Nat × Int => store.1) mem)
    have := small.mpr pos
    omega

/-- A gauge that answers every read: a name length of 7, and `A` for every other byte. -/
def answeringBus : Bus where
  read8 offset := .ok (if offset = regDeviceNameLength then 7 else 0x41)
  read16 _ := .ok 0
  write16 _ _ := 0
  read8_error _ _ answered := by cases answered
  read16_error _ _ answered := by cases answered

theorem zero_size_buffer_overrun :
    (batteryDeviceName answeringBus 0).2.getLast? = some (0, 0) ∧
    ¬ ∀ store ∈ (batteryDeviceName answeringBus 0).2, (store.1 : Int) < 0 :=
  have stores := @batteryDeviceName_stores answeringBus 0 7 rfl
  ⟨stores.2.1, fun inside => absurd (stores.2.2.1.mp inside) (by decide)⟩

/-! ### Return codes -/

theorem lor_eq_zero_iff (a b : Int) : a.lor b = 0 ↔ a = 0 ∧ b = 0 := by
  cases a with
  | ofNat m =>
    cases b with
    | ofNat n =>
      have left : m ≤ m ||| n := Nat.le_of_testBit fun i bit => by simp [Nat.testBit_or, bit]
      have right : n ≤ m ||| n := Nat.le_of_testBit fun i bit => by simp [Nat.testBit_or, bit]
      simp only [Int.lor, Int.ofNat_eq_coe, Int.natCast_eq_zero]
      constructor
      · intro zero; omega
      · rintro ⟨rfl, rfl⟩; rfl
    | negSucc n => simp [Int.lor]
  | negSucc m => cases b <;> simp [Int.lor]

theorem rvOf_eq_zero_iff_ok {bus : Bus} {offset : Nat} :
    rvOf (bus.read16 offset) = 0 ↔ ∃ v, bus.read16 offset = .ok v := by
  cases read : bus.read16 offset with
  | error e => simpa [rvOf] using bus.read16_error offset e read
  | ok v => simp [rvOf, ecSuccess]

theorem bq27541Probe_eq_success (bus : Bus) (devType : Int) :
    bq27541Probe bus devType = ecSuccess ↔
      bus.write16 regCtrl 0x1 = 0 ∧ ∃ v : Fin 65536, bus.read16 regCtrl = .ok v ∧ (v : Nat) = 0x0541 := by
  simp only [bq27541Probe, bq27541Read]
  by_cases rv : (bus.write16 regCtrl 0x1).lor (rvOf (bus.read16 regCtrl)) = 0
  · obtain ⟨wrote, read⟩ := (lor_eq_zero_iff _ _).mp rv
    obtain ⟨v, answered⟩ := rvOf_eq_zero_iff_ok.mp read
    rw [if_neg (not_not.mpr rv)]
    simp only [answered, storedOr]
    by_cases same : (v : Nat) = 0x0541
    · simp [same, bq27541TypeId, ecSuccess, wrote]
    · have differs : ((v : Nat) : Int) ≠ bq27541TypeId := by simp only [bq27541TypeId]; omega
      simp [differs, ecSuccess, ecErrorUnknown, wrote, same]
  · rw [if_pos rv]
    constructor
    · intro zero; exact absurd zero rv
    · rintro ⟨wrote, v, answered, -⟩
      exact absurd ((lor_eq_zero_iff _ _).mpr ⟨wrote, by simp [answered, rvOf, ecSuccess]⟩) rv

theorem batteryTimeAtRate_eq (bus : Bus) (rate minutes : Int) :
    batteryTimeAtRate bus rate minutes =
      if bus.write16 regAtRate rate ≠ 0 then (bus.write16 regAtRate rate, minutes)
      else bq27541Read bus regAtRateTimeToEmpty minutes := rfl

/-! ### Battery parameters -/

theorem chargeRequest_spec (bus : Bus) (voltageMax : Int) :
    (BattFlag.wantCharge ∈ (chargeRequest voltageMax (batteryChargingAllowed bus 0)).1 ↔
      ∃ f : Fin 65536, bus.read16 regFlags = .ok f ∧ (f : Nat).testBit 8 = true) ∧
    (BattFlag.badAny ∈ (chargeRequest voltageMax (batteryChargingAllowed bus 0)).1 ↔
      ∃ e, bus.read16 regFlags = .error e) ∧
    (∀ flag ∈ (chargeRequest voltageMax (batteryChargingAllowed bus 0)).1,
      flag = .wantCharge ∨ flag = .badAny) ∧
    (chargeRequest voltageMax (batteryChargingAllowed bus 0)).2 =
      if BattFlag.wantCharge ∈ (chargeRequest voltageMax (batteryChargingAllowed bus 0)).1 then
        (voltageMax, 99999) else (0, 0) := by
  cases read : bus.read16 regFlags with
  | error e => simp [batteryChargingAllowed, read, chargeRequest, bus.read16_error regFlags e read]
  | ok f =>
    have bit : (f : Nat) &&& 0x100 = 0 ↔ (f : Nat).testBit 8 = false := by
      rw [show (0x100 : Nat) = 2 ^ 8 from rfl, Nat.and_two_pow]
      cases (f : Nat).testBit 8 <;> simp
    by_cases set : (f : Nat).testBit 8 = true
    · simp [batteryChargingAllowed, read, chargeRequest, ecSuccess, bit, set]
    · simp [batteryChargingAllowed, read, chargeRequest, ecSuccess, bit, set]

theorem mem_flagIfFailed {n : Nat} {flag other : BattFlag} {read : Except Int (Fin n)} :
    flag ∈ flagIfFailed other read ↔ flag = other ∧ ∃ e, read = .error e := by
  cases read <;> simp [flagIfFailed]

theorem int16_bounds (v : Int) : -32768 ≤ int16 v ∧ int16 v < 32768 ∧ int16 v % 65536 = v % 65536 := by
  unfold int16
  split <;> omega

theorem batteryGetParams_spec (bus : Bus) (voltageMax : Int) (batt : BattParams) :
    (BattFlag.responsive ∈ (batteryGetParams bus voltageMax batt).flags ↔
      ∃ t, bus.read16 regTemperature = .ok t) ∧
    (BattFlag.wantCharge ∈ (batteryGetParams bus voltageMax batt).flags ↔
      ∃ f : Fin 65536, bus.read16 regFlags = .ok f ∧ (f : Nat).testBit 8 = true) ∧
    ((batteryGetParams bus voltageMax batt).desiredVoltage,
      (batteryGetParams bus voltageMax batt).desiredCurrent) =
      (if BattFlag.wantCharge ∈ (batteryGetParams bus voltageMax batt).flags then (voltageMax, 99999)
        else (0, 0)) ∧
    (BattFlag.badAny ∈ (batteryGetParams bus voltageMax batt).flags ↔
      ∃ e, bus.read16 regFlags = .error e) ∧
    (batteryGetParams bus voltageMax batt).current =
      match bus.read16 regAverageCurrent with
      | .error _ => 0
      | .ok v => int16 (v : Nat) := by
  obtain ⟨wants, bad, only, desired⟩ := chargeRequest_spec bus voltageMax
  have temperature : temperatureFlag (bus.read16 regTemperature) = .responsive ∧
        (∃ t, bus.read16 regTemperature = .ok t) ∨
      temperatureFlag (bus.read16 regTemperature) = .badTemperature ∧
        ∀ t, bus.read16 regTemperature ≠ .ok t := by
    cases bus.read16 regTemperature <;> simp [temperatureFlag]
  have notResponsive : BattFlag.responsive ∉ (chargeRequest voltageMax (batteryChargingAllowed bus 0)).1 :=
    fun mem => by simpa using only _ mem
  simp only [batteryGetParams, List.mem_append, List.mem_singleton, mem_flagIfFailed]
  refine ⟨?_, ?_, ?_, ?_, by cases bus.read16 regAverageCurrent <;> rfl⟩
  · rcases temperature with ⟨flag, read⟩ | ⟨flag, failed⟩
    · simp [flag, read, notResponsive]
    · simp [flag, failed, notResponsive]
  · rcases temperature with ⟨flag, -⟩ | ⟨flag, -⟩ <;> simp [flag, wants]
  · rw [Prod.mk.eta, desired]
    rcases temperature with ⟨flag, -⟩ | ⟨flag, -⟩ <;> simp [flag, mem_flagIfFailed]
  · rcases temperature with ⟨flag, -⟩ | ⟨flag, -⟩ <;> simp [flag, bad]

end ChromeEc.Battery.Bq27541
