import Mathlib.Data.Nat.Bitwise
import Mathlib.Tactic.FinCases

/-! common/motion_sense.c: the sensor data the EC shares with the host through the memory
map. After `*lpc_status |= EC_MEMMAP_ACC_STATUS_PRESENCE_BIT`, each pass of the loop of
`motion_sense_task` sets the busy bit of the status byte, stores the lid angle and the two
acceleration vectors in the seven words of `EC_MEMMAP_ACC_DATA`, and then writes the status
byte with the busy bit clear and the next sample id. A host load sees the stores made before
it. The host keeps what it read only when the busy bit was clear and the sample id the same in
its status loads before and after the data loads. Such a read is the data of one pass, unless
a positive multiple of 16 passes went by between the two status loads, which the 4-bit sample
id cannot tell from none. -/
namespace ChromeEc.MotionSense

/-- `EC_MEMMAP_ACC_STATUS_SAMPLE_ID_MASK`, `EC_MEMMAP_ACC_STATUS_BUSY_BIT` and
`EC_MEMMAP_ACC_STATUS_PRESENCE_BIT` of ec_commands.h (not in src/). -/
def ecMemmapAccStatusSampleIdMask : Nat := 0x0f
def ecMemmapAccStatusBusyBit : Nat := 0x10
def ecMemmapAccStatusPresenceBit : Nat := 0x80

/-- `(uint16_t)v`: the store into a word of `lpc_data`. -/
def toUint16 (v : Int) : Nat := (v % 2 ^ 16).toNat

/-- The status byte at `EC_MEMMAP_ACC_STATUS` and the words `lpc_data[0..6]`. -/
structure Memmap where
  status : Nat
  data : Fin 7 → Nat

/-- A store of `motion_sense_task` to the memory map. -/
inductive Store
  | orStatus (bits : Nat)
  | setStatus (value : Nat)
  | data (i : Fin 7) (value : Nat)

def Memmap.store (m : Memmap) : Store → Memmap
  | .orStatus bits => {m with status := m.status ||| bits}
  | .setStatus value => {m with status := value}
  | .data i value => {m with data := fun j => if j = i then value else m.data j}

/-- `sample_id = (sample_id + 1) & EC_MEMMAP_ACC_STATUS_SAMPLE_ID_MASK`. -/
def nextSampleId (sampleId : Nat) : Nat := (sampleId + 1) &&& ecMemmapAccStatusSampleIdMask

/-- The seven word stores of a pass: `motion_get_lid_angle()` and the base and lid vectors
rotated into the host's frame, given as the `int`s the loop stores. -/
def dataStores (sample : Fin 7 → Int) : List Store :=
  [.data 0 (toUint16 (sample 0)),.data 1 (toUint16 (sample 1)),.data 2 (toUint16 (sample 2)),
    .data 3 (toUint16 (sample 3)),.data 4 (toUint16 (sample 4)),.data 5 (toUint16 (sample 5)),
    .data 6 (toUint16 (sample 6))]

/-- The stores of one pass of the loop, `sample_id` being `sampleId` before it. -/
def passStores (sampleId : Nat) (sample : Fin 7 → Int) : List Store :=
  .orStatus ecMemmapAccStatusBusyBit :: dataStores sample ++
    [.setStatus (ecMemmapAccStatusPresenceBit ||| nextSampleId sampleId)]

/-- `sample_id` after `k` passes; it starts at 0. -/
def sampleIdAfter : Nat → Nat
  | 0 => 0
  | k + 1 => nextSampleId (sampleIdAfter k)

/-- The stores `motion_sense_task` makes in its first `k` passes, once the accelerometers
have initialised (when `accel_init` fails the task returns before any store); `samples j`
is what pass `j` stores. -/
def taskStores (samples : Nat → Fin 7 → Int) : Nat → List Store
  | 0 => [.orStatus ecMemmapAccStatusPresenceBit]
  | k + 1 => taskStores samples k ++ passStores (sampleIdAfter k) (samples k)

/-- The memory map a host load sees when `t` of the stores were made before it. -/
def memAt (start : Memmap) (stores : List Store) (t : Nat) : Memmap :=
  (stores.take t).foldl Memmap.store start

def Store.publishes : Store → Bool
  | .setStatus _ => true
  | _ => false

/-- The passes completed by the first `t` stores. -/
def passesBy (stores : List Store) (t : Nat) : Nat := (stores.take t).countP Store.publishes

/-- The host's test of a read, from the comment of `motion_sense_task`: the busy bit clear
and the sample id the same in the status loads before and after the data loads. -/
def hostAccepts (before after : Nat) : Bool :=
  before &&& ecMemmapAccStatusBusyBit = 0 && after &&& ecMemmapAccStatusBusyBit = 0 &&
    before &&& ecMemmapAccStatusSampleIdMask = after &&& ecMemmapAccStatusSampleIdMask

/-- The words the memory map holds after `k` whole passes, from the words `start` it had. -/
def published (start : Fin 7 → Nat) (samples : Nat → Fin 7 → Int) : Nat → Fin 7 → Nat
  | 0 => start
  | k + 1 => fun i => toUint16 (samples k i)

/-! ### The status byte -/

theorem sampleIdAfter_eq (k : Nat) : sampleIdAfter k = k % 16 := by
  induction k with
  | zero => rfl
  | succ k ih =>
    rw [sampleIdAfter, ih, nextSampleId, ecMemmapAccStatusSampleIdMask,
      show 0x0f = 2 ^ 4 - 1 from rfl, Nat.and_pow_two_sub_one_eq_mod]
    omega

theorem status_bits {id : Nat} (small : id < 16) :
    (ecMemmapAccStatusPresenceBit ||| id) &&& ecMemmapAccStatusBusyBit = 0 ∧
      (ecMemmapAccStatusPresenceBit ||| id) &&& ecMemmapAccStatusSampleIdMask = id ∧
      (ecMemmapAccStatusPresenceBit ||| id ||| ecMemmapAccStatusBusyBit) &&&
        ecMemmapAccStatusBusyBit ≠ 0 ∧
      (ecMemmapAccStatusPresenceBit ||| id ||| ecMemmapAccStatusBusyBit) &&&
        ecMemmapAccStatusSampleIdMask = id := by
  have all : ∀ id < 16,
      (ecMemmapAccStatusPresenceBit ||| id) &&& ecMemmapAccStatusBusyBit = 0 ∧
      (ecMemmapAccStatusPresenceBit ||| id) &&& ecMemmapAccStatusSampleIdMask = id ∧
      (ecMemmapAccStatusPresenceBit ||| id ||| ecMemmapAccStatusBusyBit) &&&
        ecMemmapAccStatusBusyBit ≠ 0 ∧
      (ecMemmapAccStatusPresenceBit ||| id ||| ecMemmapAccStatusBusyBit) &&&
        ecMemmapAccStatusSampleIdMask = id := by decide
  exact all id small

/-! ### The stores -/

theorem length_passStores (sampleId : Nat) (sample : Fin 7 → Int) :
    (passStores sampleId sample).length = 9 := rfl

theorem length_taskStores (samples : Nat → Fin 7 → Int) (k : Nat) :
    (taskStores samples k).length = 1 + 9 * k := by
  induction k with
  | zero => rfl
  | succ k ih =>
    rw [taskStores, List.length_append, ih, length_passStores]
    omega

theorem take_taskStores (samples : Nat → Fin 7 → Int) {k n : Nat} (le : k ≤ n) :
    (taskStores samples n).take (1 + 9 * k) = taskStores samples k := by
  induction n with
  | zero =>
    obtain rfl : k = 0 := by omega
    rfl
  | succ n ih =>
    rcases Nat.eq_or_lt_of_le le with rfl | below
    · rw [List.take_of_length_le (by rw [length_taskStores])]
    · rw [taskStores, List.take_append_of_le_length (by rw [length_taskStores]; omega),
        ih (by omega)]

/-- The memory map after `k` whole passes. -/
def boundary (start : Fin 7 → Nat) (samples : Nat → Fin 7 → Int) (k : Nat) : Memmap :=
  ⟨ecMemmapAccStatusPresenceBit ||| sampleIdAfter k,published start samples k⟩

theorem dataStores_status (sample : Fin 7 → Int) (stores : List Store)
    (only : stores <+: dataStores sample) (m : Memmap) : (stores.foldl Memmap.store m).status = m.status := by
  have words : ∀ s ∈ stores, ∃ i value, s = .data i value := fun s member => by
    have := only.subset member
    simp only [dataStores, List.mem_cons, List.mem_singleton, List.not_mem_nil, or_false] at this
    rcases this with rfl | rfl | rfl | rfl | rfl | rfl | rfl <;> exact ⟨_,_,rfl⟩
  clear only
  induction stores generalizing m with
  | nil => rfl
  | cons s stores ih =>
    obtain ⟨i,value,rfl⟩ := words s (List.mem_cons_self _ _)
    exact ih _ fun s member => words s (List.mem_cons_of_mem _ member)

theorem foldl_passStores (start : Fin 7 → Nat) (samples : Nat → Fin 7 → Int) (k : Nat) :
    (passStores (sampleIdAfter k) (samples k)).foldl Memmap.store (boundary start samples k) =
      boundary start samples (k + 1) := by
  simp only [passStores, dataStores, List.foldl_cons, List.foldl_append, List.foldl_nil,
    Memmap.store, boundary, sampleIdAfter, published]
  congr 1
  funext i
  fin_cases i <;> rfl

theorem foldl_taskStores (start : Fin 7 → Nat) (samples : Nat → Fin 7 → Int) (k : Nat) :
    (taskStores samples k).foldl Memmap.store ⟨0,start⟩ = boundary start samples k := by
  induction k with
  | zero => simp only [taskStores, List.foldl_cons, List.foldl_nil, Memmap.store, boundary, sampleIdAfter,
      published, Nat.zero_or, Nat.or_zero]
  | succ k ih => rw [taskStores, List.foldl_append, ih, foldl_passStores]

theorem foldl_take_passStores (start : Fin 7 → Nat) (samples : Nat → Fin 7 → Int) (k : Nat)
    {r : Nat} (inside : 0 < r ∧ r < 9) :
    (((passStores (sampleIdAfter k) (samples k)).take r).foldl Memmap.store
        (boundary start samples k)).status =
      ecMemmapAccStatusPresenceBit ||| sampleIdAfter k ||| ecMemmapAccStatusBusyBit := by
  obtain ⟨r,rfl⟩ : ∃ r', r = r' + 1 := ⟨r - 1,by omega⟩
  rw [passStores, List.take_append_of_le_length (by simp only [dataStores, List.length_cons, List.length_nil]; omega),
    List.take_succ_cons, List.foldl_cons, dataStores_status _ _ (List.take_prefix _ _)]
  rfl

theorem countP_taskStores (samples : Nat → Fin 7 → Int) (k : Nat) :
    (taskStores samples k).countP Store.publishes = k := by
  induction k with
  | zero => rfl
  | succ k ih =>
    rw [taskStores, List.countP_append, ih]
    rfl

theorem countP_take_passStores (sampleId : Nat) (sample : Fin 7 → Int) {r : Nat} (short : r < 9) :
    ((passStores sampleId sample).take r).countP Store.publishes = 0 := by
  rw [passStores, List.take_append_of_le_length (by simp only [dataStores, List.length_cons, List.length_nil]; omega)]
  refine List.countP_eq_zero.mpr fun s member => ?_
  have := List.mem_of_mem_take member
  simp only [dataStores, List.mem_cons, List.mem_singleton, List.not_mem_nil, or_false] at this
  rcases this with rfl | rfl | rfl | rfl | rfl | rfl | rfl | rfl <;> simp [Store.publishes]

/-! ### Every load -/

theorem time_cases (n t : Nat) :
    t = 0 ∨ (∃ k r, k < n ∧ r < 9 ∧ t = 1 + 9 * k + r) ∨ 1 + 9 * n ≤ t := by
  by_cases zero : t = 0
  · exact .inl zero
  by_cases late : 1 + 9 * n ≤ t
  · exact .inr (.inr late)
  exact .inr (.inl ⟨(t - 1) / 9,(t - 1) % 9,by omega,by omega,by omega⟩)

section Loads

variable (start : Fin 7 → Nat) (samples : Nat → Fin 7 → Int) {n : Nat}

theorem take_inPass {k r : Nat} (pass : k < n) (short : r < 9) :
    (taskStores samples n).take (1 + 9 * k + r) =
      taskStores samples k ++ (passStores (sampleIdAfter k) (samples k)).take r := by
  have prefix_ := take_taskStores samples (Nat.succ_le_of_lt pass)
  rw [← inf_of_le_left (by omega : 1 + 9 * k + r ≤ 1 + 9 * (k + 1)), ← List.take_take, prefix_,
    taskStores, List.take_append_eq_append_take, List.take_of_length_le (by rw [length_taskStores]; omega),
    length_taskStores, show 1 + 9 * k + r - (1 + 9 * k) = r by omega]

theorem memAt_inPass {k r : Nat} (pass : k < n) (short : r < 9) :
    memAt ⟨0,start⟩ (taskStores samples n) (1 + 9 * k + r) =
      ((passStores (sampleIdAfter k) (samples k)).take r).foldl Memmap.store (boundary start samples k) := by
  rw [memAt, take_inPass samples pass short, List.foldl_append, foldl_taskStores]

theorem memAt_finished {t : Nat} (late : 1 + 9 * n ≤ t) :
    memAt ⟨0,start⟩ (taskStores samples n) t = boundary start samples n := by
  rw [memAt, List.take_of_length_le (by rw [length_taskStores]; exact late), foldl_taskStores]

theorem passesBy_inPass {k r : Nat} (pass : k < n) (short : r < 9) :
    passesBy (taskStores samples n) (1 + 9 * k + r) = k := by
  rw [passesBy, take_inPass samples pass short, List.countP_append, countP_taskStores,
    countP_take_passStores _ _ short, Nat.add_zero]

theorem passesBy_finished {t : Nat} (late : 1 + 9 * n ≤ t) : passesBy (taskStores samples n) t = n := by
  rw [passesBy, List.take_of_length_le (by rw [length_taskStores]; exact late), countP_taskStores]

theorem passesBy_mono (stores : List Store) {t u : Nat} (le : t ≤ u) : passesBy stores t ≤ passesBy stores u :=
  (List.take_prefix_take_left stores le).countP_le _

theorem status_inPass {k r : Nat} (pass : k < n) (short : r < 9) :
    ((memAt ⟨0,start⟩ (taskStores samples n) (1 + 9 * k + r)).status &&& ecMemmapAccStatusBusyBit = 0 ↔
      r = 0) ∧
      (memAt ⟨0,start⟩ (taskStores samples n) (1 + 9 * k + r)).status &&& ecMemmapAccStatusSampleIdMask =
        k % 16 := by
  have bits := status_bits (Nat.mod_lt k (by decide : 0 < 16))
  rw [memAt_inPass start samples pass short]
  rcases Nat.eq_zero_or_pos r with rfl | started
  · rw [List.take_zero, List.foldl_nil, boundary, sampleIdAfter_eq]
    exact ⟨iff_of_true bits.1 rfl,bits.2.1⟩
  · rw [foldl_take_passStores start samples k ⟨started,short⟩, sampleIdAfter_eq]
    exact ⟨iff_of_false bits.2.2.1 (by omega),bits.2.2.2⟩

theorem status_boundary (k : Nat) :
    (boundary start samples k).status &&& ecMemmapAccStatusBusyBit = 0 ∧
      (boundary start samples k).status &&& ecMemmapAccStatusSampleIdMask = k % 16 := by
  have bits := status_bits (Nat.mod_lt k (by decide : 0 < 16))
  rw [boundary, sampleIdAfter_eq]
  exact ⟨bits.1,bits.2.1⟩

theorem status_sampleId (t : Nat) :
    (memAt ⟨0,start⟩ (taskStores samples n) t).status &&& ecMemmapAccStatusSampleIdMask =
      passesBy (taskStores samples n) t % 16 := by
  rcases time_cases n t with rfl | ⟨k,r,pass,short,rfl⟩ | late
  · exact Nat.zero_and _
  · rw [(status_inPass start samples pass short).2, passesBy_inPass samples pass short]
  · rw [memAt_finished start samples late, passesBy_finished samples late]
    exact (status_boundary start samples n).2

theorem data_of_not_busy {t : Nat}
    (idle : (memAt ⟨0,start⟩ (taskStores samples n) t).status &&& ecMemmapAccStatusBusyBit = 0) :
    (memAt ⟨0,start⟩ (taskStores samples n) t).data = published start samples (passesBy (taskStores samples n) t) := by
  rcases time_cases n t with rfl | ⟨k,r,pass,short,rfl⟩ | late
  · rfl
  · obtain rfl := (status_inPass start samples pass short).1.mp idle
    rw [passesBy_inPass samples pass short, memAt_inPass start samples pass short]
    rfl
  · rw [memAt_finished start samples late, passesBy_finished samples late]
    rfl

theorem busy_until_published {t u : Nat} (le : t ≤ u)
    (same : passesBy (taskStores samples n) t = passesBy (taskStores samples n) u)
    (busy : (memAt ⟨0,start⟩ (taskStores samples n) t).status &&& ecMemmapAccStatusBusyBit ≠ 0) :
    (memAt ⟨0,start⟩ (taskStores samples n) u).status &&& ecMemmapAccStatusBusyBit ≠ 0 := by
  rcases time_cases n t with rfl | ⟨k,r,pass,short,rfl⟩ | late
  · exact absurd (Nat.zero_and _) busy
  · have started : r ≠ 0 := mt (status_inPass start samples pass short).1.mpr busy
    rw [passesBy_inPass samples pass short] at same
    rcases time_cases n u with rfl | ⟨k',r',pass',short',rfl⟩ | late'
    · omega
    · rw [passesBy_inPass samples pass' short'] at same
      subst same
      exact mt (status_inPass start samples pass' short').1.mp (by omega)
    · rw [passesBy_finished samples late'] at same
      omega
  · rw [memAt_finished start samples late] at busy
    exact absurd (status_boundary start samples n).1 busy

end Loads

/-- A read the host keeps, whatever the interleaving of its loads with the task's stores: its
status loads come after `a` and `c` of the stores, and its load of word `i` after `b i` of
them, in between. Either every word it loaded is the word of the last pass completed before
its first status load, or a positive multiple of 16 passes completed between its two status
loads. -/
theorem accepted_read_is_one_pass (start : Fin 7 → Nat) (samples : Nat → Fin 7 → Int) (n a c : Nat)
    (b : Fin 7 → Nat) (ordered : ∀ i, a ≤ b i ∧ b i ≤ c)
    (accepted : hostAccepts (memAt ⟨0,start⟩ (taskStores samples n) a).status
      (memAt ⟨0,start⟩ (taskStores samples n) c).status = true) :
    (∀ i, (memAt ⟨0,start⟩ (taskStores samples n) (b i)).data i =
        published start samples (passesBy (taskStores samples n) a) i) ∨
      (passesBy (taskStores samples n) a < passesBy (taskStores samples n) c ∧
        16 ∣ passesBy (taskStores samples n) c - passesBy (taskStores samples n) a) := by
  simp only [hostAccepts, Bool.and_eq_true, decide_eq_true_eq] at accepted
  obtain ⟨⟨-,idleAfter⟩,sameId⟩ := accepted
  rw [status_sampleId, status_sampleId] at sameId
  have mono := passesBy_mono (taskStores samples n) ((ordered 0).1.trans (ordered 0).2)
  rcases Nat.eq_or_lt_of_le mono with same | more
  · refine .inl fun i => ?_
    have before := passesBy_mono (taskStores samples n) (ordered i).1
    have after := passesBy_mono (taskStores samples n) (ordered i).2
    have idle := not_not.mp (mt (busy_until_published start samples (ordered i).2 (by omega)) (not_not.mpr idleAfter))
    rw [data_of_not_busy start samples idle, show passesBy (taskStores samples n) (b i) =
      passesBy (taskStores samples n) a by omega]
  · exact .inr ⟨more,by omega⟩

theorem accepted_read_of_one_load :
    (∀ _ : Fin 7, 10 ≤ 10 ∧ 10 ≤ 10) ∧
      hostAccepts (memAt ⟨0,fun _ => 0⟩ (taskStores (fun _ _ => 5) 2) 10).status
        (memAt ⟨0,fun _ => 0⟩ (taskStores (fun _ _ => 5) 2) 10).status = true ∧
      ((∀ i, (memAt ⟨0,fun _ => 0⟩ (taskStores (fun _ _ => 5) 2) 10).data i =
        published (fun _ => 0) (fun _ _ => 5) (passesBy (taskStores (fun _ _ => 5) 2) 10) i) ∨
      (passesBy (taskStores (fun _ _ => 5) 2) 10 < passesBy (taskStores (fun _ _ => 5) 2) 10 ∧
        16 ∣ passesBy (taskStores (fun _ _ => 5) 2) 10 - passesBy (taskStores (fun _ _ => 5) 2) 10)) :=
  have ordered : ∀ _ : Fin 7, 10 ≤ 10 ∧ 10 ≤ 10 := fun _ => ⟨le_rfl,le_rfl⟩
  have accepted : hostAccepts (memAt ⟨0,fun _ => 0⟩ (taskStores (fun _ _ => 5) 2) 10).status
      (memAt ⟨0,fun _ => 0⟩ (taskStores (fun _ _ => 5) 2) 10).status = true := by decide
  ⟨ordered,accepted,accepted_read_is_one_pass (fun _ => 0) (fun _ _ => 5) 2 10 10 (fun _ => 10)
    ordered accepted⟩

end ChromeEc.MotionSense
