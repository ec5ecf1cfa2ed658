import ChromeEc.Stm32.System

/-! chip/stm32/system.c: what the backup registers keep for the rest of the firmware. Read
back through `system_get_scratchpad` and `system_get_vbnvcontext`, they behave as a store of
the scratchpad word and the sixteen bytes of the vboot context: each getter returns what the
last accepted call of its setter stored, through any boots, resets and console-setting
changes in between, which write only the saved-flags register. -/
namespace ChromeEc.Stm32

/-- `system_get_scratchpad()`; `bkpdata_read` returns a `uint16_t`. -/
def systemGetScratchpad (k : Platform) (bkp : Nat → Nat) : Nat :=
  bkpdataRead k bkp bkpdataIndexScratchpad % 2 ^ 16

/-- The loop of `system_get_vbnvcontext` with `n` registers left from register `i`: two
bytes from each, the low byte first. -/
def getVbnvLoop (k : Platform) (bkp : Nat → Nat) : Nat → Nat → List UInt8
  | 0, _ => []
  | n + 1, i =>
    let value := bkpdataRead k bkp i % 2 ^ 16
    (value &&& 0xff).toUInt8 :: (value >>> 8).toUInt8 :: getVbnvLoop k bkp n (i + 1)

/-- `system_get_vbnvcontext(block)`: the sixteen bytes it stores at `block`; it returns
`EC_SUCCESS` whatever it read. -/
def systemGetVbnvcontext (k : Platform) (bkp : Nat → Nat) : List UInt8 :=
  getVbnvLoop k bkp 8 bkpdataIndexVbnvContext0

/-- What the two getters are meant to give back, as a store: the scratchpad word and the
sixteen bytes of the vboot context. -/
structure Backup where
  scratchpad : Nat
  vbnv : List UInt8
  deriving DecidableEq, Repr

/-- The store after an action: a scratchpad value that fits in 16 bits replaces the word, a
vboot block replaces the context, and nothing else changes either. -/
def Backup.step (s : Backup) : Action → Backup
  | .setScratchpad value => if value < 2 ^ 16 then {s with scratchpad := value} else s
  | .setVbnvcontext block => {s with vbnv := (List.range 16).map block}
  | _ => s

def Backup.run (s : Backup) (actions : List Action) : Backup := actions.foldl Backup.step s

/-- The store a chip's registers hold, read through the getters. -/
def Chip.backup (k : Platform) (c : Chip) : Backup :=
  ⟨systemGetScratchpad k c.bkp,systemGetVbnvcontext k c.bkp⟩

/-- What an action of the store may write: the setters' calls and their values. -/
def Action.UintArgs : Action → Prop
  | .setScratchpad value => value < 2 ^ 32
  | _ => True

instance (a : Action) : Decidable a.UintArgs := by
  cases a <;> unfold Action.UintArgs <;> infer_instance

section Frame

variable {k : Platform} {bkp : Nat → Nat}

/-- The registers other than the saved-flags one, as `bkpdata_read` reads them. -/
def SameOutsideFlags (k : Platform) (bkp bkp' : Nat → Nat) : Prop :=
  ∀ i, i ≠ bkpdataIndexSavedResetFlags → bkpdataRead k bkp' i = bkpdataRead k bkp i

theorem SameOutsideFlags.trans {bkp' bkp'' : Nat → Nat} (first : SameOutsideFlags k bkp bkp')
    (second : SameOutsideFlags k bkp' bkp'') : SameOutsideFlags k bkp bkp'' :=
  fun i other => (second i other).trans (first i other)

theorem sameOutsideFlags_write (value : Nat) :
    SameOutsideFlags k bkp (bkpdataWrite k bkp bkpdataIndexSavedResetFlags value).1 :=
  fun _ other => bkpdataRead_write_other other value

theorem sameOutsideFlags_systemReset (flags resetFlags : Nat) :
    SameOutsideFlags k bkp (systemReset k flags resetFlags bkp) :=
  sameOutsideFlags_write _

theorem sameOutsideFlags_boot (rawCause pwrStatus : Nat) :
    SameOutsideFlags k bkp (boot k rawCause pwrStatus bkp).bkp := by
  simp only [boot, checkResetCause]
  split_ifs
  · exact (sameOutsideFlags_write _).trans (sameOutsideFlags_systemReset _ _)
  · exact sameOutsideFlags_write _

theorem sameOutsideFlags_systemSetConsoleForceEnabled (val : Int) :
    SameOutsideFlags k bkp (systemSetConsoleForceEnabled k val bkp).1 :=
  sameOutsideFlags_write _

theorem getVbnvLoop_congr {bkp' : Nat → Nat} (n : Nat) {i : Nat}
    (same : ∀ j, i ≤ j → j < i + n → bkpdataRead k bkp' j = bkpdataRead k bkp j) :
    getVbnvLoop k bkp' n i = getVbnvLoop k bkp n i := by
  induction n generalizing i with
  | zero => rfl
  | succ n ih =>
    rw [getVbnvLoop, getVbnvLoop, same i (Nat.le_refl i) (by omega),
      ih fun j after before => same j (by omega) (by omega)]

theorem systemGetVbnvcontext_congr {bkp' : Nat → Nat}
    (same : ∀ j, bkpdataIndexVbnvContext0 ≤ j → bkpdataRead k bkp' j = bkpdataRead k bkp j) :
    systemGetVbnvcontext k bkp' = systemGetVbnvcontext k bkp :=
  getVbnvLoop_congr 8 fun j after _ => same j after

theorem SameOutsideFlags.backup {c c' : Chip} (same : SameOutsideFlags k c.bkp c'.bkp) :
    c'.backup k = c.backup k := by
  rw [Chip.backup, Chip.backup, systemGetScratchpad, systemGetScratchpad, same _ (by decide),
    systemGetVbnvcontext_congr fun j after =>
      same j (Nat.ne_of_gt (Nat.lt_of_lt_of_le (show bkpdataIndexSavedResetFlags < bkpdataIndexVbnvContext0 by decide) after))]

end Frame

/-! ### The two setters -/

theorem bytes_of_word (lo hi : UInt8) :
    (((lo.toNat ||| hi.toNat <<< 8) % 2 ^ 16 &&& 0xff).toUInt8 = lo) ∧
      ((((lo.toNat ||| hi.toNat <<< 8) % 2 ^ 16) >>> 8).toUInt8 = hi) := by
  have loLt : lo.toNat < 2 ^ 8 := lo.toNat_lt_size
  have hiLt : hi.toNat < 2 ^ 8 := hi.toNat_lt_size
  have word : lo.toNat ||| hi.toNat <<< 8 = 2 ^ 8 * hi.toNat + lo.toNat := by
    rw [Nat.or_comm, Nat.shiftLeft_eq, Nat.mul_comm, Nat.mul_add_lt_is_or loLt]
  have byteOf : ∀ (x : UInt8), x.toNat.toUInt8 = x := fun x => UInt8.toNat.inj (UInt8.toNat_ofNat_of_lt x.toNat_lt_size)
  rw [word, Nat.mod_eq_of_lt (by omega),
    show (0xff : Nat) = 2 ^ 8 - 1 from rfl, Nat.and_pow_two_sub_one_eq_mod, Nat.shiftRight_eq_div_pow,
    Nat.mul_add_mod, Nat.mod_eq_of_lt loLt, Nat.mul_add_div (by decide), Nat.div_eq_of_lt loLt, Nat.add_zero]
  exact ⟨byteOf lo,byteOf hi⟩

theorem setVbnvLoop_succ {k : Platform} {block : Nat → UInt8} {n i : Nat} {bkp : Nat → Nat}
    (present : i < k.stm32BkpEntries) :
    setVbnvLoop k block (n + 1) i bkp = setVbnvLoop k block n (i + 1) (bkpdataWrite k bkp i
      ((block (2 * (i - bkpdataIndexVbnvContext0))).toNat |||
        (block (2 * (i - bkpdataIndexVbnvContext0) + 1)).toNat <<< 8)).1 := by
  simp only [setVbnvLoop, bkpdataWrite, Nat.not_le.mpr present, if_false]

theorem setVbnvLoop_written (k : Platform) (block : Nat → UInt8) (n o : Nat) (bkp : Nat → Nat)
    (valid : bkpdataIndexVbnvContext0 + o + n ≤ k.stm32BkpEntries) :
    (setVbnvLoop k block n (bkpdataIndexVbnvContext0 + o) bkp).2 = .success ∧
      ∀ m < n, bkpdataRead k (setVbnvLoop k block n (bkpdataIndexVbnvContext0 + o) bkp).1
          (bkpdataIndexVbnvContext0 + o + m) =
        ((block (2 * (o + m))).toNat ||| (block (2 * (o + m) + 1)).toNat <<< 8) % 2 ^ 16 := by
  induction n generalizing o bkp with
  | zero => exact ⟨rfl,fun m none => absurd none (Nat.not_lt_zero m)⟩
  | succ n ih =>
    rw [setVbnvLoop_succ (by omega), Nat.add_sub_cancel_left, Nat.add_assoc bkpdataIndexVbnvContext0 o 1]
    obtain ⟨succeeded,words⟩ := ih (o + 1) _ (by omega)
    refine ⟨succeeded,fun m short => ?_⟩
    cases m with
    | zero =>
      simp only [Nat.add_zero]
      rw [(@setVbnvLoop_frame k block n (bkpdataIndexVbnvContext0 + (o + 1)) _).1 _ (by omega)]
      exact bkpdataRead_write_same (by omega) _
    | succ m =>
      rw [show bkpdataIndexVbnvContext0 + o + (m + 1) = bkpdataIndexVbnvContext0 + (o + 1) + m by omega,
        words m (by omega), show o + 1 + m = o + (m + 1) by omega]

theorem getVbnvLoop_encoded (k : Platform) (block : Nat → UInt8) (bkp : Nat → Nat) (n o : Nat)
    (words : ∀ m < n, bkpdataRead k bkp (bkpdataIndexVbnvContext0 + o + m) =
      ((block (2 * (o + m))).toNat ||| (block (2 * (o + m) + 1)).toNat <<< 8) % 2 ^ 16) :
    getVbnvLoop k bkp n (bkpdataIndexVbnvContext0 + o) = (List.range' (2 * o) (2 * n)).map block := by
  induction n generalizing o with
  | zero => rfl
  | succ n ih =>
    have first := words 0 (Nat.succ_pos n)
    have rest := ih (o + 1) fun m short => by
      rw [show bkpdataIndexVbnvContext0 + (o + 1) + m = bkpdataIndexVbnvContext0 + o + (m + 1) by omega,
        show o + 1 + m = o + (m + 1) by omega]
      exact words (m + 1) (by omega)
    rw [Nat.add_zero, Nat.add_zero] at first
    rw [getVbnvLoop, first, Nat.mod_mod, (bytes_of_word _ _).1, (bytes_of_word _ _).2,
      Nat.add_assoc bkpdataIndexVbnvContext0 o 1, rest, show 2 * (n + 1) = 2 * n + 1 + 1 by omega,
      List.range'_succ, List.range'_succ, show 2 * (o + 1) = 2 * o + 1 + 1 by omega]
    rfl

theorem systemGetVbnvcontext_set (k : Platform) (valid : bkpdataIndexVbnvContext0 + 8 ≤ k.stm32BkpEntries)
    (block : Nat → UInt8) (bkp : Nat → Nat) :
    (systemSetVbnvcontext k block bkp).2 = .success ∧
      systemGetVbnvcontext k (systemSetVbnvcontext k block bkp).1 = (List.range 16).map block := by
  obtain ⟨succeeded,words⟩ := setVbnvLoop_written k block 8 0 bkp valid
  refine ⟨succeeded,?_⟩
  rw [systemGetVbnvcontext, systemSetVbnvcontext, ← Nat.add_zero bkpdataIndexVbnvContext0,
    getVbnvLoop_encoded k block _ 8 0 words, List.range_eq_range']

theorem scratchpad_high_bits {value : Nat} (uint32 : value < 2 ^ 32) :
    value &&& 0xffff0000 ≠ 0 ↔ 2 ^ 16 ≤ value := by
  have maskBits : ∀ i < 32, (0xffff0000 : Nat).testBit i = decide (16 ≤ i) := by decide
  constructor
  · intro high
    refine Nat.not_lt.mp fun low => high (Nat.eq_of_testBit_eq fun i => ?_)
    rw [Nat.testBit_and, Nat.zero_testBit]
    by_cases upper : 16 ≤ i
    · rw [Nat.testBit_lt_two_pow (Nat.lt_of_lt_of_le low (Nat.pow_le_pow_right (by decide) upper)), Bool.false_and]
    · by_cases inWord : i < 32
      · rw [maskBits i inWord, decide_eq_false upper, Bool.and_false]
      · omega
  · intro wide
    obtain ⟨i,upper,set⟩ := Nat.ge_two_pow_implies_high_bit_true wide
    have inWord : i < 32 := Nat.not_le.mp fun beyond => by
      rw [Nat.testBit_lt_two_pow (Nat.lt_of_lt_of_le uint32 (Nat.pow_le_pow_right (by decide) beyond))] at set
      exact Bool.false_ne_true set
    intro cleared
    have := Nat.zero_testBit i
    rw [← cleared, Nat.testBit_and, set, maskBits i inWord, decide_eq_true upper] at this
    exact Bool.noConfusion this

section Setters

variable {k : Platform} (valid : bkpdataIndexVbnvContext0 + 8 ≤ k.stm32BkpEntries)
include valid

theorem backup_setScratchpad (c : Chip) {value : Nat} (uint32 : value < 2 ^ 32) :
    (step k c (.setScratchpad value)).backup k = (c.backup k).step (.setScratchpad value) := by
  rw [step, Backup.step, systemSetScratchpad]
  by_cases fits : value < 2 ^ 16
  · have present : bkpdataIndexScratchpad < k.stm32BkpEntries := Nat.lt_of_lt_of_le (by decide) valid
    rw [if_neg (mt (scratchpad_high_bits uint32).mp (Nat.not_le.mpr fits)), if_pos fits, Chip.backup, Chip.backup,
      systemGetScratchpad, bkpdataRead_write_same present, Nat.mod_mod, Nat.mod_eq_of_lt fits,
      systemGetVbnvcontext_congr fun j after => bkpdataRead_write_other (Nat.ne_of_gt (Nat.lt_of_lt_of_le (by decide) after)) _]
  · rw [if_pos ((scratchpad_high_bits uint32).mpr (Nat.not_lt.mp fits)), if_neg fits]

theorem backup_setVbnvcontext (c : Chip) (block : Nat → UInt8) :
    (step k c (.setVbnvcontext block)).backup k = (c.backup k).step (.setVbnvcontext block) := by
  rw [step, Backup.step, Chip.backup, Chip.backup, (systemGetVbnvcontext_set k valid block c.bkp).2, systemGetScratchpad,
    systemSetVbnvcontext, (setVbnvLoop_frame block 8 _ c.bkp).1 _ (show bkpdataIndexScratchpad < bkpdataIndexVbnvContext0 by decide)]
  rfl

theorem backup_step (c : Chip) {a : Action} (args : a.UintArgs) :
    (step k c a).backup k = (c.backup k).step a := by
  cases a with
  | boot rawCause pwrStatus => exact (sameOutsideFlags_boot rawCause pwrStatus).backup
  | setConsoleForceEnabled val => exact (sameOutsideFlags_systemSetConsoleForceEnabled val).backup
  | reset flags rawCause pwrStatus =>
    exact ((sameOutsideFlags_systemReset flags c.resetFlags).trans (sameOutsideFlags_boot rawCause pwrStatus)).backup
  | setScratchpad value => exact backup_setScratchpad valid c args
  | setVbnvcontext block => exact backup_setVbnvcontext valid c block

/-- Through any run of boots, resets and calls of the setters, `system_get_scratchpad` and
`system_get_vbnvcontext` return what the store of the last accepted writes holds. -/
theorem backup_run (c : Chip) (actions : List Action) (args : ∀ a ∈ actions, a.UintArgs) :
    (run k c actions).backup k = (c.backup k).run actions := by
  induction actions generalizing c with
  | nil => rfl
  | cons a actions ih =>
    rw [run, List.foldl_cons, ← run, ih (step k c a) fun b later => args b (List.mem_cons_of_mem a later),
      backup_step valid c (args a (List.mem_cons_self a actions))]
    rfl

end Setters

/-- Twenty registers: the context written, a scratchpad value refused and one kept, and a reset. -/
theorem backup_run_of_writes :
    bkpdataIndexVbnvContext0 + 8 ≤ (⟨1,2,8,16,32,64,2048,4096,8192,1,2,4,20⟩ : Platform).stm32BkpEntries ∧
      (∀ a ∈ [Action.setVbnvcontext fun j => j.toUInt8,.setScratchpad 0x12345,.setScratchpad 7,.reset 1 0 0],
        a.UintArgs) ∧
      (run ⟨1,2,8,16,32,64,2048,4096,8192,1,2,4,20⟩ Chip.initial
          [.setVbnvcontext fun j => j.toUInt8,.setScratchpad 0x12345,.setScratchpad 7,.reset 1 0 0]).backup
          ⟨1,2,8,16,32,64,2048,4096,8192,1,2,4,20⟩ =
        (Chip.initial.backup ⟨1,2,8,16,32,64,2048,4096,8192,1,2,4,20⟩).run
          [.setVbnvcontext fun j => j.toUInt8,.setScratchpad 0x12345,.setScratchpad 7,.reset 1 0 0] := by
  have valid : bkpdataIndexVbnvContext0 + 8 ≤ (⟨1,2,8,16,32,64,2048,4096,8192,1,2,4,20⟩ : Platform).stm32BkpEntries := by
    decide
  have args : ∀ a ∈ [Action.setVbnvcontext fun j => j.toUInt8,.setScratchpad 0x12345,.setScratchpad 7,.reset 1 0 0],
      a.UintArgs := by
    decide
  exact ⟨valid,args,backup_run valid _ _ args⟩

end ChromeEc.Stm32
