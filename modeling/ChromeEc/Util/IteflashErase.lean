import ChromeEc.Util.Iteflash

/-! util/iteflash.c: `check_chipid` and `command_erase`, as `main` runs them. `check_chipid`
computes `flash_size` from the CHIPVER byte as a whole number of KiB, and the erase loop counts
its `uint32_t` length down by one sector of `SECTOR_ERASE_PAGES * PAGE_SIZE` bytes a turn. It
ends because that length is a whole number of sectors: from `flash_size` it erases sectors
0, 1, ... in order, once each and none past the end of the flash, and on any other length it
can only leave through a failed transfer. The pages whose sector erase finished are returned
beside the result; they are not a value of the C code. -/
namespace ChromeEc.Iteflash

/-- `CHIP_ID`, `SECTOR_ERASE_PAGES` and `SPI_CMD_SECTOR_ERASE`. -/
def chipId : Nat := 0x8380
def sectorErasePages : Nat := 4
def spiCmdSectorErase : UInt8 := 0xD7

/-- `EINVAL`, Linux's value in errno.h (not in src/). -/
def einval : Int := 22

/-- The bytes one turn of the erase loop counts off. -/
def sectorBytes : Nat := sectorErasePages * pageSize

section Erase

variable (ftdi : Nat → Int × List UInt8)

/-- `i2c_read_byte(ftdi, cmd, data)`: its result and the byte at `data` afterwards, `data`
before the call. -/
def i2cReadByte (cmd data : UInt8) (bus : Bus) : (Int × UInt8) × Bus :=
  let command := i2cByteTransfer ftdi i2cCmdAddr [cmd] true 1 bus
  if command.1.1 < 0 then ((-eio,data),command.2)
  else
    let read := i2cByteTransfer ftdi i2cDataAddr [data] false 1 command.2
    ((if read.1.1 < 0 then -eio else 0,read.1.2.headD data),read.2)

/-- `check_chipid(ftdi)`: its result and `flash_size` afterwards, `flashSize` before. The tool
runs on a little-endian host, so byte 1 of `id` is its high byte. -/
def checkChipid (flashSize : Nat) (bus : Bus) : (Int × Nat) × Bus :=
  let high := i2cReadByte ftdi 0x00 0xff bus
  if high.1.1 < 0 then ((high.1.1,flashSize),high.2) else
  let low := i2cReadByte ftdi 0x01 0xff high.2
  if low.1.1 < 0 then ((low.1.1,flashSize),low.2) else
  let ver := i2cReadByte ftdi 0x02 0xff low.2
  if ver.1.1 < 0 then ((ver.1.1,flashSize),ver.2)
  else if high.1.2.toNat * 256 + low.1.2.toNat ≠ chipId then ((-einval,flashSize),ver.2)
  else ((0,(128 + (ver.1.2.toNat &&& 0xF0)) * 1024),ver.2)

/-- `spi_flash_set_erase_page(ftdi, page)`: the address bytes go through `uint8_t`. -/
def spiFlashSetErasePage (page : Nat) (bus : Bus) : Int × Bus :=
  let wrote := orWriteBytes ftdi [(0x08,(page >>> 8).toUInt8),(0x08,(page &&& 0xff).toUInt8),(0x08,0)] 0 bus
  (if wrote.1 ≠ 0 then -eio else 0,wrote.2)

/-- A turn of the loop of `command_erase` up to the end of its busy poll, erasing the sector
that holds `page`: `.inl` the result and state it leaves the loop with, `.inr` the state once
the sector is erased; `none` while the poll goes on. -/
def eraseSector (fuel page : Nat) (bus : Bus) : Option ((Int × Bus) ⊕ Bus) :=
  checkStep (spiFlashErasePreamble ftdi bus) fun bus =>
  checkStep (spiFlashCommandShort ftdi spiCmdWriteEnable bus) fun bus =>
  checkStep (spiFlashCommandShort ftdi spiCmdSectorErase bus) fun bus =>
  checkStep (spiFlashSetErasePage ftdi page bus) fun bus =>
  checkPoll (spiPollBusy ftdi fuel bus) fun bus => some (.inr bus)

/-- The loop of `command_erase` from `page` with `remaining` bytes, in at most `turns` turns: its
result, the pages whose sector erase finished, and the state; `none` while it goes on. A failed
write-disable leaves the loop with `res` still 0, from `spi_poll_busy`. -/
def eraseLoop (fuel : Nat) : Nat → Nat → Nat → Bus → Option (Int × List Nat × Bus)
  | 0, _, _, _ => none
  | turns + 1, page, remaining, bus =>
    if remaining = 0 then some (0,[],bus)
    else
      (eraseSector ftdi fuel page bus).bind fun outcome =>
        outcome.elim (fun exit => some (exit.1,[],exit.2)) fun bus =>
          let disable := spiFlashCommandShort ftdi spiCmdWriteDisable bus
          if disable.1 < 0 then some (0,[page],disable.2)
          else (eraseLoop fuel turns (page + sectorErasePages) ((remaining + 2 ^ 32 - sectorBytes) % 2 ^ 32)
            disable.2).map fun rest => (rest.1,page :: rest.2.1,rest.2.2)

/-- `command_erase(ftdi, len, off)` with `flash_size` at `flashSize`: after the loop, whether it
failed or not, the write-disable command, whose result is only printed. -/
def commandErase (fuel turns flashSize len off : Nat) (bus : Bus) : Option (Int × List Nat × Bus) :=
  if off ≠ 0 ∨ len ≠ flashSize then some (-einval,[],bus)
  else (eraseLoop ftdi fuel turns (sectorErasePages - 1) len bus).map fun r =>
    (r.1,r.2.1,(spiFlashCommandShort ftdi spiCmdWriteDisable r.2.2).2)

end Erase

/-! ### Failures -/

/-- A transfer made from `bus` to `bus'` failed. -/
def Fails (bus bus' : Bus) : Prop :=
  ∃ new : List Transfer, bus'.transfers = bus.transfers ++ new ∧ ∃ t ∈ new, t.result < 0

/-- A step that failed: its result is negative, and so was a transfer's. -/
def Failed (bus bus' : Bus) (ret : Int) : Prop := ret < 0 ∧ Fails bus bus'

section Failures

variable {b₀ b₁ b₂ : Bus} {r : Int}

theorem Fails.prepend (grown : b₀.transfers <+: b₁.transfers) (fails : Fails b₁ b₂) : Fails b₀ b₂ := by
  obtain ⟨skipped,record⟩ := grown
  obtain ⟨new,log,failed⟩ := fails
  exact ⟨skipped ++ new,by rw [log,← record,List.append_assoc],
    let ⟨t,mem,neg⟩ := failed; ⟨t,List.mem_append_right _ mem,neg⟩⟩

theorem Fails.extend (fails : Fails b₀ b₁) (grown : b₁.transfers <+: b₂.transfers) : Fails b₀ b₂ := by
  obtain ⟨new,log,failed⟩ := fails
  obtain ⟨more,record⟩ := grown
  exact ⟨new ++ more,by rw [← record,log,List.append_assoc],
    let ⟨t,mem,neg⟩ := failed; ⟨t,List.mem_append_left _ mem,neg⟩⟩

theorem Failed.prepend (grown : b₀.transfers <+: b₁.transfers) (failed : Failed b₁ b₂ r) : Failed b₀ b₂ r :=
  ⟨failed.1,failed.2.prepend grown⟩

theorem Checked.grown (checked : Checked b₀ b₁ r) : b₀.transfers <+: b₁.transfers :=
  let ⟨new,log,_⟩ := checked; ⟨new,log.symm⟩

theorem Checked.failed (checked : Checked b₀ b₁ r) (neg : r < 0) : Failed b₀ b₁ r := by
  obtain ⟨new,log,sign⟩ := checked
  refine ⟨neg,new,log,?_⟩
  by_contra none
  exact absurd (sign.mpr fun t mem => Int.not_lt.mp fun failed => none ⟨t,mem,failed⟩) (Int.not_le.mpr neg)

end Failures

/-- What a sector erase, or its part from `bus` on, guarantees: leaving the loop, a failed step;
going on, only more transfers. -/
def SectorReported (bus : Bus) (turn : Option ((Int × Bus) ⊕ Bus)) : Prop :=
  ∀ outcome, turn = some outcome →
    outcome.elim (fun exit => Failed bus exit.2 exit.1) fun next => bus.transfers <+: next.transfers

namespace SectorReported

variable {bus : Bus}

theorem checkStep {step : Int × Bus} {rest : Bus → Option ((Int × Bus) ⊕ Bus)} (checked : Checked bus step.2 step.1)
    (after : 0 ≤ step.1 → SectorReported step.2 (rest step.2)) : SectorReported bus (checkStep step rest) := by
  intro outcome ran
  unfold Iteflash.checkStep at ran
  split_ifs at ran with failed
  · cases ran
    exact checked.failed failed
  · have next := after (Int.not_lt.mp failed) outcome ran
    cases outcome with
    | inl exit => exact Failed.prepend checked.grown next
    | inr next' => exact checked.grown.trans next

theorem checkPoll {polled : Option (Int × Bus)} {rest : Bus → Option ((Int × Bus) ⊕ Bus)}
    (checked : ∀ step, polled = some step → Checked bus step.2 step.1)
    (after : ∀ step, polled = some step → 0 ≤ step.1 → SectorReported step.2 (rest step.2)) :
    SectorReported bus (checkPoll polled rest) := by
  cases polled with
  | none => exact fun _ ran => by cases ran
  | some step => exact checkStep (checked step rfl) (after step rfl)

theorem done : SectorReported bus (some (.inr bus)) := by
  intro outcome ran
  cases ran
  exact List.prefix_refl _

end SectorReported

section Specs

variable (ftdi : Nat → Int × List UInt8)

theorem spiFlashSetErasePage_signals (page : Nat) (bus : Bus) :
    Signals bus (spiFlashSetErasePage ftdi page bus).2 (spiFlashSetErasePage ftdi page bus).1 := by
  dsimp only [spiFlashSetErasePage]
  exact (orWriteBytes_signals ftdi _ (Signals.refl bus)).normalize

theorem eraseSector_reported (fuel page : Nat) (bus : Bus) :
    SectorReported bus (eraseSector ftdi fuel page bus) := by
  unfold eraseSector
  refine .checkStep ((spiFlashErasePreamble_signals ftdi _).checked) fun _ => ?_
  refine .checkStep ((spiFlashCommandShort_signals ftdi _ _).checked) fun _ => ?_
  refine .checkStep ((spiFlashCommandShort_signals ftdi _ _).checked) fun _ => ?_
  refine .checkStep ((spiFlashSetErasePage_signals ftdi _ _).checked) fun _ => ?_
  exact .checkPoll (fun _ => spiPollBusy_checked ftdi) fun _ _ _ => .done

end Specs

/-! ### The erase loop -/

/-- What the erase loop from `page`, over `n` sectors, guarantees of its run from `bus`: the
pages it erased are `page`, `page + SECTOR_ERASE_PAGES`, ..., at most `n` of them, and when
every transfer succeeded it returns 0 having erased all `n`. -/
def EraseReported (n page : Nat) (bus : Bus) (r : Int × List Nat × Bus) : Prop :=
  r.2.1 = (List.range r.2.1.length).map (fun j => page + sectorErasePages * j) ∧ r.2.1.length ≤ n ∧
    ∃ new : List Transfer, r.2.2.transfers = bus.transfers ++ new ∧
      ((∀ t ∈ new, 0 ≤ t.result) → r.1 = 0 ∧ r.2.1.length = n)

namespace EraseReported

variable {n page : Nat} {bus next bus' : Bus}

theorem done (bus : Bus) : EraseReported 0 page bus (0,[],bus) :=
  ⟨rfl,Nat.le_refl 0,[],by rw [List.append_nil],fun _ => ⟨rfl,rfl⟩⟩

theorem failed {ret : Int} (failed : Failed bus bus' ret) : EraseReported n page bus (ret,[],bus') :=
  let ⟨_,new,log,t,mem,neg⟩ := failed
  ⟨rfl,Nat.zero_le n,new,log,fun ok => absurd (ok t mem) (Int.not_le.mpr neg)⟩

theorem disabled {m : Nat} (grown : bus.transfers <+: next.transfers) (fails : Fails next bus') :
    EraseReported (m + 1) page bus (0,[page],bus') :=
  let ⟨new,log,t,mem,neg⟩ := fails.prepend grown
  ⟨rfl,Nat.succ_le_succ (Nat.zero_le m),new,log,fun ok => absurd (ok t mem) (Int.not_le.mpr neg)⟩

theorem cons {m : Nat} {r : Int × List Nat × Bus} (grown : bus.transfers <+: next.transfers)
    (rest : EraseReported m (page + sectorErasePages) next r) :
    EraseReported (m + 1) page bus (r.1,page :: r.2.1,r.2.2) := by
  obtain ⟨pages,counted,new,log,complete⟩ := rest
  obtain ⟨skipped,record⟩ := grown
  refine ⟨?_,Nat.succ_le_succ counted,skipped ++ new,by rw [log,← record,List.append_assoc],fun ok => ?_⟩
  · rw [List.length_cons, List.range_succ_eq_map, List.map_cons, List.map_map, Nat.mul_zero, Nat.add_zero]
    refine congrArg (page :: ·) (pages.trans (List.map_congr_left fun j _ => ?_))
    simp only [Function.comp_apply, Nat.succ_eq_add_one, Nat.mul_succ]
    omega
  · obtain ⟨zero,all⟩ := complete fun t mem => ok t (List.mem_append_right _ mem)
    exact ⟨zero,congrArg Nat.succ all⟩

end EraseReported

section Loop

variable (ftdi : Nat → Int × List UInt8) {fuel : Nat}

theorem sectorBytes_pos : 0 < sectorBytes := by decide

theorem wrap_sub_sector {m : Nat} (uint32 : sectorBytes * (m + 1) < 2 ^ 32) :
    (sectorBytes * (m + 1) + 2 ^ 32 - sectorBytes) % 2 ^ 32 = sectorBytes * m := by
  rw [Nat.mul_succ] at uint32 ⊢
  omega

theorem eraseLoop_reported {turns n page : Nat} {bus : Bus} {r : Int × List Nat × Bus}
    (uint32 : sectorBytes * n < 2 ^ 32) (ran : eraseLoop ftdi fuel turns page (sectorBytes * n) bus = some r) :
    EraseReported n page bus r := by
  induction turns generalizing n page bus r with
  | zero => cases ran
  | succ turns ih =>
    rw [eraseLoop] at ran
    cases n with
    | zero =>
      rw [if_pos (Nat.mul_zero _)] at ran
      cases ran
      exact .done bus
    | succ m =>
      rw [if_neg (Nat.ne_of_gt (Nat.mul_pos sectorBytes_pos (Nat.succ_pos m))), wrap_sub_sector uint32] at ran
      obtain ⟨outcome,swept,rest⟩ := Option.bind_eq_some.mp ran
      have reported := eraseSector_reported ftdi fuel page bus outcome swept
      cases outcome with
      | inl exit =>
        cases rest
        exact .failed reported
      | inr next =>
        have disable := spiFlashCommandShort_signals ftdi spiCmdWriteDisable next
        dsimp only [Sum.elim] at rest
        split_ifs at rest with failed
        · cases rest
          exact .disabled reported (disable.checked.failed failed).2
        · obtain ⟨r,looped,rfl⟩ := Option.map_eq_some'.mp rest
          exact .cons (reported.trans disable.checked.grown) (ih (by rw [Nat.mul_succ] at uint32; omega) looped)

theorem eraseLoop_turns {turns n page : Nat} {bus : Bus} (uint32 : sectorBytes * n < 2 ^ 32) (enough : n < turns) :
    eraseLoop ftdi fuel turns page (sectorBytes * n) bus = eraseLoop ftdi fuel (n + 1) page (sectorBytes * n) bus := by
  induction n generalizing turns page bus with
  | zero =>
    obtain ⟨turns,rfl⟩ : ∃ t, turns = t + 1 := ⟨turns - 1,by omega⟩
    simp only [eraseLoop, Nat.mul_zero, if_true]
  | succ m ih =>
    obtain ⟨turns,rfl⟩ : ∃ t, turns = t + 1 := ⟨turns - 1,by omega⟩
    have rest : ∀ page bus, eraseLoop ftdi fuel turns page (sectorBytes * m) bus =
        eraseLoop ftdi fuel (m + 1) page (sectorBytes * m) bus := fun _ _ =>
      ih (by rw [Nat.mul_succ] at uint32; omega) (by omega)
    rw [eraseLoop, eraseLoop, wrap_sub_sector uint32]
    simp only [rest]

theorem eraseLoop_off_sector {turns page remaining : Nat} {bus : Bus} {r : Int × List Nat × Bus}
    (offSector : remaining % sectorBytes ≠ 0) (uint32 : remaining < 2 ^ 32)
    (ran : eraseLoop ftdi fuel turns page remaining bus = some r) : Fails bus r.2.2 := by
  induction turns generalizing page remaining bus r with
  | zero => cases ran
  | succ turns ih =>
    rw [eraseLoop, if_neg (fun zero => offSector (by rw [zero]; rfl))] at ran
    obtain ⟨outcome,swept,rest⟩ := Option.bind_eq_some.mp ran
    have reported := eraseSector_reported ftdi fuel page bus outcome swept
    cases outcome with
    | inl exit =>
      cases rest
      exact reported.2
    | inr next =>
      have disable := spiFlashCommandShort_signals ftdi spiCmdWriteDisable next
      dsimp only [Sum.elim] at rest
      split_ifs at rest with failed
      · cases rest
        exact (disable.checked.failed failed).2.prepend reported
      · obtain ⟨r,looped,rfl⟩ := Option.map_eq_some'.mp rest
        have counted : (remaining + 2 ^ 32 - sectorBytes) % 2 ^ 32 % sectorBytes ≠ 0 := by
          unfold sectorBytes sectorErasePages pageSize at offSector ⊢
          omega
        exact (ih counted (Nat.mod_lt _ (Nat.two_pow_pos 32)) looped).prepend (reported.trans disable.checked.grown)

end Loop

/-! ### `main`: the chip id, then the erase -/

/-- What an erase of `size` bytes run from `bus` should leave: the sectors it erased are 0, 1,
... in order, none past the end of the flash, and when every transfer succeeded it returns 0
having erased all of them. -/
def ErasesFlash (size : Nat) (bus : Bus) (r : Int × List Nat × Bus) : Prop :=
  r.2.1.map (· / sectorErasePages) = List.range r.2.1.length ∧ r.2.1.length ≤ size / sectorBytes ∧
    ∃ new : List Transfer, r.2.2.transfers = bus.transfers ++ new ∧
      ((∀ t ∈ new, 0 ≤ t.result) → r.1 = 0 ∧ r.2.1.length = size / sectorBytes)

section Main

variable (ftdi : Nat → Int × List UInt8)

theorem checkChipid_sectors {flashSize : Nat} {bus : Bus} (checked : (checkChipid ftdi flashSize bus).1.1 = 0) :
    ∃ n, (checkChipid ftdi flashSize bus).1.2 = sectorBytes * n ∧ sectorBytes * n < 2 ^ 32 := by
  dsimp only [checkChipid] at checked ⊢
  generalize i2cReadByte ftdi 0x00 0xff bus = high at checked ⊢
  generalize i2cReadByte ftdi 0x01 0xff high.2 = low at checked ⊢
  generalize i2cReadByte ftdi 0x02 0xff low.2 = ver at checked ⊢
  by_cases highFailed : high.1.1 < 0
  · rw [if_pos highFailed] at checked
    exact absurd checked (Int.ne_of_lt highFailed)
  rw [if_neg highFailed] at checked ⊢
  by_cases lowFailed : low.1.1 < 0
  · rw [if_pos lowFailed] at checked
    exact absurd checked (Int.ne_of_lt lowFailed)
  rw [if_neg lowFailed] at checked ⊢
  by_cases verFailed : ver.1.1 < 0
  · rw [if_pos verFailed] at checked
    exact absurd checked (Int.ne_of_lt verFailed)
  rw [if_neg verFailed] at checked ⊢
  by_cases otherChip : high.1.2.toNat * 256 + low.1.2.toNat ≠ chipId
  · rw [if_pos otherChip] at checked
    exact absurd checked (show ¬-einval = 0 by decide)
  rw [if_neg otherChip]
  have masked : ver.1.2.toNat &&& 0xF0 ≤ 0xF0 := Nat.and_le_right
  exact ⟨_,Nat.mul_comm _ _,by unfold sectorBytes sectorErasePages pageSize; omega⟩

theorem commandErase_erases {fuel turns n : Nat} {bus : Bus} {r : Int × List Nat × Bus}
    (uint32 : sectorBytes * n < 2 ^ 32) (ran : commandErase ftdi fuel turns (sectorBytes * n) (sectorBytes * n) 0 bus = some r) :
    ErasesFlash (sectorBytes * n) bus r := by
  rw [commandErase, if_neg (by simp only [ne_eq, not_true_eq_false, or_self, not_false_eq_true])] at ran
  obtain ⟨r,looped,rfl⟩ := Option.map_eq_some'.mp ran
  obtain ⟨pages,counted,new,log,complete⟩ := eraseLoop_reported ftdi uint32 looped
  obtain ⟨disable,disableLog,-⟩ := spiFlashCommandShort_signals ftdi spiCmdWriteDisable r.2.2
  rw [ErasesFlash, Nat.mul_div_cancel_left n sectorBytes_pos]
  refine ⟨?_,counted,new ++ disable,by rw [disableLog,log,List.append_assoc],fun ok => complete fun t mem =>
    ok t (List.mem_append_left _ mem)⟩
  dsimp only
  rw [pages, List.map_map, List.length_map, List.length_range]
  refine (List.map_congr_left fun j _ => ?_).trans (List.map_id _)
  simp only [Function.comp_apply, sectorErasePages, id]
  omega

/-- Whatever the bridge answers, once `check_chipid` succeeds, `command_erase(ftdi, flash_size,
0)` erases sectors 0, 1, ... of the flash in order, each once and none past its end, and when
every transfer succeeds it returns 0 having erased the whole flash. -/
theorem checked_chip_erase_covers_flash (fuel turns flashSize : Nat) (bus : Bus)
    (checked : (checkChipid ftdi flashSize bus).1.1 = 0) :
    ∀ r ∈ commandErase ftdi fuel turns (checkChipid ftdi flashSize bus).1.2 (checkChipid ftdi flashSize bus).1.2 0
        (checkChipid ftdi flashSize bus).2,
      ErasesFlash (checkChipid ftdi flashSize bus).1.2 (checkChipid ftdi flashSize bus).2 r := by
  obtain ⟨n,size,uint32⟩ := checkChipid_sectors ftdi checked
  rw [size]
  exact fun _ ran => commandErase_erases ftdi uint32 ran

/-- Once `check_chipid` succeeds, the loop of `command_erase(ftdi, flash_size, 0)` takes at most
`flash_size / (SECTOR_ERASE_PAGES * PAGE_SIZE) + 1` turns: more leave its outcome unchanged. -/
theorem checked_chip_erase_ends (fuel turns flashSize : Nat) (bus : Bus)
    (checked : (checkChipid ftdi flashSize bus).1.1 = 0)
    (enough : (checkChipid ftdi flashSize bus).1.2 / sectorBytes < turns) :
    commandErase ftdi fuel turns (checkChipid ftdi flashSize bus).1.2 (checkChipid ftdi flashSize bus).1.2 0
        (checkChipid ftdi flashSize bus).2 =
      commandErase ftdi fuel ((checkChipid ftdi flashSize bus).1.2 / sectorBytes + 1) (checkChipid ftdi flashSize bus).1.2
        (checkChipid ftdi flashSize bus).1.2 0 (checkChipid ftdi flashSize bus).2 := by
  obtain ⟨n,size,uint32⟩ := checkChipid_sectors ftdi checked
  rw [size, Nat.mul_div_cancel_left n sectorBytes_pos] at enough ⊢
  unfold commandErase
  rw [eraseLoop_turns ftdi uint32 enough]

/-- Whatever the bridge answers, `command_erase(ftdi, len, 0)` with `flash_size` at a `len` that
is not a whole number of sectors returns only after a failed transfer: in a run where every
transfer succeeds, its `uint32_t` count wraps past 0 and the loop never ends. -/
theorem commandErase_off_sector (fuel turns len : Nat) (bus : Bus) (offSector : len % sectorBytes ≠ 0)
    (uint32 : len < 2 ^ 32) : ∀ r ∈ commandErase ftdi fuel turns len len 0 bus, Fails bus r.2.2 := by
  intro r ran
  rw [Option.mem_def, commandErase, if_neg (by simp only [ne_eq, not_true_eq_false, or_self, not_false_eq_true])] at ran
  obtain ⟨r,looped,rfl⟩ := Option.map_eq_some'.mp ran
  obtain ⟨disable,disableLog,-⟩ := spiFlashCommandShort_signals ftdi spiCmdWriteDisable r.2.2
  exact (eraseLoop_off_sector ftdi offSector uint32 looped).extend ⟨disable,disableLog.symm⟩

end Main

/-- A bridge on which every call succeeds, with all-zero ACK bytes, and whose reads of the
chip id deliver `0x83` and `0x80`: each `i2c_read_byte` takes ten FTDI calls, the ninth of
which delivers its byte. -/
def chipIdBridge (call : Nat) : Int × List UInt8 :=
  if call = 8 then (0,[0x83]) else if call = 18 then (0,[0x80]) else (0,[0])

theorem erase_after_chip_id :
    (checkChipid chipIdBridge 0 Bus.initial).1.1 = 0 ∧
      ∀ r ∈ commandErase chipIdBridge 1 200 (checkChipid chipIdBridge 0 Bus.initial).1.2
          (checkChipid chipIdBridge 0 Bus.initial).1.2 0 (checkChipid chipIdBridge 0 Bus.initial).2,
        ErasesFlash (checkChipid chipIdBridge 0 Bus.initial).1.2 (checkChipid chipIdBridge 0 Bus.initial).2 r :=
  ⟨by decide,checked_chip_erase_covers_flash chipIdBridge 1 200 0 Bus.initial (by decide)⟩

theorem erase_after_chip_id_ends :
    (checkChipid chipIdBridge 0 Bus.initial).1.1 = 0 ∧ (checkChipid chipIdBridge 0 Bus.initial).1.2 / sectorBytes < 200 ∧
      commandErase chipIdBridge 1 200 (checkChipid chipIdBridge 0 Bus.initial).1.2
          (checkChipid chipIdBridge 0 Bus.initial).1.2 0 (checkChipid chipIdBridge 0 Bus.initial).2 =
        commandErase chipIdBridge 1 ((checkChipid chipIdBridge 0 Bus.initial).1.2 / sectorBytes + 1)
          (checkChipid chipIdBridge 0 Bus.initial).1.2 (checkChipid chipIdBridge 0 Bus.initial).1.2 0
          (checkChipid chipIdBridge 0 Bus.initial).2 :=
  ⟨by decide,by decide,checked_chip_erase_ends chipIdBridge 1 200 0 Bus.initial (by decide) (by decide)⟩

theorem erase_of_partial_sector :
    1000 % sectorBytes ≠ 0 ∧ 1000 < 2 ^ 32 ∧ ∀ r ∈ commandErase chipIdBridge 1 5 1000 1000 0 Bus.initial, Fails Bus.initial r.2.2 :=
  ⟨by decide,by decide,commandErase_off_sector chipIdBridge 1 5 1000 Bus.initial (by decide) (by decide)⟩

end ChromeEc.Iteflash
