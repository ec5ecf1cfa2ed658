import Mathlib.Data.Int.Bitwise
import Mathlib.Tactic.LiftLets
import Mathlib.Tactic.ExtractLets

/-! util/iteflash.c: the host tool that reads and writes an ITE83xx EC's flash through the
I2C bridge of an FTDI chip. The bridge's answers, the results of `ftdi_write_data` and
`ftdi_read_data` and the bytes read, are the model's input, one per call in order; any
device's behaviour on a run is such a sequence. A record of every `i2c_byte_transfer` made
and its result is kept beside the tool's own state. The `ret |=` helpers report every failed
transfer, but `command_read_pages` overwrites the result of its page-read command and
`command_write_pages` that of `i2c_write_byte(0x10, 0x20)`, and the latter ignores the
write-disable it always sends last. -/
namespace ChromeEc.Iteflash

/-- `ENXIO` and `EIO`, Linux's values in errno.h (not in src/). -/
def enxio : Int := 6
def eio : Int := 5

/-- `I2C_CMD_ADDR`, `I2C_DATA_ADDR` and `I2C_BLOCK_ADDR`. -/
def i2cCmdAddr : UInt8 := 0x5A
def i2cDataAddr : UInt8 := 0x35
def i2cBlockAddr : UInt8 := 0x79

/-- `PAGE_SIZE`, `BLOCK_WRITE_SIZE` and `TX_BUFFER_LIMIT`. -/
def pageSize : Nat := 256
def blockWriteSize : Nat := 65536
def txBufferLimit : Nat := 32

/-- The JEDEC commands the tool sends. -/
def spiCmdWriteDisable : UInt8 := 0x04
def spiCmdReadStatus : UInt8 := 0x05
def spiCmdWriteEnable : UInt8 := 0x06
def spiCmdFastRead : UInt8 := 0x0B
def spiCmdWordProgram : UInt8 := 0xAD

/-- One `i2c_byte_transfer`: the slave address, whether it wrote, the bytes written or read,
and its result. -/
structure Transfer where
  addr : UInt8
  write : Bool
  data : List UInt8
  result : Int
  deriving DecidableEq, Repr

/-- The tool's state: the FTDI calls made so far, the `static` ACK buffer of
`i2c_add_send_byte`, and the record of the transfers made. -/
structure Bus where
  calls : Nat
  ack : Nat → UInt8
  transfers : List Transfer

def Bus.initial : Bus := ⟨0,fun _ => 0,[]⟩

section Transfers

-- The bridge: the result of the `n`-th FTDI call, and for a read the bytes it delivers.
variable (ftdi : Nat → Int × List UInt8)

/-- `ftdi_write_data(ftdi, buf, size)`: its result. The MPSSE commands in `buf` are not
modelled. -/
def ftdiWriteData (bus : Bus) : Int × Bus := ((ftdi bus.calls).1,{bus with calls := bus.calls + 1})

/-- `ftdi_read_data(ftdi, buf, size)`: its result and the bytes it stores at `buf`, at most
`size` of them. -/
def ftdiReadData (size : Nat) (bus : Bus) : (Int × List UInt8) × Bus :=
  (((ftdi bus.calls).1,(ftdi bus.calls).2.take size),{bus with calls := bus.calls + 1})

/-- The scan of `ack[0..n)` in `i2c_add_send_byte`: the last entry with bit 7 set, or
`failedAck` if none has it. -/
def scanAcks (ack : Nat → UInt8) (n : Nat) (failedAck : UInt8) : UInt8 :=
  (List.range n).foldl (fun failedAck j => if ack j &&& 0x80 ≠ 0 then ack j else failedAck) failedAck

/-- The loop of `i2c_add_send_byte` with `left` bytes still to queue and `txBuffered` queued
since the last check of the ACK bits. -/
def sendLoop : Nat → Nat → UInt8 → Bus → Int × Bus
  | 0, _, _, bus => (0,bus)
  | left + 1, txBuffered, failedAck, bus =>
    let txBuffered := txBuffered + 1
    if left = 0 ∨ txBuffered = txBufferLimit then
      let written := ftdiWriteData ftdi bus
      if written.1 < 0 then written
      else
        let read := ftdiReadData ftdi txBuffered written.2
        let ack := fun j => read.1.2.getD j (bus.ack j)
        let failedAck := scanAcks ack txBuffered failedAck
        if read.1.1 < 0 ∨ failedAck ≠ 0 then (-enxio,{read.2 with ack})
        else sendLoop left 0 failedAck {read.2 with ack}
    else sendLoop left txBuffered failedAck bus

/-- `i2c_add_send_byte(ftdi, buf, ptr, tbuf, tcnt)`: the bytes of `tbuf` go into the MPSSE
commands, so only their number matters here. -/
def i2cAddSendByte (tcnt : Nat) (bus : Bus) : Int × Bus := sendLoop ftdi tcnt 0 0 bus

/-- `i2c_add_recv_bytes(ftdi, buf, ptr, rbuf, rcnt)`: its result and the bytes stored at
`rbuf`. -/
def i2cAddRecvBytes (rcnt : Nat) (bus : Bus) : (Int × List UInt8) × Bus :=
  let written := ftdiWriteData ftdi bus
  if written.1 < 0 then ((written.1,[]),written.2)
  else ftdiReadData ftdi rcnt written.2

/-- `i2c_byte_transfer(ftdi, addr, data, write, numbytes)`: its result and, for a read, the
bytes stored at `data`. The STOP condition is sent whatever came before, and its result is
not looked at. -/
def i2cByteTransfer (addr : UInt8) (data : List UInt8) (write : Bool) (numbytes : Nat) (bus : Bus) :
    (Int × List UInt8) × Bus :=
  let address := i2cAddSendByte ftdi 1 bus
  let transfer : (Int × List UInt8) × Bus :=
    if address.1 < 0 then ((-enxio,[]),address.2)
    else if write then
      let sent := i2cAddSendByte ftdi numbytes address.2
      ((sent.1,[]),sent.2)
    else i2cAddRecvBytes ftdi numbytes address.2
  let stop := ftdiWriteData ftdi transfer.2
  let moved := if write then data.take numbytes else transfer.1.2
  (transfer.1,{stop.2 with transfers := stop.2.transfers ++ [⟨addr,write,moved,transfer.1.1⟩]})

/-- `i2c_write_byte(ftdi, cmd, data)`. -/
def i2cWriteByte (cmd data : UInt8) (bus : Bus) : Int × Bus :=
  let ((ret,_),bus) := i2cByteTransfer ftdi i2cCmdAddr [cmd] true 1 bus
  if ret < 0 then (-eio,bus)
  else
    let ((ret,_),bus) := i2cByteTransfer ftdi i2cDataAddr [data] true 1 bus
    if ret < 0 then (-eio,bus) else (0,bus)

/-- `ret |= i2c_write_byte(ftdi, cmd, data)` for each of `writes`, from `ret`. -/
def orWriteBytes : List (UInt8 × UInt8) → Int → Bus → Int × Bus
  | [], ret, bus => (ret,bus)
  | (cmd,data) :: writes, ret, bus =>
    let (wrote,bus) := i2cWriteByte ftdi cmd data bus
    orWriteBytes writes (ret.lor wrote) bus

/-- `spi_flash_command(ftdi, cmd)`. -/
def spiFlashCommand (cmd : UInt8) (bus : Bus) : Int × Bus :=
  let wrote := orWriteBytes ftdi
    [(0x07,0x7f),(0x06,0xff),(0x05,0xfe),(0x04,0x00),(0x08,0x00),(0x05,0xfd),(0x08,cmd)] 0 bus
  (if wrote.1 ≠ 0 then -eio else 0,wrote.2)

/-- `spi_flash_command_short(ftdi, cmd)`. -/
def spiFlashCommandShort (cmd : UInt8) (bus : Bus) : Int × Bus :=
  let wrote := orWriteBytes ftdi [(0x05,0xfe),(0x08,0x00),(0x05,0xfd),(0x08,cmd)] 0 bus
  (if wrote.1 ≠ 0 then -eio else 0,wrote.2)

/-- `spi_flash_erase_preamble(ftdi)`. -/
def spiFlashErasePreamble (bus : Bus) : Int × Bus :=
  let command := spiFlashCommand ftdi 0x50 bus
  let short := spiFlashCommandShort ftdi 0x01 command.2
  let wrote := i2cWriteByte ftdi 0x08 0x00 short.2
  (if (((0 : Int).lor command.1).lor short.1).lor wrote.1 ≠ 0 then -eio else 0,wrote.2)

/-- The loop of `spi_poll_busy`: status reads until BUSY clears, at most `fuel` of them;
`none` while it still polls. -/
def pollLoop : Nat → UInt8 → Bus → Option (Int × Bus)
  | 0, _, _ => none
  | fuel + 1, reg, bus =>
    let ((ret,read),bus) := i2cByteTransfer ftdi i2cDataAddr [reg] false 1 bus
    if ret < 0 then some (ret,bus)
    else
      let reg := read.headD reg
      if reg &&& 0x01 = 0 then some (0,bus) else pollLoop fuel reg bus

/-- `spi_poll_busy(ftdi)`, with at most `fuel` status reads. -/
def spiPollBusy (fuel : Nat) (bus : Bus) : Option (Int × Bus) :=
  let (ret,bus) := spiFlashCommandShort ftdi spiCmdReadStatus bus
  if ret < 0 then some (ret,bus) else pollLoop ftdi fuel 0xff bus

/-- `(int)x` for a `uint32_t` value `x`. -/
def toInt32 (x : Nat) : Int := if x < 2 ^ 31 then x else (x : Int) - 2 ^ 32

/-- `res = step; if (res < 0) goto failed_read;` in the read loop: leave the loop with the
step's result when it failed, go on with `rest` otherwise. -/
def checkRead (step : Int × Bus) (rest : Bus → (Int × List UInt8 × Bus) ⊕ (List UInt8 × Bus)) :
    (Int × List UInt8 × Bus) ⊕ (List UInt8 × Bus) :=
  if step.1 < 0 then .inl (step.1,[],step.2) else rest step.2

/-- One turn of the loop of `command_read_pages`, reading `cnt` bytes from the page holding
`address`: `.inl` the result, bytes and state it leaves the loop with, `.inr` the bytes read
and the state the next turn starts from. -/
def readPagesTurn (address cnt : Nat) (bus : Bus) : (Int × List UInt8 × Bus) ⊕ (List UInt8 × Bus) :=
  let page := address / pageSize % 2 ^ 16
  checkRead (spiFlashCommand ftdi spiCmdFastRead bus) fun bus =>
  let w1 := i2cWriteByte ftdi 0x08 (page >>> 8).toUInt8 bus
  let w2 := i2cWriteByte ftdi 0x08 (page &&& 0xff).toUInt8 w1.2
  let w3 := i2cWriteByte ftdi 0x08 0x00 w2.2
  let w4 := i2cWriteByte ftdi 0x08 0x00 w3.2
  checkRead (w1.1 + w2.1 + w3.1 + w4.1,w4.2) fun bus =>
  -- `res = i2c_byte_transfer(ftdi, I2C_CMD_ADDR, &cmd, 1, 1)`, overwritten next
  let pageCommand := i2cByteTransfer ftdi i2cCmdAddr [0x09] true 1 bus
  let read := i2cByteTransfer ftdi i2cBlockAddr [] false cnt pageCommand.2
  if read.1.1 < 0 then .inl (read.1.1,read.1.2,read.2) else .inr (read.1.2,read.2)

/-- The loop of `command_read_pages` from `address`, with `remaining` bytes to read: its result
and the bytes read. Each turn reads at least one byte, so `remaining` turns suffice. -/
def readPagesLoop (size : Nat) : Nat → Nat → Nat → Bus → Int × List UInt8 × Bus
  | 0, _, _, bus => (toInt32 size,[],bus)
  | turns + 1, address, remaining, bus =>
    if remaining = 0 then (toInt32 size,[],bus)
    else
      let cnt := if remaining > pageSize then pageSize else remaining
      (readPagesTurn ftdi address cnt bus).elim id fun turn =>
        let rest := readPagesLoop size turns ((address + cnt) % 2 ^ 32) (remaining - cnt) turn.2
        (rest.1,turn.1 ++ rest.2.1,rest.2.2)

/-- `command_read_pages(ftdi, address, size, buffer)`: its result and the bytes it stores at
`buffer`. -/
def commandReadPages (address size : Nat) (bus : Bus) : Int × List UInt8 × Bus :=
  readPagesLoop ftdi size size address size bus

/-- `res = step; if (res < 0) goto failed_write;` in the write loop: leave the loop with the
step's result when it failed, go on with `rest` otherwise. -/
def checkStep (step : Int × Bus) (rest : Bus → Option ((Int × Bus) ⊕ Bus)) : Option ((Int × Bus) ⊕ Bus) :=
  if step.1 < 0 then some (.inl step) else rest step.2

/-- The same for `spi_poll_busy`, which may still be polling. -/
def checkPoll (polled : Option (Int × Bus)) (rest : Bus → Option ((Int × Bus) ⊕ Bus)) :
    Option ((Int × Bus) ⊕ Bus) :=
  polled.bind fun step => checkStep step rest

/-- One turn of the loop of `command_write_pages`, writing `cnt` bytes of `buffer` at
`address` with `fuel` status reads for each `spi_poll_busy`: `none` while a poll goes on,
`.inl` the result and state it leaves the loop with, `.inr` the state the next turn starts
from. -/
def writePagesTurn (fuel : Nat) (buffer : List UInt8) (address cnt : Nat) (bus : Bus) : Option ((Int × Bus) ⊕ Bus) :=
  let page := (address / blockWriteSize).toUInt8
  checkStep (spiFlashErasePreamble ftdi bus) fun bus =>
  checkStep (spiFlashCommandShort ftdi spiCmdWriteEnable bus) fun bus =>
  checkStep (spiFlashCommandShort ftdi spiCmdWordProgram bus) fun bus =>
  let t1 := i2cByteTransfer ftdi i2cDataAddr [page] true 1 bus
  let t2 := i2cByteTransfer ftdi i2cDataAddr [0] true 1 t1.2
  let t3 := i2cByteTransfer ftdi i2cDataAddr [0] true 1 t2.2
  checkStep ((t1.1.1.lor t2.1.1).lor t3.1.1,t3.2) fun bus =>
  checkPoll (spiPollBusy ftdi fuel bus) fun bus =>
  -- `res = i2c_write_byte(ftdi, 0x10, 0x20)`, overwritten next
  let start := i2cWriteByte ftdi 0x10 0x20 bus
  let block := i2cByteTransfer ftdi i2cBlockAddr (buffer.take cnt) true cnt start.2
  checkStep (block.1.1,block.2) fun bus =>
  let stop := i2cByteTransfer ftdi i2cDataAddr [0xff] true 1 bus
  let finish := i2cWriteByte ftdi 0x10 0x00 stop.2
  checkStep (stop.1.1.lor finish.1,finish.2) fun bus =>
  checkStep (spiFlashCommandShort ftdi spiCmdWriteDisable bus) fun bus =>
  checkPoll (spiPollBusy ftdi fuel bus) fun bus =>
  some (.inr bus)

/-- The loop of `command_write_pages` from `address`, with `remaining` bytes of `buffer` to
write; `none` while a poll goes on. Each turn writes at least one byte, so `remaining` turns
suffice. -/
def writePagesLoop (fuel size : Nat) : Nat → List UInt8 → Nat → Nat → Bus → Option (Int × Bus)
  | 0, _, _, _, bus => some (toInt32 size,bus)
  | turns + 1, buffer, address, remaining, bus =>
    if remaining = 0 then some (toInt32 size,bus)
    else
      let cnt := if remaining > blockWriteSize then blockWriteSize else remaining
      (writePagesTurn ftdi fuel buffer address cnt bus).bind fun outcome =>
        outcome.elim some fun bus =>
          writePagesLoop fuel size turns (buffer.drop cnt) ((address + cnt) % 2 ^ 32) (remaining - cnt) bus

/-- `command_write_pages(ftdi, address, size, buffer)`: after the loop, whether it failed or
not, the write-disable command, whose result is only printed. -/
def commandWritePages (fuel address size : Nat) (buffer : List UInt8) (bus : Bus) : Option (Int × Bus) :=
  (writePagesLoop ftdi fuel size size buffer address size bus).map fun (res,bus) =>
    (res,(spiFlashCommandShort ftdi spiCmdWriteDisable bus).2)

end Transfers

/-! ### What the helpers report -/

theorem lor_nonneg_iff (a b : Int) : 0 ≤ a.lor b ↔ 0 ≤ a ∧ 0 ≤ b := by
  cases a <;> cases b <;>
    simp only [Int.lor, Int.ofNat_eq_coe, Int.natCast_nonneg, Int.negSucc_not_nonneg, and_self, and_false, false_and]

theorem lor_nonpos {a b : Int} (nonposA : a ≤ 0) (nonposB : b ≤ 0) :
    a.lor b ≤ 0 ∧ (a.lor b = 0 ↔ a = 0 ∧ b = 0) := by
  have sign := lor_nonneg_iff a b
  have zero : a = 0 ∧ b = 0 → a.lor b = 0 := by
    rintro ⟨rfl,rfl⟩
    rfl
  refine ⟨?_,⟨fun lor => ?_,zero⟩⟩
  · by_contra pos
    have := zero (by omega)
    omega
  · omega

/-- A result that is 0 when every transfer made from `bus` to `bus'` succeeded and negative
otherwise: what `i2c_write_byte` and the `ret |=` helpers return. -/
def Signals (bus bus' : Bus) (ret : Int) : Prop :=
  ∃ new : List Transfer, bus'.transfers = bus.transfers ++ new ∧ ret ≤ 0 ∧ (ret = 0 ↔ ∀ t ∈ new, 0 ≤ t.result)

/-- A result that is non-negative exactly when every transfer made from `bus` to `bus'`
succeeded: what `i2c_byte_transfer` and `spi_poll_busy` return. -/
def Checked (bus bus' : Bus) (ret : Int) : Prop :=
  ∃ new : List Transfer, bus'.transfers = bus.transfers ++ new ∧ (0 ≤ ret ↔ ∀ t ∈ new, 0 ≤ t.result)

namespace Signals

variable {b₀ b₁ b₂ : Bus} {r₁ r₂ : Int}

theorem refl (bus : Bus) : Signals bus bus 0 := ⟨[],by simp,Int.le_refl 0,by simp⟩

theorem lor (first : Signals b₀ b₁ r₁) (second : Signals b₁ b₂ r₂) : Signals b₀ b₂ (r₁.lor r₂) := by
  obtain ⟨new₁,log₁,nonpos₁,zero₁⟩ := first
  obtain ⟨new₂,log₂,nonpos₂,zero₂⟩ := second
  obtain ⟨nonpos,zero⟩ := lor_nonpos nonpos₁ nonpos₂
  refine ⟨new₁ ++ new₂,by rw [log₂,log₁,List.append_assoc],nonpos,?_⟩
  rw [zero,zero₁,zero₂,List.forall_mem_append]

theorem add (first : Signals b₀ b₁ r₁) (second : Signals b₁ b₂ r₂) : Signals b₀ b₂ (r₁ + r₂) := by
  obtain ⟨new₁,log₁,nonpos₁,zero₁⟩ := first
  obtain ⟨new₂,log₂,nonpos₂,zero₂⟩ := second
  refine ⟨new₁ ++ new₂,by rw [log₂,log₁,List.append_assoc],by omega,?_⟩
  rw [List.forall_mem_append,← zero₁,← zero₂]
  omega

theorem normalize (signals : Signals b₀ b₁ r₁) : Signals b₀ b₁ (if r₁ ≠ 0 then -eio else 0) := by
  obtain ⟨new,log,nonpos,zero⟩ := signals
  refine ⟨new,log,?_,?_⟩ <;> split_ifs with failed
  · decide
  · exact Int.le_refl 0
  · simpa [eio] using mt zero.mpr failed
  · simpa [not_not.mp failed] using zero

theorem checked (signals : Signals b₀ b₁ r₁) : Checked b₀ b₁ r₁ := by
  obtain ⟨new,log,nonpos,zero⟩ := signals
  exact ⟨new,log,by rw [← zero]; omega⟩

end Signals

namespace Checked

variable {b₀ b₁ b₂ : Bus} {r₁ r₂ : Int}

theorem signals_eio (checked : Checked b₀ b₁ r₁) (failed : r₁ < 0) : Signals b₀ b₁ (-eio) := by
  obtain ⟨new,log,sign⟩ := checked
  exact ⟨new,log,by decide,by rw [← sign]; simp only [eio]; omega⟩

theorem signals_zero (checked : Checked b₀ b₁ r₁) (ok : 0 ≤ r₁) : Signals b₀ b₁ 0 := by
  obtain ⟨new,log,sign⟩ := checked
  exact ⟨new,log,Int.le_refl 0,by simpa using sign.mp ok⟩

theorem then_signals (first : Checked b₀ b₁ r₁) (ok : 0 ≤ r₁) (second : Signals b₁ b₂ r₂) : Signals b₀ b₂ r₂ := by
  obtain ⟨new₁,log₁,sign₁⟩ := first
  obtain ⟨new₂,log₂,nonpos,zero⟩ := second
  refine ⟨new₁ ++ new₂,by rw [log₂,log₁,List.append_assoc],nonpos,?_⟩
  rw [List.forall_mem_append,zero]
  exact ⟨fun rest => ⟨sign₁.mp ok,rest⟩,And.right⟩

theorem then_checked (first : Checked b₀ b₁ r₁) (ok : 0 ≤ r₁) (second : Checked b₁ b₂ r₂) : Checked b₀ b₂ r₂ := by
  obtain ⟨new₁,log₁,sign₁⟩ := first
  obtain ⟨new₂,log₂,sign₂⟩ := second
  refine ⟨new₁ ++ new₂,by rw [log₂,log₁,List.append_assoc],?_⟩
  rw [List.forall_mem_append,sign₂]
  exact ⟨fun rest => ⟨sign₁.mp ok,rest⟩,And.right⟩

theorem lor (first : Checked b₀ b₁ r₁) (second : Checked b₁ b₂ r₂) : Checked b₀ b₂ (r₁.lor r₂) := by
  obtain ⟨new₁,log₁,sign₁⟩ := first
  obtain ⟨new₂,log₂,sign₂⟩ := second
  refine ⟨new₁ ++ new₂,by rw [log₂,log₁,List.append_assoc],?_⟩
  rw [lor_nonneg_iff,sign₁,sign₂,List.forall_mem_append]

end Checked

section Specs

variable (ftdi : Nat → Int × List UInt8)

theorem sendLoop_transfers (left txBuffered : Nat) (failedAck : UInt8) (bus : Bus) :
    (sendLoop ftdi left txBuffered failedAck bus).2.transfers = bus.transfers := by
  induction left generalizing txBuffered failedAck bus with
  | zero => rfl
  | succ left ih =>
    simp only [sendLoop]
    split_ifs <;> first | rfl | apply ih

theorem i2cByteTransfer_record (addr : UInt8) (data : List UInt8) (write : Bool) (numbytes : Nat) (bus : Bus) :
    (i2cByteTransfer ftdi addr data write numbytes bus).2.transfers = bus.transfers ++
      [⟨addr,write,if write then data.take numbytes else (i2cByteTransfer ftdi addr data write numbytes bus).1.2,
        (i2cByteTransfer ftdi addr data write numbytes bus).1.1⟩] := by
  simp only [i2cByteTransfer, ftdiWriteData, i2cAddSendByte, i2cAddRecvBytes, ftdiReadData]
  split_ifs <;> simp [sendLoop_transfers]

theorem i2cByteTransfer_checked {addr : UInt8} {data : List UInt8} {write : Bool} {numbytes : Nat} {bus bus' : Bus}
    {ret : Int} {moved : List UInt8} (sent : i2cByteTransfer ftdi addr data write numbytes bus = ((ret,moved),bus')) :
    Checked bus bus' ret := by
  have record := i2cByteTransfer_record ftdi addr data write numbytes bus
  rw [sent] at record
  exact ⟨_,record,by simp⟩

theorem i2cByteTransfer_checks (addr : UInt8) (data : List UInt8) (write : Bool) (numbytes : Nat) (bus : Bus) :
    Checked bus (i2cByteTransfer ftdi addr data write numbytes bus).2 (i2cByteTransfer ftdi addr data write numbytes bus).1.1 :=
  ⟨_,i2cByteTransfer_record ftdi addr data write numbytes bus,by simp⟩

theorem i2cWriteByte_signals (cmd data : UInt8) (bus : Bus) :
    Signals bus (i2cWriteByte ftdi cmd data bus).2 (i2cWriteByte ftdi cmd data bus).1 := by
  unfold i2cWriteByte
  split
  next ret₁ _ bus₁ sent₁ =>
    have cmdSent := i2cByteTransfer_checked ftdi sent₁
    split_ifs with failed₁
    · exact cmdSent.signals_eio failed₁
    · split
      next ret₂ _ bus₂ sent₂ =>
        have dataSent := i2cByteTransfer_checked ftdi sent₂
        split_ifs with failed₂
        · exact cmdSent.then_signals (Int.not_lt.mp failed₁) (dataSent.signals_eio failed₂)
        · exact cmdSent.then_signals (Int.not_lt.mp failed₁) (dataSent.signals_zero (Int.not_lt.mp failed₂))

theorem orWriteBytes_signals (writes : List (UInt8 × UInt8)) {start bus : Bus} {ret : Int}
    (prior : Signals start bus ret) :
    Signals start (orWriteBytes ftdi writes ret bus).2 (orWriteBytes ftdi writes ret bus).1 := by
  induction writes generalizing ret bus with
  | nil => exact prior
  | cons write writes ih => exact ih (prior.lor (i2cWriteByte_signals ftdi write.1 write.2 bus))

theorem spiFlashCommand_signals (cmd : UInt8) (bus : Bus) :
    Signals bus (spiFlashCommand ftdi cmd bus).2 (spiFlashCommand ftdi cmd bus).1 := by
  dsimp only [spiFlashCommand]
  exact (orWriteBytes_signals ftdi _ (Signals.refl bus)).normalize

theorem spiFlashCommandShort_signals (cmd : UInt8) (bus : Bus) :
    Signals bus (spiFlashCommandShort ftdi cmd bus).2 (spiFlashCommandShort ftdi cmd bus).1 := by
  dsimp only [spiFlashCommandShort]
  exact (orWriteBytes_signals ftdi _ (Signals.refl bus)).normalize

theorem spiFlashErasePreamble_signals (bus : Bus) :
    Signals bus (spiFlashErasePreamble ftdi bus).2 (spiFlashErasePreamble ftdi bus).1 := by
  dsimp only [spiFlashErasePreamble]
  exact ((((Signals.refl bus).lor (spiFlashCommand_signals ftdi 0x50 bus)).lor
    (spiFlashCommandShort_signals ftdi 0x01 _)).lor (i2cWriteByte_signals ftdi 0x08 0x00 _)).normalize

theorem i2cWriteByte_records {cmd data : UInt8} {bus bus' : Bus} {ret : Int}
    (wrote : i2cWriteByte ftdi cmd data bus = (ret,bus')) :
    ∃ new, bus'.transfers = bus.transfers ++ new ∧
      ∀ t ∈ new, t.addr = i2cCmdAddr ∧ t.data = [cmd] ∨ t.addr = i2cDataAddr ∧ t.data = [data] := by
  unfold i2cWriteByte at wrote
  split at wrote
  next _ _ bus₁ sent₁ =>
    have record₁ := i2cByteTransfer_record ftdi i2cCmdAddr [cmd] true 1 bus
    rw [sent₁] at record₁
    split at wrote
    · cases wrote
      exact ⟨_,record₁,by simp⟩
    split at wrote
    next _ _ bus₂ sent₂ =>
      have record₂ := i2cByteTransfer_record ftdi i2cDataAddr [data] true 1 bus₁
      rw [sent₂] at record₂
      have same : bus' = bus₂ := by split at wrote <;> cases wrote <;> rfl
      subst same
      exact ⟨_,by rw [record₂,record₁,List.append_assoc],by simp⟩

theorem pollLoop_checked {fuel : Nat} {reg : UInt8} {bus : Bus} {r : Int × Bus}
    (polled : pollLoop ftdi fuel reg bus = some r) : Checked bus r.2 r.1 := by
  induction fuel generalizing reg bus with
  | zero => cases polled
  | succ fuel ih =>
    unfold pollLoop at polled
    split at polled
    next ret _ bus₁ sent =>
      have status := i2cByteTransfer_checked ftdi sent
      split_ifs at polled with failed
      · cases polled
        exact status
      · dsimp only at polled
        split at polled
        · cases polled
          exact (status.signals_zero (Int.not_lt.mp failed)).checked
        · exact status.then_checked (Int.not_lt.mp failed) (ih polled)

theorem spiPollBusy_checked {fuel : Nat} {bus : Bus} {r : Int × Bus}
    (polled : spiPollBusy ftdi fuel bus = some r) : Checked bus r.2 r.1 := by
  unfold spiPollBusy at polled
  split at polled
  next ret bus₁ sent =>
    have command := spiFlashCommandShort_signals ftdi spiCmdReadStatus bus
    rw [sent] at command
    split_ifs at polled with failed
    · cases polled
      exact command.checked
    · exact command.checked.then_checked (Int.not_lt.mp failed) (pollLoop_checked ftdi polled)

/-! ### The page loops -/

/-- The page-read command of `command_read_pages`: `0x09` written to `I2C_CMD_ADDR`. -/
def Transfer.IsPageRead (t : Transfer) : Prop := t.addr = i2cCmdAddr ∧ t.data = [0x09]

/-- The transfers of `i2c_write_byte(ftdi, 0x10, 0x20)`, which starts a block write. -/
def Transfer.IsBlockStart (t : Transfer) : Prop :=
  t.addr = i2cCmdAddr ∧ t.data = [0x10] ∨ t.addr = i2cDataAddr ∧ t.data = [0x20]

instance : DecidablePred Transfer.IsPageRead := fun _ => inferInstanceAs (Decidable (_ ∧ _))

instance : DecidablePred Transfer.IsBlockStart := fun _ => inferInstanceAs (Decidable (_ ∨ _))

/-- What a page loop guarantees of its result over the transfers made from `bus` to `bus'`,
the `unchecked` ones apart: non-negative only if every other transfer succeeded, and `size`
as an `int` when every transfer did. -/
def PagesReported (unchecked : Transfer → Prop) (size : Nat) (bus bus' : Bus) (ret : Int) : Prop :=
  ∃ new : List Transfer, bus'.transfers = bus.transfers ++ new ∧
    (0 ≤ ret → ∀ t ∈ new, unchecked t ∨ 0 ≤ t.result) ∧ ((∀ t ∈ new, 0 ≤ t.result) → ret = toInt32 size)

namespace PagesReported

variable {unchecked : Transfer → Prop} {size : Nat} {b₀ b₁ b₂ : Bus} {r ret : Int}

theorem done (bus : Bus) : PagesReported unchecked size bus bus (toInt32 size) :=
  ⟨[],by simp,by simp,fun _ => rfl⟩

theorem of_failed (checked : Checked b₀ b₁ r) (failed : r < 0) : PagesReported unchecked size b₀ b₁ r := by
  obtain ⟨new,log,sign⟩ := checked
  exact ⟨new,log,fun ok => absurd ok (by omega),fun all => absurd (sign.mpr all) (by omega)⟩

theorem after (checked : Checked b₀ b₁ r) (ok : 0 ≤ r) (rest : PagesReported unchecked size b₁ b₂ ret) :
    PagesReported unchecked size b₀ b₂ ret := by
  obtain ⟨new₁,log₁,sign₁⟩ := checked
  obtain ⟨new₂,log₂,counted,complete⟩ := rest
  refine ⟨new₁ ++ new₂,by rw [log₂,log₁,List.append_assoc],fun nonneg t mem => ?_,
    fun all => complete fun t mem => all t (List.mem_append_right _ mem)⟩
  rcases List.mem_append.mp mem with first | second
  · exact .inr (sign₁.mp ok t first)
  · exact counted nonneg t second

theorem after_unchecked {skipped : List Transfer} (record : b₁.transfers = b₀.transfers ++ skipped)
    (kind : ∀ t ∈ skipped, unchecked t) (rest : PagesReported unchecked size b₁ b₂ ret) :
    PagesReported unchecked size b₀ b₂ ret := by
  obtain ⟨new,log,counted,complete⟩ := rest
  refine ⟨skipped ++ new,by rw [log,record,List.append_assoc],fun nonneg u mem => ?_,
    fun all => complete fun u mem => all u (List.mem_append_right _ mem)⟩
  rcases List.mem_append.mp mem with first | later
  · exact .inl (kind u first)
  · exact counted nonneg u later

end PagesReported

/-- What a turn of the read loop, or its part from `bus` on, guarantees: leaving the loop, the
report of what it did; going on, that it adds nothing to the report of the turns after it. -/
def ReadTurnReported (size : Nat) (bus : Bus) : (Int × List UInt8 × Bus) ⊕ (List UInt8 × Bus) → Prop
  | .inl exit => PagesReported Transfer.IsPageRead size bus exit.2.2 exit.1
  | .inr next => ∀ bus' ret, PagesReported Transfer.IsPageRead size next.2 bus' ret →
      PagesReported Transfer.IsPageRead size bus bus' ret

theorem ReadTurnReported.checkRead {size : Nat} {bus : Bus} {step : Int × Bus}
    {rest : Bus → (Int × List UInt8 × Bus) ⊕ (List UInt8 × Bus)} (checked : Checked bus step.2 step.1)
    (after : 0 ≤ step.1 → ReadTurnReported size step.2 (rest step.2)) :
    ReadTurnReported size bus (checkRead step rest) := by
  unfold Iteflash.checkRead
  split_ifs with failed
  · exact .of_failed checked failed
  · have ok := Int.not_lt.mp failed
    have next := after ok
    generalize rest step.2 = outcome at next ⊢
    cases outcome with
    | inl exit => exact .after checked ok next
    | inr next' => exact fun bus' ret later => .after checked ok (next bus' ret later)

theorem readPagesTurn_reported (address cnt size : Nat) (bus : Bus) :
    ReadTurnReported size bus (readPagesTurn ftdi address cnt bus) := by
  unfold readPagesTurn
  refine .checkRead (spiFlashCommand_signals ftdi _ _).checked fun _ => ?_
  refine .checkRead ((((i2cWriteByte_signals ftdi _ _ _).add (i2cWriteByte_signals ftdi _ _ _)).add
    (i2cWriteByte_signals ftdi _ _ _)).add (i2cWriteByte_signals ftdi _ _ _)).checked fun _ => ?_
  dsimp only
  split_ifs with failed
  · exact .after_unchecked (i2cByteTransfer_record ftdi _ _ _ _ _) (by simp [Transfer.IsPageRead])
      (.of_failed (i2cByteTransfer_checks ftdi _ _ _ _ _) failed)
  · exact fun _ _ later => .after_unchecked (i2cByteTransfer_record ftdi _ _ _ _ _) (by simp [Transfer.IsPageRead])
      (.after (i2cByteTransfer_checks ftdi _ _ _ _ _) (Int.not_lt.mp failed) later)

theorem readPagesLoop_reported (size turns address remaining : Nat) (bus : Bus) :
    PagesReported Transfer.IsPageRead size bus (readPagesLoop ftdi size turns address remaining bus).2.2
      (readPagesLoop ftdi size turns address remaining bus).1 := by
  induction turns generalizing address remaining bus with
  | zero => exact .done bus
  | succ turns ih =>
    rw [readPagesLoop]
    by_cases done : remaining = 0
    · rw [if_pos done]
      exact .done bus
    rw [if_neg done]
    lift_lets
    intro cnt
    have reported := readPagesTurn_reported ftdi address cnt size bus
    generalize readPagesTurn ftdi address cnt bus = turn at reported ⊢
    cases turn with
    | inl exit => exact reported
    | inr next => exact reported _ _ (ih _ _ _)

/-- What a turn of the write loop, or the part of it from `bus` on, guarantees: leaving the
loop, the report of what it did; going on, that it adds nothing to the report of the turns
after it. -/
def TurnReported (size : Nat) (bus : Bus) (turn : Option ((Int × Bus) ⊕ Bus)) : Prop :=
  ∀ outcome, turn = some outcome →
    match outcome with
    | .inl exit => PagesReported Transfer.IsBlockStart size bus exit.2 exit.1
    | .inr next => ∀ bus' ret, PagesReported Transfer.IsBlockStart size next bus' ret →
        PagesReported Transfer.IsBlockStart size bus bus' ret

namespace TurnReported

variable {size : Nat} {bus : Bus}

theorem checkStep {step : Int × Bus} {rest : Bus → Option ((Int × Bus) ⊕ Bus)} (checked : Checked bus step.2 step.1)
    (after : 0 ≤ step.1 → TurnReported size step.2 (rest step.2)) : TurnReported size bus (checkStep step rest) := by
  intro outcome ran
  unfold Iteflash.checkStep at ran
  split_ifs at ran with failed
  · cases ran
    exact .of_failed checked failed
  · have ok := Int.not_lt.mp failed
    have next := after ok outcome ran
    cases outcome with
    | inl exit => exact .after checked ok next
    | inr next' => exact fun bus' ret rest => .after checked ok (next bus' ret rest)

theorem checkPoll {polled : Option (Int × Bus)} {rest : Bus → Option ((Int × Bus) ⊕ Bus)}
    (checked : ∀ step, polled = some step → Checked bus step.2 step.1)
    (after : ∀ step, polled = some step → 0 ≤ step.1 → TurnReported size step.2 (rest step.2)) :
    TurnReported size bus (checkPoll polled rest) := by
  cases polled with
  | none => exact fun _ ran => by cases ran
  | some step => exact checkStep (checked step rfl) (after step rfl)

theorem unchecked {bus' : Bus} {turn : Option ((Int × Bus) ⊕ Bus)} {skipped : List Transfer}
    (record : bus'.transfers = bus.transfers ++ skipped) (kind : ∀ t ∈ skipped, t.IsBlockStart)
    (rest : TurnReported size bus' turn) : TurnReported size bus turn := by
  intro outcome ran
  have next := rest outcome ran
  cases outcome with
  | inl exit => exact .after_unchecked record kind next
  | inr next' => exact fun b ret later => .after_unchecked record kind (next b ret later)

theorem done : TurnReported size bus (some (.inr bus)) := by
  intro outcome ran
  cases ran
  exact fun _ _ => id

end TurnReported

theorem writePagesTurn_reported (fuel : Nat) (buffer : List UInt8) (address cnt size : Nat) (bus : Bus) :
    TurnReported size bus (writePagesTurn ftdi fuel buffer address cnt bus) := by
  unfold writePagesTurn
  refine .checkStep ((spiFlashErasePreamble_signals ftdi _).checked) fun _ => ?_
  refine .checkStep ((spiFlashCommandShort_signals ftdi _ _).checked) fun _ => ?_
  refine .checkStep ((spiFlashCommandShort_signals ftdi _ _).checked) fun _ => ?_
  refine .checkStep (((i2cByteTransfer_checks ftdi _ _ _ _ _).lor (i2cByteTransfer_checks ftdi _ _ _ _ _)).lor
    (i2cByteTransfer_checks ftdi _ _ _ _ _)) fun _ => ?_
  refine .checkPoll (fun _ => spiPollBusy_checked ftdi) fun polled _ _ => ?_
  obtain ⟨skipped,record,kind⟩ := i2cWriteByte_records ftdi (rfl : i2cWriteByte ftdi 0x10 0x20 polled.2 = _)
  refine .unchecked record kind ?_
  refine .checkStep (i2cByteTransfer_checks ftdi _ _ _ _ _) fun _ => ?_
  refine .checkStep ((i2cByteTransfer_checks ftdi _ _ _ _ _).lor ((i2cWriteByte_signals ftdi _ _ _).checked)) fun _ => ?_
  refine .checkStep ((spiFlashCommandShort_signals ftdi _ _).checked) fun _ => ?_
  exact .checkPoll (fun _ => spiPollBusy_checked ftdi) fun _ _ _ => .done

theorem writePagesLoop_reported {fuel size turns : Nat} {buffer : List UInt8} {address remaining : Nat}
    {bus : Bus} {r : Int × Bus} (ran : writePagesLoop ftdi fuel size turns buffer address remaining bus = some r) :
    PagesReported Transfer.IsBlockStart size bus r.2 r.1 := by
  induction turns generalizing buffer address remaining bus with
  | zero =>
    cases ran
    exact .done bus
  | succ turns ih =>
    rw [writePagesLoop] at ran
    by_cases done : remaining = 0
    · rw [if_pos done] at ran
      cases ran
      exact .done bus
    rw [if_neg done] at ran
    lift_lets at ran
    extract_lets cnt at ran
    obtain ⟨outcome,turned,rest⟩ := Option.bind_eq_some.mp ran
    have reported := writePagesTurn_reported ftdi fuel buffer address cnt size bus outcome turned
    cases outcome with
    | inl exit =>
      cases rest
      exact reported
    | inr next => exact reported _ _ (ih rest)

theorem commandWritePages_reported {fuel address size : Nat} {buffer : List UInt8} {bus : Bus} {r : Int × Bus}
    (ran : commandWritePages ftdi fuel address size buffer bus = some r) :
    ∃ looped : Bus, PagesReported Transfer.IsBlockStart size bus looped r.1 ∧
      ∃ disable, r.2.transfers = looped.transfers ++ disable := by
  unfold commandWritePages at ran
  obtain ⟨⟨ret,looped⟩,loopRan,rfl⟩ := Option.map_eq_some'.mp ran
  obtain ⟨disable,log,-⟩ := spiFlashCommandShort_signals ftdi spiCmdWriteDisable looped
  exact ⟨looped,writePagesLoop_reported ftdi loopRan,disable,log⟩

end Specs

/-- A bridge that answers every FTDI call with success and all-zero ACK bytes, but the `n`-th,
whose read delivers a NACK. -/
def nackAt (n call : Nat) : Int × List UInt8 := if call = n then (0,[0x80]) else (0,List.replicate 32 0)

set_option maxRecDepth 2000 in
/-- A one-byte `command_read_pages` whose page-read command is NACKed, and a one-byte
`command_write_pages` whose `i2c_write_byte(ftdi, 0x10, 0x20)` or final write-disable is
NACKed, return the size although a transfer they made failed. -/
theorem page_transfers_lose_errors :
    ((commandReadPages (nackAt 113) 0 1 Bus.initial).1 = 1 ∧
      ∃ t ∈ (commandReadPages (nackAt 113) 0 1 Bus.initial).2.2.transfers, t.IsPageRead ∧ t.result < 0) ∧
    (∃ r ∈ commandWritePages (nackAt 263) 5 0 1 [0xAB] Bus.initial,
      r.1 = 1 ∧ ∃ t ∈ r.2.transfers, t.IsBlockStart ∧ t.result < 0) ∧
    (∃ r ∈ commandWritePages (nackAt 378) 5 0 1 [0xAB] Bus.initial,
      r.1 = 1 ∧ ∃ t ∈ r.2.transfers, t.result < 0) := by
  decide

end ChromeEc.Iteflash
