import ChromeEc.Uart.Ring

/-! common/uart_buffering.c: the transmit and receive rings between the console and the UART
driver, in both builds of each direction. A call is modelled by the state it leaves and its
effects on the driver and the console, in program order; the answers of the driver's queries
(`uart_tx_ready`, `uart_tx_dma_ready`, the received bytes) are the call's inputs. `char` is
unsigned, as on the ARM targets this file is built for, so a buffered byte is a `UInt8`. -/
namespace ChromeEc.Uart

/-- `CTRL(c)`: `((c) - '@')`. -/
def ctrl (c : Char) : UInt8 := UInt8.ofNat (c.toNat - '@'.toNat)

/-- The byte `int c` becomes when it is stored into a `char` buffer. -/
def toByte (c : Int) : UInt8 := UInt8.ofNat (c % 256).toNat

/-- The XON/XOFF branches of `uart_process_input`, shared by both builds: `some true` for
CTRL('S'), which sets `uart_suspended`, and `some false` for CTRL('Q'), which clears it. -/
def flowControl (c : UInt8) : Option Bool :=
  if c = ctrl 'S' then some true else if c = ctrl 'Q' then some false else none

/-- What a call does to the driver and the console. `txBufStore` is the store
`tx_buf[tx_buf_head] = c` of `__tx_char`; `getc` is a value `uart_getc` returned. -/
inductive Event
  | txBufStore (c : UInt8)
  | uartTxStart
  | uartTxStop
  | uartWriteChar (c : UInt8)
  | uartTxDmaReady (ready : Bool)
  | uartTxDmaStart (offset len : Nat) (block : List UInt8)
  | consoleHasInput
  | hookCallDeferred
  | getc (c : Int)
  deriving DecidableEq, Repr

/-- The effects that carry no data: starting and stopping the transmitter, and waking the
console. -/
def Event.isSignal : Event → Bool
  | .uartTxStart | .uartTxStop | .consoleHasInput | .hookCallDeferred => true
  | _ => false

/-- `EC_SUCCESS` and `EC_ERROR_OVERFLOW`, the results of `uart_putc` and `uart_puts`. -/
inductive EcError
  | success | errorOverflow
  deriving DecidableEq, Repr

/-- The build: `CONFIG_UART_TX_DMA`, `CONFIG_UART_RX_DMA` and `CONFIG_UART_RX_DMA_RECHECKS`. -/
structure Build where
  txDma : Bool
  rxDma : Bool
  rxDmaRechecks : Nat

/-- The statics of uart_buffering.c for buffers of `2 ^ txBits` and `2 ^ rxBits` bytes, with
`tx_dma_in_progress` of `uart_process_output` and `fast_rechecks` of `uart_process_input`. -/
structure Buffers (txBits rxBits : Nat) where
  tx : Ring txBits
  rx : Ring rxBits
  uartSuspended : Bool
  txDmaInProgress : Nat
  fastRechecks : Nat

variable {bits txBits rxBits : Nat}

def Buffers.initial : Buffers txBits rxBits := ⟨Ring.empty,Ring.empty,false,0,0⟩

/-! ### Producers -/

/-- What storing through `__tx_char` leaves: the ring, whether the call returned 1 (a byte
was dropped), and the stores it made. -/
structure TxResult (bits : Nat) where
  ring : Ring bits
  dropped : Bool
  stores : List Event

/-- The tail of `__tx_char`: refuse when `TX_BUF_NEXT(tx_buf_head) == tx_buf_tail`, else store. -/
def txPut (r : Ring bits) (c : UInt8) : TxResult bits :=
  if bufNext bits r.head = r.tail then ⟨r,true,[]⟩ else ⟨r.store c,false,[.txBufStore c]⟩

/-- `__tx_char`: a newline is preceded by the carriage return of the recursive call, and is
refused when that is. -/
def txChar (r : Ring bits) (c : Int) : TxResult bits :=
  if c = 10 then
    let cr := txPut r 13
    if cr.dropped then cr
    else
      let put := txPut cr.ring (toByte c)
      {put with stores := cr.stores ++ put.stores}
  else txPut r (toByte c)

/-- `if (!uart_suspended) uart_tx_start();`, the end of every producer. -/
def txKick (u : Buffers txBits rxBits) : List Event := if u.uartSuspended then [] else [.uartTxStart]

def uartPutc (u : Buffers txBits rxBits) (c : Int) : Buffers txBits rxBits × EcError × List Event :=
  let put := txChar u.tx c
  ({u with tx := put.ring},if put.dropped then .errorOverflow else .success,put.stores ++ txKick u)

/-- The loop of `uart_puts` over the characters before the NUL, with what `outstr` points to
afterwards: one past a refused character. -/
def putsLoop (r : Ring bits) : List UInt8 → TxResult bits × List UInt8
  | [] => (⟨r,false,[]⟩,[])
  | c :: rest =>
    let put := txChar r c.toNat
    if put.dropped then (put,rest)
    else
      let more := putsLoop put.ring rest
      ({more.1 with stores := put.stores ++ more.1.stores},more.2)

def uartPuts (u : Buffers txBits rxBits) (outstr : List UInt8) :
    Buffers txBits rxBits × EcError × List Event :=
  let loop := putsLoop u.tx outstr
  ({u with tx := loop.1.ring},if loop.2 = [] then .success else .errorOverflow,
    loop.1.stores ++ txKick u)

/-- The stores of `uart_vprintf`. `vfnprintf` (common/printf.c, not in src/) passes
`__tx_char` the characters `emitted`, in order; which ones, and its return value, are its own. -/
def txAll (r : Ring bits) : List Int → Ring bits × List Event
  | [] => (r,[])
  | c :: rest =>
    let put := txChar r c
    let more := txAll put.ring rest
    (more.1,put.stores ++ more.2)

def uartVprintf (u : Buffers txBits rxBits) (emitted : List Int) :
    Buffers txBits rxBits × List Event :=
  let all := txAll u.tx emitted
  ({u with tx := all.1},all.2 ++ txKick u)

/-! ### Transmit consumer -/

/-- The copy loop of `uart_process_output`: `ready` holds the answers of `uart_tx_ready()`,
which is asked before the ring is tested; none left reads as not ready. -/
def txCopy : List Bool → Ring bits → Ring bits × List Event
  | true :: ready, r =>
    if r.head ≠ r.tail then
      let more := txCopy ready r.advance
      (more.1,.uartWriteChar (r.buf r.tail) :: more.2)
    else (r,[])
  | _, r => (r,[])

def uartProcessOutput (ready : List Bool) (u : Buffers txBits rxBits) :
    Buffers txBits rxBits × List Event :=
  if u.uartSuspended then (u,[])
  else
    let copy := txCopy ready u.tx
    ({u with tx := copy.1},copy.2 ++ if copy.1.tail = copy.1.head then [.uartTxStop] else [])

/-- `uart_process_output` of the CONFIG_UART_TX_DMA build; `dmaReady` answers
`uart_tx_dma_ready()`. A started block is the `len` bytes at `tx_buf + offset`. -/
def uartProcessOutputDma (dmaReady : Bool) (u : Buffers txBits rxBits) :
    Buffers txBits rxBits × List Event :=
  let head := u.tx.head
  if u.uartSuspended then (u,[])
  else if !dmaReady then (u,[.uartTxDmaReady false])
  else
    let tx := if u.txDmaInProgress ≠ 0 then u.tx.advanceBy u.txDmaInProgress else u.tx
    if head = tx.tail then ({u with tx,txDmaInProgress := 0},[.uartTxDmaReady true,.uartTxStop])
    else
      let len := (if head > tx.tail then head else 2 ^ txBits) - tx.tail
      ({u with tx,txDmaInProgress := len},
        [.uartTxDmaReady true,
          .uartTxDmaStart tx.tail len ((List.range len).map fun i => tx.buf (tx.tail + i))])

/-! ### Receive -/

/-- `uart_suspended = suspend` and the matching `uart_tx_stop()` or `uart_tx_start()`. -/
def setSuspended (suspend : Bool) (u : Buffers txBits rxBits) : Buffers txBits rxBits × Event :=
  ({u with uartSuspended := suspend},if suspend then .uartTxStop else .uartTxStart)

theorem setSuspended_isSignal (suspend : Bool) (u : Buffers txBits rxBits) :
    (setSuspended suspend u).2.isSignal = true := by
  unfold setSuspended
  split_ifs <;> rfl

/-- The locals of the copy loop of `uart_process_input`: the statics, `got_input`, and the
effects so far. -/
structure InputLoop (txBits rxBits : Nat) where
  buffers : Buffers txBits rxBits
  gotInput : Bool
  events : List Event

/-- One pass of the copy loop of `uart_process_input`, for the byte `uart_read_char()` returned. -/
def rxChar (s : InputLoop txBits rxBits) (c : UInt8) : InputLoop txBits rxBits :=
  match flowControl c with
  | some suspend =>
    let flow := setSuspended suspend s.buffers
    {s with buffers := flow.1,events := s.events ++ [flow.2]}
  | none =>
    if bufNext rxBits s.buffers.rx.head ≠ s.buffers.rx.tail then
      {s with buffers := {s.buffers with rx := s.buffers.rx.store c},gotInput := true}
    else s

/-- `uart_process_input`: `received` are the bytes `uart_read_char()` returns while
`uart_rx_available()` holds. -/
def uartProcessInput (received : List UInt8) (u : Buffers txBits rxBits) :
    Buffers txBits rxBits × List Event :=
  let loop := received.foldl rxChar ⟨u,false,[]⟩
  (loop.buffers,loop.events ++ if loop.gotInput then [.consoleHasInput] else [])

/-- The flow-control branches of the DMA build's loop for the byte `c`. -/
def flowStep (c : UInt8) (s : Buffers txBits rxBits × List Event) :
    Buffers txBits rxBits × List Event :=
  match flowControl c with
  | some suspend =>
    let flow := setSuspended suspend s.1
    (flow.1,s.2 ++ [flow.2])
  | none => s

/-- The flow-control loop of the CONFIG_UART_RX_DMA build,
`for (i = cur_head; i != rx_buf_head; i = RX_BUF_NEXT(i))`, at most `fuel` times round:
`i` and `rx_buf_head` bound the ring `scan`, whose tail is `i`. -/
def rxScan : Nat → Ring rxBits → Buffers txBits rxBits × List Event →
    Buffers txBits rxBits × List Event
  | 0, _, s => s
  | fuel + 1, scan, s =>
    if scan.tail ≠ scan.head then rxScan fuel scan.advance (flowStep (scan.buf scan.tail) s) else s

/-- `uart_process_input` of the CONFIG_UART_RX_DMA build. The receive DMA has written
`received` at `rx_buf_head` onwards since the last call, so that `uart_rx_dma_head()` is the
head of `rx.storeAll received`; the scan loop runs fewer than `RX_BUF_SIZE` times. -/
def uartProcessInputDma (rechecks : Nat) (received : List UInt8) (u : Buffers txBits rxBits) :
    Buffers txBits rxBits × List Event :=
  let curHead := u.rx.head
  let dma := u.rx.storeAll received
  let scan := rxScan (2 ^ rxBits) {dma with tail := curHead,tail_lt := u.rx.head_lt}
    ({u with rx := dma},[])
  let input := if dma.head ≠ curHead then ({scan.1 with fastRechecks := rechecks},[.consoleHasInput])
    else (scan.1,[])
  if input.1.fastRechecks ≠ 0 then
    ({input.1 with fastRechecks := input.1.fastRechecks - 1},scan.2 ++ input.2 ++ [.hookCallDeferred])
  else (input.1,scan.2 ++ input.2)

/-- The loop of `uart_getc`, at most `fuel` times round. -/
def getcLoop : Nat → Ring bits → Ring bits × Int
  | 0, r => (r,-1)
  | fuel + 1, r =>
    if r.tail ≠ r.head then
      if r.buf r.tail ≠ ctrl 'Q' ∧ r.buf r.tail ≠ ctrl 'S' then (r.advance,(r.buf r.tail).toNat)
      else getcLoop fuel r.advance
    else (r,-1)

/-- `uart_getc`: its loop runs fewer than `RX_BUF_SIZE` times, so `2 ^ rxBits` rounds are as
many as it ever needs. -/
def uartGetc (u : Buffers txBits rxBits) : Buffers txBits rxBits × Int :=
  let loop := getcLoop (2 ^ rxBits) u.rx
  ({u with rx := loop.1},loop.2)

def uartBufferEmpty (u : Buffers txBits rxBits) : Bool := u.tx.head = u.tx.tail

/-! ### Runs -/

/-- A call into uart_buffering.c with the driver's answers. -/
inductive Action
  | putc (c : Int)
  | puts (outstr : List UInt8)
  | vprintf (emitted : List Int)
  /-- `uart_process_output`, from the transmit interrupt: `ready` answers `uart_tx_ready()`,
  or, in the DMA build, its first entry answers `uart_tx_dma_ready()` (false if none). -/
  | processOutput (ready : List Bool)
  /-- `uart_process_input`: the bytes read, or the bytes the receive DMA wrote. -/
  | processInput (received : List UInt8)
  | getc
  deriving DecidableEq, Repr

def perform (b : Build) (u : Buffers txBits rxBits) : Action → Buffers txBits rxBits × List Event
  | .putc c => let call := uartPutc u c; (call.1,call.2.2)
  | .puts outstr => let call := uartPuts u outstr; (call.1,call.2.2)
  | .vprintf emitted => uartVprintf u emitted
  | .processOutput ready =>
    if b.txDma then uartProcessOutputDma (ready.headD false) u else uartProcessOutput ready u
  | .processInput received =>
    if b.rxDma then uartProcessInputDma b.rxDmaRechecks received u
    else uartProcessInput received u
  | .getc => let call := uartGetc u; (call.1,[.getc call.2])

@[simp] theorem perform_putc (b : Build) (u : Buffers txBits rxBits) (c : Int) :
    perform b u (.putc c) = ((uartPutc u c).1,(uartPutc u c).2.2) := rfl

@[simp] theorem perform_puts (b : Build) (u : Buffers txBits rxBits) (outstr : List UInt8) :
    perform b u (.puts outstr) = ((uartPuts u outstr).1,(uartPuts u outstr).2.2) := rfl

@[simp] theorem perform_vprintf (b : Build) (u : Buffers txBits rxBits) (emitted : List Int) :
    perform b u (.vprintf emitted) = uartVprintf u emitted := rfl

@[simp] theorem perform_processOutput (b : Build) (u : Buffers txBits rxBits) (ready : List Bool) :
    perform b u (.processOutput ready) =
      if b.txDma then uartProcessOutputDma (ready.headD false) u else uartProcessOutput ready u := rfl

@[simp] theorem perform_processInput (b : Build) (u : Buffers txBits rxBits) (received : List UInt8) :
    perform b u (.processInput received) =
      if b.rxDma then uartProcessInputDma b.rxDmaRechecks received u
      else uartProcessInput received u := rfl

@[simp] theorem perform_getc (b : Build) (u : Buffers txBits rxBits) :
    perform b u .getc = ((uartGetc u).1,[.getc (uartGetc u).2]) := rfl

def run (b : Build) (u : Buffers txBits rxBits) (actions : List Action) : Buffers txBits rxBits :=
  actions.foldl (fun u a => (perform b u a).1) u

def trace (b : Build) : Buffers txBits rxBits → List Action → List Event
  | _, [] => []
  | u, a :: actions => (perform b u a).2 ++ trace b (perform b u a).1 actions

@[simp] theorem run_nil (b : Build) (u : Buffers txBits rxBits) : run b u [] = u := rfl

@[simp] theorem run_cons (b : Build) (u : Buffers txBits rxBits) (a : Action) (actions : List Action) :
    run b u (a :: actions) = run b (perform b u a).1 actions := rfl

@[simp] theorem trace_nil (b : Build) (u : Buffers txBits rxBits) : trace b u [] = [] := rfl

@[simp] theorem trace_cons (b : Build) (u : Buffers txBits rxBits) (a : Action) (actions : List Action) :
    trace b u (a :: actions) = (perform b u a).2 ++ trace b (perform b u a).1 actions := rfl

/-- `P` holds of each action of a run and the state it is taken from. -/
def Always (P : Buffers txBits rxBits → Action → Prop) (b : Build) :
    Buffers txBits rxBits → List Action → Prop
  | _, [] => True
  | u, a :: actions => P u a ∧ Always P b (perform b u a).1 actions

end ChromeEc.Uart
