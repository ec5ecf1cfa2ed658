import ChromeEc.Uart.Transmit

/-! The receive path delivers exactly the input other than XON and XOFF, in order. What it is
for is stated as a console: the bytes waiting for `uart_getc`, and whether output is held.
Both builds refine it over every run, with the byte-at-a-time build losing exactly the bytes
that find `RX_BUF_SIZE - 1` waiting, and the DMA build losing none while its write pointer
does not overtake `rx_buf_tail`. -/
namespace ChromeEc.Uart

variable {bits txBits rxBits : Nat}

/-- XOFF or XON: the bytes `uart_process_input` acts on and `uart_getc` skips. -/
def isFlowControl (c : UInt8) : Bool := c == ctrl 'S' || c == ctrl 'Q'

theorem isFlowControl_eq_false_iff (c : UInt8) :
    isFlowControl c = false ↔ c ≠ ctrl 'Q' ∧ c ≠ ctrl 'S' := by
  simp [isFlowControl, and_comm]

theorem flowControl_cases (c : UInt8) :
    (flowControl c = some true ∧ c = ctrl 'S') ∨
    (flowControl c = some false ∧ c = ctrl 'Q' ∧ c ≠ ctrl 'S') ∨
    (flowControl c = none ∧ isFlowControl c = false) := by
  unfold flowControl
  rw [isFlowControl_eq_false_iff]
  split_ifs <;> simp_all

/-! ### What the receive path is for -/

/-- The bytes waiting for `uart_getc`, and whether output is held by XOFF. -/
structure Console where
  pending : List UInt8
  suspended : Bool

/-- A byte arrives: XOFF holds output and XON releases it; any other byte waits, unless
`capacity` says there is no room for it. -/
def Console.receive (capacity : Option Nat) (s : Console) (c : UInt8) : Console :=
  if c = ctrl 'S' then {s with suspended := true}
  else if c = ctrl 'Q' then {s with suspended := false}
  else if capacity.all (s.pending.length < ·) then {s with pending := s.pending ++ [c]}
  else s

/-- The oldest waiting byte, or -1 when none waits. -/
def Console.getc (s : Console) : Console × Int :=
  match s.pending with
  | [] => (s,-1)
  | c :: rest => ({s with pending := rest},c.toNat)

/-- A call as the console sees it, with the values `uart_getc` returns. -/
def Console.act (capacity : Option Nat) (s : Console) : Action → Console × List Int
  | .processInput received => (received.foldl (receive capacity) s,[])
  | .getc => (s.getc.1,[s.getc.2])
  | _ => (s,[])

def Console.run (capacity : Option Nat) (s : Console) : List Action → Console × List Int
  | [] => (s,[])
  | a :: actions =>
    ((run capacity (s.act capacity a).1 actions).1,
      (s.act capacity a).2 ++ (run capacity (s.act capacity a).1 actions).2)

/-- Room for `RX_BUF_SIZE - 1` waiting bytes in the byte-at-a-time build, and no bound in the
DMA build. -/
def rxCapacity (b : Build) (rxBits : Nat) : Option Nat := if b.rxDma then none else some (2 ^ rxBits - 1)

/-- The values `uart_getc` returned, in order. -/
def getcResults (events : List Event) : List Int :=
  events.filterMap fun
    | .getc c => some c
    | _ => none

@[simp] theorem getcResults_append (first second : List Event) :
    getcResults (first ++ second) = getcResults first ++ getcResults second :=
  List.filterMap_append _ _ _

@[simp] theorem getcResults_writes (bytes : List UInt8) :
    getcResults (bytes.map .uartWriteChar) = [] := by
  induction bytes with
  | nil => rfl
  | cons c bytes ih => exact ih

theorem getcResults_eq_nil (events : List Event) (none : ∀ e ∈ events, ∀ c, e ≠ .getc c) :
    getcResults events = [] := by
  rw [getcResults, List.filterMap_eq_nil_iff]
  intro e member
  cases e with
  | getc c => exact absurd rfl (none _ member c)
  | _ => rfl

/-! ### The console's flag is the last flow-control byte -/

/-- The bytes received over a run, in order. -/
def receivedBytes : List Action → List UInt8
  | [] => []
  | .processInput received :: actions => received ++ receivedBytes actions
  | _ :: actions => receivedBytes actions

/-- The last XOFF or XON among `received`. -/
def lastFlowControl (received : List UInt8) : Option UInt8 := (received.filter isFlowControl).getLast?

theorem lastFlowControl_cons (c : UInt8) (received : List UInt8) :
    lastFlowControl (c :: received) =
      (lastFlowControl received).or (if isFlowControl c then some c else none) := by
  unfold lastFlowControl
  rw [List.filter_cons]
  split_ifs
  · rw [List.getLast?_cons]
    cases (received.filter isFlowControl).getLast? <;> rfl
  · simp

@[simp] theorem Console.receive_suspended (capacity : Option Nat) (s : Console) (c : UInt8) :
    (s.receive capacity c).suspended =
      if c = ctrl 'S' then true else if c = ctrl 'Q' then false else s.suspended := by
  unfold Console.receive
  split_ifs <;> rfl

theorem receive_suspended (capacity : Option Nat) (received : List UInt8) (s : Console) :
    (received.foldl (Console.receive capacity) s).suspended =
      ((lastFlowControl received).map (· == ctrl 'S')).getD s.suspended := by
  induction received generalizing s with
  | nil => rfl
  | cons c received ih =>
    rw [List.foldl_cons, ih, lastFlowControl_cons]
    cases lastFlowControl received
    · rcases flowControl_cases c with ⟨-,rfl⟩ | ⟨-,rfl,other⟩ | ⟨-,plain⟩
      · simp [isFlowControl]
      · simp [isFlowControl, other]
      · rw [isFlowControl_eq_false_iff] at plain
        simp [isFlowControl, plain.1, plain.2]
    · rfl

theorem console_suspended (capacity : Option Nat) (actions : List Action) (s : Console) :
    (Console.run capacity s actions).1.suspended =
      ((lastFlowControl (receivedBytes actions)).map (· == ctrl 'S')).getD s.suspended := by
  induction actions generalizing s with
  | nil => rfl
  | cons a actions ih =>
    rw [Console.run, ih]
    cases a with
    | processInput received =>
      rw [Console.act, receive_suspended, receivedBytes]
      unfold lastFlowControl
      rw [List.filter_append, List.getLast?_append]
      cases (List.filter isFlowControl (receivedBytes actions)).getLast? <;> rfl
    | getc => simp only [Console.act, Console.getc]; split <;> rfl
    | _ => rfl

/-! ### `uart_getc` -/

theorem dropWhile_head?_eq (cs : List UInt8) :
    (cs.dropWhile isFlowControl).head? = (cs.filter fun c => !isFlowControl c).head? := by
  induction cs with
  | nil => rfl
  | cons c cs ih => cases flow : isFlowControl c <;> simp [List.dropWhile_cons, List.filter_cons, flow, ih]

theorem dropWhile_tail_filter (cs : List UInt8) :
    (cs.dropWhile isFlowControl).tail.filter (fun c => !isFlowControl c) =
      (cs.filter fun c => !isFlowControl c).tail := by
  induction cs with
  | nil => rfl
  | cons c cs ih => cases flow : isFlowControl c <;> simp [List.dropWhile_cons, List.filter_cons, flow, ih]

theorem getcLoop_spec (fuel : Nat) (r : Ring bits) (enough : r.count < fuel) :
    (getcLoop fuel r).1.contents = (r.contents.dropWhile isFlowControl).tail ∧
    (getcLoop fuel r).2 = ((r.contents.dropWhile isFlowControl).head?.map fun c => (c.toNat : Int)).getD (-1) := by
  induction fuel generalizing r with
  | zero => omega
  | succ fuel ih =>
    unfold getcLoop
    by_cases empty : r.tail = r.head
    · have nothing : r.contents = [] := r.contents_eq_nil_iff.mpr empty.symm
      simp [empty, nothing]
    · have front := r.contents_eq_cons (Ne.symm empty)
      rw [if_pos empty]
      by_cases flow : isFlowControl (r.buf r.tail)
      · have skipped : ¬(r.buf r.tail ≠ ctrl 'Q' ∧ r.buf r.tail ≠ ctrl 'S') := by
          rw [← isFlowControl_eq_false_iff, flow]
          simp
        rw [if_neg skipped, front, List.dropWhile_cons, if_pos flow]
        exact ih r.advance (by have := r.advance_count_lt (Ne.symm empty); omega)
      · rw [Bool.not_eq_true] at flow
        have taken := (isFlowControl_eq_false_iff _).mp flow
        rw [if_pos taken, front, List.dropWhile_cons, flow]
        simp

/-! ### The ring refines the console -/

/-- The ring's bytes other than XOFF and XON are the waiting ones, and in the byte-at-a-time
build it holds no others; `uart_suspended` is the console's flag. -/
structure RxRefines (b : Build) (u : Buffers txBits rxBits) (s : Console) : Prop where
  pending : u.rx.contents.filter (fun c => !isFlowControl c) = s.pending
  bytewise : b.rxDma = false → u.rx.contents = s.pending
  suspended : u.uartSuspended = s.suspended

theorem RxRefines.of_frame {b : Build} {u u' : Buffers txBits rxBits} {s : Console}
    (refines : RxRefines b u s) (rx : u'.rx = u.rx) (suspended : u'.uartSuspended = u.uartSuspended) :
    RxRefines b u' s :=
  ⟨by rw [rx]; exact refines.pending,by rw [rx]; exact refines.bytewise,
    by rw [suspended]; exact refines.suspended⟩

theorem uartGetc_refines {b : Build} {u : Buffers txBits rxBits} {s : Console} (refines : RxRefines b u s) :
    RxRefines b (uartGetc u).1 s.getc.1 ∧ (uartGetc u).2 = s.getc.2 := by
  obtain ⟨left,result⟩ := getcLoop_spec (2 ^ rxBits) u.rx u.rx.count_lt
  have front := dropWhile_head?_eq u.rx.contents
  have rest := dropWhile_tail_filter u.rx.contents
  rw [refines.pending] at front rest
  simp only [uartGetc, Console.getc]
  split
  · next empty =>
    rw [empty, List.head?_nil, List.head?_eq_none_iff] at front
    refine ⟨⟨by simp [left, front, empty],fun bytewise => by simp [left, front, empty],refines.suspended⟩,
      by simp [result, front]⟩
  · next c waiting pending =>
    rw [pending, List.head?_cons] at front
    rw [pending, List.tail_cons] at rest
    refine ⟨⟨by rw [left, rest],fun bytewise => ?_,refines.suspended⟩,by simp [result, front]⟩
    rw [left, refines.bytewise bytewise, pending, List.dropWhile_cons]
    have plain : isFlowControl c = false := by
      have member : c ∈ u.rx.contents.filter (fun c => !isFlowControl c) := by simp [refines.pending, pending]
      simpa using (List.mem_filter.mp member).2
    simp [plain]

private theorem rxChar_refines {b : Build} (bytewise : b.rxDma = false) (s : InputLoop txBits rxBits)
    (spec : Console) (refines : RxRefines b s.buffers spec) (c : UInt8) :
    RxRefines b (rxChar s c).buffers (spec.receive (rxCapacity b rxBits) c) := by
  have held := refines.bytewise bytewise
  rcases flowControl_cases c with ⟨flow,rfl⟩ | ⟨flow,rfl,other⟩ | ⟨flow,plain⟩
  · simp only [rxChar, flow, setSuspended, Console.receive, if_true]
    exact ⟨refines.pending,refines.bytewise,rfl⟩
  · simp only [rxChar, flow, setSuspended, Console.receive, if_neg other, if_true]
    exact ⟨refines.pending,refines.bytewise,rfl⟩
  · have notXoff := ((isFlowControl_eq_false_iff c).mp plain).2
    have notXon := ((isFlowControl_eq_false_iff c).mp plain).1
    have counted : s.buffers.rx.count = spec.pending.length := by rw [← held, Ring.length_contents]
    have room : bufNext rxBits s.buffers.rx.head ≠ s.buffers.rx.tail ↔ spec.pending.length < 2 ^ rxBits - 1 := by
      rw [Ne, Ring.bufNext_head_eq_tail_iff, counted]
      have := s.buffers.rx.count_lt
      omega
    simp only [rxChar, flow, Console.receive, if_neg notXoff, if_neg notXon, rxCapacity, bytewise,
      Bool.false_eq_true, if_false, Option.all_some, decide_eq_true_eq]
    by_cases fits : bufNext rxBits s.buffers.rx.head ≠ s.buffers.rx.tail
    · have roomy : s.buffers.rx.count < 2 ^ rxBits - 1 := by have := room.mp fits; omega
      rw [if_pos fits, if_pos (room.mp fits)]
      refine ⟨?_,fun _ => ?_,refines.suspended⟩
      · simp [s.buffers.rx.store_contents roomy, List.filter_append, refines.pending, plain]
      · simp [s.buffers.rx.store_contents roomy, held]
    · rw [if_neg fits, if_neg (mt room.mpr fits)]
      exact refines

private theorem foldl_rxChar_refines {b : Build} (bytewise : b.rxDma = false) (received : List UInt8)
    (s : InputLoop txBits rxBits) (spec : Console) (refines : RxRefines b s.buffers spec) :
    RxRefines b (received.foldl rxChar s).buffers (received.foldl (Console.receive (rxCapacity b rxBits)) spec) := by
  induction received generalizing s spec with
  | nil => exact refines
  | cons c received ih => exact ih _ _ (rxChar_refines bytewise s spec refines c)

theorem rxScan_eq_foldl (fuel : Nat) (scan : Ring rxBits) (s : Buffers txBits rxBits × List Event)
    (enough : scan.count < fuel) :
    rxScan fuel scan s = scan.contents.foldl (fun s c => flowStep c s) s := by
  induction fuel generalizing scan s with
  | zero => omega
  | succ fuel ih =>
    unfold rxScan
    split_ifs with busy
    · rw [ih _ _ (by have := scan.advance_count_lt (Ne.symm busy); omega),
        scan.contents_eq_cons (Ne.symm busy), List.foldl_cons]
    · rw [scan.contents_eq_nil_iff.mpr (not_not.mp busy).symm]
      rfl

theorem flowStep_refines (received : List UInt8) (s : Buffers txBits rxBits × List Event) (spec : Console)
    (suspended : s.1.uartSuspended = spec.suspended) :
    (received.foldl (fun s c => flowStep c s) s).1 =
      {s.1 with uartSuspended := (received.foldl (Console.receive none) spec).suspended} := by
  induction received generalizing s spec with
  | nil =>
    rw [List.foldl_nil, List.foldl_nil, ← suspended]
  | cons c received ih =>
    rw [List.foldl_cons, List.foldl_cons, ih _ (spec.receive none c)]
    · rcases flowControl_cases c with ⟨flow,rfl⟩ | ⟨flow,rfl,-⟩ | ⟨flow,-⟩ <;> simp [flowStep, flow, setSuspended]
    · rcases flowControl_cases c with ⟨flow,rfl⟩ | ⟨flow,rfl,other⟩ | ⟨flow,plain⟩
      · simp [flowStep, flow, setSuspended, Console.receive]
      · simp [flowStep, flow, setSuspended, Console.receive, other]
      · rw [isFlowControl_eq_false_iff] at plain
        simp [flowStep, flow, Console.receive, plain.1, plain.2, suspended]

theorem receive_none_pending (received : List UInt8) (spec : Console) :
    (received.foldl (Console.receive none) spec).pending =
      spec.pending ++ received.filter fun c => !isFlowControl c := by
  induction received generalizing spec with
  | nil => simp
  | cons c received ih =>
    rw [List.foldl_cons, ih, List.filter_cons]
    rcases flowControl_cases c with ⟨-,rfl⟩ | ⟨-,rfl,other⟩ | ⟨-,plain⟩
    · simp [Console.receive, isFlowControl]
    · simp [Console.receive, isFlowControl, other]
    · rw [isFlowControl_eq_false_iff] at plain
      simp [Console.receive, isFlowControl, plain.1, plain.2]

theorem uartProcessInputDma_refines {b : Build} (dma : b.rxDma = true) {u : Buffers txBits rxBits}
    {spec : Console} (refines : RxRefines b u spec) (rechecks : Nat) (received : List UInt8)
    (roomy : u.rx.count + received.length < 2 ^ rxBits) :
    RxRefines b (uartProcessInputDma rechecks received u).1 (received.foldl (Console.receive none) spec) := by
  have written := (u.rx.storeAll_contents roomy).1
  have scanned := rxScan_eq_foldl (2 ^ rxBits)
    {u.rx.storeAll received with tail := u.rx.head,tail_lt := u.rx.head_lt} ({u with rx := u.rx.storeAll received},[])
    (by rw [← Ring.length_contents, u.rx.storeAll_from_head (by omega)]; omega)
  rw [u.rx.storeAll_from_head (by omega)] at scanned
  have flowed := flowStep_refines received ({u with rx := u.rx.storeAll received},[]) spec refines.suspended
  have state : (uartProcessInputDma rechecks received u).1.rx = u.rx.storeAll received ∧
      (uartProcessInputDma rechecks received u).1.uartSuspended =
        (received.foldl (Console.receive none) spec).suspended := by
    dsimp only [uartProcessInputDma]
    rw [scanned]
    split_ifs <;> simp [flowed]
  refine ⟨?_,fun bytewise => by simp_all,state.2⟩
  rw [state.1, written, List.filter_append, refines.pending, receive_none_pending]

/-! ### Every run -/

/-- The receive DMA's write pointer does not overtake `rx_buf_tail`: the bytes it wrote since
the last call fit in the free part of the ring. -/
def NoOvertake (b : Build) (u : Buffers txBits rxBits) : Action → Prop
  | .processInput received => b.rxDma = true → u.rx.count + received.length < 2 ^ rxBits
  | _ => True

private theorem producer_leavesRx (stores : List Event) (u : Buffers txBits rxBits)
    (onlyStores : ∀ e ∈ stores, ∃ c, e = .txBufStore c) : getcResults (stores ++ txKick u) = [] := by
  apply getcResults_eq_nil
  intro e member c
  rcases List.mem_append.mp member with stored | kicked
  · obtain ⟨c',rfl⟩ := onlyStores e stored
    simp
  · unfold txKick at kicked
    split_ifs at kicked <;> simp_all

private theorem uartProcessOutput_leavesRx (b : Build) (u : Buffers txBits rxBits) (ready : List Bool) :
    (perform b u (.processOutput ready)).1.rx = u.rx ∧
    (perform b u (.processOutput ready)).1.uartSuspended = u.uartSuspended ∧
    getcResults (perform b u (.processOutput ready)).2 = [] := by
  rw [perform_processOutput]
  split_ifs
  · dsimp only [uartProcessOutputDma]
    generalize (if u.txDmaInProgress ≠ 0 then u.tx.advanceBy u.txDmaInProgress else u.tx) = tx
    generalize (if u.tx.head > tx.tail then u.tx.head else 2 ^ txBits) - tx.tail = len
    split_ifs <;> simp [getcResults]
  · dsimp only [uartProcessOutput]
    obtain ⟨k,written,-⟩ := txCopy_takes ready u.tx
    split_ifs
    · exact ⟨rfl,rfl,rfl⟩
    all_goals exact ⟨rfl,rfl,by rw [getcResults_append, written, getcResults_writes]; rfl⟩

private theorem getcResults_signals {events : List Event} (signals : ∀ e ∈ events, e.isSignal = true) :
    getcResults events = [] :=
  getcResults_eq_nil events fun e member c taken => by
    subst taken
    exact Bool.false_ne_true (signals _ member)

theorem rxRefines_perform (b : Build) {u : Buffers txBits rxBits} {spec : Console}
    (refines : RxRefines b u spec) (a : Action) (noOvertake : NoOvertake b u a) :
    RxRefines b (perform b u a).1 (spec.act (rxCapacity b rxBits) a).1 ∧
      getcResults (perform b u a).2 = (spec.act (rxCapacity b rxBits) a).2 := by
  cases a with
  | putc c => exact ⟨refines.of_frame rfl rfl,producer_leavesRx _ u (appends_txChar u.tx c).onlyStores⟩
  | puts outstr =>
    exact ⟨refines.of_frame rfl rfl,producer_leavesRx _ u (appends_putsLoop u.tx outstr).onlyStores⟩
  | vprintf emitted =>
    exact ⟨refines.of_frame rfl rfl,producer_leavesRx _ u (appends_txAll u.tx emitted).onlyStores⟩
  | processOutput ready =>
    obtain ⟨rx,suspended,results⟩ := uartProcessOutput_leavesRx b u ready
    exact ⟨refines.of_frame rx suspended,results⟩
  | processInput received =>
    rw [perform_processInput]
    by_cases dma : b.rxDma = true
    · rw [if_pos dma]
      exact ⟨by simpa [Console.act, rxCapacity, dma] using
        uartProcessInputDma_refines dma refines b.rxDmaRechecks received (noOvertake dma),
        getcResults_signals (uartProcessInputDma_leavesTx b.rxDmaRechecks received u).signals⟩
    · rw [if_neg dma]
      exact ⟨foldl_rxChar_refines (by simpa using dma) received ⟨u,false,[]⟩ spec refines,
        getcResults_signals (uartProcessInput_leavesTx received u).signals⟩
  | getc =>
    obtain ⟨refined,result⟩ := uartGetc_refines refines
    exact ⟨refined,by simp [getcResults, Console.act, result]⟩

theorem rxRefines_run (b : Build) {u : Buffers txBits rxBits} {spec : Console}
    (refines : RxRefines b u spec) (actions : List Action) (noOvertake : Always (NoOvertake b) b u actions) :
    RxRefines b (run b u actions) (Console.run (rxCapacity b rxBits) spec actions).1 ∧
      getcResults (trace b u actions) = (Console.run (rxCapacity b rxBits) spec actions).2 := by
  induction actions generalizing u spec with
  | nil => exact ⟨refines,rfl⟩
  | cons a actions ih =>
    obtain ⟨refined,results⟩ := rxRefines_perform b refines a noOvertake.1
    obtain ⟨refined',results'⟩ := ih refined noOvertake.2
    exact ⟨refined',by rw [trace_cons, getcResults_append, results, results', Console.run]⟩

/-- The receive path delivers exactly the input other than XON and XOFF, in order, in either
build. Over every run from the empty ring, the values `uart_getc` returned are those of the
console fed the same bytes and calls: in the byte-at-a-time build, one with room for
`RX_BUF_SIZE - 1` bytes, which loses exactly the bytes that arrive while the ring holds that
many; in the DMA build, one that loses none, provided the DMA never overtakes
`rx_buf_tail`. The ring holds the console's waiting bytes, `uart_getc` returns -1 only when
none waits, and `uart_suspended` is set exactly when the last flow-control byte received
was XOFF. -/
theorem rx_delivers_non_flow_bytes_in_order (b : Build) (actions : List Action)
    (noOvertake : Always (NoOvertake b) b (Buffers.initial : Buffers txBits rxBits) actions) :
    getcResults (trace b (Buffers.initial : Buffers txBits rxBits) actions) =
        (Console.run (rxCapacity b rxBits) ⟨[],false⟩ actions).2 ∧
      RxRefines b (run b (Buffers.initial : Buffers txBits rxBits) actions)
        (Console.run (rxCapacity b rxBits) ⟨[],false⟩ actions).1 ∧
      (∀ u : Buffers txBits rxBits, (uartGetc u).2 = -1 ↔ u.rx.contents.filter (fun c => !isFlowControl c) = []) ∧
      ((run b (Buffers.initial : Buffers txBits rxBits) actions).uartSuspended = true ↔
        lastFlowControl (receivedBytes actions) = some (ctrl 'S')) := by
  have start : RxRefines b (Buffers.initial : Buffers txBits rxBits) ⟨[],false⟩ :=
    ⟨by simp [Buffers.initial],fun _ => by simp [Buffers.initial],rfl⟩
  obtain ⟨refined,results⟩ := rxRefines_run b start actions noOvertake
  refine ⟨results,refined,fun u => ?_,?_⟩
  · obtain ⟨-,result⟩ := getcLoop_spec (2 ^ rxBits) u.rx u.rx.count_lt
    rw [uartGetc, result, dropWhile_head?_eq]
    cases u.rx.contents.filter (fun c => !isFlowControl c) with
    | nil => simp
    | cons c rest => simp
  · rw [refined.suspended, console_suspended]
    cases lastFlowControl (receivedBytes actions) <;> simp

/-- A run of the DMA build with four-byte rings: the receive DMA writes `h`, XOFF and `i`, and
`uart_getc` then returns `h`. -/
theorem rx_delivers_dma_run :
    Always (NoOvertake ⟨false,true,2⟩) ⟨false,true,2⟩ (Buffers.initial : Buffers 2 2)
        [.processInput [104,19,105],.getc] ∧
      (getcResults (trace ⟨false,true,2⟩ (Buffers.initial : Buffers 2 2) [.processInput [104,19,105],.getc]) =
          (Console.run (rxCapacity ⟨false,true,2⟩ 2) ⟨[],false⟩ [.processInput [104,19,105],.getc]).2 ∧
        RxRefines ⟨false,true,2⟩ (run ⟨false,true,2⟩ (Buffers.initial : Buffers 2 2) [.processInput [104,19,105],.getc])
          (Console.run (rxCapacity ⟨false,true,2⟩ 2) ⟨[],false⟩ [.processInput [104,19,105],.getc]).1 ∧
        (∀ u : Buffers 2 2, (uartGetc u).2 = -1 ↔ u.rx.contents.filter (fun c => !isFlowControl c) = []) ∧
        ((run ⟨false,true,2⟩ (Buffers.initial : Buffers 2 2) [.processInput [104,19,105],.getc]).uartSuspended = true ↔
          lastFlowControl (receivedBytes [.processInput [104,19,105],.getc]) = some (ctrl 'S'))) :=
  have noOvertake : Always (NoOvertake ⟨false,true,2⟩) ⟨false,true,2⟩ (Buffers.initial : Buffers 2 2)
      [.processInput [104,19,105],.getc] := by
    simp [Always, NoOvertake, Buffers.initial, Ring.count, Ring.empty]
  ⟨noOvertake,rx_delivers_non_flow_bytes_in_order _ _ noOvertake⟩

end ChromeEc.Uart
