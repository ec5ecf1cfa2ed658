import ChromeEc.Uart.Buffering

/-! The transmit ring is a lossless bounded FIFO. The UART's side is an observer of the
calls' effects: it takes each `uart_write_char`, and a DMA block once `uart_process_output`
has seen `uart_tx_dma_ready()` after starting it. Over every run of either build, what it has
taken followed by the ring is exactly what `__tx_char` stored. -/
namespace ChromeEc.Uart

variable {bits txBits rxBits : Nat}

/-- The bytes `__tx_char` stored, in order. -/
def storedBytes (events : List Event) : List UInt8 :=
  events.filterMap fun
    | .txBufStore c => some c
    | _ => none

@[simp] theorem storedBytes_nil : storedBytes [] = [] := rfl

@[simp] theorem storedBytes_append (first second : List Event) :
    storedBytes (first ++ second) = storedBytes first ++ storedBytes second :=
  List.filterMap_append _ _ _

@[simp] theorem storedBytes_txBufStore (c : UInt8) (events : List Event) :
    storedBytes (.txBufStore c :: events) = c :: storedBytes events := rfl

/-- The effects the UART's side of the transmit path sees. -/
def Event.handsOver : Event → Bool
  | .uartWriteChar _ | .uartTxDmaStart _ _ _ => true
  | .uartTxDmaReady ready => ready
  | _ => false

/-- The effects of the transmit path: its stores and what the UART sees. -/
def Event.txSide : Event → Bool
  | .txBufStore _ | .uartWriteChar _ | .uartTxDmaStart _ _ _ => true
  | .uartTxDmaReady ready => ready
  | _ => false

/-- The UART's side: the bytes it has been handed, and the DMA block it is sending. -/
structure TxLine where
  sent : List UInt8
  dmaBlock : List UInt8

def TxLine.observe (l : TxLine) : Event → TxLine
  | .uartWriteChar c => {l with sent := l.sent ++ [c]}
  | .uartTxDmaStart _ _ block => {l with dmaBlock := block}
  | .uartTxDmaReady true => ⟨l.sent ++ l.dmaBlock,[]⟩
  | _ => l

def TxLine.observeAll (l : TxLine) (events : List Event) : TxLine := events.foldl TxLine.observe l

@[simp] theorem TxLine.observeAll_nil (l : TxLine) : l.observeAll [] = l := rfl

@[simp] theorem TxLine.observeAll_cons (l : TxLine) (e : Event) (events : List Event) :
    l.observeAll (e :: events) = (l.observe e).observeAll events := rfl

@[simp] theorem TxLine.observeAll_append (l : TxLine) (first second : List Event) :
    l.observeAll (first ++ second) = (l.observeAll first).observeAll second :=
  List.foldl_append _ _ _ _

theorem TxLine.observe_unseen (l : TxLine) {e : Event} (unseen : e.handsOver = false) :
    l.observe e = l := by
  cases e <;> simp_all [Event.handsOver, observe]

theorem TxLine.observeAll_unseen (l : TxLine) (events : List Event)
    (unseen : ∀ e ∈ events, e.handsOver = false) : l.observeAll events = l := by
  induction events generalizing l with
  | nil => rfl
  | cons e events ih =>
    rw [observeAll_cons, l.observe_unseen (unseen e (List.mem_cons_self _ _)),
      ih _ fun e' member => unseen e' (List.mem_cons_of_mem _ member)]

theorem TxLine.observeAll_writes (l : TxLine) (bytes : List UInt8) :
    l.observeAll (bytes.map .uartWriteChar) = {l with sent := l.sent ++ bytes} := by
  induction bytes generalizing l with
  | nil => simp
  | cons c bytes ih => simp [ih, observe]

@[simp] theorem storedBytes_writes (bytes : List UInt8) :
    storedBytes (bytes.map .uartWriteChar) = [] := by
  induction bytes with
  | nil => rfl
  | cons c bytes ih => exact ih

theorem storedBytes_singleton {e : Event} (outside : e.txSide = false) : storedBytes [e] = [] := by
  cases e <;> simp_all [Event.txSide, storedBytes]

theorem storedBytes_of_not_txSide (events : List Event) (outside : ∀ e ∈ events, e.txSide = false) :
    storedBytes events = [] := by
  induction events with
  | nil => rfl
  | cons e events ih =>
    rw [← List.singleton_append, storedBytes_append, storedBytes_singleton (outside e (List.mem_cons_self _ _)),
      ih fun e' member => outside e' (List.mem_cons_of_mem _ member), List.append_nil]

theorem handsOver_of_txSide {e : Event} (outside : e.txSide = false) : e.handsOver = false := by
  cases e <;> simp_all [Event.txSide, Event.handsOver]

/-! ### Producers append -/

/-- A producer's effect on the ring: `r'` is `r` with the bytes of `stores` appended, and
`stores` holds stores only. -/
structure Appends (r r' : Ring bits) (stores : List Event) : Prop where
  contents : r'.contents = r.contents ++ storedBytes stores
  onlyStores : ∀ e ∈ stores, ∃ c, e = .txBufStore c

theorem Appends.refl (r : Ring bits) : Appends r r [] := ⟨by simp,by simp⟩

theorem Appends.trans {r r' r'' : Ring bits} {first second : List Event}
    (before : Appends r r' first) (after : Appends r' r'' second) : Appends r r'' (first ++ second) :=
  ⟨by rw [after.contents, before.contents, storedBytes_append, List.append_assoc],
    by simpa [or_imp, forall_and] using ⟨before.onlyStores,after.onlyStores⟩⟩

theorem txPut_dropped (r : Ring bits) (c : UInt8) :
    ((txPut r c).dropped = true ↔ r.contents.length = 2 ^ bits - 1) ∧
    ((txPut r c).dropped = true → (txPut r c).ring = r ∧ (txPut r c).stores = []) := by
  rw [Ring.length_contents, ← Ring.bufNext_head_eq_tail_iff]
  unfold txPut
  split_ifs <;> simp_all

theorem txPut_stored (r : Ring bits) (c : UInt8) (kept : (txPut r c).dropped = false) :
    (txPut r c).ring.contents = r.contents ++ [c] ∧ (txPut r c).stores = [.txBufStore c] := by
  unfold txPut at kept ⊢
  split_ifs at kept ⊢ with full
  have := r.count_lt
  rw [Ring.bufNext_head_eq_tail_iff] at full
  exact ⟨r.store_contents (by omega), rfl⟩

theorem appends_txPut (r : Ring bits) (c : UInt8) : Appends r (txPut r c).ring (txPut r c).stores := by
  unfold txPut
  split_ifs with full
  · exact Appends.refl r
  · have roomy : r.count < 2 ^ bits - 1 := by
      have := r.count_lt
      rw [Ring.bufNext_head_eq_tail_iff] at full
      omega
    exact ⟨by simp [r.store_contents roomy],by simp⟩

theorem appends_txChar (r : Ring bits) (c : Int) : Appends r (txChar r c).ring (txChar r c).stores := by
  unfold txChar
  by_cases newline : c = 10
  · by_cases refused : (txPut r 13).dropped = true
    · simp only [newline, refused, if_true]
      exact appends_txPut r 13
    · simp only [newline, refused, if_true, if_false]
      exact (appends_txPut r 13).trans (appends_txPut _ _)
  · simp only [newline, if_false]
    exact appends_txPut r _

theorem appends_putsLoop (r : Ring bits) (outstr : List UInt8) :
    Appends r (putsLoop r outstr).1.ring (putsLoop r outstr).1.stores := by
  induction outstr generalizing r with
  | nil => exact Appends.refl r
  | cons c rest ih =>
    simp only [putsLoop]
    split_ifs
    · exact appends_txChar r _
    · exact (appends_txChar r _).trans (ih _)

theorem appends_txAll (r : Ring bits) (emitted : List Int) :
    Appends r (txAll r emitted).1 (txAll r emitted).2 := by
  induction emitted generalizing r with
  | nil => exact Appends.refl r
  | cons c rest ih => exact (appends_txChar r c).trans (ih _)

/-! ### The consumers take from the front -/

theorem txCopy_takes (ready : List Bool) (r : Ring bits) :
    ∃ k, (txCopy ready r).2 = (r.contents.take k).map .uartWriteChar ∧
      (txCopy ready r).1.contents = r.contents.drop k := by
  induction ready generalizing r with
  | nil => exact ⟨0,by simp [txCopy]⟩
  | cons answer ready ih =>
    cases answer
    · exact ⟨0,by simp [txCopy]⟩
    · by_cases empty : r.head = r.tail
      · exact ⟨0,by simp [txCopy, empty]⟩
      · obtain ⟨k,written,left⟩ := ih r.advance
        refine ⟨k + 1,?_⟩
        simp only [txCopy, if_pos empty, written, left, r.contents_eq_cons empty,
          List.take_succ_cons, List.drop_succ_cons, List.map_cons, and_self]

theorem dma_length_bounds (t : Ring bits) (busy : t.head ≠ t.tail) :
    0 < (if t.head > t.tail then t.head else 2 ^ bits) - t.tail ∧
    t.tail + ((if t.head > t.tail then t.head else 2 ^ bits) - t.tail) ≤ 2 ^ bits ∧
    (if t.head > t.tail then t.head else 2 ^ bits) - t.tail ≤ t.count := by
  have reaches := t.tail_add_count
  have := t.head_lt
  have := t.tail_lt
  split_ifs at reaches ⊢ <;> omega

theorem freed_head (u : Buffers txBits rxBits) :
    (if u.txDmaInProgress ≠ 0 then u.tx.advanceBy u.txDmaInProgress else u.tx).head = u.tx.head := by
  split_ifs <;> rfl

theorem dma_block_in_ring (u : Buffers txBits rxBits) (dmaReady : Bool) (offset len : Nat)
    (block : List UInt8) (started : .uartTxDmaStart offset len block ∈ (uartProcessOutputDma dmaReady u).2) :
    offset = (uartProcessOutputDma dmaReady u).1.tx.tail ∧ 0 < len ∧ offset + len ≤ 2 ^ txBits ∧
      len ≤ (uartProcessOutputDma dmaReady u).1.tx.count ∧
      block = (uartProcessOutputDma dmaReady u).1.tx.contents.take len := by
  dsimp only [uartProcessOutputDma] at started ⊢
  rw [← freed_head u] at started ⊢
  generalize (if u.txDmaInProgress ≠ 0 then u.tx.advanceBy u.txDmaInProgress else u.tx) = t
    at started ⊢
  by_cases suspended : u.uartSuspended = true
  · simp [suspended] at started
  cases dmaReady
  · simp [suspended] at started
  by_cases same : t.head = t.tail
  · simp [suspended, same] at started
  simp only [suspended, same, Bool.not_true, Bool.false_eq_true, if_false] at started ⊢
  simp at started
  obtain ⟨rfl,rfl,rfl⟩ := started
  obtain ⟨positive,fits,within⟩ := dma_length_bounds t same
  exact ⟨rfl,positive,fits,within,t.block_eq_take within fits⟩

/-! ### Conservation over runs -/

/-- The DMA block the UART is sending is the oldest `tx_dma_in_progress` bytes of the ring,
and the byte-at-a-time build never has one. -/
structure TxInv (b : Build) (u : Buffers txBits rxBits) (l : TxLine) : Prop where
  inFlight : l.dmaBlock = u.tx.contents.take u.txDmaInProgress
  within : u.txDmaInProgress ≤ u.tx.count
  bytewise : b.txDma = false → u.txDmaInProgress = 0

theorem TxInv.initial (b : Build) : TxInv b (Buffers.initial : Buffers txBits rxBits) ⟨[],[]⟩ :=
  ⟨by simp [Buffers.initial],by simp [Buffers.initial],fun _ => rfl⟩

/-- A call keeps the invariant, and the bytes the UART has taken followed by the ring grow
by exactly the bytes stored. -/
def Conserves (b : Build) (u u' : Buffers txBits rxBits) (l : TxLine) (events : List Event) : Prop :=
  TxInv b u' (l.observeAll events) ∧
    (l.observeAll events).sent ++ u'.tx.contents = l.sent ++ u.tx.contents ++ storedBytes events

theorem conserves_of_frame {b : Build} {u u' : Buffers txBits rxBits} {l : TxLine}
    {events : List Event} (inv : TxInv b u l) (tx : u'.tx = u.tx)
    (inProgress : u'.txDmaInProgress = u.txDmaInProgress) (outside : ∀ e ∈ events, e.txSide = false) :
    Conserves b u u' l events := by
  rw [Conserves, storedBytes_of_not_txSide events outside,
    TxLine.observeAll_unseen l events fun e member => handsOver_of_txSide (outside e member), tx,
    List.append_nil]
  exact ⟨⟨by rw [tx, inProgress]; exact inv.inFlight,by rw [tx, inProgress]; exact inv.within,
    by rw [inProgress]; exact inv.bytewise⟩,rfl⟩

/-- What a call of `uart_process_input` does to the transmit side: nothing, and its effects
are signals. -/
structure LeavesTx (u u' : Buffers txBits rxBits) (events : List Event) : Prop where
  tx : u'.tx = u.tx
  inProgress : u'.txDmaInProgress = u.txDmaInProgress
  signals : ∀ e ∈ events, e.isSignal = true

theorem txSide_of_isSignal {e : Event} (signal : e.isSignal = true) : e.txSide = false := by
  cases e <;> simp_all [Event.isSignal, Event.txSide]

theorem conserves_of_leavesTx {b : Build} {u u' : Buffers txBits rxBits} {l : TxLine}
    {events : List Event} (inv : TxInv b u l) (leaves : LeavesTx u u' events) :
    Conserves b u u' l events :=
  conserves_of_frame inv leaves.tx leaves.inProgress fun e member =>
    txSide_of_isSignal (leaves.signals e member)

private theorem txKick_outside (u : Buffers txBits rxBits) : ∀ e ∈ txKick u, e.txSide = false := by
  unfold txKick
  split_ifs <;> simp [Event.txSide]

theorem conserves_of_appends {b : Build} {u u' : Buffers txBits rxBits} {l : TxLine}
    {stores : List Event} (inv : TxInv b u l) (appends : Appends u.tx u'.tx stores)
    (inProgress : u'.txDmaInProgress = u.txDmaInProgress) :
    Conserves b u u' l (stores ++ txKick u) := by
  have unseen : l.observeAll (stores ++ txKick u) = l :=
    TxLine.observeAll_unseen _ _ (by
      simpa [or_imp, forall_and] using
        ⟨fun e member => by obtain ⟨c,rfl⟩ := appends.onlyStores e member; rfl,
          fun e member => handsOver_of_txSide (txKick_outside u e member)⟩)
  have := inv.within
  have longer : u.tx.count ≤ u'.tx.count := by
    rw [← Ring.length_contents, ← Ring.length_contents, appends.contents, List.length_append]
    omega
  refine ⟨⟨?_,by omega,by rw [inProgress]; exact inv.bytewise⟩,?_⟩
  · rw [unseen, inv.inFlight, appends.contents, inProgress,
      List.take_append_of_le_length (by simpa using inv.within)]
  · rw [unseen, appends.contents, storedBytes_append, storedBytes_of_not_txSide _ (txKick_outside u),
      List.append_nil, List.append_assoc]

theorem conserves_uartProcessOutput {b : Build} {u : Buffers txBits rxBits} {l : TxLine}
    (inv : TxInv b u l) (bytewise : b.txDma = false) (ready : List Bool) :
    Conserves b u (uartProcessOutput ready u).1 l (uartProcessOutput ready u).2 := by
  unfold uartProcessOutput
  split_ifs
  · exact conserves_of_frame inv rfl rfl (by simp)
  · obtain ⟨k,written,left⟩ := txCopy_takes ready u.tx
    have idle : u.txDmaInProgress = 0 := inv.bytewise bytewise
    have noBlock : l.dmaBlock = [] := by simpa [idle] using inv.inFlight
    have stop : ∀ e ∈ (if (txCopy ready u.tx).1.tail = (txCopy ready u.tx).1.head then
        [Event.uartTxStop] else []), e.txSide = false := by
      split_ifs <;> simp [Event.txSide]
    have seen := l.observeAll_writes (u.tx.contents.take k)
    have consumed : l.observeAll ((txCopy ready u.tx).2 ++ if (txCopy ready u.tx).1.tail =
        (txCopy ready u.tx).1.head then [Event.uartTxStop] else []) =
        {l with sent := l.sent ++ u.tx.contents.take k} := by
      rw [TxLine.observeAll_append, written, seen,
        TxLine.observeAll_unseen _ _ fun e member => handsOver_of_txSide (stop e member)]
    refine ⟨⟨by simp [consumed, noBlock, idle],by show u.txDmaInProgress ≤ _; omega,fun _ => idle⟩,?_⟩
    rw [consumed, left, storedBytes_append, written, storedBytes_writes,
      storedBytes_of_not_txSide _ stop]
    simp

theorem conserves_uartProcessOutputDma {b : Build} {u : Buffers txBits rxBits} {l : TxLine}
    (inv : TxInv b u l) (dma : b.txDma = true) (dmaReady : Bool) :
    Conserves b u (uartProcessOutputDma dmaReady u).1 l (uartProcessOutputDma dmaReady u).2 := by
  have freed : (if u.txDmaInProgress ≠ 0 then u.tx.advanceBy u.txDmaInProgress else u.tx).contents =
      u.tx.contents.drop u.txDmaInProgress := by
    split_ifs with busy
    · exact u.tx.advanceBy_contents inv.within
    · simp_all
  dsimp only [uartProcessOutputDma]
  rw [← freed_head u]
  generalize (if u.txDmaInProgress ≠ 0 then u.tx.advanceBy u.txDmaInProgress else u.tx) = t at freed ⊢
  have handed : l.sent ++ l.dmaBlock ++ t.contents = l.sent ++ u.tx.contents := by
    rw [freed, inv.inFlight, List.append_assoc, List.take_append_drop]
  by_cases suspended : u.uartSuspended = true
  · rw [if_pos suspended]
    exact conserves_of_frame inv rfl rfl (by simp)
  rw [if_neg suspended]
  cases dmaReady
  · rw [Bool.not_false, if_pos rfl]
    exact conserves_of_frame inv rfl rfl (by simp [Event.txSide])
  by_cases same : t.head = t.tail
  · simp only [same, Bool.not_true, if_true, Bool.false_eq_true, if_false]
    refine ⟨⟨rfl,Nat.zero_le _,fun _ => rfl⟩,?_⟩
    simpa [TxLine.observe, storedBytes] using handed
  · simp only [same, Bool.not_true, Bool.false_eq_true, if_false]
    obtain ⟨-,fits,within⟩ := dma_length_bounds t same
    refine ⟨⟨?_,within,by simp [dma]⟩,?_⟩
    · simpa [TxLine.observe] using t.block_eq_take within fits
    · simpa [TxLine.observe, storedBytes] using handed

/-! ### The receive calls leave the transmit side alone -/

private theorem rxChar_leavesTx (s : InputLoop txBits rxBits) (c : UInt8) :
    ∃ added, LeavesTx s.buffers (rxChar s c).buffers added ∧ (rxChar s c).events = s.events ++ added := by
  unfold rxChar
  split
  · exact ⟨[_],⟨rfl,rfl,by simp [setSuspended_isSignal]⟩,rfl⟩
  · split_ifs
    · exact ⟨[],⟨rfl,rfl,by simp⟩,by simp⟩
    · exact ⟨[],⟨rfl,rfl,by simp⟩,by simp⟩

private theorem foldl_rxChar_leavesTx (received : List UInt8) (s : InputLoop txBits rxBits) :
    ∃ added, LeavesTx s.buffers (received.foldl rxChar s).buffers added ∧
      (received.foldl rxChar s).events = s.events ++ added := by
  induction received generalizing s with
  | nil => exact ⟨[],⟨rfl,rfl,by simp⟩,by simp⟩
  | cons c received ih =>
    obtain ⟨first,⟨tx,inProgress,outside⟩,events⟩ := rxChar_leavesTx s c
    obtain ⟨second,⟨tx',inProgress',outside'⟩,events'⟩ := ih (rxChar s c)
    refine ⟨first ++ second,⟨by rw [List.foldl_cons, tx', tx],
      by rw [List.foldl_cons, inProgress', inProgress],?_⟩,by rw [List.foldl_cons, events', events, List.append_assoc]⟩
    simpa [or_imp, forall_and] using ⟨outside,outside'⟩

theorem uartProcessInput_leavesTx (received : List UInt8) (u : Buffers txBits rxBits) :
    LeavesTx u (uartProcessInput received u).1 (uartProcessInput received u).2 := by
  obtain ⟨added,⟨tx,inProgress,outside⟩,events⟩ := foldl_rxChar_leavesTx received ⟨u,false,[]⟩
  refine ⟨tx,inProgress,?_⟩
  have input : ∀ e ∈ (if (received.foldl rxChar ⟨u,false,[]⟩).gotInput then [Event.consoleHasInput]
      else []), e.isSignal = true := by
    split_ifs <;> simp [Event.isSignal]
  simp only [uartProcessInput, List.mem_append, events, List.nil_append]
  exact fun e member => member.elim (outside e) (input e)

private theorem flowStep_leavesTx (c : UInt8) (s : Buffers txBits rxBits × List Event) :
    ∃ added, LeavesTx s.1 (flowStep c s).1 added ∧ (flowStep c s).2 = s.2 ++ added := by
  unfold flowStep
  split
  · exact ⟨[_],⟨rfl,rfl,by simp [setSuspended_isSignal]⟩,rfl⟩
  · exact ⟨[],⟨rfl,rfl,by simp⟩,by simp⟩

private theorem rxScan_leavesTx (fuel : Nat) (scan : Ring rxBits) (s : Buffers txBits rxBits × List Event) :
    ∃ added, LeavesTx s.1 (rxScan fuel scan s).1 added ∧ (rxScan fuel scan s).2 = s.2 ++ added := by
  induction fuel generalizing scan s with
  | zero => exact ⟨[],⟨rfl,rfl,by simp⟩,by simp [rxScan]⟩
  | succ fuel ih =>
    unfold rxScan
    split_ifs
    · obtain ⟨first,⟨tx,inProgress,outside⟩,events⟩ := flowStep_leavesTx (scan.buf scan.tail) s
      obtain ⟨second,⟨tx',inProgress',outside'⟩,events'⟩ :=
        ih scan.advance (flowStep (scan.buf scan.tail) s)
      refine ⟨first ++ second,⟨by rw [tx', tx],by rw [inProgress', inProgress],?_⟩,
        by rw [events', events, List.append_assoc]⟩
      simpa [or_imp, forall_and] using ⟨outside,outside'⟩
    · exact ⟨[],⟨rfl,rfl,by simp⟩,by simp⟩

theorem uartProcessInputDma_leavesTx (rechecks : Nat) (received : List UInt8) (u : Buffers txBits rxBits) :
    LeavesTx u (uartProcessInputDma rechecks received u).1 (uartProcessInputDma rechecks received u).2 := by
  obtain ⟨added,⟨tx,inProgress,outside⟩,events⟩ := rxScan_leavesTx (2 ^ rxBits)
    {u.rx.storeAll received with tail := u.rx.head,tail_lt := u.rx.head_lt}
    ({u with rx := u.rx.storeAll received},[])
  dsimp only [uartProcessInputDma]
  rw [events]
  split_ifs <;> exact ⟨tx,inProgress,by simpa [or_imp, forall_and, Event.isSignal] using outside⟩

/-! ### Every run -/

theorem conserves_perform (b : Build) {u : Buffers txBits rxBits} {l : TxLine} (inv : TxInv b u l)
    (a : Action) : Conserves b u (perform b u a).1 l (perform b u a).2 := by
  cases a with
  | putc c => exact conserves_of_appends inv (appends_txChar u.tx c) rfl
  | puts outstr => exact conserves_of_appends inv (appends_putsLoop u.tx outstr) rfl
  | vprintf emitted => exact conserves_of_appends inv (appends_txAll u.tx emitted) rfl
  | processOutput ready =>
    rw [perform_processOutput]
    cases dma : b.txDma
    · exact conserves_uartProcessOutput inv dma ready
    · exact conserves_uartProcessOutputDma inv dma _
  | processInput received =>
    rw [perform_processInput]
    split_ifs
    · exact conserves_of_leavesTx inv (uartProcessInputDma_leavesTx _ _ _)
    · exact conserves_of_leavesTx inv (uartProcessInput_leavesTx _ _)
  | getc =>
    rw [perform_getc]
    exact conserves_of_frame inv rfl rfl (by simp [Event.txSide])

theorem conserves_run (b : Build) {u : Buffers txBits rxBits} {l : TxLine} (inv : TxInv b u l)
    (actions : List Action) : Conserves b u (run b u actions) l (trace b u actions) := by
  induction actions generalizing u l with
  | nil => exact ⟨inv,by simp⟩
  | cons a actions ih =>
    obtain ⟨kept,conserved⟩ := conserves_perform b inv a
    obtain ⟨kept',conserved'⟩ := ih kept
    refine ⟨by rwa [run_cons, trace_cons, TxLine.observeAll_append],?_⟩
    rw [run_cons, trace_cons, TxLine.observeAll_append, conserved', conserved, storedBytes_append,
      List.append_assoc]

/-- The transmit ring is a lossless bounded FIFO, in either build and under any answers of the
driver and any suspension. Over every run from the empty ring, the bytes the UART has been
handed, followed by the ring's bytes from `tx_buf_tail` to `tx_buf_head`, are exactly the
bytes `__tx_char` stored, in order. The ring holds at most `SIZE - 1` bytes and a store is
refused exactly when it holds that many; a store that is not refused appends its byte to the ring
and logs it. A DMA block starts at `tx_buf_tail`, is not empty,
ends inside `tx_buf` and does not pass `tx_buf_head`. -/
theorem tx_ring_lossless_fifo :
    (∀ (b : Build) (actions : List Action),
      (TxLine.observeAll ⟨[],[]⟩ (trace b (Buffers.initial : Buffers txBits rxBits) actions)).sent ++
          (run b (Buffers.initial : Buffers txBits rxBits) actions).tx.contents =
        storedBytes (trace b (Buffers.initial : Buffers txBits rxBits) actions)) ∧
    (∀ (r : Ring txBits) (c : UInt8), r.contents.length ≤ 2 ^ txBits - 1 ∧
      ((txPut r c).dropped = true ↔ r.contents.length = 2 ^ txBits - 1) ∧
      ((txPut r c).dropped = false → (txPut r c).ring.contents = r.contents ++ [c] ∧
        (txPut r c).stores = [.txBufStore c])) ∧
    (∀ (u : Buffers txBits rxBits) (dmaReady : Bool) (offset len : Nat) (block : List UInt8),
      .uartTxDmaStart offset len block ∈ (uartProcessOutputDma dmaReady u).2 →
      offset = (uartProcessOutputDma dmaReady u).1.tx.tail ∧ 0 < len ∧
        offset + len ≤ 2 ^ txBits ∧ len ≤ (uartProcessOutputDma dmaReady u).1.tx.count) := by
  refine ⟨fun b actions => ?_,fun r c => ⟨?_,(txPut_dropped r c).1,txPut_stored r c⟩,
    fun u dmaReady offset len block started => ?_⟩
  · simpa [Buffers.initial] using (conserves_run b (TxInv.initial b) actions).2
  · have := r.count_lt
    rw [Ring.length_contents]
    omega
  · obtain ⟨start,positive,fits,within,-⟩ := dma_block_in_ring u dmaReady offset len block started
    exact ⟨start,positive,fits,within⟩

end ChromeEc.Uart
