import ChromeEc.Uart.Ring

/-! The console host commands of common/uart_buffering.c. `host_command_console_snapshot`
captures `tx_buf_head` and starts `tx_snapshot_tail` one past it, at the oldest byte the
buffer may still hold; `host_command_console_read` then copies the non-zero bytes from
`tx_snapshot_tail` on, as many as the response holds. The two indices walk `tx_buf` as a ring
of their own, so the ring lemmas apply to that view: a read returns the next bytes of the
snapshot and drops them, and once `tx_snapshot_tail` reaches the captured head a read
returns an empty response, with no NUL. -/
namespace ChromeEc.Uart

variable {bits : Nat}

/-- `tx_snapshot_head` and `tx_snapshot_tail`. -/
structure Snapshot (bits : Nat) where
  head : Nat
  tail : Nat
  head_lt : head < 2 ^ bits
  tail_lt : tail < 2 ^ bits

/-- The snapshot's indices over `tx_buf`, as a ring from `tx_snapshot_tail` to
`tx_snapshot_head`. -/
def Snapshot.over (s : Snapshot bits) (buf : Nat → UInt8) : Ring bits := ⟨buf,s.head,s.tail,s.head_lt,s.tail_lt⟩

def Snapshot.ofRing (v : Ring bits) : Snapshot bits := ⟨v.head,v.tail,v.head_lt,v.tail_lt⟩

/-- `EC_RES_SUCCESS`, and `EC_ERROR_ACCESS_DENIED` on a locked system. -/
inductive HostStatus
  | resSuccess | errorAccessDenied
  deriving DecidableEq, Repr

/-- The skip loop of `host_command_console_snapshot`: step past unused (zero) bytes. -/
def skipUnused : Nat → Ring bits → Ring bits
  | 0, v => v
  | fuel + 1, v => if v.tail ≠ v.head then if v.buf v.tail ≠ 0 then v else skipUnused fuel v.advance else v

/-- `tx_snapshot_head = tx_buf_head; tx_snapshot_tail = TX_BUF_NEXT(tx_snapshot_head)`:
"assume the whole circular buffer is full". -/
def snapshotStart (tx : Ring bits) : Ring bits :=
  ⟨tx.buf,tx.head,bufNext bits tx.head,tx.head_lt,by simpa using Nat.mod_lt _ (Nat.two_pow_pos bits)⟩

/-- `host_command_console_snapshot`; `locked` answers `system_is_locked()`. Its loop runs
fewer than `CONFIG_UART_TX_BUF_SIZE` times, so `2 ^ bits` rounds are as many as it needs. -/
def hostCommandConsoleSnapshot (locked : Bool) (tx : Ring bits) (s : Snapshot bits) :
    Snapshot bits × HostStatus :=
  if locked then (s,.errorAccessDenied)
  else (Snapshot.ofRing (skipUnused (2 ^ bits) (snapshotStart tx)),.resSuccess)

/-- The copy loop of `host_command_console_read`, with `response_size` and the bytes written
at `dest`. -/
def readLoop (responseMax : Nat) : Nat → Ring bits → Nat → List UInt8 → Ring bits × Nat × List UInt8
  | 0, v, size, out => (v,size,out)
  | fuel + 1, v, size, out =>
    if v.tail ≠ v.head ∧ size < responseMax - 1 then
      if v.buf v.tail ≠ 0 then readLoop responseMax fuel v.advance (size + 1) (out ++ [v.buf v.tail])
      else readLoop responseMax fuel v.advance size out
    else (v,size,out)

/-- What `host_command_console_read` leaves: the statics, the bytes it wrote at
`args->response`, `args->response_size`, and its result. -/
structure ConsoleRead (bits : Nat) where
  snapshot : Snapshot bits
  response : List UInt8
  responseSize : Nat
  status : HostStatus

/-- `host_command_console_read` for a response of `responseMax` bytes whose `response_size`
starts at `responseSize`. -/
def hostCommandConsoleRead (locked : Bool) (tx : Ring bits) (responseMax responseSize : Nat)
    (s : Snapshot bits) : ConsoleRead bits :=
  if locked then ⟨s,[],responseSize,.errorAccessDenied⟩
  else if s.head = s.tail then ⟨s,[],responseSize,.resSuccess⟩
  else
    let copy := readLoop responseMax (2 ^ bits) (s.over tx.buf) responseSize []
    ⟨Snapshot.ofRing copy.1,copy.2.2 ++ [0],copy.2.1 + 1,.resSuccess⟩

/-- Successive reads with these `response_max` values, each handed an empty response. -/
def consoleReadAll (tx : Ring bits) : Snapshot bits → List Nat → Snapshot bits × List (List UInt8)
  | s, [] => (s,[])
  | s, responseMax :: maxes =>
    let read := hostCommandConsoleRead false tx responseMax 0 s
    ((consoleReadAll tx read.snapshot maxes).1,read.response :: (consoleReadAll tx read.snapshot maxes).2)

/-! ### The bytes a snapshot still holds -/

/-- The non-zero bytes of a view, in ring order. -/
def nonzero (v : Ring bits) : List UInt8 := v.contents.filter (· != 0)

/-- The non-zero bytes of `tx_buf` that the snapshot has not returned yet. -/
def pending (tx : Ring bits) (s : Snapshot bits) : List UInt8 := nonzero (s.over tx.buf)

/-- The bytes a snapshot is meant to return: the non-zero bytes of `tx_buf` in ring order,
from one past `tx_buf_head` up to that head. -/
def snapshotBytes (tx : Ring bits) : List UInt8 :=
  ((List.range (2 ^ bits - 1)).map fun i => tx.buf ((tx.head + 1 + i) % 2 ^ bits)).filter (· != 0)

theorem Snapshot.over_ofRing {v : Ring bits} {buf : Nat → UInt8} (same : v.buf = buf) :
    (Snapshot.ofRing v).over buf = v := by
  subst same
  rfl

theorem nonzero_of_empty {v : Ring bits} (empty : v.head = v.tail) : nonzero v = [] := by
  rw [nonzero, v.contents_eq_nil_iff.mpr empty, List.filter_nil]

theorem pending_of_empty (tx : Ring bits) {s : Snapshot bits} (empty : s.head = s.tail) :
    pending tx s = [] :=
  nonzero_of_empty (v := s.over tx.buf) empty

theorem nonzero_cons {v : Ring bits} (busy : v.head ≠ v.tail) :
    nonzero v = if v.buf v.tail ≠ 0 then v.buf v.tail :: nonzero v.advance else nonzero v.advance := by
  rw [nonzero, v.contents_eq_cons busy, List.filter_cons]
  by_cases zero : v.buf v.tail = 0 <;> simp [zero, nonzero]

theorem skipUnused_spec : ∀ (fuel : Nat) (v : Ring bits),
    nonzero (skipUnused fuel v) = nonzero v ∧ (skipUnused fuel v).buf = v.buf ∧
      (skipUnused fuel v).head = v.head
  | 0, v => ⟨rfl,rfl,rfl⟩
  | fuel + 1, v => by
    unfold skipUnused
    by_cases busy : v.tail = v.head
    · simp [busy]
    · by_cases zero : v.buf v.tail = 0
      · obtain ⟨kept,buf,head⟩ := skipUnused_spec fuel v.advance
        simp only [ne_eq, busy, not_false_eq_true, zero, not_true_eq_false, if_false, if_true]
        rw [kept, buf, head, nonzero_cons (Ne.symm busy), if_neg (not_not.mpr zero)]
        exact ⟨rfl,rfl,rfl⟩
      · simp [busy, zero]

theorem readLoop_spec (responseMax : Nat) : ∀ (fuel : Nat) (v : Ring bits) (size : Nat)
    (out : List UInt8), v.count < fuel →
    (readLoop responseMax fuel v size out).2.2 = out ++ (nonzero v).take (responseMax - 1 - size) ∧
    (readLoop responseMax fuel v size out).2.1 = size + ((nonzero v).take (responseMax - 1 - size)).length ∧
    nonzero (readLoop responseMax fuel v size out).1 = (nonzero v).drop (responseMax - 1 - size) ∧
    (readLoop responseMax fuel v size out).1.buf = v.buf ∧
    ((nonzero v).length < responseMax - 1 - size →
      (readLoop responseMax fuel v size out).1.head = (readLoop responseMax fuel v size out).1.tail)
  | 0, v, size, out, enough => absurd enough (Nat.not_lt_zero _)
  | fuel + 1, v, size, out, enough => by
    unfold readLoop
    by_cases go : v.tail ≠ v.head ∧ size < responseMax - 1
    · have busy : v.head ≠ v.tail := Ne.symm go.1
      have fewer : v.advance.count < fuel := by have := v.advance_count_lt busy; omega
      obtain ⟨k,room⟩ : ∃ k, responseMax - 1 - size = k + 1 := ⟨responseMax - 1 - size - 1,by omega⟩
      rw [if_pos go, nonzero_cons busy, room]
      by_cases zero : v.buf v.tail = 0
      · rw [if_neg (not_not.mpr zero), if_neg (not_not.mpr zero), ← room]
        exact readLoop_spec responseMax fuel v.advance size out fewer
      · rw [if_pos zero, if_pos zero]
        obtain ⟨written,counted,left,buf,stopped⟩ :=
          readLoop_spec responseMax fuel v.advance (size + 1) (out ++ [v.buf v.tail]) fewer
        have next : responseMax - 1 - (size + 1) = k := by omega
        rw [next] at written counted left stopped
        refine ⟨by simp [written],by simp [counted]; omega,by simp [left],buf,fun short => stopped ?_⟩
        simp only [List.length_cons] at short
        omega
    · rw [if_neg go]
      by_cases busy : v.tail = v.head
      · simp [nonzero_of_empty busy.symm, busy]
      · have full : responseMax - 1 - size = 0 := by omega
        simp [full]

theorem hostCommandConsoleRead_spec (tx : Ring bits) (responseMax responseSize : Nat)
    (s : Snapshot bits) (busy : s.head ≠ s.tail) :
    (hostCommandConsoleRead false tx responseMax responseSize s).response =
      (pending tx s).take (responseMax - 1 - responseSize) ++ [0] ∧
    (hostCommandConsoleRead false tx responseMax responseSize s).responseSize =
      responseSize + ((pending tx s).take (responseMax - 1 - responseSize)).length + 1 ∧
    pending tx (hostCommandConsoleRead false tx responseMax responseSize s).snapshot =
      (pending tx s).drop (responseMax - 1 - responseSize) ∧
    ((pending tx s).length < responseMax - 1 - responseSize →
      (hostCommandConsoleRead false tx responseMax responseSize s).snapshot.head =
        (hostCommandConsoleRead false tx responseMax responseSize s).snapshot.tail) := by
  obtain ⟨written,counted,left,buf,stopped⟩ :=
    readLoop_spec responseMax (2 ^ bits) (s.over tx.buf) responseSize [] (Ring.count_lt _)
  simp only [hostCommandConsoleRead, Bool.false_eq_true, if_false, busy]
  have same : (readLoop responseMax (2 ^ bits) (s.over tx.buf) responseSize []).1.buf = tx.buf := buf
  refine ⟨by rw [written]; rfl,by rw [counted]; rfl,?_,stopped⟩
  rw [pending, Snapshot.over_ofRing same, left]
  rfl

theorem hostCommandConsoleRead_of_empty (tx : Ring bits) (responseMax responseSize : Nat)
    (s : Snapshot bits) (empty : s.head = s.tail) :
    hostCommandConsoleRead false tx responseMax responseSize s = ⟨s,[],responseSize,.resSuccess⟩ := by
  simp [hostCommandConsoleRead, empty]

theorem snapshotStart_contents (tx : Ring bits) :
    (snapshotStart tx).contents =
      (List.range (2 ^ bits - 1)).map fun i => tx.buf ((tx.head + 1 + i) % 2 ^ bits) := by
  have counted : (snapshotStart tx).count = 2 ^ bits - 1 := by
    apply Ring.count_eq_of_head _ (Nat.sub_lt (Nat.two_pow_pos bits) Nat.one_pos)
    have := tx.head_lt
    simp only [snapshotStart, bufNext_eq, Nat.mod_add_mod]
    rw [show tx.head + 1 + (2 ^ bits - 1) = tx.head + 2 ^ bits by omega, Nat.add_mod_right,
      Nat.mod_eq_of_lt this]
  simp only [Ring.contents, counted]
  apply List.map_congr_left
  intro i _
  simp only [snapshotStart, bufNext_eq, Nat.mod_add_mod]

theorem pending_snapshot (tx : Ring bits) (s : Snapshot bits) :
    pending tx (hostCommandConsoleSnapshot false tx s).1 = snapshotBytes tx := by
  obtain ⟨kept,buf,-⟩ := skipUnused_spec (2 ^ bits) (snapshotStart tx)
  have same : (skipUnused (2 ^ bits) (snapshotStart tx)).buf = tx.buf := buf
  simp only [hostCommandConsoleSnapshot, Bool.false_eq_true, if_false, pending]
  rw [Snapshot.over_ofRing same, kept, nonzero, snapshotStart_contents]
  rfl

/-! ### Successive reads -/

theorem read_conserves (tx : Ring bits) (responseMax : Nat) (s : Snapshot bits) :
    (hostCommandConsoleRead false tx responseMax 0 s).response.dropLast ++
      pending tx (hostCommandConsoleRead false tx responseMax 0 s).snapshot = pending tx s := by
  by_cases empty : s.head = s.tail
  · simp [hostCommandConsoleRead_of_empty tx responseMax 0 s empty]
  · obtain ⟨response,-,left,-⟩ := hostCommandConsoleRead_spec tx responseMax 0 s empty
    rw [response, left, List.dropLast_concat, List.take_append_drop]

/-- The reads a snapshot still needs: one per pending byte at most, and one to reach the
captured head. -/
def Snapshot.left (tx : Ring bits) (s : Snapshot bits) : Nat :=
  (pending tx s).length + if s.head = s.tail then 0 else 1

theorem Snapshot.left_eq_zero {tx : Ring bits} {s : Snapshot bits} (done : s.left tx = 0) :
    s.head = s.tail ∧ pending tx s = [] := by
  unfold Snapshot.left at done
  split_ifs at done with empty
  exact ⟨empty,List.eq_nil_of_length_eq_zero (by omega)⟩

theorem read_left (tx : Ring bits) (responseMax : Nat) (room : 2 ≤ responseMax) (s : Snapshot bits) :
    (hostCommandConsoleRead false tx responseMax 0 s).snapshot.left tx ≤ s.left tx - 1 := by
  by_cases empty : s.head = s.tail
  · simp [hostCommandConsoleRead_of_empty tx responseMax 0 s empty, Snapshot.left, empty,
      pending_of_empty tx empty]
  · obtain ⟨-,-,left,stopped⟩ := hostCommandConsoleRead_spec tx responseMax 0 s empty
    unfold Snapshot.left
    rw [left, List.length_drop, if_neg empty]
    by_cases short : (pending tx s).length < responseMax - 1 - 0
    · rw [if_pos (stopped short)]
      omega
    · split_ifs <;> omega

theorem consoleReadAll_conserves (tx : Ring bits) (maxes : List Nat) (s : Snapshot bits) :
    ((consoleReadAll tx s maxes).2.map List.dropLast).flatten ++
      pending tx (consoleReadAll tx s maxes).1 = pending tx s := by
  induction maxes generalizing s with
  | nil => rfl
  | cons responseMax maxes ih =>
    simp only [consoleReadAll, List.map_cons, List.flatten_cons, List.append_assoc, ih]
    exact read_conserves tx responseMax s

theorem consoleReadAll_left (tx : Ring bits) (maxes : List Nat) (room : ∀ m ∈ maxes, 2 ≤ m)
    (s : Snapshot bits) : (consoleReadAll tx s maxes).1.left tx ≤ s.left tx - maxes.length := by
  induction maxes generalizing s with
  | nil => simp [consoleReadAll]
  | cons responseMax maxes ih =>
    have first := read_left tx responseMax (room _ (List.mem_cons_self _ _)) s
    have rest := ih (fun m member => room m (List.mem_cons_of_mem _ member))
      (hostCommandConsoleRead false tx responseMax 0 s).snapshot
    simp only [consoleReadAll, List.length_cons]
    omega

/-- The console snapshot returns each non-zero byte of `tx_buf` once. The snapshot holds the
non-zero bytes from one past `tx_buf_head` up to it. Each read with room for a byte returns
the next of them as a NUL-terminated string of at most `response_max` bytes, empty only when
none is left; a read once the snapshot has reached its head returns no bytes at all. Over
successive reads the strings are the snapshot's bytes in order, all of them once there have
been more reads than bytes. -/
theorem console_snapshot_reads_each_byte_once (tx : Ring bits) (s₀ : Snapshot bits) :
    pending tx (hostCommandConsoleSnapshot false tx s₀).1 = snapshotBytes tx ∧
    (∀ (s : Snapshot bits) (responseMax : Nat), 2 ≤ responseMax →
      (hostCommandConsoleRead false tx responseMax 0 s).responseSize =
        (hostCommandConsoleRead false tx responseMax 0 s).response.length ∧
      (s.head = s.tail → (hostCommandConsoleRead false tx responseMax 0 s).response = [] ∧
        (hostCommandConsoleRead false tx responseMax 0 s).snapshot = s) ∧
      (s.head ≠ s.tail →
        (hostCommandConsoleRead false tx responseMax 0 s).response =
          (pending tx s).take (responseMax - 1) ++ [0] ∧
        (hostCommandConsoleRead false tx responseMax 0 s).response.length ≤ responseMax ∧
        ((hostCommandConsoleRead false tx responseMax 0 s).response = [0] → pending tx s = []))) ∧
    (∀ maxes : List Nat, (∀ m ∈ maxes, 2 ≤ m) →
      ((consoleReadAll tx (hostCommandConsoleSnapshot false tx s₀).1 maxes).2.map List.dropLast).flatten
        <+: snapshotBytes tx ∧
      ((snapshotBytes tx).length < maxes.length →
        ((consoleReadAll tx (hostCommandConsoleSnapshot false tx s₀).1 maxes).2.map List.dropLast).flatten =
          snapshotBytes tx ∧
        (consoleReadAll tx (hostCommandConsoleSnapshot false tx s₀).1 maxes).1.head =
          (consoleReadAll tx (hostCommandConsoleSnapshot false tx s₀).1 maxes).1.tail)) := by
  refine ⟨pending_snapshot tx s₀,fun s responseMax room => ?_,fun maxes room => ?_⟩
  · by_cases empty : s.head = s.tail
    · simp [hostCommandConsoleRead_of_empty tx responseMax 0 s empty, empty]
    · obtain ⟨response,size,-,-⟩ := hostCommandConsoleRead_spec tx responseMax 0 s empty
      simp only [Nat.sub_zero] at response size
      refine ⟨by simp [response, size],fun same => absurd same empty,fun _ => ⟨response,?_,?_⟩⟩
      · rw [response, List.length_append, List.length_take, List.length_singleton]
        omega
      · intro single
        rw [response] at single
        rcases List.append_eq_cons_iff.mp single with ⟨nothing,-⟩ | ⟨rest,-,impossible⟩
        · exact List.take_eq_nil_iff.mp nothing |>.resolve_left (by omega)
        · simp at impossible
  · have whole := consoleReadAll_conserves tx maxes (hostCommandConsoleSnapshot false tx s₀).1
    rw [pending_snapshot] at whole
    refine ⟨⟨_,whole⟩,fun more => ?_⟩
    have bound : (hostCommandConsoleSnapshot false tx s₀).1.left tx ≤ (snapshotBytes tx).length + 1 := by
      unfold Snapshot.left
      rw [pending_snapshot]
      split_ifs <;> omega
    have done := Snapshot.left_eq_zero (Nat.eq_zero_of_le_zero
      ((consoleReadAll_left tx maxes room (hostCommandConsoleSnapshot false tx s₀).1).trans (by omega)))
    rw [done.2, List.append_nil] at whole
    exact ⟨whole,done.1⟩

/-- Unused (zero) bytes everywhere: the snapshot skips to the head at once, and the first read
returns no bytes, not even a NUL. -/
theorem console_read_of_blank_buffer_is_empty :
    let blank : Ring 2 := Ring.empty
    (hostCommandConsoleRead false blank 2 0 (hostCommandConsoleSnapshot false blank ⟨0,0,by decide,by decide⟩).1).response = [] ∧
      (hostCommandConsoleRead false blank 2 0 (hostCommandConsoleSnapshot false blank ⟨0,0,by decide,by decide⟩).1).responseSize = 0 := by
  decide

end ChromeEc.Uart
