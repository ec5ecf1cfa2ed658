import Mathlib.Data.Nat.Bitwise

/-! chip/stm32/usb.c: the control endpoint EP0 of the STM32 USB device, driven by the host
through `usb_interrupt`. What the host does on the bus, and so what the hardware leaves in
`ep0_buf_rx` and which interrupt it raises, is the environment. A SET_ADDRESS request stores the
address in `set_addr`, and the next completed IN transaction on EP0 writes it to
`STM32_USB_DADDR`. For a host that finishes the request's status stage before anything else
this is the address state machine of chapter 9 of the USB 2.0 specification; `usb_reset` leaves
`set_addr` as it is, so a reset in between applies the old address at the next IN transaction. -/
namespace ChromeEc.Stm32.Usb

/-- `USB_RECIP_MASK`, `USB_RECIP_INTERFACE`, `USB_DIR_OUT` and `USB_DIR_IN` of usb.h (not in
src/), as chapter 9 defines them. -/
def usbRecipMask : Nat := 0x1f
def usbRecipInterface : Nat := 0x01
def usbDirOut : Nat := 0x00
def usbDirIn : Nat := 0x80

/-- The standard requests and descriptor types usb.c handles, and `USB_DT_DEVICE_SIZE`, the size
of `dev_desc` (usb.h, not in src/). -/
def usbReqGetStatus : Nat := 0x00
def usbReqSetAddress : Nat := 0x05
def usbReqGetDescriptor : Nat := 0x06
def usbReqSetConfiguration : Nat := 0x09
def usbDtDevice : Nat := 0x01
def usbDtConfiguration : Nat := 0x02
def usbDtString : Nat := 0x03
def usbDtDeviceQualifier : Nat := 0x06
def usbDtDeviceSize : Nat := 18

/-- The board's USB configuration: `USB_EP_COUNT`, `USB_IFACE_COUNT`, `USB_STR_COUNT`,
`USB_DESC_SIZE` and the size byte of each of `usb_strings` (other drivers and boards, not in
src/). -/
structure UsbConfig where
  epCount : Nat
  ifaceCount : Nat
  strCount : Nat
  descSize : Nat
  strSize : Nat → Nat

/-- A status of one direction of EP0: the STAT_TX or STAT_RX field of `STM32_USB_EP(0)`. -/
inductive EpStatus
  | stall | nak | valid
  deriving DecidableEq, Repr

/-- The four 16-bit words the hardware leaves in `ep0_buf_rx`: `bmRequestType | bRequest << 8`,
`wValue`, `wIndex` and `wLength`. -/
structure Setup where
  request : Nat
  value : Nat
  index : Nat
  length : Nat
  deriving DecidableEq, Repr

/-- What usb.c keeps of the device: `STM32_USB_DADDR`, `set_addr`, `btable_ep[0].tx_count`, the
TX and RX status of EP0, and `ep0_buf_rx`. -/
structure Device where
  daddr : Nat
  setAddr : Nat
  txCount : Nat
  tx : EpStatus
  rx : EpStatus
  rxBuf : Setup
  deriving DecidableEq, Repr

/-- `STM32_TOGGLE_EP(0, EP_TX_RX_MASK, EP_TX_RX_VALID, ...)`: both directions of EP0 valid (the
macro is in registers.h, not in src/; the EP_STATUS_OUT flag is left out). -/
def Device.armed (d : Device) : Device := {d with tx := .valid, rx := .valid}

/-- `STM32_TOGGLE_EP(0, EP_TX_RX_MASK, EP_RX_VALID | EP_TX_STALL, 0)`. -/
def Device.stalled (d : Device) : Device := {d with tx := .stall, rx := .valid}

/-- `ep0_rx()`: the request in `ep0_buf_rx`. An interface request goes to
`usb_iface_request[iface]`, another driver's handler (not in src/), which is not modelled. -/
def ep0Rx (k : UsbConfig) (d : Device) : Device :=
  let req := d.rxBuf.request
  if req &&& usbRecipMask = usbRecipInterface then d
  else if req = usbDirIn ||| usbReqGetDescriptor <<< 8 then
    let type := d.rxBuf.value >>> 8
    let idx := d.rxBuf.value &&& 0xff
    if type = usbDtDevice then {d with txCount := usbDtDeviceSize}.armed
    else if type = usbDtConfiguration then {d with txCount := min d.rxBuf.length k.descSize}.armed
    else if type = usbDtString then
      if idx ≥ k.strCount then d.stalled
      else {d with txCount := min d.rxBuf.length (k.strSize idx)}.armed
    -- not high speed: STALL
    else if type = usbDtDeviceQualifier then d.stalled
    else d.stalled
  else if req = usbDirIn ||| usbReqGetStatus <<< 8 then {d with txCount := 2}.armed
  else if req &&& 0xff = usbDirOut then
    if req >>> 8 = usbReqSetAddress then {d with setAddr := d.rxBuf.value &&& 0xff}.armed
    else if req >>> 8 = usbReqSetConfiguration then {d with txCount := 0}.armed
    else d.stalled
  else d.stalled

/-- `ep0_tx()`: an IN transaction on EP0 completed. -/
def ep0Tx (d : Device) : Device :=
  let d := if d.setAddr ≠ 0 then {d with daddr := d.setAddr ||| 0x80, setAddr := 0} else d
  {d with tx := .valid}

/-- `ep0_reset()`: control endpoint, TX NAK, RX VALID, nothing to send. -/
def ep0Reset (d : Device) : Device := {d with txCount := 0, tx := .nak, rx := .valid}

/-- `usb_reset()`: the reset handlers of the endpoints other than EP0 belong to other drivers
(not in src/) and leave EP0 alone. -/
def usbReset (d : Device) : Device := {ep0Reset d with daddr := 0 ||| 0x80}

/-- `usb_interrupt()` with `STM32_USB_ISTR` at `status`. -/
def usbInterrupt (k : UsbConfig) (status : Nat) (d : Device) : Device :=
  let d := if status &&& 1 <<< 10 ≠ 0 then usbReset d else d
  if status &&& 1 <<< 15 ≠ 0 then
    let ep := status &&& 0x000f
    if ep < k.epCount ∧ ep = 0 then
      if status &&& 0x0010 ≠ 0 then ep0Rx k d else ep0Tx d
    else d
  else d

/-- What the host does on the bus: a reset, a SETUP transaction on EP0, a zero-length OUT on EP0
(the status stage of a control read), or an IN transaction on EP0 that completed. -/
inductive HostEvent
  | reset
  | setup (p : Setup)
  | out
  | inDone
  deriving DecidableEq, Repr

/-- The `STM32_USB_ISTR` an event raises: RESET, or CTR on EP0 with DIR for what EP0 received. -/
def HostEvent.status : HostEvent → Nat
  | .reset => 1 <<< 10
  | .setup _ | .out => 1 <<< 15 ||| 0x10
  | .inDone => 1 <<< 15

/-- The hardware stores a SETUP's data in `ep0_buf_rx`; a zero-length OUT leaves it. -/
def Device.receive (d : Device) : HostEvent → Device
  | .setup p => {d with rxBuf := p}
  | _ => d

@[simp] theorem Device.receive_out (d : Device) : d.receive .out = d := rfl

def Device.step (k : UsbConfig) (d : Device) (e : HostEvent) : Device := usbInterrupt k e.status (d.receive e)

def Device.run (k : UsbConfig) (d : Device) (events : List HostEvent) : Device := events.foldl (Device.step k) d

/-! ### What each handler does to the address -/

section Handlers

variable (k : UsbConfig) (d : Device)

theorem setAddress_test_iff (req : Nat) :
    req &&& 0xff = usbDirOut ∧ req >>> 8 = usbReqSetAddress ↔ req = 0x0500 := by
  have split := Nat.div_add_mod req 256
  rw [show (0xff : Nat) = 2 ^ 8 - 1 from rfl, Nat.and_pow_two_sub_one_eq_mod, Nat.shiftRight_eq_div_pow]
  simp only [usbDirOut, usbReqSetAddress]
  omega

@[simp] theorem ep0Rx_daddr : (ep0Rx k d).daddr = d.daddr := by
  simp only [ep0Rx, apply_ite Device.daddr, Device.armed, Device.stalled, ite_self]

@[simp] theorem ep0Rx_rxBuf : (ep0Rx k d).rxBuf = d.rxBuf := by
  simp only [ep0Rx, apply_ite Device.rxBuf, Device.armed, Device.stalled, ite_self]

theorem ep0Rx_setAddr :
    (ep0Rx k d).setAddr = if d.rxBuf.request = 0x0500 then d.rxBuf.value &&& 0xff else d.setAddr := by
  simp only [ep0Rx, apply_ite Device.setAddr, Device.armed, Device.stalled, ite_self]
  by_cases setAddress : d.rxBuf.request = 0x0500
  · have notInterface : ¬((0x0500 : Nat) &&& usbRecipMask = usbRecipInterface) := by decide
    have notDescriptor : ¬((0x0500 : Nat) = usbDirIn ||| usbReqGetDescriptor <<< 8) := by decide
    have notStatus : ¬((0x0500 : Nat) = usbDirIn ||| usbReqGetStatus <<< 8) := by decide
    have standardOut := (setAddress_test_iff 0x0500).mpr rfl
    rw [setAddress, if_pos rfl, if_neg notInterface, if_neg notDescriptor, if_neg notStatus, if_pos standardOut.1,
      if_pos standardOut.2]
  · have notSet := mt (setAddress_test_iff d.rxBuf.request).mp setAddress
    rw [if_neg setAddress]
    split_ifs <;> first | rfl | exact absurd ⟨‹_›,‹_›⟩ notSet

@[simp] theorem ep0Tx_setAddr : (ep0Tx d).setAddr = 0 := by
  unfold ep0Tx
  split_ifs with pending
  · rfl
  · exact not_not.mp pending

@[simp] theorem ep0Tx_rxBuf : (ep0Tx d).rxBuf = d.rxBuf := by
  unfold ep0Tx
  split_ifs <;> rfl

theorem ep0Tx_daddr : (ep0Tx d).daddr = if d.setAddr ≠ 0 then d.setAddr ||| 0x80 else d.daddr := by
  unfold ep0Tx
  split_ifs <;> rfl

@[simp] theorem usbReset_daddr : (usbReset d).daddr = 0x80 := rfl

@[simp] theorem usbReset_setAddr : (usbReset d).setAddr = d.setAddr := rfl

@[simp] theorem usbReset_rxBuf : (usbReset d).rxBuf = d.rxBuf := rfl

theorem step_reset : d.step k .reset = usbReset d := by
  have reset : (1 <<< 10 : Nat) &&& 1 <<< 10 ≠ 0 := by decide
  have noTransfer : ¬((1 <<< 10 : Nat) &&& 1 <<< 15 ≠ 0) := by decide
  simp only [Device.step, Device.receive, HostEvent.status, usbInterrupt]
  rw [if_neg noTransfer, if_pos reset]

theorem usbInterrupt_ep0 (status : Nat) (ep0 : 0 < k.epCount) (noReset : status &&& 1 <<< 10 = 0)
    (transfer : status &&& 1 <<< 15 ≠ 0) (onEp0 : status &&& 0x000f = 0) :
    usbInterrupt k status d = if status &&& 0x0010 ≠ 0 then ep0Rx k d else ep0Tx d := by
  simp only [usbInterrupt, noReset, ne_eq, not_true_eq_false, if_false, transfer, not_false_eq_true, if_true, onEp0,
    ep0, and_self]

theorem step_received (ep0 : 0 < k.epCount) (e : HostEvent) (received : e.status = 1 <<< 15 ||| 0x10) :
    d.step k e = ep0Rx k (d.receive e) := by
  rw [Device.step, received, usbInterrupt_ep0 k _ _ ep0 (by decide) (by decide) (by decide),
    if_pos (show (1 <<< 15 ||| 0x10 : Nat) &&& 0x0010 ≠ 0 by decide)]

theorem step_inDone (ep0 : 0 < k.epCount) : d.step k .inDone = ep0Tx d := by
  rw [Device.step, HostEvent.status, usbInterrupt_ep0 k _ _ ep0 (by decide) (by decide) (by decide),
    if_neg (show ¬(1 <<< 15 : Nat) &&& 0x0010 ≠ 0 by decide)]
  rfl

end Handlers

/-! ### Chapter 9's address state machine -/

/-- Where the host is in a control transfer on EP0, as chapter 9 of the USB 2.0 specification
has it: in none, in a control read (data stage IN, status stage OUT), or in a control write
without data stage whose status stage IN is still to come, with the address a SET_ADDRESS asks
for. -/
inductive Stage
  | idle
  | read
  | write (address : Option Nat)
  deriving DecidableEq, Repr

/-- The address chapter 9 says the device answers at, and the stage of the control transfer. -/
structure Ch9 where
  address : Nat
  stage : Stage
  deriving DecidableEq, Repr

/-- A SETUP with bit 7 of `bmRequestType` set starts a control read; a SET_ADDRESS
(`bmRequestType` 0, `bRequest` 5) starts a control write that changes the address once its
status stage ends; a reset brings the device back to address 0. -/
def Ch9.step (s : Ch9) : HostEvent → Ch9
  | .reset => ⟨0,.idle⟩
  | .setup p =>
    ⟨s.address,if p.request &&& 0x80 ≠ 0 then .read else .write (if p.request = 0x0500 then some p.value else none)⟩
  | .out => if s.stage = .read then ⟨s.address,.idle⟩ else s
  | .inDone =>
    match s.stage with
    | .write (some a) => ⟨a,.idle⟩
    | .write none => ⟨s.address,.idle⟩
    | _ => s

def Ch9.run (s : Ch9) (events : List HostEvent) : Ch9 := events.foldl Ch9.step s

theorem Ch9.step_setup (s : Ch9) (p : Setup) :
    s.step (.setup p) =
      ⟨s.address,if p.request &&& 0x80 ≠ 0 then .read else .write (if p.request = 0x0500 then some p.value else none)⟩ :=
  rfl

/-- The address a SET_ADDRESS waits to apply, 0 if none does. -/
def Stage.pending : Stage → Nat
  | .write (some a) => a
  | _ => 0

@[simp] theorem Stage.pending_some (a : Nat) : (Stage.write (some a)).pending = a := rfl

@[simp] theorem Stage.pending_none : (Stage.write none).pending = 0 := rfl

@[simp] theorem Stage.pending_idle : Stage.idle.pending = 0 := rfl

@[simp] theorem Stage.pending_read : Stage.read.pending = 0 := rfl

/-- What a host that follows chapter 9 may do next: only the status stage IN while a
SET_ADDRESS waits for it, a zero-length OUT only as the status stage of a control read, and a
SET_ADDRESS only with an address from 1 to 127. -/
def Ch9.Allowed (s : Ch9) : HostEvent → Prop
  | .reset => s.stage.pending = 0
  | .setup p => s.stage.pending = 0 ∧ (p.request = 0x0500 → 0 < p.value ∧ p.value < 128)
  | .out => s.stage = .read
  | .inDone => True

instance (s : Ch9) (e : HostEvent) : Decidable (s.Allowed e) := by
  cases e <;> unfold Ch9.Allowed <;> infer_instance

/-- The host follows chapter 9 through `events`. -/
def Ch9.Proper : Ch9 → List HostEvent → Prop
  | _, [] => True
  | s, e :: events => s.Allowed e ∧ Ch9.Proper (s.step e) events

instance Ch9.decidableProper : (s : Ch9) → (events : List HostEvent) → Decidable (s.Proper events)
  | _, [] => isTrue trivial
  | s, e :: events =>
    have := Ch9.decidableProper (s.step e) events
    inferInstanceAs (Decidable (s.Allowed e ∧ _))

/-- The device's registers agree with chapter 9's state: the low seven bits of `DADDR` are the
address, `set_addr` is the address a SET_ADDRESS waits to apply, one from 1 to 127, and during a
control read `ep0_buf_rx` holds its SETUP. -/
structure Refines (d : Device) (s : Ch9) : Prop where
  address : d.daddr &&& 0x7f = s.address
  pending : d.setAddr = s.stage.pending
  pendingLt : ∀ a, s.stage = .write (some a) → 0 < a ∧ a < 128
  reading : s.stage = .read → d.rxBuf.request &&& 0x80 ≠ 0

theorem or_enable_low_bits {a : Nat} (lt : a < 128) : (a ||| 0x80) &&& 0x7f = a := by
  rw [Nat.or_comm, show (0x80 : Nat) = 2 ^ 7 * 1 from rfl, ← Nat.mul_add_lt_is_or lt,
    show (0x7f : Nat) = 2 ^ 7 - 1 from rfl, Nat.and_pow_two_sub_one_eq_mod, Nat.mul_add_mod, Nat.mod_eq_of_lt lt]

theorem setAddress_not_read : ¬((0x0500 : Nat) &&& 0x80 ≠ 0) := by decide

section Refinement

variable (k : UsbConfig) (ep0 : 0 < k.epCount)
include ep0

theorem step_refines {d : Device} {s : Ch9} (refines : Refines d s) {e : HostEvent} (allowed : s.Allowed e) :
    Refines (d.step k e) (s.step e) := by
  cases e with
  | reset =>
    rw [step_reset]
    refine ⟨by rw [usbReset_daddr]; rfl,(usbReset_setAddr d).trans (refines.pending.trans allowed),?_,?_⟩
    · exact fun _ idle => by cases idle
    · exact fun idle => by cases idle
  | setup p =>
    rw [step_received k d ep0 (.setup p) rfl]
    have setAddr : (ep0Rx k (d.receive (.setup p))).setAddr = if p.request = 0x0500 then p.value &&& 0xff else d.setAddr :=
      ep0Rx_setAddr k _
    refine ⟨by rw [ep0Rx_daddr]; exact refines.address,?_,fun a asked => ?_,fun reading => ?_⟩
    · rw [setAddr, Ch9.step_setup]
      by_cases setAddress : p.request = 0x0500
      · rw [if_pos setAddress, setAddress, if_neg setAddress_not_read, if_pos rfl, Stage.pending_some,
          show (0xff : Nat) = 2 ^ 8 - 1 from rfl, Nat.and_pow_two_sub_one_eq_mod]
        exact Nat.mod_eq_of_lt (Nat.lt_trans (allowed.2 setAddress).2 (by decide))
      · rw [if_neg setAddress, if_neg setAddress, refines.pending, allowed.1]
        split_ifs <;> rfl
    · rw [Ch9.step_setup] at asked
      split_ifs at asked with isRead setAddress <;> cases asked
      exact allowed.2 setAddress
    · rw [Ch9.step_setup] at reading
      split_ifs at reading with isRead
      rw [ep0Rx_rxBuf]
      exact isRead
  | out =>
    have reading : s.stage = .read := allowed
    rw [step_received k d ep0 .out rfl, Device.receive_out]
    have notSet : d.rxBuf.request ≠ 0x0500 := fun set => refines.reading reading (set ▸ by decide)
    have setAddr := ep0Rx_setAddr k d
    rw [if_neg notSet] at setAddr
    rw [show s.step .out = if s.stage = .read then ⟨s.address,.idle⟩ else s from rfl, if_pos reading]
    refine ⟨by rw [ep0Rx_daddr]; exact refines.address,by rw [setAddr, refines.pending, reading]; rfl,?_,?_⟩
    · exact fun _ idle => by cases idle
    · exact fun idle => by cases idle
  | inDone =>
    rw [step_inDone k d ep0]
    have daddr := ep0Tx_daddr d
    rw [refines.pending] at daddr
    obtain ⟨address,stage⟩ := s
    cases stage with
    | write asked =>
      cases asked with
      | some a =>
        obtain ⟨pos,lt⟩ := refines.pendingLt a rfl
        rw [Stage.pending_some, if_pos (Nat.pos_iff_ne_zero.mp pos)] at daddr
        show Refines (ep0Tx d) ⟨a,.idle⟩
        refine ⟨by rw [daddr]; exact or_enable_low_bits lt,ep0Tx_setAddr d,?_,?_⟩
        · exact fun _ idle => by cases idle
        · exact fun idle => by cases idle
      | none =>
        rw [Stage.pending_none, if_neg (not_not.mpr rfl)] at daddr
        show Refines (ep0Tx d) ⟨address,.idle⟩
        refine ⟨by rw [daddr]; exact refines.address,ep0Tx_setAddr d,?_,?_⟩
        · exact fun _ idle => by cases idle
        · exact fun idle => by cases idle
    | idle =>
      rw [Stage.pending_idle, if_neg (not_not.mpr rfl)] at daddr
      show Refines (ep0Tx d) ⟨address,.idle⟩
      exact ⟨by rw [daddr]; exact refines.address,ep0Tx_setAddr d,refines.pendingLt,
        fun reading => by rw [ep0Tx_rxBuf]; exact refines.reading reading⟩
    | read =>
      rw [Stage.pending_read, if_neg (not_not.mpr rfl)] at daddr
      show Refines (ep0Tx d) ⟨address,.read⟩
      exact ⟨by rw [daddr]; exact refines.address,ep0Tx_setAddr d,refines.pendingLt,
        fun reading => by rw [ep0Tx_rxBuf]; exact refines.reading reading⟩

theorem run_refines {d : Device} {s : Ch9} (refines : Refines d s) {events : List HostEvent} (proper : s.Proper events) :
    Refines (d.run k events) (s.run events) := by
  induction events generalizing d s with
  | nil => exact refines
  | cons e events ih => exact ih (step_refines k ep0 refines proper.1) proper.2

/-- For a host that follows chapter 9 from a device at address 0 with no SET_ADDRESS pending,
`STM32_USB_DADDR` holds after every event the address chapter 9 gives the device. -/
theorem daddr_follows_chapter9 (d : Device) (atZero : d.daddr &&& 0x7f = 0) (quiet : d.setAddr = 0)
    (events : List HostEvent) (proper : Ch9.Proper ⟨0,.idle⟩ events) :
    (d.run k events).daddr &&& 0x7f = (Ch9.run ⟨0,.idle⟩ events).address :=
  have fresh : Refines d ⟨0,.idle⟩ := ⟨atZero,quiet,(fun _ idle => nomatch idle),fun idle => nomatch idle⟩
  (run_refines k ep0 fresh proper).address

end Refinement

/-! ### Any host -/

/-- What the address registers can hold when the SETUPs the hardware received are among `sent`
and `DADDR` started at `start`. -/
structure Assigned (sent : Setup → Prop) (start : Nat) (d : Device) : Prop where
  setAddr : d.setAddr = 0 ∨ ∃ p, sent p ∧ p.request = 0x0500 ∧ d.setAddr = p.value &&& 0xff
  rxBuf : sent d.rxBuf
  daddr : d.daddr = start ∨ d.daddr = 0x80 ∨ ∃ p, sent p ∧ p.request = 0x0500 ∧ d.daddr = (p.value &&& 0xff) ||| 0x80

theorem Assigned.mono {sent sent' : Setup → Prop} {start : Nat} {d : Device} (more : ∀ p, sent p → sent' p)
    (assigned : Assigned sent start d) : Assigned sent' start d := by
  obtain ⟨setAddr,rxBuf,daddr⟩ := assigned
  refine ⟨setAddr.imp_right ?_,more _ rxBuf,daddr.imp_right (Or.imp_right ?_)⟩ <;>
    exact fun ⟨p,sentP,request,eq⟩ => ⟨p,more p sentP,request,eq⟩

theorem Assigned.ep0Rx (k : UsbConfig) {sent : Setup → Prop} {start : Nat} {d : Device} (assigned : Assigned sent start d) :
    Assigned sent start (ep0Rx k d) := by
  refine ⟨?_,by rw [ep0Rx_rxBuf]; exact assigned.rxBuf,by rw [ep0Rx_daddr]; exact assigned.daddr⟩
  rw [ep0Rx_setAddr]
  split_ifs with setAddress
  · exact .inr ⟨_,assigned.rxBuf,setAddress,rfl⟩
  · exact assigned.setAddr

section AnyHost

variable (k : UsbConfig) (ep0 : 0 < k.epCount)
include ep0

theorem Assigned.step {sent : Setup → Prop} {start : Nat} {d : Device} (assigned : Assigned sent start d) (e : HostEvent) :
    Assigned (fun p => sent p ∨ e = .setup p) start (d.step k e) := by
  have widened := assigned.mono fun p sentP => Or.inl (b := e = .setup p) sentP
  cases e with
  | reset => exact ⟨widened.setAddr,widened.rxBuf,.inr (.inl rfl)⟩
  | setup p =>
    rw [step_received k d ep0 (.setup p) rfl]
    exact Assigned.ep0Rx k ⟨widened.setAddr,.inr rfl,widened.daddr⟩
  | out =>
    rw [step_received k d ep0 .out rfl, Device.receive_out]
    exact widened.ep0Rx k
  | inDone =>
    rw [step_inDone k d ep0]
    refine ⟨.inl (ep0Tx_setAddr d),by rw [ep0Tx_rxBuf]; exact widened.rxBuf,?_⟩
    rw [ep0Tx_daddr]
    by_cases pending : d.setAddr ≠ 0
    · obtain ⟨p,sentP,request,eq⟩ := widened.setAddr.resolve_left pending
      rw [if_pos pending]
      exact .inr (.inr ⟨p,sentP,request,by rw [eq]⟩)
    · rw [if_neg pending]
      exact widened.daddr

theorem Assigned.run {sent : Setup → Prop} {start : Nat} {d : Device} (assigned : Assigned sent start d)
    (events : List HostEvent) : Assigned (fun p => sent p ∨ .setup p ∈ events) start (d.run k events) := by
  induction events generalizing d sent with
  | nil => exact assigned.mono fun _ => Or.inl
  | cons e events ih =>
    refine (ih (assigned.step k ep0 e)).mono fun p => ?_
    rintro ((sentP | rfl) | later)
    exacts [.inl sentP,.inr (List.mem_cons_self _ _),.inr (List.mem_cons_of_mem _ later)]

/-- Whatever the host does, the device only takes an address the host gave it: `DADDR` keeps
its first value, is `0x80` (address 0, after a reset), or is a SET_ADDRESS's address with the
enable bit. -/
theorem daddr_assigned (d : Device) (quiet : d.setAddr = 0) (events : List HostEvent) :
    (d.run k events).daddr = d.daddr ∨ (d.run k events).daddr = 0x80 ∨
      ∃ p, (p = d.rxBuf ∨ .setup p ∈ events) ∧ p.request = 0x0500 ∧
        (d.run k events).daddr = (p.value &&& 0xff) ||| 0x80 :=
  have fresh : Assigned (· = d.rxBuf) d.daddr d := ⟨.inl quiet,rfl,.inl rfl⟩
  (fresh.run k ep0 events).daddr

/-- A reset does not cancel a SET_ADDRESS whose status stage has not ended: after the reset and a
SETUP other than a SET_ADDRESS, the next IN transaction the host completes on EP0 moves the
device to the old address, where chapter 9 has it at address 0. -/
theorem reset_keeps_pending_address (d : Device) (pending : d.setAddr ≠ 0) (s : Ch9) (p : Setup)
    (other : p.request ≠ 0x0500) :
    (d.run k [.reset,.setup p,.inDone]).daddr = d.setAddr ||| 0x80 ∧
      (s.run [.reset,.setup p,.inDone]).address = 0 := by
  constructor
  · have setAddr : (ep0Rx k ((usbReset d).receive (.setup p))).setAddr = d.setAddr := by
      rw [ep0Rx_setAddr]
      exact if_neg other
    rw [Device.run, List.foldl_cons, List.foldl_cons, List.foldl_cons, List.foldl_nil, step_reset,
      step_received k _ ep0 (.setup p) rfl, step_inDone k _ ep0, ep0Tx_daddr, setAddr]
    exact if_pos pending
  · show ((Ch9.step ⟨0,.idle⟩ (.setup p)).step .inDone).address = 0
    rw [Ch9.step_setup]
    split_ifs <;> rfl

end AnyHost

/-- A board with EP0 only, and a host that resets the bus, reads the device descriptor with its
status stage, and gives the device address 5. -/
def enumeration : List HostEvent :=
  [.reset,.setup ⟨0x0680,0x0100,0,64⟩,.inDone,.out,.setup ⟨0x0500,5,0,0⟩,.inDone]

theorem enumeration_follows_chapter9 :
    0 < (⟨1,1,4,32,fun _ => 10⟩ : UsbConfig).epCount ∧ (0 : Nat) &&& 0x7f = 0 ∧ Ch9.Proper ⟨0,.idle⟩ enumeration ∧
      (Device.run ⟨1,1,4,32,fun _ => 10⟩ ⟨0,0,0,.nak,.valid,⟨0,0,0,0⟩⟩ enumeration).daddr &&& 0x7f =
        (Ch9.run ⟨0,.idle⟩ enumeration).address :=
  ⟨by decide,by decide,by decide,
    daddr_follows_chapter9 ⟨1,1,4,32,fun _ => 10⟩ (by decide) ⟨0,0,0,.nak,.valid,⟨0,0,0,0⟩⟩ (by decide) rfl enumeration
      (by decide)⟩

theorem enumeration_assigned :
    0 < (⟨1,1,4,32,fun _ => 10⟩ : UsbConfig).epCount ∧
      ((Device.run ⟨1,1,4,32,fun _ => 10⟩ ⟨0,0,0,.nak,.valid,⟨0,0,0,0⟩⟩ enumeration).daddr = 0 ∨
        (Device.run ⟨1,1,4,32,fun _ => 10⟩ ⟨0,0,0,.nak,.valid,⟨0,0,0,0⟩⟩ enumeration).daddr = 0x80 ∨
        ∃ p, (p = ⟨0,0,0,0⟩ ∨ .setup p ∈ enumeration) ∧ p.request = 0x0500 ∧
          (Device.run ⟨1,1,4,32,fun _ => 10⟩ ⟨0,0,0,.nak,.valid,⟨0,0,0,0⟩⟩ enumeration).daddr =
            (p.value &&& 0xff) ||| 0x80) :=
  ⟨by decide,daddr_assigned ⟨1,1,4,32,fun _ => 10⟩ (by decide) ⟨0,0,0,.nak,.valid,⟨0,0,0,0⟩⟩ rfl enumeration⟩

/-- SET_ADDRESS 5, then a reset before its status stage, and a GET_DESCRIPTOR at address 0. -/
theorem reset_before_status_stage :
    0 < (⟨1,1,4,32,fun _ => 10⟩ : UsbConfig).epCount ∧ (5 : Nat) ≠ 0 ∧ (0x0680 : Nat) ≠ 0x0500 ∧
      (Device.run ⟨1,1,4,32,fun _ => 10⟩ ⟨0x80,5,0,.valid,.valid,⟨0x0500,5,0,0⟩⟩
          [.reset,.setup ⟨0x0680,0x0100,0,64⟩,.inDone]).daddr = 5 ||| 0x80 ∧
        (Ch9.run ⟨0,.write (some 5)⟩ [.reset,.setup ⟨0x0680,0x0100,0,64⟩,.inDone]).address = 0 :=
  ⟨by decide,by decide,by decide,
    reset_keeps_pending_address ⟨1,1,4,32,fun _ => 10⟩ (by decide) ⟨0x80,5,0,.valid,.valid,⟨0x0500,5,0,0⟩⟩ (by decide)
      ⟨0,.write (some 5)⟩ ⟨0x0680,0x0100,0,64⟩ (by decide)⟩

end ChromeEc.Stm32.Usb
