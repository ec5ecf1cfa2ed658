import ChromeEc.Power.Restart
import Mathlib.Data.List.Infix

/-! Faults only move the machine toward off. A fault is a missing rail in S3 or S0 or a
timed-out wait in G3→S5, S5→S3 or S3→S0; the step then forces a shutdown, turns nothing
on after the failed check and returns a lower state. A forced shutdown holds RSMRST# low
until the next G3→S5, so a PCH held in reset cannot ask for S5→S3 or S3→S0 before then. -/
namespace ChromeEc.Power

/-- How far on a state is: G3 < {G3S5, S5G3} < S5 < {S5S3, S3S5} < S3 < {S3S0, S0S3} < S0. -/
def PowerState.rank : PowerState → Nat
  | .g3 => 0
  | .g3s5 | .s5g3 => 1
  | .s5 => 2
  | .s5s3 | .s3s5 => 3
  | .s3 => 4
  | .s3s0 | .s0s3 => 5
  | .s0 => 6

/-- The faults `power_handle_state` reacts to: required rails missing in S3 or S0, or a
`power_wait_signals` timeout in G3→S5, S5→S3 or S3→S0. -/
def faultDetected (io : Inputs) : PowerState → Bool
  | .s3 => !powerHasSignals io.signals inPgoodS3
  | .s0 => !powerHasSignals io.signals inPgoodS0
  | .g3s5 | .s3s0 => io.waitTimeout 0
  | .s5s3 => io.waitTimeout 0 || io.waitTimeout 1
  | _ => false

/-- The effects after the first failed Signal Source check, if there is one. -/
def afterFailure : List Effect → Option (List Effect)
  | [] => none
  | e :: effects => if e.failedCheck then some effects else afterFailure effects

@[simp] theorem afterFailure_append_of_passed (first second : List Effect)
    (passed : ∀ e ∈ first, e.failedCheck = false) :
    afterFailure (first ++ second) = afterFailure second := by
  induction first with
  | nil => rfl
  | cons e first ih =>
    simp only [List.mem_cons, forall_eq_or_imp] at passed
    simp [afterFailure, passed.1, ih passed.2]

/-- What a fault step does: it finds the fault, forces a shutdown after it, turns nothing on
after it, fires neither STARTUP nor RESUME, and returns a lower state. -/
def MovesTowardOff (s : PowerState) (t : Transition) : Prop :=
  ∃ post, afterFailure t.effects = some post ∧ chipsetForceShutdown <:+: post ∧
    (∀ e ∈ post, e.enables = false) ∧
    (∀ e ∈ t.effects, e ≠ .hookNotify .chipsetStartup ∧ e ≠ .hookNotify .chipsetResume) ∧
    t.next.rank < s.rank

theorem fault_moves_toward_off (usb : Bool) (io : Inputs) (v : Vars) (s : PowerState)
    (fault : faultDetected io s = true) :
    MovesTowardOff s (powerHandleState usb io v s) := by
  cases s <;> simp only [faultDetected, Bool.not_eq_true', Bool.or_eq_true, Bool.false_eq_true] at fault
  case' s5s3 => by_cases first : io.waitTimeout 0 = true
  all_goals simp_all [powerHandleState, MovesTowardOff, afterFailure, Effect.failedCheck,
    Effect.enables, PowerState.rank, chipsetForceShutdown]
  all_goals decide

/-- The PCH reads both sleep lines asserted (low) while the EC holds RSMRST# low. -/
def PchHeldInReset (m : Chipset) : Action → Prop
  | .handleState io =>
    m.outputs.level .pchRsmrstL = false → io.slpS3L = false ∧ io.slpS4L = false
  | _ => True

/-- No step returns S5→S3 or S3→S0 before a step is taken from G3→S5. -/
def StaysDown : Chipset → List Action → Prop
  | _, [] => True
  | m, .handleState io :: actions =>
    m.state = .g3s5 ∨
      ((step m (.handleState io)).state ≠ .s5s3 ∧ (step m (.handleState io)).state ≠ .s3s0 ∧
        StaysDown (step m (.handleState io)) actions)
  | m, a :: actions => StaysDown (step m a) actions

private theorem held_low_handle (m : Chipset) (io : Inputs)
    (low : m.outputs.level .pchRsmrstL = false) (held : PchHeldInReset m (.handleState io))
    (notFresh : m.state ≠ .g3s5) :
    (step m (.handleState io)).outputs.level .pchRsmrstL = false ∧
      (step m (.handleState io)).state ≠ .s5s3 ∧ (step m (.handleState io)).state ≠ .s3s0 := by
  obtain ⟨s3,s4⟩ := held low
  cases hs : m.state <;> simp only [step_state, step_outputs, perform, hs, powerHandleState]
    at notFresh ⊢ <;> (try split_ifs) <;> simp_all [chipsetForceShutdown]

private theorem external_keeps_rsmrst_low (m : Chipset) (a : Action)
    (low : m.outputs.level .pchRsmrstL = false) (external : ∀ io, a ≠ .handleState io) :
    (step m a).outputs.level .pchRsmrstL = false := by
  cases a with
  | handleState io => exact absurd rfl (external io)
  | reset coldReset =>
    simp only [step_outputs, perform, chipsetReset]
    split_ifs <;> simp_all
  | throttleCpu throttle =>
    simp only [step_outputs, perform, chipsetThrottleCpu]
    split_ifs <;> simp_all
  | _ => simp_all [perform, chipsetForceShutdown]

theorem staysDown_of_rsmrst_low (m : Chipset) (actions : List Action)
    (low : m.outputs.level .pchRsmrstL = false) (held : Always PchHeldInReset m actions) :
    StaysDown m actions := by
  induction actions generalizing m with
  | nil => trivial
  | cons a actions ih =>
    cases a with
    | handleState io =>
      by_cases fresh : m.state = .g3s5
      · exact .inl fresh
      · obtain ⟨next,notS5s3,notS3s0⟩ := held_low_handle m io low held.1 fresh
        exact .inr ⟨notS5s3,notS3s0,ih _ next held.2⟩
    | _ => exact ih _ (external_keeps_rsmrst_low m _ low (fun _ taken => nomatch taken)) held.2

theorem forceShutdown_leaves_rsmrst_low (m : Chipset) (a : Action)
    (ran : chipsetForceShutdown <:+: (perform m a).effects) :
    (step m a).outputs.level .pchRsmrstL = false := by
  have written : Effect.gpioSetLevel .pchRsmrstL false ∈ (perform m a).effects :=
    ran.subset (by simp [chipsetForceShutdown])
  cases a with
  | handleState io =>
    cases hs : m.state <;> simp only [step_outputs, perform, hs, powerHandleState] at written ⊢ <;>
      (try split_ifs at written ⊢) <;> simp_all [chipsetForceShutdown]
  | reset coldReset =>
    simp only [perform, chipsetReset] at written
    split_ifs at written <;> simp at written
  | throttleCpu throttle =>
    simp only [perform, chipsetThrottleCpu] at written
    split_ifs at written <;> simp at written
  | _ => simp_all [perform, chipsetForceShutdown]

/-- Faults only move toward off, and a forced shutdown sticks: (a) a step that detects a
fault forces a shutdown, turns nothing on after the failed check, fires neither STARTUP nor
RESUME and returns a lower state; (b) while the PCH reads its sleep lines low under RSMRST#,
once `chipset_force_shutdown` has run no step returns S5→S3 or S3→S0 before a step from
G3→S5. -/
theorem faults_only_move_toward_off :
    (∀ usb io v s, faultDetected io s = true → MovesTowardOff s (powerHandleState usb io v s)) ∧
    ∀ m a actions, chipsetForceShutdown <:+: (perform m a).effects →
      Always PchHeldInReset (step m a) actions → StaysDown (step m a) actions :=
  ⟨fault_moves_toward_off,fun m a actions ran held =>
    staysDown_of_rsmrst_low _ actions (forceShutdown_leaves_rsmrst_low m a ran) held⟩

/-- A resume from a cold boot whose rails never come up: the wait in S3→S0 times out, the
step shuts down to S3, and the PCH, held in reset, then keeps the machine down through S3→S5
and S5, whatever is called in between. -/
theorem resume_timeout_stays_down :
    Reachable (run (boot false false (fun _ => true) Outputs.allLow) throttledResume) ∧
    faultDetected { Inputs.settled with waitTimeout := fun _ => true }
      (run (boot false false (fun _ => true) Outputs.allLow) throttledResume).state = true ∧
    MovesTowardOff (run (boot false false (fun _ => true) Outputs.allLow) throttledResume).state
      (powerHandleState false { Inputs.settled with waitTimeout := fun _ => true }
        (run (boot false false (fun _ => true) Outputs.allLow) throttledResume).vars
        (run (boot false false (fun _ => true) Outputs.allLow) throttledResume).state) ∧
    StaysDown (step (run (boot false false (fun _ => true) Outputs.allLow) throttledResume)
        (.handleState { Inputs.settled with waitTimeout := fun _ => true }))
      [.reset true, .handleState Inputs.settled, .throttleCpu 1, .handleState Inputs.settled,
        .handleState Inputs.settled] :=
  have fault : faultDetected { Inputs.settled with waitTimeout := fun _ => true }
      (run (boot false false (fun _ => true) Outputs.allLow) throttledResume).state = true := by
    decide
  have ran : chipsetForceShutdown <:+: (perform (run (boot false false (fun _ => true)
      Outputs.allLow) throttledResume) (.handleState { Inputs.settled with
        waitTimeout := fun _ => true })).effects := by decide
  ⟨⟨false, false, fun _ => true, Outputs.allLow, throttledResume, rfl⟩, fault,
    faults_only_move_toward_off.1 false _ _ _ fault,
    faults_only_move_toward_off.2 _ _ _ ran
      ⟨trivial, fun _ => ⟨rfl, rfl⟩, trivial, fun _ => ⟨rfl, rfl⟩, fun _ => ⟨rfl, rfl⟩, trivial⟩⟩

end ChromeEc.Power
