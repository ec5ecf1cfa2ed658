import ChromeEc.Power.Restart
import Mathlib.Data.List.Basic

/-! The chipset hooks are well bracketed. STARTUP and RESUME open a bracket, SUSPEND and
SHUTDOWN close one; a counter that accepts exactly the prefixes of
(STARTUP (RESUME SUSPEND)* SHUTDOWN)* runs in step with the state machine, its count fixed
by the state at every step boundary. -/
namespace ChromeEc.Power

/-- The brackets open in each state. -/
def openBrackets : PowerState → Nat
  | .g3 | .g3s5 | .s5 | .s5s3 | .s5g3 => 0
  | .s3 | .s3s0 | .s3s5 => 1
  | .s0 | .s0s3 => 2

/-- The counter: which hook may come with `n` brackets open, and how many are open after. -/
def bracket : Nat → HookType → Option Nat
  | 0, .chipsetStartup => some 1
  | 1, .chipsetResume => some 2
  | 2, .chipsetSuspend => some 1
  | 1, .chipsetShutdown => some 0
  | _, _ => none

def bracketRun (n : Nat) (hooks : List HookType) : Option Nat := hooks.foldlM bracket n

def hooksOf (effects : List Effect) : List HookType :=
  effects.filterMap fun
    | .hookNotify type => some type
    | _ => none

/-- STARTUP (RESUME SUSPEND)^k SHUTDOWN. -/
def powerCycle (k : Nat) : List HookType :=
  .chipsetStartup :: (List.replicate k [.chipsetResume, .chipsetSuspend]).flatten ++
    [.chipsetShutdown]

/-- (STARTUP (RESUME SUSPEND)* SHUTDOWN)*. -/
def Cycles (hooks : List HookType) : Prop := ∃ ks : List Nat, hooks = (ks.map powerCycle).flatten

/-- What a cycle has seen with `n` brackets open after k RESUME SUSPEND pairs. -/
def partialCycle : Nat → Nat → List HookType
  | 1, k => .chipsetStartup :: (List.replicate k [.chipsetResume, .chipsetSuspend]).flatten
  | 2, k => .chipsetStartup :: (List.replicate k [.chipsetResume, .chipsetSuspend]).flatten ++
      [.chipsetResume]
  | _, _ => []

/-- What closes the brackets still open. -/
def closing : Nat → List HookType
  | 1 => [.chipsetShutdown]
  | 2 => [.chipsetSuspend, .chipsetShutdown]
  | _ => []

@[simp] theorem bracketRun_nil (n : Nat) : bracketRun n [] = some n := rfl

theorem bracketRun_append (n : Nat) (first second : List HookType) :
    bracketRun n (first ++ second) = (bracketRun n first).bind fun m => bracketRun m second := by
  simp [bracketRun, List.foldlM_append]

theorem bracket_le {n m : Nat} {hook : HookType} (counted : bracket n hook = some m) : m ≤ 2 := by
  rcases n with _ | _ | _ | n <;> cases hook <;> simp [bracket] at counted <;> omega

private theorem replicate_pairs_succ (k : Nat) :
    (List.replicate (k + 1) [HookType.chipsetResume, .chipsetSuspend]).flatten =
      (List.replicate k [HookType.chipsetResume, .chipsetSuspend]).flatten ++
        [.chipsetResume, .chipsetSuspend] := by
  rw [List.replicate_succ', List.flatten_append]
  simp

theorem bracketRun_shape (hooks : List HookType) (n : Nat) (counted : bracketRun 0 hooks = some n) :
    n ≤ 2 ∧ ∃ (ks : List Nat) (k : Nat), hooks = (ks.map powerCycle).flatten ++ partialCycle n k := by
  induction hooks using List.reverseRecOn generalizing n with
  | nil =>
    cases counted
    exact ⟨by omega,[],0,rfl⟩
  | append_singleton hooks hook ih =>
    rw [bracketRun_append] at counted
    obtain ⟨m,before,step⟩ := Option.bind_eq_some.mp counted
    simp only [bracketRun, List.foldlM_cons, List.foldlM_nil] at step
    obtain ⟨bound,ks,k,rfl⟩ := ih m before
    have stepped : bracket m hook = some n := by simpa using step
    refine ⟨bracket_le stepped,?_⟩
    rcases m with _ | _ | _ | m <;> cases hook <;> simp [bracket] at stepped <;> subst stepped
    · exact ⟨ks,0,by simp [partialCycle]⟩
    · exact ⟨ks,k,by simp [partialCycle]⟩
    · exact ⟨ks ++ [k],0,by simp [partialCycle, powerCycle]⟩
    · exact ⟨ks,k + 1,by simp [partialCycle, replicate_pairs_succ]⟩

theorem cycles_of_bracketRun (hooks : List HookType) (n : Nat)
    (counted : bracketRun 0 hooks = some n) : Cycles (hooks ++ closing n) := by
  obtain ⟨bound,ks,k,rfl⟩ := bracketRun_shape hooks n counted
  rcases n with _ | _ | _ | n
  · exact ⟨ks,by simp [partialCycle, closing]⟩
  · exact ⟨ks ++ [k],by simp [partialCycle, closing, powerCycle]⟩
  · exact ⟨ks ++ [k + 1],by simp [partialCycle, closing, powerCycle, replicate_pairs_succ]⟩
  · omega

@[simp] theorem hooksOf_append (first second : List Effect) :
    hooksOf (first ++ second) = hooksOf first ++ hooksOf second := List.filterMap_append _ _ _

theorem bracketRun_step (m : Chipset) (a : Action) :
    bracketRun (openBrackets m.state) (hooksOf (perform m a).effects) =
      some (openBrackets (step m a).state) := by
  cases a with
  | handleState io =>
    cases hs : m.state <;> simp only [step_state, perform, hs, powerHandleState] <;>
      (try split_ifs) <;> simp [hooksOf, bracketRun, bracket, openBrackets, chipsetForceShutdown]
  | exitHardOff =>
    cases hs : m.state <;> simp [perform, chipsetExitHardOff, hooksOf, hs, openBrackets]
  | reset coldReset =>
    simp only [step_state, perform, chipsetReset]
    split_ifs <;> simp [hooksOf]
  | throttleCpu throttle =>
    simp only [step_state, perform, chipsetThrottleCpu]
    split_ifs <;> simp [hooksOf]
  | _ => simp [perform, hooksOf, chipsetForceShutdown]

theorem bracketRun_run (m : Chipset) (actions : List Action) :
    bracketRun (openBrackets m.state) (hooksOf (trace m actions)) =
      some (openBrackets (run m actions).state) := by
  induction actions generalizing m with
  | nil => rfl
  | cons a actions ih =>
    rw [trace_cons, hooksOf_append, bracketRun_append, bracketRun_step, Option.some_bind, run_cons, ih]

/-- The hooks a run counts as seen when the chipset task starts: STARTUP RESUME when
`power_chipset_init` took its already-on shortcut to S0. -/
def bootHooks (state : PowerState) : List HookType :=
  if state = .s0 then [.chipsetStartup, .chipsetResume] else []

theorem bracketRun_boot (usb jumped : Bool) (signals : PowerSignal → Bool) (found : Outputs) :
    bracketRun 0 (bootHooks (boot usb jumped signals found).state) =
      some (openBrackets (boot usb jumped signals found).state) := by
  simp only [boot, powerChipsetInit]
  split_ifs <;> rfl

/-- The hooks of every run, counted from the boot, form a prefix of
(STARTUP (RESUME SUSPEND)* SHUTDOWN)*, and at every step boundary the count of open brackets
is the one the state fixes: none in G3, G3→S5, S5, S5→S3 and S5→G3, one in S3, S3→S0 and
S3→S5, two in S0 and S0→S3. -/
theorem hooks_well_bracketed (usb jumped : Bool) (signals : PowerSignal → Bool) (found : Outputs)
    (actions : List Action) :
    bracketRun 0 (bootHooks (boot usb jumped signals found).state ++
        hooksOf (trace (boot usb jumped signals found) actions)) =
      some (openBrackets (run (boot usb jumped signals found) actions).state) ∧
    ∃ rest, Cycles (bootHooks (boot usb jumped signals found).state ++
      hooksOf (trace (boot usb jumped signals found) actions) ++ rest) := by
  have counted : bracketRun 0 (bootHooks (boot usb jumped signals found).state ++
      hooksOf (trace (boot usb jumped signals found) actions)) =
      some (openBrackets (run (boot usb jumped signals found) actions).state) := by
    rw [bracketRun_append, bracketRun_boot, Option.some_bind, bracketRun_run]
  exact ⟨counted,_,cycles_of_bracketRun _ _ counted⟩

end ChromeEc.Power
