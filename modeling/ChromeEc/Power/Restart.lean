import ChromeEc.Power.Baytrail

/-! The two requests baytrail.c carries across steps. `restart_from_s5` is set when
PLTRST# stays asserted in S3→S0 and taken by the next S3→S5; `throttle_cpu` is what
S3→S0 drives on PROCHOT, and no call ever writes it. -/
namespace ChromeEc.Power

/-- The states a restart request can be pending in. -/
def restartStates : List PowerState := [.s0, .s0s3, .s3, .s3s0, .s3s5]

/-- A pending restart request waits in S3 or S0 with RSMRST# asserted. -/
def RestartPending (m : Chipset) : Prop :=
  m.vars.restartFromS5 = true → m.state ∈ restartStates ∧ m.outputs.level .pchRsmrstL = false

private theorem restartPending_handle (m : Chipset) (io : Inputs) (holds : RestartPending m) :
    RestartPending (step m (.handleState io)) := by
  unfold RestartPending at *
  intro flag
  cases hs : m.state <;>
    simp only [step_state, step_vars, step_outputs, perform, hs, powerHandleState] at flag holds ⊢ <;>
    (try split_ifs at flag ⊢) <;>
    simp_all [restartStates, chipsetForceShutdown]

theorem restartPending_step (m : Chipset) (a : Action) (holds : RestartPending m) :
    RestartPending (step m a) := by
  cases a with
  | handleState io => exact restartPending_handle m io holds
  | exitHardOff =>
    intro flag
    have pending := holds flag
    have notG3 : m.state ≠ .g3 := fun g3 => by simp [g3, restartStates] at pending
    simpa [perform, chipsetExitHardOff, notG3] using pending
  | forceShutdown =>
    intro flag
    simpa [perform, chipsetForceShutdown] using (holds flag).1
  | reset coldReset =>
    intro flag
    have pending := holds flag
    simp only [step_state, step_outputs, perform, chipsetReset]
    split_ifs <;> simpa using pending
  | throttleCpu throttle =>
    intro flag
    have pending := holds flag
    simp only [step_state, step_outputs, perform, chipsetThrottleCpu]
    split_ifs <;> simpa using pending
  | setPauseInS5 pause => exact holds
  | powerfail => exact holds

/-- An S3→S0 step whose rails come up and whose wait for PLTRST# runs out its 50 polls, or is
made to by `powerfail`. -/
def PltrstTimeout (m : Chipset) : Action → Prop
  | .handleState io => m.state = .s3s0 ∧ io.waitTimeout 0 = false ∧
      (50 ≤ pltrstPoll io.pltrstAsserted 0 50 ∨ m.vars.fakePltrstTimeout = true)
  | _ => False

theorem PltrstTimeout.sets {m : Chipset} {a : Action} (timeout : PltrstTimeout m a) :
    (step m a).state = .s0 ∧ (step m a).vars.restartFromS5 = true := by
  cases a with
  | handleState io =>
    obtain ⟨s3s0, rails, late⟩ := timeout
    have missed : ¬ (pltrstPoll io.pltrstAsserted 0 50 < 50 ∧ m.vars.fakePltrstTimeout = false) := by
      rcases late with late | fake
      · exact fun ⟨early, _⟩ => absurd early (Nat.not_lt.mpr late)
      · simp [fake]
    simp [perform, powerHandleState, s3s0, rails, missed]
  | _ => exact timeout.elim

theorem restartFromS5_set {m : Chipset} {a : Action} (unset : m.vars.restartFromS5 = false)
    (set : (step m a).vars.restartFromS5 = true) : PltrstTimeout m a := by
  cases a with
  | handleState io =>
    cases hs : m.state <;> simp only [step_vars, perform, hs, powerHandleState] at set <;>
      (try split_ifs at set) <;> simp_all [PltrstTimeout, or_iff_not_imp_left]
  | _ => simp_all [perform]

theorem restartFromS5_cleared {m : Chipset} {a : Action} (pending : m.vars.restartFromS5 = true)
    (cleared : (step m a).vars.restartFromS5 = false) :
    m.state = .s3s5 ∧ ∃ io, a = .handleState io := by
  cases a with
  | handleState io =>
    refine ⟨?_, io, rfl⟩
    cases hs : m.state <;> simp only [step_vars, perform, hs, powerHandleState] at cleared <;>
      (try split_ifs at cleared) <;> simp_all
  | _ => simp_all [perform]

/-- The restart request is never lost or misapplied. The PLTRST# timeout of an S3→S0 step sets
it, and nothing else does; while it is pending the state is S0, S3 or between them, with
RSMRST# asserted; and only an S3→S5 step takes it, which clears it and restarts from G3→S5,
whatever `pause_in_s5` is. So S5, S5→G3 and G3 are never reached, and G3→S5 never entered,
with the request pending. -/
theorem restart_from_s5_pending {m : Chipset} (reached : Reachable m) :
    (∀ a, PltrstTimeout m a → (step m a).state = .s0 ∧ (step m a).vars.restartFromS5 = true) ∧
    (∀ a, m.vars.restartFromS5 = false → (step m a).vars.restartFromS5 = true →
      PltrstTimeout m a) ∧
    (m.vars.restartFromS5 = true →
      m.state ∈ [.s0, .s0s3, .s3, .s3s0, .s3s5] ∧ m.outputs.level .pchRsmrstL = false) ∧
    (∀ a, m.vars.restartFromS5 = true → (step m a).vars.restartFromS5 = false →
      m.state = .s3s5 ∧ ∃ io, a = .handleState io) ∧
    ∀ io, m.vars.restartFromS5 = true → m.state = .s3s5 →
      (step m (.handleState io)).state = .g3s5 ∧
        (step m (.handleState io)).vars.restartFromS5 = false := by
  refine ⟨fun a => PltrstTimeout.sets, fun a => restartFromS5_set,
    @Reachable.induction RestartPending ?_ restartPending_step m reached,
    fun a => restartFromS5_cleared, ?_⟩
  · intro usb jumped signals found flag
    simp [boot, Vars.initial] at flag
  · intro io flag s3s5
    simp [perform, s3s5, powerHandleState, flag]

/-- From a cold boot up to S3→S0, a resume whose PLTRST# stays asserted, then down through
S0→S3 and S3 to S3→S5 with the restart request pending. -/
def restartRun : List Action :=
  [.exitHardOff, .handleState Inputs.settled, .handleState { Inputs.settled with slpS4L := true },
    .handleState Inputs.settled, .handleState { Inputs.settled with slpS3L := true, slpS4L := true },
    .handleState { Inputs.settled with slpS3L := true, slpS4L := true, pltrstAsserted := fun _ => true },
    .handleState Inputs.settled, .handleState Inputs.settled, .handleState Inputs.settled]

theorem restart_taken_from_s3s5 :
    Reachable (run (boot false false (fun _ => true) Outputs.allLow) restartRun) ∧
    (run (boot false false (fun _ => true) Outputs.allLow) restartRun).vars.restartFromS5 = true ∧
    (run (boot false false (fun _ => true) Outputs.allLow) restartRun).state = .s3s5 ∧
    (step (run (boot false false (fun _ => true) Outputs.allLow) restartRun)
      (.handleState Inputs.settled)).state = .g3s5 :=
  have reached : Reachable (run (boot false false (fun _ => true) Outputs.allLow) restartRun) :=
    ⟨false,false,fun _ => true,Outputs.allLow,restartRun,rfl⟩
  have pending : (run (boot false false (fun _ => true) Outputs.allLow) restartRun).vars.restartFromS5
      = true := by decide
  have s3s5 : (run (boot false false (fun _ => true) Outputs.allLow) restartRun).state = .s3s5 := by
    decide
  ⟨reached, pending, s3s5,
    ((restart_from_s5_pending reached).2.2.2.2 Inputs.settled pending s3s5).1⟩

theorem throttle_cpu_stays_zero {m : Chipset} (reached : Reachable m) : m.vars.throttleCpu = 0 := by
  refine @Reachable.induction (fun m => m.vars.throttleCpu = 0) ?_ ?_ m reached
  · intro usb jumped signals found
    rfl
  · intro m a unset
    cases a with
    | handleState io =>
      cases hs : m.state <;> simp only [step_vars, perform, hs, powerHandleState] <;>
        (try split_ifs) <;> exact unset
    | _ => exact unset

theorem resume_leaves_prochot_low {m : Chipset} (reached : Reachable m) (io : Inputs)
    (resuming : m.state = .s3s0) (reachesS0 : (step m (.handleState io)).state = .s0) :
    (step m (.handleState io)).outputs.level .cpuProchot = false := by
  have unset := throttle_cpu_stays_zero reached
  simp only [step_state, step_outputs, perform, resuming, powerHandleState] at reachesS0 ⊢
  split_ifs at reachesS0 ⊢ <;> simp_all [chipsetForceShutdown]

/-- From a cold boot to S3→S0, with a throttle request made in S3 as the last one. -/
def throttledResume : List Action :=
  [.exitHardOff, .handleState Inputs.settled, .handleState { Inputs.settled with slpS4L := true },
    .handleState Inputs.settled, .throttleCpu 1,
    .handleState { Inputs.settled with slpS3L := true, slpS4L := true }]

/-- The request `chipset_throttle_cpu(1)` made in S3 is gone when S3→S0 reaches S0. -/
theorem resume_drops_throttle_request :
    (run (boot false false (fun _ => true) Outputs.allLow) throttledResume).state = .s3s0 ∧
    (step (run (boot false false (fun _ => true) Outputs.allLow) throttledResume)
      (.handleState Inputs.settled)).state = .s0 ∧
    (step (run (boot false false (fun _ => true) Outputs.allLow) throttledResume)
      (.handleState Inputs.settled)).outputs.level .cpuProchot = false :=
  have resuming : (run (boot false false (fun _ => true) Outputs.allLow) throttledResume).state =
      .s3s0 := by decide
  have reachesS0 : (step (run (boot false false (fun _ => true) Outputs.allLow) throttledResume)
      (.handleState Inputs.settled)).state = .s0 := by decide
  ⟨resuming, reachesS0, resume_leaves_prochot_low
    ⟨false, false, fun _ => true, Outputs.allLow, throttledResume, rfl⟩ _ resuming reachesS0⟩

end ChromeEc.Power
