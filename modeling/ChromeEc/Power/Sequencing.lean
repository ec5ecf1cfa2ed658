import ChromeEc.Power.Restart

/-! Power sequencing: a rail never goes up without the rails it is fed from, and PWROK and
RSMRST# are never released ahead of the rails they vouch for. The order is a graph on the
outputs (`upstream`); a write is safe when it raises an output whose upstream is up, or
lowers one whose dependents are down, and every write of a run is checked one at a time. -/
namespace ChromeEc.Power

/-- The outputs that must be high before `g` may be. -/
def upstream : Gpio → List Gpio
  | .pchSysPwrok | .pchCorePwrok => [.vcoreEn]
  | .vcoreEn | .cpuProchot => [.pp5000En, .pp3300DxEn]
  | .pp5000En | .pp3300DxEn => [.pp1350En]
  | .pp1350En | .pchRsmrstL => [.suspVrEn]
  | _ => []

/-- The outputs that must be low before `g` may go low. -/
def dependents : Gpio → List Gpio
  | .vcoreEn => [.pchSysPwrok, .pchCorePwrok]
  | .pp5000En | .pp3300DxEn => [.vcoreEn, .cpuProchot]
  | .pp1350En => [.pp5000En, .pp3300DxEn]
  | .suspVrEn => [.pp1350En, .pchRsmrstL]
  | _ => []

theorem mem_dependents (g d : Gpio) : d ∈ dependents g ↔ g ∈ upstream d := by
  cases g <;> cases d <;> decide

/-- Every high output has its upstream high. -/
def RailsOk (o : Outputs) : Prop := ∀ g, o.level g = true → ∀ u ∈ upstream g, o.level u = true

theorem railsOk_iff (o : Outputs) : RailsOk o ↔
    ((o.level .pchSysPwrok = true ∨ o.level .pchCorePwrok = true) → o.level .vcoreEn = true) ∧
    ((o.level .vcoreEn = true ∨ o.level .cpuProchot = true) →
      o.level .pp5000En = true ∧ o.level .pp3300DxEn = true) ∧
    ((o.level .pp5000En = true ∨ o.level .pp3300DxEn = true) → o.level .pp1350En = true) ∧
    ((o.level .pp1350En = true ∨ o.level .pchRsmrstL = true) → o.level .suspVrEn = true) := by
  constructor
  · intro ok
    refine ⟨?_,?_,?_,?_⟩ <;> rintro (high | high) <;>
      simp_all [ok _ high, upstream]
  · rintro ⟨pwrok,vcore,main,ram⟩ g high u member
    cases g <;> simp only [upstream, List.mem_cons, List.mem_singleton, List.not_mem_nil,
      or_false] at member <;> (try rcases member with rfl | rfl) <;>
      simp_all

theorem RailsOk.low_of_upstream {o : Outputs} (ok : RailsOk o) {u g : Gpio}
    (low : o.level u = false) (member : u ∈ upstream g) : o.level g = false := by
  cases high : o.level g
  · rfl
  · rw [ok g high u member] at low; cases low

/-- A write that keeps `RailsOk`: raising an output whose upstream is high, or lowering one
whose dependents are low. Other effects touch no level. -/
def writeSafe (o : Outputs) : Effect → Bool
  | .gpioSetLevel g value =>
    if value then (upstream g).all o.level else (dependents g).all fun d => !o.level d
  | _ => true

theorem RailsOk.perform {o : Outputs} (ok : RailsOk o) (e : Effect) (safe : writeSafe o e = true) :
    RailsOk (o.perform e) := by
  cases e with
  | gpioSetLevel g value =>
    intro g' high u member
    simp only [Outputs.perform_level] at high ⊢
    cases value with
    | true =>
      simp only [writeSafe, if_true, List.all_eq_true] at safe
      by_cases upHigh : u = g
      · simp [upHigh]
      · by_cases written : g' = g
        · subst written; simpa [upHigh] using safe u member
        · simpa [upHigh] using ok g' (by simpa [written] using high) u member
    | false =>
      simp only [writeSafe, Bool.false_eq_true, if_false, List.all_eq_true,
        Bool.not_eq_true'] at safe
      have written : g' ≠ g := by rintro rfl; simp at high
      simp only [written, if_false] at high
      by_cases upLow : u = g
      · subst upLow
        have low := safe g' ((mem_dependents _ _).mpr member)
        rw [low] at high; cases high
      · simpa [upLow] using ok g' high u member
  | wirelessSetState state => exact ok
  | _ => exact ok

/-- `P` holds after each effect of the list, performed in order from `o`. -/
def AfterEach (P : Outputs → Prop) : Outputs → List Effect → Prop
  | _, [] => True
  | o, e :: effects => P (o.perform e) ∧ AfterEach P (o.perform e) effects

theorem afterEach_append (P : Outputs → Prop) (o : Outputs) (first second : List Effect) :
    AfterEach P o (first ++ second) ↔ AfterEach P o first ∧ AfterEach P (o.apply first) second := by
  induction first generalizing o with
  | nil => simp [AfterEach]
  | cons e first ih => simp [AfterEach, ih, and_assoc]

theorem AfterEach.last {P : Outputs → Prop} {o : Outputs} {effects : List Effect}
    (each : AfterEach P o effects) (nonempty : effects ≠ []) : P (o.apply effects) := by
  induction effects generalizing o with
  | nil => exact absurd rfl nonempty
  | cons e effects ih =>
    obtain ⟨now, later⟩ := each
    cases effects with
    | nil => exact now
    | cons e' rest => exact ih later (List.cons_ne_nil _ _)

theorem run_outputs (m : Chipset) (actions : List Action) :
    (run m actions).outputs = m.outputs.apply (trace m actions) := by
  induction actions generalizing m with
  | nil => rfl
  | cons a actions ih => simp [ih]

/-- Every write of the list is safe where it happens. -/
def allSafe : Outputs → List Effect → Bool
  | _, [] => true
  | o, e :: effects => writeSafe o e && allSafe (o.perform e) effects

theorem RailsOk.afterEach {o : Outputs} {effects : List Effect} (ok : RailsOk o)
    (safe : allSafe o effects = true) :
    AfterEach RailsOk o effects ∧ RailsOk (o.apply effects) := by
  induction effects generalizing o with
  | nil => exact ⟨trivial,ok⟩
  | cons e effects ih =>
    simp only [allSafe, Bool.and_eq_true] at safe
    have next := ok.perform e safe.1
    exact ⟨⟨next,(ih next safe.2).1⟩,(ih next safe.2).2⟩

def allLow (o : Outputs) (gs : List Gpio) : Bool := gs.all fun g => !o.level g
def allHigh (o : Outputs) (gs : List Gpio) : Bool := gs.all o.level

/-- Everything fed from the RAM rail, and what is fed from the 5 V rail. -/
def aboveRam : List Gpio :=
  [.pp5000En, .pp3300DxEn, .vcoreEn, .cpuProchot, .pchSysPwrok, .pchCorePwrok]
def aboveMain : List Gpio := [.pp3300DxEn, .vcoreEn, .cpuProchot, .pchSysPwrok, .pchCorePwrok]

/-- The rails each state holds up or down, as far as the writes that can follow need. -/
def railShape (o : Outputs) : PowerState → Bool
  | .g3 | .g3s5 => allLow o (.pp1350En :: .pchRsmrstL :: aboveRam)
  | .s5 | .s5s3 => allHigh o [.suspVrEn] && allLow o (.pp1350En :: aboveRam)
  | .s5g3 => allLow o (.pp1350En :: aboveRam)
  | .s3 | .s3s0 | .s3s5 => allHigh o [.suspVrEn, .pp1350En] && allLow o aboveMain
  | .s0 | .s0s3 => allHigh o [.suspVrEn, .pp1350En, .pp5000En, .pp3300DxEn]

/-- The S5→S3 step whose RAM-rail wait times out after PP1350_EN went up. -/
def RamRailTimeout (m : Chipset) : Action → Prop
  | .handleState io => m.state = .s5s3 ∧ io.waitTimeout 0 = false ∧ io.waitTimeout 1 = true
  | _ => False

/-- The invariant of sequenced runs. -/
structure Sequenced (m : Chipset) : Prop where
  rails : RailsOk m.outputs
  shape : railShape m.outputs m.state = true
  restart : RestartPending m

private theorem handle_safe (m : Chipset) (io : Inputs) (shape : railShape m.outputs m.state = true)
    (restart : m.vars.restartFromS5 = true → m.outputs.level .pchRsmrstL = false)
    (ram : ¬ RamRailTimeout m (.handleState io)) :
    allSafe m.outputs (perform m (.handleState io)).effects = true ∧
      railShape (step m (.handleState io)).outputs (step m (.handleState io)).state = true := by
  cases hs : m.state <;>
    simp only [RamRailTimeout, step_state, step_outputs, perform, hs, powerHandleState]
      at ram shape ⊢ <;>
    (try split_ifs) <;>
    simp_all [allSafe, writeSafe, railShape, allLow, allHigh, aboveRam, aboveMain, upstream,
      dependents, chipsetForceShutdown]

private theorem reset_safe (m : Chipset) (coldReset : Bool) (rails : RailsOk m.outputs)
    (shape : railShape m.outputs m.state = true) :
    allSafe m.outputs (perform m (.reset coldReset)).effects = true ∧
      railShape (step m (.reset coldReset)).outputs (step m (.reset coldReset)).state = true := by
  simp only [step_state, step_outputs, perform, chipsetReset]
  split_ifs with cold low
  · simpa [allSafe] using shape
  · have vcore : m.outputs.level .vcoreEn = true :=
      rails .pchSysPwrok (by simpa using low) .vcoreEn (by simp [upstream])
    cases hs : m.state <;> simp_all [allSafe, writeSafe, railShape, allLow, allHigh, aboveRam,
      aboveMain, upstream, dependents]
  · cases hs : m.state <;> simp_all [allSafe, writeSafe, railShape, allLow, allHigh, aboveRam,
      aboveMain, upstream, dependents]

private theorem action_safe (m : Chipset) (a : Action) (seq : Sequenced m)
    (ram : ¬ RamRailTimeout m a) :
    allSafe m.outputs (perform m a).effects = true ∧
      railShape (step m a).outputs (step m a).state = true := by
  have restart := seq.restart
  have shape := seq.shape
  cases a with
  | handleState io => exact handle_safe m io shape (fun flag => (restart flag).2) ram
  | reset coldReset => exact reset_safe m coldReset seq.rails shape
  | exitHardOff =>
    cases hs : m.state <;> simp_all [perform, chipsetExitHardOff, allSafe, railShape]
  | forceShutdown =>
    cases hs : m.state <;> simp_all [perform, chipsetForceShutdown, allSafe, writeSafe,
      railShape, allLow, allHigh, aboveRam, aboveMain, dependents]
  | throttleCpu throttle =>
    cases hs : m.state <;> simp_all [perform, chipsetThrottleCpu, chipsetInStateOn, allSafe,
      writeSafe, railShape, allLow, allHigh, aboveRam, aboveMain, upstream, dependents]
  | setPauseInS5 pause => simpa [perform, allSafe] using shape
  | powerfail => simpa [perform, allSafe] using shape

theorem Sequenced.step {m : Chipset} (seq : Sequenced m) (a : Action) (ram : ¬ RamRailTimeout m a) :
    AfterEach RailsOk m.outputs (perform m a).effects ∧ Sequenced (Power.step m a) := by
  obtain ⟨safe,shape⟩ := action_safe m a seq ram
  have checked := seq.rails.afterEach safe
  exact ⟨checked.1,⟨checked.2,shape,restartPending_step m a seq.restart⟩⟩

theorem Sequenced.run {m : Chipset} (seq : Sequenced m) (actions : List Action)
    (ram : Always (fun m a => ¬ RamRailTimeout m a) m actions) :
    AfterEach RailsOk m.outputs (trace m actions) ∧ Sequenced (Power.run m actions) := by
  induction actions generalizing m with
  | nil => exact ⟨trivial,seq⟩
  | cons a actions ih =>
    obtain ⟨checked,next⟩ := seq.step a ram.1
    obtain ⟨rest,final⟩ := ih next ram.2
    exact ⟨(afterEach_append _ _ _ _).mpr ⟨checked,rest⟩,final⟩

/-- The outputs `power_chipset_init` can start from for the order to hold: all low on a cold
boot; after a jump, outputs in order at the levels init assumes, the S0 rails up when every
S0 input is present, and otherwise PCH_SYS_PWROK, PCH_RSMRST_L and PP1350_EN low. -/
def StartsSequenced (jumped : Bool) (signals : PowerSignal → Bool) (found : Outputs) : Prop :=
  if jumped then
    RailsOk found ∧
      if inAllS0.all signals then railShape found .s0 = true
      else allLow found [.pchSysPwrok, .pchRsmrstL, .pp1350En] = true
  else found = Outputs.allLow

private theorem boot_sequenced (usb jumped : Bool) (signals : PowerSignal → Bool) (found : Outputs)
    (start : StartsSequenced jumped signals found) :
    RailsOk found ∧ AfterEach RailsOk found (powerChipsetInit jumped signals).2 ∧
      Sequenced (boot usb jumped signals found) := by
  have restart : RestartPending (boot usb jumped signals found) := by
    intro flag; simp [boot, Vars.initial] at flag
  unfold StartsSequenced at start
  split_ifs at start with jumpedIn present
  · obtain ⟨rails,shape⟩ := start
    simp only [boot, powerChipsetInit, jumpedIn, present, if_true] at restart ⊢
    exact ⟨rails,⟨rails,trivial⟩,⟨rails,shape,restart⟩⟩
  · obtain ⟨rails,low⟩ := start
    simp only [boot, powerChipsetInit, jumpedIn, present, if_true, Bool.false_eq_true,
      if_false] at restart ⊢
    simp only [allLow, List.all_cons, List.all_nil, Bool.and_true, Bool.and_eq_true,
      Bool.not_eq_true'] at low
    have main : found.level .pp5000En = false := rails.low_of_upstream low.2.2 (by simp [upstream])
    have dx : found.level .pp3300DxEn = false := rails.low_of_upstream low.2.2 (by simp [upstream])
    have prochot : found.level .cpuProchot = false := rails.low_of_upstream main (by simp [upstream])
    refine ⟨rails,(rails.afterEach ?safe).1,⟨(rails.afterEach ?safe).2,?_,restart⟩⟩
    · simp [allSafe, writeSafe, dependents, low, main, dx, prochot]
    · simp [railShape, allLow, aboveRam, low, main, dx, prochot]
  · subst start
    have rails : RailsOk Outputs.allLow := fun g high => by simp [Outputs.allLow] at high
    simp only [boot, powerChipsetInit, jumpedIn, Bool.false_eq_true, if_false] at restart ⊢
    exact ⟨rails,trivial,⟨rails,by simp [railShape, allLow, aboveRam, Outputs.allLow],restart⟩⟩

/-- Power sequencing holds at every write of a run that starts as `power_chipset_init`
assumes and in which no S5→S3 RAM-rail wait times out: whatever the inputs and however
`chipset_force_shutdown`, `chipset_reset` and `chipset_throttle_cpu` are interleaved. -/
theorem rails_ordered_at_every_write (usb jumped : Bool) (signals : PowerSignal → Bool)
    (found : Outputs) (actions : List Action) (start : StartsSequenced jumped signals found)
    (ram : Always (fun m a => ¬ RamRailTimeout m a) (boot usb jumped signals found) actions) :
    RailsOk found ∧ AfterEach RailsOk found
      ((powerChipsetInit jumped signals).2 ++ trace (boot usb jumped signals found) actions) := by
  obtain ⟨rails,init,seq⟩ := boot_sequenced usb jumped signals found start
  refine ⟨rails,(afterEach_append _ _ _ _).mpr ⟨init,?_⟩⟩
  exact (seq.run actions ram).1

/-- From a cold boot: out of G3, then S5, S3 and S0 with every rail good and every wait met. -/
def coldBootToS0 : List Action :=
  [.exitHardOff, .handleState Inputs.settled, .handleState {Inputs.settled with slpS4L := true},
    .handleState {Inputs.settled with slpS4L := true},
    .handleState {Inputs.settled with slpS3L := true,slpS4L := true},
    .handleState {Inputs.settled with slpS3L := true,slpS4L := true}]

theorem rails_ordered_cold_boot_to_s0 :
    StartsSequenced false (fun _ => true) Outputs.allLow ∧
      Always (fun m a => ¬ RamRailTimeout m a) (boot false false (fun _ => true) Outputs.allLow)
        coldBootToS0 ∧
      (RailsOk Outputs.allLow ∧ AfterEach RailsOk Outputs.allLow
        ((powerChipsetInit false fun _ => true).2 ++
          trace (boot false false (fun _ => true) Outputs.allLow) coldBootToS0)) :=
  have start : StartsSequenced false (fun _ => true) Outputs.allLow := by simp [StartsSequenced]
  have ram : Always (fun m a => ¬ RamRailTimeout m a) (boot false false (fun _ => true) Outputs.allLow)
      coldBootToS0 := by
    simp [coldBootToS0, Always, RamRailTimeout, Inputs.settled]
  ⟨start,ram,rails_ordered_at_every_write false false _ _ coldBootToS0 start ram⟩

/-- From a cold boot: out of G3, up to S5, then S5→S3 with the RAM-rail wait timing out. -/
def ramRailTimeoutRun : List Action :=
  [.exitHardOff, .handleState Inputs.settled, .handleState { Inputs.settled with slpS4L := true },
    .handleState { Inputs.settled with waitTimeout := fun k => k == 1 }]

/-- After that run the S5→G3 step returns G3 with PP1350_EN high. -/
theorem ram_rail_on_in_g3 :
    (run (boot false false (fun _ => true) Outputs.allLow) ramRailTimeoutRun).state = .s5g3 ∧
    (run (boot false false (fun _ => true) Outputs.allLow)
      (ramRailTimeoutRun ++ [.handleState Inputs.settled])).state = .g3 ∧
    (run (boot false false (fun _ => true) Outputs.allLow)
      (ramRailTimeoutRun ++ [.handleState Inputs.settled])).outputs.level .pp1350En = true := by
  decide

/-- From a cold boot: out of G3 and up to S5. -/
def coldBootToS5 : List Action := [.exitHardOff, .handleState Inputs.settled]

/-- The order breaks on two runs the code allows. On a cold boot whose S5→S3 RAM-rail wait
times out, PP1350_EN stays high and the S5→G3 step that follows drops SUSP_VR_EN under it.
After a jump from an image that took the AP to S5, with an S0 input missing,
`power_chipset_init` drops SUSP_VR_EN while PCH_RSMRST_L is still high, though the outputs it
found were in order. -/
theorem rail_order_broken :
    ¬ AfterEach RailsOk Outputs.allLow ((powerChipsetInit false fun _ => true).2 ++
      trace (boot false false (fun _ => true) Outputs.allLow)
        (ramRailTimeoutRun ++ [.handleState Inputs.settled])) ∧
    (run (boot false false (fun _ => true) Outputs.allLow) coldBootToS5).state = .s5 ∧
    RailsOk (run (boot false false (fun _ => true) Outputs.allLow) coldBootToS5).outputs ∧
    ¬ AfterEach RailsOk (run (boot false false (fun _ => true) Outputs.allLow) coldBootToS5).outputs
      (powerChipsetInit true fun _ => false).2 := by
  refine ⟨fun checked => ?_, by decide, (railsOk_iff _).mpr (by decide), fun checked => ?_⟩
  · have final : RailsOk (run (boot false false (fun _ => true) Outputs.allLow)
        (ramRailTimeoutRun ++ [.handleState Inputs.settled])).outputs := by
      rw [run_outputs]
      exact ((afterEach_append _ _ _ _).mp checked).2.last (by decide)
    exact absurd ((railsOk_iff _).mp final) (by decide)
  · obtain ⟨-, -, dropped, -⟩ := checked
    exact absurd ((railsOk_iff _).mp dropped) (by decide)

end ChromeEc.Power
