import ChromeEc.Lightbar.Task
import Mathlib.Tactic.FinCases

/-! The hysteresis of `get_battery_level`. With rising thresholds `quantize_battery_level`
counts the thresholds at or below `pct`; the stored level follows that count up only when
`pct` is strictly above the threshold it crossed last, and down only when `pct` is strictly
below the next one. Off the thresholds the level is the count. On a threshold reached from
two or more bands below, neither test passes, so the level stays where it was however far
the count has moved. -/
namespace ChromeEc.Lightbar

/-- `st.p.battery_threshold[i]`, as the `int` it is compared with. -/
def threshold (p : Params) (i : Fin 3) : Int := (p.batteryThreshold i).toNat

/-- The thresholds rise: `t0 < t1 < t2`, as the defaults 14, 40, 99 do. -/
def ThresholdsRise (p : Params) : Prop := threshold p 0 < threshold p 1 ∧ threshold p 1 < threshold p 2

instance (p : Params) : Decidable (ThresholdsRise p) := inferInstanceAs (Decidable (_ ∧ _))

theorem finRange_thresholds : List.finRange (lbBatteryLevels - 1) = ([0,1,2] : List (Fin 3)) := by
  decide

theorem quantizeBatteryLevel_eq (p : Params) (pct : Int) : quantizeBatteryLevel p pct =
    (if threshold p 0 ≤ pct then 1 else 0) + (if threshold p 1 ≤ pct then 1 else 0) +
      (if threshold p 2 ≤ pct then 1 else 0) := by
  simp only [quantizeBatteryLevel, finRange_thresholds, List.foldl_cons, List.foldl_nil, threshold,
    ge_iff_le]
  split_ifs <;> rfl

/-- The threshold at a band index, as `get_battery_level` reads it: `battery_threshold[i]`,
and 0 past the table, where the code never reads. -/
def thresholdAt (p : Params) (i : Nat) : Int :=
  if h : i < lbBatteryLevels - 1 then (p.batteryThreshold ⟨i,h⟩).toNat else 0

theorem thresholdAt_fin (p : Params) (i : Fin 3) : thresholdAt p i = threshold p i := by
  simp [thresholdAt, threshold, show (i : Nat) < lbBatteryLevels - 1 from i.isLt]

theorem getBatteryLevel_level (l : State) (pct : Int) (discharging : Bool) (demo : l.demoMode = false) :
    ((getBatteryLevel l pct discharging).battery.level : Nat) =
      if quantizeBatteryLevel l.p pct > l.battery.level.val ∧
          pct ≥ thresholdAt l.p (quantizeBatteryLevel l.p pct - 1) + 1 then quantizeBatteryLevel l.p pct
      else if quantizeBatteryLevel l.p pct < l.battery.level.val ∧
          pct ≤ thresholdAt l.p (quantizeBatteryLevel l.p pct) - 1 then quantizeBatteryLevel l.p pct
      else l.battery.level.val := by
  simp only [getBatteryLevel, demo, Bool.false_eq_true, if_false, thresholdAt]
  split_ifs <;> rfl

/-- A reading exactly on threshold `j`, two or more bands above the stored level: the count
becomes `j + 1`, and the stored level does not move. -/
theorem battery_level_held_on_threshold (l : State) (pct : Int) (discharging : Bool) (j : Fin 3)
    (demo : l.demoMode = false) (rise : ThresholdsRise l.p) (onThreshold : pct = threshold l.p j)
    (below : l.battery.level.val < j.val) :
    quantizeBatteryLevel l.p pct = j.val + 1 ∧
      (getBatteryLevel l pct discharging).battery.level = l.battery.level := by
  obtain ⟨rise01,rise12⟩ := rise
  have counted : quantizeBatteryLevel l.p pct = j.val + 1 := by
    rw [quantizeBatteryLevel_eq]
    fin_cases j <;> simp only [Fin.zero_eta, Fin.mk_one, Fin.reduceFinMk] at onThreshold ⊢ <;>
      subst onThreshold <;> split_ifs <;> omega
  refine ⟨counted,Fin.ext ?_⟩
  rw [getBatteryLevel_level l pct discharging demo, counted, Nat.add_sub_cancel, thresholdAt_fin]
  rw [if_neg (fun up => by omega), if_neg (fun down => by omega)]

/-- From the red band, a reading of exactly 40% under the default thresholds counts two
bands up and leaves the level red. -/
theorem battery_level_held_at_forty :
    let l : State := {State.initial with battery := ⟨⟨0,by decide⟩,5,false⟩}
    l.demoMode = false ∧ ThresholdsRise l.p ∧ (40 : Int) = threshold l.p 1 ∧ l.battery.level.val < 1 ∧
      quantizeBatteryLevel l.p 40 = 2 ∧ (getBatteryLevel l 40 true).battery.level = l.battery.level := by
  intro l
  have demo : l.demoMode = false := rfl
  have rise : ThresholdsRise l.p := by decide
  have forty : (40 : Int) = threshold l.p 1 := by decide
  have red : l.battery.level.val < (1 : Fin 3).val := by decide
  exact ⟨demo,rise,forty,red,battery_level_held_on_threshold l 40 true 1 demo rise forty red⟩

end ChromeEc.Lightbar
