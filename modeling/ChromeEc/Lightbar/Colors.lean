import ChromeEc.Lightbar.Task

/-! The indices the sequences read `st.p.color` at. S3S0 and S0 replace an `s0_idx` entry past
the colors by 0, S3 skips its pulse for such an `s3_idx` entry, and `pulse_google_colors`
reads the first `NUM_LEDS` colors. TAP uses its `tap_idx` entry as it is, and parameters
installed by the host can send it past the end. -/
namespace ChromeEc.Lightbar

/-- The default `tap_idx` with every entry 8, one past the last color. -/
def pastColorsTapParams : Params := {defaultParams with tapIdx := fun _ => 8}

/-- The host installs those parameters and requests TAP, which S5's wait takes. -/
def tapPastColors : List Action := [.setParams pastColorsTapParams,.sequence 13,.task .pendingMsg]

/-- After that run from the start TAP is running, and it reads `st.p.color[8]`, past the
end of the array. -/
theorem tap_reads_past_colors :
    ∃ l, run State.initial tapPastColors = some l ∧ Reachable l ∧ l.curSeq = .tap ∧
      colorCount ∈ colorReads l.p l.battery l.curSeq := by
  refine ⟨_,rfl,reachable_of_run tapPastColors .initial rfl,rfl,?_⟩
  decide

end ChromeEc.Lightbar
