import ChromeEc.Lightbar.Task

/-! Which sequences `prev_seq` can hold. It changes only when a sequence returns PENDING_MSG,
and then takes the sequence that was running; so it always holds a sequence that waits for
requests. Those include the one-shot sequences TEST, ERROR and TAP: a one-shot sequence
interrupted by a request for another one becomes the sequence the second returns to, and then
returns to itself. -/
namespace ChromeEc.Lightbar

/-- The sequences `lightbar_task` sends back to `prev_seq` when they return on their own. -/
def LightbarSequence.isOneShot : LightbarSequence → Bool
  | .test | .stop | .run | .error | .konami | .tap => true
  | _ => false

theorem tap_returns_to_itself (l : State) (tap : l.curSeq = .tap) (prev : l.prevSeq = .tap) :
    lightbarTask l .done = some l := by
  cases l
  simp_all [lightbarTask, LightbarSequence.ends, nextSequence]

theorem tap_stuck (l : State) (tap : l.curSeq = .tap) (prev : l.prevSeq = .tap)
    (quiet : l.eventPending = false) (outcomes : List Outcome) :
    ∀ {l'}, run l (outcomes.map .task) = some l' → l' = l := by
  induction outcomes with
  | nil => intro l' ran; cases ran; rfl
  | cons outcome outcomes ih =>
    intro l' ran
    cases outcome
    · simp [run, step, lightbarTask, quiet] at ran
    · simp only [run, List.map_cons, List.foldlM_cons, step, tap_returns_to_itself l tap prev,
        Option.bind_eq_bind, Option.some_bind] at ran
      exact ih ran

/-- A TAP request, taken by S5's wait; a KONAMI request, taken by TAP's wait; KONAMI ends and
returns to TAP, which ends and returns to itself. -/
def tapThenKonami : List Action :=
  [.sequence 13,.task .pendingMsg,.sequence 12,.task .pendingMsg,.task .done,.task .done]

/-- After that run from the start, `prev_seq` is the one-shot TAP, and TAP runs again after
every pass until a request comes. -/
theorem tap_interrupted_by_konami_replays_tap :
    ∃ l, run State.initial tapThenKonami = some l ∧ l.prevSeq = .tap ∧ l.prevSeq.isOneShot = true ∧
      ∀ (outcomes : List Outcome) {l'}, run l (outcomes.map .task) = some l' → l'.curSeq = .tap := by
  refine ⟨_,rfl,rfl,rfl,fun outcomes l' ran => ?_⟩
  rw [tap_stuck _ rfl rfl rfl outcomes ran]
  rfl

end ChromeEc.Lightbar
