import OpenClaw.Lib.Steps

/-!
# Where a fact about the end of a run comes from

A fact that is not true at the start of a run and is true at its end was made true by
one of the steps, and every step after that one kept it.  `makes` and `keeps` say which
steps do either; a machine gives them once for each kind of fact, and gets the history
of whatever a state holds (`exists_origin`), or the reverse, that what was made is still
there (`present_of_origin`).
-/

namespace Steps

variable {State Event : Type*} {step : State → Event → State} {start : State}
variable {inv present : State → Prop} {makes keeps : State → Event → Prop}

/-- **The history of a fact** under an invariant.  The last step that made it true is
followed by steps that kept it. -/
theorem exists_origin_of_inv
    (hinv : ∀ state event, inv state → inv (step state event)) (hsound : inv start)
    (hstep : ∀ state event, inv state → present (step state event) →
      makes state event ∨ present state ∧ keeps state event)
    (hstart : ¬present start) {events : List Event} (hend : present (run step start events)) :
    ∃ before event after, events = before ++ event :: after ∧
      makes (run step start before) event ∧
        Along step keeps (run step start (before ++ [event])) after := by
  -- the last step of the run either made the fact true or has its history before it
  induction events using List.reverseRecOn with
  | nil => exact absurd hend hstart
  | append_singleton events last ih =>
      have hbefore : inv (run step start events) := run_preserves_of_step hinv events hsound
      rw [run_concat] at hend
      obtain hmakes | ⟨hpresent, hkeeps⟩ := hstep _ _ hbefore hend
      · exact ⟨events, last, [], rfl, hmakes, trivial⟩
      · obtain ⟨before, event, after, rfl, hmakes, hafter⟩ := ih hpresent
        refine ⟨before, event, after ++ [last], ?_, hmakes, ?_⟩
        · simp
        · rw [along_concat, ← run_append]
          refine ⟨hafter, ?_⟩
          simpa using hkeeps

/-- **The history of a fact.** -/
theorem exists_origin
    (hstep : ∀ state event, present (step state event) →
      makes state event ∨ present state ∧ keeps state event)
    (hstart : ¬present start) {events : List Event} (hend : present (run step start events)) :
    ∃ before event after, events = before ++ event :: after ∧
      makes (run step start before) event ∧
        Along step keeps (run step start (before ++ [event])) after :=
  @exists_origin_of_inv State Event step start (fun _ => True) present makes keeps
    (fun _ _ _ => trivial) trivial (fun state event _ => hstep state event) hstart events hend

/-- What a step made true and the later ones keep is true at the end. -/
theorem present_of_origin (hmake : ∀ state event, makes state event → present (step state event))
    (hkeep : ∀ state event, present state → keeps state event → present (step state event))
    {event : Event} {after : List Event} (hmakes : makes start event)
    (hafter : Along step keeps (step start event) after) :
    present (run step start (event :: after)) := by
  rw [run_cons]
  exact run_preserves hkeep (hmake start event hmakes) hafter

end Steps
