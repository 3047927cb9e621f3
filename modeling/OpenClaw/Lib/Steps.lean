import Mathlib.Data.List.Infix
import Mathlib.Order.Basic

/-!
# Runs of a step function

A machine is a total step function `State → Event → State`; an event that the
machine refuses leaves the state alone.  `run` performs a list of events, and
`Along holds start events` says that `holds` is true of every step the run
takes, seen from the state just before it.

The two rules the developments use are `run_preserves`, the invariant rule under
a side condition on the steps, and `forall_prefix_iff_along`, for an invariant
that a step keeps exactly when the side condition holds.
-/

namespace Steps

variable {State Event : Type*} (step : State → Event → State)

/-- The state after performing `events` from `start`. -/
def run (start : State) (events : List Event) : State := events.foldl step start

/-- `holds` is true of every step of the run, read in the state before it. -/
def Along (holds : State → Event → Prop) : State → List Event → Prop
  | _, [] => True
  | state, event :: rest => holds state event ∧ Along holds (step state event) rest

variable {step} {start : State} {holds : State → Event → Prop}

@[simp] theorem run_nil : run step start [] = start := rfl

@[simp] theorem run_cons (event : Event) (rest : List Event) :
    run step start (event :: rest) = run step (step start event) rest := rfl

theorem run_append (before after : List Event) :
    run step start (before ++ after) = run step (run step start before) after :=
  List.foldl_append

theorem run_concat (before : List Event) (event : Event) :
    run step start (before ++ [event]) = step (run step start before) event := by
  rw [run_append, run_cons, run_nil]

@[simp] theorem along_nil : Along step holds start [] := trivial

@[simp] theorem along_cons {event : Event} {rest : List Event} :
    Along step holds start (event :: rest) ↔
      holds start event ∧ Along step holds (step start event) rest := Iff.rfl

instance Along.decidable [∀ state event, Decidable (holds state event)] :
    (start : State) → (events : List Event) → Decidable (Along step holds start events)
  | _, [] => isTrue trivial
  | state, event :: rest =>
      have := Along.decidable (step state event) rest
      inferInstanceAs (Decidable (_ ∧ _))

theorem along_append {before after : List Event} :
    Along step holds start (before ++ after) ↔
      Along step holds start before ∧ Along step holds (run step start before) after := by
  induction before generalizing start with
  | nil => simp
  | cons event rest ih => simp [ih, and_assoc]

theorem along_concat {before : List Event} {event : Event} :
    Along step holds start (before ++ [event]) ↔
      Along step holds start before ∧ holds (run step start before) event := by
  simp [along_append]

theorem Along.imp {weaker : State → Event → Prop} (himp : ∀ state event,
    holds state event → weaker state event) {events : List Event}
    (halong : Along step holds start events) : Along step weaker start events := by
  induction events generalizing start with
  | nil => trivial
  | cons event rest ih => exact ⟨himp _ _ halong.1, ih halong.2⟩

theorem along_of_forall {events : List Event}
    (hall : ∀ event ∈ events, ∀ state, holds state event) : Along step holds start events := by
  induction events generalizing start with
  | nil => trivial
  | cons event rest ih =>
      rw [List.forall_mem_cons] at hall
      exact ⟨hall.1 start, ih hall.2⟩

theorem along_and {other : State → Event → Prop} {events : List Event} :
    Along step (fun state event => holds state event ∧ other state event) start events ↔
      Along step holds start events ∧ Along step other start events := by
  induction events generalizing start with
  | nil => simp
  | cons event rest ih => simp only [along_cons, ih, and_and_and_comm]

/-- Two conditions that agree wherever the invariant holds agree along every
run. -/
theorem along_iff_along {inv : State → Prop} {other : State → Event → Prop}
    (hstep : ∀ state event, inv state → inv (step state event))
    (hiff : ∀ state event, inv state → (holds state event ↔ other state event))
    (hstart : inv start) {events : List Event} :
    Along step holds start events ↔ Along step other start events := by
  induction events generalizing start with
  | nil => exact Iff.rfl
  | cons event rest ih =>
      rw [along_cons, along_cons, hiff start event hstart, ih (hstep start event hstart)]

/-- The same when only the steps with `other` keep the invariant. -/
theorem along_iff_along_of_kept {inv : State → Prop} {other : State → Event → Prop}
    (hstep : ∀ state event, inv state → other state event → inv (step state event))
    (hiff : ∀ state event, inv state → (holds state event ↔ other state event))
    (hstart : inv start) {events : List Event} :
    Along step holds start events ↔ Along step other start events := by
  induction events generalizing start with
  | nil => exact Iff.rfl
  | cons event rest ih =>
      rw [along_cons, along_cons, hiff start event hstart]
      exact and_congr_right fun hother => ih (hstep start event hstart hother)

theorem along_congr {other : State → Event → Prop}
    (hiff : ∀ state event, holds state event ↔ other state event) {events : List Event} :
    Along step holds start events ↔ Along step other start events :=
  ⟨fun h => h.imp fun state event => (hiff state event).mp,
    fun h => h.imp fun state event => (hiff state event).mpr⟩

/-- **The invariant rule.**  What every admitted step preserves, an admitted
run preserves. -/
theorem run_preserves {inv : State → Prop}
    (hstep : ∀ state event, inv state → holds state event → inv (step state event))
    {events : List Event} (hstart : inv start) (halong : Along step holds start events) :
    inv (run step start events) := by
  induction events generalizing start with
  | nil => exact hstart
  | cons event rest ih => exact ih (hstep _ _ hstart halong.1) halong.2

/-- The invariant rule for a step that always preserves. -/
theorem run_preserves_of_step {inv : State → Prop}
    (hstep : ∀ state event, inv state → inv (step state event)) (events : List Event)
    (hstart : inv start) : inv (run step start events) := by
  induction events generalizing start with
  | nil => exact hstart
  | cons event rest ih => exact ih (hstep _ _ hstart)

/-- When an admitted step keeps the invariant exactly if `holds` is true of it, the
invariant holds in every state a run reaches exactly if `holds` is true along
the run.  `sound` is what admitted steps keep as long as the invariant holds. -/
theorem forall_prefix_iff_along_of_kept {sound inv : State → Prop}
    {allowed : State → Event → Prop}
    (hsound : ∀ state event, sound state → inv state → allowed state event →
      sound (step state event))
    (hstep : ∀ state event, sound state → inv state → allowed state event →
      (inv (step state event) ↔ holds state event))
    (hstart : sound start) (hinv : inv start) {events : List Event}
    (hallowed : Along step allowed start events) :
    (∀ before, before <+: events → inv (run step start before)) ↔
      Along step holds start events := by
  induction events generalizing start with
  | nil => simpa using hinv
  | cons event rest ih =>
      have hnext : sound (step start event) := hsound _ _ hstart hinv hallowed.1
      constructor
      · intro hall
        have hkept : inv (step start event) := hall [event] (by simp)
        refine ⟨(hstep _ _ hstart hinv hallowed.1).mp hkept, ?_⟩
        apply (ih hnext hkept hallowed.2).mp
        intro before hbefore
        exact hall (event :: before) (List.cons_prefix_cons.mpr ⟨rfl, hbefore⟩)
      · rintro ⟨hhead, hrest⟩ before hbefore
        have hkept : inv (step start event) := (hstep _ _ hstart hinv hallowed.1).mpr hhead
        cases before with
        | nil => exact hinv
        | cons first before =>
            obtain ⟨rfl, htail⟩ := List.cons_prefix_cons.mp hbefore
            exact (ih hnext hkept hallowed.2).mpr hrest before htail

/-- The same for what every admitted step keeps anyway. -/
theorem forall_prefix_iff_along_of_sound {sound inv : State → Prop}
    {allowed : State → Event → Prop}
    (hsound : ∀ state event, sound state → allowed state event → sound (step state event))
    (hstep : ∀ state event, sound state → inv state → allowed state event →
      (inv (step state event) ↔ holds state event))
    (hstart : sound start) (hinv : inv start) {events : List Event}
    (hallowed : Along step allowed start events) :
    (∀ before, before <+: events → inv (run step start before)) ↔
      Along step holds start events :=
  forall_prefix_iff_along_of_kept (fun state event hs _ => hsound state event hs) hstep hstart hinv
    hallowed

theorem forall_prefix_iff_along {inv : State → Prop}
    (hstep : ∀ state event, inv state → (inv (step state event) ↔ holds state event))
    (hstart : inv start) {events : List Event} :
    (∀ before, before <+: events → inv (run step start before)) ↔
      Along step holds start events := by
  have hfree : Along step (fun _ _ => True) start events :=
    along_of_forall fun _ _ _ => trivial
  have hsound : ∀ state event, True → True → True := fun (_ : State) (_ : Event) _ _ => trivial
  exact forall_prefix_iff_along_of_sound hsound
    (fun state event _ hinv _ => hstep state event hinv) trivial hstart hfree

/-- When what goes wrong is never repaired, a run ends safely exactly if `holds` is
true along it: a step with `holds` keeps the invariant, any other one ends in a
state that is not safe. -/
theorem safe_iff_along {inv safe : State → Prop} (hsafe : ∀ state, inv state → safe state)
    (hkeep : ∀ state event, inv state → holds state event → inv (step state event))
    (hbreak : ∀ state event, inv state → ¬holds state event → ¬safe (step state event))
    (hback : ∀ state event, safe (step state event) → safe state)
    (hstart : inv start) {events : List Event} :
    safe (run step start events) ↔ Along step holds start events := by
  have hlate : ∀ events state, safe (run step state events) → safe state := by
    intro events
    induction events with
    | nil => exact fun _ hend => hend
    | cons event rest ih => exact fun state hend => hback state event (ih _ hend)
  constructor
  · intro hend
    induction events generalizing start with
    | nil => trivial
    | cons event rest ih =>
        have hholds : holds start event := by
          by_contra hnot
          exact hbreak start event hstart hnot (hlate rest _ hend)
        exact ⟨hholds, ih (hkeep start event hstart hholds) hend⟩
  · intro halong
    exact hsafe _ (run_preserves hkeep hstart halong)

/-- A measure never goes back along a run exactly if no step lowers it. -/
theorem monotone_iff_along {Measure : Type*} [Preorder Measure] {measure : State → Measure}
    {events : List Event} :
    (∀ earlier later, earlier <+: later → later <+: events →
        measure (run step start earlier) ≤ measure (run step start later)) ↔
      Along step (fun state event => measure state ≤ measure (step state event)) start events := by
  constructor
  · intro hmono
    induction events generalizing start with
    | nil => trivial
    | cons event rest ih =>
        refine ⟨?_, ih fun earlier later hearlier hlater => ?_⟩
        · exact hmono [] [event] List.nil_prefix (by simp)
        · exact hmono (event :: earlier) (event :: later)
            (List.cons_prefix_cons.mpr ⟨rfl, hearlier⟩) (List.cons_prefix_cons.mpr ⟨rfl, hlater⟩)
  · intro halong earlier later hearlier hlater
    obtain ⟨tail, rfl⟩ := hearlier
    obtain ⟨rest, rfl⟩ := hlater
    have htail := (along_append.mp (along_append.mp halong).1).2
    rw [run_append]
    generalize run step start earlier = middle at htail
    clear halong
    induction tail generalizing middle with
    | nil => exact le_rfl
    | cons event tail ih => exact htail.1.trans (ih _ htail.2)

end Steps
