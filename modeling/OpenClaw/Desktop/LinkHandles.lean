import OpenClaw.Desktop.LinkTasks

/-!
# Who can still stop a stream

`connect` spawns the signal stream and the heartbeat in one go and keeps their handles in
another.  Until then only `connect` itself knows them, and what comes in between may be
another `connect`, a failure or a disconnect.  A stream that goes on and that nobody has a
handle of could not be stopped any more, and a second one would read the same signals.

There is no such stream: `Accounted` says who has the handle of every task that goes on, and
every step keeps it.
-/

namespace OpenClaw.Desktop

/-- The two tasks `connect` keeps a handle of. -/
inductive HeldTask
  | sse
  | heartbeat
deriving DecidableEq

def Link.handle (link : Link) : HeldTask → Option ℕ
  | .sse => link.sseTask
  | .heartbeat => link.heartbeatTask

/-! ## What a task is -/

/-- The tasks that run `connect`. -/
def LinkTask.connecting : LinkTask → Bool
  | .cancelReconnect => true
  | .readFlags _ => true
  | .takeGeneration _ _ => true
  | .announce _ => true
  | .keepHandles _ _ _ => true
  | _ => false

/-- The generation that this `connect` took. -/
def LinkTask.taken : LinkTask → Option ℕ
  | .announce generation => some generation
  | .keepHandles generation _ _ => some generation
  | _ => none

/-- The generation this task reads the stream of, or sends heartbeats for. -/
def LinkTask.worksAt : LinkTask → HeldTask → Option ℕ
  | .stream generation, .sse => some generation
  | .heartbeat generation, .heartbeat => some generation
  | .beat generation, .heartbeat => some generation
  | _, _ => none

/-- The generation and the handle that this task is about to keep. -/
def LinkTask.keeps : LinkTask → HeldTask → Option (ℕ × ℕ)
  | .keepHandles generation sseTask _, .sse => some (generation, sseTask)
  | .keepHandles generation _ heartbeatTask, .heartbeat => some (generation, heartbeatTask)
  | _, _ => none

/-- A task without handles. -/
def LinkTask.plain : LinkTask → Bool
  | .keepHandles _ _ _ => false
  | .keepReconnect _ => false
  | _ => true

/-- The handles a task has. -/
def LinkTask.Names (task : LinkTask) (id : ℕ) : Prop :=
  (∃ kind generation, task.keeps kind = some (generation, id)) ∨ task = .keepReconnect id

/-! ## Who has a handle -/

/-- Somebody has, or has used, the handle of the task. -/
def Link.Names (link : Link) (id : ℕ) : Prop :=
  id ∈ link.aborted ∨ (∃ kind, link.handle kind = some id) ∨ link.reconnectTask = some id ∨
    ∃ other task, link.tasks.get other = some task ∧ task.Names id

/-- The task goes on and nobody has stopped it. -/
def Link.Working (link : Link) (kind : HeldTask) (id generation : ℕ) : Prop :=
  id ∉ link.aborted ∧
    ∃ task, link.tasks.get id = some task ∧ task.worksAt kind = some generation

/-- The backend has the handle, or the `connect` that spawned the task still has it. -/
def Link.Holds (link : Link) (kind : HeldTask) (id generation : ℕ) : Prop :=
  (link.handle kind = some id ∧ generation = link.connectGeneration) ∨
    ∃ connect task, link.tasks.get connect = some task ∧ task.keeps kind = some (generation, id)

structure Accounted (link : Link) : Prop where
  ids : ∀ id task, link.tasks.get id = some task → id < link.nextTask
  /-- Handles are of tasks that were spawned, and never of a `connect`. -/
  named : ∀ id, link.Names id →
    id < link.nextTask ∧ ∀ task, link.tasks.get id = some task → task.connecting = false
  generations : ∀ id task generation, link.tasks.get id = some task →
    task.taken = some generation → generation ≤ link.connectGeneration
  /-- A generation is taken once. -/
  single : ∀ id other task task' generation, link.tasks.get id = some task →
    link.tasks.get other = some task' → task.taken = some generation →
    task'.taken = some generation → id = other
  /-- Until the `connect` of this generation keeps its handles there are none. -/
  vacant : ∀ id task, link.tasks.get id = some task →
    task.taken = some link.connectGeneration → ∀ kind, link.handle kind = none
  held : ∀ kind id generation, link.Working kind id generation → link.Holds kind id generation

section LinkHandles

variable {link : Link} {id : ℕ} {task next : LinkTask} {kind : HeldTask}

theorem LinkTask.taken_of_keeps {generation handle : ℕ}
    (hkeeps : task.keeps kind = some (generation, handle)) : task.taken = some generation := by
  cases task with
  | keepHandles taken sseTask heartbeatTask =>
      cases kind with
      | sse =>
          cases hkeeps
          rfl
      | heartbeat =>
          cases hkeeps
          rfl
  | _ => cases kind <;> cases hkeeps

theorem LinkTask.keeps_of_plain (hplain : task.plain = true) (kind : HeldTask) :
    task.keeps kind = none := by
  cases task with
  | keepHandles => cases hplain
  | _ => cases kind <;> rfl

theorem LinkTask.not_names_of_plain (hplain : task.plain = true) : ¬task.Names id := by
  rintro (⟨kind, generation, hkeeps⟩ | rfl)
  · rw [LinkTask.keeps_of_plain hplain] at hkeeps
    cases hkeeps
  · cases hplain

/-! ## What keeps the account -/

theorem handle_of_tasks (tasks : OrderedMap ℕ LinkTask) :
    ({ link with tasks := tasks } : Link).handle kind = link.handle kind := by
  cases kind <;> rfl

/-- Only what can be looked up counts. -/
theorem Accounted.of_same {tasks : OrderedMap ℕ LinkTask} (haccounted : Accounted link)
    (hget : ∀ id, tasks.get id = link.tasks.get id) : Accounted { link with tasks := tasks } where
  ids := by simpa only [hget] using haccounted.ids
  named := by simpa only [Link.Names, handle_of_tasks, hget] using haccounted.named
  generations := by simpa only [hget] using haccounted.generations
  single := by simpa only [hget] using haccounted.single
  vacant := by simpa only [handle_of_tasks, hget] using haccounted.vacant
  held := by
    simpa only [Link.Working, Link.Holds, handle_of_tasks, hget] using haccounted.held

/-- A task takes its next step, or a new one starts. -/
theorem Accounted.goOn (haccounted : Accounted link) (hid : id < link.nextTask)
    (hconnecting : next.connecting = true → ¬link.Names id)
    (htaken : ∀ generation, next.taken = some generation →
      generation ≤ link.connectGeneration ∧
      (∀ other task, other ≠ id → link.tasks.get other = some task →
        task.taken ≠ some generation) ∧
      (generation = link.connectGeneration → ∀ kind, link.handle kind = none))
    (hnames : ∀ other, next.Names other → other < link.nextTask ∧ other ≠ id ∧
      ∀ task, link.tasks.get other = some task → task.connecting = false)
    (hkept : ∀ task kind handle, link.tasks.get id = some task → task.keeps kind = some handle →
      next.keeps kind = some handle)
    (hworks : ∀ kind generation, next.worksAt kind = some generation → id ∉ link.aborted →
      link.Holds kind id generation) :
    Accounted (link.goOn id next) := by
  have hself : (link.goOn id next).tasks.get id = some next := OrderedMap.get_set_self _ _ _
  have hother : ∀ other, other ≠ id →
      (link.goOn id next).tasks.get other = link.tasks.get other := fun other hne =>
    OrderedMap.get_set_of_ne _ _ hne
  have hcases : ∀ other task, (link.goOn id next).tasks.get other = some task →
      other = id ∧ task = next ∨ other ≠ id ∧ link.tasks.get other = some task :=
    fun other task hget => OrderedMap.of_get_set hget
  -- a handle is one that was there before, or the task has it from now on
  have hnamed : ∀ other, (link.goOn id next).Names other → link.Names other ∨ next.Names other := by
    intro other hnames
    obtain haborted | hhandle | hreconnect | ⟨holder, task, hget, htask⟩ := hnames
    · exact Or.inl (Or.inl haborted)
    · exact Or.inl (Or.inr (Or.inl hhandle))
    · exact Or.inl (Or.inr (Or.inr (Or.inl hreconnect)))
    · obtain ⟨-, rfl⟩ | ⟨-, hold⟩ := hcases holder task hget
      · exact Or.inr htask
      · exact Or.inl (Or.inr (Or.inr (Or.inr ⟨holder, task, hold, htask⟩)))
  have hholds : ∀ kind other generation, link.Holds kind other generation →
      (link.goOn id next).Holds kind other generation := by
    intro kind other generation hholds
    obtain hhandle | ⟨connect, task, hget, hkeeps⟩ := hholds
    · exact Or.inl hhandle
    · by_cases hne : connect = id
      · rw [hne] at hget
        exact Or.inr ⟨id, next, hself, hkept task kind _ hget hkeeps⟩
      · exact Or.inr ⟨connect, task, (hother connect hne).trans hget, hkeeps⟩
  constructor
  case ids =>
    intro other task hget
    obtain ⟨rfl, -⟩ | ⟨-, hold⟩ := hcases other task hget
    · exact hid
    · exact haccounted.ids other task hold
  case named =>
    intro other hlink
    obtain hold | hnew := hnamed other hlink
    · obtain ⟨hlt, hplain⟩ := haccounted.named other hold
      refine ⟨hlt, fun task hget => ?_⟩
      obtain ⟨rfl, rfl⟩ | ⟨-, hget⟩ := hcases other task hget
      · exact Bool.eq_false_iff.mpr fun hconnects => hconnecting hconnects hold
      · exact hplain task hget
    · obtain ⟨hlt, hne, hplain⟩ := hnames other hnew
      refine ⟨hlt, fun task hget => ?_⟩
      rw [hother other hne] at hget
      exact hplain task hget
  case generations =>
    intro other task generation hget htask
    obtain ⟨-, rfl⟩ | ⟨-, hold⟩ := hcases other task hget
    · exact (htaken generation htask).1
    · exact haccounted.generations other task generation hold htask
  case single =>
    intro first second task task' generation hfirst hsecond htask htask'
    obtain ⟨rfl, rfl⟩ | ⟨hne, hold⟩ := hcases first task hfirst
    · obtain ⟨rfl, -⟩ | ⟨hne', hold'⟩ := hcases second task' hsecond
      · rfl
      · exact absurd htask' ((htaken generation htask).2.1 second task' hne' hold')
    · obtain ⟨rfl, rfl⟩ | ⟨-, hold'⟩ := hcases second task' hsecond
      · exact absurd htask ((htaken generation htask').2.1 first task hne hold)
      · exact haccounted.single first second task task' generation hold hold' htask htask'
  case vacant =>
    intro other task hget htask
    obtain ⟨-, rfl⟩ | ⟨-, hold⟩ := hcases other task hget
    · exact (htaken _ htask).2.2 rfl
    · exact haccounted.vacant other task hold htask
  case held =>
    intro kind other generation hworking
    obtain ⟨haborted, task, hget, hworksAt⟩ := hworking
    apply hholds
    obtain ⟨rfl, rfl⟩ | ⟨-, hold⟩ := hcases other task hget
    · exact hworks kind generation hworksAt haborted
    · exact haccounted.held kind other generation ⟨haborted, task, hold, hworksAt⟩

/-- A task ends, and its handles are kept (`sse`, `heartbeat`, `reconnect`) or were used. -/
theorem Accounted.finish {sse heartbeat reconnect : Option ℕ} {after : Link}
    (haccounted : Accounted link)
    (hafter : after = { link.finish id with
      sseTask := sse, heartbeatTask := heartbeat, reconnectTask := reconnect })
    (hnames : ∀ other, (∃ kind, after.handle kind = some other) ∨ reconnect = some other →
      link.Names other)
    (hvacant : ∀ other task, other ≠ id → link.tasks.get other = some task →
      task.taken = some link.connectGeneration → ∀ kind, after.handle kind = none)
    (hkept : ∀ task kind generation handle, link.tasks.get id = some task →
      task.keeps kind = some (generation, handle) → handle ∉ link.aborted →
      after.handle kind = some handle ∧ generation = link.connectGeneration)
    (hhandle : ∀ kind handle, link.handle kind = some handle → after.handle kind = some handle) :
    Accounted after := by
  subst hafter
  have hcases : ∀ other task, (link.tasks.erase id).get other = some task →
      other ≠ id ∧ link.tasks.get other = some task := fun other task hget =>
    OrderedMap.of_get_erase hget
  constructor
  case ids => exact fun other task hget => haccounted.ids other task (hcases other task hget).2
  case named =>
    intro other hlink
    have hbefore : link.Names other := by
      obtain haborted | hhandle | hreconnect | ⟨holder, task, hget, htask⟩ := hlink
      · exact Or.inl haborted
      · exact hnames other (Or.inl hhandle)
      · exact hnames other (Or.inr hreconnect)
      · exact Or.inr (Or.inr (Or.inr ⟨holder, task, (hcases holder task hget).2, htask⟩))
    obtain ⟨hlt, hplain⟩ := haccounted.named other hbefore
    exact ⟨hlt, fun task hget => hplain task (hcases other task hget).2⟩
  case generations =>
    exact fun other task generation hget => haccounted.generations other task generation
      (hcases other task hget).2
  case single =>
    exact fun first second task task' generation hfirst hsecond =>
      haccounted.single first second task task' generation (hcases first task hfirst).2
        (hcases second task' hsecond).2
  case vacant =>
    exact fun other task hget => hvacant other task (hcases other task hget).1
      (hcases other task hget).2
  case held =>
    intro kind other generation hworking
    obtain ⟨haborted, task, hget, hworksAt⟩ := hworking
    obtain ⟨hbackend, hgeneration⟩ | ⟨connect, holder, hconnect, hkeeps⟩ :=
      haccounted.held kind other generation ⟨haborted, task, (hcases other task hget).2, hworksAt⟩
    · exact Or.inl ⟨hhandle kind other hbackend, hgeneration⟩
    · by_cases hne : connect = id
      · rw [hne] at hconnect
        exact Or.inl (hkept holder kind generation other hconnect hkeeps haborted)
      · exact Or.inr ⟨connect, holder, (OrderedMap.get_erase_of_ne _ hne).trans hconnect, hkeeps⟩

/-- A task ends that has no handles. -/
theorem Accounted.finish_plain (haccounted : Accounted link)
    (hplain : ∀ task kind, link.tasks.get id = some task → task.keeps kind = none) :
    Accounted (link.finish id) := by
  refine haccounted.finish rfl ?_ ?_ ?_ ?_
  · rintro other (hhandle | hreconnect)
    · exact Or.inr (Or.inl hhandle)
    · exact Or.inr (Or.inr (Or.inl hreconnect))
  · exact fun other task _ hget htaken => haccounted.vacant other task hget htaken
  · intro task kind generation handle hget hsome
    rw [hplain task kind hget] at hsome
    cases hsome
  · exact fun _ _ hhandle => hhandle

theorem Link.Names.abort {handle : Option ℕ} (hnames : link.Names id) :
    (link.abort handle).Names id := by
  obtain haborted | hrest := hnames
  · exact Or.inl (List.mem_append_right _ haborted)
  · exact Or.inr hrest

/-- Whoever uses a handle had it. -/
theorem Accounted.abort {handle : Option ℕ} (haccounted : Accounted link)
    (hnames : ∀ id, handle = some id → link.Names id) : Accounted (link.abort handle) := by
  have hnamed : ∀ id, (link.abort handle).Names id → link.Names id := by
    intro id hlink
    obtain haborted | hrest := hlink
    · obtain hhandle | haborted := List.mem_append.mp haborted
      · exact hnames id (Option.mem_toList.mp hhandle)
      · exact Or.inl haborted
    · exact Or.inr hrest
  refine ⟨haccounted.ids, fun id hlink => haccounted.named id (hnamed id hlink),
    haccounted.generations, haccounted.single, haccounted.vacant, ?_⟩
  intro kind id generation hworking
  exact haccounted.held kind id generation
    ⟨fun haborted => hworking.1 (List.mem_append_right _ haborted), hworking.2⟩

/-- `next` is what a task without handles does next, if that takes no generation. -/
structure LinkTask.Continues (task next : LinkTask) : Prop where
  connecting : next.connecting = true → task.connecting = true
  taken : next.taken = none
  plain : task.plain = true ∧ next.plain = true
  works : ∀ kind generation, next.worksAt kind = some generation →
    task.worksAt kind = some generation

theorem Accounted.continues (haccounted : Accounted link) (hget : link.tasks.get id = some task)
    (hcontinues : task.Continues next) : Accounted (link.goOn id next) := by
  refine haccounted.goOn (haccounted.ids id task hget) ?_ ?_ ?_ ?_ ?_
  · intro hconnecting hnames
    have hplain := (haccounted.named id hnames).2 task hget
    rw [hcontinues.connecting hconnecting] at hplain
    cases hplain
  · intro generation htaken
    rw [hcontinues.taken] at htaken
    cases htaken
  · exact fun other hnames => absurd hnames (LinkTask.not_names_of_plain hcontinues.plain.2)
  · intro before kind handle hbefore hkeeps
    rw [hget, Option.some_inj] at hbefore
    rw [← hbefore, LinkTask.keeps_of_plain hcontinues.plain.1] at hkeeps
    cases hkeeps
  · intro kind generation hworks haborted
    exact haccounted.held kind id generation
      ⟨haborted, task, hget, hcontinues.works kind generation hworks⟩

/-- Numbers that no task has yet. -/
theorem Accounted.skip (haccounted : Accounted link) {count : ℕ} (hcount : link.nextTask ≤ count) :
    Accounted { link with nextTask := count } :=
  ⟨fun id task hget => (haccounted.ids id task hget).trans_le hcount,
    fun id hnames =>
      ⟨(haccounted.named id hnames).1.trans_le hcount, (haccounted.named id hnames).2⟩,
    haccounted.generations, haccounted.single, haccounted.vacant, haccounted.held⟩

theorem Accounted.get_eq_none (haccounted : Accounted link) (hid : link.nextTask ≤ id) :
    link.tasks.get id = none := by
  cases hget : link.tasks.get id with
  | none => rfl
  | some task => exact absurd (haccounted.ids id task hget) (by omega)

theorem Accounted.spawn (haccounted : Accounted link) (htaken : task.taken = none)
    (hplain : task.plain = true) (hworks : ∀ kind, task.worksAt kind = none) :
    Accounted (link.spawn task) := by
  have hskipped : Accounted { link with nextTask := link.nextTask + 1 } :=
    haccounted.skip (Nat.le_succ _)
  have hnone : link.tasks.get link.nextTask = none := haccounted.get_eq_none le_rfl
  show Accounted (({ link with nextTask := link.nextTask + 1 } : Link).goOn link.nextTask task)
  refine hskipped.goOn (Nat.lt_succ_self _) ?_ ?_ ?_ ?_ ?_
  · intro _ hnamed
    exact absurd (haccounted.named _ hnamed).1 (lt_irrefl _)
  · intro generation hsome
    rw [htaken] at hsome
    cases hsome
  · exact fun other hnamed => absurd hnamed (LinkTask.not_names_of_plain hplain)
  · intro before kind handle hbefore
    rw [hnone] at hbefore
    cases hbefore
  · intro kind generation hsome
    rw [hworks kind] at hsome
    cases hsome

/-- The handles are given up after their tasks were stopped, and with a higher generation or
the same. -/
theorem Accounted.release (haccounted : Accounted link) {generation : ℕ}
    (hstopped : ∀ kind id, link.handle kind = some id → id ∈ link.aborted)
    (hgeneration : link.connectGeneration ≤ generation) :
    Accounted { link with
      connectGeneration := generation, sseTask := none, heartbeatTask := none } := by
  refine ⟨haccounted.ids, ?_, ?_, haccounted.single, ?_, ?_⟩
  · intro id hnames
    obtain haborted | ⟨kind, hhandle⟩ | hrest := hnames
    · exact haccounted.named id (Or.inl haborted)
    · cases kind <;> cases hhandle
    · exact haccounted.named id (Or.inr (Or.inr hrest))
  · exact fun id task taken hget htaken =>
      (haccounted.generations id task taken hget htaken).trans hgeneration
  · intro id task _ _ kind
    cases kind with
    | sse => rfl
    | heartbeat => rfl
  · intro kind id worked hworking
    obtain ⟨hhandle, -⟩ | hconnect := haccounted.held kind id worked hworking
    · exact absurd (hstopped kind id hhandle) hworking.1
    · exact Or.inr hconnect

/-! ## The steps -/

theorem accounted_cancelReconnectTask (haccounted : Accounted link) :
    Accounted (cancelReconnectTask link) := by
  have haborted : Accounted (link.abort link.reconnectTask) :=
    haccounted.abort fun id hid => Or.inr (Or.inr (Or.inl hid))
  refine ⟨haborted.ids, ?_, haborted.generations, haborted.single, haborted.vacant,
    haborted.held⟩
  intro id hnames
  obtain hstopped | hhandle | hreconnect | htask := hnames
  · exact haborted.named id (Or.inl hstopped)
  · exact haborted.named id (Or.inr (Or.inl hhandle))
  · cases hreconnect
  · exact haborted.named id (Or.inr (Or.inr (Or.inr htask)))

/-- Both handles are used. -/
theorem Accounted.stop (haccounted : Accounted link) :
    Accounted ((link.abort link.sseTask).abort link.heartbeatTask) := by
  have hsse : Accounted (link.abort link.sseTask) :=
    haccounted.abort fun id hid => Or.inr (Or.inl ⟨.sse, hid⟩)
  exact hsse.abort fun id hid => Or.inr (Or.inl ⟨.heartbeat, hid⟩)

theorem stopped_of_handle (hhandle : link.handle kind = some id) :
    id ∈ ((link.abort link.sseTask).abort link.heartbeatTask).aborted := by
  cases kind with
  | sse =>
      have hsse : link.sseTask = some id := hhandle
      simp [Link.abort, hsse]
  | heartbeat =>
      have hheartbeat : link.heartbeatTask = some id := hhandle
      simp [Link.abort, hheartbeat]

theorem accounted_takeGeneration (haccounted : Accounted link)
    (hget : link.tasks.get id = some task) (hconnecting : task.connecting = true)
    (hplain : task.plain = true) : Accounted (takeGeneration link id) := by
  have hreleased : Accounted { (link.abort link.sseTask).abort link.heartbeatTask with
      connectGeneration := link.connectGeneration + 1, sseTask := none, heartbeatTask := none } :=
    haccounted.stop.release (fun _ _ hhandle => stopped_of_handle hhandle) (Nat.le_succ _)
  have hnext := @Accounted.goOn _ id (.announce (link.connectGeneration + 1)) hreleased
    (haccounted.ids id task hget) ?_ ?_ ?_ ?_ ?_
  · exact ⟨hnext.ids, hnext.named, hnext.generations, hnext.single, hnext.vacant, hnext.held⟩
  · intro _ hnames
    have hother := (hreleased.named id hnames).2 task hget
    rw [hconnecting] at hother
    cases hother
  · intro generation htaken
    cases htaken
    refine ⟨le_rfl, ?_, ?_⟩
    · intro other before _ hbefore htaken
      have hle := haccounted.generations other before _ hbefore htaken
      omega
    · intro _ kind
      cases kind with
      | sse => rfl
      | heartbeat => rfl
  · exact fun other hnames => absurd hnames (LinkTask.not_names_of_plain rfl)
  · intro before kind handle hbefore hsome
    have hsame : link.tasks.get id = some before := hbefore
    rw [hget, Option.some_inj] at hsame
    rw [← hsame, LinkTask.keeps_of_plain hplain] at hsome
    cases hsome
  · intro kind generation hworks
    cases kind <;> cases hworks

/-- The two tasks start, and `connect` has their handles. -/
theorem accounted_startTasks (haccounted : Accounted link) {generation : ℕ}
    (hget : link.tasks.get id = some (.announce generation)) :
    Accounted (startTasks link id generation) := by
  have hid : id < link.nextTask := haccounted.ids id _ hget
  have hnone : ∀ other, link.nextTask ≤ other → link.tasks.get other = none :=
    fun other hother => haccounted.get_eq_none hother
  have hskipped : Accounted { link with nextTask := link.nextTask + 1 + 1 } :=
    haccounted.skip (by omega)
  -- first the handles, so that the tasks are never without
  have hhandles : Accounted (({ link with nextTask := link.nextTask + 1 + 1 } : Link).goOn id
      (.keepHandles generation link.nextTask (link.nextTask + 1))) := by
    refine hskipped.goOn (show id < link.nextTask + 1 + 1 by omega) ?_ ?_ ?_ ?_ ?_
    · intro _ hnames
      have hplain := (hskipped.named id hnames).2 _ hget
      cases hplain
    · intro taken htaken
      cases htaken
      refine ⟨haccounted.generations id _ _ hget rfl, ?_, ?_⟩
      · intro other before hne hbefore htaken
        exact hne (haccounted.single other id before _ _ hbefore hget htaken rfl)
      · rintro rfl
        exact hskipped.vacant id _ hget rfl
    · rintro other (⟨kind, taken, hkeeps⟩ | hkeeps)
      · have hfresh : link.nextTask ≤ other ∧ other < link.nextTask + 1 + 1 := by
          cases kind with
          | sse =>
              cases hkeeps
              omega
          | heartbeat =>
              cases hkeeps
              omega
        refine ⟨hfresh.2, by omega, fun before hbefore => ?_⟩
        rw [hnone other hfresh.1] at hbefore
        cases hbefore
      · cases hkeeps
    · intro before kind handle hbefore hkeeps
      have hsame : link.tasks.get id = some before := hbefore
      rw [hget, Option.some_inj] at hsame
      subst hsame
      cases kind <;> cases hkeeps
    · intro kind worked hworks
      cases kind <;> cases hworks
  generalize hheld : ({ link with nextTask := link.nextTask + 1 + 1 } : Link).goOn id
    (.keepHandles generation link.nextTask (link.nextTask + 1)) = held at hhandles
  have hcount : held.nextTask = link.nextTask + 1 + 1 := by
    rw [← hheld]
    rfl
  have hconnect : held.tasks.get id =
      some (.keepHandles generation link.nextTask (link.nextTask + 1)) := by
    rw [← hheld]
    exact OrderedMap.get_set_self _ _ _
  have hfree : ∀ other, link.nextTask ≤ other → held.tasks.get other = none := by
    intro other hother
    rw [← hheld]
    exact (OrderedMap.get_set_of_ne _ _ (by omega)).trans (hnone other hother)
  have hstream : Accounted (held.goOn link.nextTask (.stream generation)) := by
    refine hhandles.goOn (by omega) nofun nofun ?_ ?_ ?_
    · exact fun other hnames => absurd hnames (LinkTask.not_names_of_plain rfl)
    · intro before kind handle hbefore
      rw [hfree _ le_rfl] at hbefore
      cases hbefore
    · intro kind worked hworks _
      cases kind with
      | sse =>
          cases hworks
          exact Or.inr ⟨id, _, hconnect, rfl⟩
      | heartbeat => cases hworks
  have hheartbeat : Accounted ((held.goOn link.nextTask (.stream generation)).goOn
      (link.nextTask + 1) (.heartbeat generation)) := by
    refine hstream.goOn (show link.nextTask + 1 < held.nextTask by omega) nofun nofun ?_ ?_ ?_
    · exact fun other hnames => absurd hnames (LinkTask.not_names_of_plain rfl)
    · intro before kind handle hbefore
      have hold : held.tasks.get (link.nextTask + 1) = some before :=
        (OrderedMap.get_set_of_ne _ _ (Nat.succ_ne_self _)).symm.trans hbefore
      rw [hfree _ (Nat.le_succ _)] at hold
      cases hold
    · intro kind worked hworks _
      cases kind with
      | sse => cases hworks
      | heartbeat =>
          cases hworks
          have hstill : (held.goOn link.nextTask (.stream generation)).tasks.get id =
              some (.keepHandles generation link.nextTask (link.nextTask + 1)) :=
            (OrderedMap.get_set_of_ne _ _ (by omega)).trans hconnect
          exact Or.inr ⟨id, _, hstill, rfl⟩
  have hsame : ∀ other, (startTasks link id generation).tasks.get other =
      ((held.goOn link.nextTask (.stream generation)).goOn
        (link.nextTask + 1) (.heartbeat generation)).tasks.get other := by
    intro other
    simp only [startTasks, Link.spawn, Link.goOn, ← hheld, OrderedMap.get_set]
    grind
  have hend := hheartbeat.of_same hsame
  subst hheld
  exact ⟨hend.ids, hend.named, hend.generations, hend.single, hend.vacant, hend.held⟩

/-- The handles of the current generation are kept; others are used at once. -/
theorem accounted_keepHandles (haccounted : Accounted link) {generation sseTask heartbeatTask : ℕ}
    (hget : link.tasks.get id = some (.keepHandles generation sseTask heartbeatTask)) :
    Accounted (keepHandles link id generation sseTask heartbeatTask) := by
  have hnamed : ∀ other, other = sseTask ∨ other = heartbeatTask → link.Names other := by
    rintro other (rfl | rfl)
    · exact Or.inr (Or.inr (Or.inr ⟨id, _, hget, Or.inl ⟨.sse, _, rfl⟩⟩))
    · exact Or.inr (Or.inr (Or.inr ⟨id, _, hget, Or.inl ⟨.heartbeat, _, rfl⟩⟩))
  unfold keepHandles
  split
  next hcurrent =>
    have hempty : ∀ kind, link.handle kind = none :=
      haccounted.vacant id _ hget (congrArg some hcurrent.symm)
    refine haccounted.finish rfl ?_ ?_ ?_ ?_
    · rintro other (⟨kind, hhandle⟩ | hreconnect)
      · cases kind with
        | sse =>
            cases hhandle
            exact hnamed sseTask (Or.inl rfl)
        | heartbeat =>
            cases hhandle
            exact hnamed heartbeatTask (Or.inr rfl)
      · exact Or.inr (Or.inr (Or.inl hreconnect))
    · intro other task hne hother htaken
      refine absurd (haccounted.single other id task _ _ hother hget htaken ?_) hne
      exact congrArg some hcurrent.symm
    · intro task kind taken handle hbefore hkeeps _
      rw [hget, Option.some_inj] at hbefore
      subst hbefore
      cases kind with
      | sse =>
          cases hkeeps
          exact ⟨rfl, hcurrent.symm⟩
      | heartbeat =>
          cases hkeeps
          exact ⟨rfl, hcurrent.symm⟩
    · intro kind handle hhandle
      rw [hempty kind] at hhandle
      cases hhandle
  · have hsse : Accounted (link.abort (some sseTask)) :=
      haccounted.abort fun other hother => hnamed other (Or.inl (Option.some_inj.mp hother).symm)
    have haborted : Accounted ((link.abort (some sseTask)).abort (some heartbeatTask)) :=
      hsse.abort fun other hother =>
        (hnamed other (Or.inr (Option.some_inj.mp hother).symm)).abort
    show Accounted (((link.abort (some sseTask)).abort (some heartbeatTask)).finish id)
    refine haborted.finish rfl ?_ ?_ ?_ ?_
    · rintro other (hhandle | hreconnect)
      · exact Or.inr (Or.inl hhandle)
      · exact Or.inr (Or.inr (Or.inl hreconnect))
    · exact fun other task _ hother htaken => haborted.vacant other task hother htaken
    · intro task kind taken handle hbefore hkeeps hrunning
      have hsame : link.tasks.get id = some task := hbefore
      rw [hget, Option.some_inj] at hsame
      subst hsame
      refine absurd ?_ hrunning
      cases kind with
      | sse =>
          cases hkeeps
          simp [Link.abort]
      | heartbeat =>
          cases hkeeps
          simp [Link.abort]
    · exact fun _ _ hhandle => hhandle

theorem accounted_keepReconnect (haccounted : Accounted link) {reconnectTask : ℕ}
    (hget : link.tasks.get id = some (.keepReconnect reconnectTask)) :
    Accounted { link.finish id with reconnectTask := some reconnectTask } := by
  refine haccounted.finish rfl ?_ ?_ ?_ ?_
  · rintro other (hhandle | hreconnect)
    · exact Or.inr (Or.inl hhandle)
    · cases hreconnect
      exact Or.inr (Or.inr (Or.inr ⟨id, _, hget, Or.inr rfl⟩))
  · exact fun other task _ hother htaken => haccounted.vacant other task hother htaken
  · intro task kind generation handle hbefore hkeeps
    rw [hget, Option.some_inj] at hbefore
    subst hbefore
    cases kind <;> cases hkeeps
  · exact fun _ _ hhandle => hhandle

theorem accounted_spawnReconnect (haccounted : Accounted link) {generation : ℕ}
    (hget : link.tasks.get id = some (.spawnReconnect generation)) :
    Accounted ((link.spawn (.reconnect generation link.app)).goOn id
      (.keepReconnect link.nextTask)) := by
  have hid : id < link.nextTask := haccounted.ids id _ hget
  have hspawned : Accounted (link.spawn (.reconnect generation link.app)) := by
    refine haccounted.spawn rfl rfl fun kind => ?_
    cases kind <;> rfl
  refine hspawned.goOn (show id < link.nextTask + 1 by omega) nofun nofun ?_ ?_ ?_
  · rintro other (⟨kind, taken, hkeeps⟩ | hkeeps)
    · cases kind <;> cases hkeeps
    · cases hkeeps
      refine ⟨Nat.lt_succ_self _, hid.ne', fun before hbefore => ?_⟩
      have hreconnect : (link.spawn (.reconnect generation link.app)).tasks.get link.nextTask =
          some (.reconnect generation link.app) := OrderedMap.get_set_self _ _ _
      rw [hreconnect] at hbefore
      cases hbefore
      rfl
  · intro before kind handle hbefore hkeeps
    have hsame : link.tasks.get id = some before :=
      (OrderedMap.get_set_of_ne _ _ hid.ne).symm.trans hbefore
    rw [hget, Option.some_inj] at hsame
    subst hsame
    cases kind <;> cases hkeeps
  · intro kind worked hworks
    cases kind <;> cases hworks

theorem LinkTask.continues_of_idle (hconnecting : next.connecting = true → task.connecting = true)
    (htaken : next.taken = none) (hbefore : task.plain = true) (hplain : next.plain = true)
    (hidle : ∀ kind, next.worksAt kind = none) : task.Continues next := by
  refine ⟨hconnecting, htaken, ⟨hbefore, hplain⟩, fun kind generation hworks => ?_⟩
  rw [hidle kind] at hworks
  cases hworks

theorem LinkTask.continues_failure {generation : ℕ} (hplain : task.plain = true) :
    task.Continues (.failure generation) := by
  refine LinkTask.continues_of_idle nofun rfl hplain rfl fun kind => ?_
  cases kind <;> rfl

/-- **A task** keeps the account. -/
theorem accounted_advance {ok : Bool} (haccounted : Accounted link)
    (hget : link.tasks.get id = some task) : Accounted (advance link id ok task) := by
  have hends : task.plain = true → Accounted (link.finish id) := by
    intro hplain
    refine haccounted.finish_plain fun before kind hbefore => ?_
    rw [hget, Option.some_inj] at hbefore
    rw [← hbefore, LinkTask.keeps_of_plain hplain]
  have hcancelled : Accounted (cancelReconnectTask link) :=
    accounted_cancelReconnectTask haccounted
  cases task with
  | cancelReconnect =>
      refine hcancelled.continues hget (LinkTask.continues_of_idle (fun _ => rfl) rfl rfl rfl ?_)
      intro kind
      cases kind <;> rfl
  | readFlags fromReconnect =>
      show Accounted (readFlags link id fromReconnect)
      unfold readFlags
      split
      · exact hends rfl
      split
      · exact hends rfl
      · refine haccounted.continues hget (LinkTask.continues_of_idle (fun _ => rfl) rfl rfl rfl ?_)
        intro kind
        cases kind <;> rfl
  | takeGeneration fromReconnect overtaken =>
      exact accounted_takeGeneration haccounted hget rfl rfl
  | announce generation =>
      show Accounted (if ok then startTasks link id generation
        else link.goOn id (.failure generation))
      split
      · exact accounted_startTasks haccounted hget
      · exact haccounted.continues hget (LinkTask.continues_failure rfl)
  | keepHandles generation sseTask heartbeatTask => exact accounted_keepHandles haccounted hget
  | stream generation =>
      show Accounted (if ok then link.finish id else link.goOn id (.failure generation))
      split
      · exact hends rfl
      · exact haccounted.continues hget (LinkTask.continues_failure rfl)
  | heartbeat generation =>
      show Accounted (if link.wanted generation then link.goOn id (.beat generation)
        else link.finish id)
      split
      · exact haccounted.continues hget ⟨nofun, rfl, ⟨rfl, rfl⟩, fun kind worked hworks => by
          cases kind <;> exact hworks⟩
      · exact hends rfl
  | beat generation =>
      show Accounted (link.goOn id (if ok then .heartbeat generation else .failure generation))
      split
      · exact haccounted.continues hget ⟨nofun, rfl, ⟨rfl, rfl⟩, fun kind worked hworks => by
          cases kind <;> exact hworks⟩
      · exact haccounted.continues hget (LinkTask.continues_failure rfl)
  | failure generation =>
      show Accounted (if link.wanted generation then link.goOn id (.schedule generation)
        else link.finish id)
      split
      · refine haccounted.continues hget (LinkTask.continues_of_idle nofun rfl rfl rfl ?_)
        intro kind
        cases kind <;> rfl
      · exact hends rfl
  | schedule generation =>
      refine hcancelled.continues hget (LinkTask.continues_of_idle nofun rfl rfl rfl ?_)
      intro kind
      cases kind <;> rfl
  | spawnReconnect generation => exact accounted_spawnReconnect haccounted hget
  | keepReconnect reconnectTask => exact accounted_keepReconnect haccounted hget
  | reconnect generation app =>
      show Accounted (if app ∧ link.wanted generation then (link.finish id).spawn (.readFlags true)
        else link.finish id)
      split
      · refine (hends rfl).spawn rfl rfl fun kind => ?_
        cases kind <;> rfl
      · exact hends rfl

/-- What a disconnect overtakes is still the same task. -/
theorem accounted_setClosed (haccounted : Accounted link) (closed : Bool) :
    Accounted (link.setClosed closed) := by
  have hget : ∀ id, (link.setClosed closed).tasks.get id =
      (link.tasks.get id).map fun task => task.overtake closed := fun id =>
    OrderedMap.get_mapValues _ _ _
  have hcases : ∀ id task, (link.setClosed closed).tasks.get id = some task →
      ∃ before, link.tasks.get id = some before ∧ before.overtake closed = task := by
    intro id task hsome
    rw [hget id, Option.map_eq_some_iff] at hsome
    exact hsome
  have hconnecting : ∀ task : LinkTask, (task.overtake closed).connecting = task.connecting := by
    intro task
    cases task <;> rfl
  have htaken : ∀ task : LinkTask, (task.overtake closed).taken = task.taken := by
    intro task
    cases task <;> rfl
  have hworksAt : ∀ (task : LinkTask) kind,
      (task.overtake closed).worksAt kind = task.worksAt kind := by
    intro task kind
    cases task <;> rfl
  have hkeeps : ∀ (task : LinkTask) kind, (task.overtake closed).keeps kind = task.keeps kind := by
    intro task kind
    cases task <;> rfl
  have hnames : ∀ (task : LinkTask) id, (task.overtake closed).Names id → task.Names id := by
    intro task id hnames
    cases task with
    | takeGeneration => exact absurd hnames (LinkTask.not_names_of_plain rfl)
    | _ => exact hnames
  constructor
  case ids =>
    intro id task hsome
    obtain ⟨before, hbefore, -⟩ := hcases id task hsome
    exact haccounted.ids id before hbefore
  case named =>
    intro id hlink
    have hbefore : link.Names id := by
      obtain haborted | hhandle | hreconnect | ⟨holder, task, hsome, htask⟩ := hlink
      · exact Or.inl haborted
      · exact Or.inr (Or.inl hhandle)
      · exact Or.inr (Or.inr (Or.inl hreconnect))
      · obtain ⟨before, hbefore, rfl⟩ := hcases holder task hsome
        exact Or.inr (Or.inr (Or.inr ⟨holder, before, hbefore, hnames before id htask⟩))
    refine ⟨(haccounted.named id hbefore).1, fun task hsome => ?_⟩
    obtain ⟨before, hold, rfl⟩ := hcases id task hsome
    rw [hconnecting]
    exact (haccounted.named id hbefore).2 before hold
  case generations =>
    intro id task generation hsome htask
    obtain ⟨before, hbefore, rfl⟩ := hcases id task hsome
    exact haccounted.generations id before generation hbefore (by rwa [htaken] at htask)
  case single =>
    intro first second task task' generation hfirst hsecond htask htask'
    obtain ⟨before, hbefore, rfl⟩ := hcases first task hfirst
    obtain ⟨before', hbefore', rfl⟩ := hcases second task' hsecond
    rw [htaken] at htask htask'
    exact haccounted.single first second before before' generation hbefore hbefore' htask htask'
  case vacant =>
    intro id task hsome htask
    obtain ⟨before, hbefore, rfl⟩ := hcases id task hsome
    rw [htaken] at htask
    exact haccounted.vacant id before hbefore htask
  case held =>
    intro kind id generation hworking
    obtain ⟨haborted, task, hsome, hworks⟩ := hworking
    obtain ⟨before, hbefore, rfl⟩ := hcases id task hsome
    rw [hworksAt] at hworks
    obtain hhandle | ⟨connect, holder, hconnect, hholder⟩ :=
      haccounted.held kind id generation ⟨haborted, before, hbefore, hworks⟩
    · exact Or.inl hhandle
    · refine Or.inr ⟨connect, holder.overtake closed, ?_, (hkeeps holder kind).trans hholder⟩
      rw [hget, hconnect, Option.map_some]

/-- **Every step** keeps the account. -/
theorem accounted_linkStep (haccounted : Accounted link) (event : LinkEvent) :
    Accounted (linkStep link event) := by
  cases event with
  | setApp =>
      exact ⟨haccounted.ids, haccounted.named, haccounted.generations, haccounted.single,
        haccounted.vacant, haccounted.held⟩
  | setChannelOpen =>
      have hopened : Accounted (link.setClosed false) := accounted_setClosed haccounted false
      exact ⟨hopened.ids, hopened.named, hopened.generations, hopened.single, hopened.vacant,
        hopened.held⟩
  | connect =>
      refine (accounted_setClosed haccounted false).spawn rfl rfl fun kind => ?_
      cases kind <;> rfl
  | reload shouldConnect =>
      have hmarked : Accounted (link.setClosed (link.closed && !shouldConnect)) :=
        accounted_setClosed haccounted _
      exact ⟨hmarked.ids, hmarked.named, hmarked.generations, hmarked.single, hmarked.vacant,
        hmarked.held⟩
  | disconnect =>
      have hreleased : Accounted { (link.abort link.sseTask).abort link.heartbeatTask with
          sseTask := none, heartbeatTask := none } :=
        haccounted.stop.release (fun _ _ hhandle => stopped_of_handle hhandle) le_rfl
      have hclosed := accounted_setClosed (accounted_cancelReconnectTask hreleased) true
      exact ⟨hclosed.ids, hclosed.named, hclosed.generations, hclosed.single, hclosed.vacant,
        hclosed.held⟩
  | go id ok =>
      rw [linkStep]
      split
      next task hget => exact accounted_advance haccounted hget
      · exact haccounted
  | cancel id =>
      rw [linkStep]
      split
      next haborted =>
        refine haccounted.finish_plain fun task kind hget => ?_
        cases hkeeps : task.keeps kind with
        | none => rfl
        | some handle =>
            -- what was aborted is not a `connect`
            have hplain := (haccounted.named id (Or.inl haborted)).2 task hget
            cases task with
            | keepHandles => cases hplain
            | _ => cases kind <;> cases hkeeps
      · exact haccounted

/-! ## Runs -/

theorem accounted_initial : Accounted .initial := by
  have hnone : ∀ id, Link.initial.tasks.get id = none := fun id => OrderedMap.get_empty id
  have hempty : ∀ kind, Link.initial.handle kind = none := by
    intro kind
    cases kind <;> rfl
  refine ⟨nofun, ?_, nofun, nofun, nofun, ?_⟩
  · rintro id (haborted | ⟨kind, hhandle⟩ | hreconnect | ⟨holder, task, hget, -⟩)
    · cases haborted
    · rw [hempty kind] at hhandle
      cases hhandle
    · cases hreconnect
    · rw [hnone holder] at hget
      cases hget
  · rintro kind id generation ⟨-, task, hget, -⟩
    rw [hnone id] at hget
    cases hget

theorem accounted_run (events : List LinkEvent) : Accounted (Steps.run linkStep .initial events) :=
  @Steps.run_preserves_of_step _ _ linkStep .initial Accounted
    (fun _ event haccounted => accounted_linkStep haccounted event) events accounted_initial

/-- One generation has one stream and one heartbeat. -/
theorem Accounted.unique (haccounted : Accounted link) {other generation : ℕ}
    (hworking : link.Working kind id generation) (hother : link.Working kind other generation) :
    id = other := by
  obtain ⟨hhandle, hcurrent⟩ | ⟨connect, task, hget, hkeeps⟩ := haccounted.held _ _ _ hworking
  · obtain ⟨hhandle', -⟩ | ⟨connect', task', hget', hkeeps'⟩ := haccounted.held _ _ _ hother
    · exact Option.some_inj.mp (hhandle.symm.trans hhandle')
    · have htaken := LinkTask.taken_of_keeps hkeeps'
      rw [hcurrent] at htaken
      rw [haccounted.vacant connect' task' hget' htaken kind] at hhandle
      cases hhandle
  · have htaken := LinkTask.taken_of_keeps hkeeps
    obtain ⟨hhandle', hcurrent⟩ | ⟨connect', task', hget', hkeeps'⟩ :=
      haccounted.held _ _ _ hother
    · rw [hcurrent] at htaken
      rw [haccounted.vacant connect task hget htaken kind] at hhandle'
      cases hhandle'
    · have hconnect := haccounted.single connect connect' task task' generation hget hget' htaken
        (LinkTask.taken_of_keeps hkeeps')
      subst hconnect
      rw [hget, Option.some_inj] at hget'
      subst hget'
      rw [hkeeps, Option.some_inj, Prod.mk.injEq] at hkeeps'
      exact hkeeps'.2

/-- No `connect` has handles that it has not kept yet. -/
def Link.Settled (link : Link) : Prop :=
  ∀ id task, link.tasks.get id = some task → ∀ kind, task.keeps kind = none

/-- **No stream and no heartbeat is lost.**  Whatever was interrupted by what, a stream that
goes on is the only one of its generation, and somebody has its handle: the backend, if the
generation is the current one, or the `connect` that spawned it.  Once no `connect` is about
to keep handles, it is the only one at all, and the next `connect` or disconnect stops it. -/
theorem no_task_lost (events : List LinkEvent) (kind : HeldTask) {id generation : ℕ}
    (hworking : (Steps.run linkStep .initial events).Working kind id generation) :
    (Steps.run linkStep .initial events).Holds kind id generation ∧
      (∀ other, (Steps.run linkStep .initial events).Working kind other generation →
        other = id) ∧
      ((Steps.run linkStep .initial events).Settled →
        (Steps.run linkStep .initial events).handle kind = some id ∧
          ∀ other generation',
            (Steps.run linkStep .initial events).Working kind other generation' → other = id) := by
  have haccounted := accounted_run events
  generalize Steps.run linkStep .initial events = link at haccounted hworking ⊢
  have hsettled : link.Settled → ∀ other generation',
      link.Working kind other generation' → link.handle kind = some other := by
    intro hsettled other generation' hother
    obtain ⟨hhandle, -⟩ | ⟨connect, task, hget, hkeeps⟩ := haccounted.held _ _ _ hother
    · exact hhandle
    · rw [hsettled connect task hget kind] at hkeeps
      cases hkeeps
  refine ⟨haccounted.held kind id generation hworking, ?_, fun hquiet => ?_⟩
  · exact fun other hother => haccounted.unique hother hworking
  · have hhandle := hsettled hquiet id generation hworking
    refine ⟨hhandle, fun other generation' hother => ?_⟩
    exact Option.some_inj.mp ((hsettled hquiet other generation' hother).symm.trans hhandle)

end LinkHandles

/-- The user connects, and disconnects after the tasks were spawned and before their handles
are kept. -/
def lateDisconnect : List LinkEvent :=
  [.setChannelOpen, .connect, .go 0 true, .go 0 true, .go 0 true, .go 0 true, .disconnect]

/-- The stream goes on for now; `connect` has its handle, and keeps it. -/
theorem no_task_lost_disconnecting :
    (Steps.run linkStep .initial lateDisconnect).channelOpen = false ∧
      (Steps.run linkStep .initial lateDisconnect).Holds .sse 1 1 ∧
      (∀ other, (Steps.run linkStep .initial lateDisconnect).Working .sse other 1 → other = 1) ∧
      (Steps.run linkStep .initial (lateDisconnect ++ [.go 0 true])).handle .sse = some 1 := by
  have hworking : (Steps.run linkStep .initial lateDisconnect).Working .sse 1 1 :=
    ⟨by decide, .stream 1, by decide, rfl⟩
  obtain ⟨hholds, hunique, -⟩ := no_task_lost lateDisconnect .sse hworking
  exact ⟨by decide, hholds, hunique, by decide⟩

end OpenClaw.Desktop
