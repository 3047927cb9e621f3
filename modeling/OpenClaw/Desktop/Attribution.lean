import OpenClaw.Desktop.GatewayRuns

/-!
# Whose reply a chat event is

Chat events come late and come twice.  The desktop forgets a run once it is over, so a late
event of it is like one of an unknown run: it is bound to whatever run of the session is
pending, and what it says becomes the reply to another message.  Every event is taken for
its own run exactly if no such event finds a run to be bound to (`attributed_iff`).

Two facts carry the proof: a run that is over has no alias, because `removePendingRun` takes
its aliases along, and a handler only touches the run that its event was taken for.
-/

namespace OpenClaw.Desktop

open OpenClaw.Runtime StableSort

/-- No event that came after its run was over was taken for another run. -/
def Attributed (runs : GatewayRuns) : Prop :=
  ∀ attribution ∈ runs.attributions, attribution.late = true →
    attribution.primaryRunId = attribution.runId

/-- A chat event of a run that is over, and not pending again, finds a run of its session to
be bound to. -/
def Stray (runs : GatewayRuns) : GatewayEvent → Prop
  | .chat iter now payload =>
      readJsonString payload ["runId"] ≠ "" ∧
        readJsonString payload ["runId"] ∈ runs.completed ∧
        (prunePendingRuns runs now).pendingRuns.get (readJsonString payload ["runId"]) = none ∧
        normalizeOpenclawSessionKey (readJsonString payload ["sessionKey"]) ≠ "" ∧
        selectRun iter (prunePendingRuns runs now).pendingRuns
          (normalizeOpenclawSessionKey (readJsonString payload ["sessionKey"])) ≠ none
  | _ => False

/-- What holds as long as no event strays. -/
structure Orderly (runs : GatewayRuns) : Prop where
  aliases : ∀ runId ∈ runs.completed, runs.aliases.get runId = none
  tasks : ∀ task ∈ runs.tasks, task.handling.late = true →
    task.handling.primaryRunId = task.handling.runId
  attributed : Attributed runs

section Attribution

variable {iter : IterOrder} {runs : GatewayRuns} {now : ℕ} {runId primaryRunId sessionKey : String}
  {payload : Json} {handling : Handling}

/-! ## Removing and pruning -/

theorem get_aliases_removePendingRun (hnone : runs.aliases.get runId = none) :
    (removePendingRun runs primaryRunId).aliases.get runId = none := by
  rw [removePendingRun, OrderedMap.get_filter, hnone]
  rfl

/-- The run that is removed has no alias any more. -/
theorem get_aliases_removePendingRun_self :
    (removePendingRun runs runId).aliases.get runId = none := by
  rw [removePendingRun, OrderedMap.get_filter]
  cases runs.aliases.get runId with
  | none => rfl
  | some mapped => simp

/-- Removing runs leaves the rest alone and makes no aliases. -/
structure OnlyRemoves (before after : GatewayRuns) : Prop where
  sending : after.sending = before.sending
  tasks : after.tasks = before.tasks
  completed : after.completed = before.completed
  attributions : after.attributions = before.attributions
  aliases : ∀ runId, before.aliases.get runId = none → after.aliases.get runId = none

theorem onlyRemoves_prunePendingRuns : OnlyRemoves runs (prunePendingRuns runs now) := by
  have hfold : ∀ (expired : List String) (runs : GatewayRuns),
      OnlyRemoves runs (expired.foldl removePendingRun runs) := by
    intro expired
    induction expired with
    | nil => exact fun runs => ⟨rfl, rfl, rfl, rfl, fun _ hnone => hnone⟩
    | cons runId rest ih =>
        intro runs
        obtain ⟨hsending, htasks, hcompleted, hattributions, haliases⟩ :=
          ih (removePendingRun runs runId)
        exact ⟨hsending, htasks, hcompleted, hattributions, fun other hnone =>
          haliases other (get_aliases_removePendingRun hnone)⟩
  exact hfold _ runs

/-! ## Finding the run -/

/-- A selected run is pending. -/
theorem get_of_selectRun {pendingRuns : PendingRuns}
    (hselect : selectRun iter pendingRuns sessionKey = some primaryRunId) :
    ∃ pending, pendingRuns.get primaryRunId = some pending := by
  have hentry : ∀ {entries : List (String × PendingOpenClawRun)},
      (∀ entry ∈ entries, entry ∈ pendingRuns.entries) →
        entries.head?.map Prod.fst = some primaryRunId →
          ∃ pending, pendingRuns.get primaryRunId = some pending := by
    intro entries hsub hhead
    obtain ⟨entry, hmem, rfl⟩ := Option.map_eq_some_iff.mp hhead
    exact ⟨entry.2, OrderedMap.get_eq_some_iff.mpr (hsub _ (List.mem_of_mem_head? hmem))⟩
  have hsame : ∀ {keep : String × PendingOpenClawRun → Bool},
      ∀ entry ∈ (iter.order pendingRuns.entries).filter keep, entry ∈ pendingRuns.entries :=
    fun entry hmem => (IterOrder.mem_order iter).mp (List.mem_of_mem_filter hmem)
  unfold selectRun at hselect
  dsimp only at hselect
  split at hselect
  · exact hentry (fun entry hmem => hsame entry (List.mem_of_mem_filter hmem)) hselect
  · split at hselect
    · refine hentry (fun entry hmem => ?_) hselect
      exact hsame entry (List.mem_of_mem_filter ((sortBy_perm _).mem_iff.mp hmem))
    · split at hselect
      · exact hentry hsame hselect
      · cases hselect

/-- Without an alias an event finds its own run, or the selected one, or none; only when one
is selected there is an alias afterwards. -/
inductive Found (iter : IterOrder) (pruned : GatewayRuns) (runId sessionKey : String) :
    GatewayRuns × Option (String × PendingOpenClawRun) → Prop
  | own {resolved : GatewayRuns} {pending : PendingOpenClawRun}
      (halias : resolved.aliases.get runId = none) :
      Found iter pruned runId sessionKey (resolved, some (runId, pending))
  | selected {resolved : GatewayRuns} {primaryRunId : String} {pending : PendingOpenClawRun}
      (hget : pruned.pendingRuns.get runId = none)
      (hkey : normalizeOpenclawSessionKey sessionKey ≠ "")
      (hselect : selectRun iter pruned.pendingRuns (normalizeOpenclawSessionKey sessionKey) =
        some primaryRunId) :
      Found iter pruned runId sessionKey (resolved, some (primaryRunId, pending))
  | none {resolved : GatewayRuns} (halias : resolved.aliases.get runId = none) :
      Found iter pruned runId sessionKey (resolved, .none)

theorem found_of_no_alias (hnone : runs.aliases.get runId = none) :
    Found iter (prunePendingRuns runs now) runId sessionKey
      (resolvePendingRun iter runs now runId sessionKey) := by
  have htarget : aliasTarget (prunePendingRuns runs now) runId = none := by
    rw [aliasTarget, onlyRemoves_prunePendingRuns.aliases runId hnone]
    rfl
  have herase : ((prunePendingRuns runs now).aliases.erase runId).get runId = none :=
    OrderedMap.get_erase_self _ runId
  unfold resolvePendingRun
  dsimp only
  rw [htarget]
  dsimp only
  cases hget : (prunePendingRuns runs now).pendingRuns.get runId with
  | some pending => exact .own herase
  | none =>
      dsimp only
      by_cases hkey : normalizeOpenclawSessionKey sessionKey = ""
      · rw [if_pos hkey]
        exact .none herase
      rw [if_neg hkey]
      cases hselect : selectRun iter (prunePendingRuns runs now).pendingRuns
          (normalizeOpenclawSessionKey sessionKey) with
      | none => exact .none herase
      | some primaryRunId =>
          obtain ⟨pending, hpending⟩ := get_of_selectRun hselect
          dsimp only
          rw [bindRun, hpending]
          exact .selected hget hkey hselect

/-- A selection binds the event to the selected run. -/
theorem resolvePendingRun_of_selected (hnone : runs.aliases.get runId = none)
    (hget : (prunePendingRuns runs now).pendingRuns.get runId = none)
    (hkey : normalizeOpenclawSessionKey sessionKey ≠ "")
    (hselect : selectRun iter (prunePendingRuns runs now).pendingRuns
      (normalizeOpenclawSessionKey sessionKey) ≠ none) :
    ∃ resolved primaryRunId pending, primaryRunId ≠ runId ∧
      resolvePendingRun iter runs now runId sessionKey =
        (resolved, some (primaryRunId, pending)) := by
  obtain ⟨primaryRunId, hprimary⟩ := Option.ne_none_iff_exists'.mp hselect
  obtain ⟨pending, hpending⟩ := get_of_selectRun hprimary
  have htarget : aliasTarget (prunePendingRuns runs now) runId = none := by
    rw [aliasTarget, onlyRemoves_prunePendingRuns.aliases runId hnone]
    rfl
  have hne : primaryRunId ≠ runId := by
    rintro rfl
    rw [hget] at hpending
    cases hpending
  unfold resolvePendingRun
  dsimp only
  rw [htarget, hget]
  dsimp only
  rw [if_neg hkey, hprimary]
  dsimp only
  rw [bindRun, hpending]
  exact ⟨_, _, _, hne, rfl⟩

/-- Whatever it finds, an event changes the aliases of its run only. -/
theorem resolvePendingRun_keeps :
    (resolvePendingRun iter runs now runId sessionKey).1.tasks = runs.tasks ∧
      (resolvePendingRun iter runs now runId sessionKey).1.completed = runs.completed ∧
      (resolvePendingRun iter runs now runId sessionKey).1.attributions = runs.attributions ∧
      ∀ other, other ≠ runId → runs.aliases.get other = none →
        (resolvePendingRun iter runs now runId sessionKey).1.aliases.get other = none := by
  obtain ⟨-, htasks, hcompleted, hattributions, haliases⟩ :=
    @onlyRemoves_prunePendingRuns runs now
  have herase : ∀ other, other ≠ runId → runs.aliases.get other = none →
      ((prunePendingRuns runs now).aliases.erase runId).get other = none := by
    intro other hne hnone
    rw [OrderedMap.get_erase_of_ne _ hne, haliases other hnone]
  unfold resolvePendingRun
  dsimp only
  split
  · exact ⟨htasks, hcompleted, hattributions, fun other _ => haliases other⟩
  split
  · exact ⟨htasks, hcompleted, hattributions, herase⟩
  split
  · exact ⟨htasks, hcompleted, hattributions, herase⟩
  split
  · have hset : ∀ primaryRunId other, other ≠ runId → runs.aliases.get other = none →
        (((prunePendingRuns runs now).aliases.erase runId).set runId primaryRunId).get other =
          none := by
      intro primaryRunId other hne hnone
      rw [OrderedMap.get_set_of_ne _ _ hne, herase other hne hnone]
    unfold bindRun
    dsimp only
    split
    · exact ⟨htasks, hcompleted, hattributions, hset _⟩
    · exact ⟨htasks, hcompleted, hattributions, hset _⟩
  · exact ⟨htasks, hcompleted, hattributions, herase⟩

/-! ## Steps -/

theorem Orderly.completeRun (horderly : Orderly runs) :
    Orderly (completeRun runs primaryRunId) where
  aliases := by
    intro runId hmem
    show (removePendingRun runs primaryRunId).aliases.get runId = none
    rcases List.mem_cons.mp hmem with rfl | hmem
    · exact get_aliases_removePendingRun_self
    · exact get_aliases_removePendingRun (horderly.aliases runId hmem)
  tasks := horderly.tasks
  attributed := horderly.attributed

/-- A handler of an event that does not stray. -/
theorem Orderly.record (horderly : Orderly runs) {effect : AttributionEffect}
    (hown : handling.late = true → handling.primaryRunId = handling.runId) :
    Orderly (record runs handling effect) where
  aliases := horderly.aliases
  tasks := horderly.tasks
  attributed := by
    intro attribution hmem
    rcases List.mem_cons.mp hmem with rfl | hmem
    · exact hown
    · exact horderly.attributed attribution hmem

/-- The pending runs do not matter. -/
theorem Orderly.withPending (horderly : Orderly runs) (pendingRuns : PendingRuns) :
    Orderly { runs with pendingRuns := pendingRuns } :=
  ⟨horderly.aliases, horderly.tasks, horderly.attributed⟩

theorem Orderly.withSending (horderly : Orderly runs) (sending : List String) :
    Orderly { runs with sending := sending } :=
  ⟨horderly.aliases, horderly.tasks, horderly.attributed⟩

theorem Orderly.addTask (horderly : Orderly runs) {task : GatewayTask}
    (hown : task.handling.late = true → task.handling.primaryRunId = task.handling.runId) :
    Orderly { runs with tasks := runs.tasks ++ [task] } where
  aliases := horderly.aliases
  tasks := by
    intro other hmem
    rcases List.mem_append.mp hmem with hmem | hmem
    · exact horderly.tasks other hmem
    · rwa [List.mem_singleton.mp hmem]
  attributed := horderly.attributed

theorem Orderly.prune (horderly : Orderly runs) : Orderly (prunePendingRuns runs now) := by
  obtain ⟨-, htasks, hcompleted, hattributions, haliases⟩ :=
    @onlyRemoves_prunePendingRuns runs now
  refine ⟨fun runId hmem => ?_, fun task hmem => ?_, fun attribution hmem => ?_⟩
  · rw [hcompleted] at hmem
    exact haliases runId (horderly.aliases runId hmem)
  · rw [htasks] at hmem
    exact horderly.tasks task hmem
  · rw [hattributions] at hmem
    exact horderly.attributed attribution hmem

theorem Orderly.performTask (horderly : Orderly runs) {task : GatewayTask}
    (hown : task.handling.late = true → task.handling.primaryRunId = task.handling.runId) :
    Orderly (performTask runs now task) := by
  cases task with
  | mirror handling text => exact horderly.completeRun.record hown
  | handle handling =>
      unfold Desktop.performTask
      dsimp only
      split
      · exact horderly.completeRun.record hown
      split
      · exact horderly.completeRun
      split
      · unfold handleDelta
        split
        · exact horderly
        split
        · exact (horderly.withPending _).record hown
        · exact horderly
      split
      · unfold handleFinal
        split
        · dsimp only
          split
          · exact horderly.withPending _
          · exact ((horderly.withPending _).record hown).addTask hown
        · exact horderly
      · exact horderly

theorem Orderly.receiveChat (horderly : Orderly runs)
    (hstray : ¬Stray runs (.chat iter now payload)) :
    Orderly (receiveChat iter runs now payload) := by
  unfold Desktop.receiveChat
  dsimp only
  split
  · exact horderly
  next hrun =>
    obtain ⟨htasks, hcompleted, hattributions, hothers⟩ := @resolvePendingRun_keeps iter runs now
      (readJsonString payload ["runId"]) (readJsonString payload ["sessionKey"])
    -- a run that is over is found under its own id or not at all
    have hfound : readJsonString payload ["runId"] ∈ runs.completed →
        (resolvePendingRun iter runs now (readJsonString payload ["runId"])
            (readJsonString payload ["sessionKey"])).1.aliases.get
              (readJsonString payload ["runId"]) = none ∧
          ∀ found ∈ (resolvePendingRun iter runs now (readJsonString payload ["runId"])
            (readJsonString payload ["sessionKey"])).2,
              found.1 = readJsonString payload ["runId"] := by
      intro hover
      have hcase := @found_of_no_alias iter runs now _ (readJsonString payload ["sessionKey"])
        (horderly.aliases _ hover)
      generalize resolvePendingRun iter runs now (readJsonString payload ["runId"])
        (readJsonString payload ["sessionKey"]) = result at hcase ⊢
      cases hcase with
      | own halias => exact ⟨halias, fun found hmem => by rw [← Option.some.inj hmem]⟩
      | selected hget hkey hselect =>
          exact absurd ⟨hrun, hover, hget, hkey, by rw [hselect]; exact Option.some_ne_none _⟩
            hstray
      | none halias => exact ⟨halias, fun found hmem => by cases hmem⟩
    generalize resolvePendingRun iter runs now (readJsonString payload ["runId"])
      (readJsonString payload ["sessionKey"]) = result
      at htasks hcompleted hattributions hothers hfound
    obtain ⟨resolved, found⟩ := result
    have hresolved : Orderly resolved := by
      refine ⟨fun runId hmem => ?_, fun task hmem => ?_, fun attribution hmem => ?_⟩
      · dsimp only at hcompleted
        rw [hcompleted] at hmem
        by_cases hsame : runId = readJsonString payload ["runId"]
        · rw [hsame] at hmem ⊢
          exact (hfound hmem).1
        · exact hothers runId hsame (horderly.aliases runId hmem)
      · dsimp only at htasks
        rw [htasks] at hmem
        exact horderly.tasks task hmem
      · dsimp only at hattributions
        rw [hattributions] at hmem
        exact horderly.attributed attribution hmem
    cases found with
    | none => exact hresolved
    | some found =>
        obtain ⟨primaryRunId, pending⟩ := found
        have hown : decide (readJsonString payload ["runId"] ∈ runs.completed) = true →
            primaryRunId = readJsonString payload ["runId"] := fun hlate =>
          (hfound (of_decide_eq_true hlate)).2 _ rfl
        dsimp only
        split
        · exact hresolved.record hown
        · exact (hresolved.record hown).addTask hown

theorem Orderly.step (horderly : Orderly runs) {event : GatewayEvent} (hstray : ¬Stray runs event) :
    Orderly (stepRuns runs event) := by
  cases event with
  | forward now runId bindingId mobileId text source =>
      show Orderly (forwardRun runs now runId bindingId mobileId text source)
      unfold forwardRun
      split
      · exact horderly
      · exact (horderly.prune.withPending _).withSending _
  | sent runId ok =>
      show Orderly (answerSend runs runId ok)
      unfold answerSend
      split
      · dsimp only
        split
        · exact horderly.withSending _
        · exact (horderly.withSending _).completeRun
      · exact horderly
  | chat iter now payload => exact horderly.receiveChat hstray
  | settle index now =>
      rw [stepRuns]
      cases htask : runs.tasks[index]? with
      | none => exact horderly
      | some task =>
          have hown := horderly.tasks task (List.mem_of_getElem? htask)
          have hrest : Orderly { runs with tasks := runs.tasks.eraseIdx index } :=
            ⟨horderly.aliases,
              fun other hmem => horderly.tasks other (List.mem_of_mem_eraseIdx hmem),
              horderly.attributed⟩
          exact hrest.performTask hown
  | closed =>
      show Orderly { runs with pendingRuns := ∅, aliases := ∅ }
      exact ⟨fun runId _ => OrderedMap.get_empty runId, horderly.tasks, horderly.attributed⟩

/-- An event that strays is taken for another run. -/
theorem not_attributed_of_stray (horderly : Orderly runs) {event : GatewayEvent}
    (hstray : Stray runs event) : ¬Attributed (stepRuns runs event) := by
  cases event with
  | chat iter now payload =>
      obtain ⟨hrun, hover, hget, hkey, hselect⟩ := hstray
      obtain ⟨resolved, primaryRunId, pending, hne, hresolve⟩ :=
        resolvePendingRun_of_selected (horderly.aliases _ hover) hget hkey hselect
      intro hattributed
      refine hne (hattributed ⟨.bound, readJsonString payload ["runId"], primaryRunId, true⟩ ?_ rfl)
      show _ ∈ (Desktop.receiveChat iter runs now payload).attributions
      unfold Desktop.receiveChat
      dsimp only
      rw [if_neg hrun, hresolve, decide_eq_true hover]
      dsimp only
      split
      · exact List.mem_cons_self
      · exact List.mem_cons_self
  | forward => exact hstray.elim
  | sent => exact hstray.elim
  | settle => exact hstray.elim
  | closed => exact hstray.elim

theorem attributions_performTask {task : GatewayTask} :
    runs.attributions ⊆ (performTask runs now task).attributions := by
  cases task with
  | mirror handling text => exact List.subset_cons_self _ _
  | handle handling =>
      unfold performTask
      dsimp only
      split
      · exact List.subset_cons_self _ _
      split
      · exact List.Subset.refl _
      split
      · unfold handleDelta
        split
        · exact List.Subset.refl _
        split
        · exact List.subset_cons_self _ _
        · exact List.Subset.refl _
      split
      · unfold handleFinal
        split
        · dsimp only
          split
          · exact List.Subset.refl _
          · exact List.subset_cons_self _ _
        · exact List.Subset.refl _
      · exact List.Subset.refl _

/-- What was done is not forgotten. -/
theorem attributions_step (event : GatewayEvent) :
    runs.attributions ⊆ (stepRuns runs event).attributions := by
  cases event with
  | forward now runId bindingId mobileId text source =>
      show _ ⊆ (forwardRun runs now runId bindingId mobileId text source).attributions
      unfold forwardRun
      split
      · exact List.Subset.refl _
      · show _ ⊆ (prunePendingRuns runs now).attributions
        rw [onlyRemoves_prunePendingRuns.attributions]
        exact List.Subset.refl _
  | sent runId ok =>
      show _ ⊆ (answerSend runs runId ok).attributions
      unfold answerSend
      split
      · dsimp only
        split
        · exact List.Subset.refl _
        · exact List.Subset.refl _
      · exact List.Subset.refl _
  | chat iter now payload =>
      show _ ⊆ (Desktop.receiveChat iter runs now payload).attributions
      unfold Desktop.receiveChat
      dsimp only
      split
      · exact List.Subset.refl _
      have hsame := (@resolvePendingRun_keeps iter runs now (readJsonString payload ["runId"])
        (readJsonString payload ["sessionKey"])).2.2.1
      split
      · next hresolve =>
          rw [hresolve] at hsame
          rw [← hsame]
          exact List.Subset.refl _
      · next hresolve =>
          rw [hresolve] at hsame
          rw [← hsame]
          split
          · exact List.subset_cons_self _ _
          · exact List.subset_cons_self _ _
  | settle index now =>
      rw [stepRuns]
      cases runs.tasks[index]? with
      | none => exact List.Subset.refl _
      | some task =>
          exact @attributions_performTask { runs with tasks := runs.tasks.eraseIdx index } now task
  | closed => exact List.Subset.refl _

/-! ## Runs -/

/-- **Every event is taken for its own run exactly if none strays.** -/
theorem attributed_iff (events : List GatewayEvent) :
    Attributed (Steps.run stepRuns .start events) ↔
      Steps.Along stepRuns (fun runs event => ¬Stray runs event) .start events := by
  have hkeep : ∀ (runs : GatewayRuns) (event : GatewayEvent), Orderly runs → ¬Stray runs event →
      Orderly (stepRuns runs event) := fun _ _ horderly hstray => horderly.step hstray
  have hbreak : ∀ (runs : GatewayRuns) (event : GatewayEvent), Orderly runs →
      ¬¬Stray runs event → ¬Attributed (stepRuns runs event) :=
    fun _ _ horderly hstray => not_attributed_of_stray horderly (not_not.mp hstray)
  have hback : ∀ (runs : GatewayRuns) (event : GatewayEvent), Attributed (stepRuns runs event) →
      Attributed runs := fun _ event hattributed attribution hmem hlate =>
    hattributed attribution (attributions_step event hmem) hlate
  have hstart : Orderly .start :=
    ⟨fun _ hmem => absurd hmem List.not_mem_nil, fun _ hmem => absurd hmem List.not_mem_nil,
      fun _ hmem => absurd hmem List.not_mem_nil⟩
  exact Steps.safe_iff_along (fun _ horderly => horderly.attributed) hkeep hbreak hback hstart

end Attribution

/-- The gateway's final event of the first run. -/
def finalEvent : Json :=
  .obj [("runId", .str "run_a"), ("sessionKey", .str (buildOpenclawMobileSessionKey "mobile")),
    ("state", .str "final"), ("message", .str "first answer")]

/-- Two messages of a mobile; the final event of the first run comes twice. -/
def repeatedFinal : List GatewayEvent :=
  [.forward 1000000 "run_a" "binding" "mobile" "first" "relay",
    .forward 1000000 "run_b" "binding" "mobile" "second" "relay",
    .chat .stored 1000001 finalEvent, .settle 0 1000001, .settle 0 1000001,
    .chat .stored 1000002 finalEvent, .settle 0 1000002, .settle 0 1000002]

/-- **A repeated answer becomes the answer to the next message.** -/
theorem not_attributed : ¬∀ events, Attributed (Steps.run stepRuns .start events) := by
  intro hall
  have hmem : ⟨.mirrored "binding" "mobile" "first answer", "run_a", "run_b", true⟩ ∈
      (Steps.run stepRuns .start repeatedFinal).attributions := by
    decide +kernel
  exact absurd (hall repeatedFinal _ hmem rfl) (by decide)

end OpenClaw.Desktop
