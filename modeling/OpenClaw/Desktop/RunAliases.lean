import OpenClaw.Desktop.Attribution

/-!
# Where aliases lead

A chat event of an unknown run becomes an alias of a pending one.  Aliases go with the run
they lead to, whichever way that ends, and a run that is pending under its own id is never
an alias.  The second needs run ids to be random: an event could have named the id of a run
that was not forwarded yet.
-/

namespace OpenClaw.Desktop

open OpenClaw.Runtime StableSort

/-- Every alias leads to a pending run and is none itself; a pending run has its own key. -/
structure Resolving (runs : GatewayRuns) : Prop where
  leads : ∀ runId primaryRunId, runs.aliases.get runId = some primaryRunId →
    ∃ pending, runs.pendingRuns.get primaryRunId = some pending
  named : ∀ runId pending, runs.pendingRuns.get runId = some pending → pending.runId = runId
  apart : ∀ runId primaryRunId, runs.aliases.get runId = some primaryRunId →
    runs.pendingRuns.get runId = none

/-- Beside that, every alias is the run of an event that was heard. -/
structure Heard (heard : List String) (runs : GatewayRuns) : Prop extends Resolving runs where
  aliases : ∀ runId primaryRunId, runs.aliases.get runId = some primaryRunId → runId ∈ heard

/-- The run ids that are made are not ones that were heard before. -/
def FreshRunIds : List String → List GatewayEvent → Prop
  | _, [] => True
  | heard, .forward _ runId _ _ _ _ :: rest => runId ∉ heard ∧ FreshRunIds heard rest
  | heard, .chat _ _ payload :: rest =>
      FreshRunIds (readJsonString payload ["runId"] :: heard) rest
  | heard, .sent _ _ :: rest => FreshRunIds heard rest
  | heard, .settle _ _ :: rest => FreshRunIds heard rest
  | heard, .closed :: rest => FreshRunIds heard rest

namespace Heard

variable {heard : List String} {runs : GatewayRuns} {now : ℕ} {runId primaryRunId : String}
  {pending : PendingOpenClawRun} {handling : Handling}

/-! ## Runs that end -/

theorem start (heard : List String) : Heard heard .start where
  leads _ _ hget := nomatch hget
  named _ _ hget := nomatch hget
  apart _ _ hget := nomatch hget
  aliases _ _ hget := nomatch hget

theorem mono (hheard : Heard heard runs) (runId : String) : Heard (runId :: heard) runs :=
  { hheard with
    aliases := fun other primaryRunId hget =>
      List.mem_cons_of_mem _ (hheard.aliases other primaryRunId hget) }

/-- The aliases of a run go with it. -/
theorem removePendingRun (hheard : Heard heard runs) (runId : String) :
    Heard heard (removePendingRun runs runId) := by
  have hkept : ∀ {other primaryRunId}, (Desktop.removePendingRun runs runId).aliases.get other =
      some primaryRunId → runs.aliases.get other = some primaryRunId ∧ primaryRunId ≠ runId := by
    intro other primaryRunId hget
    obtain ⟨hget, hkeep⟩ := OrderedMap.get_filter_eq_some_iff.mp hget
    exact ⟨hget, (of_decide_eq_true hkeep).2⟩
  have hpending : ∀ other, (Desktop.removePendingRun runs runId).pendingRuns.get other =
      if other = runId then none else runs.pendingRuns.get other := by
    intro other
    rw [Desktop.removePendingRun, OrderedMap.get_erase]
  constructor
  · constructor
    case leads =>
      intro other primaryRunId hget
      obtain ⟨halias, hne⟩ := hkept hget
      rw [hpending, if_neg hne]
      exact hheard.leads other primaryRunId halias
    case named =>
      intro other pending hget
      rw [hpending] at hget
      split at hget
      · cases hget
      · exact hheard.named other pending hget
    case apart =>
      intro other primaryRunId hget
      rw [hpending]
      split
      · rfl
      · exact hheard.apart other primaryRunId (hkept hget).1
  · intro other primaryRunId hget
    exact hheard.aliases other primaryRunId (hkept hget).1

theorem prune (hheard : Heard heard runs) (now : ℕ) : Heard heard (prunePendingRuns runs now) := by
  unfold prunePendingRuns
  dsimp only
  generalize List.filterMap _ runs.pendingRuns.entries = expired
  induction expired generalizing runs with
  | nil => exact hheard
  | cons runId rest ih => exact ih (hheard.removePendingRun runId)

/-! ## Runs that go on -/

/-- A pending run changes, but for its id. -/
theorem setPending (hheard : Heard heard runs) (hget : runs.pendingRuns.get runId = some pending)
    {changed : PendingOpenClawRun} (hid : changed.runId = pending.runId) :
    Heard heard { runs with pendingRuns := runs.pendingRuns.set runId changed } := by
  constructor
  · constructor
    case leads =>
      intro other primaryRunId halias
      dsimp only
      rw [OrderedMap.get_set]
      split
      · exact ⟨changed, rfl⟩
      · exact hheard.leads other primaryRunId halias
    case named =>
      intro other found hfound
      dsimp only at hfound
      rw [OrderedMap.get_set] at hfound
      split at hfound
      · next hsame =>
          rw [← Option.some.inj hfound, hid, hsame]
          exact hheard.named runId pending hget
      · exact hheard.named other found hfound
    case apart =>
      intro other primaryRunId halias
      have hnone := hheard.apart other primaryRunId halias
      have hne : other ≠ runId := by
        rintro rfl
        rw [hget] at hnone
        cases hnone
      dsimp only
      rw [OrderedMap.get_set_of_ne _ _ hne]
      exact hnone
  · exact hheard.aliases

theorem eraseAlias (hheard : Heard heard runs) (runId : String) :
    Heard heard { runs with aliases := runs.aliases.erase runId } := by
  have hkept : ∀ {other primaryRunId}, (runs.aliases.erase runId).get other = some primaryRunId →
      runs.aliases.get other = some primaryRunId := OrderedMap.get_of_get_erase
  constructor
  · constructor
    case leads => exact fun other primaryRunId hget => hheard.leads other primaryRunId (hkept hget)
    case named => exact hheard.named
    case apart => exact fun other primaryRunId hget => hheard.apart other primaryRunId (hkept hget)
  · exact fun other primaryRunId hget => hheard.aliases other primaryRunId (hkept hget)

/-- An event of an unknown run is bound to a pending one. -/
theorem bindRun (hheard : Heard heard runs) (hmem : runId ∈ heard)
    (hnone : runs.pendingRuns.get runId = none)
    (hget : runs.pendingRuns.get primaryRunId = some pending) :
    Heard heard (bindRun runs now runId primaryRunId).1 := by
  have halias : Heard heard { runs with aliases := runs.aliases.set runId primaryRunId } := by
    constructor
    · constructor
      case leads =>
        intro other mapped hother
        rcases OrderedMap.of_get_set hother with ⟨rfl, rfl⟩ | ⟨-, hother⟩
        · exact ⟨pending, hget⟩
        · exact hheard.leads other mapped hother
      case named => exact hheard.named
      case apart =>
        intro other mapped hother
        rcases OrderedMap.of_get_set hother with ⟨rfl, rfl⟩ | ⟨-, hother⟩
        · exact hnone
        · exact hheard.apart other mapped hother
    · intro other mapped hother
      rcases OrderedMap.of_get_set hother with ⟨rfl, rfl⟩ | ⟨-, hother⟩
      · exact hmem
      · exact hheard.aliases other mapped hother
  unfold Desktop.bindRun
  rw [hget]
  exact halias.setPending hget rfl

theorem resolve (hheard : Heard heard runs) (iter : IterOrder) (sessionKey : String)
    (hmem : runId ∈ heard) : Heard heard (resolvePendingRun iter runs now runId sessionKey).1 := by
  have hpruned := hheard.prune now
  have hcleared := hpruned.eraseAlias runId
  unfold resolvePendingRun
  dsimp only
  split
  · exact hpruned
  split
  · exact hcleared
  next hnone =>
  split
  · exact hcleared
  cases hselect : selectRun iter (prunePendingRuns runs now).pendingRuns
      (normalizeOpenclawSessionKey sessionKey) with
  | none => exact hcleared
  | some primaryRunId =>
      obtain ⟨pending, hpending⟩ := get_of_selectRun hselect
      exact hcleared.bindRun hmem hnone hpending

/-! ## Steps -/

/-- Only the pending runs and the aliases matter. -/
theorem congr {runs' : GatewayRuns} (hheard : Heard heard runs)
    (hpending : runs'.pendingRuns = runs.pendingRuns) (haliases : runs'.aliases = runs.aliases) :
    Heard heard runs' := by
  obtain ⟨⟨hleads, hnamed, hapart⟩, hmem⟩ := hheard
  rw [← haliases] at hleads hapart hmem
  rw [← hpending] at hleads hnamed hapart
  exact ⟨⟨hleads, hnamed, hapart⟩, hmem⟩

theorem record (hheard : Heard heard runs) (effect : AttributionEffect) :
    Heard heard (record runs handling effect) := hheard.congr rfl rfl

theorem addTask (hheard : Heard heard runs) (task : GatewayTask) :
    Heard heard { runs with tasks := runs.tasks ++ [task] } := hheard.congr rfl rfl

theorem completeRun (hheard : Heard heard runs) (runId : String) :
    Heard heard (completeRun runs runId) := (hheard.removePendingRun runId).congr rfl rfl

/-- A new run, under an id that no alias has. -/
theorem forwardRun (hheard : Heard heard runs) (hfresh : runId ∉ heard)
    (bindingId mobileId text source : String) :
    Heard heard (forwardRun runs now runId bindingId mobileId text source) := by
  have hpruned := hheard.prune now
  unfold Desktop.forwardRun
  split
  · exact hheard
  dsimp only
  constructor
  · constructor
    case leads =>
      intro other primaryRunId halias
      dsimp only
      rw [OrderedMap.get_set]
      split
      · exact ⟨_, rfl⟩
      · exact hpruned.leads other primaryRunId halias
    case named =>
      intro other found hfound
      rcases OrderedMap.of_get_set hfound with ⟨rfl, rfl⟩ | ⟨-, hfound⟩
      · rfl
      · exact hpruned.named other found hfound
    case apart =>
      intro other primaryRunId halias
      have hne : other ≠ runId := by
        rintro rfl
        exact hfresh (hpruned.aliases other primaryRunId halias)
      dsimp only
      rw [OrderedMap.get_set_of_ne _ _ hne]
      exact hpruned.apart other primaryRunId halias
  · exact hpruned.aliases

theorem answerSend (hheard : Heard heard runs) (ok : Bool) :
    Heard heard (answerSend runs runId ok) := by
  have hanswered : Heard heard { runs with sending := runs.sending.erase runId } :=
    hheard.congr rfl rfl
  unfold Desktop.answerSend
  split
  · dsimp only
    split
    · exact hanswered
    · exact hanswered.completeRun runId
  · exact hheard

theorem performTask (hheard : Heard heard runs) (task : GatewayTask) :
    Heard heard (performTask runs now task) := by
  cases task with
  | mirror handling text => exact (hheard.completeRun _).record _
  | handle handling =>
      unfold Desktop.performTask
      dsimp only
      split
      · exact (hheard.completeRun _).record _
      split
      · exact hheard.completeRun _
      split
      · unfold handleDelta
        split
        · exact hheard
        split
        · next hget =>
            apply Heard.record
            exact hheard.setPending hget rfl
        · exact hheard
      split
      · unfold handleFinal
        split
        · next hget =>
            dsimp only
            split
            · exact hheard.setPending hget rfl
            · apply Heard.addTask
              apply Heard.record
              exact hheard.setPending hget rfl
        · exact hheard
      · exact hheard

theorem receiveChat (hheard : Heard heard runs) (iter : IterOrder) {payload : Json}
    (hmem : readJsonString payload ["runId"] ∈ heard) :
    Heard heard (receiveChat iter runs now payload) := by
  unfold Desktop.receiveChat
  dsimp only
  split
  · exact hheard
  have hresolved := @resolve _ _ now _ hheard iter (readJsonString payload ["sessionKey"]) hmem
  split
  · next heq =>
      rw [heq] at hresolved
      exact hresolved
  · next heq =>
      rw [heq] at hresolved
      split
      · exact hresolved.record _
      · apply Heard.addTask
        exact hresolved.record _

/-- **Along a run** with new run ids, every alias is one that was heard. -/
theorem run (events : List GatewayEvent) (hheard : Heard heard runs)
    (hfresh : FreshRunIds heard events) : Resolving (Steps.run stepRuns runs events) := by
  induction events generalizing heard runs with
  | nil => exact hheard.toResolving
  | cons event rest ih =>
      rw [Steps.run_cons]
      cases event with
      | forward now runId bindingId mobileId text source =>
          exact ih (hheard.forwardRun hfresh.1 bindingId mobileId text source) hfresh.2
      | sent runId ok => exact ih (hheard.answerSend ok) hfresh
      | chat iter now payload =>
          exact ih ((hheard.mono _).receiveChat iter List.mem_cons_self) hfresh
      | settle index now =>
          apply ih _ hfresh
          have hrest : Heard heard { runs with tasks := runs.tasks.eraseIdx index } :=
            hheard.congr rfl rfl
          rw [stepRuns]
          split
          · exact hrest.performTask _
          · exact hheard
      | closed =>
          apply ih _ hfresh
          show Heard heard { runs with pendingRuns := ∅, aliases := ∅ }
          exact (start heard).congr rfl rfl

end Heard

/-- **Run aliases resolve**: whatever is forwarded, heard, settled or closed, every alias leads
to a pending run and is none itself, and every pending run has its own key. -/
theorem resolving_run {events : List GatewayEvent} (hfresh : FreshRunIds [] events) :
    Resolving (Steps.run stepRuns .start events) :=
  (Heard.start []).run events hfresh

/-- An event of a run that no desktop has forwarded. -/
def followup : Json :=
  .obj [("runId", .str "r"), ("sessionKey", .str "agent:main:openclaw-mobile:direct:m"),
    ("state", .str "delta"), ("delta", .str "hello")]

/-- A run, a follow-up that is bound to it, and one run more. -/
theorem resolving_followup : Resolving (Steps.run stepRuns .start
    [.forward 1 "ocgwrun_1a" "b" "m" "hi" "relay", .chat .stored 2 followup, .settle 0 3,
      .forward 4 "ocgwrun_4b" "b" "m" "more" "relay", .sent "ocgwrun_4b" false]) := by
  have hheard : readJsonString followup ["runId"] = "r" := by decide +kernel
  apply resolving_run
  simp only [FreshRunIds]
  rw [hheard]
  decide

end OpenClaw.Desktop
