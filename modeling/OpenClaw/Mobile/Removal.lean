import OpenClaw.Mobile.SessionList

/-!
# Removals during a refresh

The merge starts from the refreshed sessions, which are those that were asked about, and
lets their fields win; what the phone has by then only adds to them.  A session that was
removed meanwhile therefore comes back, and one that was revoked has the trust state again
that it had before.
-/

namespace OpenClaw.Mobile

open OpenClaw.Runtime

/-! ## The merge -/

section Merging

variable {choices : Choices} {session refreshed item : SessionItem}
  {latestSessions refreshedSessions : List SessionItem}

/-- The merge has the refreshed sessions first, and behind them some of the phone's. -/
theorem exists_pushed (choices : Choices) (latestSessions refreshedSessions : List SessionItem) :
    ∃ pushed : List SessionItem, pushed.Sublist latestSessions ∧
      mergeRefreshedSessions choices latestSessions refreshedSessions =
        refreshedSessions.map (mergeRefreshed choices latestSessions) ++ pushed := by
  have hfold : ∀ (rest merged : List SessionItem), ∃ pushed : List SessionItem,
      pushed.Sublist rest ∧ rest.foldl (fun merged latest =>
        if merged.any fun item => sessionsMatch item latest then merged
        else merged ++ [latest]) merged = merged ++ pushed := by
    intro rest
    induction rest with
    | nil => exact fun merged => ⟨[], List.Sublist.refl _, (List.append_nil merged).symm⟩
    | cons latest rest ih =>
        intro merged
        rw [List.foldl_cons]
        split
        · obtain ⟨pushed, hsub, heq⟩ := ih merged
          exact ⟨pushed, hsub.cons latest, heq⟩
        · obtain ⟨pushed, hsub, heq⟩ := ih (merged ++ [latest])
          refine ⟨latest :: pushed, hsub.cons_cons latest, ?_⟩
          rw [heq, List.append_assoc, List.singleton_append]
  exact hfold latestSessions _

theorem sessionsMatch_refreshed (hrefreshed : Refreshes session refreshed) (item : SessionItem) :
    sessionsMatch item refreshed = sessionsMatch item session := by
  unfold sessionsMatch
  rw [hrefreshed.id, hrefreshed.bindingId, hrefreshed.deviceId]

theorem id_mergeRefreshed (hrefreshed : Refreshes session refreshed) :
    (mergeRefreshed choices latestSessions refreshed).id = session.id := by
  unfold mergeRefreshed
  split
  · exact hrefreshed.id
  · dsimp only [mergeSession, spread]
    exact hrefreshed.id

/-- The refreshed trust state wins; without one, that of the phone's session counts. -/
theorem trustState_mergeRefreshed (hrefreshed : Refreshes session refreshed) :
    (mergeRefreshed choices latestSessions refreshed).trustState =
      session.trustState.or ((latestSessions.find? fun item => sessionsMatch item session).bind
        SessionItem.trustState) := by
  have hsame :
      (fun item => sessionsMatch item refreshed) = fun item => sessionsMatch item session :=
    funext (sessionsMatch_refreshed hrefreshed)
  unfold mergeRefreshed
  rw [hsame]
  cases latestSessions.find? fun item => sessionsMatch item session with
  | none =>
      rw [Option.bind_none, Option.or_none]
      exact hrefreshed.trustState
  | some latest =>
      dsimp only [mergeSession, spread, Option.bind_some]
      rw [hrefreshed.trustState]

end Merging

/-! ## What must stay removed -/

/-- A session that is gone from the phone is not merged, and one that was revoked
meanwhile is merged as revoked. -/
structure KeepsRemovals (snapshot latest merged : List SessionItem) : Prop where
  removed : ∀ session ∈ snapshot, (∀ item ∈ latest, item.id ≠ session.id) →
    ∀ found ∈ merged, found.id ≠ session.id
  revoked : ∀ session ∈ snapshot, session.trustState ≠ some "revoked" →
    ∀ item ∈ latest, item.id = session.id → item.trustState = some "revoked" →
      (∃ found ∈ merged, found.id = session.id) ∧
        ∀ found ∈ merged, found.id = session.id → found.trustState = some "revoked"

/-- No session was removed, and none that has a trust state was revoked; one without is
merged with the first session of the phone that matches it. -/
structure NothingRemoved (snapshot latest : List SessionItem) : Prop where
  kept : ∀ session ∈ snapshot, ∃ item ∈ latest, item.id = session.id
  trusted : ∀ session ∈ snapshot, session.trustState ≠ some "revoked" →
    ∀ item ∈ latest, item.id = session.id → item.trustState = some "revoked" →
      session.trustState = none ∧ ∃ first,
        (latest.find? fun item => sessionsMatch item session) = some first ∧
          first.trustState = some "revoked"

section Removals

variable {choices : Choices} {service : Service}
  {snapshot latest refreshed : List SessionItem}

theorem keepsRemovals_iff (choices : Choices) (hids : (snapshot.map SessionItem.id).Nodup)
    (hlatest : (latest.map SessionItem.id).Sublist (snapshot.map SessionItem.id))
    (hrefresh : List.Forall₂ Refreshes snapshot refreshed) :
    KeepsRemovals snapshot latest (mergeRefreshedSessions choices latest refreshed) ↔
      NothingRemoved snapshot latest := by
  obtain ⟨pushed, hpushed, hmerged⟩ := exists_pushed choices latest refreshed
  -- Every session that was asked about is merged, under its id.
  have hpresent : ∀ session ∈ snapshot, ∃ found ∈ mergeRefreshedSessions choices latest refreshed,
      found.id = session.id ∧ found.trustState = session.trustState.or
        ((latest.find? fun item => sessionsMatch item session).bind SessionItem.trustState) := by
    intro session hsession
    obtain ⟨item, hitem, hsame⟩ := exists_of_mem_left hrefresh hsession
    refine ⟨mergeRefreshed choices latest item, ?_, id_mergeRefreshed hsame,
      trustState_mergeRefreshed hsame⟩
    rw [hmerged]
    exact List.mem_append_left _ (List.mem_map_of_mem hitem)
  constructor
  · intro hkeeps
    constructor
    · intro session hsession
      by_contra hgone
      obtain ⟨found, hfound, hid, -⟩ := hpresent session hsession
      refine hkeeps.removed session hsession ?_ found hfound hid
      intro item hitem hsame
      exact hgone ⟨item, hitem, hsame⟩
    · intro session hsession htrusted item hitem hid hrevoked
      obtain ⟨found, hfound, hfoundId, htrust⟩ := hpresent session hsession
      have hstays := (hkeeps.revoked session hsession htrusted item hitem hid hrevoked).2
        found hfound hfoundId
      rw [htrust, Option.or_eq_some_iff] at hstays
      rcases hstays with hbefore | ⟨hnone, hfirst⟩
      · exact absurd hbefore htrusted
      · obtain ⟨first, hfind, hfirst⟩ := Option.bind_eq_some_iff.mp hfirst
        exact ⟨hnone, first, hfind, hfirst⟩
  · intro hnothing
    constructor
    · intro session hsession hgone
      obtain ⟨item, hitem, hid⟩ := hnothing.kept session hsession
      exact absurd hid (hgone item hitem)
    · intro session hsession htrusted item hitem hid hrevoked
      obtain ⟨found, hfound, hfoundId, -⟩ := hpresent session hsession
      refine ⟨⟨found, hfound, hfoundId⟩, ?_⟩
      intro found hfound hfoundId
      rw [hmerged] at hfound
      rcases List.mem_append.mp hfound with hmem | hmem
      · obtain ⟨source, hsource, rfl⟩ := List.mem_map.mp hmem
        obtain ⟨asked, hasked, hsame⟩ := exists_of_mem_right hrefresh hsource
        rw [id_mergeRefreshed hsame] at hfoundId
        obtain rfl := eq_of_id hids hasked hsession hfoundId
        obtain ⟨hnone, first, hfind, hfirst⟩ :=
          hnothing.trusted asked hasked htrusted item hitem hid hrevoked
        rw [trustState_mergeRefreshed hsame, hnone, hfind, Option.none_or, Option.bind_some]
        exact hfirst
      · have hown := eq_of_id (hids.sublist hlatest) (hpushed.subset hmem) hitem
          (hfoundId.trans hid.symm)
        rw [hown]
        exact hrevoked

/-- **Removed and revoked sessions stay so** after a refresh exactly if none of those that
were asked about was removed or revoked while it was pending. -/
theorem refresh_keepsRemovals_iff (choices : Choices) (service : Service)
    (hids : (snapshot.map SessionItem.id).Nodup)
    (hrefresh : refreshSessionsV2 choices service snapshot = .ok refreshed)
    (steps : List SessionStep) :
    KeepsRemovals snapshot (Steps.run (sessionStep choices) snapshot steps)
        (mergeRefreshedSessions choices (Steps.run (sessionStep choices) snapshot steps)
          refreshed) ↔
      NothingRemoved snapshot (Steps.run (sessionStep choices) snapshot steps) :=
  keepsRemovals_iff choices hids (ids_run steps) (refreshes_refreshSessionsV2 hids hrefresh)

end Removals

/-! ## A session that comes back -/

/-- A session with one desktop, as it was paired. -/
def pairedSession : SessionItem where
  id := "sess_1"
  status := .connected
  preview := ""
  messages := []
  serverBaseUrl := "http://server"
  serverToken := "token"
  deviceId := "desk"
  pairSessionId := "v2pair_1"
  bindingId := "v2bind_1"
  trustState := some "active"
  safetyCode := none
  transportReady := some true
  lastSeenAt := none
  peerState := none
  missingMessageIds := none
  linkTransport := none
  linkRttMs := none
  linkRttAt := none
  linkProbePending := none

/-- A server that answers, with the desktop online. -/
def onlineService : Service where
  normalizeBaseUrl := Except.ok
  token := fun _ => .ok "token"
  presence := fun _ _ deviceIds => .ok (deviceIds.map fun id => ⟨id, "online", 1⟩)

def insertionChoices : Choices := ⟨compare, String.instTransOrd, .insertion⟩

/-- Another session, which never had a trust state. -/
def untrustedSession : SessionItem :=
  { pairedSession with
    id := "sess_2", deviceId := "other", pairSessionId := "v2pair_2", bindingId := "v2bind_2"
    trustState := none }

/-- A message of the host comes, and the other session is revoked. -/
def refreshWindow : List SessionStep :=
  [.message "sess_1" (.receive ⟨1, "1", fun _ => ""⟩
      ⟨"msg_1", .host, "hello", .finite 5, some .host, .ofCount 1, []⟩),
    .revoke "v2bind_2" "other"]

theorem nothingRemoved_refreshWindow : NothingRemoved [pairedSession, untrustedSession]
    (Steps.run (sessionStep insertionChoices) [pairedSession, untrustedSession]
      refreshWindow) where
  kept := by decide +kernel
  trusted := by
    have hfirst : ∀ session ∈ [pairedSession, untrustedSession],
        session.trustState ≠ some "revoked" →
          ∀ item ∈ Steps.run (sessionStep insertionChoices) [pairedSession, untrustedSession]
              refreshWindow, item.id = session.id → item.trustState = some "revoked" →
            session.trustState = none ∧
              ((Steps.run (sessionStep insertionChoices) [pairedSession, untrustedSession]
                refreshWindow).find? fun item => sessionsMatch item session).bind
                  SessionItem.trustState = some "revoked" := by
      decide +kernel
    intro session hsession htrusted item hitem hid hrevoked
    obtain ⟨hnone, hsome⟩ := hfirst session hsession htrusted item hitem hid hrevoked
    exact ⟨hnone, Option.bind_eq_some_iff.mp hsome⟩

theorem refresh_keepsRemovals_window : ∃ refreshed,
    refreshSessionsV2 insertionChoices onlineService [pairedSession, untrustedSession] =
        .ok refreshed ∧
      KeepsRemovals [pairedSession, untrustedSession]
        (Steps.run (sessionStep insertionChoices) [pairedSession, untrustedSession] refreshWindow)
        (mergeRefreshedSessions insertionChoices
          (Steps.run (sessionStep insertionChoices) [pairedSession, untrustedSession]
            refreshWindow) refreshed) := by
  have hanswers : (refreshSessionsV2 insertionChoices onlineService
      [pairedSession, untrustedSession]).isOk = true := by
    decide +kernel
  cases hrefresh : refreshSessionsV2 insertionChoices onlineService
      [pairedSession, untrustedSession] with
  | error message =>
      rw [hrefresh] at hanswers
      cases hanswers
  | ok refreshed =>
      refine ⟨refreshed, rfl, ?_⟩
      exact (refresh_keepsRemovals_iff insertionChoices onlineService (by decide) hrefresh
        refreshWindow).mpr nothingRemoved_refreshWindow

/-- The session is removed while the refresh is pending, and is there again after it. -/
theorem not_refresh_keepsRemovals : ¬∀ (steps : List SessionStep) (refreshed : List SessionItem),
    refreshSessionsV2 insertionChoices onlineService [pairedSession] = .ok refreshed →
      KeepsRemovals [pairedSession]
        (Steps.run (sessionStep insertionChoices) [pairedSession] steps)
        (mergeRefreshedSessions insertionChoices
          (Steps.run (sessionStep insertionChoices) [pairedSession] steps) refreshed) := by
  intro hkeeps
  have hrun : (refreshSessionsV2 insertionChoices onlineService [pairedSession]).toOption.map
      (fun refreshed => (mergeRefreshedSessions insertionChoices
        (Steps.run (sessionStep insertionChoices) [pairedSession] [.remove ⟨"sess_1", "", ""⟩])
          refreshed).map SessionItem.id) = some ["sess_1"] ∧
      Steps.run (sessionStep insertionChoices) [pairedSession] [.remove ⟨"sess_1", "", ""⟩] =
        [] := by
    decide +kernel
  cases hrefresh : refreshSessionsV2 insertionChoices onlineService [pairedSession] with
  | error message =>
      rw [hrefresh] at hrun
      cases hrun.1
  | ok refreshed =>
      rw [hrefresh] at hrun
      have hmerged : (mergeRefreshedSessions insertionChoices
          (Steps.run (sessionStep insertionChoices) [pairedSession] [.remove ⟨"sess_1", "", ""⟩])
            refreshed).map SessionItem.id = ["sess_1"] := Option.some.inj hrun.1
      obtain ⟨found, hfound, hid⟩ := List.mem_map.mp (hmerged ▸ List.mem_cons_self)
      refine (hkeeps [.remove ⟨"sess_1", "", ""⟩] refreshed hrefresh).removed pairedSession
        List.mem_cons_self ?_ found hfound hid
      rw [hrun.2]
      exact fun item hitem => absurd hitem List.not_mem_nil

end OpenClaw.Mobile
