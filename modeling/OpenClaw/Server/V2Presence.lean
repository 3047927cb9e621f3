import OpenClaw.Lib.Origins
import OpenClaw.Server.V2Bindings
import OpenClaw.Server.V2Challenges

/-!
# Who is shown as present, and to whom

A query of presence is answered from the records of the desktops: a desktop may ask for
itself, a mobile for the desktops that it has an active binding with.  A record says when
its desktop was last seen, and the answer calls it online for three minutes from then.

Both have a history in the run of the server.  An active binding was approved by its
desktop (`V2Store.Admits`), and the time in a record is that of the last event in which
the server saw the desktop itself (`V2Store.Sees`).
-/

namespace OpenClaw.Server

open OpenClaw.Runtime

/-! ## The query -/

def v2PresenceOnlineWindow : ℤ := 3 * 60 * 1000

structure V2PresenceStatus where
  deviceId : String
  platform : String
  appVersion : String
  status : String
  lastSeenAt : ℤ
  updatedAt : ℤ
deriving DecidableEq

def buildV2PresenceStatus (now : ℤ) (desktop : V2Desktop) : V2PresenceStatus where
  deviceId := desktop.deviceId
  platform := desktop.platform
  appVersion := desktop.appVersion
  status := if now - desktop.lastSeenAt ≤ v2PresenceOnlineWindow then "online" else "offline"
  lastSeenAt := desktop.lastSeenAt
  updatedAt := desktop.updatedAt

/-- The ids that are asked for, without the blank ones. -/
def requestedIds (deviceIds : List String) : List String :=
  (deviceIds.map unicodeTrim).filter fun deviceId => decide (deviceId ≠ "")

/-- `allowed`: the desktops with an active binding to the mobile. -/
def allowedDesktops (store : V2Store) (mobileId : String) : List String :=
  ((store.bindings.values.filter fun binding =>
    decide (binding.mobileId = mobileId ∧ binding.trustState = .active)).map
      V2Binding.deviceId).dedup

def presenceTargets (iter : IterOrder) (allowed deviceIds : List String) :
    Except ServerError (List String) :=
  if deviceIds = [] then .ok (iter.order allowed)
  else if (requestedIds deviceIds).all fun deviceId => decide (deviceId ∈ allowed) then
    .ok (requestedIds deviceIds)
  else .error ⟨"FORBIDDEN", "mobile can only query bound desktops"⟩

/-- The answer for these desktops; one that has no record is left out.  The clock is read
for each status. -/
def presenceOf (clock : ℕ → ℤ) (store : V2Store) (targets : List String) :
    List V2PresenceStatus :=
  (targets.filterMap store.desktops.get).mapIdx fun reading desktop =>
    buildV2PresenceStatus (clock reading) desktop

def queryPresence (env : Env) (clock : ℕ → ℤ) (store : V2Store) (principal : V2Principal)
    (deviceIds : List String) : V2Store × Except ServerError (List V2PresenceStatus) :=
  let store := pruneExpiredLocked store env.now
  match principal.session.entityType with
  | .desktop =>
      match store.desktops.get principal.session.entityId with
      | none => (store, .error ⟨"NOT_FOUND", "desktop not found"⟩)
      | some desktop =>
          let requested := (requestedIds deviceIds).dedup
          if deviceIds ≠ [] ∧ (requested.length ≠ 1 ∨ desktop.deviceId ∉ requested) then
            (store, .error ⟨"FORBIDDEN", "desktop can only query itself"⟩)
          else (store, .ok [buildV2PresenceStatus (clock 0) desktop])
  | .mobile =>
      match presenceTargets env.iter (allowedDesktops store principal.session.entityId)
          deviceIds with
      | .error error => (store, .error error)
      | .ok targets => (store, .ok (presenceOf clock store targets))

/-! ## Events in which a desktop shows itself -/

/-- The event happens at this time. -/
def V2StoreEvent.time : V2StoreEvent → ℤ
  | .perform env _ => env.now
  | .restart _ hydratedAt _ => hydratedAt

/-- The desktop asks for itself and has a record. -/
def V2Store.Beats (deviceId : String) (store : V2Store) (now : ℤ) (principal : V2Principal) :
    Prop :=
  principal.session.entityType = .desktop ∧ principal.session.entityId = deviceId ∧
    ((pruneExpiredLocked store now).desktops.get deviceId).isSome = true

/-- The desktop answers the challenge it names, and no record says when it was seen. -/
structure LoginPayload.Enters (payload : LoginPayload) (deviceId : String) (env : Env)
    (store : V2Store) : Prop where
  desktop : payload.entityType = .desktop
  entityId : payload.entityId = deviceId
  answers : ∃ challenge, store.challenges.get payload.challengeId = some challenge ∧
    payload.answers env challenge = .ok ()
  recorded : ∃ next, recordLogin env.now store payload = .ok next
  unseen : ∀ desktop, store.desktops.get deviceId = some desktop → desktop.lastSeenAt ≤ 0

/-- The event makes its time the one at which the desktop was last seen: the desktop
announces itself or sends a heartbeat, or it logs in and no record says when it was
seen. -/
def V2Store.Sees (deviceId : String) (store : V2Store) : V2StoreEvent → Prop
  | .perform env (.login req) => ∃ payload, req.read = .ok payload ∧
      payload.Enters deviceId env (pruneExpiredLocked store env.now)
  | .perform env (.announcePresence principal _) => store.Beats deviceId env.now principal
  | .perform env (.heartbeatPresence principal _) => store.Beats deviceId env.now principal
  | _ => False

/-- The event is an approval, by the desktop, of a pending binding with the mobile. -/
def V2Store.Admits (deviceId mobileId : String) (store : V2Store) (event : V2StoreEvent) : Prop :=
  ∃ bindingId binding, event.Approves bindingId deviceId ∧
    store.bindings.get bindingId = some binding ∧ binding.trustState = .pending ∧
      binding.deviceId = deviceId ∧ binding.mobileId = mobileId

/-! ## One event -/

section Steps

variable {env : Env} {store : V2Store} {deviceId mobileId : String}

theorem get_desktops_prune {desktop : V2Desktop} {now : ℤ}
    (hget : (pruneExpiredLocked store now).desktops.get deviceId = some desktop) :
    store.desktops.get deviceId = some desktop :=
  OrderedMap.get_of_get_filter hget

/-- What became of the time in the record of a desktop. -/
def V2Store.SeenOrKept (store : V2Store) (deviceId : String) (event : V2StoreEvent)
    (desktop : V2Desktop) : Prop :=
  (store.Sees deviceId event ∧ desktop.lastSeenAt = event.time) ∨
    (¬store.Sees deviceId event ∧
      ∃ old, store.desktops.get deviceId = some old ∧ old.lastSeenAt = desktop.lastSeenAt)

theorem seenOrKept_of_pruned {event : V2StoreEvent} {desktop : V2Desktop} {now : ℤ}
    (hunseen : ¬store.Sees deviceId event)
    (hget : (pruneExpiredLocked store now).desktops.get deviceId = some desktop) :
    store.SeenOrKept deviceId event desktop :=
  .inr ⟨hunseen, desktop, get_desktops_prune hget, rfl⟩

theorem desktops_openAuthSession {payload : LoginPayload} :
    (openAuthSession env store payload).1.desktops = store.desktops := by
  unfold openAuthSession
  split
  · rfl
  · rfl

/-- A login that spends its challenge sees a desktop that has no record, or one without a
time. -/
theorem seenOrKept_recordLogin {req : V2LoginRequest} {payload : LoginPayload}
    {next : V2Store} {desktop : V2Desktop} (hread : req.read = .ok payload)
    (hanswers : ∃ challenge, (pruneExpiredLocked store env.now).challenges.get
      payload.challengeId = some challenge ∧ payload.answers env challenge = .ok ())
    (hrecord : recordLogin env.now (pruneExpiredLocked store env.now) payload = .ok next)
    (hget : next.desktops.get deviceId = some desktop) :
    store.SeenOrKept deviceId (.perform env (.login req)) desktop := by
  have hother : (payload.entityType ≠ .desktop ∨ payload.entityId ≠ deviceId) →
      ¬store.Sees deviceId (.perform env (.login req)) := by
    rintro hother ⟨read, hreadAgain, henters⟩
    rw [hread] at hreadAgain
    obtain rfl := Except.ok.inj hreadAgain
    obtain hother | hother := hother
    · exact hother henters.desktop
    · exact hother henters.entityId
  have hrecorded : ∃ next, recordLogin env.now (pruneExpiredLocked store env.now) payload =
      .ok next := ⟨next, hrecord⟩
  unfold recordLogin at hrecord
  split at hrecord
  · next htype =>
      unfold recordDesktop at hrecord
      by_cases hid : payload.entityId = deviceId
      swap
      · -- the record of another desktop
        have hunseen := hother (.inr hid)
        split at hrecord
        · obtain rfl := Except.ok.inj hrecord
          rw [V2Store.putDesktop, OrderedMap.get_set, if_neg (Ne.symm hid)] at hget
          exact seenOrKept_of_pruned hunseen hget
        · split at hrecord
          · cases hrecord
          · obtain rfl := Except.ok.inj hrecord
            rw [V2Store.putDesktop, OrderedMap.get_set, if_neg (Ne.symm hid)] at hget
            exact seenOrKept_of_pruned hunseen hget
      rw [hid] at hrecord
      split at hrecord
      · next hnone =>
          obtain rfl := Except.ok.inj hrecord
          rw [V2Store.putDesktop, OrderedMap.get_set, if_pos rfl] at hget
          obtain rfl := Option.some.inj hget
          refine .inl ⟨⟨payload, hread, htype, hid, hanswers, hrecorded, ?_⟩, rfl⟩
          intro held hheld
          rw [hnone] at hheld
          cases hheld
      · next old hold =>
          split at hrecord
          · cases hrecord
          obtain rfl := Except.ok.inj hrecord
          rw [V2Store.putDesktop, OrderedMap.get_set, if_pos rfl] at hget
          obtain rfl := Option.some.inj hget
          by_cases hunset : old.lastSeenAt ≤ 0
          · refine .inl ⟨⟨payload, hread, htype, hid, hanswers, hrecorded, ?_⟩, ?_⟩
            · intro held hheld
              rw [hold] at hheld
              obtain rfl := Option.some.inj hheld
              exact hunset
            · exact if_pos hunset
          · refine .inr ⟨?_, old, get_desktops_prune hold, (if_neg hunset).symm⟩
            rintro ⟨_, _, henters⟩
            exact hunset (henters.unseen old hold)
  · next htype =>
      have hunseen := hother (.inl (by rw [htype]; decide))
      unfold recordMobile at hrecord
      split at hrecord
      · obtain rfl := Except.ok.inj hrecord
        exact seenOrKept_of_pruned hunseen hget
      · split at hrecord
        · cases hrecord
        · obtain rfl := Except.ok.inj hrecord
          exact seenOrKept_of_pruned hunseen hget

theorem seenOrKept_login {req : V2LoginRequest} {desktop : V2Desktop}
    (hget : (login env store req).1.desktops.get deviceId = some desktop) :
    store.SeenOrKept deviceId (.perform env (.login req)) desktop := by
  cases hread : req.read with
  | error error =>
      have hlogin : login env store req = (store, .error error) := by
        unfold login
        rw [hread]
      rw [hlogin] at hget
      refine .inr ⟨?_, desktop, hget, rfl⟩
      rintro ⟨payload, hok, -⟩
      rw [hread] at hok
      cases hok
  | ok payload =>
      have hlogin : login env store req =
          loginLocked env (pruneExpiredLocked store env.now) payload := by
        unfold login
        rw [hread]
      rw [hlogin] at hget
      have houtcome := @loginOutcome_loginLocked env store payload
      generalize loginLocked env (pruneExpiredLocked store env.now) payload = outcome
        at hget houtcome
      cases houtcome with
      | refused error hrefused =>
          refine seenOrKept_of_pruned ?_ hget
          rintro ⟨read, hok, henters⟩
          rw [hread] at hok
          obtain rfl := Except.ok.inj hok
          obtain ⟨challenge, hchallenge, hanswers⟩ := henters.answers
          obtain ⟨next, hrecord⟩ := henters.recorded
          exact hrefused challenge next hchallenge hanswers hrecord
      | spent hchallenge hlive hanswers hrecord =>
          rw [desktops_openAuthSession] at hget
          exact seenOrKept_recordLogin hread ⟨_, hchallenge, hanswers⟩ hrecord hget

/-- The record of the principal takes the time of its announcement or heartbeat. -/
theorem seenOrKept_updateRecord (haccounted : store.Accounted) {event : V2StoreEvent}
    {principal : V2Principal} {desktopOf : V2Desktop → V2Desktop} {mobileOf : V2Mobile → V2Mobile}
    {desktop : V2Desktop} (hid : ∀ old, (desktopOf old).deviceId = old.deviceId)
    (hseen : ∀ old, (desktopOf old).lastSeenAt = event.time)
    (hsees : store.Sees deviceId event ↔ store.Beats deviceId event.time principal)
    (hget : (updateRecord event.time store principal desktopOf mobileOf).1.desktops.get deviceId =
      some desktop) : store.SeenOrKept deviceId event desktop := by
  unfold updateRecord at hget
  dsimp only at hget
  split at hget
  · next htype =>
      split at hget
      · next hnone =>
          refine seenOrKept_of_pruned (fun hevent => ?_) hget
          obtain ⟨-, hprincipal, hsome⟩ := hsees.mp hevent
          rw [← hprincipal, hnone] at hsome
          cases hsome
      · next old hold =>
          have hkey : (desktopOf old).deviceId = principal.session.entityId :=
            (hid old).trans ((haccounted.prune event.time).desktops _ _ hold)
          rw [hkey, V2Store.putDesktop, OrderedMap.get_set] at hget
          split at hget
          · next hsame =>
              obtain rfl := Option.some.inj hget
              refine .inl ⟨hsees.mpr ⟨htype, hsame.symm, ?_⟩, hseen old⟩
              rw [hsame, hold]
              rfl
          · next hother =>
              refine seenOrKept_of_pruned (fun hevent => ?_) hget
              exact hother (hsees.mp hevent).2.1.symm
  · next htype =>
      have hunseen : ¬store.Sees deviceId event := by
        intro hevent
        have hdesktop := (hsees.mp hevent).1
        rw [htype] at hdesktop
        cases hdesktop
      split at hget
      · exact seenOrKept_of_pruned hunseen hget
      · exact seenOrKept_of_pruned hunseen hget

/-- A session has its record, so a request makes none. -/
theorem desktops_authenticate (haccounted : store.Accounted) {now : ℤ} {token : String}
    (htoken : unicodeTrim token ≠ "") :
    (authenticate now store token).1.desktops = (pruneExpiredLocked store now).desktops := by
  unfold authenticate
  rw [if_neg htoken]
  unfold authenticateLocked
  split
  · rfl
  next session hget =>
  split
  · rfl
  · have hkey := (haccounted.prune now).sessions hget
    dsimp only
    rw [principalOf_of_accounted]
    exact hkey

theorem seenOrKept_perform (haccounted : store.Accounted) {operation : V2Operation}
    {desktop : V2Desktop}
    (hget : (perform env store operation).1.desktops.get deviceId = some desktop) :
    store.SeenOrKept deviceId (.perform env operation) desktop := by
  have hpairs : operation.pairs = true →
      store.SeenOrKept deviceId (.perform env operation) desktop := by
    intro hpairs
    have hunseen : ¬store.Sees deviceId (.perform env operation) := by
      intro hevent
      cases operation with
      | createPairSession principal ttlSeconds => exact hevent
      | deletePairSession principal pairSessionId => exact hevent
      | claimPair principal req => exact hevent
      | approveBinding principal bindingId => exact hevent
      | _ => cases hpairs
    by_cases hadmissible : operation.admissible env
    · rw [(sameClients_perform hadmissible hpairs).desktops] at hget
      exact seenOrKept_of_pruned hunseen hget
    · rw [perform_of_not_admissible hadmissible] at hget
      exact .inr ⟨hunseen, desktop, hget, rfl⟩
  cases operation with
  | prune => exact seenOrKept_of_pruned not_false hget
  | createChallenge req =>
      dsimp only [perform, answer, createChallenge] at hget
      split at hget
      · exact .inr ⟨not_false, desktop, hget, rfl⟩
      · exact seenOrKept_of_pruned not_false hget
  | login req =>
      dsimp only [perform, answer] at hget
      exact seenOrKept_login hget
  | authenticate token =>
      dsimp only [perform, answer] at hget
      by_cases htoken : unicodeTrim token = ""
      · unfold authenticate at hget
        rw [if_pos htoken] at hget
        exact .inr ⟨not_false, desktop, hget, rfl⟩
      · rw [desktops_authenticate haccounted htoken] at hget
        exact seenOrKept_of_pruned not_false hget
  | announcePresence principal req =>
      dsimp only [perform, answer, announcePresence] at hget
      refine seenOrKept_updateRecord haccounted (fun old => ?_) (fun old => ?_) Iff.rfl hget
      · rfl
      · rfl
  | heartbeatPresence principal req =>
      dsimp only [perform, answer, heartbeatPresence] at hget
      refine seenOrKept_updateRecord haccounted (fun old => ?_) (fun old => ?_) Iff.rfl hget
      · rfl
      · rfl
  | createPairSession principal ttlSeconds => exact hpairs rfl
  | deletePairSession principal pairSessionId => exact hpairs rfl
  | claimPair principal req => exact hpairs rfl
  | approveBinding principal bindingId => exact hpairs rfl

theorem seenOrKept_step (haccounted : store.Accounted) {event : V2StoreEvent}
    {desktop : V2Desktop} (hget : (store.step event).desktops.get deviceId = some desktop) :
    store.SeenOrKept deviceId event desktop := by
  cases event with
  | restart persistedAt hydratedAt iter =>
      rw [V2Store.step] at hget
      unfold hydrateV2FromRedis persistV2 applySnapshot at hget
      dsimp only at hget
      have hheld := OrderedMap.get_of_get_filter (OrderedMap.get_of_get_filter hget)
      exact .inr ⟨not_false, desktop, hheld, rfl⟩
  | perform env operation => exact seenOrKept_perform haccounted hget

theorem accounted_step (haccounted : store.Accounted) (event : V2StoreEvent) :
    (store.step event).Accounted := by
  cases event with
  | restart persistedAt hydratedAt iter => exact haccounted.restart persistedAt hydratedAt iter
  | perform env operation => exact haccounted.perform operation

/-- The store has an active binding between the two. -/
def V2Store.Bound (store : V2Store) (deviceId mobileId : String) : Prop :=
  ∃ bindingId binding, store.bindings.get bindingId = some binding ∧
    binding.trustState = .active ∧ binding.deviceId = deviceId ∧ binding.mobileId = mobileId

/-- Two clients become bound by an approval only. -/
theorem admits_or_bound_step {event : V2StoreEvent}
    (hbound : (store.step event).Bound deviceId mobileId) :
    store.Admits deviceId mobileId event ∨ store.Bound deviceId mobileId := by
  obtain ⟨bindingId, binding, hget, hactive, hdevice, hmobile⟩ := hbound
  cases event with
  | restart persistedAt hydratedAt iter =>
      exact .inr ⟨bindingId, binding, hget, hactive, hdevice, hmobile⟩
  | perform env operation =>
      have hstep := @bindingStep_perform env store operation
      rw [step_perform] at hget
      generalize (perform env store operation).1.bindings = bindings at hstep hget
      cases hstep with
      | same => exact .inr ⟨bindingId, binding, hget, hactive, hdevice, hmobile⟩
      | @claim principal req session mobile claimed hclaimed =>
          rw [OrderedMap.get_set] at hget
          split at hget
          · -- what a claim writes is not active
            obtain rfl := Option.some.inj hget
            unfold claimedBinding at hclaimed
            split at hclaimed
            · split at hclaimed
              · cases hclaimed
              · next hinactive =>
                  obtain rfl := Except.ok.inj hclaimed
                  exact absurd hactive hinactive
            · split at hclaimed
              · cases hclaimed
              · obtain rfl := Except.ok.inj hclaimed
                cases hactive
          · exact .inr ⟨bindingId, binding, hget, hactive, hdevice, hmobile⟩
      | @approve principal requested old htype hold howner hpending =>
          rw [OrderedMap.get_set] at hget
          split at hget
          · obtain rfl := Option.some.inj hget
            have hprincipal : principal.session.entityId = deviceId := howner.symm.trans hdevice
            exact .inl ⟨unicodeTrim requested, old, ⟨rfl, htype, hprincipal⟩, hold, hpending,
              hdevice, hmobile⟩
          · exact .inr ⟨bindingId, binding, hget, hactive, hdevice, hmobile⟩

end Steps

/-! ## The answer -/

section Query

variable {env : Env} {store : V2Store} {clock : ℕ → ℤ} {principal : V2Principal}
  {deviceId mobileId : String} {deviceIds targets : List String} {status : V2PresenceStatus}

theorem mem_allowedDesktops :
    deviceId ∈ allowedDesktops store mobileId ↔ store.Bound deviceId mobileId := by
  unfold allowedDesktops V2Store.Bound
  simp only [List.mem_dedup, List.mem_map, List.mem_filter, OrderedMap.mem_values_iff,
    decide_eq_true_eq]
  constructor
  · rintro ⟨binding, ⟨⟨bindingId, hget⟩, hmobile, hactive⟩, hdevice⟩
    exact ⟨bindingId, binding, hget, hactive, hdevice, hmobile⟩
  · rintro ⟨bindingId, binding, hget, hactive, hdevice, hmobile⟩
    exact ⟨binding, ⟨⟨bindingId, hget⟩, hmobile, hactive⟩, hdevice⟩

/-- Only allowed desktops are targets: all of them, or those that are asked for. -/
theorem mem_presenceTargets {allowed : List String}
    (htargets : presenceTargets env.iter allowed deviceIds = .ok targets) :
    deviceId ∈ targets ↔
      deviceId ∈ allowed ∧ (deviceIds = [] ∨ deviceId ∈ requestedIds deviceIds) := by
  unfold presenceTargets at htargets
  split at htargets
  · next hnil =>
      obtain rfl := Except.ok.inj htargets
      rw [IterOrder.mem_order]
      exact ⟨fun hmem => ⟨hmem, .inl hnil⟩, And.left⟩
  · next hasked =>
      split at htargets
      · next hall =>
          obtain rfl := Except.ok.inj htargets
          constructor
          · intro hmem
            exact ⟨of_decide_eq_true (List.all_eq_true.mp hall _ hmem), .inr hmem⟩
          · rintro ⟨-, hnil | hmem⟩
            · exact absurd hnil hasked
            · exact hmem
      · cases htargets

/-- Each status tells what the record of a target says. -/
theorem getElem?_presenceOf {reading : ℕ} :
    (presenceOf clock store targets)[reading]? = some status ↔
      ∃ desktop, (targets.filterMap store.desktops.get)[reading]? = some desktop ∧
        status = buildV2PresenceStatus (clock reading) desktop := by
  unfold presenceOf
  rw [List.getElem?_mapIdx, Option.map_eq_some_iff]
  constructor
  · rintro ⟨desktop, hdesktop, rfl⟩
    exact ⟨desktop, hdesktop, rfl⟩
  · rintro ⟨desktop, hdesktop, rfl⟩
    exact ⟨desktop, hdesktop, rfl⟩

/-- A desktop may ask for itself, a mobile for the desktops it is bound to. -/
def V2Store.MayAsk (store : V2Store) (principal : V2Principal) (deviceId : String) : Prop :=
  match principal.session.entityType with
  | .desktop => deviceId = principal.session.entityId
  | .mobile => store.Bound deviceId principal.session.entityId

/-- The status is that of a record of the store that the principal may ask for. -/
theorem record_of_queryPresence (haccounted : store.Accounted)
    {statuses : List V2PresenceStatus} {reading : ℕ}
    (hanswer : (queryPresence env clock store principal deviceIds).2 = .ok statuses)
    (hstatus : statuses[reading]? = some status) : ∃ desktop,
      (pruneExpiredLocked store env.now).desktops.get status.deviceId = some desktop ∧
      status = buildV2PresenceStatus (clock reading) desktop ∧
      store.MayAsk principal status.deviceId := by
  have hkeyed := (haccounted.prune env.now).desktops
  unfold V2Store.MayAsk
  unfold queryPresence at hanswer
  dsimp only at hanswer
  cases htype : principal.session.entityType with
  | desktop =>
      rw [htype] at hanswer
      dsimp only at hanswer ⊢
      split at hanswer
      · cases hanswer
      next desktop hget =>
      split at hanswer
      · cases hanswer
      · obtain rfl := Except.ok.inj hanswer
        rw [List.getElem?_singleton] at hstatus
        split at hstatus
        swap
        · cases hstatus
        next hreading =>
        obtain rfl := Option.some.inj hstatus
        have hid : desktop.deviceId = principal.session.entityId := hkeyed _ _ hget
        refine ⟨desktop, ?_, by rw [hreading], hid⟩
        dsimp only [buildV2PresenceStatus]
        rw [hid]
        exact hget
  | mobile =>
      rw [htype] at hanswer
      dsimp only at hanswer ⊢
      split at hanswer
      · cases hanswer
      next targets htargets =>
      obtain rfl := Except.ok.inj hanswer
      obtain ⟨desktop, hdesktop, rfl⟩ := getElem?_presenceOf.mp hstatus
      obtain ⟨target, htarget, hget⟩ :=
        List.mem_filterMap.mp (List.mem_of_getElem? hdesktop)
      have hid : desktop.deviceId = target := hkeyed _ _ hget
      obtain ⟨hallowed, -⟩ := (mem_presenceTargets htargets).mp htarget
      rw [← hid] at hget hallowed
      exact ⟨desktop, hget, rfl, mem_allowedDesktops.mp hallowed⟩

/-- No desktop that the mobile is bound to, asks for and that has a record is left out. -/
theorem shown_of_bound (haccounted : store.Accounted) {statuses : List V2PresenceStatus}
    {desktop : V2Desktop}
    (hanswer : (queryPresence env clock store principal deviceIds).2 = .ok statuses)
    (hmobile : principal.session.entityType = .mobile)
    (hbound : store.Bound deviceId principal.session.entityId)
    (hasked : deviceIds = [] ∨ deviceId ∈ requestedIds deviceIds)
    (hget : (pruneExpiredLocked store env.now).desktops.get deviceId = some desktop) :
    ∃ status ∈ statuses, status.deviceId = deviceId := by
  unfold queryPresence at hanswer
  dsimp only at hanswer
  rw [hmobile] at hanswer
  dsimp only at hanswer
  split at hanswer
  · cases hanswer
  next targets htargets =>
  obtain rfl := Except.ok.inj hanswer
  have hallowed : deviceId ∈ allowedDesktops (pruneExpiredLocked store env.now)
      principal.session.entityId := mem_allowedDesktops.mpr hbound
  have htarget := (mem_presenceTargets htargets).mpr ⟨hallowed, hasked⟩
  have hlisted := List.mem_filterMap.mpr ⟨deviceId, htarget, hget⟩
  obtain ⟨reading, hdesktop⟩ := List.mem_iff_getElem?.mp hlisted
  have hstatus := getElem?_presenceOf.mpr ⟨desktop, hdesktop, Eq.refl (buildV2PresenceStatus
    (clock reading) desktop)⟩
  exact ⟨_, List.mem_of_getElem? hstatus, (haccounted.prune env.now).desktops _ _ hget⟩

/-- A mobile is refused exactly if it asks for a desktop that it is not bound to. -/
theorem queryPresence_refused_iff (hmobile : principal.session.entityType = .mobile) :
    (∃ error, (queryPresence env clock store principal deviceIds).2 = .error error) ↔
      ∃ deviceId ∈ requestedIds deviceIds, ¬store.Bound deviceId principal.session.entityId := by
  have hbound : ∀ deviceId, (pruneExpiredLocked store env.now).Bound deviceId
      principal.session.entityId ↔ store.Bound deviceId principal.session.entityId :=
    fun _ => Iff.rfl
  have hiff : (∃ error, (queryPresence env clock store principal deviceIds).2 = .error error) ↔
      ∃ error, presenceTargets env.iter (allowedDesktops (pruneExpiredLocked store env.now)
        principal.session.entityId) deviceIds = .error error := by
    unfold queryPresence
    dsimp only
    rw [hmobile]
    dsimp only
    cases presenceTargets env.iter (allowedDesktops (pruneExpiredLocked store env.now)
        principal.session.entityId) deviceIds with
    | error error => exact iff_of_true ⟨error, rfl⟩ ⟨error, rfl⟩
    | ok targets =>
        refine iff_of_false ?_ ?_
        · rintro ⟨_, herror⟩
          cases herror
        · rintro ⟨_, herror⟩
          cases herror
  rw [hiff]
  unfold presenceTargets
  split
  · next hnil =>
      rw [hnil]
      constructor
      · rintro ⟨_, herror⟩
        cases herror
      · rintro ⟨_, hmem, -⟩
        cases hmem
  split
  · next hall =>
      constructor
      · rintro ⟨_, herror⟩
        cases herror
      · rintro ⟨deviceId, hmem, hunbound⟩
        have hallowed := of_decide_eq_true (List.all_eq_true.mp hall _ hmem)
        exact absurd ((hbound deviceId).mp (mem_allowedDesktops.mp hallowed)) hunbound
  · next hsome =>
      refine iff_of_true ⟨_, rfl⟩ ?_
      by_contra hnone
      apply hsome
      rw [List.all_eq_true]
      intro deviceId hmem
      by_contra hnot
      refine hnone ⟨deviceId, hmem, fun hheld => hnot ?_⟩
      exact decide_eq_true (mem_allowedDesktops.mpr ((hbound deviceId).mpr hheld))

end Query

/-! ## Runs -/

section Runs

variable {events : List V2StoreEvent} {deviceId mobileId : String}

theorem accounted_run (events : List V2StoreEvent) :
    (Steps.run V2Store.step newV2Store events).Accounted := by
  have hstep : ∀ (store : V2Store) event, store.Accounted → (store.step event).Accounted :=
    fun _ event haccounted => accounted_step haccounted event
  exact Steps.run_preserves_of_step hstep events accounted_newV2Store

/-- The last event of the run in which the server saw the desktop happened at this time. -/
def LastSeen (events : List V2StoreEvent) (deviceId : String) (time : ℤ) : Prop :=
  ∃ before event after, events = before ++ event :: after ∧ event.time = time ∧
    (Steps.run V2Store.step newV2Store before).Sees deviceId event ∧
    Steps.Along V2Store.step (fun store event => ¬store.Sees deviceId event)
      (Steps.run V2Store.step newV2Store (before ++ [event])) after

/-- The desktop approved, in the run, a binding with the mobile. -/
def Admitted (events : List V2StoreEvent) (deviceId mobileId : String) : Prop :=
  ∃ before event after, events = before ++ event :: after ∧
    (Steps.run V2Store.step newV2Store before).Admits deviceId mobileId event

/-- The principal is the desktop itself, or a mobile that the desktop approved. -/
def Entitled (events : List V2StoreEvent) (principal : V2Principal) (deviceId : String) : Prop :=
  match principal.session.entityType with
  | .desktop => deviceId = principal.session.entityId
  | .mobile => Admitted events deviceId principal.session.entityId

theorem lastSeen_of_get {desktop : V2Desktop}
    (hget : (Steps.run V2Store.step newV2Store events).desktops.get deviceId = some desktop) :
    LastSeen events deviceId desktop.lastSeenAt := by
  obtain ⟨before, event, after, hevents, ⟨hsees, htime⟩, hafter⟩ :=
    @Steps.exists_origin_of_inv _ _ V2Store.step newV2Store V2Store.Accounted
      (fun store => ∃ held, store.desktops.get deviceId = some held ∧
        held.lastSeenAt = desktop.lastSeenAt)
      (fun store event => store.Sees deviceId event ∧ event.time = desktop.lastSeenAt)
      (fun store event => ¬store.Sees deviceId event)
      (fun _ event haccounted => accounted_step haccounted event) accounted_newV2Store
      (by
        rintro store event haccounted ⟨held, hheld, hsame⟩
        obtain ⟨hsees, htime⟩ | ⟨hunseen, old, hold, holdSame⟩ :=
          seenOrKept_step haccounted hheld
        · exact .inl ⟨hsees, htime.symm.trans hsame⟩
        · exact .inr ⟨⟨old, hold, holdSame.trans hsame⟩, hunseen⟩)
      (by
        rintro ⟨held, hheld, -⟩
        cases hheld) events ⟨desktop, hget, rfl⟩
  exact ⟨before, event, after, hevents, htime, hsees, hafter⟩

theorem admitted_of_bound
    (hbound : (Steps.run V2Store.step newV2Store events).Bound deviceId mobileId) :
    Admitted events deviceId mobileId := by
  obtain ⟨before, event, after, hevents, hadmits, -⟩ :=
    @Steps.exists_origin _ _ V2Store.step newV2Store (fun store => store.Bound deviceId mobileId)
      (fun store event => store.Admits deviceId mobileId event) (fun _ _ => True)
      (by
        intro store event hbound
        obtain hadmits | hheld := admits_or_bound_step hbound
        · exact .inl hadmits
        · exact .inr ⟨hheld, trivial⟩)
      (by
        rintro ⟨bindingId, binding, hget, -⟩
        cases hget) events hbound
  exact ⟨before, event, after, hevents, hadmits⟩

/-- **Presence is shown to the desktop itself and to the mobiles that it approved.**
Whatever the server was asked before, in any order and with any restarts: every status in
the answer to a query is the one of the desktop that asks, or of a desktop that approved
a binding with the mobile that asks; its time is that of the last event in which the
server saw that desktop, and it says online exactly if that event is at most three
minutes ago.  A desktop that the mobile is bound to and asks for is not left out as long
as it has a record. -/
theorem presence_shown_to_approved {env : Env} {clock : ℕ → ℤ} {principal : V2Principal}
    {deviceIds : List String} {statuses : List V2PresenceStatus}
    (hanswer : (queryPresence env clock (Steps.run V2Store.step newV2Store events) principal
      deviceIds).2 = .ok statuses) :
    (∀ reading status, statuses[reading]? = some status →
      Entitled events principal status.deviceId ∧
      LastSeen events status.deviceId status.lastSeenAt ∧
      status.status = if clock reading - status.lastSeenAt ≤ v2PresenceOnlineWindow then "online"
        else "offline") ∧
    (principal.session.entityType = .mobile → ∀ deviceId desktop,
      (Steps.run V2Store.step newV2Store events).Bound deviceId principal.session.entityId →
      (pruneExpiredLocked (Steps.run V2Store.step newV2Store events) env.now).desktops.get
        deviceId = some desktop →
      (deviceIds = [] ∨ deviceId ∈ requestedIds deviceIds) →
        ∃ status ∈ statuses, status.deviceId = deviceId) := by
  have haccounted := accounted_run events
  constructor
  · intro reading status hreading
    obtain ⟨desktop, hget, hstatus, hallowed⟩ :=
      record_of_queryPresence haccounted hanswer hreading
    have hseen := lastSeen_of_get (get_desktops_prune hget)
    have htime : status.lastSeenAt = desktop.lastSeenAt :=
      congrArg V2PresenceStatus.lastSeenAt hstatus
    refine ⟨?_, htime ▸ hseen, ?_⟩
    · unfold V2Store.MayAsk at hallowed
      unfold Entitled
      cases htype : principal.session.entityType with
      | desktop =>
          rw [htype] at hallowed
          exact hallowed
      | mobile =>
          rw [htype] at hallowed
          exact admitted_of_bound hallowed
    · rw [htime, hstatus]
      rfl
  · intro hmobile deviceId desktop hbound hget hasked
    exact shown_of_bound haccounted hanswer hmobile hbound hasked hget

end Runs

/-! ### A mobile asks for its desktop -/

/-- The answer to the phone at this time, after its binding was approved. -/
def presenceForPhone : Except ServerError (List V2PresenceStatus) :=
  (queryPresence (unpairedEnv 5 "5") (fun _ => 5) (Steps.run V2Store.step newV2Store pairedEvents)
    principalOfPhone []).2

theorem presenceForPhone_lists :
    (presenceForPhone.toOption.map fun statuses => statuses.map V2PresenceStatus.deviceId) =
      some ["d"] := by decide +kernel

theorem presence_of_d_shown_to_phone :
    ∃ time, LastSeen pairedEvents "d" time ∧ Admitted pairedEvents "d" "phone" := by
  have hlists := presenceForPhone_lists
  cases hanswer : presenceForPhone with
  | error error =>
      rw [hanswer] at hlists
      cases hlists
  | ok statuses =>
      rw [hanswer] at hlists
      obtain ⟨status, rest, rfl, hid, -⟩ := List.map_eq_cons_iff.mp (Option.some.inj hlists)
      obtain ⟨hentitled, hseen, -⟩ := (presence_shown_to_approved hanswer).1 0 status rfl
      rw [hid] at hentitled hseen
      exact ⟨status.lastSeenAt, hseen, hentitled⟩

end OpenClaw.Server
