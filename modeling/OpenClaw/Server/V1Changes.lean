import OpenClaw.Server.V1Store

/-!
# What an operation of the first store can do

Every mutation of the store is one of a few changes (`Change`), of the store itself or of
the store that a prune left.  Of a record that stands in the store after an operation we
can therefore say where it comes from: `pairSession_of_perform` for the pair sessions,
`binding_of_perform` for the bindings.
-/

namespace OpenClaw.Server.V1

open OpenClaw.Runtime

/-! ## Operations -/

/-- `restore` puts back a snapshot of the store. -/
inductive Operation
  | registerDevice (req : RegisterDeviceRequest) (credentialToken : String)
  | heartbeatDevice (deviceId : String)
  | createPairSession (deviceId : String) (ttlSeconds : ℤ)
  | claimByToken (req : ClaimByTokenRequest)
  | claimByCode (req : ClaimByCodeRequest)
  | revokePair (req : RevokePairRequest)
  | pruneInactiveDevices
  | restore

/-- What an operation that succeeds answers with. -/
inductive Outcome
  | device (device : Device)
  | opened (session : PairSession)
  | claimed (session : PairSession) (binding : Binding)
  | revoked (binding : Binding)
  | done

def answer {α : Type} (outcomeOf : α → Outcome) (result : Store × Except ServerError α) :
    Store × Except ServerError Outcome :=
  (result.1, result.2.map outcomeOf)

/-- The store that an operation leaves, and its answer. -/
def perform (machine : Machine) (store : Store) :
    Operation → Store × Except ServerError Outcome
  | .registerDevice req credentialToken =>
      answer .device (registerDevice machine store req credentialToken)
  | .heartbeatDevice deviceId => answer .device (heartbeatDevice machine store deviceId)
  | .createPairSession deviceId ttlSeconds =>
      answer .opened (createPairSession machine store deviceId ttlSeconds)
  | .claimByToken req =>
      answer (fun claim => .claimed claim.1 claim.2) (claimByToken machine store req)
  | .claimByCode req =>
      answer (fun claim => .claimed claim.1 claim.2) (claimByCode machine store req)
  | .revokePair req => answer .revoked (revokePair machine store req)
  | .pruneInactiveDevices => (pruneInactiveDevicesLocked store machine.now, .ok .done)
  | .restore => (restored machine.iter store, .ok .done)

/-! ## Changes -/

/-- A change of the store, with the answer that it gives. -/
inductive Change (machine : Machine) (store : Store) :
    Store → Except ServerError Outcome → Prop
  | refuse (error : ServerError) : Change machine store store (.error error)
  | expire {sessionId : String} {session : PairSession} (error : ServerError)
      (hget : store.pairSessions.get sessionId = some session)
      (hpending : session.status = .pending) :
      Change machine store
        { store with
          pairSessions := store.pairSessions.set sessionId { session with status := .expired } }
        (.error error)
  | records (devices : OrderedMap String Device)
      (deviceTokenIndex mobileTokenIndex : OrderedMap String String) {outcome : Outcome}
      (hplain : outcome = .done ∨ ∃ device, outcome = .device device) :
      Change machine store { store with devices, deviceTokenIndex, mobileTokenIndex } (.ok outcome)
  | openSession (session : PairSession) (pairTokenIndex pairCodeIndex : OrderedMap String String) :
      Change machine store
        { store with
          pairSessions := store.pairSessions.set session.pairSessionId session
          pairTokenIndex := pairTokenIndex
          pairCodeIndex := pairCodeIndex }
        (.ok (.opened session))
  | claim (session : PairSession) (userId mobileId : String) :
      Change machine store (claimSessionLocked machine store session userId mobileId).1
        (.ok (.claimed (claimSessionLocked machine store session userId mobileId).2.1
          (claimSessionLocked machine store session userId mobileId).2.2))
  | revoke (binding : Binding) (mobileTokenIndex : OrderedMap String String)
      (hrevoked : binding.status = .revoked) :
      Change machine store
        { store with
          mobileTokenIndex := mobileTokenIndex
          bindings := store.bindings.set binding.bindingId binding }
        (.ok (.revoked binding))

/-- The operation changes the store itself, or what a prune leaves of it. -/
def Changes (machine : Machine) (store next : Store) (outcome : Except ServerError Outcome) :
    Prop :=
  ∃ prepared, (prepared = store ∨ prepared = pruneInactiveDevicesLocked store machine.now) ∧
    Change machine prepared next outcome

section Operations

variable {machine : Machine} {store : Store}

theorem changes_registerDevice (req : RegisterDeviceRequest) (credentialToken : String) :
    Changes machine store (answer .device (registerDevice machine store req credentialToken)).1
      (answer .device (registerDevice machine store req credentialToken)).2 := by
  unfold registerDevice
  split
  · exact ⟨store, Or.inl rfl, .refuse _⟩
  · refine ⟨pruneInactiveDevicesLocked store machine.now, Or.inr rfl, ?_⟩
    dsimp only
    split
    · exact .refuse _
    · exact .records _ _ _ (Or.inr ⟨_, rfl⟩)

theorem changes_heartbeatDevice (deviceId : String) :
    Changes machine store (answer .device (heartbeatDevice machine store deviceId)).1
      (answer .device (heartbeatDevice machine store deviceId)).2 := by
  unfold heartbeatDevice
  split
  · exact ⟨store, Or.inl rfl, .refuse _⟩
  · refine ⟨pruneInactiveDevicesLocked store machine.now, Or.inr rfl, ?_⟩
    dsimp only
    split
    · exact .refuse _
    · exact .records _ _ _ (Or.inr ⟨_, rfl⟩)

theorem changes_createPairSession (deviceId : String) (ttlSeconds : ℤ) :
    Changes machine store
      (answer .opened (createPairSession machine store deviceId ttlSeconds)).1
      (answer .opened (createPairSession machine store deviceId ttlSeconds)).2 := by
  unfold createPairSession
  split
  · exact ⟨store, Or.inl rfl, .refuse _⟩
  · refine ⟨pruneInactiveDevicesLocked store machine.now, Or.inr rfl, ?_⟩
    dsimp only
    split
    · exact .refuse _
    · split
      · exact .refuse _
      · exact .openSession _ _ _

theorem change_claimFound {sessionId : String} {session : PairSession}
    (hget : store.pairSessions.get sessionId = some session) (userId mobileId : String) :
    Change machine store
      (answer (fun claim => .claimed claim.1 claim.2)
        (claimFound machine store sessionId session userId mobileId)).1
      (answer (fun claim => .claimed claim.1 claim.2)
        (claimFound machine store sessionId session userId mobileId)).2 := by
  unfold claimFound
  split
  · split
    · exact .claim _ _ _
    · exact .refuse _
  · exact .refuse _
  · next hpending =>
      split
      · exact .expire _ hget hpending
      · exact .claim _ _ _

theorem get_of_findSession {index : OrderedMap String String} {credential sessionId : String}
    {session : PairSession}
    (hfind : findSession store index credential = some (sessionId, session)) :
    store.pairSessions.get sessionId = some session := by
  obtain ⟨found, -, hmap⟩ := Option.bind_eq_some_iff.mp hfind
  obtain ⟨record, hget, heq⟩ := Option.map_eq_some_iff.mp hmap
  obtain ⟨rfl, rfl⟩ := Prod.mk.inj heq
  exact hget

theorem changes_claimWith (index : OrderedMap String String)
    (field credential userId mobileId : String) :
    Changes machine store
      (answer (fun claim => .claimed claim.1 claim.2)
        (claimWith machine store index field credential userId mobileId)).1
      (answer (fun claim => .claimed claim.1 claim.2)
        (claimWith machine store index field credential userId mobileId)).2 := by
  refine ⟨store, Or.inl rfl, ?_⟩
  unfold claimWith
  split
  · exact .refuse _
  split
  · exact .refuse _
  split
  · exact .refuse _
  · next hfind => exact change_claimFound (get_of_findSession hfind) _ _

theorem changes_revokePair (req : RevokePairRequest) :
    Changes machine store (answer .revoked (revokePair machine store req)).1
      (answer .revoked (revokePair machine store req)).2 := by
  refine ⟨store, Or.inl rfl, ?_⟩
  unfold revokePair
  split
  · exact .refuse _
  · exact .revoke _ _ rfl

/-- **Every operation** is a change of the store or of what a prune leaves of it. -/
theorem changes_perform (operation : Operation) :
    Changes machine store (perform machine store operation).1
      (perform machine store operation).2 := by
  cases operation with
  | registerDevice req credentialToken => exact changes_registerDevice req credentialToken
  | heartbeatDevice deviceId => exact changes_heartbeatDevice deviceId
  | createPairSession deviceId ttlSeconds => exact changes_createPairSession deviceId ttlSeconds
  | claimByToken req => exact changes_claimWith _ _ _ _ _
  | claimByCode req => exact changes_claimWith _ _ _ _ _
  | revokePair req => exact changes_revokePair req
  | pruneInactiveDevices => exact ⟨_, Or.inr rfl, .records _ _ _ (Or.inl rfl)⟩
  | restore => exact ⟨_, Or.inl rfl, .records _ _ _ (Or.inl rfl)⟩

end Operations

/-! ## Where a record comes from -/

/-- Why a pair session stands under an id after an operation. -/
inductive SessionOrigin (store : Store) (outcome : Except ServerError Outcome)
    (sessionId : String) (session : PairSession) : Prop
  | kept (hget : store.pairSessions.get sessionId = some session)
  | opened (houtcome : outcome = .ok (.opened session)) (hid : session.pairSessionId = sessionId)
  | claimed (binding : Binding) (houtcome : outcome = .ok (.claimed session binding))
      (hid : session.pairSessionId = sessionId)
  | expired (old : PairSession) (hget : store.pairSessions.get sessionId = some old)
      (hpending : old.status = .pending) (hid : session.pairSessionId = old.pairSessionId)

/-- Why a binding stands under an id after an operation. -/
inductive BindingOrigin (machine : Machine) (store : Store)
    (outcome : Except ServerError Outcome) (bindingId : String) (binding : Binding) : Prop
  | kept (hget : store.bindings.get bindingId = some binding)
  | fresh (session : PairSession) (houtcome : outcome = .ok (.claimed session binding))
      (hid : binding.bindingId = bindingId)
      (hdrawn : bindingId = (machine.makeId "bind").toOption.getD "")
  | renewed (old : Binding) (hold : old ∈ store.bindings.values) (hactive : old.status = .active)
      (hid : binding.bindingId = bindingId) (hsame : old.bindingId = bindingId)
  | revoked (hid : binding.bindingId = bindingId) (hrevoked : binding.status = .revoked)

section Origins

variable {machine : Machine} {store next : Store} {outcome : Except ServerError Outcome}

theorem get_pairSessions_prune {sessionId : String} {session : PairSession} {now : ℤ}
    (hget : (pruneInactiveDevicesLocked store now).pairSessions.get sessionId = some session) :
    store.pairSessions.get sessionId = some session := by
  unfold pruneInactiveDevicesLocked at hget
  exact OrderedMap.get_of_get_filter hget

theorem get_bindings_prune {bindingId : String} {binding : Binding} {now : ℤ}
    (hget : (pruneInactiveDevicesLocked store now).bindings.get bindingId = some binding) :
    store.bindings.get bindingId = some binding := by
  unfold pruneInactiveDevicesLocked at hget
  exact OrderedMap.get_of_get_filter hget

theorem mem_of_getActiveBindingLocked {userId deviceId : String} {binding : Binding}
    (hfound : getActiveBindingLocked machine store userId deviceId = some binding) :
    binding ∈ store.bindings.values ∧ binding.status = .active := by
  unfold getActiveBindingLocked at hfound
  have hchecked := List.find?_some hfound
  exact ⟨machine.iter.mem_order.mp (List.mem_of_find?_eq_some hfound),
    (of_decide_eq_true hchecked).1⟩

theorem Change.pairSession (hchange : Change machine store next outcome) {sessionId : String}
    {session : PairSession} (hget : next.pairSessions.get sessionId = some session) :
    SessionOrigin store outcome sessionId session := by
  cases hchange with
  | refuse error => exact .kept hget
  | expire error hold hpending =>
      rw [OrderedMap.get_set] at hget
      split at hget
      · next heq =>
          subst heq
          obtain rfl := Option.some.inj hget
          exact .expired _ hold hpending rfl
      · exact .kept hget
  | records devices deviceTokenIndex mobileTokenIndex hplain => exact .kept hget
  | openSession fresh pairTokenIndex pairCodeIndex =>
      rw [OrderedMap.get_set] at hget
      split at hget
      · next heq =>
          obtain rfl := Option.some.inj hget
          exact .opened rfl heq.symm
      · exact .kept hget
  | claim found userId mobileId =>
      unfold claimSessionLocked at hget
      rw [OrderedMap.get_set] at hget
      split at hget
      · next heq =>
          obtain rfl := Option.some.inj hget
          exact .claimed _ rfl heq.symm
      · exact .kept hget
  | revoke binding mobileTokenIndex hrevoked => exact .kept hget

theorem Change.binding (hchange : Change machine store next outcome) {bindingId : String}
    {binding : Binding} (hget : next.bindings.get bindingId = some binding) :
    BindingOrigin machine store outcome bindingId binding := by
  cases hchange with
  | refuse error => exact .kept hget
  | expire error hold hpending => exact .kept hget
  | records devices deviceTokenIndex mobileTokenIndex hplain => exact .kept hget
  | openSession fresh pairTokenIndex pairCodeIndex => exact .kept hget
  | claim found userId mobileId =>
      unfold claimSessionLocked at hget
      rw [OrderedMap.get_set] at hget
      split at hget
      · next heq =>
          subst heq
          obtain rfl := Option.some.inj hget
          cases hexisting : getActiveBindingLocked machine store userId found.deviceId with
          | none =>
              have hbinding : (claimSessionLocked machine store found userId mobileId).2.2 =
                  bindingOfClaim machine none userId found.deviceId mobileId :=
                congrArg (bindingOfClaim machine · userId found.deviceId mobileId) hexisting
              exact .fresh _ (by rw [hbinding]) rfl rfl
          | some old =>
              obtain ⟨hold, hactive⟩ := mem_of_getActiveBindingLocked hexisting
              exact .renewed old hold hactive rfl rfl
      · exact .kept hget
  | revoke revoked mobileTokenIndex hrevoked =>
      rw [OrderedMap.get_set] at hget
      split at hget
      · next heq =>
          obtain rfl := Option.some.inj hget
          exact .revoked heq.symm hrevoked
      · exact .kept hget

theorem pairSession_of_changes (hchanges : Changes machine store next outcome)
    {sessionId : String} {session : PairSession}
    (hget : next.pairSessions.get sessionId = some session) :
    SessionOrigin store outcome sessionId session := by
  obtain ⟨prepared, rfl | rfl, hchange⟩ := hchanges
  · exact hchange.pairSession hget
  · cases hchange.pairSession hget with
    | kept hold => exact .kept (get_pairSessions_prune hold)
    | opened houtcome hid => exact .opened houtcome hid
    | claimed binding houtcome hid => exact .claimed binding houtcome hid
    | expired old hold hpending hid =>
        exact .expired old (get_pairSessions_prune hold) hpending hid

theorem binding_of_changes (hchanges : Changes machine store next outcome) {bindingId : String}
    {binding : Binding} (hget : next.bindings.get bindingId = some binding) :
    BindingOrigin machine store outcome bindingId binding := by
  obtain ⟨prepared, rfl | rfl, hchange⟩ := hchanges
  · exact hchange.binding hget
  · cases hchange.binding hget with
    | kept hold => exact .kept (get_bindings_prune hold)
    | fresh session houtcome hid hdrawn => exact .fresh session houtcome hid hdrawn
    | renewed old hold hactive hid hsame =>
        obtain ⟨key, hkey⟩ := OrderedMap.mem_values_iff.mp hold
        exact .renewed old (OrderedMap.mem_values_of_get (get_bindings_prune hkey)) hactive hid
          hsame
    | revoked hid hrevoked => exact .revoked hid hrevoked

/-- The session and the binding that a claim answers with stand in the store. -/
theorem get_of_claimed {session : PairSession} {binding : Binding}
    (hchanges : Changes machine store next (.ok (.claimed session binding))) :
    next.pairSessions.get session.pairSessionId = some session ∧ session.status = .claimed ∧
      next.bindings.get binding.bindingId = some binding := by
  obtain ⟨prepared, -, hchange⟩ := hchanges
  cases hchange with
  | records devices deviceTokenIndex mobileTokenIndex hplain => simp at hplain
  | claim found userId mobileId =>
      exact ⟨OrderedMap.get_set_self _ _ _, rfl, OrderedMap.get_set_self _ _ _⟩

/-- The binding that a revocation answers with stands in the store, revoked. -/
theorem get_of_revoked {binding : Binding}
    (hchanges : Changes machine store next (.ok (.revoked binding))) :
    next.bindings.get binding.bindingId = some binding ∧ binding.status = .revoked := by
  obtain ⟨prepared, -, hchange⟩ := hchanges
  cases hchange with
  | records devices deviceTokenIndex mobileTokenIndex hplain => simp at hplain
  | revoke revoked mobileTokenIndex hrevoked =>
      exact ⟨OrderedMap.get_set_self _ _ _, hrevoked⟩

end Origins

end OpenClaw.Server.V1
