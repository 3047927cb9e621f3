import OpenClaw.Pairing.QrCode
import OpenClaw.Server.V2KeepAlive
import OpenClaw.Server.V2LifeCycle

/-!
# The safety codes of both sides

A desktop opens a pair session and shows its code; a phone scans the code and claims the
session; the server tells the desktop of the claim.  Phone and desktop then show six
digits each, which the user compares.  The phone makes them of the code it scanned and of
its own key, the desktop of what the server told it.

Between the opening and the claim the server does whatever it is asked.  As long as it does
not draw the claim token again, the claim finds the pair session that the code is from, and
the digits are the same.
-/

namespace OpenClaw.Pairing

open OpenClaw.Runtime OpenClaw.Server

/-! ## The pair session of a code -/

/-- What a code says of a pair session is still so. -/
structure SameCode (session current : V2PairSession) : Prop where
  pairSessionId : current.pairSessionId = session.pairSessionId
  devicePublicKey : current.devicePublicKey = session.devicePublicKey
  sessionNonce : current.sessionNonce = session.sessionNonce

theorem SameCode.refl (session : V2PairSession) : SameCode session session := ⟨rfl, rfl, rfl⟩

theorem SameCode.pruned {session current : V2PairSession} (hsame : SameCode session current)
    (now : ℤ) : SameCode session (current.pruned now) := by
  unfold V2PairSession.pruned
  split
  · exact ⟨hsame.pairSessionId, hsame.devicePublicKey, hsame.sessionNonce⟩
  · exact hsame

/-- No pair session has the claim token but the one that the code is from. -/
def CodeKept (session : V2PairSession) (store : V2Store) : Prop :=
  ∀ pairSessionId current, store.pairSessions.get pairSessionId = some current →
    current.claimToken = session.claimToken → SameCode session current

/-- The event draws the claim token for another pair session. -/
def Redraws (session : V2PairSession) : V2StoreEvent → Prop
  | .perform env _ => env.makeId "v2claim" = some session.claimToken
  | .restart _ _ _ => False

section Kept

variable {env : Env} {store next : V2Store} {session : V2PairSession}

theorem CodeKept.prune (hkept : CodeKept session store) (now : ℤ) :
    CodeKept session (pruneExpiredLocked store now) := by
  intro pairSessionId current hget htoken
  rw [get_pairSessions_prune] at hget
  obtain ⟨old, hold, rfl⟩ := Option.map_eq_some_iff.mp hget
  rw [V2PairSession.claimToken_pruned] at htoken
  exact (hkept pairSessionId old hold htoken).pruned now

/-- A pair session that is written over one of the same code. -/
theorem CodeKept.put (hkept : CodeKept session store) {pairSessionId : String}
    {written : V2PairSession}
    (hwritten : written.claimToken = session.claimToken → SameCode session written)
    (hnext : next.pairSessions = store.pairSessions.set pairSessionId written) :
    CodeKept session next := by
  intro other current hget htoken
  rw [hnext, OrderedMap.get_set] at hget
  split at hget
  · obtain rfl := Option.some.inj hget
    exact hwritten htoken
  · exact hkept other current hget htoken

theorem CodeKept.of_pairSessions (hkept : CodeKept session store)
    (hnext : next.pairSessions = store.pairSessions) : CodeKept session next := by
  intro pairSessionId current hget
  rw [hnext] at hget
  exact hkept pairSessionId current hget

theorem CodeKept.pair (hkept : CodeKept session store)
    (hdraws : env.makeId "v2claim" ≠ some session.claimToken)
    (hpair : PairChange env store next) : CodeKept session next := by
  cases hpair with
  | openPairSession hget hfresh =>
      refine hkept.put (fun htoken => ?_) rfl
      exact absurd (htoken ▸ hfresh.claimToken) hdraws
  | deletePairSession hget hpending hunbound =>
      intro pairSessionId current hcurrent
      exact hkept pairSessionId current (OrderedMap.get_of_get_filter hcurrent)
  | expirePairSession hindex hget hexpired =>
      refine hkept.put (fun htoken => ?_) rfl
      have hsame := hkept _ _ hget htoken
      exact ⟨hsame.pairSessionId, hsame.devicePublicKey, hsame.sessionNonce⟩
  | claim hindex hget hlive hclaimable hclaimer hmobile hid hbinding =>
      refine hkept.put (fun htoken => ?_) rfl
      have hsame := hkept _ _ hget htoken
      exact ⟨hsame.pairSessionId, hsame.devicePublicKey, hsame.sessionNonce⟩
  | approve hget howner hpending =>
      unfold approvePairSession
      split
      · exact hkept.of_pairSessions rfl
      · next current hcurrent =>
          refine hkept.put (fun htoken => ?_) rfl
          have hsame := hkept _ _ hcurrent htoken
          exact ⟨hsame.pairSessionId, hsame.devicePublicKey, hsame.sessionNonce⟩

theorem codeKept_step (hkept : CodeKept session store) {event : V2StoreEvent}
    (hevent : ¬Redraws session event) : CodeKept session (store.step event) := by
  cases event with
  | restart persistedAt hydratedAt iter =>
      intro pairSessionId current hget
      exact hkept pairSessionId current (get_pairSessions_of_restart hget)
  | perform env operation =>
      rw [step_perform]
      refine perform_preserves (fun hkept => hkept.prune _) ?_ ?_ hkept
      · intro store next hkept hrecord
        exact hkept.of_pairSessions (samePairing_of_records (.single hrecord)).pairSessions
      · exact fun _ hkept hpair => hkept.pair hevent hpair

/-- A pair session that was opened, and the desktop that opened it. -/
theorem session_of_createPairSession {principal : V2Principal} {ttlSeconds : ℤ}
    (hcreate : (createPairSession env store principal ttlSeconds).2 = .ok session) :
    ∃ desktop, session.Fresh env desktop ∧
      (pruneExpiredLocked store env.now).desktops.get principal.session.entityId = some desktop ∧
      env.makeId "v2nonce" = some session.sessionNonce ∧
      (createPairSession env store principal ttlSeconds).1.pairSessions =
        (pruneExpiredLocked store env.now).pairSessions.set session.pairSessionId session := by
  unfold createPairSession at hcreate ⊢
  split at hcreate
  · cases hcreate
  next htype =>
  rw [if_neg htype]
  dsimp only at hcreate ⊢
  split at hcreate
  · cases hcreate
  next desktop hdesktop =>
  rw [hdesktop]
  unfold openPairSession at hcreate ⊢
  split at hcreate
  · next pairSessionId claimToken sessionNonce hid htoken hnonce =>
      obtain rfl := Except.ok.inj hcreate
      refine ⟨desktop, ⟨hid, htoken, rfl, rfl, rfl, rfl, rfl⟩, rfl, hnonce, ?_⟩
      rfl
  · cases hcreate

/-- The token of a new pair session is no other one's. -/
theorem codeKept_of_create {principal : V2Principal} {ttlSeconds : ℤ}
    (hdraws : DrawsFresh env store)
    (hcreate : (createPairSession env store principal ttlSeconds).2 = .ok session) :
    CodeKept session (createPairSession env store principal ttlSeconds).1 := by
  obtain ⟨desktop, hfresh, -, -, hsessions⟩ := session_of_createPairSession hcreate
  intro pairSessionId current hget htoken
  rw [hsessions, OrderedMap.get_set] at hget
  split at hget
  · obtain rfl := Option.some.inj hget
    exact .refl _
  · exact absurd htoken ((hdraws.prune env.now).claimToken hfresh.claimToken hget)

end Kept

/-! ## The claim -/

/-- The request to `/v2/pair/claims`. -/
def claimRoute (authenticatedAt : ℤ) (env : Env) (store : V2Store) (token : String)
    (req : V2PairClaimRequest) : V2Store × Except ServerError (V2PairSession × V2Binding) :=
  match authenticate authenticatedAt store token with
  | (store, .error error) => (store, .error error)
  | (store, .ok principal) => claimPair env store principal req

section Claim

variable {env : Env} {store : V2Store} {principal : V2Principal} {req : V2PairClaimRequest}
  {claimed : V2PairSession} {binding : V2Binding}

/-- A claim that is accepted finds the pair session by its token, and takes the key of the
phone from its record. -/
theorem found_of_claimPair
    (hclaim : (claimPair env store principal req).2 = .ok (claimed, binding)) :
    ∃ pairSessionId session mobile,
      (pruneExpiredLocked store env.now).pairClaimTokenIndex.get (unicodeTrim req.claimToken) =
        some pairSessionId ∧
      (pruneExpiredLocked store env.now).pairSessions.get pairSessionId = some session ∧
      (pruneExpiredLocked store env.now).mobiles.get principal.session.entityId = some mobile ∧
      principal.session.entityType = .mobile ∧
      SameCode session claimed ∧ binding.devicePublicKey = session.devicePublicKey ∧
      binding.mobilePublicKey = mobile.publicKey := by
  unfold claimPair at hclaim
  split at hclaim
  · cases hclaim
  next htype =>
  split at hclaim
  · cases hclaim
  next claimToken htrim =>
  obtain rfl := eq_of_trimRequired htrim
  unfold claimPairLocked at hclaim
  split at hclaim
  · cases hclaim
  next pairSessionId session hfound =>
  obtain ⟨key, hindex, hrow⟩ := Option.bind_eq_some_iff.mp hfound
  obtain ⟨row, hget, hpair⟩ := Option.map_eq_some_iff.mp hrow
  obtain ⟨rfl, rfl⟩ := Prod.mk.inj hpair
  split at hclaim
  · cases hclaim
  split at hclaim
  · cases hclaim
  split at hclaim
  · cases hclaim
  next mobile hmobile =>
  refine ⟨key, row, mobile, hindex, hget, hmobile, not_not.mp htype, ?_⟩
  have hkey : (renameMobile env.now (pruneExpiredLocked store env.now) mobile
      req.mobileName).2.publicKey = mobile.publicKey := by
    unfold renameMobile
    split
    · rfl
    · rfl
  dsimp only at hclaim
  generalize renameMobile env.now (pruneExpiredLocked store env.now) mobile req.mobileName =
    renamed at hclaim hkey
  unfold claimBy at hclaim
  split at hclaim
  · cases hclaim
  next written hwritten =>
  obtain ⟨rfl, rfl⟩ := Prod.mk.inj (Except.ok.inj hclaim)
  obtain ⟨-, hdeviceKey, -, hmobileKey⟩ := claimedBinding_sides hwritten
  exact ⟨⟨rfl, rfl, rfl⟩, hdeviceKey, hmobileKey.trans hkey⟩

/-- The principal of a token has the key of the token's session, and so has its record. -/
theorem authenticated_of_ok {now : ℤ} {token : String} {next : V2Store}
    (hauthenticate : authenticate now store token = (next, .ok principal)) :
    ∃ held, store.authSessions.get (unicodeTrim token) = some held ∧
      principal.session.publicKey = held.publicKey ∧
      next.authSessions.get (unicodeTrim token) = some principal.session := by
  unfold authenticate at hauthenticate
  split at hauthenticate
  · cases hauthenticate
  unfold authenticateLocked at hauthenticate
  split at hauthenticate
  · cases hauthenticate
  next held hheld =>
  split at hauthenticate
  · cases hauthenticate
  dsimp only at hauthenticate
  obtain ⟨rfl, hprincipal⟩ := Prod.mk.inj hauthenticate
  obtain rfl := Except.ok.inj hprincipal
  have hsession : ∀ {store : V2Store} {session : V2AuthSession} {now : ℤ},
      (principalOf now store session).2.session = session := by
    intro store session now
    unfold principalOf
    split
    · split
      · rfl
      · rfl
    · split
      · rfl
      · rfl
  refine ⟨held, (get_authSessions_prune.mp hheld).1, ?_, ?_⟩
  · rw [hsession]
  · rw [authSessions_principalOf, hsession]
    exact OrderedMap.get_set_self _ _ _

end Claim

/-! ## Both codes -/

/-- What the phone brings: its key, the name it goes by, and how it reads a code. -/
structure Phone where
  parseJson : String → Option Json
  coercion : Coercion
  publicKey : String
  mobileName : String

/-- The binding as the phone gets it. -/
def bindingAnswer (binding : V2Binding) : Mobile.PairV2Binding where
  bindingId := binding.bindingId
  pairSessionId := binding.pairSessionId
  deviceId := binding.deviceId
  trustState := TrustState.text binding.trustState

/-- The phone reads the code, and the server in this state answers it. -/
def scannerAt (platform : Desktop.Platform) (phone : Phone) (authenticatedAt : ℤ) (env : Env)
    (store : V2Store) : Mobile.Scanner where
  parsePairV2QrPayload raw :=
    (phone.parseJson (jsTrim raw)).map (parsePairV2QrPayload phone.coercion)
  claimPairV2Session _ token claimToken :=
    match (claimRoute authenticatedAt env store token ⟨claimToken, phone.mobileName⟩).2 with
    | .ok answer => .ok (bindingAnswer answer.2)
    | .error error => .error error.message
  computePairV2SafetyCode qrPayload :=
    .ok (computePairV2SafetyCode platform.sha256
      ⟨qrPayload.devicePubkey, phone.publicKey, qrPayload.pairSessionId, qrPayload.sessionNonce⟩)

/-- The sessions of these tokens have the key of the phone. -/
def Phone.Holds (phone : Phone) (service : Mobile.Service) (store : V2Store) : Prop :=
  ∀ baseUrl token, service.token baseUrl = .ok token → ∀ held,
    store.authSessions.get (unicodeTrim token) = some held → held.publicKey = phone.publicKey

section Codes

variable {platform : Desktop.Platform} {phone : Phone} {service : Mobile.Service}
  {authenticatedAt : ℤ} {env : Env} {store : V2Store} {session : V2PairSession} {raw : String}
  {serverBaseUrl resolvedBaseUrl : String}

/-- What the phone reads of a code that was made for a pair session. -/
theorem parse_qrPayload (hid : Plain session.pairSessionId) (htoken : Plain session.claimToken)
    (hkey : Plain session.devicePublicKey) (hnonce : Plain session.sessionNonce)
    (coercion : Coercion) :
    parsePairV2QrPayload coercion
        (.obj (sanitizePairQrPayload resolvedBaseUrl (qrPayload serverBaseUrl session))) =
      ⟨readQrText coercion
          (.obj (sanitizePairQrPayload resolvedBaseUrl (qrPayload serverBaseUrl session)))
          "serverBaseUrl" "server_base_url",
        session.pairSessionId, session.claimToken, session.devicePublicKey,
        session.sessionNonce⟩ := by
  have hfields : ∀ key, key ∉ ["serverBaseUrl", "server_base_url", "baseUrl", "base_url"] →
      (Json.obj (sanitizePairQrPayload resolvedBaseUrl (qrPayload serverBaseUrl session))).field
        key = (Json.obj (qrPayload serverBaseUrl session)).field key :=
    fun key hkey => field_sanitizePairQrPayload hkey
  have hread : ∀ key other text, key ∉ ["serverBaseUrl", "server_base_url", "baseUrl", "base_url"] →
      (Json.obj (qrPayload serverBaseUrl session)).field key = some (.str text) → Plain text →
        readQrText coercion
          (.obj (sanitizePairQrPayload resolvedBaseUrl (qrPayload serverBaseUrl session)))
          key other = text :=
    fun key other text hkey hfield => readQrText_of_str ((hfields key hkey).trans hfield)
  unfold parsePairV2QrPayload
  rw [hread "pairSessionId" _ session.pairSessionId (by decide) rfl hid,
    hread "claimToken" _ session.claimToken (by decide) rfl htoken,
    hread "devicePubkey" _ session.devicePublicKey (by decide) rfl hkey,
    hread "sessionNonce" _ session.sessionNonce (by decide) rfl hnonce]

/-- The first half of a request is an operation of its own, which draws nothing. -/
def authentication (now : ℤ) (token : String) : V2StoreEvent :=
  .perform ⟨now, fun _ => none, .stored, fun _ _ _ => false⟩ (.authenticate token)

theorem drawsFresh_authentication {now : ℤ} {token : String} (store : V2Store) :
    store.StepDrawsFresh (authentication now token) := by
  constructor
  · intro pairSessionId hdraw
    cases hdraw
  · intro claimToken pairSessionId session hdraw
    cases hdraw

theorem not_redraws_authentication {now : ℤ} {token : String} :
    ¬Redraws session (authentication now token) := by
  intro hdraw
  cases hdraw

/-- A claim with the token of the code finds its pair session, and knows the phone by the
key of its session. -/
theorem keys_of_claimRoute (hconsistent : store.Consistent) (hstored : KeysStored store)
    (hkept : CodeKept session store) (htoken : Plain session.claimToken)
    {token mobileName : String} {claimed : V2PairSession} {binding : V2Binding}
    (hholds : ∀ held, store.authSessions.get (unicodeTrim token) = some held →
      held.publicKey = phone.publicKey)
    (hclaim : (claimRoute authenticatedAt env store token ⟨session.claimToken, mobileName⟩).2 =
      .ok (claimed, binding)) :
    SameCode session claimed ∧ binding.devicePublicKey = session.devicePublicKey ∧
      binding.mobilePublicKey = phone.publicKey ∧ StoredKey phone.publicKey := by
  unfold claimRoute at hclaim
  split at hclaim
  · cases hclaim
  next next principal hauthenticate =>
  have hnext : next = store.step (authentication authenticatedAt token) := by
    rw [authentication, step_perform]
    dsimp only [perform, answer]
    rw [hauthenticate]
  have hconsistentNext : next.Consistent := by
    rw [hnext]
    exact consistent_step hconsistent (drawsFresh_authentication store)
  have hkeptNext : CodeKept session next := by
    rw [hnext]
    exact codeKept_step hkept not_redraws_authentication
  obtain ⟨pairSessionId, found, mobile, hindex, hget, hmobile, htype, hsame, hdeviceKey,
    hmobileKey⟩ := found_of_claimPair hclaim
  -- the token leads to a pair session that has it, and so to the one of the code
  have hindexed := hconsistentNext.indexed.prune env.now
  obtain ⟨row, hrow, hrowToken, -⟩ := hindexed.index.exact.mp hindex
  rw [hget] at hrow
  obtain rfl := Option.some.inj hrow
  rw [htoken.unicodeTrim] at hrowToken
  have hfound := hkeptNext.prune env.now _ _ hget hrowToken
  -- the record of the phone has the key of its session
  obtain ⟨held, hheld, hheldKey, hsession⟩ := authenticated_of_ok hauthenticate
  have hkey := hconsistentNext.accounted.sessions hsession
  rw [htype, V2Store.keyOf, OrderedMap.get_of_get_filter hmobile, Option.map_some,
    Option.some_inj] at hkey
  refine ⟨?_, hdeviceKey.trans hfound.devicePublicKey, ?_, ?_⟩
  · exact ⟨hsame.pairSessionId.trans hfound.pairSessionId,
      hsame.devicePublicKey.trans hfound.devicePublicKey,
      hsame.sessionNonce.trans hfound.sessionNonce⟩
  · exact hmobileKey.trans (hkey.trans (hheldKey.trans (hholds held hheld)))
  · rw [← hholds held hheld]
    exact hstored.sessions held (OrderedMap.mem_values_of_get hheld)

/-- The desktop shows, on the channel of a claim, the code of what it was told. -/
theorem shown_of_claimed {desktopEnv : Desktop.Env} {backend : Desktop.Backend}
    {fromId : Option String} {payload : Json} {inputs : Desktop.CodeInputs}
    (hinputs : (Desktop.readClaimed payload).inputs = some inputs) :
    ∃ channel, (Desktop.handleSignal platform desktopEnv backend
        ⟨"pair.claimed", fromId, some payload⟩).1.get
          (Desktop.claimSlot desktopEnv backend (Desktop.readClaimed payload)) = some channel ∧
      channel.safetyCode = some (inputs.code platform) ∧
      channel.devicePublicKey = some inputs.devicePublicKey ∧
      channel.mobilePublicKey = some inputs.mobilePublicKey := by
  have htype : unicodeTrim "pair.claimed" = "pair.claimed" := by decide
  unfold Desktop.handleSignal
  dsimp only [Option.getD_some]
  rw [if_pos htype]
  dsimp only
  generalize Desktop.readClaimed payload = claimed at hinputs ⊢
  obtain ⟨-, old, hold⟩ := Desktop.get_findOrCreateChannel (desktopEnv.randomId "ch")
    backend.channels claimed.sessionId claimed.bindingId claimed.mobileId desktopEnv.now
  refine ⟨Desktop.claimChannel platform claimed old, ?_, ?_⟩
  · unfold Desktop.pairClaimed Desktop.claimSlot
    rw [Roster.get_modify_self, hold]
    rfl
  · rw [Desktop.safetyCode_claimChannel, hinputs]
    unfold Desktop.Claimed.inputs at hinputs
    split at hinputs
    · next hall =>
        obtain rfl := Option.some.inj hinputs
        refine ⟨rfl, ?_, ?_⟩
        · exact if_pos hall.1
        · exact if_pos hall.2.1
    · cases hinputs

/-- A scan that succeeds claims the pair session of the code with a token of the phone, and
makes its digits of the code. -/
theorem claim_of_scan {scanned : Mobile.Claimed} {qr : Mobile.QrPayload}
    (hscan : (phone.parseJson (jsTrim raw)).map (parsePairV2QrPayload phone.coercion) = some qr)
    (hclaim : Mobile.claimByScan service (scannerAt platform phone authenticatedAt env store) raw =
      .ok scanned) :
    ∃ baseUrl token claimed binding, service.token baseUrl = .ok token ∧
      (claimRoute authenticatedAt env store token ⟨qr.claimToken, phone.mobileName⟩).2 =
        .ok (claimed, binding) ∧ scanned.binding = bindingAnswer binding ∧
      scanned.safetyCode = computePairV2SafetyCode platform.sha256
        ⟨qr.devicePubkey, phone.publicKey, qr.pairSessionId, qr.sessionNonce⟩ := by
  unfold Mobile.claimByScan at hclaim
  rw [show (scannerAt platform phone authenticatedAt env store).parsePairV2QrPayload raw = some qr
    from hscan] at hclaim
  dsimp only at hclaim
  split at hclaim
  · cases hclaim
  split at hclaim
  · cases hclaim
  split at hclaim
  · cases hclaim
  split at hclaim
  · cases hclaim
  cases hbase : service.normalizeBaseUrl qr.serverBaseUrl with
  | error error =>
      rw [hbase] at hclaim
      cases hclaim
  | ok baseUrl =>
      rw [hbase] at hclaim
      cases htoken : service.token baseUrl with
      | error error =>
          simp only [Except.bind, bind, htoken] at hclaim
          cases hclaim
      | ok token =>
          simp only [Except.bind, bind, htoken, scannerAt] at hclaim
          cases hanswer : (claimRoute authenticatedAt env store token
              ⟨qr.claimToken, phone.mobileName⟩).2 with
          | error error =>
              rw [hanswer] at hclaim
              cases hclaim
          | ok answer =>
              rw [hanswer] at hclaim
              obtain rfl := Except.ok.inj hclaim
              exact ⟨baseUrl, token, answer.1, answer.2, htoken, hanswer, rfl, rfl⟩

end Codes

section Runs

variable {platform : Desktop.Platform} {phone : Phone} {service : Mobile.Service}
  {session : V2PairSession} {desktop : V2Principal} {ttlSeconds : ℤ} {drawn : Env}
  {first middle : List V2StoreEvent}

/-- **Both sides show the same digits.**  A desktop opens a pair session; whatever the
server is asked next, in any order and with any restarts, a phone that scans the code and
whose claim is accepted makes the digits that the desktop shows once it hears of the claim,
on a channel with the keys of these two. -/
theorem safety_codes_agree
    (hfresh : Steps.Along V2Store.step V2Store.StepDrawsFresh newV2Store
      (first ++ .perform drawn (.createPairSession desktop ttlSeconds) :: middle))
    (hplain : DrawsPlain drawn)
    (hcreate : (createPairSession drawn (Steps.run V2Store.step newV2Store first) desktop
      ttlSeconds).2 = .ok session)
    (honce : ∀ event ∈ middle, ¬Redraws session event) {authenticatedAt : ℤ} {env : Env}
    (hholds : phone.Holds service (Steps.run V2Store.step newV2Store
      (first ++ .perform drawn (.createPairSession desktop ttlSeconds) :: middle)))
    {serverBaseUrl resolvedBaseUrl raw : String}
    (hscan : phone.parseJson (jsTrim raw) =
      some (.obj (sanitizePairQrPayload resolvedBaseUrl (qrPayload serverBaseUrl session))))
    {scanned : Mobile.Claimed}
    (hclaim : Mobile.claimByScan service (scannerAt platform phone authenticatedAt env
      (Steps.run V2Store.step newV2Store
        (first ++ .perform drawn (.createPairSession desktop ttlSeconds) :: middle))) raw =
        .ok scanned) :
    ∃ token claimed binding,
      (claimRoute authenticatedAt env (Steps.run V2Store.step newV2Store
          (first ++ .perform drawn (.createPairSession desktop ttlSeconds) :: middle)) token
          ⟨session.claimToken, phone.mobileName⟩).2 = .ok (claimed, binding) ∧
      ∀ (desktopEnv : Desktop.Env) (backend : Desktop.Backend) (fromId : Option String),
        ∃ channel, (Desktop.handleSignal platform desktopEnv backend
            ⟨"pair.claimed", fromId, some (claimedPayload claimed binding)⟩).1.get
              (Desktop.claimSlot desktopEnv backend
                (Desktop.readClaimed (claimedPayload claimed binding))) = some channel ∧
          channel.safetyCode = some scanned.safetyCode ∧
          channel.devicePublicKey = some session.devicePublicKey ∧
          channel.mobilePublicKey = some phone.publicKey := by
  have hconsistent := consistent_run hfresh
  obtain ⟨-, hdraws, -⟩ := Steps.along_append.mp hfresh
  -- the four texts have no blanks
  obtain ⟨opener, hopened, hdesktop, hnonceDrawn, -⟩ := session_of_createPairSession hcreate
  have hid : Plain session.pairSessionId := .of_makeId hplain (by decide) hopened.pairSessionId
  have htoken : Plain session.claimToken := .of_makeId hplain (by decide) hopened.claimToken
  have hnonce : Plain session.sessionNonce := .of_makeId hplain (by decide) hnonceDrawn
  have hdeviceStored : StoredKey session.devicePublicKey := by
    rw [hopened.devicePublicKey]
    exact ((keysStored_run first).desktops (OrderedMap.get_of_get_filter hdesktop)).2
  -- the claim finds the pair session of the code
  have hkept : CodeKept session (Steps.run V2Store.step newV2Store
      (first ++ .perform drawn (.createPairSession desktop ttlSeconds) :: middle)) := by
    rw [Steps.run_append, Steps.run_cons]
    have hstart := codeKept_of_create hdraws hcreate
    have hstep : ∀ (store : V2Store) event, CodeKept session store → ¬Redraws session event →
        CodeKept session (store.step event) := fun _ _ hkept hevent => codeKept_step hkept hevent
    exact Steps.run_preserves hstep hstart (Steps.along_of_forall fun event hmem _ =>
      honce event hmem)
  have hparsed : (phone.parseJson (jsTrim raw)).map (parsePairV2QrPayload phone.coercion) =
      some (parsePairV2QrPayload phone.coercion
        (.obj (sanitizePairQrPayload resolvedBaseUrl (qrPayload serverBaseUrl session)))) := by
    rw [hscan]
    rfl
  obtain ⟨baseUrl, token, claimed, binding, hserviceToken, hanswer, -, hcode⟩ :=
    claim_of_scan hparsed hclaim
  rw [parse_qrPayload hid htoken hdeviceStored.plain hnonce] at hanswer hcode
  obtain ⟨hsame, hdeviceKey, hmobileKey, hmobileStored⟩ := keys_of_claimRoute hconsistent
    (keysStored_run _) hkept htoken (hholds baseUrl token hserviceToken) hanswer
  refine ⟨token, claimed, binding, hanswer, fun desktopEnv backend fromId => ?_⟩
  -- the desktop reads what the phone has read
  have hinputs : (Desktop.readClaimed (claimedPayload claimed binding)).inputs =
      some ⟨session.devicePublicKey, phone.publicKey, session.pairSessionId,
        session.sessionNonce⟩ := by
    rw [← hsame.pairSessionId, ← hsame.sessionNonce, ← hdeviceKey, ← hmobileKey]
    apply inputs_readClaimed
    · rw [hsame.pairSessionId]
      exact hid
    · rw [hsame.sessionNonce]
      exact hnonce
    · rw [hdeviceKey]
      exact hdeviceStored.plain
    · rw [hmobileKey]
      exact hmobileStored.plain
  rw [hcode, computePairV2SafetyCode_eq]
  exact shown_of_claimed hinputs

end Runs

/-! ### A phone scans the code of `d` -/

def sessionOfCode : V2PairSession :=
  ⟨"v2pair_1", "d", firstKey, "v2claim_1", "v2nonce_1", .pending, 1, 1, 180001, none, none⟩

def scanningPhone : Phone where
  parseJson _ :=
    some (.obj (sanitizePairQrPayload "http://host" (qrPayload "http://d" sessionOfCode)))
  coercion := ⟨fun _ => "", fun _ => .nan⟩
  publicKey := firstKey
  mobileName := "phone"

def phoneService : Mobile.Service :=
  ⟨fun baseUrl => .ok baseUrl, fun _ => .ok "v2tok_2", fun _ _ _ => .ok []⟩

/-- The phone logs in after the desktop has opened the pair session. -/
def phoneLogin : List V2StoreEvent := meetingEvents.drop 3

def scanOfCode : Except String Mobile.Claimed :=
  Mobile.claimByScan phoneService (scannerAt Desktop.plainPlatform scanningPhone 3
    (unpairedEnv 3 "3") (Steps.run V2Store.step newV2Store meetingEvents)) "code"

theorem createPairSession_sessionOfCode : (createPairSession (trustingEnv 1 "1")
    (Steps.run V2Store.step newV2Store (openingEvents.take 2)) principalOfD 0).2 =
      .ok sessionOfCode := by
  rfl

/-- The scan succeeds, and the session of its token has the key of the phone. -/
theorem scanOfCode_ok : (scanOfCode.isOk &&
    ((Steps.run V2Store.step newV2Store meetingEvents).authSessions.get "v2tok_2").all fun held =>
      decide (held.publicKey = firstKey)) = true := by decide +kernel

theorem safety_codes_agree_for_d : ∃ scanned, scanOfCode = .ok scanned ∧
    ∃ (payload : Json) (channel : Desktop.PairBackendChannel),
      (Desktop.handleSignal Desktop.plainPlatform Desktop.claimEnv .initial
        ⟨"pair.claimed", none, some payload⟩).1.get (Desktop.claimSlot Desktop.claimEnv .initial
          (Desktop.readClaimed payload)) = some channel ∧
      channel.safetyCode = some scanned.safetyCode := by
  obtain ⟨hok, hkeys⟩ := Bool.and_eq_true_iff.mp scanOfCode_ok
  obtain ⟨scanned, hscanned⟩ : ∃ scanned, scanOfCode = .ok scanned := by
    cases hscan : scanOfCode with
    | error error =>
        rw [hscan] at hok
        cases hok
    | ok scanned => exact ⟨scanned, rfl⟩
  have hfresh : Steps.Along V2Store.step V2Store.StepDrawsFresh newV2Store
      (openingEvents.take 2 ++
        .perform (trustingEnv 1 "1") (.createPairSession principalOfD 0) :: phoneLogin) :=
    drawsFresh_meetingEvents
  have hplain : DrawsPlain (trustingEnv 1 "1") := by
    intro kind text htext c hc
    obtain rfl := Option.some.inj htext
    obtain rfl := List.mem_singleton.mp hc
    decide
  have honce : ∀ event ∈ phoneLogin, ¬Redraws sessionOfCode event := by
    intro event hmem hdraw
    obtain rfl | hmem := List.mem_cons.mp hmem
    · cases hdraw
    · obtain rfl := List.mem_singleton.mp hmem
      cases hdraw
  have hholds : scanningPhone.Holds phoneService
      (Steps.run V2Store.step newV2Store meetingEvents) := by
    intro baseUrl token htoken held hheld
    obtain rfl := Except.ok.inj htoken
    rw [show unicodeTrim "v2tok_2" = "v2tok_2" by decide] at hheld
    rw [hheld] at hkeys
    exact of_decide_eq_true hkeys
  refine ⟨scanned, hscanned, ?_⟩
  obtain ⟨_, claimed, binding, -, hshown⟩ := safety_codes_agree hfresh hplain
    createPairSession_sessionOfCode honce hholds rfl hscanned
  obtain ⟨channel, hget, hcode, -⟩ := hshown Desktop.claimEnv .initial none
  exact ⟨claimedPayload claimed binding, channel, hget, hcode⟩

end OpenClaw.Pairing
