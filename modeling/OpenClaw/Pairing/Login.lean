import OpenClaw.Server.V2Challenges

/-!
# A client logs in

`loginPairV2Entity` asks the server for a challenge, signs the text that the server will
rebuild, and sends the signature back with the same id and key.  Between the two requests
the server may do anything else; the login fails only if the challenge is gone, or if the
record of the client has another key by then.
-/

namespace OpenClaw.Pairing

open OpenClaw.Runtime
open OpenClaw.Server

/-! ## The client -/

structure PairV2Identity where
  entityId : String
  publicKey : String
  privateKey : String

/-- The text that the client signs. -/
def buildLoginMessage (challenge : V2AuthChallenge) : String :=
  "openclaw-v2-auth-login\n" ++ challenge.challengeId ++ "\n" ++ challenge.nonce ++ "\n" ++
    challenge.entityType.name ++ "\n" ++ challenge.entityId ++ "\n" ++ challenge.publicKey

theorem buildLoginMessage_eq (challenge : V2AuthChallenge) :
    buildLoginMessage challenge = buildV2LoginMessage challenge := rfl

/-- `detached` is `nacl.sign.detached`, from a private key and a text to the bytes of a
signature. -/
def signPairV2Text (detached : String → String → List ℕ) (privateKey text : String) : String :=
  Base64.rawUrl.encodeToString (detached privateKey text)

namespace PairV2Identity

/-- The body of the request to `/v2/auth/challenge`. -/
def challengeBody (identity : PairV2Identity) (entityType : EntityType) : V2ChallengeRequest where
  entityType := entityType.name
  entityId := identity.entityId
  publicKey := identity.publicKey

/-- The body of the request to `/v2/auth/login`. -/
def loginBody (identity : PairV2Identity) (entityType : EntityType)
    (detached : String → String → List ℕ) (challenge : V2AuthChallenge) : V2LoginRequest where
  entityType := entityType.name
  entityId := identity.entityId
  publicKey := identity.publicKey
  challengeId := challenge.challengeId
  signature := signPairV2Text detached identity.privateKey (buildLoginMessage challenge)

/-- The private key signs for the public one: its signatures have 64 bytes, and they
verify. -/
structure SignsFor (identity : PairV2Identity) (detached : String → String → List ℕ)
    (verify : List ℕ → String → List ℕ → Bool) : Prop where
  length : ∀ text, (detached identity.privateKey text).length = 64
  bytes : ∀ text, ∀ byte ∈ detached identity.privateKey text, byte < 256
  verifies : ∀ text normalizedKey key,
    normalizeEd25519PublicKey identity.publicKey = .ok (normalizedKey, key) →
      verify key text (detached identity.privateKey text) = true

end PairV2Identity

/-! ## What the server reads -/

/-- Bytes that the client writes in base64 are read back. -/
theorem decodeBase64Flexible_encode {bytes : List ℕ} (hne : bytes ≠ [])
    (hbytes : ∀ byte ∈ bytes, byte < 256) :
    decodeBase64Flexible (Base64.rawUrl.encodeToString bytes) = some bytes := by
  have hread : Base64.rawUrl.decodeString (Base64.rawUrl.encodeToString bytes) = some bytes :=
    Base64.decodeString_encodeToString rfl Base64.rawUrl_distinguishes (by decide) hbytes
  have hblank : ∀ c ∈ (Base64.rawUrl.encodeToString bytes).toList, unicodeBlank c = false := by
    intro c hc
    rw [Base64.encodeToString, String.toList_ofList] at hc
    exact @Base64.mem_encodeGroups Base64.rawUrl rfl (fun c => unicodeBlank c = false) (by decide)
      bytes hbytes c hc
  have htrim : unicodeTrim (Base64.rawUrl.encodeToString bytes) =
      Base64.rawUrl.encodeToString bytes := trim_eq_self hblank
  have hnonempty : Base64.rawUrl.encodeToString bytes ≠ "" := by
    intro hempty
    rw [Base64.encodeToString, ← String.ofList_nil, String.ofList_inj] at hempty
    exact Base64.encodeGroups_ne_nil hne hempty
  unfold decodeBase64Flexible
  rw [htrim, if_neg hnonempty, List.findSome?_cons, hread]

theorem normalizeEd25519Signature_sign {identity : PairV2Identity}
    {detached : String → String → List ℕ} {verify : List ℕ → String → List ℕ → Bool}
    (hsigns : identity.SignsFor detached verify) (text : String) :
    normalizeEd25519Signature (signPairV2Text detached identity.privateKey text) =
      .ok (detached identity.privateKey text) := by
  have hlength := hsigns.length text
  have hne : detached identity.privateKey text ≠ [] := by
    intro hnil
    rw [hnil] at hlength
    cases hlength
  unfold normalizeEd25519Signature signPairV2Text
  rw [decodeBase64Flexible_encode hne (hsigns.bytes text)]
  dsimp only
  rw [if_neg (not_not.mpr hlength)]

theorem parseV2EntityType_name (entityType : EntityType) :
    parseV2EntityType entityType.name = .ok entityType := by
  cases entityType with
  | desktop => decide
  | mobile => decide

/-- What the server made of the request for the challenge. -/
theorem read_challengeBody {identity : PairV2Identity} {entityType : EntityType} {env : Env}
    {challenge : V2AuthChallenge}
    (hread : (identity.challengeBody entityType).read env = .ok challenge) :
    ∃ key, normalizeEd25519PublicKey identity.publicKey = .ok (challenge.publicKey, key) ∧
      trimRequired identity.entityId "entityId" = .ok challenge.entityId ∧
        challenge.entityType = entityType := by
  unfold V2ChallengeRequest.read PairV2Identity.challengeBody at hread
  simp only [bind_eq_ok_iff] at hread
  obtain ⟨readType, htype, entityId, hid, ⟨normalizedKey, key⟩, hkey, _, _, _, _, hchallenge⟩ :=
    hread
  obtain rfl := Except.ok.inj hchallenge
  rw [parseV2EntityType_name] at htype
  exact ⟨key, hkey, hid, (Except.ok.inj htype).symm⟩

/-- A record takes a key if it has it already, or if there is none. -/
theorem exists_recordLogin_iff {store : V2Store} {payload : LoginPayload} {now : ℤ} :
    (∃ next, recordLogin now store payload = .ok next) ↔
      ∀ key, store.keyOf payload.entityType payload.entityId = some key →
        key = payload.normalizedKey := by
  unfold recordLogin
  cases payload.entityType with
  | desktop =>
      dsimp only [recordDesktop, V2Store.keyOf]
      cases store.desktops.get payload.entityId with
      | none => simp
      | some desktop =>
          dsimp only
          by_cases hkey : desktop.publicKey = payload.normalizedKey <;> simp [hkey]
  | mobile =>
      dsimp only [recordMobile, V2Store.keyOf]
      cases store.mobiles.get payload.entityId with
      | none => simp
      | some mobile =>
          dsimp only
          by_cases hkey : mobile.publicKey = payload.normalizedKey <;> simp [hkey]

/-! ## Both together -/

section Client

variable {identity : PairV2Identity} {entityType : EntityType}
  {detached : String → String → List ℕ} {env : Env} {store : V2Store}
  {challenge : V2AuthChallenge}

/-- The payload of the client's login, as the server reads it. -/
theorem read_loginBody {verify : List ℕ → String → List ℕ → Bool}
    (hsigns : identity.SignsFor detached verify)
    (hread : (identity.challengeBody entityType).read env = .ok challenge)
    (hid : unicodeTrim challenge.challengeId = challenge.challengeId)
    (hne : challenge.challengeId ≠ "") :
    ∃ payload, (identity.loginBody entityType detached challenge).read = .ok payload ∧
      payload.entityType = challenge.entityType ∧ payload.entityId = challenge.entityId ∧
      payload.challengeId = challenge.challengeId ∧
      payload.normalizedKey = challenge.publicKey ∧
      verify payload.publicKey (buildV2LoginMessage challenge) payload.signature = true := by
  obtain ⟨key, hkey, hentity, htype⟩ := read_challengeBody hread
  have hsignature := normalizeEd25519Signature_sign hsigns (buildLoginMessage challenge)
  have htrim : trimRequired challenge.challengeId "challengeId" = .ok challenge.challengeId := by
    have htrimmed := @trimRequired_of_ne challenge.challengeId "challengeId" (by rwa [hid])
    rwa [hid] at htrimmed
  rw [← buildLoginMessage_eq]
  refine ⟨⟨entityType, challenge.entityId, challenge.challengeId, challenge.publicKey, key,
    detached identity.privateKey (buildLoginMessage challenge)⟩, ?_, htype.symm, rfl, rfl, rfl,
    hsigns.verifies _ _ _ hkey⟩
  simp only [V2LoginRequest.read, PairV2Identity.loginBody, bind_eq_ok_iff]
  exact ⟨_, parseV2EntityType_name entityType, _, hentity, _, htrim, _, hkey, _, hsignature, rfl⟩

/-- A login with the text of a stored challenge fails only if its record has another key. -/
theorem exists_login_iff {req : V2LoginRequest} {payload : LoginPayload}
    (hread : req.read = .ok payload)
    (hget : store.challenges.get payload.challengeId = some challenge)
    (hlive : env.now < challenge.expiresAt) (hanswers : payload.answers env challenge = .ok ())
    (hdraws : (env.makeId "v2sess").isSome ∧ (env.makeId "v2tok").isSome) :
    (∃ session, (login env store req).2 = .ok session) ↔
      ∃ next, recordLogin env.now (pruneExpiredLocked store env.now) payload = .ok next := by
  have hstored := get_challenges_prune.mpr ⟨hget, hlive⟩
  unfold login
  rw [hread]
  dsimp only [loginLocked]
  rw [hstored]
  dsimp only
  rw [if_neg (not_le.mpr hlive), hanswers]
  dsimp only [Except.bind]
  cases recordLogin env.now (pruneExpiredLocked store env.now) payload with
  | error error => simp
  | ok next =>
      obtain ⟨sessionId, hsession⟩ := Option.isSome_iff_exists.mp hdraws.1
      obtain ⟨token, htoken⟩ := Option.isSome_iff_exists.mp hdraws.2
      unfold openAuthSession
      rw [hsession, htoken]
      simp

/-- **A client that answers its challenge is let in.**  The server issues a challenge to a
client; whatever it is asked next, by whomever and in whatever order, as long as the
challenge neither expires nor is spent, the login that the client sends with its signature
succeeds if and only if the record of the client, if there is one by then, has its key. -/
theorem client_logs_in_iff
    (hissue : (createChallenge env store (identity.challengeBody entityType)).2 = .ok challenge)
    (hid : unicodeTrim challenge.challengeId = challenge.challengeId)
    {middle : List V2StoreEvent}
    (hmiddle : Steps.Along V2Store.step (V2Store.Leaves challenge)
      (store.step (.perform env (.createChallenge (identity.challengeBody entityType)))) middle)
    {loginEnv : Env} (hlive : loginEnv.now < challenge.expiresAt)
    (hdraws : (loginEnv.makeId "v2sess").isSome ∧ (loginEnv.makeId "v2tok").isSome)
    (hsigns : identity.SignsFor detached loginEnv.verify) :
    (∃ session, (login loginEnv (Steps.run V2Store.step store
        (.perform env (.createChallenge (identity.challengeBody entityType)) :: middle))
        (identity.loginBody entityType detached challenge)).2 = .ok session) ↔
      ∀ key, (pruneExpiredLocked (Steps.run V2Store.step store
          (.perform env (.createChallenge (identity.challengeBody entityType)) :: middle))
          loginEnv.now).keyOf entityType challenge.entityId = some key →
        key = challenge.publicKey := by
  have hissues : store.Issues challenge
      (.perform env (.createChallenge (identity.challengeBody entityType))) := hissue
  have hread := issues_iff.mp hissues
  -- the challenge is still there when the client comes back with it
  have hstored := @Steps.present_of_origin _ _ V2Store.step store
    (fun store => store.challenges.get challenge.challengeId = some challenge)
    (fun store event => store.Issues challenge event)
    (fun store event => store.Leaves challenge event)
    (fun store event hissued => get_challenges_step_iff.mpr (.inl hissued))
    (fun store event hpresent hleaves => get_challenges_step_iff.mpr (.inr ⟨hpresent, hleaves⟩))
    _ middle hissues hmiddle
  have hne : challenge.challengeId ≠ "" := by
    unfold V2ChallengeRequest.read at hread
    simp only [bind_eq_ok_iff] at hread
    obtain ⟨_, _, _, _, _, _, drawn, hdrawn, _, _, hchallenge⟩ := hread
    obtain rfl := Except.ok.inj hchallenge
    cases hmake : env.makeId "v2chl" with
    | none =>
        rw [hmake] at hdrawn
        cases hdrawn
    | some text =>
        rw [hmake] at hdrawn
        obtain rfl := Except.ok.inj hdrawn
        exact makeId_ne_empty hmake
  obtain ⟨payload, hpayload, htype, hentity, hnamed, hkey, hverified⟩ :=
    read_loginBody hsigns hread hid hne
  have hanswers : payload.answers loginEnv challenge = .ok () := by
    unfold LoginPayload.answers
    rw [if_neg (by simp [htype, hentity, hkey]), if_pos hverified]
  rw [← hnamed] at hstored
  rw [exists_login_iff hpayload hstored hlive hanswers hdraws, exists_recordLogin_iff, htype,
    hentity, hkey]
  obtain ⟨-, -, -, hsame⟩ := read_challengeBody hread
  rw [hsame]

end Client

/-! ### The desktop `d` logs in -/

def identityOfD : PairV2Identity := ⟨"d", firstKey, "seed"⟩

def challengeOfD : V2AuthChallenge :=
  ⟨"v2chl_1", .desktop, "d", firstKey, "nonce_1", 1, 300001⟩

/-- The store when the login of `d` arrives: a prune came between its two requests. -/
def storeOfD : V2Store :=
  Steps.run V2Store.step newV2Store
    [.perform (trustingEnv 1 "1") (.createChallenge (identityOfD.challengeBody .desktop)),
      .perform (trustingEnv 2 "1") .prune]

theorem client_logs_in_of_d : ∃ session, (login (trustingEnv 3 "1") storeOfD
    (identityOfD.loginBody .desktop (fun _ _ => List.replicate 64 0) challengeOfD)).2 =
      .ok session := by
  have hissue : (createChallenge (trustingEnv 1 "1") newV2Store
      (identityOfD.challengeBody .desktop)).2 = .ok challengeOfD := by rfl
  have hmiddle : Steps.Along V2Store.step (V2Store.Leaves challengeOfD)
      (newV2Store.step
        (.perform (trustingEnv 1 "1") (.createChallenge (identityOfD.challengeBody .desktop))))
      [.perform (trustingEnv 2 "1") .prune] :=
    ⟨⟨fun _ => by decide, id, fun _ hissues => hissues.elim⟩, trivial⟩
  have hsigns : identityOfD.SignsFor (fun _ _ => List.replicate 64 0) (trustingEnv 3 "1").verify :=
    ⟨fun _ => by simp, fun _ => by simp, fun _ _ _ _ => rfl⟩
  have hunknown : (pruneExpiredLocked storeOfD 3).keyOf .desktop "d" = none := by decide +kernel
  apply (client_logs_in_iff hissue (by decide) hmiddle (by decide) (by decide) hsigns).mpr
  intro key hkey
  cases hunknown.symm.trans hkey

end OpenClaw.Pairing
