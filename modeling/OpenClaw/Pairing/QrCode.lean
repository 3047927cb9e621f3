import OpenClaw.Desktop.Approval
import OpenClaw.Mobile.Pairing
import OpenClaw.Runtime.Coercion
import OpenClaw.Runtime.JsonEdit
import OpenClaw.Server.V2Persistence
import OpenClaw.Server.V2Pinning

/-!
# What the two sides of a pairing read

The server tells the desktop what to put in a code, and once the code is claimed it tells
the desktop by whom.  The phone reads the code with `parsePairV2QrPayload`, the desktop the
claim with `read_json_string`, and both make six digits of four of the texts, each with its
own arithmetic.

All four texts are drawn by the server or written in base64: none has a blank, so trimming
them on either side changes nothing (`Plain`).
-/

namespace OpenClaw.Pairing

open OpenClaw.Runtime OpenClaw.Server

/-! ## Texts without blanks -/

/-- The character is one of ASCII that is seen. -/
def PlainChar (c : Char) : Prop := 0x20 < c.toNat ∧ c.toNat < 0x7F

instance {c : Char} : Decidable (PlainChar c) :=
  inferInstanceAs (Decidable (0x20 < c.toNat ∧ c.toNat < 0x7F))

/-- There is text, and none of it is blank. -/
structure Plain (text : String) : Prop where
  ne : text ≠ ""
  chars : ∀ c ∈ text.toList, PlainChar c

section Plain

variable {c : Char} {text : String}

theorem not_mem_commonBlanks (hplain : PlainChar c) : c.toNat ∉ commonBlanks := by
  obtain ⟨hlow, hhigh⟩ := hplain
  simp only [commonBlanks, List.mem_cons, List.not_mem_nil, or_false]
  omega

theorem unicodeBlank_of_plain (hplain : PlainChar c) : unicodeBlank c = false := by
  have hcommon := not_mem_commonBlanks hplain
  have hother : c.toNat ≠ 0x85 := by
    obtain ⟨-, hhigh⟩ := hplain
    omega
  simp [unicodeBlank, hcommon, hother]

theorem jsBlank_of_plain (hplain : PlainChar c) : jsBlank c = false := by
  have hcommon := not_mem_commonBlanks hplain
  have hother : c.toNat ≠ 0xFEFF := by
    obtain ⟨-, hhigh⟩ := hplain
    omega
  simp [jsBlank, hcommon, hother]

theorem Plain.unicodeTrim (hplain : Plain text) : unicodeTrim text = text :=
  trim_eq_self fun c hc => unicodeBlank_of_plain (hplain.chars c hc)

theorem Plain.jsTrim (hplain : Plain text) : jsTrim text = text :=
  trim_eq_self fun c hc => jsBlank_of_plain (hplain.chars c hc)

/-- What the server draws at random is written in hexadecimal or in base64. -/
def DrawsPlain (env : Env) : Prop :=
  ∀ kind text, env.random kind = some text → ∀ c ∈ text.toList, PlainChar c

theorem Plain.of_makeId {env : Env} (hdraws : DrawsPlain env) {kind : String}
    (hkind : kind.toList.all fun c => decide (PlainChar c)) (hmake : env.makeId kind = some text) :
    Plain text := by
  unfold Env.makeId at hmake
  obtain ⟨drawn, hdrawn, rfl⟩ := Option.map_eq_some_iff.mp hmake
  constructor
  · intro hempty
    have hlength := congrArg String.length hempty
    simp at hlength
  · intro c hc
    simp only [String.toList_append, List.mem_append] at hc
    obtain (hc | hc) | hc := hc
    · exact of_decide_eq_true (List.all_eq_true.mp hkind c hc)
    · rw [show "_".toList = ['_'] from rfl, List.mem_singleton] at hc
      rw [hc, PlainChar]
      decide
    · exact hdraws kind drawn hdrawn c hc

/-- A key as the server stores it. -/
def StoredKey (publicKey : String) : Prop :=
  ∃ bytes : List ℕ, bytes.length = 32 ∧ publicKey = Base64.rawUrl.encodeToString bytes

theorem plainChar_rawUrl (n : ℕ) : PlainChar (Base64.rawUrl.char n) := by
  have hall : ∀ n < 64, PlainChar (Base64.rawUrl.char n) := by
    unfold PlainChar
    decide
  by_cases hn : n < 64
  · exact hall n hn
  · -- beyond the sixty-four there is the last one again
    have hlast : Base64.rawUrl.char n = Base64.rawUrl.char 63 := by
      unfold Base64.char
      rw [if_neg (by omega), if_neg (by omega), if_neg (by omega), if_neg (by omega),
        if_neg (by omega), if_neg (by omega), if_neg (by omega), if_neg (by omega)]
    rw [hlast]
    exact hall 63 (by omega)

theorem StoredKey.plain (hkey : StoredKey text) : Plain text := by
  obtain ⟨bytes, hlength, rfl⟩ := hkey
  constructor
  · intro hempty
    rw [Base64.encodeToString, ← String.ofList_nil, String.ofList_inj] at hempty
    refine Base64.encodeGroups_ne_nil ?_ hempty
    intro hnil
    rw [hnil] at hlength
    cases hlength
  · intro c hc
    rw [Base64.encodeToString, String.toList_ofList] at hc
    obtain ⟨n, rfl⟩ := Base64.exists_char_of_mem rfl hc
    exact plainChar_rawUrl n

theorem StoredKey.of_normalized {value : String} {key : List ℕ}
    (hread : normalizeEd25519PublicKey value = .ok (text, key)) : StoredKey text := by
  unfold normalizeEd25519PublicKey at hread
  split at hread
  · cases hread
  · next bytes _ =>
      split at hread
      · cases hread
      · next hlength =>
          obtain ⟨rfl, rfl⟩ := Prod.mk.inj (Except.ok.inj hread)
          exact ⟨bytes, not_not.mp hlength, rfl⟩

end Plain

/-! ## Keys of the store -/

/-- The store names only keys that it has normalized. -/
def KeysStored (store : V2Store) : Prop := store.Within fun _ _ publicKey => StoredKey publicKey

section Keys

variable {store : V2Store}

theorem KeysStored.restart (hstored : KeysStored store) (persistedAt hydratedAt : ℤ)
    (iter : IterOrder) :
    KeysStored (hydrateV2FromRedis (persistV2 store persistedAt) hydratedAt iter) where
  desktops {deviceId desktop} hget := by
    unfold hydrateV2FromRedis persistV2 applySnapshot at hget
    dsimp only at hget
    exact hstored.desktops (OrderedMap.get_of_get_filter (OrderedMap.get_of_get_filter hget))
  mobiles {mobileId mobile} hget := by
    unfold hydrateV2FromRedis persistV2 applySnapshot at hget
    dsimp only at hget
    exact hstored.mobiles (OrderedMap.get_of_get_filter (OrderedMap.get_of_get_filter hget))
  sessions session hmem := by
    unfold hydrateV2FromRedis persistV2 applySnapshot keptAuthSessions at hmem
    dsimp only at hmem
    exact hstored.sessions session
      (OrderedMap.mem_values_of_mem_filter (OrderedMap.mem_values_of_mem_filter hmem))
  pairSessions session hmem := by
    unfold hydrateV2FromRedis persistV2 applySnapshot keptPairSessions at hmem
    dsimp only at hmem
    exact hstored.pairSessions session
      (OrderedMap.mem_values_of_mem_filter (OrderedMap.mem_values_of_mem_filter hmem))
  bindings binding hmem := hstored.bindings binding hmem

theorem KeysStored.perform (hstored : KeysStored store) (env : Env) (operation : V2Operation) :
    KeysStored (perform env store operation).1 := by
  have hwithin : store.Within fun _ _ publicKey => StoredKey publicKey := hstored
  -- the step itself is opened first: each case is then the lemma of its call
  unfold KeysStored Server.perform answer
  cases operation with
  | prune => exact hwithin.prune env.now
  | createChallenge req => exact within_createChallenge hwithin env req
  | login req =>
      refine within_login hwithin env fun payload hread _ => ?_
      unfold V2LoginRequest.read at hread
      simp only [bind_eq_ok_iff] at hread
      obtain ⟨_, -, _, -, _, -, ⟨normalizedKey, key⟩, hkey, _, -, hpayload⟩ := hread
      obtain rfl := Except.ok.inj hpayload
      exact .of_normalized hkey
  | authenticate token => exact (within_authenticate hwithin env.now token).1
  | announcePresence principal req =>
      exact within_announcePresence hwithin env.now principal req
  | heartbeatPresence principal req =>
      exact within_heartbeatPresence hwithin env.now principal req
  | createPairSession principal ttlSeconds =>
      exact within_createPairSession hwithin env principal ttlSeconds
  | deletePairSession principal pairSessionId =>
      exact within_deletePairSession hwithin env.now principal pairSessionId
  | claimPair principal req => exact within_claimPair hwithin env principal req
  | approveBinding principal bindingId =>
      exact within_approveBinding hwithin env.now principal bindingId

theorem keysStored_run (events : List V2StoreEvent) :
    KeysStored (Steps.run V2Store.step newV2Store events) := by
  have hstep : ∀ (store : V2Store) event, KeysStored store → KeysStored (store.step event) := by
    intro store event hstored
    cases event with
    | restart persistedAt hydratedAt iter => exact hstored.restart persistedAt hydratedAt iter
    | perform env operation => exact hstored.perform env operation
  exact Steps.run_preserves_of_step hstep events V2Store.within_newV2Store

end Keys

/-! ## The code of six digits -/

/-- `joinBytes` -/
def joinBytes (parts : List ByteArray) : ByteArray :=
  parts.foldl (fun merged part => merged ++ part) .empty

/-- `computePairV2SafetyCode`: the first three bytes are put together with shifts. -/
def computePairV2SafetyCode (sha256 : List UInt8 → List UInt8) (parts : Desktop.CodeInputs) :
    String :=
  let bytes := sha256 (joinBytes [parts.devicePublicKey.toUTF8, parts.mobilePublicKey.toUTF8,
    parts.pairSessionId.toUTF8, parts.sessionNonce.toUTF8]).toList
  let byte := fun index => (bytes.getD index 0).toNat
  let value := (byte 0 <<< 16 ||| byte 1 <<< 8 ||| byte 2) >>> 4
  let digits := toString (value % 1000000)
  String.ofList (List.replicate (6 - digits.length) '0') ++ digits

/-- Shifted bytes do not overlap, so to join their bits is to add them. -/
theorem shifted_bytes_eq {high middle low : ℕ} (hmiddle : middle < 2 ^ 8) (hlow : low < 2 ^ 8) :
    (high <<< 16 ||| middle <<< 8 ||| low) >>> 4 =
      (high * 2 ^ 16 + middle * 2 ^ 8 + low) / 2 ^ 4 := by
  have hlast : (high <<< 8 + middle) <<< 8 + low = (high <<< 8 + middle) <<< 8 ||| low :=
    Nat.shiftLeft_add_eq_or_of_lt hlow _
  have hfirst : high <<< 8 + middle = high <<< 8 ||| middle :=
    Nat.shiftLeft_add_eq_or_of_lt hmiddle _
  have hshift : (high <<< 8 ||| middle) <<< 8 = high <<< 16 ||| middle <<< 8 := by
    rw [Nat.shiftLeft_or_distrib, ← Nat.shiftLeft_add]
  have hsum : (high * 2 ^ 8 + middle) * 2 ^ 8 + low = high * 2 ^ 16 + middle * 2 ^ 8 + low := by
    ring
  rw [← hshift, ← hfirst, ← hlast, Nat.shiftRight_eq_div_pow, Nat.shiftLeft_eq, Nat.shiftLeft_eq,
    hsum]

/-- The phone and the desktop make the same digits of the same texts. -/
theorem computePairV2SafetyCode_eq (platform : Desktop.Platform) (parts : Desktop.CodeInputs) :
    computePairV2SafetyCode platform.sha256 parts = parts.code platform := by
  have hbytes : joinBytes [parts.devicePublicKey.toUTF8, parts.mobilePublicKey.toUTF8,
      parts.pairSessionId.toUTF8, parts.sessionNonce.toUTF8] =
        (parts.devicePublicKey ++ parts.mobilePublicKey ++ parts.pairSessionId ++
          parts.sessionNonce).toUTF8 := by
    simp [joinBytes, String.toByteArray_append]
  unfold computePairV2SafetyCode Desktop.CodeInputs.code Desktop.computeSafetyCode
  rw [hbytes]
  dsimp only
  rw [shifted_bytes_eq]
  · exact UInt8.toNat_lt _
  · exact UInt8.toNat_lt _

/-! ## The code that is scanned -/

/-- The object that the server tells the desktop to put in a code. -/
def qrPayload (serverBaseUrl : String) (session : V2PairSession) : Fields :=
  [("version", .str "openclaw-pair-v2"), ("serverBaseUrl", .str serverBaseUrl),
    ("pairSessionId", .str session.pairSessionId), ("claimToken", .str session.claimToken),
    ("deviceId", .str session.deviceId), ("devicePubkey", .str session.devicePublicKey),
    ("sessionNonce", .str session.sessionNonce),
    ("expiresAt", .num (.finite (session.expiresAt : ℚ)))]

/-- `sanitizePairQrPayload`, once an address is found that the phone can reach. -/
def sanitizePairQrPayload (resolvedBaseUrl : String) (payload : Fields) : Fields :=
  if resolvedBaseUrl = "" then payload
  else
    ["serverBaseUrl", "server_base_url", "baseUrl", "base_url"].foldl
      (fun payload key => Edit.atField key (Edit.set (.str resolvedBaseUrl)) payload)
      payload

/-- `String(payload[key] || payload[other] || "").trim()` -/
def readQrText (coercion : Coercion) (payload : Json) (key other : String) : String :=
  jsTrim (coercion.string
    (if truthy (payload.field key) then payload.field key else payload.field other))

def parsePairV2QrPayload (coercion : Coercion) (payload : Json) : Mobile.QrPayload where
  serverBaseUrl := readQrText coercion payload "serverBaseUrl" "server_base_url"
  pairSessionId := readQrText coercion payload "pairSessionId" "pair_session_id"
  claimToken := readQrText coercion payload "claimToken" "claim_token"
  devicePubkey := readQrText coercion payload "devicePubkey" "device_pubkey"
  sessionNonce := readQrText coercion payload "sessionNonce" "session_nonce"

/-- Another address does not change the other fields. -/
theorem field_sanitizePairQrPayload {resolvedBaseUrl key : String} {payload : Fields}
    (hkey : key ∉ ["serverBaseUrl", "server_base_url", "baseUrl", "base_url"]) :
    (Json.obj (sanitizePairQrPayload resolvedBaseUrl payload)).field key =
      (Json.obj payload).field key := by
  simp only [List.mem_cons, List.not_mem_nil, or_false, not_or] at hkey
  obtain ⟨hfirst, hsecond, hthird, hfourth⟩ := hkey
  unfold sanitizePairQrPayload
  split
  · rfl
  · simp only [List.foldl_cons, List.foldl_nil]
    rw [field_atField_of_ne hfourth, field_atField_of_ne hthird,
      field_atField_of_ne hsecond, field_atField_of_ne hfirst]

theorem readQrText_of_str {coercion : Coercion} {payload : Json} {key other text : String}
    (hfield : payload.field key = some (.str text)) (hplain : Plain text) :
    readQrText coercion payload key other = text := by
  unfold readQrText
  rw [hfield, if_pos, Coercion.string_str, hplain.jsTrim]
  simp [truthy, hplain.ne]

/-! ## The claim that is told -/

def TrustState.text : TrustState → String
  | .pending => "pending"
  | .active => "active"
  | .revoked => "revoked"

/-- What the event `pair.claimed` tells the desktop. -/
def claimedPayload (session : V2PairSession) (binding : V2Binding) : Json :=
  .obj [("pairSessionId", .str session.pairSessionId), ("bindingId", .str binding.bindingId),
    ("deviceId", .str binding.deviceId), ("devicePublicKey", .str binding.devicePublicKey),
    ("mobileId", .str binding.mobileId), ("mobileName", .str binding.mobileName),
    ("mobilePublicKey", .str binding.mobilePublicKey),
    ("trustState", .str (TrustState.text binding.trustState)),
    ("sessionNonce", .str session.sessionNonce)]

theorem readJsonString_of_str {payload : Json} {key text : String} {others : List String}
    (hfield : payload.field key = some (.str text)) (hplain : Plain text) :
    Desktop.readJsonString payload (key :: others) = text := by
  unfold Desktop.readJsonString
  rw [List.findSome?_cons, hfield]
  have hne : unicodeTrim text ≠ "" := by
    rw [hplain.unicodeTrim]
    exact hplain.ne
  simp only [Option.bind_some, Desktop.asStr]
  rw [if_neg hne, hplain.unicodeTrim]
  rfl

/-- The desktop reads the texts of the code as the server has them. -/
theorem inputs_readClaimed {session : V2PairSession} {binding : V2Binding}
    (hid : Plain session.pairSessionId) (hnonce : Plain session.sessionNonce)
    (hdevice : Plain binding.devicePublicKey) (hmobile : Plain binding.mobilePublicKey) :
    (Desktop.readClaimed (claimedPayload session binding)).inputs =
      some ⟨binding.devicePublicKey, binding.mobilePublicKey, session.pairSessionId,
        session.sessionNonce⟩ := by
  have hread : ∀ key other text, (claimedPayload session binding).field key = some (.str text) →
      Plain text → Desktop.readJsonString (claimedPayload session binding) [key, other] = text :=
    fun _ _ _ hfield => readJsonString_of_str hfield
  have hreadDevice := hread "devicePublicKey" "device_public_key" _ rfl hdevice
  have hreadMobile := hread "mobilePublicKey" "mobile_public_key" _ rfl hmobile
  have hreadId := hread "pairSessionId" "pair_session_id" _ rfl hid
  have hreadNonce := hread "sessionNonce" "session_nonce" _ rfl hnonce
  unfold Desktop.readClaimed Desktop.Claimed.inputs
  simp only [hreadDevice, hreadMobile, hreadId, hreadNonce]
  rw [if_pos ⟨hdevice.ne, hmobile.ne, hid.ne, hnonce.ne⟩]

end OpenClaw.Pairing
