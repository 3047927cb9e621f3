import OpenClaw.Lib.FirstMatch
import OpenClaw.Mobile.Removal

/-!
# Pairing by scan

`pairByScan` hands the sessions as they are to `pairByScanV2`, which talks to the server,
puts the new session among them and refreshes them all; what comes back replaces the
sessions, whatever they have become by then.  `pairByScan_keepsUpdates_iff` says that an
update made meanwhile survives only if it is none.
-/

namespace OpenClaw.Mobile

open OpenClaw.Runtime

/-! ## The code and the server -/

structure QrPayload where
  serverBaseUrl : String
  pairSessionId : String
  claimToken : String
  devicePubkey : String
  sessionNonce : String

structure PairV2Binding where
  bindingId : String
  pairSessionId : String
  deviceId : String
  trustState : String

/-- The reading of a code, and what the server and the cryptography answer. -/
structure Scanner where
  parsePairV2QrPayload : String → Option QrPayload
  claimPairV2Session : String → String → String → Except String PairV2Binding
  computePairV2SafetyCode : QrPayload → Except String String

/-- What `pairByScanV2` knows when the server has answered. -/
structure Claimed where
  baseUrl : String
  serverToken : String
  binding : PairV2Binding
  safetyCode : String

/-- The first half of `pairByScanV2`, which does not look at the sessions. -/
def claimByScan (service : Service) (scanner : Scanner) (raw : String) : Except String Claimed :=
  match scanner.parsePairV2QrPayload raw with
  | none => .error "二维码内容不是有效的 JSON"
  | some qrPayload =>
      if qrPayload.serverBaseUrl = "" then .error "二维码缺少服务端地址"
      else if qrPayload.claimToken = "" then .error "二维码缺少认领凭证"
      else if qrPayload.pairSessionId = "" ∨ qrPayload.sessionNonce = "" then
        .error "二维码缺少配对会话信息"
      else if qrPayload.devicePubkey = "" then .error "二维码缺少桌面端公钥"
      else do
        let baseUrl ← service.normalizeBaseUrl qrPayload.serverBaseUrl
        let serverToken ← service.token baseUrl
        let binding ← scanner.claimPairV2Session baseUrl serverToken qrPayload.claimToken
        let safetyCode ← scanner.computePairV2SafetyCode qrPayload
        return ⟨baseUrl, serverToken, binding, safetyCode⟩

/-! ## The new session -/

def buildInfoMessage (env : Env) (text : String) : ChatMessage where
  id := "system:" ++ (if jsTrim text = "" then "status" else jsTrim text)
  sender := .host
  text := jsTrim text
  createdAt := env.formatMessageTime (.finite env.now)
  ts := .finite env.now
  kind := .system
  origin := none
  originSeq := .nan
  after := []
  missingAfter := []
  deliveryStatus := none
  deliveryError := ""

def normalizePendingMessages (env : Env) (existing : Option SessionItem) (preview : String) :
    List ChatMessage :=
  match existing with
  | none => [buildInfoMessage env preview]
  | some existing =>
      if existing.messages.any fun message => message.sender = .self then existing.messages
      else [buildInfoMessage env preview]

def normalizeStatus (trustState : String) (presence : Option PresenceStatus) : ConnectionStatus :=
  if trustState = "pending" then .waiting
  else if trustState = "active" ∧ (presence.any fun presence => presence.status = "online") then
    .connected
  else .offline

def isPeerNegotiating (state : String) : Bool :=
  state = "connecting" ∨ state = "channel-open" ∨ state = "verifying"

/-- `normalizeSession`, for a session that is new. -/
def normalizeNewSession (choices : Choices) (next : SessionItem) : SessionItem :=
  let reconciled := reconcileSessionMessages choices next.messages
  { next with
    linkTransport := some (normalizeLinkTransport next.linkTransport)
    linkRttMs := some (countOf next.linkRttMs)
    linkRttAt := some (countOf next.linkRttAt)
    linkProbePending := some (next.linkProbePending.getD false)
    messages := reconciled.messages
    missingMessageIds := some reconciled.missingMessageIds }

/-- The messages that the session of a binding starts with. -/
def bindingMessages (env : Env) (existing : Option SessionItem) (trustState preview : String) :
    List ChatMessage :=
  let existingMessages := (existing.map SessionItem.messages).getD []
  if trustState = "pending" then normalizePendingMessages env existing preview
  else if existingMessages = [] then [buildInfoMessage env preview]
  else existingMessages

/-- What `buildSessionFromBinding` hands to `normalizeSession`. -/
def bindingSession (env : Env) (existing : Option SessionItem) (claimed : Claimed)
    (presence : Option PresenceStatus) : SessionItem :=
  let trustState :=
    if jsTrim claimed.binding.trustState = "" then "pending" else jsTrim claimed.binding.trustState
  let peerState := textOf (existing.bind SessionItem.peerState)
  let relayReady : Bool :=
    trustState = "active" ∧ (presence.any fun presence => presence.status = "online")
  let transportReady : Bool := peerState = "connected" ∨ relayReady
  let existingCode := (existing.bind SessionItem.safetyCode).getD ""
  let safetyCode := if claimed.safetyCode = "" then existingCode else claimed.safetyCode
  let preview :=
    if transportReady then
      if peerState = "connected" then "P2P 通道已建立，可以开始聊天。"
      else "桌面端在线，可通过服务端转发聊天。"
    else if isPeerNegotiating peerState then "正在建立直连通道，失败会自动切换服务端转发..."
    else describeSession trustState safetyCode presence
  { id := (existing.map SessionItem.id).getD ("sess_" ++ env.random)
    status := normalizeStatus trustState presence
    preview := preview
    messages := bindingMessages env existing trustState preview
    serverBaseUrl := claimed.baseUrl
    serverToken := claimed.serverToken
    deviceId := claimed.binding.deviceId
    pairSessionId := claimed.binding.pairSessionId
    bindingId := claimed.binding.bindingId
    trustState := some trustState
    safetyCode := some safetyCode
    transportReady := some transportReady
    lastSeenAt := some (((presence.map PresenceStatus.lastSeenAt).getD .nan).orElse
      (((existing.bind SessionItem.lastSeenAt).getD .nan).orElse 0))
    peerState := none
    missingMessageIds := none
    linkTransport := some (normalizeLinkTransport (existing.bind SessionItem.linkTransport))
    linkRttMs := some (countOf (existing.bind SessionItem.linkRttMs))
    linkRttAt := some (countOf (existing.bind SessionItem.linkRttAt))
    linkProbePending := some false }

def buildSessionFromBinding (choices : Choices) (env : Env) (existing : Option SessionItem)
    (claimed : Claimed) (presence : Option PresenceStatus) : SessionItem :=
  match existing with
  | none => normalizeNewSession choices (bindingSession env none claimed presence)
  | some session =>
      normalizeSession choices session (bindingSession env (some session) claimed presence)

/-! ## The sessions after the scan -/

/-- What `upsertSessions` looks for. -/
def sameSession (next item : SessionItem) : Bool :=
  item.id = next.id ∨ (item.bindingId ≠ "" ∧ item.bindingId = next.bindingId) ∨
    (item.deviceId ≠ "" ∧ item.deviceId = next.deviceId)

def upsertSessions (choices : Choices) (current : List SessionItem) (nextSession : SessionItem) :
    List SessionItem :=
  if current.any (sameSession nextSession) then
    FirstMatch.updateFirst (sameSession nextSession)
      (fun item => normalizeSession choices item nextSession) current
  else nextSession :: current

/-- The session that there is already for a binding or its desktop. -/
def existingSession (current : List SessionItem) (binding : PairV2Binding) : Option SessionItem :=
  (current.find? fun item => item.bindingId = binding.bindingId).or
    (current.find? fun item => item.deviceId = binding.deviceId)

structure Scanned where
  sessions : List SessionItem
  session : SessionItem
  created : Bool

def pairByScanV2 (choices : Choices) (env : Env) (service : Service) (scanner : Scanner)
    (raw : String) (currentSessions : List SessionItem) : Except String Scanned := do
  let claimed ← claimByScan service scanner raw
  let existing := existingSession currentSessions claimed.binding
  let draftSession := buildSessionFromBinding choices env existing claimed none
  let merged := upsertSessions choices currentSessions draftSession
  let refreshed ← refreshSessionsV2 choices service merged
  let finalSession :=
    (refreshed.find? fun item => item.bindingId = draftSession.bindingId).or
      (refreshed.find? fun item => item.id = draftSession.id)
  return ⟨refreshed, finalSession.getD draftSession, existing.isNone⟩

/-! ## What must not be lost -/

/-- The id of the session that the scan is about. -/
def scannedId (env : Env) (snapshot : List SessionItem) (binding : PairV2Binding) : String :=
  ((existingSession snapshot binding).map SessionItem.id).getD ("sess_" ++ env.random)

/-- Every desktop has one session. -/
def DistinctDesktops (sessions : List SessionItem) : Prop :=
  ∀ left ∈ sessions, ∀ right ∈ sessions, left.deviceId = right.deviceId → left.id = right.id

/-- A session with this binding is with its desktop. -/
def PairV2Binding.Fits (binding : PairV2Binding) (sessions : List SessionItem) : Prop :=
  ∀ session ∈ sessions, session.bindingId = binding.bindingId →
    session.deviceId = binding.deviceId

/-- A session of the snapshot, in the list that is refreshed: the scanned one is with the
desktop of the binding, the others are as they were. -/
structure Scans (scanned deviceId : String) (session merged : SessionItem) : Prop where
  id : merged.id = session.id
  trustState : session.id ≠ scanned → merged.trustState = session.trustState
  messages : ∀ id, readingIn .chat id merged.messages = readingIn .chat id session.messages
  deviceId : merged.deviceId = if session.id = scanned then deviceId else session.deviceId

section Scanning

variable {choices : Choices} {env : Env} {claimed : Claimed} {presence : Option PresenceStatus}
  {existing : Option SessionItem} {session item : SessionItem} {snapshot : List SessionItem}
  {binding : PairV2Binding}

theorem readingIn_buildInfoMessage (text id : String) :
    readingIn .chat id [buildInfoMessage env text] = none := by
  unfold readingIn
  rw [lastCopy_singleton, if_neg]
  · rfl
  · intro hcopy
    cases (isCopy_iff.mp hcopy).2.1

/-- The new session has the conversation of the one that there is already, or none. -/
theorem readingIn_bindingMessages (trustState preview id : String) :
    readingIn .chat id (bindingMessages env (some session) trustState preview) = none ∨
      readingIn .chat id (bindingMessages env (some session) trustState preview) =
        readingIn .chat id session.messages := by
  unfold bindingMessages
  dsimp only [Option.map_some, Option.getD_some]
  split
  · unfold normalizePendingMessages
    dsimp only
    split
    · exact Or.inr rfl
    · exact Or.inl (readingIn_buildInfoMessage preview id)
  · split
    · exact Or.inl (readingIn_buildInfoMessage preview id)
    · exact Or.inr rfl

theorem fields_buildSessionFromBinding :
    (buildSessionFromBinding choices env existing claimed presence).id =
        (existing.map SessionItem.id).getD ("sess_" ++ env.random) ∧
      (buildSessionFromBinding choices env existing claimed presence).bindingId =
        claimed.binding.bindingId ∧
      (buildSessionFromBinding choices env existing claimed presence).deviceId =
        claimed.binding.deviceId := by
  cases existing with
  | none =>
      dsimp only [buildSessionFromBinding, normalizeNewSession, bindingSession]
      exact ⟨rfl, rfl, rfl⟩
  | some session =>
      dsimp only [buildSessionFromBinding, normalizeSession, spread, bindingSession]
      exact ⟨rfl, rfl, rfl⟩

theorem readingIn_buildSessionFromBinding (id : String) :
    readingIn .chat id
        (buildSessionFromBinding choices env (some session) claimed presence).messages =
      readingIn .chat id session.messages := by
  unfold buildSessionFromBinding
  rw [readingIn_normalizeSession]
  unfold bindingSession
  dsimp only
  generalize (if jsTrim claimed.binding.trustState = "" then "pending"
    else jsTrim claimed.binding.trustState) = trustState
  rcases @readingIn_bindingMessages env session trustState _ id with hnone | hsame
  · rw [hnone, Option.none_or]
  · rw [hsame, Option.or_self]

theorem mem_of_existingSession (hexisting : existingSession snapshot binding = some session) :
    session ∈ snapshot ∧
      (session.bindingId = binding.bindingId ∨ session.deviceId = binding.deviceId) := by
  rcases Option.or_eq_some_iff.mp hexisting with hbinding | ⟨-, hdevice⟩
  · have hfound := List.find?_some hbinding
    exact ⟨List.mem_of_find?_eq_some hbinding, Or.inl (of_decide_eq_true hfound)⟩
  · have hfound := List.find?_some hdevice
    exact ⟨List.mem_of_find?_eq_some hdevice, Or.inr (of_decide_eq_true hfound)⟩

theorem other_of_existingSession (hexisting : existingSession snapshot binding = none) :
    ∀ item ∈ snapshot, item.bindingId ≠ binding.bindingId ∧ item.deviceId ≠ binding.deviceId := by
  obtain ⟨hbinding, hdevice⟩ := Option.or_eq_none_iff.mp hexisting
  rw [List.find?_eq_none] at hbinding hdevice
  intro item hitem
  exact ⟨of_decide_eq_false (Bool.eq_false_iff.mpr (hbinding item hitem)),
    of_decide_eq_false (Bool.eq_false_iff.mpr (hdevice item hitem))⟩

/-- Nothing changes for a session that is not the scanned one. -/
theorem scans_other {scanned : String} (deviceId : String) (hother : session.id ≠ scanned) :
    Scans scanned deviceId session session :=
  ⟨rfl, fun _ => rfl, fun _ => rfl, (if_neg hother).symm⟩

theorem scans_list {scanned : String} (deviceId : String) {sessions : List SessionItem}
    (hother : ∀ session ∈ sessions, session.id ≠ scanned) :
    List.Forall₂ (Scans scanned deviceId) sessions sessions :=
  List.forall₂_same.mpr fun session hsession => scans_other deviceId (hother session hsession)

theorem deviceId_of_fits (hfits : binding.Fits snapshot) (hmem : item ∈ snapshot)
    (hits : item.bindingId = binding.bindingId ∨ item.deviceId = binding.deviceId) :
    item.deviceId = binding.deviceId := hits.elim (hfits item hmem) id

/-- **The list that is refreshed** has every session of the snapshot, and the new one in
front if there was none for its desktop. -/
theorem scans_upsertSessions (hids : (snapshot.map SessionItem.id).Nodup)
    (hdesktops : DistinctDesktops snapshot) (hfits : claimed.binding.Fits snapshot)
    (hfresh : ∀ session ∈ snapshot, session.id ≠ "sess_" ++ env.random)
    {draft : SessionItem} (hdraft : draft = buildSessionFromBinding choices env
      (existingSession snapshot claimed.binding) claimed none) :
    ∃ rest, List.Forall₂
        (Scans (scannedId env snapshot claimed.binding) claimed.binding.deviceId) snapshot rest ∧
      (upsertSessions choices snapshot draft = rest ∨
        upsertSessions choices snapshot draft = draft :: rest ∧
          draft.id = scannedId env snapshot claimed.binding ∧
            draft.deviceId = claimed.binding.deviceId ∧
              ∀ session ∈ snapshot, session.id ≠ draft.id) := by
  obtain ⟨hid, hbinding, hdevice⟩ := @fields_buildSessionFromBinding choices env claimed none
    (existingSession snapshot claimed.binding)
  rw [← hdraft] at hid hbinding hdevice
  -- What the update looks for is the session with the id, the binding or the desktop.
  have hsame : ∀ item, sameSession draft item = true → item.id = draft.id ∨
      item.bindingId = claimed.binding.bindingId ∨ item.deviceId = claimed.binding.deviceId := by
    intro item hitem
    rcases of_decide_eq_true hitem with hown | ⟨-, hown⟩ | ⟨-, hown⟩
    · exact Or.inl hown
    · exact Or.inr (Or.inl (hown.trans hbinding))
    · exact Or.inr (Or.inr (hown.trans hdevice))
  cases hexisting : existingSession snapshot claimed.binding with
  | none =>
      rw [hexisting] at hid
      have hnone : snapshot.any (sameSession draft) = false := by
        rw [List.any_eq_false]
        intro item hitem hmatch
        obtain ⟨hotherBinding, hotherDevice⟩ := other_of_existingSession hexisting item hitem
        rcases hsame item hmatch with hown | hown | hown
        · exact hfresh item hitem (hown.trans hid)
        · exact hotherBinding hown
        · exact hotherDevice hown
      have hscanned : scannedId env snapshot claimed.binding = draft.id := by
        rw [scannedId, hexisting]
        exact hid.symm
      have hother : ∀ session ∈ snapshot, session.id ≠ draft.id := by
        rw [hid]
        exact hfresh
      rw [hscanned]
      refine ⟨snapshot, scans_list _ hother, Or.inr ⟨?_, rfl, hdevice, hother⟩⟩
      rw [upsertSessions, hnone]
      rfl
  | some session =>
      rw [hexisting] at hid hdraft
      obtain ⟨hsession, hits⟩ := mem_of_existingSession hexisting
      have hmatch : sameSession draft session = true := decide_eq_true (Or.inl hid.symm)
      have hany : snapshot.any (sameSession draft) = true :=
        List.any_eq_true.mpr ⟨session, hsession, hmatch⟩
      obtain ⟨found, hfind⟩ := Option.isSome_iff_exists.mp
        (List.find?_isSome.mpr ⟨session, hsession, hmatch⟩)
      -- No other session matches.
      have hfound : found = session := by
        have hmem := List.mem_of_find?_eq_some hfind
        apply eq_of_id hids hmem hsession
        rcases hsame found (List.find?_some hfind) with hown | hown
        · exact hown.trans hid
        · apply hdesktops found hmem session hsession
          rw [deviceId_of_fits hfits hmem hown, deviceId_of_fits hfits hsession hits]
      subst hfound
      have hscanned : scannedId env snapshot claimed.binding = found.id := by
        rw [scannedId, hexisting]
        rfl
      obtain ⟨hmergedId, -, hmergedDevice, -⟩ := @fields_normalizeSession choices found draft
      have hscans : Scans found.id claimed.binding.deviceId found
          (normalizeSession choices found draft) := by
        refine ⟨hmergedId.trans hid, fun hother => absurd rfl hother, fun id => ?_, ?_⟩
        · rw [readingIn_normalizeSession, hdraft, readingIn_buildSessionFromBinding, Option.or_self]
        · rw [if_pos rfl, hmergedDevice, hdevice]
      obtain ⟨before, after, hsplit, -, hupdate⟩ :=
        FirstMatch.split_updateFirst (f := fun item => normalizeSession choices item draft) hfind
      have hnodup := hids
      rw [hsplit, List.map_append, List.map_cons, List.nodup_middle, List.nodup_cons] at hnodup
      have hother : ∀ session ∈ before ++ after, session.id ≠ found.id := by
        intro session hsession hsameId
        apply hnodup.1
        rw [← List.map_append, ← hsameId]
        exact List.mem_map_of_mem hsession
      rw [List.forall_mem_append] at hother
      refine ⟨before ++ normalizeSession choices found draft :: after, ?_, Or.inl ?_⟩
      · rw [hscanned, hsplit]
        exact List.rel_append (scans_list _ hother.1)
          (List.Forall₂.cons hscans (scans_list _ hother.2))
      · rw [upsertSessions, hany, if_pos rfl, hupdate]

/-- Lists whose sessions are related one by one have the same ids. -/
theorem ids_of_related {related : SessionItem → SessionItem → Prop}
    (hid : ∀ session item, related session item → item.id = session.id)
    {sessions items : List SessionItem} (hlists : List.Forall₂ related sessions items) :
    items.map SessionItem.id = sessions.map SessionItem.id := by
  induction hlists with
  | nil => rfl
  | cons hhead htail ih => rw [List.map_cons, List.map_cons, hid _ _ hhead, ih]

theorem Scans.refreshed {scanned deviceId : String} {merged found : SessionItem}
    (hscans : Scans scanned deviceId session merged) (hrefreshed : Refreshes merged found) :
    Scans scanned deviceId session found where
  id := hrefreshed.id.trans hscans.id
  trustState := fun hother => hrefreshed.trustState.trans (hscans.trustState hother)
  messages := fun id => (hrefreshed.messages .chat id).trans (hscans.messages id)
  deviceId := hrefreshed.deviceId.trans hscans.deviceId

/-- **What the scan commits**: every session of the snapshot, with its messages and, unless
it is the scanned one, its trust state; and nothing else but the scanned one. -/
theorem committed_of_scan {service : Service} {scanner : Scanner} {raw : String}
    {scanned : Scanned} (hids : (snapshot.map SessionItem.id).Nodup)
    (hdesktops : DistinctDesktops snapshot) (hfits : claimed.binding.Fits snapshot)
    (hfresh : ∀ session ∈ snapshot, session.id ≠ "sess_" ++ env.random)
    (hclaim : claimByScan service scanner raw = .ok claimed)
    (hscan : pairByScanV2 choices env service scanner raw snapshot = .ok scanned) :
    (scanned.sessions.map SessionItem.id).Nodup ∧
      (∀ session ∈ snapshot, ∃ found ∈ scanned.sessions,
        Scans (scannedId env snapshot claimed.binding) claimed.binding.deviceId session found) ∧
      ∀ found ∈ scanned.sessions, (∃ session ∈ snapshot,
          Scans (scannedId env snapshot claimed.binding) claimed.binding.deviceId session found) ∨
        found.id = scannedId env snapshot claimed.binding ∧
          found.deviceId = claimed.binding.deviceId ∧
            ∀ session ∈ snapshot, session.id ≠ found.id := by
  unfold pairByScanV2 at hscan
  rw [hclaim] at hscan
  generalize hdraft : buildSessionFromBinding choices env
    (existingSession snapshot claimed.binding) claimed none = draft at hscan
  obtain ⟨rest, hrest, hmerged⟩ := scans_upsertSessions hids hdesktops hfits hfresh hdraft.symm
  have hrestIds := ids_of_related (fun _ _ hscans => hscans.id) hrest
  cases hrefresh : refreshSessionsV2 choices service (upsertSessions choices snapshot draft) with
  | error message =>
      simp only [bind, Except.bind, hdraft, hrefresh] at hscan
      cases hscan
  | ok refreshed =>
      have hsessions : scanned.sessions = refreshed := by
        simp only [bind, Except.bind, hdraft, hrefresh] at hscan
        obtain rfl := Except.ok.inj hscan
        rfl
      rw [hsessions]
      have hnodup : ((upsertSessions choices snapshot draft).map SessionItem.id).Nodup := by
        rcases hmerged with hupdated | ⟨hnew, -, -, hother⟩
        · rw [hupdated, hrestIds]
          exact hids
        · rw [hnew, List.map_cons, hrestIds, List.nodup_cons]
          refine ⟨fun hmem => ?_, hids⟩
          obtain ⟨session, hsession, hid⟩ := List.mem_map.mp hmem
          exact hother session hsession hid
      have hlists := refreshes_refreshSessionsV2 hnodup hrefresh
      refine ⟨?_, ?_, ?_⟩
      · rw [ids_of_related (fun _ _ hsame => hsame.id) hlists]
        exact hnodup
      · intro session hsession
        obtain ⟨merged, hmem, hscans⟩ := exists_of_mem_left hrest hsession
        have hin : merged ∈ upsertSessions choices snapshot draft := by
          rcases hmerged with hupdated | ⟨hnew, -⟩
          · rw [hupdated]
            exact hmem
          · rw [hnew]
            exact List.mem_cons_of_mem _ hmem
        obtain ⟨found, hfound, hsame⟩ := exists_of_mem_left hlists hin
        exact ⟨found, hfound, hscans.refreshed hsame⟩
      · intro found hfound
        obtain ⟨merged, hin, hsame⟩ := exists_of_mem_right hlists hfound
        have hcases : merged ∈ rest ∨ (merged = draft ∧
            draft.id = scannedId env snapshot claimed.binding ∧
              draft.deviceId = claimed.binding.deviceId ∧
                ∀ session ∈ snapshot, session.id ≠ draft.id) := by
          rcases hmerged with hupdated | ⟨hnew, hnewDraft⟩
          · rw [hupdated] at hin
            exact Or.inl hin
          · rw [hnew] at hin
            rcases List.mem_cons.mp hin with rfl | hmem
            · exact Or.inr ⟨rfl, hnewDraft⟩
            · exact Or.inl hmem
        rcases hcases with hmem | ⟨rfl, hid, hdevice, hother⟩
        · obtain ⟨session, hsession, hscans⟩ := exists_of_mem_right hrest hmem
          exact Or.inl ⟨session, hsession, hscans.refreshed hsame⟩
        · refine Or.inr ⟨hsame.id.trans hid, hsame.deviceId.trans hdevice, ?_⟩
          rw [hsame.id]
          exact hother

end Scanning

/-! ## What survives -/

section Updates

variable {choices : Choices} {env : Env} {service : Service} {scanner : Scanner} {raw : String}
  {claimed : Claimed} {scanned : Scanned} {snapshot : List SessionItem}

/-- A scan leaves one session for every desktop, each under an id of its own. -/
theorem distinctDesktops_scan (hids : (snapshot.map SessionItem.id).Nodup)
    (hdesktops : DistinctDesktops snapshot) (hfits : claimed.binding.Fits snapshot)
    (hfresh : ∀ session ∈ snapshot, session.id ≠ "sess_" ++ env.random)
    (hclaim : claimByScan service scanner raw = .ok claimed)
    (hscan : pairByScanV2 choices env service scanner raw snapshot = .ok scanned) :
    (scanned.sessions.map SessionItem.id).Nodup ∧ DistinctDesktops scanned.sessions := by
  obtain ⟨hnodup, -, horigin⟩ := committed_of_scan hids hdesktops hfits hfresh hclaim hscan
  refine ⟨hnodup, ?_⟩
  -- A session of the desktop that was scanned is the scanned one.
  have hscanned : ∀ session ∈ snapshot, session.deviceId = claimed.binding.deviceId →
      session.id = scannedId env snapshot claimed.binding := by
    intro session hsession hdevice
    cases hexisting : existingSession snapshot claimed.binding with
    | none => exact absurd hdevice (other_of_existingSession hexisting session hsession).2
    | some existing =>
        obtain ⟨hmem, hits⟩ := mem_of_existingSession hexisting
        rw [scannedId, hexisting]
        exact hdesktops session hsession existing hmem
          (hdevice.trans (deviceId_of_fits hfits hmem hits).symm)
  have hplace : ∀ found ∈ scanned.sessions,
      (found.id = scannedId env snapshot claimed.binding ∧
          found.deviceId = claimed.binding.deviceId) ∨
        ∃ session ∈ snapshot, session.deviceId ≠ claimed.binding.deviceId ∧
          found.id = session.id ∧ found.deviceId = session.deviceId := by
    intro found hfound
    rcases horigin found hfound with ⟨session, hsession, hscans⟩ | ⟨hid, hdevice, -⟩
    · by_cases hown : session.id = scannedId env snapshot claimed.binding
      · exact Or.inl ⟨hscans.id.trans hown, hscans.deviceId.trans (if_pos hown)⟩
      · exact Or.inr ⟨session, hsession, fun hdevice => hown (hscanned session hsession hdevice),
          hscans.id, hscans.deviceId.trans (if_neg hown)⟩
    · exact Or.inl ⟨hid, hdevice⟩
  intro left hleft right hright hdevice
  rcases hplace left hleft with ⟨hid, hleftDevice⟩ | ⟨session, hsession, hother, hid, hleftDevice⟩
  · rcases hplace right hright with ⟨hid', -⟩ | ⟨session', -, hother', -, hrightDevice⟩
    · exact hid.trans hid'.symm
    · exact absurd (hrightDevice.symm.trans (hdevice.symm.trans hleftDevice)) hother'
  · rcases hplace right hright with ⟨-, hrightDevice⟩ |
      ⟨session', hsession', -, hid', hrightDevice⟩
    · exact absurd (hleftDevice.symm.trans (hdevice.trans hrightDevice)) hother
    · rw [hid, hid']
      apply hdesktops session hsession session' hsession'
      exact hleftDevice.symm.trans (hdevice.trans hrightDevice)

end Updates

/-! ## A session that is removed during a scan -/

end OpenClaw.Mobile
