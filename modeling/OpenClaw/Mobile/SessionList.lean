import OpenClaw.Mobile.Refresh

/-!
# The sessions of the phone

`SessionsContext` keeps the sessions in a list.  Messages, revocations and removals change
the list as it is; `refreshSessionsV2` asks the servers about a list that was read before
and answers with a list of its own, in which every session is still the one that was asked
about (`Refreshes`); `mergeRefreshedSessions` puts the two together.
-/

namespace OpenClaw.Mobile

open OpenClaw.Runtime

/-! ## Sessions -/

inductive ConnectionStatus
  | connected
  | waiting
  | offline
deriving DecidableEq

/-- `unknown` is the empty text. -/
inductive LinkTransport
  | p2p
  | relay
  | unknown
deriving DecidableEq

/-- A field is an option where the source may leave it out. -/
structure SessionItem where
  id : String
  status : ConnectionStatus
  preview : String
  messages : List ChatMessage
  serverBaseUrl : String
  serverToken : String
  deviceId : String
  pairSessionId : String
  bindingId : String
  trustState : Option String
  safetyCode : Option String
  transportReady : Option Bool
  lastSeenAt : Option JsNumber
  peerState : Option String
  missingMessageIds : Option (List String)
  linkTransport : Option LinkTransport
  linkRttMs : Option JsNumber
  linkRttAt : Option JsNumber
  linkProbePending : Option Bool
deriving DecidableEq

/-- `{...existing, ...next}`: a field that `next` leaves out is the existing one. -/
def spread (existing next : SessionItem) : SessionItem :=
  { next with
    trustState := next.trustState.or existing.trustState
    safetyCode := next.safetyCode.or existing.safetyCode
    transportReady := next.transportReady.or existing.transportReady
    lastSeenAt := next.lastSeenAt.or existing.lastSeenAt
    peerState := next.peerState.or existing.peerState
    missingMessageIds := next.missingMessageIds.or existing.missingMessageIds
    linkTransport := next.linkTransport.or existing.linkTransport
    linkRttMs := next.linkRttMs.or existing.linkRttMs
    linkRttAt := next.linkRttAt.or existing.linkRttAt
    linkProbePending := next.linkProbePending.or existing.linkProbePending }

/-- The text of an optional field, trimmed. -/
def textOf (field : Option String) : String := jsTrim (field.getD "")

def normalizeLinkTransport (value : Option LinkTransport) : LinkTransport := value.getD .unknown

/-- `Math.max(0, Math.trunc(Number(value || 0)))`. -/
def countOf (value : Option JsNumber) : JsNumber := .ofCount (value.getD .nan).count

/-- `normalizeSession`, for a session that there is already. -/
def normalizeSession (choices : Choices) (existing next : SessionItem) : SessionItem :=
  let reconciled := reconcileSessionMessages choices (existing.messages ++ next.messages)
  { spread existing next with
    messages := reconciled.messages
    missingMessageIds := some reconciled.missingMessageIds }

/-! ## Asking the servers -/

structure PresenceStatus where
  deviceId : String
  status : String
  lastSeenAt : JsNumber

/-- The servers of the phone, and how the address of one is normalized; an error has the
message of the exception. -/
structure Service where
  normalizeBaseUrl : String → Except String String
  token : String → Except String String
  presence : String → String → List String → Except String (List PresenceStatus)

def describeSession (trustState safetyCode : String) (presence : Option PresenceStatus) : String :=
  if trustState = "pending" then
    if safetyCode = "" then "等待桌面端确认安全码" else "请在桌面端确认安全码 " ++ safetyCode
  else if trustState = "revoked" then "绑定已撤销"
  else if (presence.any fun presence => presence.status = "online") then
    "宿主机在线，正在准备 P2P 通道"
  else "已配对，宿主机当前离线"

/-- The trust state of a session, pending if there is none. -/
def localTrustState (session : SessionItem) : String :=
  if textOf session.trustState = "" then "pending" else textOf session.trustState

/-- What a session becomes when its server has answered. -/
def refreshedSession (baseUrl serverToken : String) (answer : Option PresenceStatus)
    (session : SessionItem) : SessionItem :=
  let trustState := localTrustState session
  let presence := if trustState = "active" then answer else none
  let relayReady : Bool := presence.any fun presence => presence.status = "online"
  let status : ConnectionStatus :=
    if trustState = "pending" then .waiting
    else if trustState = "revoked" then .offline
    else if relayReady then .connected
    else .offline
  let connected : Bool := textOf session.peerState = "connected"
  { session with
    serverBaseUrl := baseUrl
    serverToken := serverToken
    status := status
    preview :=
      if trustState = "pending" then
        describeSession trustState (session.safetyCode.getD "") presence
      else if trustState = "revoked" then "绑定已撤销"
      else if connected then "P2P 通道已建立，可以开始聊天。"
      else if relayReady then "桌面端在线，可通过服务端转发聊天。"
      else "已配对，宿主机当前离线"
    transportReady := some (connected || relayReady)
    lastSeenAt := some (((presence.map PresenceStatus.lastSeenAt).getD .nan).orElse
      ((session.lastSeenAt.getD .nan).orElse 0))
    linkTransport :=
      some (if status = .offline then .unknown else normalizeLinkTransport session.linkTransport)
    linkRttMs := some (if status = .offline then 0 else countOf session.linkRttMs)
    linkRttAt := some (if status = .offline then 0 else countOf session.linkRttAt)
    linkProbePending :=
      some (if status = .offline then false else session.linkProbePending.getD false) }

/-- What a session becomes when its server could not be asked. -/
def failedSession (message : String) (session : SessionItem) : SessionItem :=
  { session with
    status := .offline
    preview := "同步失败：" ++ message
    linkTransport := some .unknown
    linkRttMs := some 0
    linkRttAt := some 0
    linkProbePending := some false }

/-- The sessions of each server, in the order in which the servers come. -/
def groupSessions (service : Service) (sessions : List SessionItem) :
    Except String (OrderedMap String (List SessionItem)) :=
  sessions.foldlM (fun grouped session => do
    let baseUrl ← service.normalizeBaseUrl session.serverBaseUrl
    return grouped.set baseUrl ((grouped.get baseUrl).getD [] ++ [session])) ∅

/-- The token for a server, and the presence of the desktops of its active sessions. -/
def askServer (service : Service) (baseUrl : String) (scopedSessions : List SessionItem) :
    Except String (String × OrderedMap String PresenceStatus) := do
  let token ← service.token baseUrl
  let activeSessions := scopedSessions.filter fun session => textOf session.trustState = "active"
  let activeDeviceIds := OrderedSet.ofList
    ((activeSessions.map fun session => jsTrim session.deviceId).filter fun id => id ≠ "")
  let statuses ←
    if activeDeviceIds = [] then pure [] else service.presence baseUrl token activeDeviceIds
  return (token, OrderedMap.ofList (statuses.map fun status => (status.deviceId, status)))

/-- The sessions after one that was asked about has been put back. -/
def putRefreshed (choices : Choices) (sessions : List SessionItem) (refreshed : SessionItem) :
    List SessionItem :=
  sessions.map fun item =>
    if item.id = refreshed.id then normalizeSession choices item refreshed else item

/-- One round of the loop over the servers. -/
def refreshGroup (choices : Choices) (service : Service) (sessions : List SessionItem)
    (group : String × List SessionItem) : List SessionItem :=
  match askServer service group.1 group.2 with
  | .ok (token, presences) =>
      group.2.foldl (fun sessions scopedSession =>
        putRefreshed choices sessions (refreshedSession group.1 token
          (presences.get (jsTrim scopedSession.deviceId)) scopedSession)) sessions
  | .error message =>
      sessions.map fun item =>
        if (service.normalizeBaseUrl item.serverBaseUrl).toOption = some group.1 then
          failedSession message item
        else item

def refreshSessionsV2 (choices : Choices) (service : Service) (currentSessions : List SessionItem) :
    Except String (List SessionItem) := do
  let grouped ← groupSessions service currentSessions
  return grouped.entries.foldl (refreshGroup choices service) currentSessions

/-! ## The merge -/

def sessionsMatch (left right : SessionItem) : Bool :=
  (left.id ≠ "" ∧ right.id ≠ "" ∧ left.id = right.id) ∨
    (left.bindingId ≠ "" ∧ right.bindingId ≠ "" ∧ left.bindingId = right.bindingId) ∨
    (left.deviceId ≠ "" ∧ right.deviceId ≠ "" ∧ left.deviceId = right.deviceId)

/-- `Math.max(0, Math.trunc(Number(left || right || 0)))`. -/
def countOfEither (left right : Option JsNumber) : JsNumber :=
  .ofCount ((left.getD .nan).orElse (right.getD .nan)).count

/-- A refreshed session with the latest one that matches it. -/
def mergeSession (choices : Choices) (latest refreshed : SessionItem) : SessionItem :=
  let reconciled := reconcileSessionMessages choices (latest.messages ++ refreshed.messages)
  let offline := refreshed.status = .offline
  { spread latest refreshed with
    messages := reconciled.messages
    missingMessageIds := some reconciled.missingMessageIds
    linkTransport := some
      (if offline then .unknown
        else if normalizeLinkTransport refreshed.linkTransport = .unknown then
          normalizeLinkTransport latest.linkTransport
        else normalizeLinkTransport refreshed.linkTransport)
    linkRttMs := some (if offline then 0 else countOfEither refreshed.linkRttMs latest.linkRttMs)
    linkRttAt := some (if offline then 0 else countOfEither refreshed.linkRttAt latest.linkRttAt)
    linkProbePending := some
      (if offline then false
        else (refreshed.linkProbePending.or latest.linkProbePending).getD false) }

/-- The refreshed sessions, each with what the phone has of it by now. -/
def mergeRefreshed (choices : Choices) (latestSessions : List SessionItem)
    (refreshed : SessionItem) : SessionItem :=
  match latestSessions.find? fun item => sessionsMatch item refreshed with
  | none => refreshed
  | some latest => mergeSession choices latest refreshed

def mergeRefreshedSessions (choices : Choices)
    (latestSessions refreshedSessions : List SessionItem) :
    List SessionItem :=
  latestSessions.foldl (fun merged latest =>
    if merged.any fun item => sessionsMatch item latest then merged else merged ++ [latest])
    (refreshedSessions.map (mergeRefreshed choices latestSessions))

/-! ## What happens on the phone -/

/-- The match of `removeSessionLocal`. -/
structure SessionMatch where
  id : String
  bindingId : String
  deviceId : String

def SessionMatch.names (target : SessionMatch) (item : SessionItem) : Bool :=
  (jsTrim target.id ≠ "" ∧ item.id = jsTrim target.id) ∨
    (jsTrim target.bindingId ≠ "" ∧ item.bindingId = jsTrim target.bindingId) ∨
    (jsTrim target.deviceId ≠ "" ∧ item.deviceId = jsTrim target.deviceId)

def removeSessionLocal (sessions : List SessionItem) (target : SessionMatch) : List SessionItem :=
  sessions.filter fun item => !target.names item

/-- What `pair.revoked` makes of a session. -/
def revokedSession (item : SessionItem) : SessionItem :=
  { item with
    trustState := some "revoked"
    status := .offline
    transportReady := some false
    preview := "绑定已撤销" }

/-- `handleSignalEvent`, for `pair.revoked`. -/
def pairRevoked (sessions : List SessionItem) (bindingId deviceId : String) : List SessionItem :=
  sessions.map fun item =>
    if item.bindingId ≠ bindingId ∧ item.deviceId ≠ deviceId then item else revokedSession item

/-- A session after a message was added to it. -/
def addMessage (choices : Choices) (message : ChatMessage) (item : SessionItem) : SessionItem :=
  let upserted := (upsertSessionMessage choices item.messages message).session
  { item with
    preview := if jsTrim message.text = "" then item.preview else jsTrim message.text
    messages := sliceNewest upserted.messages
    missingMessageIds := some upserted.missingMessageIds }

/-- A session after a step that is about its messages. -/
def messageStep (choices : Choices) (step : WindowStep) (item : SessionItem) : SessionItem :=
  match step with
  | .deliver messageId deliveryStatus deliveryError =>
      { item with
        messages :=
          updateMessageDeliveryState item.messages messageId deliveryStatus deliveryError }
  | step =>
      match addedBy step with
      | some message => addMessage choices message item
      | none => item

theorem messages_messageStep (choices : Choices) (step : WindowStep) (item : SessionItem) :
    (messageStep choices step item).messages = stepMessages choices item.messages step := by
  cases step with
  | append env message =>
      unfold messageStep
      dsimp only [stepMessages]
      rw [appendMessageLocal_eq, addedBy]
      by_cases hvalid : jsTrim message.text ≠ "" ∧ validTime (timeOr env message.ts)
      · rw [if_pos hvalid, if_pos hvalid]
        dsimp only [addMessage, upsertAndCut]
      · rw [if_neg hvalid, if_neg hvalid]
  | receive env message =>
      unfold messageStep
      dsimp only [stepMessages]
      rw [upsertRemoteChatMessage_eq, addedBy]
      by_cases hvalid : jsTrim message.id ≠ "" ∧ validTime (timeOr env message.ts)
      · rw [if_pos hvalid, if_pos hvalid]
        dsimp only [addMessage, upsertAndCut]
      · rw [if_neg hvalid, if_neg hvalid]
  | deliver messageId deliveryStatus deliveryError => dsimp only [messageStep, stepMessages]

/-- What may happen to the sessions while a call is pending. -/
inductive SessionStep
  /-- `removeSession`, and the channel revoke of a desktop. -/
  | remove (target : SessionMatch)
  /-- The signal `pair.revoked`. -/
  | revoke (bindingId deviceId : String)
  /-- A message of a session is added or written to. -/
  | message (sessionId : String) (step : WindowStep)

def sessionStep (choices : Choices) (sessions : List SessionItem) :
    SessionStep → List SessionItem
  | .remove target => removeSessionLocal sessions target
  | .revoke bindingId deviceId => pairRevoked sessions bindingId deviceId
  | .message sessionId step =>
      sessions.map fun item => if item.id = sessionId then messageStep choices step item else item

/-! ## The sessions keep their ids -/

section Ids

variable {choices : Choices} {sessions : List SessionItem}

@[simp] theorem id_messageStep (step : WindowStep) (item : SessionItem) :
    (messageStep choices step item).id = item.id := by
  unfold messageStep
  split
  · rfl
  · split
    · dsimp only [addMessage]
    · rfl

theorem ids_map {change : SessionItem → SessionItem} (hid : ∀ item, (change item).id = item.id) :
    (sessions.map change).map SessionItem.id = sessions.map SessionItem.id := by
  rw [List.map_map]
  exact List.map_congr_left fun item _ => hid item

/-- No step brings a session or changes the order. -/
theorem ids_sessionStep (step : SessionStep) :
    ((sessionStep choices sessions step).map SessionItem.id).Sublist
      (sessions.map SessionItem.id) := by
  cases step with
  | remove target => exact List.filter_sublist.map SessionItem.id
  | revoke bindingId deviceId =>
      unfold sessionStep pairRevoked
      rw [ids_map]
      intro item
      split
      · rfl
      · rfl
  | message sessionId step =>
      unfold sessionStep
      dsimp only
      rw [ids_map]
      intro item
      split
      · exact id_messageStep step item
      · rfl

theorem ids_run (steps : List SessionStep) :
    ((Steps.run (sessionStep choices) sessions steps).map SessionItem.id).Sublist
      (sessions.map SessionItem.id) := by
  induction steps generalizing sessions with
  | nil => exact List.Sublist.refl _
  | cons step rest ih => exact ih.trans (ids_sessionStep step)

theorem eq_of_id {left right : SessionItem} (hids : (sessions.map SessionItem.id).Nodup)
    (hleft : left ∈ sessions) (hright : right ∈ sessions) (hid : left.id = right.id) :
    left = right := List.inj_on_of_nodup_map hids hleft hright hid

end Ids

/-! ## What a refresh leaves of a session -/

/-- What the message of this kind and id reads, if there is one. -/
def readingIn (kind : ChatKind) (id : String) (messages : List ChatMessage) : Option CopyReading :=
  (lastCopy kind id messages).map reading

/-- The refreshed session is still the one that was asked about. -/
structure Refreshes (session refreshed : SessionItem) : Prop where
  id : refreshed.id = session.id
  bindingId : refreshed.bindingId = session.bindingId
  deviceId : refreshed.deviceId = session.deviceId
  trustState : refreshed.trustState = session.trustState
  messages : ∀ kind id, readingIn kind id refreshed.messages = readingIn kind id session.messages

section Refreshing

variable {choices : Choices} {service : Service} {session item next refreshed : SessionItem}
  {sessions items : List SessionItem}

theorem readingIn_normalizeSession (kind : ChatKind) (id : String) :
    readingIn kind id (normalizeSession choices item next).messages =
      (readingIn kind id next.messages).or (readingIn kind id item.messages) := by
  unfold readingIn
  rw [← Option.map_or, ← lastCopy_append]
  exact reading_lastCopy_reconcile choices (item.messages ++ next.messages)

theorem refreshes_self (session : SessionItem) : Refreshes session session :=
  ⟨rfl, rfl, rfl, rfl, fun _ _ => rfl⟩

theorem refreshes_refreshedSession (baseUrl serverToken : String)
    (answer : Option PresenceStatus) (session : SessionItem) :
    Refreshes session (refreshedSession baseUrl serverToken answer session) := by
  unfold refreshedSession
  constructor
  · dsimp only
  · dsimp only
  · dsimp only
  · dsimp only
  · intro kind id
    dsimp only

theorem Refreshes.failed (hitem : Refreshes session item) (message : String) :
    Refreshes session (failedSession message item) :=
  ⟨hitem.id, hitem.bindingId, hitem.deviceId, hitem.trustState, hitem.messages⟩

theorem fields_normalizeSession :
    (normalizeSession choices item next).id = next.id ∧
      (normalizeSession choices item next).bindingId = next.bindingId ∧
      (normalizeSession choices item next).deviceId = next.deviceId ∧
      (normalizeSession choices item next).trustState = next.trustState.or item.trustState := by
  dsimp only [normalizeSession, spread]
  exact ⟨rfl, rfl, rfl, rfl⟩

theorem Refreshes.normalize (choices : Choices) (hitem : Refreshes session item)
    (hnext : Refreshes session next) :
    Refreshes session (normalizeSession choices item next) := by
  obtain ⟨hid, hbinding, hdevice, htrust⟩ :=
    @fields_normalizeSession choices item next
  refine ⟨hid.trans hnext.id, hbinding.trans hnext.bindingId, hdevice.trans hnext.deviceId, ?_, ?_⟩
  · rw [htrust, hnext.trustState, hitem.trustState, Option.or_self]
  · intro kind id
    rw [readingIn_normalizeSession, hnext.messages, hitem.messages, Option.or_self]

/-! A list that was refreshed has its sessions in their places. -/

theorem exists_of_mem_right {α β : Type} {related : α → β → Prop} {left : List α} {right : List β}
    (hlists : List.Forall₂ related left right) {b : β} (hmem : b ∈ right) :
    ∃ a ∈ left, related a b := by
  induction hlists with
  | nil => cases hmem
  | cons hhead htail ih =>
      rcases List.mem_cons.mp hmem with rfl | hrest
      · exact ⟨_, List.mem_cons_self, hhead⟩
      · obtain ⟨a, ha, hrelated⟩ := ih hrest
        exact ⟨a, List.mem_cons_of_mem _ ha, hrelated⟩

theorem exists_of_mem_left {α β : Type} {related : α → β → Prop} {left : List α} {right : List β}
    (hlists : List.Forall₂ related left right) {a : α} (hmem : a ∈ left) :
    ∃ b ∈ right, related a b := by
  induction hlists with
  | nil => cases hmem
  | cons hhead htail ih =>
      rcases List.mem_cons.mp hmem with rfl | hrest
      · exact ⟨_, List.mem_cons_self, hhead⟩
      · obtain ⟨b, hb, hrelated⟩ := ih hrest
        exact ⟨b, List.mem_cons_of_mem _ hb, hrelated⟩

/-- A change of every item that keeps what it was refreshed from. -/
theorem refreshes_map {change : SessionItem → SessionItem}
    (hlists : List.Forall₂ Refreshes sessions items)
    (hchange : ∀ session ∈ sessions, ∀ item, Refreshes session item →
      Refreshes session (change item)) :
    List.Forall₂ Refreshes sessions (items.map change) := by
  induction hlists with
  | nil => exact List.Forall₂.nil
  | cons hhead htail ih =>
      rw [List.forall_mem_cons] at hchange
      exact List.Forall₂.cons (hchange.1 _ hhead) (ih hchange.2)

theorem refreshes_putRefreshed (choices : Choices) (hlists : List.Forall₂ Refreshes sessions items)
    (hrefreshed : ∀ session ∈ sessions, session.id = refreshed.id → Refreshes session refreshed) :
    List.Forall₂ Refreshes sessions (putRefreshed choices items refreshed) := by
  apply refreshes_map hlists
  intro session hsession item hitem
  split
  · next hid =>
      rw [hitem.id] at hid
      exact hitem.normalize choices (hrefreshed session hsession hid)
  · exact hitem

theorem refreshes_refreshGroup (choices : Choices) (service : Service)
    (hids : (sessions.map SessionItem.id).Nodup) {group : String × List SessionItem}
    (hgroup : ∀ session ∈ group.2, session ∈ sessions)
    (hlists : List.Forall₂ Refreshes sessions items) :
    List.Forall₂ Refreshes sessions (refreshGroup choices service items group) := by
  unfold refreshGroup
  split
  · next token presences hask =>
      clear hask
      generalize group.2 = scopedSessions at hgroup
      induction scopedSessions generalizing items with
      | nil => exact hlists
      | cons scopedSession rest ih =>
          rw [List.forall_mem_cons] at hgroup
          refine ih ?_ hgroup.2
          apply refreshes_putRefreshed choices hlists
          intro session hsession hid
          have hrefreshed := refreshes_refreshedSession group.1 token
            (presences.get (jsTrim scopedSession.deviceId)) scopedSession
          obtain rfl := eq_of_id hids hsession hgroup.1 (hid.trans hrefreshed.id)
          exact hrefreshed
  · next message hask =>
      apply refreshes_map hlists
      intro session hsession item hitem
      split
      · exact hitem.failed message
      · exact hitem

/-- The groups have the sessions that were grouped. -/
theorem mem_of_groupSessions {grouped : OrderedMap String (List SessionItem)}
    (hgroup : groupSessions service sessions = .ok grouped) {entry : String × List SessionItem}
    (hentry : entry ∈ grouped.entries) (hmem : session ∈ entry.2) : session ∈ sessions := by
  have hfold : ∀ (rest : List SessionItem) (start : OrderedMap String (List SessionItem)),
      (∀ session ∈ rest, session ∈ sessions) →
      (∀ baseUrl scopedSessions, start.get baseUrl = some scopedSessions →
        ∀ session ∈ scopedSessions, session ∈ sessions) →
      rest.foldlM (fun grouped session => do
        let baseUrl ← service.normalizeBaseUrl session.serverBaseUrl
        return grouped.set baseUrl ((grouped.get baseUrl).getD [] ++ [session])) start =
          Except.ok grouped →
      ∀ baseUrl scopedSessions, grouped.get baseUrl = some scopedSessions →
        ∀ session ∈ scopedSessions, session ∈ sessions := by
    intro rest
    induction rest with
    | nil =>
        intro start _ hstart hdone
        obtain rfl := Except.ok.inj hdone
        exact hstart
    | cons head rest ih =>
        intro start hall hstart hdone
        rw [List.forall_mem_cons] at hall
        rw [List.foldlM_cons] at hdone
        cases hurl : service.normalizeBaseUrl head.serverBaseUrl with
        | error message =>
            rw [hurl] at hdone
            cases hdone
        | ok baseUrl =>
            rw [hurl] at hdone
            apply ih _ hall.2 _ hdone
            intro other scopedSessions hget
            rw [OrderedMap.get_set] at hget
            split at hget
            · obtain rfl := Option.some.inj hget
              intro found hfound
              rcases List.mem_append.mp hfound with hold | hnew
              · cases hbefore : start.get baseUrl with
                | none =>
                    rw [hbefore] at hold
                    cases hold
                | some before =>
                    rw [hbefore] at hold
                    exact hstart _ _ hbefore _ hold
              · rw [List.mem_singleton.mp hnew]
                exact hall.1
            · exact hstart _ _ hget
  apply hfold sessions ∅ (fun _ h => h) _ hgroup entry.1 entry.2
    (OrderedMap.get_eq_some_iff.mpr hentry) session hmem
  intro baseUrl scopedSessions hget
  cases hget

/-- **A refresh** asks about every session and forgets none. -/
theorem refreshes_refreshSessionsV2 (hids : (sessions.map SessionItem.id).Nodup)
    (hrefresh : refreshSessionsV2 choices service sessions = .ok items) :
    List.Forall₂ Refreshes sessions items := by
  unfold refreshSessionsV2 at hrefresh
  cases hgroup : groupSessions service sessions with
  | error message =>
      rw [hgroup] at hrefresh
      cases hrefresh
  | ok grouped =>
      rw [hgroup] at hrefresh
      obtain rfl := Except.ok.inj hrefresh
      have hloop : ∀ (groups : List (String × List SessionItem)) (items : List SessionItem),
          (∀ group ∈ groups, ∀ session ∈ group.2, session ∈ sessions) →
          List.Forall₂ Refreshes sessions items →
          List.Forall₂ Refreshes sessions (groups.foldl (refreshGroup choices service) items) := by
        intro groups
        induction groups with
        | nil => exact fun items _ hlists => hlists
        | cons group rest ih =>
            intro items hgroups hlists
            rw [List.forall_mem_cons] at hgroups
            exact ih _ hgroups.2 (refreshes_refreshGroup choices service hids hgroups.1 hlists)
      apply hloop
      · intro group hmem session hsession
        exact mem_of_groupSessions hgroup hmem hsession
      · exact List.forall₂_same.mpr fun session _ => refreshes_self session

end Refreshing

end OpenClaw.Mobile
