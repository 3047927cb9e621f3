import OpenClaw.Wire.Envelope

/-!
# Chat messages and summaries between the two ends

Either end builds chat messages and summaries and reads those of the other.  Both trim ids
and leave out blank ones, each as its language does, and the mobile leaves out repeated
ones; a missing time is the time of the reader.  What is in the normal form of both
(`Portable`) is read as it was written.
-/

namespace OpenClaw.Wire

open OpenClaw.Runtime OpenClaw.Desktop OpenClaw.Peer
open OpenClaw.Mobile (Origin OutgoingChat normalizeAfterIds)
open OpenClaw.Chat (originName)

def openclawChatSyncStateType : String := "app.openclaw.chat.sync-state"

/-! ## What is said -/

/-- What a chat message is on either end. -/
structure ChatContent where
  id : String
  after : List String
  text : String
  ts : JsNumber
  origin : String
  originSeq : JsNumber

structure SyncState where
  hostSeq : JsNumber
  mobileSeq : JsNumber
  leafIds : List String

/-- Either language takes the id for trimmed. -/
structure PortableId (id : String) : Prop where
  ne : id ≠ ""
  js : jsTrim id = id
  unicode : unicodeTrim id = id

structure PortableIds (ids : List String) : Prop where
  nodup : ids.Nodup
  each : ∀ id ∈ ids, PortableId id

/-- A number that a double has exactly. -/
def IsCount (value : JsNumber) : Prop := ∃ n : ℕ, n < 2 ^ 53 ∧ value = .finite n

structure Portable (content : ChatContent) : Prop where
  id : PortableId content.id
  after : PortableIds content.after
  text : unicodeTrim content.text ≠ ""
  ts : ∃ n : ℕ, 1 ≤ n ∧ n ≤ 2 ^ 53 ∧ content.ts = .finite n
  origin : content.origin = "host" ∨ content.origin = "mobile"
  originSeq : IsCount content.originSeq

structure PortableState (state : SyncState) : Prop where
  hostSeq : IsCount state.hostSeq
  mobileSeq : IsCount state.mobileSeq
  leafIds : PortableIds state.leafIds

/-! ## The desktop -/

def messageContent (message : PairBackendMessage) : ChatContent where
  id := message.id
  after := message.after
  text := message.text
  ts := .finite message.ts
  origin := message.origin
  originSeq := .finite message.originSeq

/-- The fields below `payload`. -/
def chatFields (message : PairBackendMessage) : List (String × Json) :=
  [("id", .str message.id), ("after", .arr (message.after.map .str)),
    ("text", .str message.text), ("origin", .str message.origin),
    ("originSeq", .num (.finite message.originSeq))]

def buildOpenclawChatPayload (message : PairBackendMessage) (sender : String) : Json :=
  appMessage openclawChatMessageType (.obj (chatFields message)) (.num (.finite message.ts)) sender

def stateFields (hostSeq mobileSeq : ℕ) (leafIds : List String) : List (String × Json) :=
  [("hostSeq", .num (.finite hostSeq)), ("mobileSeq", .num (.finite mobileSeq)),
    ("leafIds", .arr ((normalizeChatMessageIds leafIds).map .str))]

/-- `build_openclaw_sync_state_payload`; `now` is the clock. -/
def buildOpenclawSyncStatePayload (hostSeq mobileSeq : ℕ) (leafIds : List String) (now : ℕ)
    (sender : String) : Json :=
  appMessage openclawChatSyncStateType (.obj (stateFields hostSeq mobileSeq leafIds))
    (.num (.finite now)) sender

def parseOpenclawSyncState (payload : Json) : SyncState :=
  let body := ((payload.field "payload").bind asObject).getD (.obj [])
  { hostSeq := .finite (((body.field "hostSeq").bind asU64).getD 0 : ℕ)
    mobileSeq := .finite (((body.field "mobileSeq").bind asU64).getD 0 : ℕ)
    leafIds := ((((body.field "leafIds").bind asArray).getD []).filterMap fun item =>
      (asStr item).map unicodeTrim).filter fun value => decide (value ≠ "") }

/-! ## The mobile -/

/-- `OpenClawPairChatEvent` -/
structure ChatEvent where
  id : String
  after : List String
  text : String
  ts : JsNumber
  sender : EntityType
  origin : Origin
  originSeq : JsNumber

def eventContent (event : ChatEvent) : ChatContent where
  id := event.id
  after := event.after
  text := event.text
  ts := event.ts
  origin := originName event.origin
  originSeq := event.originSeq

/-- `parseOpenClawPairChatMessage` -/
def parseChatMessage (reader : Reader) (message : Json) : Option ChatEvent :=
  if reader.trimmed message "type" ≠ openclawChatMessageType then none
  else
    let payload := payloadOf message
    some
      { id :=
          if reader.trimmed payload "id" = "" then reader.createMessageId (reader.tsOf message)
          else reader.trimmed payload "id"
        after := reader.normalizeIds (payload.field "after")
        text := reader.coercion.string (payload.field "text")
        ts := reader.tsOf message
        sender := senderOf message
        origin :=
          if (payload.field "origin").bind asStr = some "mobile" then .mobile
          else if (payload.field "origin").bind asStr = some "host" then .host
          else if isFrom message "desktop" then .host
          else .mobile
        originSeq := (reader.coercion.number (payload.field "originSeq") 0).whole }

/-- What `buildOpenClawPairChatPayload` is called with, and the time of the message. -/
def outgoingContent (outgoing : OutgoingChat) (origin : Origin) : ChatContent where
  id := outgoing.id
  after := outgoing.after
  text := outgoing.text
  ts := outgoing.ts
  origin := originName origin
  originSeq := outgoing.originSeq

/-- `buildOpenClawPairChatSyncStatePayload` -/
def buildSyncStatePayload (state : SyncState) : Json :=
  .obj [("hostSeq", .num state.hostSeq.orZero.whole),
    ("mobileSeq", .num state.mobileSeq.orZero.whole),
    ("leafIds", .arr ((normalizeAfterIds state.leafIds).map .str))]

/-- `OpenClawPairChatSyncState` -/
structure SyncStateEvent where
  state : SyncState
  ts : JsNumber
  sender : EntityType

/-- `parseOpenClawPairChatSyncState` -/
def parseSyncState (reader : Reader) (message : Json) : Option SyncStateEvent :=
  if reader.trimmed message "type" ≠ openclawChatSyncStateType then none
  else
    let payload := payloadOf message
    some
      { state :=
          { hostSeq := (reader.coercion.number (payload.field "hostSeq") 0).whole
            mobileSeq := (reader.coercion.number (payload.field "mobileSeq") 0).whole
            leafIds := reader.normalizeIds (payload.field "leafIds") }
        ts := reader.tsOf message
        sender := senderOf message }

/-! ## What is in normal form is left alone -/

variable {reader : Reader} {env : Desktop.Env} {phone : Mobile.Env} {ids : List String}
  {message : PairBackendMessage} {outgoing : OutgoingChat} {origin : Origin} {state : SyncState}
  {sender : String}

theorem PortableIds.filter_unicode (hids : PortableIds ids) :
    (ids.map unicodeTrim).filter (fun value => decide (value ≠ "")) = ids :=
  filter_trimmed_eq_self fun id hid => ⟨(hids.each id hid).unicode, (hids.each id hid).ne⟩

theorem PortableIds.normalizeAfterIds (hids : PortableIds ids) :
    Mobile.normalizeAfterIds ids = ids :=
  ofList_trimmed_eq_self hids.nodup fun id hid => ⟨(hids.each id hid).js, (hids.each id hid).ne⟩

theorem PortableIds.normalizeChatMessageIds (hids : PortableIds ids) :
    Desktop.normalizeChatMessageIds ids = ids :=
  ofList_trimmed_eq_self hids.nodup fun id hid =>
    ⟨(hids.each id hid).unicode, (hids.each id hid).ne⟩

/-- The mobile reads a list of texts. -/
theorem PortableIds.normalizeIds (hids : PortableIds ids) :
    reader.normalizeIds (some (.arr (ids.map .str))) = ids := by
  have hstrings : ((ids.map Json.str).map fun element =>
      reader.coercion.string (some element)) = ids := by
    rw [List.map_map]
    calc ids.map _ = ids.map id := List.map_congr_left fun id _ => Coercion.string_str _ id
      _ = ids := List.map_id ids
  show Mobile.normalizeAfterIds _ = _
  rw [Option.bind_some, asArray, Option.getD_some, hstrings, hids.normalizeAfterIds]

/-- The desktop reads a list of texts. -/
theorem PortableIds.filterMap (hids : PortableIds ids) :
    ((ids.map Json.str).filterMap fun item => (asStr item).map unicodeTrim).filter
      (fun value => decide (value ≠ "")) = ids := by
  have hstrings : ((ids.map Json.str).filterMap fun item => (asStr item).map unicodeTrim) =
      ids.map unicodeTrim := by
    rw [List.filterMap_map, ← List.filterMap_eq_map]
    rfl
  rw [hstrings, hids.filter_unicode]

/-! ## From the desktop to the mobile -/

/-- What the mobile finds of a message in its JSON. -/
theorem payloadOf_parse {type : String} {fields : List (String × Json)} {ts : Json} :
    payloadOf (appMessage type (.obj fields) ts sender).parse = (Json.obj fields).parse := by
  have hfield : (appMessage type (.obj fields) ts sender).parse.field "payload" =
      some (Json.obj fields).parse := by
    rw [Json.parse, field_mapNumbers_appMessage]
    rfl
  have hobject : (Json.obj fields).parse.isObject = true := by
    rw [Json.parse, Json.mapNumbers]
    rfl
  rw [payloadOf, hfield, Option.filter_some, if_pos hobject, Option.getD_some]

/-- A number that a double has is read as it is. -/
theorem parse_natCast {n : ℕ} (hle : n ≤ 2 ^ 53) :
    (Json.num (.finite n)).parse = .num (.finite n) := by
  rw [Json.parse, Json.mapNumbers_num, JsNumber.readDouble_natCast, JsNumber.nearest_of_le hle]

theorem tsOf_parse {type : String} {payload : Json} {n : ℕ} (hpos : 1 ≤ n) (hle : n ≤ 2 ^ 53) :
    reader.tsOf (appMessage type payload (.num (.finite n)) sender).parse = .finite n := by
  have hfield : (appMessage type payload (.num (.finite n)) sender).parse.field "ts" =
      some (Json.num (.finite n)).parse := by
    rw [Json.parse, field_mapNumbers_appMessage]
    rfl
  rw [Reader.tsOf, hfield, parse_natCast hle, Coercion.number_natCast _ hpos]

theorem trimmed_parse {type : String} {payload ts : Json} (htype : jsTrim type = type) :
    reader.trimmed (appMessage type payload ts sender).parse "type" = type := by
  have hfield : (appMessage type payload ts sender).parse.field "type" = some (.str type) := by
    rw [Json.parse, field_mapNumbers_appMessage]
    show some (Json.mapNumbers _ (.str type)) = _
    rw [Json.mapNumbers_str]
  rw [Reader.trimmed, hfield, Coercion.string_str, htype]

/-- A count of the payload is read as it is. -/
theorem number_parse {n : ℕ} (hlt : n < 2 ^ 53) :
    (reader.coercion.number (some (Json.num (.finite n)).parse) 0).whole = .finite n := by
  rw [parse_natCast hlt.le, Coercion.number_natCast_zero, JsNumber.whole_natCast]

theorem eq_natCast_of_isCount {n : ℕ} (hcount : IsCount (.finite n)) : n < 2 ^ 53 := by
  obtain ⟨m, hlt, heq⟩ := hcount
  have hcast : (n : ℚ) = m := JsNumber.finite.inj heq
  rwa [Nat.cast_inj.mp hcast]

theorem parse_buildOpenclawChatPayload (hportable : Portable (messageContent message)) :
    (parseChatMessage reader (buildOpenclawChatPayload message sender).parse).map eventContent =
      some (messageContent message) := by
  obtain ⟨ts, hpos, hle, hts⟩ := hportable.ts
  have hts' : message.ts = ts := Nat.cast_inj.mp (JsNumber.finite.inj hts)
  have hseq : message.originSeq < 2 ^ 53 := eq_natCast_of_isCount hportable.originSeq
  have htype : jsTrim openclawChatMessageType = openclawChatMessageType := by decide
  have hfield : ∀ key, (Json.obj (chatFields message)).parse.field key =
      ((Json.obj (chatFields message)).field key).map Json.parse :=
    fun key => Json.field_mapNumbers_obj _ _ key
  have hid : reader.trimmed (Json.obj (chatFields message)).parse "id" = message.id := by
    have hstr : (Json.obj (chatFields message)).field "id" = some (.str message.id) := rfl
    rw [Reader.trimmed, hfield, hstr, Option.map_some, Json.parse, Json.mapNumbers_str,
      Coercion.string_str]
    exact hportable.id.js
  have hafter : reader.normalizeIds ((Json.obj (chatFields message)).parse.field "after") =
      message.after := by
    have harr : (Json.obj (chatFields message)).field "after" =
        some (.arr (message.after.map .str)) := rfl
    rw [hfield, harr, Option.map_some, Json.parse, Json.mapNumbers_strs]
    exact hportable.after.normalizeIds
  have htext : reader.coercion.string ((Json.obj (chatFields message)).parse.field "text") =
      message.text := by
    have hstr : (Json.obj (chatFields message)).field "text" = some (.str message.text) := rfl
    rw [hfield, hstr, Option.map_some, Json.parse, Json.mapNumbers_str, Coercion.string_str]
  have horigin : ((Json.obj (chatFields message)).parse.field "origin").bind asStr =
      some message.origin := by
    have hstr : (Json.obj (chatFields message)).field "origin" = some (.str message.origin) := rfl
    rw [hfield, hstr, Option.map_some, Json.parse, Json.mapNumbers_str, Option.bind_some, asStr]
  have hnumber : (reader.coercion.number
      ((Json.obj (chatFields message)).parse.field "originSeq") 0).whole =
        .finite message.originSeq := by
    have hnum : (Json.obj (chatFields message)).field "originSeq" =
        some (.num (.finite message.originSeq)) := rfl
    rw [hfield, hnum, Option.map_some, number_parse hseq]
  have hname : originName (if some message.origin = some "mobile" then .mobile
      else if some message.origin = some "host" then .host
      else if isFrom (buildOpenclawChatPayload message sender).parse "desktop" then .host
      else .mobile) = message.origin := by
    rcases hportable.origin with horigin | horigin
    · rw [show message.origin = "host" from horigin]
      rfl
    · rw [show message.origin = "mobile" from horigin]
      rfl
  have hne : message.id ≠ "" := hportable.id.ne
  unfold parseChatMessage
  rw [buildOpenclawChatPayload, trimmed_parse htype, if_neg (not_not.mpr rfl)]
  dsimp only
  rw [payloadOf_parse, hid, if_neg hne, hafter, htext, horigin, hnumber, hts', tsOf_parse hpos hle,
    Option.map_some, eventContent, messageContent, hts']
  rw [buildOpenclawChatPayload, hts'] at hname
  rw [hname]

theorem parse_buildOpenclawSyncStatePayload {hostSeq mobileSeq now : ℕ}
    (hportable : PortableState ⟨.finite hostSeq, .finite mobileSeq, ids⟩) :
    (parseSyncState reader
      (buildOpenclawSyncStatePayload hostSeq mobileSeq ids now sender).parse).map
        SyncStateEvent.state = some ⟨.finite hostSeq, .finite mobileSeq, ids⟩ := by
  have hhost : hostSeq < 2 ^ 53 := eq_natCast_of_isCount hportable.hostSeq
  have hmobile : mobileSeq < 2 ^ 53 := eq_natCast_of_isCount hportable.mobileSeq
  have htype : jsTrim openclawChatSyncStateType = openclawChatSyncStateType := by decide
  have hfield : ∀ key, (Json.obj (stateFields hostSeq mobileSeq ids)).parse.field key =
      ((Json.obj (stateFields hostSeq mobileSeq ids)).field key).map Json.parse :=
    fun key => Json.field_mapNumbers_obj _ _ key
  have hhostSeq : (Json.obj (stateFields hostSeq mobileSeq ids)).field "hostSeq" =
      some (.num (.finite hostSeq)) := rfl
  have hmobileSeq : (Json.obj (stateFields hostSeq mobileSeq ids)).field "mobileSeq" =
      some (.num (.finite mobileSeq)) := rfl
  have hleafIds : (Json.obj (stateFields hostSeq mobileSeq ids)).field "leafIds" =
      some (.arr ((normalizeChatMessageIds ids).map .str)) := rfl
  unfold parseSyncState buildOpenclawSyncStatePayload
  rw [trimmed_parse htype, if_neg (not_not.mpr rfl)]
  dsimp only
  rw [payloadOf_parse, hfield, hfield, hfield, hhostSeq, hmobileSeq, hleafIds, Option.map_some,
    Option.map_some, Option.map_some, Option.map_some, number_parse hhost, number_parse hmobile,
    Json.parse, Json.mapNumbers_strs, hportable.leafIds.normalizeChatMessageIds,
    hportable.leafIds.normalizeIds]

/-! ## From the mobile to the desktop -/

theorem parse_wire_buildChat (hportable : Portable (outgoingContent outgoing origin)) :
    (parseOpenclawChatPayload env
        (Chat.wire (Mobile.buildChat phone outgoing origin) .relay)).map messageContent =
      some (outgoingContent outgoing origin) := by
  obtain ⟨ts, hpos, hle, hts⟩ := hportable.ts
  obtain ⟨seq, hseq, horiginSeq⟩ := hportable.originSeq
  have hts' : outgoing.ts = .finite ts := hts
  have hseq' : outgoing.originSeq = .ofCount seq := horiginSeq
  have hid : jsTrim outgoing.id = outgoing.id := hportable.id.js
  have hid' : unicodeTrim outgoing.id = outgoing.id := hportable.id.unicode
  have hne : outgoing.id ≠ "" := hportable.id.ne
  have hafter : PortableIds outgoing.after := hportable.after
  have hread : ∀ n : ℕ, n ≤ 2 ^ 53 →
      asU64 (Chat.stringifyNumber (.finite n)) = some n := fun n hn =>
    (Chat.asU64_natCast n).trans (if_pos (by omega))
  have hbuilt : Mobile.buildChat phone outgoing origin =
      ⟨outgoing.id, outgoing.after, outgoing.text, origin, seq, .finite ts⟩ := by
    rw [Mobile.buildChat, hid, if_neg hne, hafter.normalizeAfterIds, hseq', hts',
      JsNumber.count_ofCount]
  have htext : unicodeTrim outgoing.text ≠ "" := hportable.text
  rw [Chat.parse_wire, hbuilt]
  dsimp only
  rw [if_neg htext, Option.map_some, Chat.readChat, messageContent, outgoingContent]
  dsimp only [Chat.Transport.stamp]
  rw [hid', if_neg hne, hread ts hle, JsNumber.ofCount_natCast, hread seq hseq.le,
    hafter.filter_unicode, hts', hseq']
  rfl

/-- The summary on its way to the desktop. -/
theorem parse_buildSyncStatePayload {now : ℕ} (hportable : PortableState state) :
    parseOpenclawSyncState (stringify (appMessage openclawChatSyncStateType
      (buildSyncStatePayload state) (.num (.finite now)) sender)) = state := by
  obtain ⟨host, hhost, hhostSeq⟩ := hportable.hostSeq
  obtain ⟨mobile, hmobile, hmobileSeq⟩ := hportable.mobileSeq
  have hread : ∀ n : ℕ, n < 2 ^ 53 →
      asU64 (Json.mapNumbers Chat.stringifyNumber (.num (.finite n))) = some n := by
    intro n hn
    rw [Json.mapNumbers_num, Chat.asU64_natCast, if_pos (by omega)]
  have hwhole : ∀ n : ℕ, (JsNumber.finite n).orZero.whole = .finite n := fun n =>
    JsNumber.whole_natCast n
  have hpayload : ((stringify (appMessage openclawChatSyncStateType (buildSyncStatePayload state)
      (.num (.finite now)) sender)).field "payload").bind asObject =
        some (stringify (buildSyncStatePayload state)) := by
    rw [stringify, field_mapNumbers_appMessage]
    show asObject (Json.mapNumbers Chat.stringifyNumber (buildSyncStatePayload state)) =
      some (Json.mapNumbers Chat.stringifyNumber (buildSyncStatePayload state))
    rw [buildSyncStatePayload, Json.mapNumbers]
    rfl
  have hfield : ∀ key, (stringify (buildSyncStatePayload state)).field key =
      ((buildSyncStatePayload state).field key).map (Json.mapNumbers Chat.stringifyNumber) :=
    fun key => Json.field_mapNumbers_obj _ _ key
  have hhostField : (buildSyncStatePayload state).field "hostSeq" = some (.num (.finite host)) := by
    show some (Json.num state.hostSeq.orZero.whole) = _
    rw [hhostSeq, hwhole]
  have hmobileField : (buildSyncStatePayload state).field "mobileSeq" =
      some (.num (.finite mobile)) := by
    show some (Json.num state.mobileSeq.orZero.whole) = _
    rw [hmobileSeq, hwhole]
  have hleafIds : (buildSyncStatePayload state).field "leafIds" =
      some (.arr (state.leafIds.map .str)) := by
    show some (Json.arr ((normalizeAfterIds state.leafIds).map .str)) = _
    rw [hportable.leafIds.normalizeAfterIds]
  rw [parseOpenclawSyncState, hpayload, Option.getD_some, hfield, hfield, hfield,
    hhostField, hmobileField, hleafIds, Option.map_some, Option.map_some, Option.map_some,
    Json.mapNumbers_strs, Option.bind_some, Option.bind_some, Option.bind_some, hread host hhost,
      hread mobile hmobile, asArray,
    Option.getD_some, Option.getD_some, Option.getD_some, hportable.leafIds.filterMap,
    ← hhostSeq, ← hmobileSeq]

/-! ## Both -/

/-- **Chat messages and summaries in normal form survive the way to the other end.** -/
theorem chatFormat_roundTrip (reader : Reader) (env : Desktop.Env) (phone : Mobile.Env)
    (sender : String) (now : ℕ) :
    (∀ message, Portable (messageContent message) →
      (parseChatMessage reader (buildOpenclawChatPayload message sender).parse).map eventContent =
        some (messageContent message)) ∧
    (∀ outgoing origin, Portable (outgoingContent outgoing origin) →
      (parseOpenclawChatPayload env
          (Chat.wire (Mobile.buildChat phone outgoing origin) .relay)).map messageContent =
        some (outgoingContent outgoing origin)) ∧
    (∀ (hostSeq mobileSeq : ℕ) leafIds,
      PortableState ⟨.finite hostSeq, .finite mobileSeq, leafIds⟩ →
        (parseSyncState reader
            (buildOpenclawSyncStatePayload hostSeq mobileSeq leafIds now sender).parse).map
            SyncStateEvent.state = some ⟨.finite hostSeq, .finite mobileSeq, leafIds⟩) ∧
    ∀ state, PortableState state →
      parseOpenclawSyncState (stringify (appMessage openclawChatSyncStateType
        (buildSyncStatePayload state) (.num (.finite now)) sender)) = state :=
  ⟨fun _ => parse_buildOpenclawChatPayload, fun _ _ => parse_wire_buildChat,
    fun _ _ _ => parse_buildOpenclawSyncStatePayload, fun _ => parse_buildSyncStatePayload⟩

/-- A message of the host after another one. -/
def greeting : PairBackendMessage where
  id := "chat_2"
  sender := "host"
  text := "hello"
  ts := 1000
  kind := "chat"
  origin := "host"
  originSeq := 1
  after := ["chat_1"]
  missingAfter := []
  gatewayMessageId := ""
  gatewayMessageSeq := 0

/-- The answer of the mobile. -/
def answer : OutgoingChat := ⟨"chat_3", "hi", .finite (2000 : ℕ), ["chat_2"], .finite (1 : ℕ)⟩

theorem portableIds_singleton {id : String} (hid : PortableId id) : PortableIds [id] :=
  ⟨List.nodup_singleton id, fun other hother => by rwa [List.mem_singleton.mp hother]⟩

theorem portableId_chat : PortableId "chat_1" ∧ PortableId "chat_2" ∧ PortableId "chat_3" :=
  ⟨⟨by decide, by decide, by decide⟩, ⟨by decide, by decide, by decide⟩,
    ⟨by decide, by decide, by decide⟩⟩

theorem isCount_natCast {n : ℕ} (hlt : n < 2 ^ 53) : IsCount (.finite n) := ⟨n, hlt, rfl⟩

theorem portable_greeting : Portable (messageContent greeting) where
  id := portableId_chat.2.1
  after := portableIds_singleton portableId_chat.1
  text := by decide
  ts := ⟨1000, by norm_num, by norm_num, rfl⟩
  origin := Or.inl rfl
  originSeq := isCount_natCast (by decide)

theorem portable_answer : Portable (outgoingContent answer .mobile) where
  id := portableId_chat.2.2
  after := portableIds_singleton portableId_chat.2.1
  text := by decide
  ts := ⟨2000, by norm_num, by norm_num, rfl⟩
  origin := Or.inr rfl
  originSeq := isCount_natCast (by norm_num)

theorem portableState_singleton {hostSeq mobileSeq : ℕ} {id : String} (hhost : hostSeq < 2 ^ 53)
    (hmobile : mobileSeq < 2 ^ 53) (hid : PortableId id) :
    PortableState ⟨.finite hostSeq, .finite mobileSeq, [id]⟩ :=
  ⟨isCount_natCast hhost, isCount_natCast hmobile, portableIds_singleton hid⟩

theorem chatFormat_roundTrip_greeting :
    (parseChatMessage plainReader (buildOpenclawChatPayload greeting "desktop").parse).map
        eventContent = some (messageContent greeting) ∧
      (parseOpenclawChatPayload ⟨0, fun _ => "", .plain⟩
          (Chat.wire (Mobile.buildChat (Chat.plainEnv 0 "") answer .mobile) .relay)).map
          messageContent = some (outgoingContent answer .mobile) ∧
      (parseSyncState plainReader
          (buildOpenclawSyncStatePayload 1 0 ["chat_2"] 1000 "desktop").parse).map
          SyncStateEvent.state = some ⟨.finite (1 : ℕ), .finite (0 : ℕ), ["chat_2"]⟩ ∧
      parseOpenclawSyncState (stringify (appMessage openclawChatSyncStateType
        (buildSyncStatePayload ⟨.finite (1 : ℕ), .finite (1 : ℕ), ["chat_3"]⟩)
        (.num (.finite (1000 : ℕ))) "desktop")) =
          ⟨.finite (1 : ℕ), .finite (1 : ℕ), ["chat_3"]⟩ := by
  have hround := chatFormat_roundTrip plainReader ⟨0, fun _ => "", .plain⟩ (Chat.plainEnv 0 "")
    "desktop" 1000
  exact ⟨hround.1 greeting portable_greeting, hround.2.1 answer .mobile portable_answer,
    hround.2.2.1 1 0 ["chat_2"]
      (portableState_singleton (by decide) (by decide) portableId_chat.2.1),
    hround.2.2.2 _ (portableState_singleton (by decide) (by decide) portableId_chat.2.2)⟩

end OpenClaw.Wire
