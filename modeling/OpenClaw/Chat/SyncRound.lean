import OpenClaw.Chat.Transport
import OpenClaw.Lib.CatchUp

/-!
# One round of synchronizing the chat

The mobile reports its cursors.  The desktop sends the host's messages above one of
them, and if the other one is above its own cursor of the mobile it answers with that;
the mobile then sends its own messages above it.

Each direction is a receiver that catches up by a cursor (`CatchUp.Receives`), so after
a round without loss both have everything of the other (`syncRound_completes`), except
for what the receiver takes for blank.
-/

namespace OpenClaw.Chat

open OpenClaw.Runtime OpenClaw.Desktop OpenClaw.Mobile ContiguousPrefix Steps CatchUp

/-! ## From the desktop to the mobile -/

/-- What `build_openclaw_chat_payload` writes; either transport carries it as it is. -/
structure HostEnvelope where
  id : String
  after : List String
  text : String
  origin : String
  originSeq : ℕ
  ts : ℕ

def buildOpenclawChatPayload (message : PairBackendMessage) : HostEnvelope :=
  ⟨message.id, message.after, message.text, message.origin, message.originSeq, message.ts⟩

/-- A whole number of the desktop, as the mobile reads it. -/
def readNumber (n : ℕ) : JsNumber := .finite (JsNumber.nearest n)

/-- `parseOpenClawPairChatMessage`, and what `onChatMessage` hands on. -/
def parseOpenClawPairChatMessage (env : Mobile.Env) (chat : HostEnvelope) : RemoteMessage where
  id := if jsTrim chat.id = "" then "chat_" ++ env.random else jsTrim chat.id
  sender := .host
  text := chat.text
  ts := timeOr env (readNumber chat.ts)
  origin := some (if chat.origin = "mobile" then .mobile else .host)
  originSeq := .ofCount (readNumber chat.originSeq).count
  after := normalizeAfterIds chat.after

/-- A chat message in `relay.app`; a blank one is dropped. -/
def parseRelayChat (env : Mobile.Env) (chat : HostEnvelope) : Option RemoteMessage :=
  if jsTrim chat.text = "" then none
  else
    some
      { id := jsTrim chat.id
        sender := .host
        text := jsTrim chat.text
        ts := timeOr env (readNumber chat.ts)
        origin := some (if chat.origin = "mobile" then .mobile else .host)
        originSeq := .ofCount (readNumber chat.originSeq).count
        after := chat.after }

/-- How a message travels, and what its receiver reads from its machine. -/
structure Way where
  transport : Transport
  phone : Mobile.Env
  phoneChoices : Mobile.Choices
  desktop : Desktop.Env

def parseHostChat (way : Way) (chat : HostEnvelope) : Option RemoteMessage :=
  match way.transport with
  | .p2p _ => some (parseOpenClawPairChatMessage way.phone chat)
  | .relay => parseRelayChat way.phone chat

/-- The mobile gets a message of the host. -/
def receiveHost (way : PairBackendMessage → Way) (messages : List ChatMessage)
    (message : PairBackendMessage) : List ChatMessage :=
  match parseHostChat (way message) (buildOpenclawChatPayload message) with
  | none => messages
  | some remote =>
      (upsertRemoteChatMessage (way message).phoneChoices (way message).phone messages
        remote).toOption.getD messages

/-! ## From the mobile to the desktop -/

/-- What the mobile sends of an own message. -/
def ownEnvelope (way : Way) (message : ChatMessage) : ChatEnvelope :=
  buildChat way.phone (outgoingOf way.phone message) .mobile

/-- The desktop gets an own message of the mobile. -/
def receiveOwn (way : ChatMessage → Way) (channel : PairBackendChannel)
    (message : ChatMessage) : PairBackendChannel :=
  match parseOpenclawChatPayload (way message).desktop
      (wire (ownEnvelope (way message) message) (way message).transport) with
  | none => channel
  | some chat => (appendMessage (way message).desktop.choices channel (fromMobile chat)).1

/-! ## The round -/

/-- `parse_openclaw_sync_state` of one cursor. -/
def parseSyncSeq (seq : ℕ) : ℕ := (asU64 (stringifyNumber (.finite seq))).getD 0

def isHostMessage (message : PairBackendMessage) : Bool :=
  normalizeChatMessageKind message.kind ≠ "system" ∧ unicodeTrim message.origin = "host"

def hostMessages (messages : List PairBackendMessage) : List PairBackendMessage :=
  messages.filter isHostMessage

def ownMessages (messages : List ChatMessage) : List ChatMessage := messages.filter isOwnChat

/-- `missing_host_messages` -/
def missingHostMessages (messages : List PairBackendMessage) (hostSeq : ℕ) :
    List PairBackendMessage :=
  (hostMessages messages).filter fun message => decide (hostSeq < message.originSeq)

/-- The cursor of the answer, if there is one. -/
def syncStateEcho (messages : List PairBackendMessage) (mobileSeq : ℕ) : Option ℕ :=
  let localMobileSeq := collectChannelOriginCursor messages "mobile"
  if localMobileSeq < mobileSeq then some localMobileSeq else none

/-- The messages of the mobile when the host's have arrived. -/
def received (choices : Mobile.Choices) (toMobile : PairBackendMessage → Way)
    (messages : List ChatMessage) (channel : PairBackendChannel) : List ChatMessage :=
  run (receiveHost toMobile) messages (missingHostMessages channel.messages
    (parseSyncSeq (describeSessionChatState choices messages).hostSeq))

/-- The channel after the mobile has answered to the desktop's cursor, if it got one. -/
def answered (toDesktop : ChatMessage → Way) (messages : List ChatMessage)
    (channel : PairBackendChannel) : Option ℕ → PairBackendChannel
  | none => channel
  | some mobileSeq =>
      run (receiveOwn toDesktop) channel
        (missingMobileMessages messages (readNumber mobileSeq).count)

/-- One round without loss, begun by the mobile. -/
def syncRound (choices : Mobile.Choices) (toMobile : PairBackendMessage → Way)
    (toDesktop : ChatMessage → Way) (messages : List ChatMessage)
    (channel : PairBackendChannel) : List ChatMessage × PairBackendChannel :=
  let after := received choices toMobile messages channel
  (after, answered toDesktop after channel (syncStateEcho channel.messages
    (parseSyncSeq (describeSessionChatState choices messages).mobileSeq)))

/-! ## Copies -/

/-- The mobile's copy of a message of the host. -/
structure HostCopy (message : PairBackendMessage) (copy : ChatMessage) : Prop where
  kind : copy.kind ≠ .system
  id : jsTrim copy.id = message.id
  origin : normalizeOrigin copy = .host
  originSeq : normalizeOriginSeq copy = JsNumber.nearest message.originSeq
  text : jsTrim copy.text = jsTrim message.text

/-- The desktop's copy of an own message of the mobile. -/
structure OwnCopy (message : ChatMessage) (copy : PairBackendMessage) : Prop where
  graph : isGraphChatMessage copy = true
  id : copy.id = jsTrim message.id
  origin : unicodeTrim copy.origin = "mobile"
  originSeq : (copy.originSeq : ℕ∞) = normalizeOriginSeq message
  text : copy.text = message.text

theorem hostCopy_iff {message : PairBackendMessage} {copy : ChatMessage} :
    HostCopy message copy ↔ copy.kind ≠ .system ∧ jsTrim copy.id = message.id ∧
      normalizeOrigin copy = .host ∧ normalizeOriginSeq copy = JsNumber.nearest message.originSeq ∧
        jsTrim copy.text = jsTrim message.text :=
  ⟨fun h => ⟨h.1, h.2, h.3, h.4, h.5⟩, fun ⟨h1, h2, h3, h4, h5⟩ => ⟨h1, h2, h3, h4, h5⟩⟩

instance (message : PairBackendMessage) (copy : ChatMessage) : Decidable (HostCopy message copy) :=
  decidable_of_iff _ hostCopy_iff.symm

theorem ownCopy_iff {message : ChatMessage} {copy : PairBackendMessage} :
    OwnCopy message copy ↔ isGraphChatMessage copy = true ∧ copy.id = jsTrim message.id ∧
      unicodeTrim copy.origin = "mobile" ∧
        (copy.originSeq : ℕ∞) = normalizeOriginSeq message ∧ copy.text = message.text :=
  ⟨fun h => ⟨h.1, h.2, h.3, h.4, h.5⟩, fun ⟨h1, h2, h3, h4, h5⟩ => ⟨h1, h2, h3, h4, h5⟩⟩

instance (message : ChatMessage) (copy : PairBackendMessage) : Decidable (OwnCopy message copy) :=
  decidable_of_iff _ ownCopy_iff.symm

/-- The logs before the round.  Ids are not blank, read alike on both sides and tell
messages apart; the numbers of the host are distinct, those of the mobile `1, …, n`; and
what carries a number of the other side is a copy of one of its messages. -/
structure Genuine (log : SessionLog) (channel : PairBackendChannel) (n : ℕ) : Prop where
  hostIds : ((hostMessages channel.messages).map PairBackendMessage.id).Nodup
  hostReadable : ∀ message ∈ hostMessages channel.messages,
    message.id ≠ "" ∧ jsTrim message.id = message.id
  hostNumbers : ((hostMessages channel.messages).map PairBackendMessage.originSeq).Nodup
  hostPositive : ∀ message ∈ hostMessages channel.messages, 1 ≤ message.originSeq
  ownReadable : ∀ message ∈ ownMessages log.messages,
    jsTrim message.id ≠ "" ∧ unicodeTrim (jsTrim message.id) = jsTrim message.id
  ownOrigin : ∀ message ∈ ownMessages log.messages, normalizeOrigin message = .mobile
  ownNumbers : ((ownMessages log.messages).map normalizeOriginSeq).Perm
    ((List.range' 1 n).map Nat.cast)
  apart : ∀ own ∈ ownMessages log.messages, ∀ host ∈ hostMessages channel.messages,
    jsTrim own.id ≠ host.id
  hostCopies : ∀ copy ∈ log.messages, ∀ k, 1 ≤ k → Mobile.Carries .host k copy →
    ∃ message ∈ hostMessages channel.messages, HostCopy message copy
  ownCopies : ∀ copy ∈ channel.messages, ∀ k, 1 ≤ k → Desktop.Carries "mobile" k copy →
    ∃ message ∈ ownMessages log.messages, OwnCopy message copy

/-- What either side does not have yet still fits into its log. -/
structure Fits (log : SessionLog) (channel : PairBackendChannel) : Prop where
  mobile : log.messages.length + ((hostMessages channel.messages).filter fun message =>
    decide (message.id ∉ chatIds log.messages)).length ≤ maxSessionMessages
  desktop : channel.messages.length + ((ownMessages log.messages).filter fun message =>
    decide (jsTrim message.id ∉ channel.messages.map PairBackendMessage.id)).length ≤
      pairChannelMessageLimit

/-! ## The mobile takes in messages of the host -/

section Mobile

variable {message other : PairBackendMessage} {copy incoming : ChatMessage}
  {messages : List ChatMessage} {toMobile : PairBackendMessage → Way}

theorem count_readNumber (n : ℕ) : (readNumber n).count = JsNumber.nearest n :=
  JsNumber.count_ofCount (JsNumber.nearest n)

theorem timeOr_timeOr (env : Mobile.Env) (ts : JsNumber) :
    timeOr env (timeOr env ts) = timeOr env ts := by
  unfold timeOr JsNumber.orElse
  by_cases hts : ts = .nan ∨ ts = 0
  · rw [if_pos hts, ite_self]
  · rw [if_neg hts, if_neg hts]

theorem HostCopy.normalize (hcopy : HostCopy message copy) :
    HostCopy message (normalizeChatMessage copy) where
  kind := hcopy.kind
  id := (jsTrim_jsTrim copy.id).trans hcopy.id
  origin := (normalizeOrigin_normalize hcopy.kind).trans hcopy.origin
  originSeq := (normalizeOriginSeq_normalize hcopy.kind).trans hcopy.originSeq
  text := hcopy.text

theorem HostCopy.finish (hcopy : HostCopy message copy) (missingIds : List String) :
    HostCopy message (finishMessage missingIds copy) :=
  ⟨hcopy.kind, hcopy.id, hcopy.origin, hcopy.originSeq, hcopy.text⟩

/-- What the mobile reads of a host message. -/
structure ReadAs (env : Mobile.Env) (message : PairBackendMessage) (remote : RemoteMessage) :
    Prop where
  id : remote.id = message.id
  sender : remote.sender = .host
  text : jsTrim remote.text = jsTrim message.text
  ts : remote.ts = timeOr env (readNumber message.ts)
  origin : remote.origin = some .host
  originSeq : remote.originSeq.count = JsNumber.nearest message.originSeq

/-- A message of the host is read, unless it is blank. -/
theorem parseHostChat_cases (way : Way) (hhost : isHostMessage message = true)
    (hreadable : message.id ≠ "" ∧ jsTrim message.id = message.id) :
    jsTrim message.text = "" ∧ parseHostChat way (buildOpenclawChatPayload message) = none ∨
      ∃ remote, parseHostChat way (buildOpenclawChatPayload message) = some remote ∧
        ReadAs way.phone message remote := by
  obtain ⟨hne, htrim⟩ := hreadable
  have horigin : message.origin ≠ "mobile" := by
    intro heq
    have hnot : unicodeTrim "mobile" ≠ "host" := by decide
    exact hnot (heq ▸ (of_decide_eq_true hhost).2)
  have hcount : (JsNumber.ofCount (readNumber message.originSeq).count).count =
      JsNumber.nearest message.originSeq := by
    rw [JsNumber.count_ofCount, count_readNumber]
  unfold parseHostChat buildOpenclawChatPayload
  cases way.transport with
  | p2p sentAt =>
      refine Or.inr ⟨_, rfl, ?_, rfl, rfl, rfl, ?_, hcount⟩
      · rw [parseOpenClawPairChatMessage, htrim, if_neg hne]
      · rw [parseOpenClawPairChatMessage, if_neg horigin]
  | relay =>
      dsimp only
      rw [parseRelayChat]
      dsimp only
      by_cases hblank : jsTrim message.text = ""
      · exact Or.inl ⟨hblank, if_pos hblank⟩
      · refine Or.inr ⟨_, if_neg hblank, htrim, rfl, jsTrim_jsTrim _, rfl, ?_, hcount⟩
        rw [if_neg horigin]

theorem ReadAs.hostCopy {env : Mobile.Env} {remote : RemoteMessage}
    (hread : ReadAs env message remote) (htrim : jsTrim message.id = message.id) :
    HostCopy message (remoteMessage env remote) where
  kind := show ChatKind.chat ≠ .system by decide
  id := by rw [remoteMessage, hread.id, jsTrim_jsTrim, htrim]
  origin := by
    rw [normalizeOrigin, remoteMessage, hread.origin]
    rfl
  originSeq := by rw [normalizeOriginSeq, remoteMessage, JsNumber.count_ofCount, hread.originSeq]
  text := by rw [remoteMessage, hread.text]

/-- What is stored of a host message. -/
theorem receiveHost_cases (hhost : isHostMessage message = true)
    (hreadable : message.id ≠ "" ∧ jsTrim message.id = message.id)
    (htime : validTime (timeOr (toMobile message).phone (readNumber message.ts)) = true) :
    jsTrim message.text = "" ∧ receiveHost toMobile messages message = messages ∨
      ∃ incoming, HostCopy message incoming ∧ incoming.sender = .host ∧
        receiveHost toMobile messages message =
          upsertAndCut (toMobile message).phoneChoices messages incoming := by
  unfold receiveHost
  rcases parseHostChat_cases (toMobile message) hhost hreadable with ⟨hblank, hnone⟩ |
    ⟨remote, hsome, hread⟩
  · exact Or.inl ⟨hblank, by rw [hnone]⟩
  · refine Or.inr ⟨_, hread.hostCopy hreadable.2, hread.sender, ?_⟩
    rw [hsome]
    dsimp only
    rw [upsertRemoteChatMessage_eq, hread.id, hread.ts, timeOr_timeOr, hreadable.2,
      if_pos ⟨hreadable.1, htime⟩]

/-! ### The own messages stay -/

/-- The fields of an own message that the desktop has too. -/
structure OwnFields where
  id : String
  text : String
  origin : Origin
  originSeq : ℕ∞

def ownFields (message : ChatMessage) : OwnFields :=
  ⟨jsTrim message.id, message.text, normalizeOrigin message, normalizeOriginSeq message⟩

def ownFieldsOf (messages : List ChatMessage) : List OwnFields :=
  (ownMessages messages).map ownFields

theorem isOwnChat_iff {message : ChatMessage} :
    isOwnChat message = true ↔ message.kind ≠ .system ∧ message.sender = .self :=
  decide_eq_true_iff

theorem ownFieldsOf_append (left right : List ChatMessage) :
    ownFieldsOf (left ++ right) = ownFieldsOf left ++ ownFieldsOf right := by
  rw [ownFieldsOf, ownMessages, List.filter_append, List.map_append]
  rfl

theorem ownFieldsOf_eq_nil (hnone : ∀ message ∈ messages, ¬isOwnChat message = true) :
    ownFieldsOf messages = [] := by
  rw [ownFieldsOf, ownMessages, List.filter_eq_nil_iff.mpr hnone, List.map_nil]

theorem ownFieldsOf_map {change : ChatMessage → ChatMessage}
    (hown : ∀ message, isOwnChat (change message) = isOwnChat message)
    (hfields : ∀ message, isOwnChat message = true →
      ownFields (change message) = ownFields message) :
    ownFieldsOf (messages.map change) = ownFieldsOf messages := by
  have hsame : isOwnChat ∘ change = isOwnChat := funext hown
  rw [ownFieldsOf, ownMessages, List.filter_map, hsame, List.map_map, ownFieldsOf, ownMessages]
  exact List.map_congr_left fun message hmem => hfields message (List.mem_filter.mp hmem).2

theorem ownFieldsOf_filter {keep : ChatMessage → Bool}
    (hkeep : ∀ message ∈ messages, isOwnChat message = true → keep message = true) :
    ownFieldsOf (messages.filter keep) = ownFieldsOf messages := by
  rw [ownFieldsOf, ownMessages, List.filter_filter, ownFieldsOf, ownMessages]
  refine congrArg _ (List.filter_congr fun message hmem => ?_)
  cases hown : isOwnChat message with
  | false => rfl
  | true => rw [hkeep message hmem hown, Bool.and_self]

theorem ownFieldsOf_perm {messages' : List ChatMessage} (hperm : messages.Perm messages') :
    (ownFieldsOf messages).Perm (ownFieldsOf messages') := (hperm.filter _).map _

theorem isOwnChat_normalize (message : ChatMessage) :
    isOwnChat (normalizeChatMessage message) = isOwnChat message := by
  rw [isOwnChat, isOwnChat, decide_eq_decide]
  exact Iff.rfl

theorem isOwnChat_finish {missingIds : List String} (message : ChatMessage) :
    isOwnChat (finishMessage missingIds message) = isOwnChat message := by
  rw [isOwnChat, isOwnChat, decide_eq_decide]
  exact Iff.rfl

theorem ownFields_finish {missingIds : List String} :
    ownFields (finishMessage missingIds copy) = ownFields copy := by
  rw [ownFields, normalizeOrigin, normalizeOriginSeq, finishMessage, ownFields, normalizeOrigin,
    normalizeOriginSeq]

theorem ownFields_normalize (hown : isOwnChat copy = true) :
    ownFields (normalizeChatMessage copy) = ownFields copy := by
  obtain ⟨hkind, -⟩ := isOwnChat_iff.mp hown
  rw [ownFields, id_normalize, jsTrim_jsTrim, normalizeOrigin_normalize hkind,
    normalizeOriginSeq_normalize hkind, normalizeChatMessage, ownFields]

/-- Reconciling keeps the own messages that have ids. -/
theorem ownFieldsOf_reconcile (choices : Mobile.Choices) (hnodup : (chatIds messages).Nodup)
    (hids : ∀ own ∈ ownMessages messages, jsTrim own.id ≠ "") :
    (ownFieldsOf (reconcileSessionMessages choices messages).messages).Perm
      (ownFieldsOf messages) := by
  have hsystem : ownFieldsOf (messagesOfKind .system messages).values = [] := by
    refine ownFieldsOf_eq_nil fun message hmem hown => ?_
    exact (isOwnChat_iff.mp hown).1 (kind_messagesOfKind hmem)
  have hfinished : ownFieldsOf (finishedMessages choices messages) = ownFieldsOf messages := by
    calc ownFieldsOf (finishedMessages choices messages)
        = ownFieldsOf (extractChatMessages messages) :=
          ownFieldsOf_map isOwnChat_finish fun _ _ => ownFields_finish
      _ = ownFieldsOf (messages.map normalizeChatMessage) := by
          refine ownFieldsOf_filter fun message hmem hown => ?_
          obtain ⟨old, hold, rfl⟩ := List.mem_map.mp hmem
          rw [isOwnChat_normalize] at hown
          exact decide_eq_true
            ⟨(isOwnChat_iff.mp hown).1, hids old (List.mem_filter.mpr ⟨hold, hown⟩)⟩
      _ = ownFieldsOf messages :=
          ownFieldsOf_map isOwnChat_normalize fun _ => ownFields_normalize
  refine (ownFieldsOf_perm (reconcile_perm choices hnodup)).trans (List.Perm.of_eq ?_)
  rw [ownFieldsOf_append, hsystem, hfinished, List.nil_append]

/-! ### Receiving -/

/-- The mobile as it receives: nothing is cut, and the own messages are those of the
log. -/
structure MobileReady (log : SessionLog) (keys : Finset (ChatKind × String))
    (messages : List ChatMessage) : Prop where
  nodup : (chatIds messages).Nodup
  keys : ∀ message ∈ messages, messageKey message ∈ keys
  own : (ownFieldsOf messages).Perm (ownFieldsOf log.messages)

variable {log : SessionLog} {channel : PairBackendChannel} {n : ℕ}
  {keys : Finset (ChatKind × String)}

/-- Every own message has a counterpart of the log. -/
theorem MobileReady.exists_own (hready : MobileReady log keys messages) {own : ChatMessage}
    (hown : own ∈ ownMessages messages) :
    ∃ old ∈ ownMessages log.messages, ownFields old = ownFields own :=
  List.mem_map.mp (hready.own.mem_iff.mp (List.mem_map_of_mem hown))

theorem HostCopy.key (hcopy : HostCopy message copy) : messageKey copy = (.chat, message.id) := by
  rw [messageKey, hcopy.id]
  cases hkind : copy.kind with
  | chat => rfl
  | system => exact absurd hkind hcopy.kind

/-- What is left of the messages when a host message comes in. -/
theorem upsert_ready (hready : MobileReady log keys messages)
    (hcard : keys.card ≤ maxSessionMessages) (hcopy : HostCopy message incoming)
    (hkey : (.chat, message.id) ∈ keys) (choices : Mobile.Choices) :
    upsertAndCut choices messages incoming = (reconcileSessionMessages choices
      (replaceMessage messages (normalizeChatMessage incoming))).messages := by
  rw [upsertAndCut, session_upsertSessionMessage]
  refine sliceNewest_reconcile choices (fun item hitem => ?_) hcard
  rcases List.mem_append.mp hitem with hold | hnew
  · exact hready.keys item (List.mem_of_mem_filter hold)
  · rw [List.mem_singleton.mp hnew, hcopy.normalize.key]
    exact hkey

theorem MobileReady.upsert (hready : MobileReady log keys messages)
    (hgenuine : Genuine log channel n) (hcard : keys.card ≤ maxSessionMessages)
    (hcopy : HostCopy message incoming) (hsender : incoming.sender = .host)
    (hhost : message ∈ hostMessages channel.messages) (hkey : (.chat, message.id) ∈ keys)
    (choices : Mobile.Choices) : MobileReady log keys (upsertAndCut choices messages incoming) := by
  have hreplaced := nodup_replaceMessage hready.nodup incoming
  have hids : ∀ own ∈ ownMessages messages, jsTrim own.id ≠ "" ∧ jsTrim own.id ≠ message.id := by
    intro own hown
    obtain ⟨old, hold, hfields⟩ := hready.exists_own hown
    rw [ownFields, ownFields, OwnFields.mk.injEq] at hfields
    rw [← hfields.1]
    exact ⟨(hgenuine.ownReadable old hold).1, hgenuine.apart old hold message hhost⟩
  have hnot : ¬isOwnChat (normalizeChatMessage incoming) = true := by
    intro hown
    exact Sender.noConfusion (hsender.symm.trans (isOwnChat_iff.mp hown).2)
  have hown : ownFieldsOf (replaceMessage messages (normalizeChatMessage incoming)) =
      ownFieldsOf messages := by
    have hnew : ownFieldsOf [normalizeChatMessage incoming] = [] := by
      refine ownFieldsOf_eq_nil fun item hitem => ?_
      rwa [List.mem_singleton.mp hitem]
    rw [replaceMessage, ownFieldsOf_append, hnew, List.append_nil]
    refine ownFieldsOf_filter fun item hitem hitemOwn => ?_
    rw [decide_eq_true_eq, id_normalize, hcopy.id]
    exact (hids item (List.mem_filter.mpr ⟨hitem, hitemOwn⟩)).2
  rw [upsert_ready hready hcard hcopy hkey]
  refine ⟨(chatIds_reconcile_perm choices hreplaced).nodup_iff.mpr hreplaced, ?_, ?_⟩
  · intro item hitem
    obtain ⟨old, hold, heq⟩ := List.mem_map.mp (mem_keys_of_reconcile hitem)
    rw [← heq]
    rcases List.mem_append.mp hold with hold | hnew
    · exact hready.keys old (List.mem_of_mem_filter hold)
    · rw [List.mem_singleton.mp hnew, hcopy.normalize.key]
      exact hkey
  · refine (ownFieldsOf_reconcile choices hreplaced fun own hmem => ?_).trans (hown ▸ hready.own)
    obtain ⟨hmem, hself⟩ := List.mem_filter.mp hmem
    rcases List.mem_append.mp hmem with hold | hnew
    · exact (hids own (List.mem_filter.mpr ⟨List.mem_of_mem_filter hold, hself⟩)).1
    · exact absurd (List.mem_singleton.mp hnew ▸ hself) hnot

/-- A copy is there after any copy that replaces none or itself. -/
theorem exists_copy_upsert (hready : MobileReady log keys messages)
    (hcard : keys.card ≤ maxSessionMessages) (hincoming : HostCopy message incoming)
    (hkey : (.chat, message.id) ∈ keys) (hcopy : HostCopy other copy) (hne : other.id ≠ "")
    (hmem : copy ∈ replaceMessage messages (normalizeChatMessage incoming))
    (choices : Mobile.Choices) :
    ∃ stored ∈ upsertAndCut choices messages incoming, HostCopy other stored := by
  rw [upsert_ready hready hcard hincoming hkey]
  obtain ⟨missingIds, hstored⟩ := exists_finished choices
    (nodup_replaceMessage hready.nodup incoming) hmem hcopy.kind (hcopy.id ▸ hne)
  exact ⟨_, hstored, hcopy.normalize.finish missingIds⟩

/-- **The mobile catches up.** -/
theorem receives_host (hgenuine : Genuine log channel n)
    (hcard : keys.card ≤ maxSessionMessages)
    (hkeys : ∀ message ∈ hostMessages channel.messages, (.chat, message.id) ∈ keys)
    (htimes : ∀ message ∈ hostMessages channel.messages,
      validTime (timeOr (toMobile message).phone (readNumber message.ts)) = true) :
    Receives (receiveHost toMobile) (hostMessages channel.messages) (MobileReady log keys)
      (fun message => jsTrim message.text ≠ "")
      fun messages message => ∃ copy ∈ messages, HostCopy message copy where
  ready := by
    intro messages message hready hmem
    rcases receiveHost_cases (List.mem_filter.mp hmem).2 (hgenuine.hostReadable message hmem)
      (htimes message hmem) with ⟨-, hsame⟩ | ⟨incoming, hcopy, hsender, hupsert⟩
    · rwa [hsame]
    · rw [hupsert]
      exact hready.upsert hgenuine hcard hcopy hsender hmem (hkeys message hmem) _
  arrives := by
    intro messages message hready hmem htext
    rcases receiveHost_cases (List.mem_filter.mp hmem).2 (hgenuine.hostReadable message hmem)
      (htimes message hmem) with ⟨hblank, -⟩ | ⟨incoming, hcopy, -, hupsert⟩
    · exact absurd hblank htext
    · rw [hupsert]
      exact exists_copy_upsert hready hcard hcopy (hkeys message hmem) hcopy.normalize
        (hgenuine.hostReadable message hmem).1 List.mem_concat_self _
  keeps := by
    intro messages message other hready hmem hother hne hhas
    rcases receiveHost_cases (List.mem_filter.mp hmem).2 (hgenuine.hostReadable message hmem)
      (htimes message hmem) with ⟨-, hsame⟩ | ⟨incoming, hcopy, -, hupsert⟩
    · rwa [hsame]
    · obtain ⟨copy, hcopyMem, hcopyOther⟩ := hhas
      have hids : other.id ≠ message.id := fun heq =>
        hne (List.inj_on_of_nodup_map hgenuine.hostIds hmem hother heq.symm)
      rw [hupsert]
      refine exists_copy_upsert hready hcard hcopy (hkeys message hmem) hcopyOther
        (hgenuine.hostReadable other hother).1 (List.mem_append_left _ ?_) _
      refine List.mem_filter.mpr ⟨hcopyMem, decide_eq_true ?_⟩
      rw [id_normalize, hcopy.id, hcopyOther.id]
      exact hids

end Mobile

/-! ## The desktop takes in messages of the mobile -/

section Desktop

variable {own other : ChatMessage} {items : List ChatMessage} {ids : Finset String}
  {channel : PairBackendChannel} {copy incoming : PairBackendMessage}
  {messages : List PairBackendMessage} {toDesktop : ChatMessage → Way}

theorem OwnCopy.reconcile (hcopy : OwnCopy own copy) :
    OwnCopy own (reconcileMessage messages copy) := by
  have hgraph : isGraphChatMessage (reconcileMessage messages copy) = true :=
    isGraphChatMessage_reconcileMessage.trans hcopy.graph
  rw [reconcileMessage_of_graph hcopy.graph] at hgraph ⊢
  refine ⟨hgraph, hcopy.id, ?_, hcopy.originSeq, hcopy.text⟩
  dsimp only
  rw [normalizeChatMessageOrigin_of_trim (Or.inr rfl) hcopy.origin]
  decide

theorem OwnCopy.congr (hfields : ownFields own = ownFields other) (hcopy : OwnCopy own copy) :
    OwnCopy other copy := by
  rw [ownFields, ownFields, OwnFields.mk.injEq] at hfields
  obtain ⟨hid, htext, -, hseq⟩ := hfields
  exact ⟨hcopy.graph, hcopy.id.trans hid, hcopy.origin, hcopy.originSeq.trans hseq,
    hcopy.text.trans htext⟩

/-- What the desktop can read of an own message. -/
structure Sendable (own : ChatMessage) : Prop where
  id : jsTrim own.id ≠ ""
  trimmed : unicodeTrim (jsTrim own.id) = jsTrim own.id
  originSeq : ∃ k < 2 ^ 64, normalizeOriginSeq own = (k : ℕ)

/-- An own message is stored, unless it is blank. -/
theorem receiveOwn_cases (hsendable : Sendable own) :
    unicodeTrim own.text = "" ∧ receiveOwn toDesktop channel own = channel ∨
      ∃ incoming, OwnCopy own incoming ∧ incoming.id = jsTrim own.id ∧
        receiveOwn toDesktop channel own =
          (appendMessage (toDesktop own).desktop.choices channel incoming).1 := by
  obtain ⟨k, hk, hseq⟩ := hsendable.originSeq
  generalize hway : toDesktop own = way
  have hid : (ownEnvelope way own).id = jsTrim own.id := by
    rw [ownEnvelope, outgoingOf, buildChat, if_neg hsendable.id]
  have hnumber : (ownEnvelope way own).originSeq = k := by
    rw [ownEnvelope, outgoingOf, buildChat, JsNumber.count_ofCount]
    exact hseq
  unfold receiveOwn
  rw [hway, parse_wire]
  by_cases hblank : unicodeTrim own.text = ""
  · have htext : unicodeTrim (ownEnvelope way own).text = "" := hblank
    rw [if_pos htext]
    exact Or.inl ⟨hblank, rfl⟩
  · have htext : ¬unicodeTrim (ownEnvelope way own).text = "" := hblank
    rw [if_neg htext]
    refine Or.inr ⟨_, ?_, ?_, rfl⟩
    · have hkind : normalizeChatMessageKind "chat" ≠ "system" := by decide
      refine ⟨?_, ?_, ?_, ?_, rfl⟩
      · rw [isGraphChatMessage, decide_eq_true_eq, fromMobile, readChat, hid, hsendable.trimmed,
          if_neg hsendable.id, hsendable.trimmed]
        exact ⟨hkind, hsendable.id⟩
      · rw [fromMobile, readChat, hid, hsendable.trimmed, if_neg hsendable.id]
      · have horigin : unicodeTrim (normalizeChatMessageOrigin (originName .mobile) "mobile") =
            "mobile" := by decide
        rw [fromMobile]
        dsimp only
        rw [readChat]
        exact horigin
      · rw [fromMobile, readChat, hnumber, JsNumber.ofCount_natCast, asU64_natCast, if_pos hk,
          Option.getD_some, hseq]
    · rw [fromMobile, readChat, hid, hsendable.trimmed, if_neg hsendable.id]

/-- The desktop as it receives: the ids it does not have yet still fit. -/
def DesktopReady (ids : Finset String) (channel : PairBackendChannel) : Prop :=
  channel.messages.length +
    (ids \ (channel.messages.map PairBackendMessage.id).toFinset).card ≤ pairChannelMessageLimit

theorem DesktopReady.room (hready : DesktopReady ids channel) (hid : incoming.id ∈ ids)
    (hnew : incoming.id ∉ channel.messages.map PairBackendMessage.id) :
    channel.messages.length + 1 ≤ pairChannelMessageLimit := by
  have hpos : 0 < (ids \ (channel.messages.map PairBackendMessage.id).toFinset).card :=
    Finset.card_pos.mpr ⟨_, Finset.mem_sdiff.mpr ⟨hid, fun h => hnew (List.mem_toFinset.mp h)⟩⟩
  unfold DesktopReady at hready
  omega

theorem DesktopReady.append (hready : DesktopReady ids channel) (hid : incoming.id ∈ ids)
    (hne : unicodeTrim incoming.id ≠ "") (choices : Desktop.Choices) :
    DesktopReady ids (appendMessage choices channel incoming).1 := by
  by_cases hknown : incoming.id ∈ channel.messages.map PairBackendMessage.id
  · have hsame : ((appendMessage choices channel incoming).1.messages.map
        PairBackendMessage.id).toFinset =
          (channel.messages.map PairBackendMessage.id).toFinset := by
      ext id
      rw [List.mem_toFinset, List.mem_toFinset]
      exact ids_appendMessage_of_old ⟨hne, hknown⟩
    have hlength : (appendMessage choices channel incoming).1.messages.length =
        channel.messages.length := by
      have hold : Known channel.messages (normalizeIncoming incoming).id :=
        (id_normalizeIncoming incoming).symm ▸ ⟨hne, hknown⟩
      rw [appendMessage, length_reconcile, insertMessage_of_old hold,
        FirstMatch.length_updateFirst]
    unfold DesktopReady
    rw [hsame, hlength]
    exact hready
  · have hroom := hready.room hid hknown
    have hnew : ¬Known channel.messages (normalizeIncoming incoming).id :=
      (id_normalizeIncoming incoming).symm ▸ fun h => hknown h.2
    have hfits : truncate (channel.messages ++ [normalizeIncoming incoming]) =
        channel.messages ++ [normalizeIncoming incoming] := by
      refine truncate_of_le ?_
      rwa [List.length_append, List.length_singleton]
    have hlength : (appendMessage choices channel incoming).1.messages.length =
        channel.messages.length + 1 := by
      rw [appendMessage, length_reconcile, insertMessage_of_new hnew, hfits, List.length_append,
        List.length_singleton]
    have hids : ∀ id, id ∈ (appendMessage choices channel incoming).1.messages.map
        PairBackendMessage.id ↔
          id ∈ channel.messages.map PairBackendMessage.id ∨ id = incoming.id := by
      intro id
      unfold appendMessage
      rw [mem_ids_reconcile, insertMessage_of_new hnew, hfits, List.map_append, List.mem_append,
        List.map_singleton, List.mem_singleton, id_normalizeIncoming]
    have hset : ids \ ((appendMessage choices channel incoming).1.messages.map
        PairBackendMessage.id).toFinset =
          (ids \ (channel.messages.map PairBackendMessage.id).toFinset).erase incoming.id := by
      ext id
      rw [Finset.mem_sdiff, List.mem_toFinset, hids, Finset.mem_erase, Finset.mem_sdiff,
        List.mem_toFinset]
      constructor
      · rintro ⟨hmem, hnot⟩
        exact ⟨fun hsame => hnot (Or.inr hsame), hmem, fun hold => hnot (Or.inl hold)⟩
      · rintro ⟨hdiffers, hmem, hnot⟩
        exact ⟨hmem, fun hafter => hafter.elim hnot hdiffers⟩
    have hmissing : incoming.id ∈ ids \ (channel.messages.map PairBackendMessage.id).toFinset :=
      Finset.mem_sdiff.mpr ⟨hid, fun h => hknown (List.mem_toFinset.mp h)⟩
    have hcard := Finset.card_erase_add_one hmissing
    unfold DesktopReady at hready ⊢
    rw [hset, hlength]
    omega

/-- A copy is there after an own message came in, unless it was overwritten. -/
theorem exists_copy_append (hready : DesktopReady ids channel) (hid : incoming.id ∈ ids)
    (hne : unicodeTrim incoming.id ≠ "") (hmem : copy ∈ channel.messages)
    (hcopy : OwnCopy own copy) (hother : copy.id ≠ incoming.id) (choices : Desktop.Choices) :
    ∃ stored ∈ (appendMessage choices channel incoming).1.messages, OwnCopy own stored := by
  refine ⟨_, mem_appendMessage_iff.mpr ⟨copy, ?_, rfl⟩, hcopy.reconcile⟩
  refine (mem_gone_or_kept hmem incoming).resolve_left fun hgone => ?_
  rw [channelGone] at hgone
  split at hgone
  · next found hfind =>
    rw [List.mem_singleton.mp hgone] at hother
    exact hother (sameId_iff.mp (List.find?_some hfind)).2
  · next hnone =>
    have hnew : incoming.id ∉ channel.messages.map PairBackendMessage.id := fun hknown =>
      find?_sameId_eq_none_iff.mp hnone ⟨hne, hknown⟩
    have hroom := hready.room hid hnew
    rw [show channel.messages.length + 1 - pairChannelMessageLimit = 0 by omega,
      List.take_zero] at hgone
    cases hgone

/-- **The desktop catches up.** -/
theorem receives_own (hsendable : ∀ own ∈ items, Sendable own)
    (hids : ∀ own ∈ items, jsTrim own.id ∈ ids)
    (hdistinct : (items.map fun own => jsTrim own.id).Nodup) :
    Receives (receiveOwn toDesktop) items (DesktopReady ids)
      (fun own => unicodeTrim own.text ≠ "")
      fun channel own => ∃ copy ∈ channel.messages, OwnCopy own copy where
  ready := by
    intro channel own hready hmem
    rcases receiveOwn_cases (hsendable own hmem) with ⟨-, hsame⟩ | ⟨incoming, -, hid, happend⟩
    · rwa [hsame]
    · rw [happend]
      have htrim := (hsendable own hmem).trimmed.trans_ne (hsendable own hmem).id
      exact hready.append (hid ▸ hids own hmem) (hid ▸ htrim) _
  arrives := by
    intro channel own hready hmem htext
    rcases receiveOwn_cases (hsendable own hmem) with ⟨hblank, -⟩ | ⟨incoming, hcopy, -, happend⟩
    · exact absurd hblank htext
    · rw [happend]
      exact ⟨_, mem_appendMessage_iff.mpr ⟨incoming, self_mem_channelKept, rfl⟩, hcopy.reconcile⟩
  keeps := by
    intro channel own other hready hmem hother hne hhas
    rcases receiveOwn_cases (hsendable own hmem) with ⟨-, hsame⟩ | ⟨incoming, -, hid, happend⟩
    · rwa [hsame]
    · obtain ⟨copy, hcopyMem, hcopy⟩ := hhas
      have htrim := (hsendable own hmem).trimmed.trans_ne (hsendable own hmem).id
      have hapart : copy.id ≠ incoming.id := by
        rw [hcopy.id, hid]
        intro heq
        exact hne (List.inj_on_of_nodup_map hdistinct hmem hother heq.symm)
      rw [happend]
      exact exists_copy_append hready (hid ▸ hids own hmem) (hid ▸ htrim) hcopyMem hcopy hapart _

end Desktop

/-! ## The whole round -/

variable {log : SessionLog} {channel : PairBackendChannel} {n : ℕ} {choices : Mobile.Choices}
  {toMobile : PairBackendMessage → Way} {toDesktop : ChatMessage → Way}
  {messages : List ChatMessage}

theorem parseSyncSeq_of_lt {seq : ℕ} (hlt : seq < 2 ^ 64) : parseSyncSeq seq = seq := by
  rw [parseSyncSeq, asU64_natCast, if_pos hlt, Option.getD_some]

/-- The cursors of a mobile are at most the number of its messages. -/
theorem contiguousSeq_le (messages : List ChatMessage) (origin : Origin) :
    contiguousSeq (extractChatMessages messages) origin ≤ messages.length :=
  isCursor_contiguousSeq.le_length normalizeOriginSeq fun _ hseen => by
    obtain ⟨message, hmem, -, -, -, hseq⟩ := hseen
    exact ⟨message, hmem, hseq⟩

/-- The keys of the session when it has the host's messages too. -/
def keysAfter (log : SessionLog) (channel : PairBackendChannel) : Finset (ChatKind × String) :=
  (log.messages.map messageKey ++ ((hostMessages channel.messages).filter fun message =>
    decide (message.id ∉ chatIds log.messages)).map fun message =>
      (ChatKind.chat, message.id)).toFinset

theorem card_keysAfter (hfits : Fits log channel) :
    (keysAfter log channel).card ≤ maxSessionMessages := by
  refine (List.toFinset_card_le _).trans ?_
  rw [List.length_append, List.length_map, List.length_map]
  exact hfits.mobile

theorem mem_keysAfter {message : PairBackendMessage}
    (hhost : message ∈ hostMessages channel.messages) :
    (.chat, message.id) ∈ keysAfter log channel := by
  refine List.mem_toFinset.mpr (List.mem_append.mpr ?_)
  by_cases hold : message.id ∈ chatIds log.messages
  · obtain ⟨old, hmem, hkind, -, hid⟩ := mem_chatIds.mp hold
    refine Or.inl (List.mem_map.mpr ⟨old, hmem, ?_⟩)
    rw [messageKey, hid]
    cases hold : old.kind with
    | chat => rfl
    | system => exact absurd hold hkind
  · exact Or.inr (List.mem_map_of_mem (List.mem_filter.mpr ⟨hhost, decide_eq_true hold⟩))

theorem mobileReady_log (log : SessionLog) (channel : PairBackendChannel) :
    MobileReady log (keysAfter log channel) log.messages :=
  ⟨log.nodup, fun _ hmem => List.mem_toFinset.mpr
    (List.mem_append_left _ (List.mem_map_of_mem hmem)), List.Perm.refl _⟩

theorem missingHostMessages_subset (messages : List PairBackendMessage) (hostSeq : ℕ) :
    missingHostMessages messages hostSeq ⊆ hostMessages messages := List.filter_subset_self _

theorem mobileReady_received (hgenuine : Genuine log channel n) (hfits : Fits log channel)
    (htimes : ∀ message ∈ hostMessages channel.messages,
      validTime (timeOr (toMobile message).phone (readNumber message.ts)) = true) :
    MobileReady log (keysAfter log channel) (received choices toMobile log.messages channel) :=
  (receives_host hgenuine (card_keysAfter hfits) (fun _ => mem_keysAfter) htimes).ready_run
    (missingHostMessages_subset _ _) (mobileReady_log log channel)

theorem exists_copy_received (hgenuine : Genuine log channel n) (hfits : Fits log channel)
    (htimes : ∀ message ∈ hostMessages channel.messages,
      validTime (timeOr (toMobile message).phone (readNumber message.ts)) = true)
    {message : PairBackendMessage} (hhost : message ∈ hostMessages channel.messages)
    (htext : jsTrim message.text ≠ "") :
    ∃ copy ∈ received choices toMobile log.messages channel, HostCopy message copy := by
  have hreceives := receives_host hgenuine (card_keysAfter hfits) (fun _ => mem_keysAfter) htimes
  have hlength : (describeSessionChatState choices log.messages).hostSeq ≤ 1000 :=
    (contiguousSeq_le log.messages .host).trans (le_trans (Nat.le_add_right _ _) hfits.mobile)
  have hparse : parseSyncSeq (describeSessionChatState choices log.messages).hostSeq =
      (describeSessionChatState choices log.messages).hostSeq :=
    parseSyncSeq_of_lt (by omega)
  have hcursor : IsCursor (describeSessionChatState choices log.messages).hostSeq fun k =>
      ∃ copy ∈ log.messages, Mobile.Carries .host k copy := isCursor_contiguousSeq
  refine hreceives.catch_up (missingHostMessages_subset _ _) (mobileReady_log log channel)
    hgenuine.hostPositive hgenuine.hostNumbers hcursor ?_ ?_ hhost htext
  · intro k hpos hk hseen
    obtain ⟨copy, hmem, hcarries⟩ := hseen
    obtain ⟨host, hhost, hcopy⟩ := hgenuine.hostCopies copy hmem k hpos hcarries
    have hnearest : JsNumber.nearest host.originSeq = k := by
      have hseq := hcopy.originSeq.symm.trans hcarries.2.2.2
      exact_mod_cast hseq
    have hexact := JsNumber.nearest_of_nearest_lt (n := host.originSeq) (by
      have : k ≤ 1000 := hk.trans hlength
      omega)
    exact ⟨host, hhost, hexact.symm.trans hnearest, copy, hmem, hcopy⟩
  · intro host hmem habove
    refine List.mem_filter.mpr ⟨hmem, decide_eq_true ?_⟩
    rw [hparse]
    exact habove

/-! ### The own messages -/

/-- The number of an own message. -/
def ownNumber (message : ChatMessage) : ℕ := (normalizeOriginSeq message).toNat

theorem length_ownMessages (hgenuine : Genuine log channel n) : n ≤ log.messages.length :=
  calc n = ((ownMessages log.messages).map normalizeOriginSeq).length := by
        rw [hgenuine.ownNumbers.length_eq, List.length_map, List.length_range']
    _ ≤ log.messages.length := by
        rw [List.length_map]
        exact List.length_filter_le _ _

/-- The own messages of the mobile, as the round finds them, are numbered `1, …, n`. -/
theorem MobileReady.numbers {keys : Finset (ChatKind × String)}
    (hready : MobileReady log keys messages) (hgenuine : Genuine log channel n) :
    ((ownMessages messages).map normalizeOriginSeq).Perm ((List.range' 1 n).map Nat.cast) := by
  have hsame := (hready.own.map OwnFields.originSeq).trans (List.Perm.of_eq (List.map_map ..))
  rw [ownFieldsOf, List.map_map] at hsame
  exact hsame.trans hgenuine.ownNumbers

theorem MobileReady.ownNumbers {keys : Finset (ChatKind × String)}
    (hready : MobileReady log keys messages) (hgenuine : Genuine log channel n) :
    ((ownMessages messages).map ownNumber).Perm (List.range' 1 n) := by
  have hcast : ((List.range' 1 n).map (Nat.cast : ℕ → ℕ∞)).map ENat.toNat = List.range' 1 n := by
    rw [List.map_map]
    exact (List.map_congr_left fun k _ => ENat.toNat_natCast k).trans (List.map_id _)
  have hperm := (hready.numbers hgenuine).map ENat.toNat
  rwa [List.map_map, hcast] at hperm

/-- The number of an own message is one of `1, …, n`. -/
theorem MobileReady.number_bound {keys : Finset (ChatKind × String)}
    (hready : MobileReady log keys messages) (hgenuine : Genuine log channel n)
    {own : ChatMessage} (hown : own ∈ ownMessages messages) :
    1 ≤ ownNumber own ∧ ownNumber own ≤ n ∧ normalizeOriginSeq own = ownNumber own := by
  obtain ⟨k, hk, hseq⟩ := List.mem_map.mp
    ((hready.numbers hgenuine).mem_iff.mp (List.mem_map_of_mem hown))
  obtain ⟨hpos, hle⟩ := List.mem_range'_1.mp hk
  have hnumber : ownNumber own = k := by rw [ownNumber, ← hseq, ENat.toNat_natCast]
  rw [hnumber]
  exact ⟨hpos, by omega, hseq.symm⟩

theorem MobileReady.sendable {keys : Finset (ChatKind × String)}
    (hready : MobileReady log keys messages) (hgenuine : Genuine log channel n)
    (hroom : n ≤ maxSessionMessages) {own : ChatMessage} (hown : own ∈ ownMessages messages) :
    Sendable own := by
  obtain ⟨old, hold, hfields⟩ := hready.exists_own hown
  rw [ownFields, ownFields, OwnFields.mk.injEq] at hfields
  obtain ⟨hne, htrim⟩ := hgenuine.ownReadable old hold
  obtain ⟨-, hle, hseq⟩ := hready.number_bound hgenuine hown
  have hmax : maxSessionMessages = 1000 := rfl
  exact ⟨hfields.1 ▸ hne, hfields.1 ▸ htrim, _, by omega, hseq⟩

/-- The ids of the own messages. -/
def ownIds (log : SessionLog) : Finset String :=
  ((ownMessages log.messages).map fun message => jsTrim message.id).toFinset

theorem desktopReady_channel (hfits : Fits log channel) : DesktopReady (ownIds log) channel := by
  have hsub : ownIds log \ (channel.messages.map PairBackendMessage.id).toFinset ⊆
      (((ownMessages log.messages).filter fun message => decide (jsTrim message.id ∉
        channel.messages.map PairBackendMessage.id)).map fun message =>
          jsTrim message.id).toFinset := by
    intro id hmem
    obtain ⟨hid, hnot⟩ := Finset.mem_sdiff.mp hmem
    obtain ⟨own, hown, rfl⟩ := List.mem_map.mp (List.mem_toFinset.mp hid)
    refine List.mem_toFinset.mpr (List.mem_map.mpr ⟨own, List.mem_filter.mpr ⟨hown, ?_⟩, rfl⟩)
    exact decide_eq_true fun hmem => hnot (List.mem_toFinset.mpr hmem)
  have hcard := (Finset.card_le_card hsub).trans (List.toFinset_card_le _)
  rw [List.length_map] at hcard
  exact (Nat.add_le_add_left hcard _).trans hfits.desktop

/-- What the mobile answers with, for any cursor the desktop may have sent. -/
theorem mem_missingMobileMessages_iff {own : ChatMessage} {mobileSeq : ℕ∞} :
    own ∈ missingMobileMessages messages mobileSeq ↔
      own ∈ ownMessages messages ∧ mobileSeq < normalizeOriginSeq own := by
  rw [missingMobileMessages, StableSort.mem_sortBy, List.mem_filter, decide_eq_true_eq]
  exact Iff.rfl

theorem nodup_ownIds (hnodup : (chatIds messages).Nodup)
    (hids : ∀ own ∈ ownMessages messages, jsTrim own.id ≠ "") :
    ((ownMessages messages).map fun own => jsTrim own.id).Nodup := by
  have hsub : (ownMessages messages).Sublist (messages.filter fun message =>
      decide (message.kind ≠ .system ∧ jsTrim message.id ≠ "")) := by
    have hfilter : ownMessages messages = (messages.filter fun message =>
        decide (message.kind ≠ .system ∧ jsTrim message.id ≠ "")).filter isOwnChat := by
      rw [List.filter_filter, ownMessages]
      refine List.filter_congr fun message hmem => ?_
      cases hown : isOwnChat message with
      | false => rfl
      | true =>
          have hid := hids message (List.mem_filter.mpr ⟨hmem, hown⟩)
          rw [decide_eq_true ⟨(isOwnChat_iff.mp hown).1, hid⟩, Bool.and_self]
    exact hfilter ▸ List.filter_sublist
  rw [chatIds_eq] at hnodup
  exact hnodup.sublist (hsub.map _)

/-- **The desktop has the own messages**, whether or not it answered the mobile. -/
theorem exists_copy_of_sent {keys : Finset (ChatKind × String)}
    (hgenuine : Genuine log channel n) (hfits : Fits log channel)
    (hready : MobileReady log keys messages) {sent : List ChatMessage}
    (hsent : sent ⊆ ownMessages messages)
    (habove : ∀ own ∈ ownMessages messages,
      collectChannelOriginCursor channel.messages "mobile" < ownNumber own → own ∈ sent)
    {own : ChatMessage} (hown : own ∈ ownMessages log.messages)
    (htext : unicodeTrim own.text ≠ "") :
    ∃ copy ∈ (run (receiveOwn toDesktop) channel sent).messages, OwnCopy own copy := by
  have hroom : n ≤ maxSessionMessages := (length_ownMessages hgenuine).trans
    (le_trans (Nat.le_add_right _ _) hfits.mobile)
  have hsendable : ∀ own ∈ ownMessages messages, Sendable own :=
    fun own hmem => hready.sendable hgenuine hroom hmem
  have hfind : ∀ own ∈ ownMessages log.messages,
      ∃ found ∈ ownMessages messages, ownFields found = ownFields own := fun own hmem =>
    List.mem_map.mp (hready.own.mem_iff.mpr (List.mem_map_of_mem hmem))
  have hids : ∀ own ∈ ownMessages messages, jsTrim own.id ∈ ownIds log := by
    intro own hmem
    obtain ⟨old, hold, hfields⟩ := hready.exists_own hmem
    rw [ownFields, ownFields, OwnFields.mk.injEq] at hfields
    exact List.mem_toFinset.mpr (List.mem_map.mpr ⟨old, hold, hfields.1⟩)
  have hreceives := @receives_own _ _ toDesktop hsendable hids
    (nodup_ownIds hready.nodup fun own hmem => (hsendable own hmem).id)
  have hcursor : IsCursor (collectChannelOriginCursor channel.messages "mobile") fun k =>
      ∃ copy ∈ channel.messages, Desktop.Carries "mobile" k copy :=
    isCursor_collect (by decide) (by decide)
  have hnumbers : ((ownMessages messages).map ownNumber).Nodup :=
    (hready.ownNumbers hgenuine).nodup_iff.mpr List.nodup_range'
  obtain ⟨found, hfound, hfields⟩ := hfind own hown
  have hfoundText : unicodeTrim found.text ≠ "" := by
    rw [ownFields, ownFields, OwnFields.mk.injEq] at hfields
    rwa [hfields.2.1]
  obtain ⟨copy, hmem, hcopy⟩ := hreceives.catch_up hsent (desktopReady_channel hfits)
    (fun own hmem => (hready.number_bound hgenuine hmem).1) hnumbers hcursor (by
      -- a number the desktop has seen is that of a genuine copy
      intro k hpos _ hseen
      obtain ⟨copy, hmem, hcarries⟩ := hseen
      obtain ⟨old, hold, hcopy⟩ := hgenuine.ownCopies copy hmem k hpos hcarries
      obtain ⟨other, hother, hsame⟩ := hfind old hold
      refine ⟨other, hother, ?_, copy, hmem, hcopy.congr hsame.symm⟩
      have hseq := (hcopy.congr hsame.symm).originSeq
      rw [ownNumber, ← hseq, hcarries.2.2, ENat.toNat_natCast])
    habove hfound hfoundText
  exact ⟨copy, hmem, hcopy.congr hfields⟩

/-- The mobile reports all of its own numbers. -/
theorem le_mobileSeq (choices : Mobile.Choices) (hgenuine : Genuine log channel n) :
    n ≤ (describeSessionChatState choices log.messages).mobileSeq := by
  have hcursor : IsCursor (describeSessionChatState choices log.messages).mobileSeq fun k =>
      ∃ copy ∈ log.messages, Mobile.Carries .mobile k copy := isCursor_contiguousSeq
  refine (hcursor n).mpr fun k hpos hk => ?_
  have hmem : (k : ℕ∞) ∈ (ownMessages log.messages).map normalizeOriginSeq :=
    hgenuine.ownNumbers.mem_iff.mpr
      (List.mem_map_of_mem (List.mem_range'_1.mpr ⟨hpos, by omega⟩))
  obtain ⟨own, hown, hseq⟩ := List.mem_map.mp hmem
  obtain ⟨hmem, hself⟩ := List.mem_filter.mp hown
  exact ⟨own, hmem, (isOwnChat_iff.mp hself).1, (hgenuine.ownReadable own hown).1,
    hgenuine.ownOrigin own hown, hseq⟩

theorem mobileSeq_le (choices : Mobile.Choices) (hfits : Fits log channel) :
    (describeSessionChatState choices log.messages).mobileSeq ≤ 1000 :=
  (contiguousSeq_le log.messages .mobile).trans (le_trans (Nat.le_add_right _ _) hfits.mobile)

theorem syncStateEcho_of_lt {messages : List PairBackendMessage} {mobileSeq : ℕ}
    (hbehind : collectChannelOriginCursor messages "mobile" < mobileSeq) :
    syncStateEcho messages mobileSeq = some (collectChannelOriginCursor messages "mobile") :=
  if_pos hbehind

theorem syncStateEcho_of_not_lt {messages : List PairBackendMessage} {mobileSeq : ℕ}
    (hnot : ¬collectChannelOriginCursor messages "mobile" < mobileSeq) :
    syncStateEcho messages mobileSeq = none := if_neg hnot

/-- **A round without loss leaves nothing out.**  Afterwards the mobile has every
message of the host and the desktop every own message of the mobile, except for what
the receiver takes for blank. -/
theorem syncRound_completes (hgenuine : Genuine log channel n) (hfits : Fits log channel)
    (htimes : ∀ message ∈ hostMessages channel.messages,
      validTime (timeOr (toMobile message).phone (readNumber message.ts)) = true) :
    (∀ message ∈ hostMessages channel.messages, jsTrim message.text ≠ "" →
      ∃ copy ∈ (syncRound choices toMobile toDesktop log.messages channel).1,
        HostCopy message copy) ∧
    ∀ own ∈ ownMessages log.messages, unicodeTrim own.text ≠ "" →
      ∃ copy ∈ (syncRound choices toMobile toDesktop log.messages channel).2.messages,
        OwnCopy own copy := by
  refine ⟨fun message hmem => exists_copy_received hgenuine hfits htimes hmem,
    fun own hmem htext => ?_⟩
  have hready : MobileReady log (keysAfter log channel)
      (received choices toMobile log.messages channel) :=
    mobileReady_received hgenuine hfits htimes
  have hmobileSeq : (describeSessionChatState choices log.messages).mobileSeq ≤ 1000 :=
    mobileSeq_le choices hfits
  unfold syncRound
  dsimp only
  rw [parseSyncSeq_of_lt (by omega)]
  by_cases hbehind : collectChannelOriginCursor channel.messages "mobile" <
      (describeSessionChatState choices log.messages).mobileSeq
  · -- the desktop names the last number it has seen, and the phone sends those above
    rw [syncStateEcho_of_lt hbehind, answered, count_readNumber,
      JsNumber.nearest_of_lt (by omega)]
    refine exists_copy_of_sent hgenuine hfits hready (fun item hitem => ?_) ?_ hmem htext
    · exact (mem_missingMobileMessages_iff.mp hitem).1
    · intro item hitem habove
      obtain ⟨-, -, hseq⟩ := hready.number_bound hgenuine hitem
      refine mem_missingMobileMessages_iff.mpr ⟨hitem, ?_⟩
      rw [hseq]
      exact Nat.cast_lt.mpr habove
  · -- the desktop has seen all of `1, …, n` and does not answer
    rw [syncStateEcho_of_not_lt hbehind, answered]
    show ∃ copy ∈ (run (receiveOwn toDesktop) channel []).messages, OwnCopy own copy
    have hown := le_mobileSeq choices hgenuine
    refine exists_copy_of_sent hgenuine hfits hready (List.nil_subset _) ?_ hmem htext
    intro item hitem habove
    obtain ⟨-, hle, -⟩ := hready.number_bound hgenuine hitem
    omega

/-- Everything travels over the relay. -/
def relayed : Way := ⟨.relay, plainEnv 1000 "1a", plainSession, ⟨2000, fun kind => kind, .plain⟩⟩

/-- A message of the desktop's log; those of the host are from its agent. -/
def desktopSays (origin id text : String) (originSeq ts : ℕ) : PairBackendMessage where
  id := id
  sender := if origin = "host" then "agent" else "mobile"
  text := text
  ts := ts
  kind := "chat"
  origin := origin
  originSeq := originSeq
  after := []
  missingAfter := []
  gatewayMessageId := ""
  gatewayMessageSeq := 0

/-- A message of the phone's log. -/
def phoneSays (origin : Origin) (id text : String) (originSeq ts : ℕ) : ChatMessage where
  id := id
  sender := if origin = .host then .host else .self
  text := text
  createdAt := ""
  ts := .finite ts
  kind := .chat
  origin := some origin
  originSeq := .ofCount originSeq
  after := []
  missingAfter := []
  deliveryStatus := none
  deliveryError := ""

def channelWith (messages : List PairBackendMessage) : PairBackendChannel :=
  { newChannel "" "pair_1" "bind_1" "mob_1" 0 with messages := messages }

/-- The phone has three own messages, and the first and the third of the host. -/
def gapsLog : SessionLog where
  messages :=
    [phoneSays .mobile "chat_1" "hello" 1 1000, phoneSays .host "msg_1" "hi" 1 1100,
      phoneSays .mobile "chat_2" "are you there" 2 1200,
      phoneSays .mobile "chat_3" "well" 3 1300, phoneSays .host "msg_3" "here I am" 3 1400]
  nodup := by decide

/-- The desktop has four messages of the host, which has left out a number, and the first
and the third of the phone. -/
def gapsChannel : PairBackendChannel :=
  channelWith
    [desktopSays "mobile" "chat_1" "hello" 1 1000, desktopSays "host" "msg_1" "hi" 1 1100,
      desktopSays "mobile" "chat_3" "well" 3 1300, desktopSays "host" "msg_2" "one moment" 2 1350,
      desktopSays "host" "msg_3" "here I am" 3 1400, desktopSays "host" "msg_5" "what is it" 5 1500]

theorem genuine_gaps : Genuine gapsLog gapsChannel 3 where
  hostIds := by decide
  hostReadable := by decide
  hostNumbers := by decide
  hostPositive := by decide
  ownReadable := by decide
  ownOrigin := by decide
  ownNumbers := by decide
  apart := by decide
  hostCopies := by
    have hcopied : ∀ copy ∈ gapsLog.messages, normalizeOrigin copy = .host →
        ∃ message ∈ hostMessages gapsChannel.messages, HostCopy message copy := by decide
    exact fun copy hmem k _ hcarries => hcopied copy hmem hcarries.2.2.1
  ownCopies := by
    have hcopied : ∀ copy ∈ gapsChannel.messages, unicodeTrim copy.origin = "mobile" →
        ∃ message ∈ ownMessages gapsLog.messages, OwnCopy message copy := by decide
    exact fun copy hmem k _ hcarries => hcopied copy hmem hcarries.2.1

/-- Both have gaps, which the round fills. -/
theorem syncRound_completes_gaps :
    (∀ message ∈ hostMessages gapsChannel.messages, jsTrim message.text ≠ "" →
      ∃ copy ∈ (syncRound plainSession (fun _ => relayed) (fun _ => relayed)
        gapsLog.messages gapsChannel).1, HostCopy message copy) ∧
    ∀ own ∈ ownMessages gapsLog.messages, unicodeTrim own.text ≠ "" →
      ∃ copy ∈ (syncRound plainSession (fun _ => relayed) (fun _ => relayed)
        gapsLog.messages gapsChannel).2.messages, OwnCopy own copy :=
  syncRound_completes genuine_gaps ⟨by decide, by decide⟩ (by decide)

/-- Both have everything of the other. -/
def Completes (log : SessionLog) (channel : PairBackendChannel)
    (round : List ChatMessage × PairBackendChannel) : Prop :=
  (∀ message ∈ hostMessages channel.messages, ∃ copy ∈ round.1, HostCopy message copy) ∧
    ∀ own ∈ ownMessages log.messages, ∃ copy ∈ round.2.messages, OwnCopy own copy

/-- A channel with one message of the host. -/
def channelSaying (text : String) (ts : ℕ) : PairBackendChannel :=
  channelWith [desktopSays "host" "msg_1" text 1 ts]

theorem hostMessages_saying (text : String) (ts : ℕ) :
    hostMessages (channelSaying text ts).messages = [desktopSays "host" "msg_1" text 1 ts] := by
  have hhost : normalizeChatMessageKind "chat" ≠ "system" ∧ unicodeTrim "host" = "host" := by
    decide
  exact List.filter_cons_of_pos (decide_eq_true hhost)

theorem genuine_saying (text : String) (ts : ℕ) :
    Genuine .empty (channelSaying text ts) 0 where
  hostIds := by
    rw [hostMessages_saying]
    exact List.nodup_singleton _
  hostReadable := by
    rw [hostMessages_saying, List.forall_mem_singleton]
    exact show ("msg_1" ≠ "" ∧ jsTrim "msg_1" = "msg_1") by decide
  hostNumbers := by
    rw [hostMessages_saying]
    exact List.nodup_singleton _
  hostPositive := by
    rw [hostMessages_saying, List.forall_mem_singleton]
    exact le_refl 1
  ownReadable := by decide
  ownOrigin := by decide
  ownNumbers := by decide
  apart := fun own hmem => nomatch hmem
  hostCopies := fun copy hmem => nomatch hmem
  ownCopies := by
    have hnot : unicodeTrim "host" ≠ "mobile" := by decide
    intro copy hmem k _ hcarries
    rw [List.mem_singleton.mp hmem] at hcarries
    exact absurd hcarries.2.1 hnot

/-- If nothing comes out for the phone, it misses the message. -/
theorem not_completes_saying {text : String} {ts : ℕ}
    {round : List ChatMessage × PairBackendChannel} (hnone : round.1 = []) :
    ¬Completes .empty (channelSaying text ts) round := by
  rintro ⟨hhost, -⟩
  obtain ⟨copy, hmem, -⟩ := hhost (desktopSays "host" "msg_1" text 1 ts)
    (by simp [hostMessages_saying])
  rw [hnone] at hmem
  cases hmem

/-- **Not everything arrives.**  The desktop does not take a byte order mark for blank, the
mobile does; and a time that the desktop takes may be none for the mobile. -/
theorem not_syncRound_completes :
    (¬∀ (log : SessionLog) channel n choices toMobile toDesktop, Genuine log channel n →
      Fits log channel →
        (∀ message ∈ hostMessages channel.messages,
          validTime (timeOr (toMobile message).phone (readNumber message.ts)) = true) →
          Completes log channel (syncRound choices toMobile toDesktop log.messages channel)) ∧
    ¬∀ (log : SessionLog) channel n choices toMobile toDesktop, Genuine log channel n →
      Fits log channel →
        (∀ message ∈ hostMessages channel.messages, jsTrim message.text ≠ "") →
          Completes log channel (syncRound choices toMobile toDesktop log.messages channel) := by
  constructor
  · intro hall
    refine not_completes_saying (by decide) (hall _ _ _ plainSession (fun _ => relayed)
      (fun _ => relayed) (genuine_saying "\uFEFF" 1500) ⟨by decide, by decide⟩ (by decide))
  · intro hall
    refine not_completes_saying (by decide) (hall _ _ _ plainSession (fun _ => relayed)
      (fun _ => relayed) (genuine_saying "hello" 9000000000000000) ⟨by decide, by decide⟩
      (by decide))

end OpenClaw.Chat
