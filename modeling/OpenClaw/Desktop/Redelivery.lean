import OpenClaw.Desktop.ForcedOrder
import OpenClaw.Desktop.Inbox
import OpenClaw.Lib.Steps

/-!
# Processing a chat message again

A mobile sends a message again when it cannot know that it arrived.  Appending it
overwrites the stored copy, the gateway annotation of a transcript import
included, and reconciles the channel once more.  So a second delivery leaves a
channel alone exactly if the stored message has no annotation and the messages
stand in the order that their comparators force (`redelivery_harmless_iff`).  A
channel whose order is well defined stands so (`stable_reconcile`).
-/

namespace OpenClaw.Desktop

open OpenClaw.Runtime StableSort FirstMatch Steps

/-- The fields of a chat message that both sides have. -/
structure ChatFields where
  id : String
  text : String
  ts : ℕ
  origin : String
  originSeq : ℕ
  after : List String
deriving DecidableEq

def chatFields (message : PairBackendMessage) : ChatFields :=
  ⟨message.id, message.text, message.ts, message.origin, message.originSeq, message.after⟩

/-! ## The states of a channel -/

inductive ChannelEvent
  /-- `append_channel_message` -/
  | append (choices : Choices) (message : PairBackendMessage)
  /-- `sync_openclaw_session_history_now` -/
  | transcript (choices : Choices) (entries : List OpenClawTranscriptEntry)

def channelStep (channel : PairBackendChannel) : ChannelEvent → PairBackendChannel
  | .append choices message => (appendMessage choices channel message).1
  | .transcript choices entries => importTranscript choices entries channel

/-- A channel that began without messages. -/
def Reachable (channel : PairBackendChannel) : Prop :=
  ∃ start events, start.messages = [] ∧ start.missingMessageIds = [] ∧
    channel = run channelStep start events

/-- Every message is as a reconciliation leaves it, and so are the missing ids. -/
structure Tidy (channel : PairBackendChannel) : Prop where
  messages : ∀ message ∈ channel.messages, reconcileMessage channel.messages message = message
  missing : channel.missingMessageIds =
    dropRepeats (sortBy compare (channel.messages.flatMap PairBackendMessage.missingAfter))

variable {choices : Choices} {channel : PairBackendChannel} {messages : List PairBackendMessage}
  {message stored : PairBackendMessage} {env : Env} {payload : Json}

theorem normalizeStored_markMissing {known : List String} :
    normalizeStored (markMissing known message) = normalizeStored message := by
  unfold markMissing
  split
  · rfl
  · exact normalizeStored_missingAfter _ _

theorem normalizeStored_reconcileMessage :
    normalizeStored (reconcileMessage messages message) = normalizeStored message := by
  rw [reconcileMessage, normalizeStored_markMissing, normalizeStored_idem]

/-- **Reconciling twice** changes no message. -/
theorem reconcileMessage_reconcile
    (hmem : message ∈ (reconcileChannelMessages choices messages).messages) :
    reconcileMessage (reconcileChannelMessages choices messages).messages message = message := by
  obtain ⟨old, -, rfl⟩ := mem_reconcile.mp hmem
  have hsame : reconcileMessage (reconcileChannelMessages choices messages).messages =
      reconcileMessage messages :=
    reconcileMessage_congr fun _ => mem_knownIds_reconcile
  rw [hsame]
  conv_lhs => rw [reconcileMessage, normalizeStored_reconcileMessage]
  rw [reconcileMessage]

theorem tidy_step (channel : PairBackendChannel) (event : ChannelEvent) :
    Tidy (channelStep channel event) := by
  cases event with
  | append choices message => exact ⟨fun _ => reconcileMessage_reconcile, rfl⟩
  | transcript choices entries => exact ⟨fun _ => reconcileMessage_reconcile, rfl⟩

theorem Tidy.markedMessages_eq (htidy : Tidy channel) :
    markedMessages channel.messages = channel.messages :=
  (List.map_congr_left htidy.messages).trans (List.map_id _)

theorem Reachable.tidy (hreachable : Reachable channel) : Tidy channel := by
  obtain ⟨start, events, hmessages, hmissing, rfl⟩ := hreachable
  have hstart : Tidy start := by
    refine ⟨fun message hmem => ?_, ?_⟩
    · rw [hmessages] at hmem
      cases hmem
    · rw [hmessages, hmissing]
      rfl
  exact run_preserves_of_step (fun channel event _ => tidy_step channel event) events hstart

/-! ## What an append stores -/

theorem exists_mem_insertMessage (messages : List PairBackendMessage)
    (message : PairBackendMessage) :
    ∃ inserted ∈ (insertMessage messages message).1,
      normalizeStored inserted = normalizeStored message := by
  rw [insertMessage]
  cases hfind : messages.find? (sameId message) with
  | none =>
      refine ⟨message, ?_, rfl⟩
      dsimp only
      rw [truncate_concat]
      exact List.mem_concat_self
  | some found =>
      have hid : found.id = message.id := (sameId_iff.mp (List.find?_some hfind)).2
      exact ⟨overwrite message found, (mem_updateFirst_iff hfind).mpr (Or.inl rfl),
        normalizeStored_overwrite hid⟩

theorem chatFields_markMissing {known : List String} :
    chatFields (markMissing known message) = chatFields message := by
  unfold markMissing
  split
  · rfl
  · rfl

/-- **An append stores the message**, new or not. -/
theorem exists_mem_appendMessage (choices : Choices) (channel : PairBackendChannel)
    (message : PairBackendMessage) :
    ∃ stored ∈ (appendMessage choices channel message).1.messages,
      chatFields stored = chatFields (normalizeIncoming message) := by
  obtain ⟨inserted, hmem, hsame⟩ :=
    exists_mem_insertMessage channel.messages (normalizeIncoming message)
  refine ⟨_, mem_reconcile.mpr ⟨inserted, hmem, rfl⟩, ?_⟩
  rw [reconcileMessage, chatFields_markMissing, hsame, normalizeStored_incoming, normalizeStored,
    chatFields, chatFields]

/-! ## A second delivery -/

/-- The channel has the message: under its id it finds one with this content. -/
structure AlreadyIn (channel : PairBackendChannel) (message stored : PairBackendMessage) :
    Prop where
  find : channel.messages.find? (sameId message) = some stored
  kind : stored.kind = "chat"
  sender : stored.sender = message.sender
  fields : chatFields stored = chatFields (normalizeIncoming message)

/-- What `append_channel_message` gets from the mobile. -/
structure MobileChat (message : PairBackendMessage) : Prop where
  kind : normalizeChatMessageKind message.kind ≠ "system"
  gatewayMessageId : message.gatewayMessageId = ""
  gatewayMessageSeq : message.gatewayMessageSeq = 0

theorem mobileChat_of_parse (hparse : parseOpenclawChatPayload env payload = some message) :
    MobileChat (fromMobile message) := by
  have hkind : normalizeChatMessageKind "chat" ≠ "system" := by decide
  unfold parseOpenclawChatPayload at hparse
  split at hparse
  · cases hparse
  · dsimp only at hparse
    split at hparse
    · cases hparse
    · obtain rfl := Option.some.inj hparse
      exact ⟨hkind, rfl, rfl⟩

/-- A message without its annotation. -/
def withoutAnnotations (message : PairBackendMessage) : PairBackendMessage :=
  { message with gatewayMessageId := "", gatewayMessageSeq := 0 }

theorem isGraphChatMessage_withoutAnnotations (message : PairBackendMessage) :
    isGraphChatMessage (withoutAnnotations message) = isGraphChatMessage message := by
  rw [isGraphChatMessage, isGraphChatMessage, decide_eq_decide]
  exact Iff.rfl

/-- The stored message after it was overwritten. -/
theorem overwrite_stored (hmobile : MobileChat message)
    (halready : AlreadyIn channel message stored) :
    overwrite (normalizeIncoming message) stored = withoutAnnotations stored := by
  have hfields := halready.fields
  rw [chatFields, chatFields, ChatFields.mk.injEq] at hfields
  obtain ⟨-, htext, hts, horigin, hseq, hafter⟩ := hfields
  have hkind := halready.kind
  have hsender := halready.sender
  rw [normalizeIncoming_of_chat hmobile.kind] at htext hts horigin hseq hafter ⊢
  rw [overwrite, hmobile.gatewayMessageId, hmobile.gatewayMessageSeq]
  dsimp only at htext hts horigin hseq hafter ⊢
  rw [← htext, ← hts, ← horigin, ← hseq, ← hafter, ← hsender, ← hkind, withoutAnnotations]

/-- The channel around the stored message, before and after it was overwritten. -/
theorem AlreadyIn.exists_split (hmobile : MobileChat message)
    (halready : AlreadyIn channel message stored) :
    ∃ before after, channel.messages = before ++ stored :: after ∧
      (insertMessage channel.messages (normalizeIncoming message)).1 =
        before ++ withoutAnnotations stored :: after := by
  obtain ⟨before, after, hsplit, -, hupdate⟩ :=
    split_updateFirst (f := overwrite (normalizeIncoming message)) halready.find
  refine ⟨before, after, hsplit, ?_⟩
  rw [insertMessage, sameId_normalizeIncoming, halready.find]
  dsimp only
  rw [hupdate, overwrite_stored hmobile halready]

theorem AlreadyIn.graph (halready : AlreadyIn channel message stored) :
    isGraphChatMessage stored = true := by
  have hkind : normalizeChatMessageKind "chat" ≠ "system" := by decide
  obtain ⟨htrim, hid⟩ := sameId_iff.mp (List.find?_some halready.find)
  rw [isGraphChatMessage, decide_eq_true_eq, halready.kind, hid]
  exact ⟨hkind, htrim⟩

/-- If the messages are the same afterwards, nothing was overwritten. -/
theorem Tidy.unannotated_of_reconcile (htidy : Tidy channel) (hmobile : MobileChat message)
    (halready : AlreadyIn channel message stored)
    (hsame : (reconcileChannelMessages choices
      (insertMessage channel.messages (normalizeIncoming message)).1).messages =
        channel.messages) :
    stored.gatewayMessageId = "" ∧ stored.gatewayMessageSeq = 0 := by
  obtain ⟨before, after, hsplit, hinserted⟩ := halready.exists_split hmobile
  have hcleared : (before ++ withoutAnnotations stored :: after).map withoutAnnotations =
      channel.messages.map withoutAnnotations := by
    rw [hsplit, List.map_append, List.map_append, List.map_cons, List.map_cons]
    rfl
  have hknown : knownIds (before ++ withoutAnnotations stored :: after) =
      knownIds channel.messages := by
    rw [← knownIds_map isGraphChatMessage_withoutAnnotations fun _ => rfl, hcleared,
      knownIds_map isGraphChatMessage_withoutAnnotations fun _ => rfl]
  have hreconcile : reconcileMessage (before ++ withoutAnnotations stored :: after) =
      reconcileMessage channel.messages :=
    reconcileMessage_congr fun id => by rw [hknown]
  have hfixed : ∀ part ⊆ channel.messages, part.map (reconcileMessage channel.messages) = part :=
    fun part hpart =>
      (List.map_congr_left fun item hitem => htidy.messages item (hpart hitem)).trans
        (List.map_id _)
  have hperm := reconcile_perm choices (before ++ withoutAnnotations stored :: after)
  rw [hinserted] at hsame
  rw [hsame, hreconcile, List.map_append, List.map_cons, hfixed before (by simp [hsplit]),
    hfixed after (by simp [hsplit]), hsplit, List.perm_append_left_iff] at hperm
  have hone : [stored].Perm [reconcileMessage (before ++ stored :: after)
      (withoutAnnotations stored)] := (List.perm_append_right_iff after).mp hperm
  have heq := List.singleton_perm_singleton.mp hone
  have hgraph := (isGraphChatMessage_withoutAnnotations stored).trans halready.graph
  rw [reconcileMessage_of_graph hgraph] at heq
  rw [heq]
  exact ⟨rfl, rfl⟩

/-- A channel whose order is well defined is in an order that a reconciliation
reproduces. -/
theorem stable_reconcile
    (hdefined : WellDefinedOrder (reconcileChannelMessages choices messages).messages) :
    Stable (reconcileChannelMessages choices messages).messages := by
  intro choices'
  have hmarked : markedMessages (markedMessages messages) = markedMessages messages := by
    have hsame : reconcileMessage (markedMessages messages) = reconcileMessage messages :=
      reconcileMessage_congr fun id => by rw [knownIds_markedMessages]
    rw [markedMessages, hsame, markedMessages, List.map_map]
    refine List.map_congr_left fun message _ => ?_
    rw [Function.comp_apply, reconcileMessage, normalizeStored_reconcileMessage, reconcileMessage]
  have hagain : (reconcileChannelMessages choices (markedMessages messages)).messages =
      (reconcileChannelMessages choices messages).messages := by
    rw [messages_reconcile, messages_reconcile, graphOrder, graphOrder, hmarked]
  rw [← hdefined.determined choices choices' (markedMessages messages)
    (reconcile_perm choices messages).symm, hagain]

theorem stable_appendMessage
    (hdefined : WellDefinedOrder (appendMessage choices channel message).1.messages) :
    Stable (appendMessage choices channel message).1.messages :=
  stable_reconcile hdefined

/-- **When a second delivery is harmless.** -/
theorem redelivery_harmless_iff (hreachable : Reachable channel)
    (hparse : parseOpenclawChatPayload env payload = some message)
    (halready : AlreadyIn channel (fromMobile message) stored) :
    (∀ choices, (appendMessage choices channel (fromMobile message)).1 = channel) ↔
      (stored.gatewayMessageId = "" ∧ stored.gatewayMessageSeq = 0) ∧
        InForcedOrder channel.messages := by
  have htidy := hreachable.tidy
  rw [← stable_iff htidy.markedMessages_eq]
  have hmobile := mobileChat_of_parse hparse
  obtain ⟨before, after, hsplit, hinserted⟩ := halready.exists_split hmobile
  have hunannotated : stored.gatewayMessageId = "" ∧ stored.gatewayMessageSeq = 0 →
      (insertMessage channel.messages (normalizeIncoming (fromMobile message))).1 =
        channel.messages := by
    intro hstored
    have hclear : withoutAnnotations stored = stored := by
      rw [withoutAnnotations, ← hstored.1, ← hstored.2]
    rw [hinserted, hsplit, hclear]
  constructor
  · intro hunchanged
    have hmessages : ∀ choices, (reconcileChannelMessages choices
        (insertMessage channel.messages (normalizeIncoming (fromMobile message))).1).messages =
          channel.messages := fun choices =>
      congrArg PairBackendChannel.messages (hunchanged choices)
    have hstored := htidy.unannotated_of_reconcile hmobile halready (hmessages .plain)
    refine ⟨hstored, fun choices => ?_⟩
    have hreconciled := hmessages choices
    rwa [hunannotated hstored] at hreconciled
  · intro hboth choices
    obtain ⟨hstored, hstable⟩ := hboth
    unfold appendMessage
    dsimp only
    rw [hunannotated hstored]
    have hmissing : (reconcileChannelMessages choices channel.messages).missingMessageIds =
        channel.missingMessageIds := by
      rw [htidy.missing]
      conv_rhs => rw [← hstable choices]
      rfl
    rw [hstable choices, hmissing]

/-- A message of the mobile, with one id and one text. -/
def helloPayload : Json :=
  .obj [("type", .str openclawChatMessageType), ("ts", .num 5),
    ("payload", .obj [("id", .str "msg_1"), ("text", .str "hello"), ("origin", .str "mobile"),
      ("originSeq", .num 1)])]

def helloEnv : Env := ⟨9, fun kind => kind, .plain⟩

def helloMessage : PairBackendMessage :=
  (parseOpenclawChatPayload helloEnv helloPayload).getD default

/-- A channel that got the message. -/
def helloChannel : PairBackendChannel :=
  channelStep (newChannel "" "pair_1" "bind_1" "mob_1" 0) (.append .plain (fromMobile helloMessage))

/-- The transcript has the message as well. -/
def helloEntry : OpenClawTranscriptEntry := ⟨"g1", 1, "user", "hello", 6⟩

/-- The channel after a transcript import. -/
def annotatedChannel : PairBackendChannel :=
  channelStep helloChannel (.transcript .plain [helloEntry])

theorem parse_hello : parseOpenclawChatPayload helloEnv helloPayload = some helloMessage := by
  decide

theorem reachable_hello (events : List ChannelEvent) : Reachable (run channelStep
    (newChannel "" "pair_1" "bind_1" "mob_1" 0)
    (.append .plain (fromMobile helloMessage) :: events)) :=
  ⟨_, _, rfl, rfl, rfl⟩

/-- A reply of the host, with a number of the gateway.  The clock of the host is behind. -/
def replyMessage (id parent : String) (ts gatewayMessageSeq : ℕ) : PairBackendMessage :=
  { gatewayMessage id ts gatewayMessageSeq with after := [parent], gatewayMessageId := "g" ++ id }

/-- The channel with two replies to the message. -/
def repliedChannel : PairBackendChannel :=
  (appendMessage .plain
    (appendMessage .plain helloChannel (replyMessage "msg_2" "msg_1" 3 2)).1
    (replyMessage "msg_3" "msg_2" 4 3)).1

theorem ids_replied :
    repliedChannel.messages.map PairBackendMessage.id = ["msg_1", "msg_2", "msg_3"] := by decide

theorem wellDefinedOrder_replied : WellDefinedOrder repliedChannel.messages := by
  have hids : (repliedChannel.messages.map PairBackendMessage.id).Nodup := by
    rw [ids_replied]
    decide
  have hlinear := (linearOn_iff hids).mpr (by decide)
  exact wellDefinedOrder_of_clear hids hlinear fun choices =>
    positionsClear_of_chat choices hlinear hids (by decide)

theorem redelivery_harmless_replied :
    (appendMessage .plain repliedChannel (fromMobile helloMessage)).1 = repliedChannel := by
  have hreachable : Reachable repliedChannel := reachable_hello
    [.append .plain (replyMessage "msg_2" "msg_1" 3 2),
      .append .plain (replyMessage "msg_3" "msg_2" 4 3)]
  have halready : AlreadyIn repliedChannel (fromMobile helloMessage)
      (repliedChannel.messages.headD default) := ⟨by decide, by decide, by decide, by decide⟩
  have hstable := stable_appendMessage wellDefinedOrder_replied
  have hforced := (stable_iff hreachable.tidy.markedMessages_eq).mp hstable
  exact (redelivery_harmless_iff hreachable parse_hello halready).mpr ⟨by decide, hforced⟩ .plain

/-- **A second delivery is not always harmless.**  It takes the gateway annotation
off the message. -/
theorem not_redelivery_harmless :
    ¬∀ channel env payload message stored, Reachable channel →
      parseOpenclawChatPayload env payload = some message →
        AlreadyIn channel (fromMobile message) stored →
          ∀ choices, (appendMessage choices channel (fromMobile message)).1 = channel := by
  intro hall
  have halready : AlreadyIn annotatedChannel (fromMobile helloMessage)
      (annotatedChannel.messages.headD default) := ⟨by decide, by decide, by decide, by decide⟩
  have hsame := hall annotatedChannel helloEnv helloPayload helloMessage _
    (reachable_hello [.transcript .plain [helloEntry]]) parse_hello halready .plain
  have hid := congrArg (fun channel : PairBackendChannel =>
    channel.messages.map PairBackendMessage.gatewayMessageId) hsame
  revert hid
  decide

end OpenClaw.Desktop
