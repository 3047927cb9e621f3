import Mathlib.Data.List.Perm.Subperm
import OpenClaw.Desktop.Inbox
import OpenClaw.Lib.Steps
import OpenClaw.Mobile.SessionLog

/-!
# Cursors along a run of appends

Both sides report, for each origin, how far they have the messages without a
gap.  The cursor is computed anew from the messages that are kept, so it follows
what an append takes out: the message it overwrites, or the oldest messages
beyond the limit.

`cursors_monotone_iff` says exactly when no cursor goes back: as long as no
append takes out the last message of a number that a cursor acknowledges.  A log
that begins with number one and grows beyond its limit breaks this
(`not_cursors_monotone`).
-/

namespace OpenClaw.Chat

open OpenClaw.Runtime OpenClaw.Desktop OpenClaw.Mobile ContiguousPrefix FirstMatch Steps

/-! ## The machine -/

/-- The channels of the desktop and the sessions of the mobile. -/
structure Endpoints where
  channels : Channels
  sessions : String → SessionLog

inductive Append
  /-- `append_channel_message` -/
  | channel (choices : Desktop.Choices) (bindingId : String) (message : PairBackendMessage)
  /-- `upsertSessionMessage` and the cut to the newest messages -/
  | session (choices : Mobile.Choices) (sessionId : String) (message : ChatMessage)

def append (endpoints : Endpoints) : Append → Endpoints
  | .channel choices bindingId message =>
      { endpoints with
        channels := (appendChannelMessage choices endpoints.channels bindingId message).1 }
  | .session choices sessionId message =>
      { endpoints with
        sessions := Function.update endpoints.sessions sessionId
          ((endpoints.sessions sessionId).upsert choices message) }

/-- The messages of the channel in a slot. -/
def Endpoints.messages (endpoints : Endpoints) (slot : ℕ) : List PairBackendMessage :=
  ((endpoints.channels.get slot).map PairBackendChannel.messages).getD []

inductive Log
  | channel (slot : ℕ)
  | session (id : String)

/-- The string the desktop has for an origin. -/
def originName : Origin → String
  | .host => "host"
  | .mobile => "mobile"

/-- The cursor a log reports for an origin. -/
def cursor (choices : Mobile.Choices) (endpoints : Endpoints) : Log → Origin → ℕ
  | .channel slot, origin =>
    collectChannelOriginCursor (endpoints.messages slot) (originName origin)
  | .session id, .host =>
      (describeSessionChatState choices (endpoints.sessions id).messages).hostSeq
  | .session id, .mobile =>
      (describeSessionChatState choices (endpoints.sessions id).messages).mobileSeq

/-- Some message of the log is number `n` of the origin. -/
def Seen (endpoints : Endpoints) (log : Log) (origin : Origin) (n : ℕ) : Prop :=
  match log with
  | .channel slot =>
      ∃ message ∈ endpoints.messages slot, Desktop.Carries (originName origin) n message
  | .session id =>
      ∃ message ∈ (endpoints.sessions id).messages, Mobile.Carries origin n message

/-! ## What an append takes out -/

/-- The message that `insertMessage` overwrites, or those beyond the limit. -/
def channelGone (messages : List PairBackendMessage) (message : PairBackendMessage) :
    List PairBackendMessage :=
  match messages.find? (sameId message) with
  | some found => [found]
  | none => messages.take (messages.length + 1 - pairChannelMessageLimit)

/-- The messages that `insertMessage` leaves, and the new one. -/
def channelKept (messages : List PairBackendMessage) (message : PairBackendMessage) :
    List PairBackendMessage :=
  match messages.find? (sameId message) with
  | some _ => message :: messages.eraseP (sameId message)
  | none => message :: messages.drop (messages.length + 1 - pairChannelMessageLimit)

/-- The reconciled messages of a session before they are cut. -/
def sessionUncut (choices : Mobile.Choices) (messages : List ChatMessage) (message : ChatMessage) :
    List ChatMessage :=
  (reconcileSessionMessages choices
    (replaceMessage messages (normalizeChatMessage message))).messages

/-- The messages that the new one replaces, and those that are cut off. -/
def sessionGone (choices : Mobile.Choices) (messages : List ChatMessage) (message : ChatMessage) :
    List ChatMessage :=
  (messages.filter fun item => decide (jsTrim item.id = jsTrim message.id)) ++
    (sessionUncut choices messages message).take
      ((sessionUncut choices messages message).length - maxSessionMessages)

/-- The append takes out the last message of no number that a cursor
acknowledges. -/
def KeepsAcknowledged (endpoints : Endpoints) : Append → Prop
  | .channel _ bindingId message =>
      ∀ slot, channelFor endpoints.channels bindingId = some slot → ∀ origin,
        Keeps (Seen endpoints (.channel slot) origin)
          (fun n => ∃ gone ∈ channelGone (endpoints.messages slot) message,
            Desktop.Carries (originName origin) n gone)
          fun n => ∃ kept ∈ channelKept (endpoints.messages slot) message,
            Desktop.Carries (originName origin) n (normalizeStored kept)
  | .session choices id message =>
      ∀ origin,
        Keeps (Seen endpoints (.session id) origin)
          (fun n => ∃ gone ∈ sessionGone choices (endpoints.sessions id).messages message,
            Mobile.Carries origin n gone)
          fun n => ∃ kept ∈ sliceNewest
              (sessionUncut choices (endpoints.sessions id).messages message),
            Mobile.Carries origin n kept

/-! ## Cursors and what a log has seen -/

variable {choices : Mobile.Choices} {endpoints : Endpoints} {log : Log} {origin : Origin}
  {message : PairBackendMessage} {messages : List PairBackendMessage} {n : ℕ}

theorem originName_cases (origin : Origin) :
    originName origin = "host" ∨ originName origin = "mobile" := by
  cases origin with
  | host => exact Or.inl rfl
  | mobile => exact Or.inr rfl

/-- Every cursor of the two sides is the contiguous prefix of what its log has
seen. -/
theorem isCursor_cursor (choices : Mobile.Choices) (endpoints : Endpoints) (log : Log)
    (origin : Origin) :
    IsCursor (cursor choices endpoints log origin) (Seen endpoints log origin) := by
  cases log with
  | channel slot =>
      exact isCursor_collect (trim_of_origin (originName_cases origin))
        (ne_empty_of_origin (originName_cases origin))
  | session id =>
      cases origin with
      | host => exact isCursor_contiguousSeq
      | mobile => exact isCursor_contiguousSeq

/-! ## One append on the desktop -/

/-- Every message of the channel is taken out or kept. -/
theorem mem_gone_or_kept (hmem : message ∈ messages) (incoming : PairBackendMessage) :
    message ∈ channelGone messages incoming ∨ message ∈ channelKept messages incoming := by
  unfold channelGone channelKept
  cases hfind : messages.find? (sameId incoming) with
  | some found =>
      rcases (mem_iff_eraseP hfind).mp hmem with rfl | hkept
      · exact Or.inl (List.mem_singleton_self _)
      · exact Or.inr (List.mem_cons_of_mem _ hkept)
  | none =>
      rw [← List.take_append_drop (messages.length + 1 - pairChannelMessageLimit) messages,
        List.mem_append] at hmem
      exact hmem.imp_right (List.mem_cons_of_mem _)

/-- **What an append leaves**: the kept messages, reconciled. -/
theorem mem_appendMessage_iff {choices : Desktop.Choices} {channel : PairBackendChannel}
    {stored : PairBackendMessage} :
    stored ∈ (appendMessage choices channel message).1.messages ↔
      ∃ kept ∈ channelKept channel.messages message,
        reconcileMessage (insertMessage channel.messages (normalizeIncoming message)).1 kept =
          stored := by
  unfold appendMessage
  dsimp only
  rw [mem_reconcile]
  generalize hafter : (insertMessage channel.messages (normalizeIncoming message)).1 = after
  have hnew : ∀ {item}, normalizeStored item = normalizeStored (normalizeIncoming message) →
      reconcileMessage after item = reconcileMessage after message := by
    intro item hitem
    rw [reconcileMessage, hitem, normalizeStored_incoming, reconcileMessage]
  rw [insertMessage, sameId_normalizeIncoming] at hafter
  rw [channelKept]
  cases hfind : channel.messages.find? (sameId message) with
  | some found =>
      have hid : found.id = (normalizeIncoming message).id :=
        (sameId_iff.mp (List.find?_some hfind)).2.trans (id_normalizeIncoming message).symm
      rw [hfind] at hafter
      dsimp only at hafter ⊢
      rw [← hafter]
      constructor
      · rintro ⟨item, hitem, hstored⟩
        rcases (mem_updateFirst_iff hfind).mp hitem with rfl | hkept
        · rw [hafter, hnew (normalizeStored_overwrite hid), ← hafter] at hstored
          exact ⟨message, List.mem_cons_self, hstored⟩
        · exact ⟨item, List.mem_cons_of_mem _ hkept, hstored⟩
      · rintro ⟨kept, hkept, hstored⟩
        rcases List.mem_cons.mp hkept with rfl | hkept
        · refine ⟨_, (mem_updateFirst_iff hfind).mpr (Or.inl rfl), ?_⟩
          rw [hafter] at hstored ⊢
          rw [hnew (normalizeStored_overwrite hid), hstored]
        · exact ⟨kept, (mem_updateFirst_iff hfind).mpr (Or.inr hkept), hstored⟩
  | none =>
      rw [hfind] at hafter
      dsimp only at hafter ⊢
      rw [truncate_concat] at hafter
      rw [← hafter]
      constructor
      · rintro ⟨item, hitem, hstored⟩
        rcases List.mem_append.mp hitem with hkept | hlast
        · exact ⟨item, List.mem_cons_of_mem _ hkept, hstored⟩
        · rw [List.mem_singleton.mp hlast, hafter, hnew rfl, ← hafter] at hstored
          exact ⟨message, List.mem_cons_self, hstored⟩
      · rintro ⟨kept, hkept, hstored⟩
        rcases List.mem_cons.mp hkept with rfl | hkept
        · refine ⟨_, List.mem_append_right _ (List.mem_singleton_self _), ?_⟩
          rw [hafter] at hstored ⊢
          rw [hnew rfl, hstored]
        · exact ⟨kept, List.mem_append_left _ hkept, hstored⟩

/-- The numbers of a channel after an append are those of the kept messages. -/
theorem exists_carries_appendMessage (choices : Desktop.Choices) (channel : PairBackendChannel)
    {name : String} :
    (∃ stored ∈ (appendMessage choices channel message).1.messages, Desktop.Carries name n stored) ↔
      ∃ kept ∈ channelKept channel.messages message,
        Desktop.Carries name n (normalizeStored kept) := by
  constructor
  · rintro ⟨stored, hstored, hcarries⟩
    obtain ⟨kept, hkept, rfl⟩ := mem_appendMessage_iff.mp hstored
    exact ⟨kept, hkept, carries_reconcileMessage.mp hcarries⟩
  · rintro ⟨kept, hkept, hcarries⟩
    exact ⟨_, mem_appendMessage_iff.mpr ⟨kept, hkept, rfl⟩, carries_reconcileMessage.mpr hcarries⟩

/-- The messages of a slot after an append to another one, or to none. -/
theorem messages_append_channel_of_ne {choices : Desktop.Choices} {bindingId : String} {slot : ℕ}
    (hslot : channelFor endpoints.channels bindingId ≠ some slot) :
    (append endpoints (.channel choices bindingId message)).messages slot =
      endpoints.messages slot := by
  unfold append Endpoints.messages
  dsimp only
  cases hfor : channelFor endpoints.channels bindingId with
  | none => rw [appendChannelMessage_of_none hfor]
  | some other =>
      obtain ⟨channel, hchannel⟩ := slot_of_channelFor hfor
      have hne : slot ≠ other := fun heq => hslot (hfor.trans (congrArg some heq.symm))
      rw [appendChannelMessage_of_get hfor hchannel, Roster.get_modify_of_ne hne]

/-- The messages of the channel after an append to it. -/
theorem messages_append_channel (choice : Desktop.Choices) {bindingId : String}
    (message : PairBackendMessage) {slot : ℕ}
    (hslot : channelFor endpoints.channels bindingId = some slot) :
    ∃ channel, channel.messages = endpoints.messages slot ∧
      (append endpoints (.channel choice bindingId message)).messages slot =
        (appendMessage choice channel message).1.messages := by
  obtain ⟨channel, hchannel⟩ := slot_of_channelFor hslot
  refine ⟨channel, ?_, ?_⟩
  · rw [Endpoints.messages, hchannel, Option.map_some, Option.getD_some]
  · unfold append Endpoints.messages
    dsimp only
    rw [appendChannelMessage_of_get hslot hchannel, Roster.get_modify_self, hchannel,
      Option.map_some, Option.map_some, Option.getD_some]

/-- The numbers of a channel after an append to it. -/
theorem seen_append_channel {choices : Desktop.Choices} {bindingId : String} {slot : ℕ}
    (hslot : channelFor endpoints.channels bindingId = some slot) :
    Seen (append endpoints (.channel choices bindingId message)) (.channel slot) origin n ↔
      ∃ kept ∈ channelKept (endpoints.messages slot) message,
        Desktop.Carries (originName origin) n (normalizeStored kept) := by
  obtain ⟨channel, hbefore, hafter⟩ := messages_append_channel choices message hslot
  rw [Seen, hafter, ← hbefore]
  exact exists_carries_appendMessage choices channel

/-! ## One append on the mobile -/

theorem messages_append_session {id : String} {incoming : ChatMessage} :
    ((append endpoints (.session choices id incoming)).sessions id).messages =
      sliceNewest (sessionUncut choices (endpoints.sessions id).messages incoming) := by
  unfold append
  dsimp only
  rw [Function.update_self, SessionLog.messages_upsert, session_upsertSessionMessage, sessionUncut]

/-- Every number of a session is taken out or kept. -/
theorem session_gone_or_kept {incoming : ChatMessage} (log : SessionLog)
    (hseen : ∃ item ∈ log.messages, Mobile.Carries origin n item) :
    (∃ gone ∈ sessionGone choices log.messages incoming, Mobile.Carries origin n gone) ∨
      ∃ kept ∈ sliceNewest (sessionUncut choices log.messages incoming),
        Mobile.Carries origin n kept := by
  obtain ⟨item, hitem, hcarries⟩ := hseen
  by_cases hsame : jsTrim item.id = jsTrim incoming.id
  · exact Or.inl ⟨item, List.mem_append_left _ (List.mem_filter.mpr
      ⟨hitem, decide_eq_true hsame⟩), hcarries⟩
  · -- the message goes through the reconciliation, and then stays or is cut
    have hreplaced : item ∈ replaceMessage log.messages (normalizeChatMessage incoming) :=
      List.mem_append_left _ (List.mem_filter.mpr ⟨hitem, decide_eq_true hsame⟩)
    obtain ⟨other, hother, hcarries⟩ := (Mobile.exists_carries_reconcile choices
      (nodup_replaceMessage log.nodup incoming)).mpr ⟨item, hreplaced, hcarries⟩
    rw [← List.take_append_drop ((sessionUncut choices log.messages incoming).length -
      maxSessionMessages) (reconcileSessionMessages choices _).messages] at hother
    rcases List.mem_append.mp hother with hcut | hkept
    · exact Or.inl ⟨other, List.mem_append_right _ hcut, hcarries⟩
    · exact Or.inr ⟨other, hkept, hcarries⟩

/-! ## Runs -/

theorem cursor_le_channel_iff {choice : Desktop.Choices} {bindingId : String} {slot : ℕ}
    (hslot : channelFor endpoints.channels bindingId = some slot) :
    cursor choices endpoints (.channel slot) origin ≤
        cursor choices (append endpoints (.channel choice bindingId message)) (.channel slot)
          origin ↔
      Keeps (Seen endpoints (.channel slot) origin)
        (fun n => ∃ gone ∈ channelGone (endpoints.messages slot) message,
          Desktop.Carries (originName origin) n gone)
        fun n => ∃ kept ∈ channelKept (endpoints.messages slot) message,
          Desktop.Carries (originName origin) n (normalizeStored kept) := by
  have hafter := isCursor_cursor choices (append endpoints (.channel choice bindingId message))
    (.channel slot) origin
  rw [show Seen (append endpoints (.channel choice bindingId message)) (.channel slot) origin = _
    from funext fun n => propext (seen_append_channel hslot)] at hafter
  apply (isCursor_cursor choices endpoints (.channel slot) origin).le_iff_keeps hafter
  intro k hseen
  obtain ⟨item, hitem, hcarries⟩ := hseen
  rcases mem_gone_or_kept hitem message with hgone | hkept
  · exact Or.inl ⟨item, hgone, hcarries⟩
  · exact Or.inr ⟨item, hkept, hcarries.normalizeStored (originName_cases origin)⟩

theorem cursor_le_session_iff {choice : Mobile.Choices} {id : String} {incoming : ChatMessage} :
    cursor choices endpoints (.session id) origin ≤
        cursor choices (append endpoints (.session choice id incoming)) (.session id) origin ↔
      Keeps (Seen endpoints (.session id) origin)
        (fun n => ∃ gone ∈ sessionGone choice (endpoints.sessions id).messages incoming,
          Mobile.Carries origin n gone)
        fun n => ∃ kept ∈ sliceNewest
            (sessionUncut choice (endpoints.sessions id).messages incoming),
          Mobile.Carries origin n kept := by
  have hafter := isCursor_cursor choices (append endpoints (.session choice id incoming))
    (.session id) origin
  unfold Seen at hafter
  dsimp only at hafter
  rw [messages_append_session] at hafter
  exact (isCursor_cursor choices endpoints (.session id) origin).le_iff_keeps hafter
    fun k hseen => session_gone_or_kept _ hseen

/-- An append to another log leaves the cursor alone. -/
theorem cursor_append_of_seen {event : Append}
    (hseen : ∀ n, Seen endpoints log origin n ↔ Seen (append endpoints event) log origin n) :
    cursor choices endpoints log origin ≤ cursor choices (append endpoints event) log origin :=
  ((isCursor_cursor choices endpoints log origin).eq_of_iff
    (isCursor_cursor choices (append endpoints event) log origin) hseen).le

/-- One append lowers no cursor exactly if it keeps the acknowledged numbers. -/
theorem cursor_le_append_iff (choices : Mobile.Choices) (endpoints : Endpoints) (event : Append) :
    cursor choices endpoints ≤ cursor choices (append endpoints event) ↔
      KeepsAcknowledged endpoints event := by
  cases event with
  | channel choice bindingId message =>
      constructor
      · intro hle slot hslot origin
        exact (cursor_le_channel_iff hslot).mp (hle (.channel slot) origin)
      · intro hkeeps log origin
        cases log with
        | channel slot =>
            by_cases hslot : channelFor endpoints.channels bindingId = some slot
            · exact (cursor_le_channel_iff hslot).mpr (hkeeps slot hslot origin)
            · refine cursor_append_of_seen fun n => ?_
              unfold Seen
              dsimp only
              rw [messages_append_channel_of_ne hslot]
        | session id => exact cursor_append_of_seen fun n => Iff.rfl
  | session choice id incoming =>
      constructor
      · intro hle origin
        exact cursor_le_session_iff.mp (hle (.session id) origin)
      · intro hkeeps log origin
        cases log with
        | channel slot => exact cursor_append_of_seen fun n => Iff.rfl
        | session other =>
            by_cases hother : other = id
            · subst hother
              exact cursor_le_session_iff.mpr (hkeeps origin)
            · refine cursor_append_of_seen fun n => ?_
              unfold Seen append
              dsimp only
              rw [Function.update_of_ne hother]

/-- **When cursors never go back.**  Along a run of appends no cursor of a channel
or a session ever decreases, exactly as long as no append takes out the last
message of a number the cursor acknowledges. -/
theorem cursors_monotone_iff (choices : Mobile.Choices) (start : Endpoints)
    (events : List Append) :
    (∀ earlier later, earlier <+: later → later <+: events →
        cursor choices (run append start earlier) ≤ cursor choices (run append start later)) ↔
      Along append KeepsAcknowledged start events := by
  rw [monotone_iff_along]
  exact along_congr fun endpoints event => cursor_le_append_iff choices endpoints event

/-! ## A channel that fills up -/

/-- The host's message number `n`. -/
def hostMessage (n : ℕ) : PairBackendMessage where
  id := tallyId n
  sender := "desktop"
  text := "hello"
  ts := n
  kind := "chat"
  origin := "host"
  originSeq := n
  after := []
  missingAfter := []
  gatewayMessageId := ""
  gatewayMessageSeq := 0

/-- A desktop with one channel, for `bind_1`, and a mobile without messages. -/
def oneChannel : Endpoints :=
  ⟨Roster.empty.push (newChannel "" "pair_1" "bind_1" "mob_1" 0), fun _ => .empty⟩

def appendHost (n : ℕ) : Append := .channel .plain "bind_1" (hostMessage n)

/-- The channel holds the host's messages `1, …, n` and no others. -/
structure Filled (endpoints : Endpoints) (n : ℕ) : Prop where
  target : channelFor endpoints.channels "bind_1" = some 0
  length : (endpoints.messages 0).length ≤ n
  ids : ∀ item ∈ endpoints.messages 0, ∃ k ≤ n, item.id = tallyId k
  seen : ∀ k, 1 ≤ k → k ≤ n → Seen endpoints (.channel 0) .host k

theorem carries_hostMessage (n : ℕ) :
    Desktop.Carries "host" n (normalizeStored (hostMessage n)) := by
  have horigin : normalizeChatMessageOrigin "host" "desktop" = "host" := by decide
  have hkind : normalizeChatMessageKind "chat" ≠ "system" := by decide
  refine carries_normalizeStored.mpr ⟨?_, horigin, rfl⟩
  rw [isGraphChatMessage, decide_eq_true_eq]
  refine ⟨hkind, ?_⟩
  rw [hostMessage, unicodeTrim_tallyId]
  exact tallyId_ne_empty n

/-- The next message is a new one. -/
theorem Filled.fresh (hfilled : Filled endpoints n) :
    (endpoints.messages 0).find? (sameId (hostMessage (n + 1))) = none := by
  rw [List.find?_eq_none]
  intro item hitem hsame
  obtain ⟨k, hk, hid⟩ := hfilled.ids item hitem
  have heq : tallyId k = tallyId (n + 1) := hid.symm.trans (sameId_iff.mp hsame).2
  have := tallyId_injective heq
  omega

/-- While there is room nothing is taken out. -/
theorem Filled.append (hfilled : Filled endpoints n) (hroom : n < pairChannelMessageLimit) :
    Filled (Chat.append endpoints (appendHost (n + 1))) (n + 1) := by
  obtain ⟨channel, hbefore, hafter⟩ := messages_append_channel .plain (hostMessage (n + 1))
    hfilled.target
  have hlength : channel.messages.length ≤ n := hbefore ▸ hfilled.length
  have hfresh : channel.messages.find? (sameId (hostMessage (n + 1))) = none :=
    hbefore ▸ hfilled.fresh
  refine ⟨?_, ?_, ?_, ?_⟩
  · show channelFor (appendChannelMessage .plain endpoints.channels "bind_1"
      (hostMessage (n + 1))).1 "bind_1" = some 0
    exact (channelFor_appendChannelMessage _).trans hfilled.target
  · rw [appendHost, hafter]
    have hnew : ¬Known channel.messages (hostMessage (n + 1)).id :=
      find?_sameId_eq_none_iff.mp hfresh
    rw [← id_normalizeIncoming] at hnew
    rw [appendMessage, length_reconcile, insertMessage_of_new hnew, length_truncate,
      List.length_append, List.length_singleton]
    omega
  · intro item hitem
    rw [appendHost, hafter] at hitem
    rcases ids_appendMessage_subset (List.mem_map_of_mem hitem) with hold | hnew
    · obtain ⟨old, hmem, hid⟩ := List.mem_map.mp hold
      obtain ⟨k, hk, hkid⟩ := hfilled.ids old (hbefore ▸ hmem)
      exact ⟨k, by omega, hid.symm.trans hkid⟩
    · exact ⟨n + 1, le_rfl, hnew⟩
  · intro k hpos hk
    rw [appendHost, seen_append_channel hfilled.target, channelKept, hfilled.fresh]
    have hdrop : (endpoints.messages 0).length + 1 - pairChannelMessageLimit = 0 := by
      have := hfilled.length
      omega
    rw [hdrop, List.drop_zero]
    rcases Nat.lt_or_ge n k with hlt | hle
    · obtain rfl : k = n + 1 := by omega
      exact ⟨_, List.mem_cons_self, carries_hostMessage _⟩
    · obtain ⟨item, hitem, hcarries⟩ := hfilled.seen k hpos hle
      exact ⟨item, List.mem_cons_of_mem _ hitem, hcarries.normalizeStored (Or.inl rfl)⟩

def fill (n : ℕ) : List Append := (List.range n).map fun k => appendHost (k + 1)

theorem filled_fill (hroom : n ≤ pairChannelMessageLimit) :
    Filled (run append oneChannel (fill n)) n := by
  induction n with
  | zero =>
      have hempty : oneChannel.messages 0 = [] := rfl
      refine ⟨by decide, ?_, ?_, fun k hpos hk => by omega⟩
      · rw [fill, List.range_zero, List.map_nil, run_nil, hempty, List.length_nil]
      · intro item hitem
        rw [fill, List.range_zero, List.map_nil, run_nil, hempty] at hitem
        cases hitem
  | succ n ih =>
      rw [fill, List.range_succ, List.map_append, List.map_cons, List.map_nil, run_concat]
      exact (ih (by omega)).append (by omega)

/-- **A cursor goes back.**  The host's message 1001 pushes one of the thousand
before it out of the channel. -/
theorem not_cursors_monotone :
    ¬∀ choices start events earlier later, earlier <+: later → later <+: events →
      cursor choices (run append start earlier) ≤ cursor choices (run append start later) := by
  intro hall
  have hfilled := filled_fill le_rfl
  generalize hstate : run append oneChannel (fill pairChannelMessageLimit) = endpoints at hfilled
  let choices : Mobile.Choices :=
    ⟨compare, String.instTransOrd, .insertion⟩
  have hmono := hall choices endpoints [appendHost (pairChannelMessageLimit + 1)] []
    [appendHost (pairChannelMessageLimit + 1)] List.nil_prefix List.prefix_rfl (.channel 0) .host
  rw [run_nil, run_cons, run_nil] at hmono
  obtain ⟨channel, hbefore, hafter⟩ := messages_append_channel .plain
    (hostMessage (pairChannelMessageLimit + 1)) hfilled.target
  -- all of `1, …, 1001` are still there
  have hfull := (isCursor_cursor choices endpoints (.channel 0) .host _).mpr hfilled.seen
  have hseen : ∀ k, 1 ≤ k → k ≤ pairChannelMessageLimit + 1 →
      Seen (append endpoints (appendHost (pairChannelMessageLimit + 1))) (.channel 0) .host k := by
    intro k hpos hk
    rcases Nat.lt_or_ge pairChannelMessageLimit k with hlt | hle
    · obtain rfl : k = pairChannelMessageLimit + 1 := by omega
      rw [appendHost, seen_append_channel hfilled.target, channelKept, hfilled.fresh]
      exact ⟨_, List.mem_cons_self, carries_hostMessage _⟩
    · exact (isCursor_cursor choices _ (.channel 0) .host).seen_of_le hpos
        (hle.trans (hfull.trans hmono))
  have hcursor := isCursor_cursor choices
    (append endpoints (appendHost (pairChannelMessageLimit + 1))) (.channel 0) .host
  have hle := ((hcursor _).mpr hseen).trans (hcursor.le_length
    (fun item : PairBackendMessage => (item.originSeq : ℕ∞)) fun k hk => by
      obtain ⟨item, hitem, -, -, hseq⟩ := hk
      exact ⟨item, hitem, congrArg Nat.cast hseq⟩)
  have hroom : channel.messages.length ≤ pairChannelMessageLimit := hbefore ▸ hfilled.length
  rw [appendHost, hafter] at hle
  exact absurd (hle.trans (length_appendMessage hroom)) (by omega)

end OpenClaw.Chat
