import OpenClaw.Chat.Cursor
import OpenClaw.Desktop.MessageOrder

/-!
# Numbering the messages of the host

Three calls of the desktop write a message of the host into a channel.  Each
reads its number in one critical section, `build_outgoing_chat_message`, and
appends the message in a later one; between the two it waits for the network.
An import of the transcript numbers and appends its messages in one critical
section.

The machine here takes these sections as its steps, so that calls interleave in
any order.  `appended` remembers the numbers of the messages that were appended,
and an outgoing message remembers how many there were when its number was read.
`appended_nodup_iff` says exactly when no number is used twice: as long as no
call appends after another message was appended since it read its number.
-/

namespace OpenClaw.Chat

open OpenClaw.Runtime OpenClaw.Desktop Steps

/-- The calls that write a message of the host into a channel. -/
inductive Call
  /-- `send_chat_to_peer` -/
  | sendChat
  /-- `mirror_openclaw_reply_to_mobile` -/
  | mirrorReply
  /-- `notify_openclaw_error_to_mobile` -/
  | notifyError
deriving DecidableEq

def Call.sender : Call → String
  | .sendChat => "desktop"
  | .mirrorReply => "agent"
  | .notifyError => "agent"

/-- `notify_openclaw_error_to_mobile` appends before it sends, the other two only
what they could send. -/
def Call.appends (sent : Bool) : Call → Bool
  | .sendChat => sent
  | .mirrorReply => sent
  | .notifyError => true

/-- A call that has read its number. -/
structure Outgoing where
  call : Call
  message : PairBackendMessage
  /-- How many messages of the host had been appended then. -/
  seen : ℕ

structure Sending where
  channel : PairBackendChannel
  calls : ℕ → Option Outgoing
  /-- The numbers of the messages of the host that were appended, in order. -/
  appended : List ℕ

inductive SendEvent
  /-- A call reads its number.  `suffix` is what `random_id` makes up. -/
  | build (id : ℕ) (call : Call) (text : String) (now : ℕ) (suffix : String)
  /-- A call goes on to append its message. -/
  | append (id : ℕ) (sent : Bool) (choices : Choices)
  /-- The critical section of `sync_openclaw_session_history_now`. -/
  | transcript (entries : List OpenClawTranscriptEntry) (choices : Choices)

def Sending.start (channel : PairBackendChannel) : Sending :=
  ⟨{ channel with messages := [], missingMessageIds := [] }, fun _ => none, []⟩

def build (state : Sending) (id : ℕ) (call : Call) (text : String) (now : ℕ) (suffix : String) :
    Sending :=
  if call = .mirrorReply ∧ unicodeTrim text = "" then state
  else
    { state with
      calls := Function.update state.calls id (some
        { call
          message := buildOutgoingChatMessage ("msg_" ++ suffix) state.channel.messages call.sender
            text now
          seen := state.appended.length }) }

def appendOutgoing (state : Sending) (id : ℕ) (sent : Bool) (choices : Choices) : Sending :=
  match state.calls id with
  | none => state
  | some outgoing =>
      if outgoing.call.appends sent then
        { channel := (appendMessage choices state.channel outgoing.message).1
          calls := Function.update state.calls id none
          appended := state.appended ++ [outgoing.message.originSeq] }
      else { state with calls := Function.update state.calls id none }

/-- The loop of an import over the messages of a channel. -/
def importLoop (entries : List OpenClawTranscriptEntry) (messages : List PairBackendMessage) :
    TranscriptImport :=
  entries.foldl importEntry ⟨messages, nextChannelOriginSeq messages "host", none⟩

/-- The numbers of the messages an import brings in. -/
def importedSeqs (entries : List OpenClawTranscriptEntry) (messages : List PairBackendMessage) :
    List ℕ :=
  ((importLoop entries messages).messages.drop messages.length).map PairBackendMessage.originSeq

def importAll (state : Sending) (entries : List OpenClawTranscriptEntry) (choices : Choices) :
    Sending :=
  { state with
    channel := importTranscript choices entries state.channel
    appended := state.appended ++ importedSeqs entries state.channel.messages }

def sendStep (state : Sending) : SendEvent → Sending
  | .build id call text now suffix => build state id call text now suffix
  | .append id sent choices => appendOutgoing state id sent choices
  | .transcript entries choices => importAll state entries choices

/-- No message of the host was appended since the call read its number, and the
numbers have not run out. -/
def Undisturbed (state : Sending) : SendEvent → Prop
  | .build .. => True
  | .append id sent _ => ∀ outgoing, state.calls id = some outgoing →
      outgoing.call.appends sent = true →
        outgoing.seen = state.appended.length ∧ state.appended.length < u64Max
  | .transcript entries _ => importedSeqs entries state.channel.messages ≠ [] →
      state.appended.length + (importedSeqs entries state.channel.messages).length ≤ u64Max

/-! ## Saturation -/

variable {messages : List PairBackendMessage} {message : PairBackendMessage} {n bound : ℕ}
  {choices : Choices} {channel : PairBackendChannel} {state : Sending} {event : SendEvent}

theorem u64Max_pos : 0 < u64Max := by decide

theorem saturatingSucc_pos (n : ℕ) : 1 ≤ saturatingSucc n := by
  have := u64Max_pos
  unfold saturatingSucc
  omega

theorem saturatingSucc_le (n : ℕ) : saturatingSucc n ≤ u64Max := Nat.min_le_right _ _

theorem saturatingSucc_of_lt (hlt : n < u64Max) : saturatingSucc n = n + 1 := by
  unfold saturatingSucc
  omega

/-- The numbers an import gives from `n` on. -/
def seqsFrom (n count : ℕ) : List ℕ := (List.range count).map fun i => saturatingSucc^[i] n

theorem seqsFrom_succ (n count : ℕ) :
    seqsFrom n (count + 1) = n :: seqsFrom (saturatingSucc n) count := by
  rw [seqsFrom, List.range_succ_eq_map, List.map_cons, List.map_map]
  rfl

@[simp] theorem length_seqsFrom (n count : ℕ) : (seqsFrom n count).length = count := by
  rw [seqsFrom, List.length_map, List.length_range]

theorem mem_seqsFrom {start count : ℕ} (hpos : 1 ≤ start) (hle : start ≤ u64Max)
    (hn : n ∈ seqsFrom start count) : 1 ≤ n ∧ n ≤ u64Max := by
  induction count generalizing start with
  | zero => cases hn
  | succ count ih =>
      rw [seqsFrom_succ] at hn
      rcases List.mem_cons.mp hn with rfl | hn
      · exact ⟨hpos, hle⟩
      · exact ih (saturatingSucc_pos start) (saturatingSucc_le start) hn

/-- Below the limit of `u64` the numbers are consecutive. -/
theorem seqsFrom_eq_range' {count : ℕ} (hroom : n + count ≤ u64Max + 1) :
    seqsFrom n count = List.range' n count := by
  induction count generalizing n with
  | zero => rfl
  | succ count ih =>
      rw [seqsFrom_succ, List.range'_succ]
      cases count with
      | zero => rfl
      | succ count =>
          rw [saturatingSucc_of_lt (by omega)]
          rw [ih (by omega)]

theorem range'_append_seqsFrom {seen count : ℕ} (hroom : seen + count ≤ u64Max) :
    List.range' 1 seen ++ seqsFrom (saturatingSucc seen) count = List.range' 1 (seen + count) := by
  cases count with
  | zero => exact List.append_nil _
  | succ count =>
      rw [saturatingSucc_of_lt (by omega), seqsFrom_eq_range' (by omega), Nat.add_comm seen 1]
      exact List.range'_append_1

/-! ## The numbers of a channel -/

theorem largestOriginSeq_le_iff : largestOriginSeq messages "host" ≤ bound ↔
    ∀ message ∈ messages, ∀ n, Carries "host" n message → n ≤ bound := by
  have htrim : unicodeTrim "host" = "host" := by decide
  unfold largestOriginSeq
  rw [ContiguousPrefix.foldl_max_le_iff, and_iff_right (Nat.zero_le _), htrim]
  constructor
  · intro hall message hmem n hcarries
    obtain ⟨hgraph, horigin, rfl⟩ := hcarries
    refine hall _ (List.mem_map_of_mem (List.mem_filter.mpr
      ⟨List.mem_filter.mpr ⟨hmem, hgraph⟩, decide_eq_true horigin⟩))
  · intro hall value hvalue
    obtain ⟨message, hmessage, rfl⟩ := List.mem_map.mp hvalue
    obtain ⟨hmessage, horigin⟩ := List.mem_filter.mp hmessage
    obtain ⟨hmem, hgraph⟩ := List.mem_filter.mp hmessage
    exact hall message hmem _ ⟨hgraph, of_decide_eq_true horigin, rfl⟩

/-- The host's largest number in the channel is `count`; zero stands for none. -/
structure Reaches (messages : List PairBackendMessage) (count : ℕ) : Prop where
  bound : ∀ message ∈ messages, ∀ n, Carries "host" n (normalizeStored message) → n ≤ count
  last : count = 0 ∨ ∃ message ∈ messages, Carries "host" count message

theorem Reaches.largest {count : ℕ} (hreaches : Reaches messages count) :
    largestOriginSeq messages "host" = count := by
  refine le_antisymm (largestOriginSeq_le_iff.mpr fun message hmem n hcarries => ?_) ?_
  · exact hreaches.bound message hmem n (hcarries.normalizeStored (Or.inl rfl))
  · rcases hreaches.last with rfl | ⟨message, hmem, hcarries⟩
    · exact Nat.zero_le _
    · exact largestOriginSeq_le_iff.mp le_rfl message hmem count hcarries

/-- Reconciling a message again changes no number. -/
theorem carries_normalizeStored_reconcile :
    Carries "host" n (normalizeStored (reconcileMessage messages message)) ↔
      Carries "host" n (normalizeStored message) := by
  rw [carries_normalizeStored, carries_normalizeStored, isGraphChatMessage_reconcileMessage]
  refine and_congr_right fun hgraph => ?_
  rw [reconcileMessage_of_graph hgraph]
  dsimp only
  rw [normalizeChatMessageOrigin_idem]

/-- What a reconciliation keeps of the numbers. -/
theorem Reaches.reconcile {count : ℕ} (choices : Choices)
    (hbound : ∀ message ∈ messages, ∀ n, Carries "host" n (normalizeStored message) → n ≤ count)
    (hlast : count = 0 ∨ ∃ message ∈ messages, Carries "host" count (normalizeStored message)) :
    Reaches (reconcileChannelMessages choices messages).messages count := by
  refine ⟨fun message hmem n hcarries => ?_, hlast.imp_right (exists_carries_reconcile choices).mpr⟩
  obtain ⟨old, hold, rfl⟩ := mem_reconcile.mp hmem
  exact hbound old hold n (carries_normalizeStored_reconcile.mp hcarries)

/-- What an append leaves in a channel was there or is the new message. -/
theorem mem_channelKept {kept : PairBackendMessage} (hkept : kept ∈ channelKept messages message) :
    kept = message ∨ kept ∈ messages := by
  unfold channelKept at hkept
  split at hkept
  · exact (List.mem_cons.mp hkept).imp_right fun hmem => List.mem_of_mem_eraseP hmem
  · exact (List.mem_cons.mp hkept).imp_right fun hmem => List.mem_of_mem_drop hmem

theorem self_mem_channelKept : message ∈ channelKept messages message := by
  unfold channelKept
  split
  · exact List.mem_cons_self
  · exact List.mem_cons_self

/-- Appending the next number. -/
theorem Reaches.append {count : ℕ} (hreaches : Reaches channel.messages count) (hle : count ≤ n)
    (hcarries : Carries "host" n (normalizeStored message)) (choices : Choices) :
    Reaches (appendMessage choices channel message).1.messages n := by
  have hinserted : ∀ number, (∃ stored ∈
      (insertMessage channel.messages (normalizeIncoming message)).1,
        Carries "host" number (normalizeStored stored)) ↔
      ∃ kept ∈ channelKept channel.messages message,
        Carries "host" number (normalizeStored kept) := fun number => by
    rw [← exists_carries_appendMessage choices, ← Desktop.exists_carries_reconcile choices]
    rfl
  refine Reaches.reconcile choices (fun stored hstored number hnumber => ?_) (Or.inr ?_)
  · obtain ⟨kept, hkept, hnumber⟩ := (hinserted number).mp ⟨stored, hstored, hnumber⟩
    rcases mem_channelKept hkept with rfl | hold
    · have hseq := (carries_normalizeStored.mp hcarries).2.2
      have hother := (carries_normalizeStored.mp hnumber).2.2
      omega
    · exact (hreaches.bound kept hold number hnumber).trans hle
  · exact (hinserted n).mpr ⟨message, self_mem_channelKept, hcarries⟩

/-! ## The import loop -/

/-- A message without its gateway annotation. -/
def unannotated (message : PairBackendMessage) : PairBackendMessage :=
  { message with gatewayMessageId := "", gatewayMessageSeq := 0 }

theorem unannotated_annotate {entry : OpenClawTranscriptEntry} (message : PairBackendMessage) :
    unannotated (annotateChannelMessageWithTranscriptMeta entry message) = unannotated message :=
  rfl

theorem carries_unannotated : Carries "host" n (normalizeStored (unannotated message)) ↔
    Carries "host" n (normalizeStored message) := by
  have hgraph : isGraphChatMessage (unannotated message) = isGraphChatMessage message := by
    rw [isGraphChatMessage, isGraphChatMessage, decide_eq_decide]
    exact Iff.rfl
  rw [carries_normalizeStored, carries_normalizeStored, hgraph, unannotated]

theorem carries_importedMessage (imported : TranscriptImport) (entry : OpenClawTranscriptEntry) :
    Carries "host" imported.nextHostSeq (normalizeStored (importedMessage imported entry)) := by
  have hkind : normalizeChatMessageKind "chat" ≠ "system" := by decide
  have horigin : ∀ sender, normalizeChatMessageOrigin "host" sender = "host" := fun sender =>
    normalizeChatMessageOrigin_of_trim (Or.inl rfl) (by decide)
  refine carries_normalizeStored.mpr ⟨?_, horigin _, rfl⟩
  rw [isGraphChatMessage, decide_eq_true_eq]
  exact ⟨hkind, trim_append_ne_empty (by decide) _⟩

theorem importEntry_of_some {imported : TranscriptImport} {entry : OpenClawTranscriptEntry}
    {index : ℕ} (hfind : findForEntry imported.messages entry = some index) :
    importEntry imported entry =
      { imported with
        messages := imported.messages.modify index (annotateChannelMessageWithTranscriptMeta entry)
        previousPairId := imported.messages[index]?.map PairBackendMessage.id } := by
  rw [importEntry, hfind]

theorem importEntry_of_none {imported : TranscriptImport} {entry : OpenClawTranscriptEntry}
    (hfind : findForEntry imported.messages entry = none) :
    importEntry imported entry =
      { messages := imported.messages ++ [importedMessage imported entry]
        nextHostSeq := saturatingSucc imported.nextHostSeq
        previousPairId := some (buildOpenclawTranscriptPairMessageId entry) } := by
  rw [importEntry, hfind]

/-- What the loop did to the messages: some got an annotation, and new ones with
the next numbers were added. -/
structure Grown (before : List PairBackendMessage) (start : ℕ) (after : List PairBackendMessage)
    (new : List PairBackendMessage) : Prop where
  messages : after.map unannotated = (before ++ new).map unannotated
  seqs : new.map PairBackendMessage.originSeq = seqsFrom start new.length
  carries : ∀ message ∈ new, Carries "host" message.originSeq (normalizeStored message)

theorem exists_grown (entries : List OpenClawTranscriptEntry) (imported : TranscriptImport) :
    ∃ new, Grown imported.messages imported.nextHostSeq
      (entries.foldl importEntry imported).messages new := by
  induction entries generalizing imported with
  | nil => exact ⟨[], ⟨by rw [List.append_nil, List.foldl_nil], rfl, by simp⟩⟩
  | cons entry rest ih =>
      obtain ⟨new, hmessages, hseqs, hcarries⟩ := ih (importEntry imported entry)
      rw [List.foldl_cons]
      cases hfind : findForEntry imported.messages entry with
      | some index =>
          have hentry := importEntry_of_some hfind
          refine ⟨new, ⟨hmessages.trans ?_, ?_, hcarries⟩⟩
          · rw [List.map_append, List.map_append, hentry]
            exact congrArg (· ++ new.map unannotated)
              (FirstMatch.map_modify unannotated_annotate imported.messages index)
          · rw [hseqs, hentry]
      | none =>
          have hentry := importEntry_of_none hfind
          refine ⟨importedMessage imported entry :: new, ⟨hmessages.trans ?_, ?_, ?_⟩⟩
          · rw [hentry, List.append_assoc, List.singleton_append]
          · rw [List.map_cons, List.length_cons, seqsFrom_succ, hseqs, hentry]
            rfl
          · intro message hmem
            rcases List.mem_cons.mp hmem with rfl | hmem
            · exact carries_importedMessage imported entry
            · exact hcarries message hmem

namespace Grown

variable {before after new : List PairBackendMessage} {start count : ℕ}
  {entries : List OpenClawTranscriptEntry}

theorem exists_old (hgrown : Grown before start after new) (hmem : message ∈ after) :
    ∃ old ∈ before ++ new, unannotated old = unannotated message := by
  have hmapped := List.mem_map_of_mem (f := unannotated) hmem
  rw [hgrown.messages] at hmapped
  exact List.mem_map.mp hmapped

theorem exists_new (hgrown : Grown before start after new) (hmem : message ∈ before ++ new) :
    ∃ stored ∈ after, unannotated stored = unannotated message := by
  have hmapped := List.mem_map_of_mem (f := unannotated) hmem
  rw [← hgrown.messages] at hmapped
  exact List.mem_map.mp hmapped

theorem seqs_drop (hgrown : Grown before start after new) :
    (after.drop before.length).map PairBackendMessage.originSeq =
      seqsFrom start new.length := by
  have hseq : ∀ messages : List PairBackendMessage, messages.map PairBackendMessage.originSeq =
      (messages.map unannotated).map PairBackendMessage.originSeq := fun messages => by
    rw [List.map_map]
    rfl
  have hlength : before.length = (before.map unannotated).length := (List.length_map _).symm
  rw [hseq, List.map_drop, hgrown.messages, List.map_append, hlength, List.drop_left, ← hseq,
    hgrown.seqs]

/-- The last message that was added is the last of all. -/
theorem exists_last (hgrown : Grown before start after new) (hne : new ≠ []) :
    ∃ front last, after = front ++ [last] ∧
      unannotated last = unannotated (new.getLast hne) := by
  have hsplit : after.map unannotated =
      (before ++ new.dropLast).map unannotated ++ [unannotated (new.getLast hne)] := by
    rw [hgrown.messages, ← List.map_singleton, ← List.map_append, List.append_assoc,
      List.dropLast_concat_getLast hne]
  obtain ⟨front, tail, rfl, -, htail⟩ := List.map_eq_append_iff.mp hsplit
  obtain ⟨last, rfl, hlast⟩ := List.map_eq_singleton_iff.mp htail
  exact ⟨front, last, rfl, hlast⟩

/-- **What an import leaves.**  The host's largest number grows by the number of
messages that were added. -/
theorem reaches (hgrown : Grown before (count + 1) after new) (hreaches : Reaches before count)
    (hlength : before.length ≤ pairChannelMessageLimit) (hroom : count + new.length ≤ u64Max)
    (choices : Choices) :
    Reaches (reconcileChannelMessages choices (truncate after)).messages
      (count + new.length) := by
  have hseqs : new.map PairBackendMessage.originSeq = List.range' (count + 1) new.length := by
    rw [hgrown.seqs, seqsFrom_eq_range' (by omega)]
  have hsame : ∀ {left right : PairBackendMessage} {number : ℕ},
      unannotated left = unannotated right →
        (Carries "host" number (normalizeStored left) ↔
          Carries "host" number (normalizeStored right)) := by
    intro left right number heq
    rw [← carries_unannotated, heq, carries_unannotated]
  refine Reaches.reconcile choices (fun stored hstored number hnumber => ?_) ?_
  · obtain ⟨old, hold, heq⟩ := hgrown.exists_old ((truncate_suffix after).subset hstored)
    have hnumber := (hsame heq).mpr hnumber
    rcases List.mem_append.mp hold with hbefore | hnew
    · exact (hreaches.bound old hbefore number hnumber).trans (Nat.le_add_right _ _)
    · have hseq := (carries_normalizeStored.mp hnumber).2.2
      have hmem := List.mem_map_of_mem (f := PairBackendMessage.originSeq) hnew
      rw [hseqs, List.mem_range'_1] at hmem
      omega
  · by_cases hne : new = []
    · subst hne
      rw [List.length_nil, Nat.add_zero]
      refine hreaches.last.imp_right fun ⟨message, hmem, hcarries⟩ => ?_
      obtain ⟨stored, hstored, heq⟩ := hgrown.exists_new (List.mem_append_left _ hmem)
      have hlengths := congrArg List.length hgrown.messages
      rw [List.length_map, List.length_map, List.append_nil] at hlengths
      rw [truncate_of_le (hlengths.trans_le hlength)]
      exact ⟨stored, hstored, (hsame heq).mpr (hcarries.normalizeStored (Or.inl rfl))⟩
    · obtain ⟨front, last, rfl, heq⟩ := hgrown.exists_last hne
      refine Or.inr ⟨last, ?_, (hsame heq).mpr ?_⟩
      · rw [truncate_concat]
        exact List.mem_append_right _ (List.mem_singleton_self _)
      · have hcarries := hgrown.carries _ (List.getLast_mem hne)
        have hlast : (new.getLast hne).originSeq = count + new.length := by
          have hpos := List.length_pos_iff.mpr hne
          have hmap := List.getLast_map (f := PairBackendMessage.originSeq) (l := new)
            (by simpa using hne)
          rw [← hmap]
          simp only [hseqs, List.getLast_range']
          omega
        rwa [hlast] at hcarries

end Grown

/-! ## The invariant -/

/-- The numbers `1, 2, …` were appended in order, the channel still has the last of
them, and every call under way has read a number no larger than the next one. -/
structure Serial (state : Sending) : Prop where
  appended : state.appended = List.range' 1 state.appended.length
  bound : state.appended.length ≤ u64Max
  reaches : Reaches state.channel.messages state.appended.length
  length : state.channel.messages.length ≤ pairChannelMessageLimit
  calls : ∀ id outgoing, state.calls id = some outgoing →
    outgoing.seen ≤ state.appended.length ∧
      Carries "host" (saturatingSucc outgoing.seen) (normalizeStored outgoing.message)

theorem serial_start (channel : PairBackendChannel) : Serial (.start channel) where
  appended := rfl
  bound := Nat.zero_le _
  reaches := ⟨fun _ hmem => absurd hmem List.not_mem_nil, Or.inl rfl⟩
  length := Nat.zero_le _
  calls _ _ hcall := nomatch hcall

namespace Serial

variable (hserial : Serial state)

include hserial

theorem nextOriginSeq : nextChannelOriginSeq state.channel.messages "host" =
    saturatingSucc state.appended.length := by
  rw [nextChannelOriginSeq, hserial.reaches.largest]

theorem build (id : ℕ) (call : Call) (text : String) (now : ℕ) (suffix : String) :
    Serial (build state id call text now suffix) := by
  unfold Chat.build
  split
  · exact hserial
  · refine ⟨hserial.appended, hserial.bound, hserial.reaches, hserial.length, ?_⟩
    intro other outgoing hcall
    dsimp only at hcall
    rw [Function.update_apply] at hcall
    split at hcall
    · obtain rfl := Option.some.inj hcall
      refine ⟨le_rfl, carries_normalizeStored.mpr ⟨?_, ?_, hserial.nextOriginSeq⟩⟩
      · have hkind : normalizeChatMessageKind "chat" ≠ "system" := by decide
        rw [isGraphChatMessage, decide_eq_true_eq]
        exact ⟨hkind, trim_append_ne_empty (by decide) _⟩
      · exact normalizeChatMessageOrigin_of_trim (Or.inl rfl) (trim_of_origin (Or.inl rfl))
    · exact hserial.calls other outgoing hcall

/-- Dropping a call. -/
theorem drop (id : ℕ) : Serial { state with calls := Function.update state.calls id none } := by
  refine ⟨hserial.appended, hserial.bound, hserial.reaches, hserial.length, ?_⟩
  intro other outgoing hcall
  dsimp only at hcall
  rw [Function.update_apply] at hcall
  split at hcall
  · cases hcall
  · exact hserial.calls other outgoing hcall

theorem appendOutgoing {id : ℕ} {sent : Bool} (choices : Choices)
    (hundisturbed : Undisturbed state (.append id sent choices)) :
    Serial (appendOutgoing state id sent choices) := by
  unfold Chat.appendOutgoing
  cases hcall : state.calls id with
  | none => exact hserial
  | some outgoing =>
      dsimp only
      split
      · next happends =>
        obtain ⟨hseen, hroom⟩ := hundisturbed outgoing hcall happends
        have hcarries := (hserial.calls id outgoing hcall).2
        rw [hseen, saturatingSucc_of_lt hroom] at hcarries
        have hseq : outgoing.message.originSeq = state.appended.length + 1 :=
          (carries_normalizeStored.mp hcarries).2.2
        have hlength : (state.appended ++ [outgoing.message.originSeq]).length =
            state.appended.length + 1 := by rw [List.length_append, List.length_singleton]
        refine ⟨?_, ?_, ?_, length_appendMessage hserial.length, fun other found hfound => ?_⟩
        · dsimp only
          rw [hlength, List.range'_concat, ← hserial.appended, hseq, Nat.one_mul, Nat.add_comm]
        · exact hlength.trans_le hroom
        · dsimp only
          rw [hlength]
          exact hserial.reaches.append (Nat.le_succ _) hcarries choices
        · dsimp only at hfound ⊢
          rw [hlength]
          obtain ⟨hle, hother⟩ := (hserial.drop id).calls other found hfound
          exact ⟨hle.trans (Nat.le_succ _), hother⟩
      · exact hserial.drop id

theorem exists_grown_import (entries : List OpenClawTranscriptEntry) :
    ∃ new, Grown state.channel.messages (saturatingSucc state.appended.length)
        (importLoop entries state.channel.messages).messages new ∧
      importedSeqs entries state.channel.messages =
        seqsFrom (saturatingSucc state.appended.length) new.length := by
  obtain ⟨new, hgrown⟩ := exists_grown entries
    ⟨state.channel.messages, nextChannelOriginSeq state.channel.messages "host", none⟩
  rw [hserial.nextOriginSeq] at hgrown
  have hloop : entries.foldl importEntry ⟨state.channel.messages,
      saturatingSucc state.appended.length, none⟩ =
        importLoop entries state.channel.messages := by
    rw [importLoop, hserial.nextOriginSeq]
  rw [hloop] at hgrown
  exact ⟨new, hgrown, hgrown.seqs_drop⟩

theorem importAll {entries : List OpenClawTranscriptEntry} (choices : Choices)
    (hundisturbed : Undisturbed state (.transcript entries choices)) :
    Serial (importAll state entries choices) := by
  obtain ⟨new, hgrown, hseqs⟩ := hserial.exists_grown_import entries
  have hlengths : (importedSeqs entries state.channel.messages).length = new.length := by
    rw [hseqs, length_seqsFrom]
  have hroom : state.appended.length + new.length ≤ u64Max := by
    by_cases hempty : importedSeqs entries state.channel.messages = []
    · have hzero : new.length = 0 := by rw [← hlengths, hempty, List.length_nil]
      have := hserial.bound
      omega
    · exact hlengths ▸ hundisturbed hempty
  have hlength : (state.appended ++ importedSeqs entries state.channel.messages).length =
      state.appended.length + new.length := by rw [List.length_append, hlengths]
  refine ⟨?_, ?_, ?_, ?_, fun id outgoing hcall => ?_⟩
  · unfold Chat.importAll
    dsimp only
    rw [hlength, hseqs]
    calc state.appended ++ seqsFrom (saturatingSucc state.appended.length) new.length
        = List.range' 1 state.appended.length ++
            seqsFrom (saturatingSucc state.appended.length) new.length :=
          congrArg (· ++ _) hserial.appended
      _ = List.range' 1 (state.appended.length + new.length) := range'_append_seqsFrom hroom
  · exact hlength.trans_le hroom
  · have hnext : Grown state.channel.messages (state.appended.length + 1)
        (importLoop entries state.channel.messages).messages new := by
      refine ⟨hgrown.messages, ?_, hgrown.carries⟩
      rw [hgrown.seqs]
      cases hcount : new.length with
      | zero => rfl
      | succ count => rw [saturatingSucc_of_lt (by omega)]
    unfold Chat.importAll
    dsimp only
    rw [hlength]
    exact hnext.reaches hserial.reaches hserial.length hroom choices
  · exact length_importTranscript choices entries state.channel
  · obtain ⟨hle, hcarries⟩ := hserial.calls id outgoing hcall
    refine ⟨?_, hcarries⟩
    exact hle.trans (hlength ▸ Nat.le_add_right _ _)

theorem keep (hundisturbed : Undisturbed state event) : Serial (sendStep state event) := by
  cases event with
  | build id call text now suffix => exact hserial.build id call text now suffix
  | append id sent choices => exact hserial.appendOutgoing choices hundisturbed
  | transcript entries choices => exact hserial.importAll choices hundisturbed

theorem nodup : state.appended.Nodup := hserial.appended ▸ List.nodup_range'

end Serial

/-- Numbers are only added. -/
theorem prefix_appended (state : Sending) (event : SendEvent) :
    state.appended <+: (sendStep state event).appended := by
  cases event with
  | build id call text now suffix =>
      rw [sendStep, build]
      split
      · exact List.prefix_rfl
      · exact List.prefix_rfl
  | append id sent choices =>
      rw [sendStep, appendOutgoing]
      split
      · exact List.prefix_rfl
      · split
        · exact List.prefix_append _ _
        · exact List.prefix_rfl
  | transcript entries choices => exact List.prefix_append _ _

end OpenClaw.Chat
