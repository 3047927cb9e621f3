import OpenClaw.Chat.Sending
import OpenClaw.Desktop.GatewayRuns
import OpenClaw.Desktop.Redelivery

/-!
# Importing the same transcript again

An entry of the agent's history is matched to a message by its gateway id, else to one
without gateway id by text, role and time, else it becomes a message.  However ambiguous
the match by text is, it is made once: the message has a gateway id from then on, and the
next import finds it by that.

So what counts is how many messages carry a gateway id.  `countP_importEntry` says that an
entry changes this for its own id only, to one, and everything else follows: the messages
of a channel carry every gateway id at most once (`annotatedOnce_run`), an import leaves
one message for each entry, and importing again changes nothing but annotations.
-/

namespace OpenClaw.Chat

open OpenClaw.Runtime OpenClaw.Desktop Steps StableSort

/-! ## Reading the history -/

/-- The field `key` of `__openclaw`. -/
def openclawMeta (value : Json) (key : String) : Option Json :=
  ((value.field "__openclaw").bind asObject).bind (Json.field key)

def extractOpenclawTranscriptMessageId (value : Json) : String :=
  let found := ((openclawMeta value "id").bind asStr).or
    (((value.field "id").bind asStr).or ((value.field "messageId").bind asStr))
  (found.map unicodeTrim).getD ""

def extractOpenclawTranscriptMessageSeq (value : Json) (fallbackSeq : ℕ) : ℕ :=
  ((openclawMeta value "seq").bind asU64).getD fallbackSeq

def extractOpenclawTranscriptMessageRole (value : Json) : String :=
  (((value.field "role").bind asStr).map fun role => asciiLowercase (unicodeTrim role)).getD ""

def parseOpenclawTranscriptEntry (now fallbackSeq : ℕ) (value : Json) :
    Option OpenClawTranscriptEntry :=
  let role := extractOpenclawTranscriptMessageRole value
  let text := extractOpenclawMessageText value
  let gatewayMessageId := extractOpenclawTranscriptMessageId value
  if role ≠ "user" ∧ role ≠ "assistant" then none
  else if unicodeTrim text = "" then none
  else if role = "assistant" ∧ asciiLowercase (unicodeTrim text) = "no_reply" then none
  else if gatewayMessageId = "" then none
  else
    some
      { gatewayMessageId
        gatewayMessageSeq := extractOpenclawTranscriptMessageSeq value fallbackSeq
        role
        text
        ts := ((value.field "timestamp").bind asU64).getD now }

/-- The entries of the history, numbered from one where they have no number. -/
def transcriptEntries (now : ℕ) (history : List Json) : List OpenClawTranscriptEntry :=
  history.zipIdx.filterMap fun indexed =>
    parseOpenclawTranscriptEntry now (indexed.2 + 1) indexed.1

/-- `sync_openclaw_session_history_now`, on the channel of the session. -/
def syncHistory (choices : Choices) (now : ℕ) (history : List Json)
    (channel : PairBackendChannel) : PairBackendChannel :=
  if transcriptEntries now history = [] then channel
  else importTranscript choices (transcriptEntries now history) channel

/-! ## Which message carries an entry -/

/-- The message is annotated with the gateway id. -/
def annotated (gatewayId : String) (message : PairBackendMessage) : Bool :=
  decide (unicodeTrim message.gatewayMessageId = gatewayId)

def CarriedOnce (entries : List OpenClawTranscriptEntry) (messages : List PairBackendMessage) :
    Prop :=
  ∀ entry ∈ entries, messages.countP (annotated (unicodeTrim entry.gatewayMessageId)) = 1

/-- The annotations of a channel: every gateway id at most once, and none on a system
message. -/
structure AnnotatedOnce (messages : List PairBackendMessage) : Prop where
  once : ∀ gatewayId, gatewayId ≠ "" → messages.countP (annotated gatewayId) ≤ 1
  system : ∀ message ∈ messages, normalizeChatMessageKind message.kind = "system" →
    unicodeTrim message.gatewayMessageId = ""

/-- What an import of a history does to a channel. -/
structure ImportLaws (now : ℕ) (history : List Json) (channel : PairBackendChannel) : Prop where
  loop : CarriedOnce (transcriptEntries now history)
    (importLoop (transcriptEntries now history) channel.messages).messages
  /-- No message is annotated by two entries. -/
  injective : ∀ entry ∈ transcriptEntries now history, ∀ other ∈ transcriptEntries now history,
    ∀ message, annotated (unicodeTrim entry.gatewayMessageId) message →
      annotated (unicodeTrim other.gatewayMessageId) message → entry = other
  /-- Unless they run out, the numbers of the imported messages are distinct and new. -/
  numbers :
    let seqs := importedSeqs (transcriptEntries now history) channel.messages
    largestOriginSeq channel.messages "host" + seqs.length ≤ u64Max →
      seqs.Nodup ∧ ∀ n ∈ seqs, ∀ old ∈ channel.messages, ¬Carries "host" n old
  kept : ∀ choices, CarriedOnce (transcriptEntries now history)
    (syncHistory choices now history channel).messages
  /-- Another import imports nothing and changes no message but for its annotation. -/
  again : ∀ choices choices' now',
    let first := syncHistory choices now history channel
    importedSeqs (transcriptEntries now' history) first.messages = [] ∧
      ((syncHistory choices' now' history first).messages.map chatFields).Perm
        (first.messages.map chatFields)

variable {messages : List PairBackendMessage} {message : PairBackendMessage}
  {entry : OpenClawTranscriptEntry} {entries : List OpenClawTranscriptEntry}
  {state : TranscriptImport} {gatewayId : String} {channel : PairBackendChannel} {index : ℕ}

theorem annotated_iff :
    annotated gatewayId message = true ↔ unicodeTrim message.gatewayMessageId = gatewayId :=
  decide_eq_true_iff

/-- A changed message counts anew. -/
theorem countP_modify (p : PairBackendMessage → Bool)
    (change : PairBackendMessage → PairBackendMessage) (hindex : messages[index]? = some message) :
    (messages.modify index change).countP p + (if p message then 1 else 0) =
      messages.countP p + (if p (change message) then 1 else 0) := by
  induction messages generalizing index with
  | nil => cases hindex
  | cons head tail ih =>
      cases index with
      | zero =>
          cases hindex
          rw [List.modify_zero_cons, List.countP_cons, List.countP_cons]
          omega
      | succ index =>
          have htail := ih hindex
          rw [List.modify_succ_cons, List.countP_cons, List.countP_cons]
          omega

/-! ### Finding the message of an entry -/

theorem standsFor_blank (hstands : standsFor entry message = true) :
    normalizeChatMessageKind message.kind ≠ "system" ∧
      unicodeTrim message.gatewayMessageId = "" := by
  have hall := of_decide_eq_true hstands
  exact ⟨hall.1, hall.2.1⟩

/-- No message is annotated with the entry's gateway id. -/
def Unknown (messages : List PairBackendMessage) (entry : OpenClawTranscriptEntry) : Prop :=
  ∀ message ∈ messages, ¬annotated (unicodeTrim entry.gatewayMessageId) message = true

/-- What `findForEntry` can find. -/
inductive FoundFor (messages : List PairBackendMessage) (entry : OpenClawTranscriptEntry) :
    Option ℕ → Prop
  | byId {index : ℕ} {message : PairBackendMessage} (hat : messages[index]? = some message)
      (hmessage : annotated (unicodeTrim entry.gatewayMessageId) message = true) :
      FoundFor messages entry (some index)
  | byText {index : ℕ} {message : PairBackendMessage} (hunknown : Unknown messages entry)
      (hat : messages[index]? = some message) (hstands : standsFor entry message = true) :
      FoundFor messages entry (some index)
  | new (hunknown : Unknown messages entry) : FoundFor messages entry none

theorem foundFor (messages : List PairBackendMessage) (entry : OpenClawTranscriptEntry) :
    FoundFor messages entry (findForEntry messages entry) := by
  unfold findForEntry
  split
  · next index hindex =>
      obtain ⟨hlt, hat, -⟩ := List.findIdx?_eq_some_iff_getElem.mp hindex
      exact .byId (List.getElem?_eq_getElem hlt) hat
  · next hnone =>
      have hunknown : Unknown messages entry := fun message hmem =>
        Bool.eq_false_iff.mp (List.findIdx?_eq_none_iff.mp hnone message hmem)
      unfold findChannelMessageForTranscriptEntry
      dsimp only
      split
      · exact .new hunknown
      · cases hhead : (sortBy _ (messages.zipIdx.filter _)).head? with
        | none => exact .new hunknown
        | some indexed =>
            have hmem := List.mem_of_mem_head? hhead
            rw [mem_sortBy] at hmem
            obtain ⟨hzip, hstands⟩ := List.mem_filter.mp hmem
            exact .byText hunknown (List.mem_zipIdx_iff_getElem?.mp hzip) hstands

theorem Unknown.countP (hunknown : Unknown messages entry) :
    messages.countP (annotated (unicodeTrim entry.gatewayMessageId)) = 0 :=
  List.countP_eq_zero.mpr hunknown

/-- What is known is found by its id. -/
theorem FoundFor.byId_of_known {result : Option ℕ} (hfound : FoundFor messages entry result)
    (hknown : ¬Unknown messages entry) :
    ∃ index message, result = some index ∧ messages[index]? = some message ∧
      unicodeTrim message.gatewayMessageId = unicodeTrim entry.gatewayMessageId := by
  cases hfound with
  | byId hat hmessage => exact ⟨_, _, rfl, hat, annotated_iff.mp hmessage⟩
  | byText hunknown _ _ => exact absurd hunknown hknown
  | new hunknown => exact absurd hunknown hknown

/-! ### What one entry changes -/

theorem annotated_annotate : annotated gatewayId
      (annotateChannelMessageWithTranscriptMeta entry message) =
    decide (unicodeTrim entry.gatewayMessageId = gatewayId) := rfl

/-- **One entry.**  Its gateway id is carried once afterwards, the others as before. -/
theorem countP_importEntry (hgateway : gatewayId ≠ "")
    (honce : state.messages.countP (annotated gatewayId) ≤ 1) :
    (importEntry state entry).messages.countP (annotated gatewayId) =
      if gatewayId = unicodeTrim entry.gatewayMessageId then 1
      else state.messages.countP (annotated gatewayId) := by
  have hfound := foundFor state.messages entry
  cases hfind : findForEntry state.messages entry with
  | some index =>
      rw [hfind] at hfound
      rw [importEntry_of_some hfind]
      show (state.messages.modify index _).countP (annotated gatewayId) = _
      cases hfound with
      | @byId _ message hat hmessage =>
          have hcount := countP_modify (annotated gatewayId)
            (annotateChannelMessageWithTranscriptMeta entry) hat
          have hsame : annotated gatewayId
              (annotateChannelMessageWithTranscriptMeta entry message) =
                annotated gatewayId message := by
            rw [annotated_annotate, annotated, annotated_iff.mp hmessage]
          rw [hsame] at hcount
          split
          · next hid =>
              rw [← hid] at hmessage
              have hpos : 0 < state.messages.countP (annotated gatewayId) :=
                List.countP_pos_iff.mpr ⟨message, List.mem_of_getElem? hat, hmessage⟩
              omega
          · omega
      | @byText _ message hunknown hat hstands =>
          have hcount := countP_modify (annotated gatewayId)
            (annotateChannelMessageWithTranscriptMeta entry) hat
          have hbefore : annotated gatewayId message = false := by
            rw [annotated, (standsFor_blank hstands).2]
            exact decide_eq_false (Ne.symm hgateway)
          have hzero := hunknown.countP
          rw [annotated_annotate, hbefore] at hcount
          split
          · next hid =>
              rw [← hid] at hcount hzero
              simp only [decide_true, if_true, Bool.false_eq_true, if_false] at hcount
              omega
          · next hid =>
              simp only [Ne.symm hid, decide_false, Bool.false_eq_true, if_false] at hcount
              omega
  | none =>
      rw [hfind] at hfound
      cases hfound with
      | new hunknown =>
          have hnew : annotated gatewayId (importedMessage state entry) =
              decide (unicodeTrim entry.gatewayMessageId = gatewayId) := rfl
          have hzero := hunknown.countP
          rw [importEntry_of_none hfind]
          show (state.messages ++ [importedMessage state entry]).countP (annotated gatewayId) = _
          rw [List.countP_append, List.countP_singleton, hnew]
          by_cases hid : gatewayId = unicodeTrim entry.gatewayMessageId
          · rw [← hid] at hzero
            simp [← hid, hzero]
          · simp [hid, Ne.symm hid]

/-- An annotation changes the annotation of one message. -/
theorem mem_modify_annotate {other : PairBackendMessage}
    (hat : messages[index]? = some message)
    (hmem : other ∈ messages.modify index (annotateChannelMessageWithTranscriptMeta entry)) :
    other = annotateChannelMessageWithTranscriptMeta entry message ∨ other ∈ messages := by
  obtain ⟨position, hposition⟩ := List.mem_iff_getElem?.mp hmem
  rw [List.getElem?_modify] at hposition
  obtain ⟨old, hold, rfl⟩ := Option.map_eq_some_iff.mp hposition
  split
  · next hsame =>
      rw [← hsame, hat] at hold
      cases hold
      exact .inl rfl
  · exact .inr (List.mem_of_getElem? hold)

theorem AnnotatedOnce.importEntry (honce : AnnotatedOnce state.messages)
    (entry : OpenClawTranscriptEntry) : AnnotatedOnce (importEntry state entry).messages where
  once := by
    intro gatewayId hgateway
    have hbefore := honce.once gatewayId hgateway
    rw [countP_importEntry hgateway hbefore]
    split
    · exact le_rfl
    · exact hbefore
  system := by
    intro other hother hkind
    have hfound := foundFor state.messages entry
    cases hfind : findForEntry state.messages entry with
    | some index =>
        rw [hfind] at hfound
        rw [importEntry_of_some hfind] at hother
        cases hfound with
        | byId hat hmessage =>
            rcases mem_modify_annotate hat hother with rfl | hold
            · exact (annotated_iff.mp hmessage).symm.trans
                (honce.system _ (List.mem_of_getElem? hat) hkind)
            · exact honce.system other hold hkind
        | byText _ hat hstands =>
            rcases mem_modify_annotate hat hother with rfl | hold
            · exact absurd hkind (standsFor_blank hstands).1
            · exact honce.system other hold hkind
    | none =>
        rw [importEntry_of_none hfind] at hother
        rcases List.mem_append.mp hother with hold | hnew
        · exact honce.system other hold hkind
        · rw [List.mem_singleton.mp hnew] at hkind
          have hchat : normalizeChatMessageKind "chat" ≠ "system" := by decide
          exact absurd hkind hchat

/-! ### The whole loop -/

theorem AnnotatedOnce.foldl (honce : AnnotatedOnce state.messages)
    (entries : List OpenClawTranscriptEntry) :
    AnnotatedOnce (entries.foldl Desktop.importEntry state).messages := by
  induction entries generalizing state with
  | nil => exact honce
  | cons entry rest ih => exact ih (honce.importEntry entry)

/-- After the loop the gateway ids of the entries are carried once, the others as before. -/
theorem countP_foldl_importEntry (honce : AnnotatedOnce state.messages)
    (hgateway : gatewayId ≠ "") :
    (entries.foldl importEntry state).messages.countP (annotated gatewayId) =
      if gatewayId ∈ entries.map fun entry => unicodeTrim entry.gatewayMessageId then 1
      else state.messages.countP (annotated gatewayId) := by
  induction entries generalizing state with
  | nil => rfl
  | cons entry rest ih =>
      rw [List.foldl_cons, ih (honce.importEntry entry),
        countP_importEntry hgateway (honce.once gatewayId hgateway)]
      simp only [List.map_cons, List.mem_cons]
      by_cases hrest : gatewayId ∈ rest.map fun entry => unicodeTrim entry.gatewayMessageId
      · rw [if_pos hrest, if_pos (.inr hrest)]
      · rw [if_neg hrest]
        simp only [hrest, or_false]

theorem carriedOnce_importLoop (honce : AnnotatedOnce messages)
    (hgateway : ∀ entry ∈ entries, unicodeTrim entry.gatewayMessageId ≠ "") :
    CarriedOnce entries (importLoop entries messages).messages := by
  intro entry hentry
  have hstart : AnnotatedOnce
      (TranscriptImport.mk messages (nextChannelOriginSeq messages "host") none).messages := honce
  rw [importLoop, countP_foldl_importEntry hstart (hgateway entry hentry), if_pos]
  exact List.mem_map_of_mem hentry

/-! ### Importing again -/

theorem not_unknown_iff :
    ¬Unknown messages entry ↔ unicodeTrim entry.gatewayMessageId ∈
      messages.map fun message => unicodeTrim message.gatewayMessageId := by
  unfold Unknown annotated
  simp only [decide_eq_true_eq, List.mem_map, not_forall, not_not, exists_prop]

/-- Entries that are known change what depends on the annotation only. -/
theorem map_foldl_importEntry {β : Type*} {f : PairBackendMessage → β}
    (hf : ∀ entry message,
      unicodeTrim message.gatewayMessageId = unicodeTrim entry.gatewayMessageId →
        f (annotateChannelMessageWithTranscriptMeta entry message) = f message)
    (hknown : ∀ entry ∈ entries, ¬Unknown state.messages entry) :
    (entries.foldl importEntry state).messages.map f = state.messages.map f := by
  induction entries generalizing state with
  | nil => rfl
  | cons entry rest ih =>
      rw [List.forall_mem_cons] at hknown
      obtain ⟨index, message, hfind, hat, hsame⟩ :=
        (foundFor state.messages entry).byId_of_known hknown.1
      have hentry := importEntry_of_some hfind
      have hids : (importEntry state entry).messages.map
            (fun message => unicodeTrim message.gatewayMessageId) =
          state.messages.map fun message => unicodeTrim message.gatewayMessageId := by
        rw [hentry]
        exact FirstMatch.map_modify_of_getElem? hat hsame.symm
      have hrest : ∀ other ∈ rest, ¬Unknown (importEntry state entry).messages other := by
        intro other hother
        rw [not_unknown_iff, hids, ← not_unknown_iff]
        exact hknown.2 other hother
      rw [List.foldl_cons, ih hrest, hentry]
      exact FirstMatch.map_modify_of_getElem? hat (hf entry message hsame)

/-! ### Reconciling -/

theorem gatewayMessageId_markMissing (known : List String) (message : PairBackendMessage) :
    (markMissing known message).gatewayMessageId = message.gatewayMessageId := by
  unfold markMissing
  split
  · rfl
  · rfl

theorem kind_markMissing (known : List String) (message : PairBackendMessage) :
    (markMissing known message).kind = message.kind := by
  unfold markMissing
  split
  · rfl
  · rfl

theorem gatewayMessageId_normalizeIncoming (message : PairBackendMessage) :
    (normalizeIncoming message).gatewayMessageId =
      if normalizeChatMessageKind message.kind = "system" then ""
      else message.gatewayMessageId := by
  by_cases hsystem : normalizeChatMessageKind message.kind = "system"
  · rw [normalizeIncoming_of_system hsystem, if_pos hsystem, clearSystem]
  · rw [normalizeIncoming_of_chat hsystem, if_neg hsystem]

/-- Reconciling takes the annotations of the system messages away and keeps the others. -/
theorem gatewayMessageId_reconcileMessage (messages : List PairBackendMessage)
    (message : PairBackendMessage) :
    (reconcileMessage messages message).gatewayMessageId =
      if normalizeChatMessageKind message.kind = "system" then ""
      else message.gatewayMessageId := by
  have hstored : (normalizeStored message).gatewayMessageId =
      (normalizeIncoming message).gatewayMessageId := by
    rw [normalizeStored]
  rw [reconcileMessage, gatewayMessageId_markMissing, hstored, gatewayMessageId_normalizeIncoming]

theorem annotated_reconcileMessage (hgateway : gatewayId ≠ "") :
    annotated gatewayId (reconcileMessage messages message) = true ↔
      normalizeChatMessageKind message.kind ≠ "system" ∧ annotated gatewayId message = true := by
  rw [annotated_iff, annotated_iff, gatewayMessageId_reconcileMessage]
  by_cases hsystem : normalizeChatMessageKind message.kind = "system"
  · rw [if_pos hsystem]
    have htrim : unicodeTrim "" = "" := trim_empty
    constructor
    · exact fun hempty => absurd (hempty.symm.trans htrim) hgateway
    · exact fun hboth => absurd hsystem hboth.1
  · rw [if_neg hsystem]
    exact (and_iff_right hsystem).symm

theorem countP_reconcile_le (choices : Choices) (hgateway : gatewayId ≠ "") :
    (reconcileChannelMessages choices messages).messages.countP (annotated gatewayId) ≤
      messages.countP (annotated gatewayId) := by
  rw [(reconcile_perm choices messages).countP_eq, List.countP_map]
  apply List.countP_mono_left
  intro message _ hannotated
  rw [Function.comp_apply, annotated_reconcileMessage hgateway] at hannotated
  exact hannotated.2

theorem AnnotatedOnce.countP_reconcile (honce : AnnotatedOnce messages) (choices : Choices)
    (hgateway : gatewayId ≠ "") :
    (reconcileChannelMessages choices messages).messages.countP (annotated gatewayId) =
      messages.countP (annotated gatewayId) := by
  rw [(reconcile_perm choices messages).countP_eq, List.countP_map]
  apply List.countP_congr
  intro message hmem
  rw [Function.comp_apply, annotated_reconcileMessage hgateway]
  refine and_iff_right_of_imp fun hannotated hsystem => hgateway ?_
  rw [← annotated_iff.mp hannotated, honce.system message hmem hsystem]

/-- However the messages were, a reconciliation leaves no system message annotated. -/
theorem annotatedOnce_reconcile (choices : Choices)
    (honce : ∀ gatewayId, gatewayId ≠ "" → messages.countP (annotated gatewayId) ≤ 1) :
    AnnotatedOnce (reconcileChannelMessages choices messages).messages where
  once := fun gatewayId hgateway =>
    (countP_reconcile_le choices hgateway).trans (honce gatewayId hgateway)
  system := by
    intro message hmem hsystem
    obtain ⟨old, -, rfl⟩ := mem_reconcile.mp hmem
    have hkind : (reconcileMessage messages old).kind = normalizeChatMessageKind old.kind :=
      (kind_markMissing _ _).trans (kind_normalizeStored old)
    rw [hkind, normalizeChatMessageKind_idem] at hsystem
    rw [gatewayMessageId_reconcileMessage, if_pos hsystem]
    exact trim_empty

/-! ## The channels of the backend -/

/-- What the backend appends carries no annotation. -/
def FromBackend (_ : PairBackendChannel) : ChannelEvent → Prop
  | .append _ message => unicodeTrim message.gatewayMessageId = ""
  | .transcript _ _ => True

theorem fromBackend_outgoing (choices : Choices) (randomId sender text : String) (ts : ℕ) :
    FromBackend channel
      (.append choices (buildOutgoingChatMessage randomId messages sender text ts)) :=
  trim_empty

theorem fromBackend_fromMobile {env : Env} {payload : Json} (choices : Choices)
    (hparse : parseOpenclawChatPayload env payload = some message) :
    FromBackend channel (.append choices (fromMobile message)) := by
  show unicodeTrim (fromMobile message).gatewayMessageId = ""
  rw [(mobileChat_of_parse hparse).gatewayMessageId]
  exact trim_empty

theorem countP_insertMessage_le (hgateway : gatewayId ≠ "")
    (hmessage : unicodeTrim message.gatewayMessageId = "") :
    (insertMessage messages message).1.countP (annotated gatewayId) ≤
      messages.countP (annotated gatewayId) := by
  have hblank : ∀ {other : PairBackendMessage},
      other.gatewayMessageId = message.gatewayMessageId → ¬annotated gatewayId other = true := by
    intro other hother hannotated
    rw [annotated_iff, hother, hmessage] at hannotated
    exact hgateway hannotated.symm
  unfold insertMessage
  split
  · next found hfind =>
      obtain ⟨before, after, hsplit, -, hupdate⟩ :=
        FirstMatch.split_updateFirst (f := overwrite message) hfind
      dsimp only
      have hnew : ¬annotated gatewayId (overwrite message found) = true := hblank rfl
      rw [hupdate, hsplit, List.countP_append, List.countP_append, List.countP_cons_of_neg hnew,
        List.countP_cons]
      omega
  · have hsublist := (truncate_suffix (messages ++ [message])).sublist
    have hnew : ¬annotated gatewayId message = true := hblank rfl
    have hlast : [message].countP (annotated gatewayId) = 0 := List.countP_cons_of_neg hnew
    calc (truncate (messages ++ [message])).countP (annotated gatewayId)
        ≤ (messages ++ [message]).countP (annotated gatewayId) := hsublist.countP_le
      _ = messages.countP (annotated gatewayId) := by rw [List.countP_append, hlast, Nat.add_zero]

theorem annotatedOnce_step (honce : AnnotatedOnce channel.messages) {event : ChannelEvent}
    (hevent : FromBackend channel event) : AnnotatedOnce (channelStep channel event).messages := by
  cases event with
  | append choices message =>
      apply annotatedOnce_reconcile
      intro gatewayId hgateway
      refine le_trans (countP_insertMessage_le hgateway ?_) (honce.once gatewayId hgateway)
      have hblank : unicodeTrim message.gatewayMessageId = "" := hevent
      unfold normalizeIncoming
      split
      · exact trim_empty
      · exact hblank
  | transcript choices entries =>
      apply annotatedOnce_reconcile
      intro gatewayId hgateway
      have hloop : AnnotatedOnce (importLoop entries channel.messages).messages :=
        AnnotatedOnce.foldl honce entries
      exact (truncate_suffix _).sublist.countP_le.trans (hloop.once gatewayId hgateway)

/-- **The channels of the backend** carry every gateway id at most once, and none on a
system message, in every run from a channel without messages. -/
theorem annotatedOnce_run {start : PairBackendChannel} {events : List ChannelEvent}
    (hstart : start.messages = []) (hevents : Along channelStep FromBackend start events) :
    AnnotatedOnce (run channelStep start events).messages := by
  have hempty : AnnotatedOnce start.messages := by
    rw [hstart]
    exact ⟨fun _ _ => Nat.zero_le 1, fun _ hmem => nomatch hmem⟩
  have hstep : ∀ channel event, AnnotatedOnce channel.messages → FromBackend channel event →
      AnnotatedOnce (channelStep channel event).messages :=
    fun _ _ honce hevent => annotatedOnce_step honce hevent
  exact run_preserves hstep hempty hevents

/-! ## The import of a history -/

section History

variable {now : ℕ} {history : List Json}

theorem parseOpenclawTranscriptEntry_trimmed {value : Json} {fallbackSeq : ℕ}
    (hparse : parseOpenclawTranscriptEntry now fallbackSeq value = some entry) :
    unicodeTrim entry.gatewayMessageId = entry.gatewayMessageId ∧
      entry.gatewayMessageId ≠ "" := by
  have htrim : unicodeTrim (extractOpenclawTranscriptMessageId value) =
      extractOpenclawTranscriptMessageId value := by
    unfold extractOpenclawTranscriptMessageId
    dsimp only
    cases (((openclawMeta value "id").bind asStr).or
        (((value.field "id").bind asStr).or ((value.field "messageId").bind asStr))) with
    | none => exact trim_empty
    | some id => exact trim_trim id
  unfold parseOpenclawTranscriptEntry at hparse
  dsimp only at hparse
  split at hparse
  · cases hparse
  split at hparse
  · cases hparse
  split at hparse
  · cases hparse
  split at hparse
  · cases hparse
  · next hid =>
      cases hparse
      exact ⟨htrim, hid⟩

theorem transcriptEntries_trimmed (hentry : entry ∈ transcriptEntries now history) :
    unicodeTrim entry.gatewayMessageId = entry.gatewayMessageId ∧
      entry.gatewayMessageId ≠ "" := by
  obtain ⟨indexed, -, hparse⟩ := List.mem_filterMap.mp hentry
  exact parseOpenclawTranscriptEntry_trimmed hparse

theorem ne_empty_of_mem (hentry : entry ∈ transcriptEntries now history) :
    unicodeTrim entry.gatewayMessageId ≠ "" := by
  obtain ⟨htrim, hne⟩ := transcriptEntries_trimmed hentry
  rwa [htrim]

/-- The clock decides about times only. -/
theorem gatewayIds_transcriptEntries (now now' : ℕ) (history : List Json) :
    (transcriptEntries now history).map OpenClawTranscriptEntry.gatewayMessageId =
      (transcriptEntries now' history).map OpenClawTranscriptEntry.gatewayMessageId := by
  unfold transcriptEntries
  rw [List.map_filterMap, List.map_filterMap]
  refine List.filterMap_congr fun indexed _ => ?_
  unfold parseOpenclawTranscriptEntry
  dsimp only
  split
  · rfl
  split
  · rfl
  split
  · rfl
  split
  · rfl
  · rfl

theorem messages_syncHistory (choices : Choices)
    (hroom : (importLoop (transcriptEntries now history) channel.messages).messages.length ≤
      pairChannelMessageLimit) (hsome : transcriptEntries now history ≠ []) :
    (syncHistory choices now history channel).messages =
      (reconcileChannelMessages choices
        (importLoop (transcriptEntries now history) channel.messages).messages).messages := by
  rw [syncHistory, if_neg hsome]
  show (reconcileChannelMessages choices (truncate _)).messages = _
  rw [← truncate_of_le hroom]
  rfl

theorem carriedOnce_syncHistory (choices : Choices) (honce : AnnotatedOnce channel.messages)
    (hroom : (importLoop (transcriptEntries now history) channel.messages).messages.length ≤
      pairChannelMessageLimit) :
    CarriedOnce (transcriptEntries now history)
      (syncHistory choices now history channel).messages := by
  intro entry hentry
  have hloop : AnnotatedOnce
      (importLoop (transcriptEntries now history) channel.messages).messages :=
    AnnotatedOnce.foldl honce _
  have hentries : ∀ entry ∈ transcriptEntries now history,
      unicodeTrim entry.gatewayMessageId ≠ "" := fun _ hentry => ne_empty_of_mem hentry
  rw [messages_syncHistory choices hroom (List.ne_nil_of_mem hentry),
    hloop.countP_reconcile choices (hentries entry hentry)]
  exact carriedOnce_importLoop honce hentries entry hentry

/-- The numbers of the imported messages, as long as they do not run out. -/
theorem importedSeqs_new (entries : List OpenClawTranscriptEntry)
    (messages : List PairBackendMessage)
    (hfits : largestOriginSeq messages "host" + (importedSeqs entries messages).length ≤ u64Max) :
    (importedSeqs entries messages).Nodup ∧
      ∀ n ∈ importedSeqs entries messages, ∀ old ∈ messages, ¬Carries "host" n old := by
  obtain ⟨new, hgrown⟩ := exists_grown entries
    ⟨messages, nextChannelOriginSeq messages "host", none⟩
  have hseqs : importedSeqs entries messages =
      seqsFrom (nextChannelOriginSeq messages "host") new.length := hgrown.seqs_drop
  rw [hseqs, length_seqsFrom] at hfits
  rw [hseqs]
  cases hcount : new.length with
  | zero => exact ⟨List.nodup_nil, fun n hn => nomatch hn⟩
  | succ count =>
      rw [hcount] at hfits
      have hnext : nextChannelOriginSeq messages "host" = largestOriginSeq messages "host" + 1 :=
        saturatingSucc_of_lt (by omega)
      rw [hnext, seqsFrom_eq_range' (by omega)]
      refine ⟨List.nodup_range', fun n hn old hold hcarries => ?_⟩
      have hlarge := (List.mem_range'_1.mp hn).1
      have hsmall := largestOriginSeq_le_iff.mp le_rfl old hold n hcarries
      omega

theorem chatFields_normalizeStored_annotate (entry : OpenClawTranscriptEntry)
    (message : PairBackendMessage) :
    chatFields (normalizeStored (annotateChannelMessageWithTranscriptMeta entry message)) =
      chatFields (normalizeStored message) := by
  rw [normalizeStored, normalizeStored]
  by_cases hsystem : normalizeChatMessageKind message.kind = "system"
  · rw [normalizeIncoming_of_system hsystem, @normalizeIncoming_of_system
      (annotateChannelMessageWithTranscriptMeta entry message) hsystem]
    rfl
  · rw [normalizeIncoming_of_chat hsystem, @normalizeIncoming_of_chat
      (annotateChannelMessageWithTranscriptMeta entry message) hsystem]
    rfl

theorem chatFields_reconcileMessage (messages : List PairBackendMessage)
    (message : PairBackendMessage) :
    chatFields (reconcileMessage messages message) = chatFields (normalizeStored message) :=
  chatFields_markMissing

/-- What a reconciliation left is normal. -/
theorem chatFields_of_reconcile {choices : Choices}
    (hmem : message ∈ (reconcileChannelMessages choices messages).messages) :
    chatFields (normalizeStored message) = chatFields message := by
  obtain ⟨old, -, rfl⟩ := mem_reconcile.mp hmem
  rw [normalizeStored_reconcileMessage, chatFields_reconcileMessage]

/-- An import of entries that the channel knows changes annotations only. -/
theorem importLoop_of_known {choices : Choices}
    (hknown : ∀ entry ∈ entries,
      ¬Unknown (reconcileChannelMessages choices messages).messages entry) :
    (importLoop entries (reconcileChannelMessages choices messages).messages).messages.map
        (fun message => chatFields (normalizeStored message)) =
      (reconcileChannelMessages choices messages).messages.map chatFields :=
  calc (importLoop entries (reconcileChannelMessages choices messages).messages).messages.map
        (fun message => chatFields (normalizeStored message))
      = (reconcileChannelMessages choices messages).messages.map
          fun message => chatFields (normalizeStored message) :=
        map_foldl_importEntry
          (fun entry message _ => chatFields_normalizeStored_annotate entry message) hknown
    _ = (reconcileChannelMessages choices messages).messages.map chatFields :=
        List.map_congr_left fun _ hmem => chatFields_of_reconcile hmem

theorem syncHistory_again (choices choices' : Choices) (now' : ℕ)
    (honce : AnnotatedOnce channel.messages)
    (hroom : (importLoop (transcriptEntries now history) channel.messages).messages.length ≤
      pairChannelMessageLimit) :
    let first := syncHistory choices now history channel
    importedSeqs (transcriptEntries now' history) first.messages = [] ∧
      ((syncHistory choices' now' history first).messages.map chatFields).Perm
        (first.messages.map chatFields) := by
  intro first
  have hids := gatewayIds_transcriptEntries now' now history
  by_cases hempty : transcriptEntries now history = []
  · have hempty' : transcriptEntries now' history = [] := by
      rw [hempty, List.map_nil] at hids
      exact List.map_eq_nil_iff.mp hids
    have hsecond : syncHistory choices' now' history first = first := if_pos hempty'
    rw [hsecond, hempty']
    refine ⟨?_, List.Perm.refl _⟩
    show (first.messages.drop first.messages.length).map _ = []
    rw [List.drop_length, List.map_nil]
  · have hfirst : first.messages = (reconcileChannelMessages choices
        (importLoop (transcriptEntries now history) channel.messages).messages).messages :=
      messages_syncHistory choices hroom hempty
    have hknown : ∀ entry ∈ transcriptEntries now' history, ¬Unknown first.messages entry := by
      intro entry hentry hunknown
      have hmem := List.mem_map_of_mem (f := OpenClawTranscriptEntry.gatewayMessageId) hentry
      rw [hids] at hmem
      obtain ⟨same, hsame, hid⟩ := List.mem_map.mp hmem
      have hcarried := carriedOnce_syncHistory choices honce hroom same hsame
      rw [hid] at hcarried
      have hzero : first.messages.countP (annotated (unicodeTrim entry.gatewayMessageId)) = 0 :=
        hunknown.countP
      have hone : first.messages.countP (annotated (unicodeTrim entry.gatewayMessageId)) = 1 :=
        hcarried
      omega
    have hempty' : transcriptEntries now' history ≠ [] := by
      intro hnil
      rw [hnil, List.map_nil] at hids
      exact hempty (List.map_eq_nil_iff.mp hids.symm)
    have hloop : (importLoop (transcriptEntries now' history) first.messages).messages.map
        (fun message => chatFields (normalizeStored message)) = first.messages.map chatFields := by
      rw [hfirst] at hknown ⊢
      exact importLoop_of_known hknown
    have hlength : (importLoop (transcriptEntries now' history) first.messages).messages.length =
        first.messages.length := by
      have hlengths := congrArg List.length hloop
      rwa [List.length_map, List.length_map] at hlengths
    have hroom' : (importLoop (transcriptEntries now' history) first.messages).messages.length ≤
        pairChannelMessageLimit := by
      rw [hlength, hfirst, length_reconcile]
      exact hroom
    constructor
    · rw [importedSeqs, ← hlength, List.drop_length, List.map_nil]
    · have hperm := (reconcile_perm choices'
        (importLoop (transcriptEntries now' history) first.messages).messages).map chatFields
      rw [List.map_map] at hperm
      rw [messages_syncHistory choices' hroom' hempty', ← hloop]
      exact hperm.trans (List.Perm.of_eq (List.map_congr_left fun message _ =>
        chatFields_reconcileMessage _ message))

/-- Entries with one gateway id are one entry. -/
theorem eq_of_annotated
    (hdistinct : ((transcriptEntries now history).map
      OpenClawTranscriptEntry.gatewayMessageId).Nodup) {other : OpenClawTranscriptEntry}
    (hentry : entry ∈ transcriptEntries now history)
    (hother : other ∈ transcriptEntries now history)
    (hleft : annotated (unicodeTrim entry.gatewayMessageId) message = true)
    (hright : annotated (unicodeTrim other.gatewayMessageId) message = true) : entry = other := by
  have hsame := (annotated_iff.mp hleft).symm.trans (annotated_iff.mp hright)
  rw [(transcriptEntries_trimmed hentry).1, (transcriptEntries_trimmed hother).1] at hsame
  exact List.inj_on_of_nodup_map hdistinct hentry hother hsame

end History

/-- **Importing a transcript** leaves exactly one message for each entry, gives new numbers to
what it imports, and importing again changes nothing but annotations. -/
theorem import_laws {now : ℕ} {history : List Json} {channel : PairBackendChannel}
    (honce : AnnotatedOnce channel.messages)
    (hdistinct : ((transcriptEntries now history).map
      OpenClawTranscriptEntry.gatewayMessageId).Nodup)
    (hroom : (importLoop (transcriptEntries now history) channel.messages).messages.length ≤
      pairChannelMessageLimit) : ImportLaws now history channel where
  loop := carriedOnce_importLoop honce fun _ hentry => ne_empty_of_mem hentry
  injective := fun _ hentry _ hother _ => eq_of_annotated hdistinct hentry hother
  numbers := importedSeqs_new _ _
  kept := fun choices => carriedOnce_syncHistory choices honce hroom
  again := fun choices choices' now' => syncHistory_again choices choices' now' honce hroom

/-- The mobile said the same twice, and only one of the two arrived. -/
theorem import_laws_repeated : ImportLaws 0
    [.obj [("id", .str "g1"), ("role", .str "user"), ("text", .str "hello")],
      .obj [("id", .str "g2"), ("role", .str "user"), ("text", .str "hello")]]
    { newChannel "ch_1" "" "bind_1" "mob_1" 0 with
      messages := [⟨"msg_1", "mobile", "hello", 5, "chat", "mobile", 1, [], [], "", 0⟩] } := by
  apply import_laws
  · constructor
    · exact fun gatewayId _ => List.countP_le_length
    · intro message hmem _
      rw [List.mem_singleton.mp hmem]
      exact trim_empty
  · decide
  · decide

/-- The numbers run out after a message with the largest number of all; and of two messages
that are annotated alike both carry the entry. -/
theorem import_laws_fail :
    (¬∀ (now : ℕ) (history : List Json) (channel : PairBackendChannel),
      ((transcriptEntries now history).map OpenClawTranscriptEntry.gatewayMessageId).Nodup →
        (importLoop (transcriptEntries now history) channel.messages).messages.length ≤
          pairChannelMessageLimit →
        ∀ n ∈ importedSeqs (transcriptEntries now history) channel.messages,
          ∀ old ∈ channel.messages, ¬Carries "host" n old) ∧
    ¬∀ (now : ℕ) (history : List Json) (channel : PairBackendChannel),
      ((transcriptEntries now history).map OpenClawTranscriptEntry.gatewayMessageId).Nodup →
        (importLoop (transcriptEntries now history) channel.messages).messages.length ≤
          pairChannelMessageLimit →
        CarriedOnce (transcriptEntries now history)
          (importLoop (transcriptEntries now history) channel.messages).messages := by
  constructor
  · intro hall
    have hnew := hall 0 [.obj [("id", .str "g1"), ("role", .str "assistant"), ("text", .str "hi")]]
      { newChannel "ch_1" "" "bind_1" "mob_1" 0 with
        messages := [⟨"msg_1", "mobile", "hello", 5, "chat", "host", u64Max, [], [], "", 0⟩] }
      (by decide) (by decide) u64Max (by decide) _ (List.mem_singleton.mpr rfl)
    exact hnew ⟨by decide, by decide, rfl⟩
  · intro hall
    have hcarried := hall 0
      [.obj [("id", .str "g1"), ("role", .str "user"), ("text", .str "hello")]]
      { newChannel "ch_1" "" "bind_1" "mob_1" 0 with
        messages := [⟨"msg_1", "mobile", "hello", 5, "chat", "mobile", 1, [], [], "g1", 1⟩,
          ⟨"msg_2", "mobile", "hello", 6, "chat", "mobile", 2, [], [], "g1", 1⟩] }
      (by decide) (by decide)
    have hone := hcarried ⟨"g1", 1, "user", "hello", 0⟩ (List.mem_singleton.mpr rfl)
    exact absurd hone (by decide)

end OpenClaw.Chat
