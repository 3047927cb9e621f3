import OpenClaw.Desktop.Attribution
import OpenClaw.Desktop.Backend

/-!
# What becomes of a final reply

The handler of a chat event is followed here from the arrival of the event to its end, with the
channels it writes to.  A final reply is sent to the mobile and appended to the channel of its
run, an error is appended and sent.

The acks of what is sent are registered apart (`OpenClaw.Desktop.PendingAcks`) and leave the
channels alone.
-/

namespace OpenClaw.Desktop

open OpenClaw.Runtime FirstMatch

/-- The part of the desktop that chat events touch. -/
structure Desk where
  runs : GatewayRuns
  channels : Channels

/-- What a handler meets on its way. -/
structure Surroundings where
  env : Env
  iter : IterOrder
  /-- `build_openclaw_mobile_error_text` -/
  errorText : String → String
  /-- What is done to the channels while the handler waits for the send. -/
  meanwhile : Channels → Channels
  /-- The answer of `send_app_envelope_to_mobile_with_delivery`; `none` is an error. -/
  delivery : Option String

/-- `build_outgoing_chat_message` for the channel of a binding. -/
def buildForBinding (env : Env) (channels : Channels) (bindingId sender text : String) :
    PairBackendMessage :=
  let messages := (((channelFor channels bindingId).bind channels.get).map
    PairBackendChannel.messages).getD []
  buildOutgoingChatMessage (env.randomId "msg") messages sender text env.now

/-- `mirror_openclaw_reply_to_mobile`, behind the removal of the run. -/
def mirrorOpenclawReplyToMobile (around : Surroundings) (channels : Channels)
    (pending : PendingOpenClawRun) (text : String) : Channels :=
  let normalizedText := unicodeTrim text
  if normalizedText = "" then channels
  else
    let outgoing := buildForBinding around.env channels pending.bindingId "agent" normalizedText
    let sent := around.meanwhile channels
    match around.delivery with
    | some _ => (appendChannelMessage around.env.choices sent pending.bindingId outgoing).1
    | none => sent

/-- `notify_openclaw_error_to_mobile` -/
def notifyOpenclawErrorToMobile (around : Surroundings) (channels : Channels)
    (bindingId errorMessage : String) : Channels :=
  let outgoing :=
    buildForBinding around.env channels bindingId "agent" (around.errorText errorMessage)
  around.meanwhile (appendChannelMessage around.env.choices channels bindingId outgoing).1

/-- `handle_openclaw_gateway_chat_event` from its start to its end.  Its own task is the last one
of the runs. -/
def handleOpenclawGatewayChatEvent (around : Surroundings) (desk : Desk) (payload : Json) : Desk :=
  let own := desk.runs.tasks.length
  let received := stepRuns desk.runs (.chat around.iter around.env.now payload)
  match received.tasks[own]? with
  | some (.handle handling) =>
      let handled := stepRuns received (.settle own around.env.now)
      if handling.chatState = "error" then
        { runs := handled
          channels := notifyOpenclawErrorToMobile around desk.channels handling.pending.bindingId
            handling.errorMessage }
      else
        match handled.tasks[own]? with
        | some (.mirror handling text) =>
            { runs := stepRuns handled (.settle own around.env.now)
              channels := mirrorOpenclawReplyToMobile around desk.channels handling.pending text }
        | _ => { runs := handled, channels := desk.channels }
  | _ => { runs := received, channels := desk.channels }

/-- The channel of the binding, if there is one, has a chat message of the host with this text. -/
def HasHostMessage (channels : Channels) (bindingId text : String) : Prop :=
  ∀ slot channel, channelFor channels bindingId = some slot → channels.get slot = some channel →
    ∃ message ∈ channel.messages,
      message.kind = "chat" ∧ message.origin = "host" ∧ message.text = text

/-- The text of a final reply. -/
def finalText (payload : Json) (pending : PendingOpenClawRun) : String :=
  mergeOpenclawReplyText pending.bufferedText (extractOpenclawChatEventText payload)

/-- The event is the final one of a pending run, and its text is not blank. -/
structure FinalReply (iter : IterOrder) (now : ℕ) (runs : GatewayRuns) (payload : Json)
    (primaryRunId : String) (pending : PendingOpenClawRun) : Prop where
  run : readJsonString payload ["runId"] ≠ ""
  resolved : (resolvePendingRun iter runs now (readJsonString payload ["runId"])
    (readJsonString payload ["sessionKey"])).2 = some (primaryRunId, pending)
  session : normalizeOpenclawSessionKey (readJsonString payload ["sessionKey"]) = "" ∨
    normalizeOpenclawSessionKey (readJsonString payload ["sessionKey"]) =
      normalizeOpenclawSessionKey pending.sessionKey
  state : readJsonString payload ["state"] = "final"
  text : unicodeTrim (finalText payload pending) ≠ ""

section FinalReply

variable {around : Surroundings} {desk : Desk} {runs resolved : GatewayRuns} {iter : IterOrder}
  {now : ℕ} {payload : Json} {runId sessionKey primaryRunId bindingId text : String}
  {pending : PendingOpenClawRun} {channels : Channels} {choices : Choices}
  {channel : PairBackendChannel} {message : PairBackendMessage}

/-! ## An append -/

/-- A chat message of the host, with this text. -/
def IsHostChat (text : String) (message : PairBackendMessage) : Prop :=
  message.kind = "chat" ∧ message.origin = "host" ∧ message.text = text

/-- It is one in its normal form, too. -/
theorem isHostChat_normalizeIncoming (hhost : IsHostChat text message) :
    IsHostChat text (normalizeIncoming message) := by
  obtain ⟨hkind, horigin, htext⟩ := hhost
  have hchat : normalizeChatMessageKind message.kind ≠ "system" := by
    rw [hkind]
    decide
  have hnormal : normalizeChatMessageOrigin message.origin message.sender = "host" := by
    have htrim : unicodeTrim "host" = "host" := by decide
    rw [horigin, normalizeChatMessageOrigin, htrim]
    rfl
  rw [normalizeIncoming, if_neg hchat, IsHostChat]
  dsimp only
  exact ⟨rfl, hnormal, htext⟩

theorem isHostChat_reconcileMessage (messages : List PairBackendMessage)
    (hhost : IsHostChat text message) : IsHostChat text (reconcileMessage messages message) := by
  obtain ⟨hkind, horigin, htext⟩ := isHostChat_normalizeIncoming hhost
  have hchat : (normalizeStored message).kind ≠ "system" := by
    rw [normalizeStored]
    dsimp only
    rw [hkind]
    decide
  rw [reconcileMessage, markMissing, if_neg hchat, normalizeStored, IsHostChat]
  dsimp only
  exact ⟨hkind, horigin, htext⟩

theorem isHostChat_overwrite {existing : PairBackendMessage} :
    IsHostChat text (overwrite message existing) ↔ IsHostChat text message := Iff.rfl

/-- The message is in the channel after its append. -/
theorem exists_isHostChat_appendMessage (hhost : IsHostChat text message) :
    ∃ item ∈ (appendMessage choices channel message).1.messages, IsHostChat text item := by
  have hincoming : IsHostChat text (normalizeIncoming message) := isHostChat_normalizeIncoming hhost
  have hinserted : ∃ item ∈ (insertMessage channel.messages (normalizeIncoming message)).1,
      IsHostChat text item := by
    unfold insertMessage
    cases hfind : channel.messages.find? (sameId (normalizeIncoming message)) with
    | some existing =>
        -- it overwrites a message of its id
        exact ⟨overwrite (normalizeIncoming message) existing,
          (mem_updateFirst_iff hfind).mpr (Or.inl rfl), isHostChat_overwrite.mpr hincoming⟩
    | none =>
        refine ⟨normalizeIncoming message, ?_, hincoming⟩
        dsimp only
        rw [truncate_concat]
        exact List.mem_append_right _ (List.mem_singleton_self _)
  obtain ⟨item, hitem, hitem'⟩ := hinserted
  unfold appendMessage
  exact ⟨_, mem_reconcile.mpr ⟨item, hitem, rfl⟩, isHostChat_reconcileMessage _ hitem'⟩

theorem hasHostMessage_append (hhost : IsHostChat text message) :
    HasHostMessage (appendChannelMessage choices channels bindingId message).1 bindingId text := by
  intro slot after hslot hafter
  rw [channelFor_appendChannelMessage] at hslot
  obtain ⟨channel, hchannel⟩ := slot_of_channelFor hslot
  rw [appendChannelMessage_of_get hslot hchannel, Roster.get_modify, if_pos rfl, hchannel,
    Option.map_some, Option.some_inj] at hafter
  rw [← hafter]
  exact exists_isHostChat_appendMessage hhost

theorem isHostChat_buildForBinding (env : Env) (channels : Channels) (sender : String) :
    IsHostChat (unicodeTrim text) (buildForBinding env channels bindingId sender text) :=
  ⟨rfl, rfl, rfl⟩

/-- A reply is in the channel if it was delivered, or was there. -/
theorem hasHostMessage_mirror_iff (htrim : unicodeTrim text = text) (htext : text ≠ "") :
    HasHostMessage (mirrorOpenclawReplyToMobile around channels pending text) pending.bindingId
        text ↔
      around.delivery.isSome = true ∨
        HasHostMessage (around.meanwhile channels) pending.bindingId text := by
  unfold mirrorOpenclawReplyToMobile
  dsimp only
  rw [htrim, if_neg htext]
  cases around.delivery with
  | none => simp only [Option.isSome_none, Bool.false_eq_true, false_or]
  | some via =>
      have hhost := @isHostChat_buildForBinding pending.bindingId text around.env channels "agent"
      rw [htrim] at hhost
      exact iff_of_true (hasHostMessage_append hhost) (Or.inl rfl)

/-- An error text is in the channel before it is sent. -/
theorem hasHostMessage_notify (around : Surroundings) (channels : Channels)
    (bindingId errorMessage : String) :
    ∃ appended, HasHostMessage appended bindingId (unicodeTrim (around.errorText errorMessage)) ∧
      notifyOpenclawErrorToMobile around channels bindingId errorMessage =
        around.meanwhile appended :=
  ⟨_, hasHostMessage_append (isHostChat_buildForBinding around.env channels "agent"), rfl⟩

/-! ## The handler -/

/-- The run that is found is pending. -/
theorem get_of_resolvePendingRun
    (hresolved : resolvePendingRun iter runs now runId sessionKey =
      (resolved, some (primaryRunId, pending))) :
    resolved.pendingRuns.get primaryRunId = some pending := by
  unfold resolvePendingRun at hresolved
  dsimp only at hresolved
  split at hresolved
  · next found halias =>
      obtain ⟨rfl, hfound⟩ := Prod.mk.inj hresolved
      obtain ⟨primary, -, hget⟩ := Option.bind_eq_some_iff.mp halias
      obtain ⟨pending', hpending', hpair⟩ := Option.map_eq_some_iff.mp hget
      rw [← hpair, Option.some_inj] at hfound
      cases hfound
      exact hpending'
  · split at hresolved
    · next own hown =>
        obtain ⟨rfl, hfound⟩ := Prod.mk.inj hresolved
        cases Option.some_inj.mp hfound
        exact hown
    · split at hresolved
      · cases hresolved
      · split at hresolved
        · unfold bindRun at hresolved
          dsimp only at hresolved
          split at hresolved
          · obtain ⟨rfl, hfound⟩ := Prod.mk.inj hresolved
            cases Option.some_inj.mp hfound
            exact OrderedMap.get_set_self _ _ _
          · cases hresolved
        · cases hresolved

/-- What the handler has read of a final event. -/
def finalHandling (runs : GatewayRuns) (payload : Json) (primaryRunId : String)
    (pending : PendingOpenClawRun) : Handling where
  runId := readJsonString payload ["runId"]
  primaryRunId := primaryRunId
  pending := pending
  late := decide (readJsonString payload ["runId"] ∈ runs.completed)
  chatState := "final"
  text := extractOpenclawChatEventText payload
  errorMessage := readJsonString payload ["errorMessage"]

/-- The last task goes on. -/
theorem stepRuns_settle_last {before : List GatewayTask} {task : GatewayTask}
    (htasks : runs.tasks = before ++ [task]) :
    stepRuns runs (.settle before.length now) =
      performTask { runs with tasks := before } now task := by
  have hget : runs.tasks[before.length]? = some task := by
    rw [htasks, List.getElem?_concat_length]
  have herase : runs.tasks.eraseIdx before.length = before := by
    rw [htasks, List.eraseIdx_append_of_length_le le_rfl, Nat.sub_self, List.eraseIdx_cons_zero,
      List.append_nil]
  rw [stepRuns, hget]
  dsimp only
  rw [herase]

/-- A final event of a pending run is handed to its handler. -/
theorem receiveChat_of_finalReply
    (hfinal : FinalReply iter now runs payload primaryRunId pending) :
    ∃ bound : GatewayRuns, bound.pendingRuns.get primaryRunId = some pending ∧
      receiveChat iter runs now payload =
        { bound with
          tasks := runs.tasks ++ [.handle (finalHandling runs payload primaryRunId pending)] } := by
  obtain ⟨hrun, hresolved, hsession, hstate, -⟩ := hfinal
  obtain ⟨resolved, hpair⟩ : ∃ resolved, resolvePendingRun iter runs now
      (readJsonString payload ["runId"]) (readJsonString payload ["sessionKey"]) =
        (resolved, some (primaryRunId, pending)) := ⟨_, Prod.ext rfl hresolved⟩
  obtain ⟨htasks, -⟩ := @resolvePendingRun_keeps iter runs now
    (readJsonString payload ["runId"]) (readJsonString payload ["sessionKey"])
  rw [hpair] at htasks
  have hsame : ¬(normalizeOpenclawSessionKey (readJsonString payload ["sessionKey"]) ≠ "" ∧
      normalizeOpenclawSessionKey (readJsonString payload ["sessionKey"]) ≠
        normalizeOpenclawSessionKey pending.sessionKey) := fun ⟨hne, hdiffers⟩ =>
    hsession.elim hne hdiffers
  have hget := get_of_resolvePendingRun hpair
  refine ⟨record resolved (finalHandling runs payload primaryRunId pending) .bound, hget, ?_⟩
  unfold receiveChat
  dsimp only
  rw [if_neg hrun, hpair]
  dsimp only
  rw [if_neg hsame, hstate]
  dsimp only [record, finalHandling]
  rw [htasks]

/-- Its handler merges the text and goes on to send it. -/
theorem performTask_of_finalReply {handling : Handling} (hstate : handling.chatState = "final")
    (hget : runs.pendingRuns.get handling.primaryRunId = some pending)
    (htext : unicodeTrim (mergeOpenclawReplyText pending.bufferedText handling.text) ≠ "") :
    (performTask runs now (.handle handling)).tasks = runs.tasks ++
      [.mirror handling (mergeOpenclawReplyText pending.bufferedText handling.text)] := by
  have herror : ¬handling.chatState = "error" := by
    rw [hstate]
    decide
  have haborted : ¬handling.chatState = "aborted" := by
    rw [hstate]
    decide
  have hdelta : ¬handling.chatState = "delta" := by
    rw [hstate]
    decide
  rw [performTask, if_neg herror, if_neg haborted, if_neg hdelta, if_pos hstate, handleFinal, hget]
  dsimp only
  rw [if_neg htext]
  rfl

/-- A handler that gets to `mirror_openclaw_reply_to_mobile`. -/
theorem handle_of_mirror {handling mirrored : Handling}
    (hhandle : (stepRuns desk.runs (.chat around.iter around.env.now payload)).tasks[
      desk.runs.tasks.length]? = some (.handle handling))
    (herror : ¬handling.chatState = "error")
    (hmirror : (stepRuns (stepRuns desk.runs (.chat around.iter around.env.now payload))
      (.settle desk.runs.tasks.length around.env.now)).tasks[desk.runs.tasks.length]? =
        some (.mirror mirrored text)) :
    (handleOpenclawGatewayChatEvent around desk payload).channels =
      mirrorOpenclawReplyToMobile around desk.channels mirrored.pending text := by
  unfold handleOpenclawGatewayChatEvent
  dsimp only
  rw [hhandle]
  dsimp only
  rw [if_neg herror, hmirror]

/-- A final reply does. -/
theorem handle_of_finalReply
    (hfinal : FinalReply around.iter around.env.now desk.runs payload primaryRunId pending) :
    (handleOpenclawGatewayChatEvent around desk payload).channels =
      mirrorOpenclawReplyToMobile around desk.channels pending (finalText payload pending) := by
  obtain ⟨bound, hget, hreceived⟩ := receiveChat_of_finalReply hfinal
  have hstate : (finalHandling desk.runs payload primaryRunId pending).chatState = "final" := rfl
  have herror : ¬(finalHandling desk.runs payload primaryRunId pending).chatState = "error" := by
    rw [hstate]
    decide
  have hreceived' : (stepRuns desk.runs (.chat around.iter around.env.now payload)).tasks =
      desk.runs.tasks ++ [.handle (finalHandling desk.runs payload primaryRunId pending)] := by
    rw [stepRuns, hreceived]
  have hmirror : (performTask { bound with tasks := desk.runs.tasks } around.env.now
      (.handle (finalHandling desk.runs payload primaryRunId pending))).tasks = desk.runs.tasks ++
        [.mirror (finalHandling desk.runs payload primaryRunId pending)
          (finalText payload pending)] :=
    performTask_of_finalReply hstate hget hfinal.text
  have hhandle : (stepRuns desk.runs (.chat around.iter around.env.now payload)).tasks[
      desk.runs.tasks.length]? =
        some (.handle (finalHandling desk.runs payload primaryRunId pending)) := by
    rw [hreceived', List.getElem?_concat_length]
  have hsettled : (stepRuns (stepRuns desk.runs (.chat around.iter around.env.now payload))
      (.settle desk.runs.tasks.length around.env.now)).tasks[desk.runs.tasks.length]? =
        some (.mirror (finalHandling desk.runs payload primaryRunId pending)
          (finalText payload pending)) := by
    rw [stepRuns_settle_last hreceived', stepRuns, hreceived]
    dsimp only
    rw [hmirror, List.getElem?_concat_length]
  rw [handle_of_mirror hhandle herror hsettled]
  dsimp only [finalHandling]

/-- **A final reply is in the channel of its run exactly if it was delivered**, or the channel
had such a message anyway. -/
theorem final_reply_kept_iff
    (hfinal : FinalReply around.iter around.env.now desk.runs payload primaryRunId pending) :
    HasHostMessage (handleOpenclawGatewayChatEvent around desk payload).channels pending.bindingId
        (finalText payload pending) ↔
      around.delivery.isSome = true ∨
        HasHostMessage (around.meanwhile desk.channels) pending.bindingId
          (finalText payload pending) := by
  have htrim : unicodeTrim (finalText payload pending) = finalText payload pending :=
    trim_mergeOpenclawReplyText _ _
  have htext : finalText payload pending ≠ "" := by
    rw [← htrim]
    exact hfinal.text
  rw [handle_of_finalReply hfinal]
  exact hasHostMessage_mirror_iff htrim htext

/-! ## A reply to a mobile -/

/-- A run that waits for the reply to a mobile. -/
def waitingRun : PendingOpenClawRun :=
  ⟨"run", "binding", "mobile", "session", false, "", false, 1⟩

/-- The desktop while the run waits; the channel of the mobile has no messages. -/
def waitingDesk : Desk where
  runs :=
    { GatewayRuns.start with pendingRuns := GatewayRuns.start.pendingRuns.set "run" waitingRun }
  channels := Roster.empty.push (newChannel "" "" "binding" "mobile" 0)

/-- The agent's reply. -/
def reply : Json := .obj [("runId", .str "run"), ("state", .str "final"), ("outputText", .str "hi")]

/-- The mobile is reached, or not. -/
def replySurroundings (delivery : Option String) : Surroundings :=
  ⟨⟨1, fun _ => "msg", .plain⟩, .stored, id, id, delivery⟩

theorem finalReply_reply : FinalReply .stored 1 waitingDesk.runs reply "run" waitingRun where
  run := by decide
  resolved := rfl
  session := Or.inl (by decide)
  state := by decide
  text := by decide

theorem final_reply_kept_delivered :
    HasHostMessage (handleOpenclawGatewayChatEvent (replySurroundings (some "relay")) waitingDesk
      reply).channels waitingRun.bindingId (finalText reply waitingRun) :=
  (final_reply_kept_iff finalReply_reply).mpr (Or.inl rfl)

/-- **A reply that cannot be sent is nowhere.** -/
theorem final_reply_dropped :
    ¬∀ around desk payload primaryRunId pending,
      FinalReply around.iter around.env.now desk.runs payload primaryRunId pending →
        HasHostMessage (handleOpenclawGatewayChatEvent around desk payload).channels
          pending.bindingId (finalText payload pending) := by
  intro hall
  have hkept := hall (replySurroundings none) waitingDesk reply "run" waitingRun finalReply_reply
  rw [handle_of_finalReply finalReply_reply] at hkept
  have htext : finalText reply waitingRun ≠ "" := by decide
  rcases (hasHostMessage_mirror_iff (trim_mergeOpenclawReplyText _ _) htext).mp hkept with
    hsent | hold
  · cases hsent
  · obtain ⟨message, hmessage, -⟩ := hold 0 (newChannel "" "" "binding" "mobile" 0) rfl rfl
    cases hmessage

end FinalReply

end OpenClaw.Desktop
