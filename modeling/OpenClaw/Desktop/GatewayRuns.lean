import OpenClaw.Desktop.Inbox
import OpenClaw.Lib.Steps

/-!
# The runs of the agent

A chat message of a mobile is handed to the agent's gateway with an idempotency key, its
run id, and waits in `gateway_pending_runs` for the reply.  Chat events of the gateway name
a run.  A run the desktop does not know is bound to a pending run of the same session, and
`gateway_pending_run_aliases` remembers that.

Every critical section is an event of its own: `forward` and `sent` around the request,
`chat` for the arrival of a chat event and `settle` for what its handler does afterwards.
Beside the state of the desktop there is a record of which run every event was taken for
(`attributions`) and of the runs that are over (`completed`).
-/

namespace OpenClaw.Desktop

open OpenClaw.Runtime StableSort

structure PendingOpenClawRun where
  runId : String
  bindingId : String
  mobileId : String
  sessionKey : String
  preferRelayReply : Bool
  bufferedText : String
  awaitingFollowupRun : Bool
  lastEventAt : ℕ

abbrev PendingRuns := OrderedMap String PendingOpenClawRun

/-! ## Reading a chat event -/

def extractOpenclawMessageText (value : Json) : String :=
  match trimmedField value "text", trimmedField value "content" with
  | some text, _ => text
  | none, some content => content
  | none, none =>
      let items := ((value.field "content").bind asArray).getD []
      let texts := items.filterMap fun item =>
        if (item.field "type").bind asStr = some "text" then trimmedField item "text" else none
      unicodeTrim ("\n".intercalate texts)

/-- A text, trimmed, unless it is blank. -/
def trimmedText (value : Json) : Option String :=
  ((asStr value).map unicodeTrim).filter fun text => decide (text ≠ "")

def extractOpenclawChatEventText (payload : Json) : String :=
  let keys := ["message", "delta", "messageDelta", "contentDelta", "textDelta"]
  let found := keys.findSome? fun key =>
    (payload.field key).bind fun value =>
      if extractOpenclawMessageText value ≠ "" then some (extractOpenclawMessageText value)
      else trimmedText value
  (found.or (trimmedField payload "outputText")).getD (extractOpenclawMessageText payload)

/-- What is buffered of a reply, and what came now. -/
def mergeOpenclawReplyText (existing next : String) : String :=
  let existing := unicodeTrim existing
  let next := unicodeTrim next
  if existing = "" then next
  else if next = "" then existing
  else if existing = next then existing
  else if existing.toList <:+: next.toList then next
  else if next.toList <:+: existing.toList then existing
  else existing ++ next

/-- What is merged is trimmed. -/
theorem trim_mergeOpenclawReplyText (existing next : String) :
    unicodeTrim (mergeOpenclawReplyText existing next) = mergeOpenclawReplyText existing next := by
  have hexisting : unicodeTrim (unicodeTrim existing) = unicodeTrim existing := trim_trim existing
  have hnext : unicodeTrim (unicodeTrim next) = unicodeTrim next := trim_trim next
  unfold mergeOpenclawReplyText
  dsimp only
  split_ifs with hempty hblank hsame hlonger hshorter
  · exact hnext
  · exact hexisting
  · exact hexisting
  · exact hnext
  · exact hexisting
  · exact trim_append_trimmed hexisting hnext hempty hblank

/-! ## The state -/

/-- What was done with a chat event. -/
inductive AttributionEffect
  /-- Taken for a pending run. -/
  | bound
  | merged (text : String)
  | mirrored (bindingId mobileId text : String)
  | notified (bindingId mobileId errorMessage : String)
deriving DecidableEq

/-- A chat event of the run `runId`, taken for the run `primaryRunId`; `late` if the first
was over when the event came. -/
structure Attribution where
  effect : AttributionEffect
  runId : String
  primaryRunId : String
  late : Bool
deriving DecidableEq

/-- A chat event whose run was found, in its handler. -/
structure Handling where
  runId : String
  primaryRunId : String
  pending : PendingOpenClawRun
  late : Bool
  chatState : String
  text : String
  errorMessage : String

inductive GatewayTask
  | handle (handling : Handling)
  /-- In front of `mirror_openclaw_reply_to_mobile`. -/
  | mirror (handling : Handling) (text : String)

def GatewayTask.handling : GatewayTask → Handling
  | handle handling => handling
  | mirror handling _ => handling

structure GatewayRuns where
  pendingRuns : PendingRuns
  aliases : OrderedMap String String
  /-- The runs whose `chat.send` is not answered. -/
  sending : List String
  tasks : List GatewayTask
  completed : List String
  attributions : List Attribution

def GatewayRuns.start : GatewayRuns := ⟨∅, ∅, [], [], [], []⟩

/-! ## Pending runs -/

def removePendingRun (runs : GatewayRuns) (primaryRunId : String) : GatewayRuns :=
  { runs with
    pendingRuns := runs.pendingRuns.erase primaryRunId
    aliases := runs.aliases.filter fun aliasRunId mappedPrimary =>
      aliasRunId ≠ primaryRunId ∧ mappedPrimary ≠ primaryRunId }

/-- Three minutes. -/
def openclawGatewayPendingRunTtl : ℕ := 3 * 60 * 1000

def prunePendingRuns (runs : GatewayRuns) (now : ℕ) : GatewayRuns :=
  let expired := runs.pendingRuns.entries.filterMap fun entry =>
    if entry.2.lastEventAt ≤ now - openclawGatewayPendingRunTtl then some entry.1 else none
  expired.foldl removePendingRun runs

/-- The pending run of the session that an unknown run is bound to. -/
def selectRun (iter : IterOrder) (pendingRuns : PendingRuns) (sessionKey : String) :
    Option String :=
  let sameSession := (iter.order pendingRuns.entries).filter fun entry =>
    decide (normalizeOpenclawSessionKey entry.2.sessionKey = sessionKey)
  let waitingFollowup := sameSession.filter fun entry => entry.2.awaitingFollowupRun
  if waitingFollowup.length = 1 then waitingFollowup.head?.map Prod.fst
  else if 1 < waitingFollowup.length then
    (sortBy (fun left right => compare left.2.lastEventAt right.2.lastEventAt)
      waitingFollowup).head?.map Prod.fst
  else if sameSession.length = 1 then sameSession.head?.map Prod.fst
  else none

/-- The run of an alias, if it is still pending. -/
def aliasTarget (runs : GatewayRuns) (runId : String) : Option (String × PendingOpenClawRun) :=
  (runs.aliases.get runId).bind fun primary =>
    (runs.pendingRuns.get primary).map fun pending => (primary, pending)

/-- Bind an unknown run to one of its session. -/
def bindRun (runs : GatewayRuns) (now : ℕ) (runId primaryRunId : String) :
    GatewayRuns × Option (String × PendingOpenClawRun) :=
  let bound := { runs with aliases := runs.aliases.set runId primaryRunId }
  match runs.pendingRuns.get primaryRunId with
  | some entry =>
      let pending := { entry with awaitingFollowupRun := false, lastEventAt := now }
      ({ bound with pendingRuns := runs.pendingRuns.set primaryRunId pending },
        some (primaryRunId, pending))
  | none => (bound, none)

/-- `resolve_pending_openclaw_run`, without the flag that only the log reads. -/
def resolvePendingRun (iter : IterOrder) (runs : GatewayRuns) (now : ℕ)
    (runId sessionKey : String) : GatewayRuns × Option (String × PendingOpenClawRun) :=
  let pruned := prunePendingRuns runs now
  match aliasTarget pruned runId with
  | some found => (pruned, some found)
  | none =>
      let cleared := { pruned with aliases := pruned.aliases.erase runId }
      match pruned.pendingRuns.get runId with
      | some pending => (cleared, some (runId, pending))
      | none =>
          if normalizeOpenclawSessionKey sessionKey = "" then (cleared, none)
          else
            match selectRun iter pruned.pendingRuns (normalizeOpenclawSessionKey sessionKey) with
            | some primaryRunId => bindRun cleared now runId primaryRunId
            | none => (cleared, none)

/-! ## Steps -/

/-- The run is over. -/
def completeRun (runs : GatewayRuns) (primaryRunId : String) : GatewayRuns :=
  { removePendingRun runs primaryRunId with completed := primaryRunId :: runs.completed }

def record (runs : GatewayRuns) (handling : Handling) (effect : AttributionEffect) :
    GatewayRuns :=
  { runs with
    attributions := ⟨effect, handling.runId, handling.primaryRunId, handling.late⟩ ::
      runs.attributions }

/-- `forward_mobile_message_to_openclaw`, up to the request. -/
def forwardRun (runs : GatewayRuns) (now : ℕ) (runId bindingId mobileId text source : String) :
    GatewayRuns :=
  if unicodeTrim text = "" ∨ buildOpenclawMobileSessionKey mobileId = "" then runs
  else
    let pruned := prunePendingRuns runs now
    { pruned with
      pendingRuns := pruned.pendingRuns.set runId
        { runId := runId
          bindingId := unicodeTrim bindingId
          mobileId := unicodeTrim mobileId
          sessionKey := buildOpenclawMobileSessionKey mobileId
          preferRelayReply := unicodeTrim source = "relay"
          bufferedText := ""
          awaitingFollowupRun := false
          lastEventAt := now }
      sending := runId :: pruned.sending }

/-- The answer of `chat.send`; a failed one ends the run. -/
def answerSend (runs : GatewayRuns) (runId : String) (ok : Bool) : GatewayRuns :=
  if runId ∈ runs.sending then
    let answered := { runs with sending := runs.sending.erase runId }
    if ok then answered else completeRun answered runId
  else runs

/-- `handle_openclaw_gateway_chat_event`, up to the run. -/
def receiveChat (iter : IterOrder) (runs : GatewayRuns) (now : ℕ) (payload : Json) :
    GatewayRuns :=
  let runId := readJsonString payload ["runId"]
  let sessionKey := readJsonString payload ["sessionKey"]
  if runId = "" then runs
  else
    match resolvePendingRun iter runs now runId sessionKey with
    | (resolved, none) => resolved
    | (resolved, some (primaryRunId, pending)) =>
        let handling : Handling :=
          { runId := runId
            primaryRunId := primaryRunId
            pending := pending
            late := runId ∈ runs.completed
            chatState := readJsonString payload ["state"]
            text := extractOpenclawChatEventText payload
            errorMessage := readJsonString payload ["errorMessage"] }
        let bound := record resolved handling .bound
        if normalizeOpenclawSessionKey sessionKey ≠ "" ∧
            normalizeOpenclawSessionKey sessionKey ≠
              normalizeOpenclawSessionKey pending.sessionKey then
          bound
        else { bound with tasks := bound.tasks ++ [.handle handling] }

/-- The critical section for an event of the state `delta`. -/
def handleDelta (runs : GatewayRuns) (now : ℕ) (handling : Handling) : GatewayRuns :=
  if handling.text = "" then runs
  else
    match runs.pendingRuns.get handling.primaryRunId with
    | some entry =>
        record
          { runs with
            pendingRuns := runs.pendingRuns.set handling.primaryRunId
              { entry with
                bufferedText := mergeOpenclawReplyText entry.bufferedText handling.text
                awaitingFollowupRun := false
                lastEventAt := now } }
          handling (.merged handling.text)
    | none => runs

/-- The critical section for an event of the state `final`. -/
def handleFinal (runs : GatewayRuns) (now : ℕ) (handling : Handling) : GatewayRuns :=
  match runs.pendingRuns.get handling.primaryRunId with
  | some entry =>
      let mergedText := mergeOpenclawReplyText entry.bufferedText handling.text
      if unicodeTrim mergedText = "" then
        { runs with
          pendingRuns := runs.pendingRuns.set handling.primaryRunId
            { entry with awaitingFollowupRun := true, lastEventAt := now } }
      else
        let merged := record
          { runs with
            pendingRuns := runs.pendingRuns.set handling.primaryRunId
              { entry with
                bufferedText := mergedText, awaitingFollowupRun := false, lastEventAt := now } }
          handling (.merged handling.text)
        { merged with tasks := merged.tasks ++ [.mirror handling mergedText] }
  | none => runs

/-- What a handler does next. -/
def performTask (runs : GatewayRuns) (now : ℕ) : GatewayTask → GatewayRuns
  | .handle handling =>
      if handling.chatState = "error" then
        record (completeRun runs handling.primaryRunId) handling
          (.notified handling.pending.bindingId handling.pending.mobileId handling.errorMessage)
      else if handling.chatState = "aborted" then completeRun runs handling.primaryRunId
      else if handling.chatState = "delta" then handleDelta runs now handling
      else if handling.chatState = "final" then handleFinal runs now handling
      else runs
  | .mirror handling text =>
      record (completeRun runs handling.pending.runId) handling
        (.mirrored handling.pending.bindingId handling.pending.mobileId (unicodeTrim text))

inductive GatewayEvent
  | forward (now : ℕ) (runId bindingId mobileId text source : String)
  | sent (runId : String) (ok : Bool)
  | chat (iter : IterOrder) (now : ℕ) (payload : Json)
  /-- The handler with this index goes on. -/
  | settle (index now : ℕ)
  /-- `disconnect_openclaw_gateway` and `mark_openclaw_gateway_closed` -/
  | closed

def stepRuns (runs : GatewayRuns) : GatewayEvent → GatewayRuns
  | .forward now runId bindingId mobileId text source =>
      forwardRun runs now runId bindingId mobileId text source
  | .sent runId ok => answerSend runs runId ok
  | .chat iter now payload => receiveChat iter runs now payload
  | .settle index now =>
      match runs.tasks[index]? with
      | some task => performTask { runs with tasks := runs.tasks.eraseIdx index } now task
      | none => runs
  | .closed => { runs with pendingRuns := ∅, aliases := ∅ }

end OpenClaw.Desktop
