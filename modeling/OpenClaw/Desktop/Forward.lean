import OpenClaw.Desktop.Backend
import OpenClaw.Lib.Steps

/-!
# How often a mobile message reaches the agent

A mobile sends a message again whenever it has reason to think it was lost, so
the desktop tells a first delivery from a repeated one by looking for the id in
the channel.  The channel keeps only `pairChannelMessageLimit` messages, and a
message that was dropped looks new when it comes again.

`Execution` adds to the backend the list of all calls of
`forward_mobile_message_to_openclaw`, as slot and message id.  No id is in it
twice exactly as long as every repeated delivery finds its message in the
channel (`forwards_once_iff`).
-/

namespace OpenClaw.Desktop

open OpenClaw.Runtime Steps

/-! ## Arrivals -/

/-- A chat message at the channel it is for, with what the channel holds. -/
structure Arrival where
  slot : ℕ
  messageId : String
  messages : List PairBackendMessage

def chatArrival (env : Env) (channels : Channels) (bindingId : String) (payload : Json) :
    Option Arrival :=
  if messageType payload = openclawChatMessageType then
    match parseOpenclawChatPayload env payload, channelFor channels bindingId with
    | some message, some slot =>
        (channels.get slot).map fun channel => ⟨slot, message.id, channel.messages⟩
    | _, _ => none
  else none

/-- The chat message `relay.app` brings, at the channel it ensured. -/
def relayArrival (env : Env) (before : Backend) (fromId : String) (payload : Json) :
    Option Arrival :=
  let ids := relayIds fromId payload
  let ensured := ensureChannelForSignal env before ids.1 ids.2
  match ensured.2.bind ensured.1.get, payload.field "message" with
  | some channel, some message => chatArrival env ensured.1 channel.bindingId message
  | _, _ => none

/-- The chat message a step brings, over the data channel or over the relay. -/
def arrival (before : Backend) (event : Env × Event) : Option Arrival :=
  match event.2 with
  | .peerMessage bindingId _ payload => chatArrival event.1 before.channels bindingId payload
  | .signal generation envelope =>
      if before.current generation ∧ unicodeTrim envelope.type = "relay.app" then
        relayArrival event.1 before (unicodeTrim (envelope.fromId.getD ""))
          (envelope.payload.getD (.obj []))
      else none
  | _ => none

/-- The channel holds the message the arrival repeats. -/
def Arrival.Held (arrived : Arrival) : Prop := Known arrived.messages arrived.messageId

/-! ## Executions -/

structure Execution where
  backend : Backend
  /-- Every call of `forward_mobile_message_to_openclaw`, as slot and id. -/
  forwards : List (ℕ × String)

def Execution.start (backend : Backend) : Execution := ⟨backend, []⟩

def Delivery.forward (delivery : Delivery) : Option (ℕ × String) :=
  if delivery.forwarded then some (delivery.slot, delivery.messageId) else none

def execute (platform : Platform) (execution : Execution) (event : Env × Event) : Execution :=
  let performed := perform platform event.1 execution.backend event.2
  ⟨performed.1, execution.forwards ++ (performed.2.bind Delivery.forward).toList⟩

/-- A message that was forwarded is only delivered again while its channel still
holds it, or while there is no application to forward to. -/
def RepeatsAreHeld (execution : Execution) (event : Env × Event) : Prop :=
  ∀ arrived, arrival execution.backend event = some arrived →
    (arrived.slot, arrived.messageId) ∈ execution.forwards →
      execution.backend.app = false ∨ arrived.Held

/-! ## When a step forwards -/

variable {platform : Platform} {env : Env} {app : Bool} {channels : Channels} {before : Backend}
  {bindingId mobileId messageId : String} {payload : Json} {event : Event} {slot : ℕ}
  {execution : Execution}

theorem chatArrival_iff {arrived : Arrival} :
    chatArrival env channels bindingId payload = some arrived ↔
      messageType payload = openclawChatMessageType ∧
        ∃ message slot channel, parseOpenclawChatPayload env payload = some message ∧
          channelFor channels bindingId = some slot ∧ channels.get slot = some channel ∧
          arrived = ⟨slot, message.id, channel.messages⟩ := by
  unfold chatArrival
  by_cases htype : messageType payload = openclawChatMessageType
  · rw [if_pos htype, and_iff_right htype]
    cases hparse : parseOpenclawChatPayload env payload with
    | none => simp
    | some message =>
        cases hslot : channelFor channels bindingId with
        | none => simp
        | some slot =>
            obtain ⟨channel, hget⟩ := slot_of_channelFor hslot
            simp [hget, eq_comm]
  · rw [if_neg htype]
    simp [htype]

theorem arrival_peerMessage : arrival before (env, .peerMessage bindingId mobileId payload) =
    chatArrival env before.channels bindingId payload := by
  rw [arrival]

theorem inserted_fromMobile {choices : Choices} {channel : PairBackendChannel}
    {message : PairBackendMessage} :
    (appendMessage choices channel (fromMobile message)).2.1 = true ↔
      ¬Known channel.messages message.id := by
  have hid : (fromMobile message).id = message.id := rfl
  rw [inserted_appendMessage, hid]

theorem forward_mk {inserted : Bool} {pair : ℕ × String} :
    Delivery.forward ⟨slot, messageId, inserted, inserted && app⟩ = some pair ↔
      inserted = true ∧ app = true ∧ (slot, messageId) = pair := by
  cases inserted <;> cases app <;> simp [Delivery.forward]

/-- The message is forwarded exactly if it arrives, is not held, and there is an
application. -/
theorem process_forward_iff {pair : ℕ × String} :
    (processMobileAppMessage env app channels bindingId mobileId payload).2.bind
        Delivery.forward = some pair ↔
      ∃ arrived, chatArrival env channels bindingId payload = some arrived ∧
        (arrived.slot, arrived.messageId) = pair ∧ app = true ∧ ¬arrived.Held := by
  constructor
  · intro hforward
    obtain ⟨delivery, hdelivery, hsent⟩ := Option.bind_eq_some_iff.mp hforward
    obtain ⟨htype, message, target, channel, hparse, htarget, hget, rfl⟩ :=
      delivery_iff.mp hdelivery
    obtain ⟨hinserted, happ, hpair⟩ := forward_mk.mp hsent
    exact ⟨_, chatArrival_iff.mpr ⟨htype, message, target, channel, hparse, htarget, hget, rfl⟩,
      hpair, happ, inserted_fromMobile.mp hinserted⟩
  · rintro ⟨arrived, harrived, hpair, happ, hnot⟩
    obtain ⟨htype, message, target, channel, hparse, htarget, hget, rfl⟩ :=
      chatArrival_iff.mp harrived
    exact Option.bind_eq_some_iff.mpr
      ⟨_, delivery_iff.mpr ⟨htype, message, target, channel, hparse, htarget, hget, rfl⟩,
        forward_mk.mpr ⟨inserted_fromMobile.mpr hnot, happ, hpair⟩⟩

theorem relayApp_forward_iff {fromId : String} {pair : ℕ × String} :
    (relayApp env before fromId payload).2.bind Delivery.forward = some pair ↔
      ∃ arrived, relayArrival env before fromId payload = some arrived ∧
        (arrived.slot, arrived.messageId) = pair ∧ before.app = true ∧ ¬arrived.Held := by
  unfold relayApp relayArrival
  dsimp only
  generalize ensureChannelForSignal env before (relayIds fromId payload).1
    (relayIds fromId payload).2 = ensured
  cases ensured.2.bind ensured.1.get with
  | none => simp
  | some channel =>
      cases payload.field "message" with
      | none => simp
      | some message => exact process_forward_iff

/-- **When a step calls the agent.** -/
theorem perform_forward_iff {pair : ℕ × String} :
    (perform platform env before event).2.bind Delivery.forward = some pair ↔
      ∃ arrived, arrival before (env, event) = some arrived ∧
        (arrived.slot, arrived.messageId) = pair ∧ before.app = true ∧ ¬arrived.Held := by
  have hquiet : (perform platform env before event).2 = none → arrival before (env, event) = none →
      ((perform platform env before event).2.bind Delivery.forward = some pair ↔
        ∃ arrived, arrival before (env, event) = some arrived ∧
          (arrived.slot, arrived.messageId) = pair ∧ before.app = true ∧ ¬arrived.Held) := by
    intro hdelivery harrival
    rw [hdelivery, harrival]
    simp
  cases event with
  | peerMessage bindingId mobileId payload =>
      rw [perform_peerMessage, arrival_peerMessage]
      dsimp only
      exact process_forward_iff
  | signal generation envelope =>
      by_cases hcurrent : before.current generation = true
      · by_cases htype : unicodeTrim envelope.type = "relay.app"
        · have harrival : arrival before (env, .signal generation envelope) =
              relayArrival env before (unicodeTrim (envelope.fromId.getD ""))
                (envelope.payload.getD (.obj [])) := if_pos ⟨hcurrent, htype⟩
          rw [perform_signal_of_current hcurrent, handleSignal_relay htype, harrival]
          exact relayApp_forward_iff
        · apply hquiet
          · rw [perform_signal_of_current hcurrent, handleSignal_delivery htype]
          · exact if_neg fun hboth => htype hboth.2
      · apply hquiet
        · rw [perform_signal_of_stale hcurrent]
        · exact if_neg fun hboth => hcurrent hboth.1
  | connect fromReconnect =>
      refine hquiet ?_ rfl
      rw [perform]
      split
      · rfl
      · rfl
  | streamConnected generation =>
      refine hquiet ?_ rfl
      rw [perform]
      split
      · rfl
      · rfl
  | streamFailed generation =>
      refine hquiet ?_ rfl
      rw [perform]
      split
      · rfl
      · rfl
  | setChannelOpen isOpen desired => exact hquiet rfl rfl
  | disconnect => exact hquiet rfl rfl
  | setAppHandle => exact hquiet rfl rfl
  | createSession session => exact hquiet rfl rfl
  | approveChannel channelId answer => exact hquiet rfl rfl
  | revokeChannel channelId deleted => exact hquiet rfl rfl
  | sendChat channelId text sent => exact hquiet rfl rfl
  | reply bindingId text => exact hquiet rfl rfl
  | transcript sessionKey entries => exact hquiet rfl rfl

/-! ## At most once -/

/-- One step keeps the list free of repetitions exactly if a repeated delivery
is held. -/
theorem nodup_execute_iff (event : Env × Event) (hnodup : execution.forwards.Nodup) :
    (execute platform execution event).forwards.Nodup ↔ RepeatsAreHeld execution event := by
  obtain ⟨env, event⟩ := event
  unfold execute RepeatsAreHeld
  dsimp only
  cases hforward : (perform platform env execution.backend event).2.bind Delivery.forward with
  | none =>
      rw [Option.toList_none, List.append_nil]
      refine iff_of_true hnodup fun arrived harrived hold => ?_
      by_contra hneither
      obtain ⟨happ, hnot⟩ := not_or.mp hneither
      rw [Bool.not_eq_false] at happ
      have hsome : (perform platform env execution.backend event).2.bind Delivery.forward =
          some (arrived.slot, arrived.messageId) :=
        perform_forward_iff.mpr ⟨arrived, harrived, rfl, happ, hnot⟩
      rw [hforward] at hsome
      cases hsome
  | some pair =>
      obtain ⟨arrived, harrived, hpair, happ, hnot⟩ := perform_forward_iff.mp hforward
      have hfresh : (execution.forwards ++ [pair]).Nodup ↔ pair ∉ execution.forwards := by
        rw [List.nodup_append_comm, List.singleton_append, List.nodup_cons]
        exact and_iff_left hnodup
      rw [Option.toList_some, hfresh]
      constructor
      · intro hnew other hother hold
        rw [harrived, Option.some_inj] at hother
        exact absurd (hpair ▸ hother ▸ hold) hnew
      · intro hheld hold
        rcases hheld arrived harrived (hpair ▸ hold) with hnone | hheld
        · rw [happ] at hnone
          cases hnone
        · exact hnot hheld

/-- **At most once.**  From any state of the desktop, no message of a channel
reaches the agent twice exactly as long as every repeated delivery finds its
message in the channel. -/
theorem forwards_once_iff (platform : Platform) (backend : Backend)
    (events : List (Env × Event)) :
    (∀ before, before <+: events →
        (run (execute platform) (Execution.start backend) before).forwards.Nodup) ↔
      Along (execute platform) RepeatsAreHeld (Execution.start backend) events := by
  have hstart : (Execution.start backend).forwards.Nodup := List.nodup_nil
  have hstep : ∀ execution event,
      (fun execution : Execution => execution.forwards.Nodup) execution →
      ((fun execution : Execution => execution.forwards.Nodup) (execute platform execution event) ↔
        RepeatsAreHeld execution event) :=
    fun _ event hnodup => nodup_execute_iff event hnodup
  exact forall_prefix_iff_along hstep hstart

/-! ## A message that comes back -/

/-- The chat message a mobile sends under an id. -/
def chatPayload (id : String) : Json :=
  .obj [("type", .str openclawChatMessageType),
    ("payload", .obj [("id", .str id), ("text", .str "hello")])]

def deliverEnv : Env := ⟨0, fun kind => kind ++ "_1", .plain⟩

def deliver (id : String) : Env × Event :=
  (deliverEnv, .peerMessage "bind_1" "mob_1" (chatPayload id))

/-- The ids have all been delivered to the channel of `bind_1`, and it holds no
others. -/
structure Delivered (execution : Execution) (ids : List String) : Prop where
  app : execution.backend.app = true
  target : channelFor execution.backend.channels "bind_1" = some 0
  holds : ∃ channel, execution.backend.channels.get 0 = some channel ∧
    channel.messages.length ≤ pairChannelMessageLimit ∧
      ∀ id ∈ channel.messages.map PairBackendMessage.id, id ∈ ids
  forwards : ∀ id ∈ ids, (0, id) ∈ execution.forwards

variable {id : String} {ids : List String}

theorem parse_chatPayload (hclean : unicodeTrim id = id) (hne : id ≠ "") :
    ∃ message, parseOpenclawChatPayload deliverEnv (chatPayload id) = some message ∧
      message.id = id := by
  have hbody : ((chatPayload id).field "payload").bind asObject =
      some (.obj [("id", .str id), ("text", .str "hello")]) := rfl
  have hfield : ((Json.obj [("id", .str id), ("text", .str "hello")]).field "id").bind asStr =
      some id := rfl
  have htext : ((Json.obj [("id", .str id), ("text", .str "hello")]).field "text").bind asStr =
      some "hello" := rfl
  refine id_parseOpenclawChatPayload hbody ?_ ?_
  · rw [htext]
    decide
  · rw [trimmedField, hfield, Option.map_some, hclean, Option.filter_some, if_pos (by simpa)]

theorem messageType_chatPayload : messageType (chatPayload id) = openclawChatMessageType := by
  have hfield : ((chatPayload id).field "type").bind asStr = some openclawChatMessageType := rfl
  rw [messageType, hfield]
  decide

theorem Delivered.arrival (hdelivered : Delivered execution ids) (hclean : unicodeTrim id = id)
    (hne : id ≠ "") {channel : PairBackendChannel}
    (hget : execution.backend.channels.get 0 = some channel) :
    Desktop.arrival execution.backend (Desktop.deliver id) = some ⟨0, id, channel.messages⟩ := by
  obtain ⟨message, hparse, hid⟩ := parse_chatPayload hclean hne
  rw [Desktop.deliver, arrival_peerMessage]
  refine chatArrival_iff.mpr
    ⟨messageType_chatPayload, message, 0, channel, hparse, hdelivered.target, hget, ?_⟩
  rw [hid]

/-- A first delivery is forwarded and may push out an older message. -/
theorem Delivered.deliver (hdelivered : Delivered execution ids) (hclean : unicodeTrim id = id)
    (hne : id ≠ "") (hnew : id ∉ ids) :
    Delivered (execute plainPlatform execution (deliver id)) (ids ++ [id]) := by
  obtain ⟨channel, hget, hlength, hids⟩ := hdelivered.holds
  obtain ⟨message, hparse, hid⟩ := parse_chatPayload hclean hne
  have harrival := hdelivered.arrival hclean hne hget
  have hforward : (perform plainPlatform deliverEnv execution.backend
      (.peerMessage "bind_1" "mob_1" (chatPayload id))).2.bind Delivery.forward = some (0, id) := by
    refine perform_forward_iff.mpr ⟨_, harrival, rfl, hdelivered.app, ?_⟩
    intro hheld
    exact hnew (hids _ hheld.2)
  have hbackend : (execute plainPlatform execution (Desktop.deliver id)).backend =
      { execution.backend with
        channels := execution.backend.channels.modify 0 fun _ =>
          (appendMessage .plain channel (fromMobile message)).1 } := by
    unfold execute Desktop.deliver
    dsimp only
    rw [perform_peerMessage, processMobileAppMessage_chat messageType_chatPayload hparse,
      deliverChat]
    dsimp only
    rw [appendChannelMessage_of_get hdelivered.target hget]
    rfl
  have hforwards : (execute plainPlatform execution (Desktop.deliver id)).forwards =
      execution.forwards ++ [(0, id)] := by
    unfold execute Desktop.deliver
    dsimp only
    rw [hforward, Option.toList_some]
  refine ⟨by rw [hbackend]; exact hdelivered.app, ?_, ?_, ?_⟩
  · rw [hbackend, ← hdelivered.target]
    -- the binding of the channel has not changed
    unfold channelFor
    dsimp only
    refine Roster.find?_modify fun value hvalue => ?_
    rw [hget, Option.some_inj] at hvalue
    rw [← hvalue]
    rfl
  · rw [hbackend]
    refine ⟨_, by rw [Roster.get_modify_self, hget, Option.map_some],
      length_appendMessage hlength, fun other hother => ?_⟩
    rcases ids_appendMessage_subset hother with hold | hsame
    · exact List.mem_append_left _ (hids other hold)
    · refine List.mem_append_right _ (List.mem_singleton.mpr ?_)
      exact hsame.trans hid
  · intro other hother
    rw [hforwards]
    rcases List.mem_append.mp hother with hold | hsame
    · exact List.mem_append_left _ (hdelivered.forwards other hold)
    · rw [List.mem_singleton.mp hsame]
      exact List.mem_append_right _ (List.mem_singleton_self _)

/-- Deliveries of different ids, one after the other. -/
theorem Delivered.run_deliver (hdelivered : Delivered execution ids) (more : List String)
    (hclean : ∀ id ∈ more, unicodeTrim id = id ∧ id ≠ "") (hnodup : (ids ++ more).Nodup) :
    Delivered (run (execute plainPlatform) execution (more.map Desktop.deliver)) (ids ++ more) := by
  induction more generalizing execution ids with
  | nil => simpa using hdelivered
  | cons id more ih =>
      obtain ⟨hid, hne⟩ := hclean id List.mem_cons_self
      have hnew : id ∉ ids := fun hmem =>
        (List.nodup_append.mp hnodup).2.2 id hmem id List.mem_cons_self rfl
      have happend : ids ++ id :: more = (ids ++ [id]) ++ more := by
        rw [List.append_assoc, List.singleton_append]
      rw [happend] at hnodup ⊢
      rw [List.map_cons, run_cons]
      exact ih (hdelivered.deliver hid hne hnew)
        (fun other hother => hclean other (List.mem_cons_of_mem _ hother)) hnodup

/-- More messages than a channel keeps: one that was delivered is gone. -/
theorem Delivered.exists_dropped (hdelivered : Delivered execution ids) (hnodup : ids.Nodup)
    (hmany : pairChannelMessageLimit < ids.length) :
    ∃ id ∈ ids, ∀ channel, execution.backend.channels.get 0 = some channel →
      id ∉ channel.messages.map PairBackendMessage.id := by
  obtain ⟨channel, hget, hlength, -⟩ := hdelivered.holds
  by_contra hall
  have hsubset : ids ⊆ channel.messages.map PairBackendMessage.id := by
    intro id hid
    by_contra hmissing
    refine hall ⟨id, hid, fun other hother => ?_⟩
    rw [hget, Option.some_inj] at hother
    rwa [← hother]
  have hle := (List.subperm_of_subset hnodup hsubset).length_le
  rw [List.length_map] at hle
  omega

/-- The ids `m`, `mm`, `mmm`, and so on. -/
def manyIds : List String :=
  (List.range (pairChannelMessageLimit + 1)).map fun k =>
    String.ofList (List.replicate (k + 1) 'm')

theorem manyIds_nodup : manyIds.Nodup := by
  refine List.Nodup.map ?_ List.nodup_range
  intro left right heq
  have hlength := congrArg List.length (String.ofList_inj.mp heq)
  simpa using hlength

theorem manyIds_clean : ∀ id ∈ manyIds, unicodeTrim id = id ∧ id ≠ "" := by
  intro id hid
  obtain ⟨k, -, rfl⟩ := List.mem_map.mp hid
  constructor
  · refine trim_eq_self fun c hc => ?_
    rw [String.toList_ofList] at hc
    rw [List.eq_of_mem_replicate hc]
    decide
  · intro hempty
    rw [← String.ofList_nil, String.ofList_inj] at hempty
    cases hempty

/-- The desktop has its application and one channel, for `bind_1`. -/
def channelRun : List (Env × Event) :=
  [(deliverEnv, .setAppHandle),
    (deliverEnv, .createSession ⟨"pair_1", "", "", 0, some "mob_1", some "bind_1"⟩)]

/-- **Not at most once.**  After one message more than a channel keeps, a
repeated delivery of the message it dropped is forwarded again. -/
theorem not_forwards_once :
    ¬∀ events, (run (execute plainPlatform) (Execution.start Backend.initial)
      events).forwards.Nodup := by
  intro hall
  have hchannel : Delivered (run (execute plainPlatform) (Execution.start Backend.initial)
      channelRun) [] := by
    exact ⟨rfl, by decide, ⟨_, rfl, by decide, by decide⟩, by simp⟩
  have hnodup : ([] ++ manyIds).Nodup := by
    rw [List.nil_append]
    exact manyIds_nodup
  have hdelivered := hchannel.run_deliver manyIds manyIds_clean hnodup
  rw [List.nil_append, ← run_append] at hdelivered
  have hmany : pairChannelMessageLimit < manyIds.length := by
    rw [manyIds, List.length_map, List.length_range]
    omega
  obtain ⟨id, hid, hdropped⟩ := hdelivered.exists_dropped manyIds_nodup hmany
  obtain ⟨channel, hget, -⟩ := hdelivered.holds
  obtain ⟨hclean, hne⟩ := manyIds_clean id hid
  have htwice := hall (channelRun ++ manyIds.map deliver ++ [deliver id])
  rw [run_concat] at htwice
  rcases (nodup_execute_iff _ (hall _)).mp htwice _ (hdelivered.arrival hclean hne hget)
    (hdelivered.forwards id hid) with hnone | hheld
  · rw [hdelivered.app] at hnone
    cases hnone
  · exact hdropped channel hget hheld.2

end OpenClaw.Desktop
