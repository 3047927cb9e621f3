import OpenClaw.Lib.Steps
import OpenClaw.Server.V2Changes

/-!
# Signals on their way

A signal goes into the channels of the streams that its recipient has open, or, if none
has room, into a queue of the store.  The handler of a stream takes the queue over once,
writes what it took, and from then on takes one signal after the other from its channel.

A send copies the channels of the recipient under the lock and offers the signal to them
after it has let the lock go, so handlers, other sends and the store come in between: a
channel may be offered a signal when its handler has ended.

When the handler ends, because a write fails or the client leaves, what it took and what
its channel holds is gone.  The prune forgets the queue of an entity with its record.
-/

namespace OpenClaw.Server

open OpenClaw.Runtime

/-! ## Queue and channels -/

/-- The handler of a stream.  `hand` is what it has taken and not written yet, once it has
taken the queue over; `channel` are the signals that wait for it.  The channel outlives the
handler for the sends that have copied it. -/
structure V2Stream where
  key : String
  connected : Bool
  hand : Option (List SignalEvent)
  channel : List SignalEvent

/-- `make(chan SignalEvent, 64)` -/
def subscriberBuffer : ℕ := 64

/-- A send on the channel does not block. -/
def V2Stream.hasRoom (stream : V2Stream) : Bool := stream.channel.length < subscriberBuffer

/-- `ch <- copySignalEvent(event)` -/
def V2Stream.receive (stream : V2Stream) (event : SignalEvent) : V2Stream :=
  { stream with channel := stream.channel ++ [event] }

/-- What the handler has still to write, in its order. -/
def V2Stream.buffer (stream : V2Stream) : List SignalEvent :=
  stream.hand.getD [] ++ stream.channel

def queueOf (store : V2Store) (key : String) : List SignalEvent :=
  (store.signalQueues.get key).getD []

def addSubscriber (clientType clientId : String) : V2Stream :=
  ⟨clientKey clientType clientId, true, none, []⟩

def removeSubscriber (stream : V2Stream) : V2Stream := { stream with connected := false }

/-- The channels of the recipient, as a send copies them. -/
def subscribers (streams : OrderedMap ℕ V2Stream) (key : String) : List ℕ :=
  (streams.filter fun _ stream => stream.connected && stream.key = key).keys

def enqueueSignalToQueue (store : V2Store) (key : String) (event : SignalEvent) : V2Store :=
  { store with signalQueues := store.signalQueues.set key (queueOf store key ++ [event]) }

/-- `pullSignalInbox`: the first signals of the queue, up to the limit. -/
def pullSignalInbox (store : V2Store) (key : String) (limit : ℤ) :
    V2Store × List SignalEvent :=
  let queue := queueOf store key
  let take := (clampInt limit 1 maxSignalQueuePull).toNat
  if queue = [] then (store, [])
  else if queue.length ≤ take then
    ({ store with signalQueues := store.signalQueues.erase key }, queue)
  else
    ({ store with signalQueues := store.signalQueues.set key (queue.drop take) },
      queue.take take)

/-! ## The relay -/

/-- A send under way: the channels it has copied and not tried yet, and whether one of
those it tried took the signal. -/
structure V2Send where
  key : String
  event : SignalEvent
  left : List ℕ
  delivered : Bool

/-- The signal with its recipient. -/
def V2Send.entry (sent : V2Send) : String × SignalEvent := (sent.key, sent.event)

/-- The send has tried this channel, which took the signal or did not. -/
def V2Send.turn (sent : V2Send) (stream : ℕ) (took : Bool) : V2Send :=
  { sent with left := sent.left.erase stream, delivered := sent.delivered || took }

/-- The store, the streams and the sends under way, with what was sent, what was accepted
and what was written so far, each for its recipient.  A signal is accepted when the first
channel takes it, or else the queue. -/
structure V2Relay where
  store : V2Store
  streams : OrderedMap ℕ V2Stream
  sends : OrderedMap ℕ V2Send
  called : List (String × SignalEvent)
  accepted : List (String × SignalEvent)
  written : List (String × SignalEvent)

namespace V2Relay

def initial : V2Relay := ⟨newV2Store, ∅, ∅, [], [], []⟩

/-- `emit`, `offer` and `finish` are what the sends do under the lock and between: copy the
channels, try one of them, and put into the queue what none has taken.  A failed write ends
a handler just as a client that leaves. -/
inductive Event
  | operate (env : Env) (operation : V2Operation)
  | emit (send : ℕ) (targetType targetId : String) (event : SignalEvent)
  | offer (send stream : ℕ)
  | finish (send : ℕ)
  | connect (stream : ℕ) (clientType clientId : String)
  | pull (stream : ℕ)
  | take (stream : ℕ)
  | write (stream : ℕ)
  | disconnect (stream : ℕ)

def putStream (relay : V2Relay) (stream : ℕ) (handler : V2Stream) : V2Relay :=
  { relay with streams := relay.streams.set stream handler }

/-- `emitV2Signal` and `enqueueSignalEvent`, without an external queue, up to the unlock in
`deliverSignalEvent`. -/
def emitV2Signal (relay : V2Relay) (send : ℕ) (key : String) (event : SignalEvent) : V2Relay :=
  { relay with
    sends := relay.sends.set send ⟨key, event, subscribers relay.streams key, false⟩
    called := relay.called ++ [(key, event)] }

/-- One turn of the loop of `deliverSignalEvent`. -/
def deliverSignalEvent (relay : V2Relay) (send : ℕ) (sent : V2Send) (stream : ℕ)
    (handler : V2Stream) : V2Relay :=
  if handler.hasRoom then
    { relay.putStream stream (handler.receive sent.event) with
      sends := relay.sends.set send (sent.turn stream true)
      accepted := if sent.delivered then relay.accepted else relay.accepted ++ [sent.entry] }
  else { relay with sends := relay.sends.set send (sent.turn stream false) }

/-- The end of `enqueueSignalEvent`. -/
def enqueueSignalEvent (relay : V2Relay) (send : ℕ) (sent : V2Send) : V2Relay :=
  if sent.delivered then { relay with sends := relay.sends.erase send }
  else
    { relay with
      store := enqueueSignalToQueue relay.store sent.key sent.event
      sends := relay.sends.erase send
      accepted := relay.accepted ++ [sent.entry] }

/-- The handler takes the queue over, unless it has done so. -/
def pull (relay : V2Relay) (stream : ℕ) (handler : V2Stream) : V2Relay :=
  if handler.hand.isSome then relay
  else
    let pulled := pullSignalInbox relay.store handler.key maxSignalQueuePull
    { relay.putStream stream { handler with hand := some pulled.2 } with store := pulled.1 }

/-- `event := <-sub`, when the handler has written what it had. -/
def take (relay : V2Relay) (stream : ℕ) (handler : V2Stream) : V2Relay :=
  match handler.hand, handler.channel with
  | some [], event :: channel =>
      relay.putStream stream { handler with hand := some [event], channel := channel }
  | _, _ => relay

/-- The handler writes the next signal of those it has taken. -/
def write (relay : V2Relay) (stream : ℕ) (handler : V2Stream) : V2Relay :=
  match handler.hand with
  | some (event :: hand) =>
      { relay.putStream stream { handler with hand := some hand } with
        written := relay.written ++ [(handler.key, event)] }
  | _ => relay

/-- The send, if the channel is one it has still to try. -/
def trying (relay : V2Relay) (send stream : ℕ) : Option V2Send :=
  (relay.sends.get send).filter fun sent => stream ∈ sent.left

/-- The send, if it has tried all its channels. -/
def tried (relay : V2Relay) (send : ℕ) : Option V2Send :=
  (relay.sends.get send).filter fun sent => sent.left = []

/-- The handler, while it runs. -/
def running (relay : V2Relay) (stream : ℕ) : Option V2Stream :=
  (relay.streams.get stream).filter V2Stream.connected

def step (relay : V2Relay) : Event → V2Relay
  | .operate env operation =>
      { relay with store := (perform env relay.store operation).1 }
  | .emit send targetType targetId event =>
      if (relay.sends.get send).isSome then relay
      else relay.emitV2Signal send (clientKey targetType targetId) event
  | .offer send stream =>
      match relay.trying send stream, relay.streams.get stream with
      | some sent, some handler => relay.deliverSignalEvent send sent stream handler
      | _, _ => relay
  | .finish send => ((relay.tried send).map (relay.enqueueSignalEvent send)).getD relay
  | .connect stream clientType clientId =>
      if (relay.streams.get stream).isSome then relay
      else relay.putStream stream (addSubscriber clientType clientId)
  | .pull stream => ((relay.running stream).map (relay.pull stream)).getD relay
  | .take stream => ((relay.running stream).map (relay.take stream)).getD relay
  | .write stream => ((relay.running stream).map (relay.write stream)).getD relay
  | .disconnect stream =>
      ((relay.running stream).map fun handler =>
        relay.putStream stream (removeSubscriber handler)).getD relay

/-! ## What a step can do -/

/-- The event finds nothing to act on. -/
def Idle (relay : V2Relay) : Event → Prop
  | .operate _ _ => False
  | .offer send stream => relay.trying send stream = none ∨ relay.streams.get stream = none
  | .finish send => relay.tried send = none
  | .disconnect stream => relay.running stream = none
  | _ => True

/-- The ways in which a step changes the relay. -/
inductive Turn (relay : V2Relay) : Event → V2Relay → Prop
  | operate {env : Env} {operation : V2Operation} :
      Turn relay (.operate env operation)
        { relay with store := (perform env relay.store operation).1 }
  | emit {send : ℕ} {targetType targetId : String} {event : SignalEvent}
      (hfresh : relay.sends.get send = none) :
      Turn relay (.emit send targetType targetId event)
        (relay.emitV2Signal send (clientKey targetType targetId) event)
  | taken {send stream : ℕ} {sent : V2Send} {handler : V2Stream}
      (hsent : relay.sends.get send = some sent) (hleft : stream ∈ sent.left)
      (hget : relay.streams.get stream = some handler) (hroom : handler.hasRoom = true) :
      Turn relay (.offer send stream)
        { relay.putStream stream (handler.receive sent.event) with
          sends := relay.sends.set send (sent.turn stream true)
          accepted := if sent.delivered then relay.accepted else relay.accepted ++ [sent.entry] }
  | refused {send stream : ℕ} {sent : V2Send} {handler : V2Stream}
      (hsent : relay.sends.get send = some sent) (hleft : stream ∈ sent.left)
      (hget : relay.streams.get stream = some handler) (hroom : handler.hasRoom = false) :
      Turn relay (.offer send stream)
        { relay with sends := relay.sends.set send (sent.turn stream false) }
  | handed {send : ℕ} {sent : V2Send} (hsent : relay.sends.get send = some sent)
      (hleft : sent.left = []) (hdelivered : sent.delivered = true) :
      Turn relay (.finish send) { relay with sends := relay.sends.erase send }
  | queued {send : ℕ} {sent : V2Send} (hsent : relay.sends.get send = some sent)
      (hleft : sent.left = []) (hdelivered : sent.delivered = false) :
      Turn relay (.finish send)
        { relay with
          store := enqueueSignalToQueue relay.store sent.key sent.event
          sends := relay.sends.erase send
          accepted := relay.accepted ++ [sent.entry] }
  | connect {stream : ℕ} {clientType clientId : String}
      (hfresh : relay.streams.get stream = none) :
      Turn relay (.connect stream clientType clientId)
        (relay.putStream stream (addSubscriber clientType clientId))
  | pull {stream : ℕ} {handler : V2Stream} (hget : relay.streams.get stream = some handler)
      (hconnected : handler.connected = true) (hhand : handler.hand = none) :
      Turn relay (.pull stream)
        { relay.putStream stream { handler with
            hand := some (pullSignalInbox relay.store handler.key maxSignalQueuePull).2 } with
          store := (pullSignalInbox relay.store handler.key maxSignalQueuePull).1 }
  | take {stream : ℕ} {handler : V2Stream} {event : SignalEvent} {channel : List SignalEvent}
      (hget : relay.streams.get stream = some handler) (hconnected : handler.connected = true)
      (hhand : handler.hand = some []) (hchannel : handler.channel = event :: channel) :
      Turn relay (.take stream)
        (relay.putStream stream { handler with hand := some [event], channel := channel })
  | write {stream : ℕ} {handler : V2Stream} {event : SignalEvent} {hand : List SignalEvent}
      (hget : relay.streams.get stream = some handler) (hconnected : handler.connected = true)
      (hhand : handler.hand = some (event :: hand)) :
      Turn relay (.write stream)
        { relay.putStream stream { handler with hand := some hand } with
          written := relay.written ++ [(handler.key, event)] }
  | leave {stream : ℕ} {handler : V2Stream} (hget : relay.streams.get stream = some handler)
      (hconnected : handler.connected = true) :
      Turn relay (.disconnect stream) (relay.putStream stream (removeSubscriber handler))
  | stay {event : Event} (hidle : relay.Idle event) : Turn relay event relay

section Turns

variable {relay : V2Relay} {send stream : ℕ} {sent : V2Send} {handler : V2Stream}

theorem trying_eq_some :
    relay.trying send stream = some sent ↔
      relay.sends.get send = some sent ∧ stream ∈ sent.left := by
  rw [trying, Option.filter_eq_some_iff, decide_eq_true_iff]

theorem tried_eq_some :
    relay.tried send = some sent ↔ relay.sends.get send = some sent ∧ sent.left = [] := by
  rw [tried, Option.filter_eq_some_iff, decide_eq_true_iff]

theorem running_eq_some :
    relay.running stream = some handler ↔
      relay.streams.get stream = some handler ∧ handler.connected = true :=
  Option.filter_eq_some_iff

/-- **What a step can do.** -/
theorem turn_step (relay : V2Relay) (event : Event) : Turn relay event (relay.step event) := by
  cases event with
  | operate env operation => exact .operate
  | emit send targetType targetId event =>
      rw [step]
      split
      · exact .stay trivial
      · next hfresh => exact .emit (by simpa using hfresh)
  | offer send stream =>
      rw [step]
      split
      · next sent handler htrying hget =>
          obtain ⟨hsent, hleft⟩ := trying_eq_some.mp htrying
          rw [deliverSignalEvent]
          split
          · next hroom => exact .taken hsent hleft hget hroom
          · next hroom => exact .refused hsent hleft hget (by simpa using hroom)
      · next hnone =>
          refine .stay ?_
          cases htrying : relay.trying send stream with
          | none => exact .inl htrying
          | some sent =>
              cases hget : relay.streams.get stream with
              | none => exact .inr hget
              | some handler => exact absurd hget (hnone sent handler htrying)
  | finish send =>
      rw [step]
      cases htried : relay.tried send with
      | none => exact .stay htried
      | some sent =>
          obtain ⟨hsent, hleft⟩ := tried_eq_some.mp htried
          rw [Option.map_some, Option.getD_some, enqueueSignalEvent]
          split
          · next hdelivered => exact .handed hsent hleft hdelivered
          · next hdelivered => exact .queued hsent hleft (by simpa using hdelivered)
  | connect stream clientType clientId =>
      rw [step]
      split
      · exact .stay trivial
      · next hfresh => exact .connect (by simpa using hfresh)
  | pull stream =>
      rw [step]
      cases hrunning : relay.running stream with
      | none => exact .stay trivial
      | some handler =>
          obtain ⟨hget, hconnected⟩ := running_eq_some.mp hrunning
          rw [Option.map_some, Option.getD_some, V2Relay.pull]
          split
          · exact .stay trivial
          · next hhand => exact .pull hget hconnected (by simpa using hhand)
  | take stream =>
      rw [step]
      cases hrunning : relay.running stream with
      | none => exact .stay trivial
      | some handler =>
          obtain ⟨hget, hconnected⟩ := running_eq_some.mp hrunning
          rw [Option.map_some, Option.getD_some, V2Relay.take]
          split
          · next event channel hhand hchannel => exact .take hget hconnected hhand hchannel
          · exact .stay trivial
  | write stream =>
      rw [step]
      cases hrunning : relay.running stream with
      | none => exact .stay trivial
      | some handler =>
          obtain ⟨hget, hconnected⟩ := running_eq_some.mp hrunning
          rw [Option.map_some, Option.getD_some, V2Relay.write]
          split
          · next event hand hhand => exact .write hget hconnected hhand
          · exact .stay trivial
  | disconnect stream =>
      rw [step]
      cases hrunning : relay.running stream with
      | none => exact .stay hrunning
      | some handler =>
          obtain ⟨hget, hconnected⟩ := running_eq_some.mp hrunning
          exact .leave hget hconnected

end Turns

end V2Relay

theorem mem_subscribers {streams : OrderedMap ℕ V2Stream} {key : String} {stream : ℕ} :
    stream ∈ subscribers streams key ↔
      ∃ handler, streams.get stream = some handler ∧ handler.connected = true ∧
        handler.key = key := by
  rw [subscribers, OrderedMap.mem_keys_iff]
  simp only [OrderedMap.get_filter_eq_some_iff, Bool.and_eq_true, decide_eq_true_iff]

/-! ## Sends under way -/

namespace V2Relay

variable {relay next : V2Relay}

/-- What a send has copied are channels of its recipient. -/
def Copied (relay : V2Relay) : Prop :=
  ∀ send sent, relay.sends.get send = some sent → ∀ stream ∈ sent.left,
    ∃ handler, relay.streams.get stream = some handler ∧ handler.key = sent.key

/-- A stream keeps its recipient. -/
def KeepsStreams (relay next : V2Relay) : Prop :=
  ∀ stream handler, relay.streams.get stream = some handler →
    ∃ kept, next.streams.get stream = some kept ∧ kept.key = handler.key

theorem keepsStreams_putStream {stream : ℕ} {handler : V2Stream}
    (hkey : ∀ old, relay.streams.get stream = some old → handler.key = old.key) :
    KeepsStreams relay (relay.putStream stream handler) := by
  intro other old hold
  rw [putStream, OrderedMap.get_set]
  split
  · next heq =>
      subst heq
      exact ⟨handler, rfl, hkey old hold⟩
  · exact ⟨old, hold, rfl⟩

theorem keepsStreams_turn {event : Event} (hturn : Turn relay event next) :
    KeepsStreams relay next := by
  have hset : ∀ {stream : ℕ} {handler new : V2Stream},
      relay.streams.get stream = some handler → new.key = handler.key →
        KeepsStreams relay (relay.putStream stream new) := by
    intro stream handler new hget hkey
    apply keepsStreams_putStream
    intro old hold
    rw [hget] at hold
    rw [hkey, Option.some.inj hold]
  cases hturn with
  | taken hsent hleft hget hroom => exact hset hget rfl
  | pull hget hconnected hhand => exact hset hget rfl
  | take hget hconnected hhand hchannel => exact hset hget rfl
  | write hget hconnected hhand => exact hset hget rfl
  | leave hget hconnected => exact hset hget rfl
  | connect hfresh =>
      apply keepsStreams_putStream
      intro old hold
      rw [hfresh] at hold
      cases hold
  | _ => exact fun stream handler hget => ⟨handler, hget, rfl⟩

/-- A send under way was so before, with more channels to try, or has just begun. -/
theorem send_of_turn {event : Event} (hturn : Turn relay event next) {send : ℕ} {sent : V2Send}
    (hsent : next.sends.get send = some sent) :
    (∃ old, relay.sends.get send = some old ∧ old.entry = sent.entry ∧ sent.left ⊆ old.left) ∨
      ∀ stream ∈ sent.left, stream ∈ subscribers relay.streams sent.key := by
  have hkept : relay.sends.get send = some sent →
      ∃ old, relay.sends.get send = some old ∧ old.entry = sent.entry ∧ sent.left ⊆ old.left :=
    fun hget => ⟨sent, hget, rfl, fun _ hmem => hmem⟩
  have hturned : ∀ {other stream : ℕ} {old : V2Send} {took : Bool},
      relay.sends.get other = some old →
      (relay.sends.set other (old.turn stream took)).get send = some sent →
        ∃ old, relay.sends.get send = some old ∧ old.entry = sent.entry ∧
          sent.left ⊆ old.left := by
    intro other stream old took hold hget
    rw [OrderedMap.get_set] at hget
    split at hget
    · next heq =>
        obtain rfl := Option.some.inj hget
        rw [heq]
        exact ⟨old, hold, rfl, List.erase_subset⟩
    · exact hkept hget
  cases hturn with
  | emit hfresh =>
      dsimp only [emitV2Signal] at hsent
      rw [OrderedMap.get_set] at hsent
      split at hsent
      · obtain rfl := Option.some.inj hsent
        exact .inr fun stream hmem => hmem
      · exact .inl (hkept hsent)
  | taken hold hleft hget hroom => exact .inl (hturned hold hsent)
  | refused hold hleft hget hroom => exact .inl (hturned hold hsent)
  | handed hold hleft hdelivered => exact .inl (hkept (OrderedMap.get_of_get_erase hsent))
  | queued hold hleft hdelivered => exact .inl (hkept (OrderedMap.get_of_get_erase hsent))
  | _ => exact .inl (hkept hsent)

theorem copied_turn {event : Event} (hturn : Turn relay event next) (hcopied : relay.Copied) :
    next.Copied := by
  intro send sent hsent stream hmem
  have hbefore : ∃ handler, relay.streams.get stream = some handler ∧ handler.key = sent.key := by
    rcases send_of_turn hturn hsent with ⟨old, hold, hentry, hleft⟩ | hnew
    · obtain ⟨handler, hget, hkey⟩ := hcopied send old hold stream (hleft hmem)
      exact ⟨handler, hget, hkey.trans (congrArg Prod.fst hentry)⟩
    · obtain ⟨handler, hget, -, hkey⟩ := mem_subscribers.mp (hnew stream hmem)
      exact ⟨handler, hget, hkey⟩
  obtain ⟨handler, hget, hkey⟩ := hbefore
  obtain ⟨kept, hkept, hsame⟩ := keepsStreams_turn hturn stream handler hget
  exact ⟨kept, hkept, hsame.trans hkey⟩

theorem copied_initial : initial.Copied := fun _ _ hsent => nomatch hsent

end V2Relay

/-! ## The queue -/

section Queue

variable {store next : V2Store} {env : Env} {key other : String}

theorem signalQueues_of_records (hrecords : RecordChanges env store next) :
    next.signalQueues = store.signalQueues := by
  induction hrecords with
  | refl => rfl
  | tail _ hlast ih =>
      rw [← ih]
      cases hlast with
      | _ => rfl

theorem signalQueues_of_pair (hpair : PairChange env store next) :
    next.signalQueues = store.signalQueues := by
  cases hpair with
  | approve hget howner hpending =>
      unfold approvePairSession
      split
      · rfl
      · rfl
  | _ => rfl

/-- An operation of the store leaves the queues that its prune leaves. -/
theorem signalQueues_perform {operation : V2Operation} (hadmissible : operation.admissible env) :
    (perform env store operation).1.signalQueues =
      (pruneExpiredLocked store env.now).signalQueues := by
  have hchanges := @changes_perform env store operation hadmissible
  generalize (perform env store operation).1 = next at hchanges
  cases hchanges with
  | records hrecords => exact signalQueues_of_records hrecords
  | pairing hrecords hpair =>
      rw [signalQueues_of_pair hpair, signalQueues_of_records hrecords]

theorem queueOf_prune (now : ℤ) :
    queueOf (pruneExpiredLocked store now) key =
      if key ∈ removedEntityKeys store now then [] else queueOf store key := by
  rw [queueOf, pruneExpiredLocked, OrderedMap.get_filter, queueOf]
  cases hget : store.signalQueues.get key with
  | none =>
      split
      · rfl
      · rfl
  | some queue =>
      rw [Option.filter_some]
      by_cases hmem : key ∈ removedEntityKeys store now
      · rw [if_pos hmem, if_neg]
        · rfl
        · simpa using hmem
      · rw [if_neg hmem, if_pos]
        simpa using hmem

theorem queueOf_perform_of_mem {operation : V2Operation} (hadmissible : operation.admissible env)
    (hmem : key ∈ removedEntityKeys store env.now) :
    queueOf (perform env store operation).1 key = [] := by
  rw [queueOf, signalQueues_perform hadmissible]
  exact (queueOf_prune env.now).trans (if_pos hmem)

theorem queueOf_perform_of_not_mem {operation : V2Operation}
    (hkept : operation.admissible env → key ∉ removedEntityKeys store env.now) :
    queueOf (perform env store operation).1 key = queueOf store key := by
  by_cases hadmissible : operation.admissible env
  · rw [queueOf, signalQueues_perform hadmissible]
    exact (queueOf_prune env.now).trans (if_neg (hkept hadmissible))
  · rw [perform_of_not_admissible hadmissible]

theorem queueOf_enqueue (event : SignalEvent) :
    queueOf (enqueueSignalToQueue store key event) other =
      if other = key then queueOf store key ++ [event] else queueOf store other := by
  rw [queueOf, enqueueSignalToQueue, OrderedMap.get_set]
  split
  · rfl
  · rfl

/-- What is pulled are the first signals of the queue, and the others stay. -/
theorem queueOf_pull (limit : ℤ) :
    (pullSignalInbox store key limit).2 ++ queueOf (pullSignalInbox store key limit).1 key =
      queueOf store key := by
  unfold pullSignalInbox
  dsimp only
  split
  · next hempty => exact List.nil_append _
  · split
    · dsimp only [queueOf]
      rw [OrderedMap.get_erase_self]
      exact List.append_nil _
    · dsimp only [queueOf]
      rw [OrderedMap.get_set_self]
      exact List.take_append_drop _ _

/-- A queue that is no longer than a pull is emptied. -/
theorem queueOf_pull_of_le (hlength : (queueOf store key).length ≤ maxSignalQueuePull.toNat) :
    queueOf (pullSignalInbox store key maxSignalQueuePull).1 key = [] := by
  unfold pullSignalInbox
  dsimp only
  split
  · next hempty => exact hempty
  · rw [if_pos]
    · dsimp only [queueOf]
      rw [OrderedMap.get_erase_self]
      rfl
    · exact hlength

theorem queueOf_pull_of_ne (hne : other ≠ key) (limit : ℤ) :
    queueOf (pullSignalInbox store key limit).1 other = queueOf store other := by
  unfold pullSignalInbox
  dsimp only
  split
  · rfl
  · split
    · dsimp only [queueOf]
      rw [OrderedMap.get_erase_of_ne _ hne]
    · dsimp only [queueOf]
      rw [OrderedMap.get_set_of_ne _ _ hne]

end Queue

end OpenClaw.Server
