import OpenClaw.Server.V2Signals

/-!
# The order of signals

A recipient with one stream gets signals from two places, the queue and the channel of
the stream, and the handler empties the queue only once.  What it writes is in order as
long as the two never cross: a signal goes into the channel when no older one is left in
the queue for good, and into the queue when no older one waits in the channel for the
handler to take the queue first.

The order is the one in which the signals found their places.  It is the order of the
calls too if none finds its place while an older one for the same recipient has none.
-/

namespace OpenClaw.Server

open OpenClaw.Runtime

/-- The signals of a log that are for the recipient. -/
def addressed (key : String) (log : List (String × SignalEvent)) : List SignalEvent :=
  (log.filter fun entry => entry.1 = key).map Prod.snd

theorem addressed_append_self (key : String) (log : List (String × SignalEvent))
    (event : SignalEvent) :
    addressed key (log ++ [(key, event)]) = addressed key log ++ [event] := by
  simp [addressed]

theorem addressed_append_of_ne {key other : String} (hne : other ≠ key)
    (log : List (String × SignalEvent)) (event : SignalEvent) :
    addressed key (log ++ [(other, event)]) = addressed key log := by
  simp [addressed, hne]

/-- What is still to write for the recipient of a stream, in the order in which it will
be if nothing more comes. -/
def V2Stream.line (queue : List SignalEvent) (stream : V2Stream) : List SignalEvent :=
  match stream.hand with
  | none => queue ++ stream.channel
  | some hand => hand ++ stream.channel ++ queue

theorem sublist_line (queue : List SignalEvent) (stream : V2Stream) :
    queue.Sublist (stream.line queue) := by
  unfold V2Stream.line
  split
  · exact List.sublist_append_left _ _
  · exact List.sublist_append_right _ _

theorem line_sublist {queue rest : List SignalEvent} (stream : V2Stream)
    (hrest : rest.Sublist queue) : (stream.line rest).Sublist (stream.line queue) := by
  unfold V2Stream.line
  split
  · exact hrest.append_right _
  · exact hrest.append_left _

/-- A signal in the channel is last if the handler has not pulled or the queue is empty. -/
theorem line_receive {queue : List SignalEvent} {stream : V2Stream} {event : SignalEvent}
    (hplace : stream.hand = none ∨ queue = []) :
    (stream.receive event).line queue = stream.line queue ++ [event] := by
  unfold V2Stream.line V2Stream.receive
  dsimp only
  rcases hplace with hhand | rfl
  · rw [hhand]
    exact (List.append_assoc _ _ _).symm
  · cases stream.hand with
    | none => exact (List.append_assoc _ _ _).symm
    | some hand => simp

/-- A signal in the queue is last if the handler has pulled or the channel is empty. -/
theorem line_enqueue {queue : List SignalEvent} {stream : V2Stream} {event : SignalEvent}
    (hplace : stream.hand.isSome = true ∨ stream.channel = []) :
    stream.line (queue ++ [event]) = stream.line queue ++ [event] := by
  unfold V2Stream.line
  rcases hplace with hhand | hempty
  · obtain ⟨hand, hhand⟩ := Option.isSome_iff_exists.mp hhand
    rw [hhand]
    exact (List.append_assoc _ _ _).symm
  · rw [hempty]
    cases stream.hand with
    | none => simp
    | some hand => simp

/-- What the handler takes comes before what is in its channel. -/
theorem line_pull {store : V2Store} {key : String} {handler : V2Stream}
    (hhand : handler.hand = none)
    (hwhole : handler.channel = [] ∨ (queueOf store key).length ≤ maxSignalQueuePull.toNat) :
    V2Stream.line (queueOf (pullSignalInbox store key maxSignalQueuePull).1 key)
        { handler with hand := some (pullSignalInbox store key maxSignalQueuePull).2 } =
      handler.line (queueOf store key) := by
  have hqueue := @queueOf_pull store key maxSignalQueuePull
  unfold V2Stream.line
  rw [hhand]
  dsimp only
  rcases hwhole with hempty | hwhole
  · rw [hempty, List.append_nil, List.append_nil]
    exact hqueue
  · have hrest := queueOf_pull_of_le hwhole
    rw [hrest, List.append_nil] at hqueue ⊢
    rw [hqueue]

/-- The send is to the recipient, and its signal has no place yet. -/
def V2Send.waits (key : String) (sent : V2Send) : Bool := sent.key = key && !sent.delivered

namespace V2Relay

variable {relay next : V2Relay} {key : String}

/-- No stream of the recipient is connected. -/
def Alone (relay : V2Relay) (key : String) : Prop :=
  ∀ handler ∈ relay.streams.values, handler.connected = true → handler.key ≠ key

/-- The recipient connects only while it has no stream. -/
def OneStream (key : String) (relay : V2Relay) : Event → Prop
  | .connect _ clientType clientId => clientKey clientType clientId = key → relay.Alone key
  | _ => True

/-- The step does not let a signal overtake one that has its place: it goes into the channel
of a handler only before the queue is taken over or when the queue is empty, into the queue
only after the queue is taken over or when the channel is empty, and the queue is taken over
whole unless the channel is empty. -/
def KeepsOrder (key : String) (relay : V2Relay) : Event → Prop
  | .offer send stream =>
      ∀ sent ∈ relay.trying send stream, sent.key = key →
        ∀ handler ∈ relay.running stream, handler.hasRoom = true →
          handler.hand = none ∨ queueOf relay.store key = []
  | .finish send =>
      ∀ sent ∈ relay.tried send, sent.key = key → sent.delivered = false →
        ∀ handler ∈ relay.streams.values, handler.connected = true → handler.key = key →
          handler.hand.isSome = true ∨ handler.channel = []
  | .pull stream =>
      ∀ handler ∈ relay.running stream, handler.key = key → handler.hand = none →
        handler.channel = [] ∨ (queueOf relay.store key).length ≤ maxSignalQueuePull.toNat
  | _ => True

/-- The sends to the recipient whose signal has no place yet, in the order of the calls. -/
def pending (relay : V2Relay) (key : String) : List (ℕ × V2Send) :=
  relay.sends.entries.filter fun entry => entry.2.waits key

/-- A signal finds its place only when no older one for the recipient still waits for its
own. -/
def OldestFirst (key : String) (relay : V2Relay) : Event → Prop
  | .offer send stream =>
      ∀ sent ∈ relay.trying send stream, sent.key = key → sent.delivered = false →
        ∀ handler ∈ relay.streams.get stream, handler.hasRoom = true →
          (relay.pending key).head?.map Prod.fst = some send
  | .finish send =>
      ∀ sent ∈ relay.tried send, sent.key = key → sent.delivered = false →
        (relay.pending key).head?.map Prod.fst = some send
  | _ => True

instance : Decidable (relay.Alone key) :=
  inferInstanceAs (Decidable (∀ handler ∈ relay.streams.values, _ → _))

instance : (event : Event) → Decidable (OneStream key relay event)
  | .connect _ clientType clientId =>
      inferInstanceAs (Decidable (clientKey clientType clientId = key → relay.Alone key))
  | .operate _ _ | .emit _ _ _ _ | .offer _ _ | .finish _ | .pull _ | .take _ | .write _
  | .disconnect _ => isTrue trivial

instance : (event : Event) → Decidable (KeepsOrder key relay event)
  | .offer send stream =>
      inferInstanceAs (Decidable (∀ sent ∈ relay.trying send stream, sent.key = key →
        ∀ handler ∈ relay.running stream, _ → _))
  | .finish send =>
      inferInstanceAs (Decidable (∀ sent ∈ relay.tried send, sent.key = key →
        sent.delivered = false → ∀ handler ∈ relay.streams.values, _ → _ → _))
  | .pull stream =>
      inferInstanceAs (Decidable (∀ handler ∈ relay.running stream, handler.key = key → _ → _))
  | .operate _ _ | .emit _ _ _ _ | .connect _ _ _ | .take _ | .write _ | .disconnect _ =>
      isTrue trivial

instance : (event : Event) → Decidable (OldestFirst key relay event)
  | .offer send stream =>
      inferInstanceAs (Decidable (∀ sent ∈ relay.trying send stream, sent.key = key →
        sent.delivered = false → ∀ handler ∈ relay.streams.get stream, _ → _))
  | .finish send =>
      inferInstanceAs (Decidable (∀ sent ∈ relay.tried send, sent.key = key → _ → _))
  | .operate _ _ | .emit _ _ _ _ | .connect _ _ _ | .pull _ | .take _ | .write _
  | .disconnect _ => isTrue trivial

/-- What was written to the recipient, and then what waits in its queue, is in the order
of acceptance. -/
def InOrder (key : String) (relay : V2Relay) : Prop :=
  (addressed key relay.written ++ queueOf relay.store key).Sublist (addressed key relay.accepted)

/-- The same in the order of the calls. -/
def InCallOrder (key : String) (relay : V2Relay) : Prop :=
  (addressed key relay.written ++ queueOf relay.store key).Sublist (addressed key relay.called)

/-- What the recipient has connected is one stream at most, its sends try no other one, and
what it gets is in order as far as the line goes. -/
structure Lined (key : String) (relay : V2Relay) : Prop where
  single : ∀ {stream other handler otherHandler}, relay.running stream = some handler →
    relay.running other = some otherHandler → handler.key = key → otherHandler.key = key →
      stream = other
  sends : ∀ {send sent stream}, relay.sends.get send = some sent → sent.key = key →
    stream ∈ sent.left → sent.left = [stream] ∧ sent.delivered = false
  copied : relay.Copied
  queued : InOrder key relay
  lined : ∀ {stream handler}, relay.running stream = some handler → handler.key = key →
    (addressed key relay.written ++ handler.line (queueOf relay.store key)).Sublist
      (addressed key relay.accepted)

/-! ## What a step leaves of it -/

theorem running_of_set {stream other : ℕ} {new found : V2Stream}
    (hstreams : next.streams = relay.streams.set stream new)
    (hfound : next.running other = some found) :
    (other = stream ∧ found = new) ∨ (other ≠ stream ∧ relay.running other = some found) := by
  obtain ⟨hget, hconnected⟩ := running_eq_some.mp hfound
  rw [hstreams, OrderedMap.get_set] at hget
  split at hget
  · next heq => exact .inl ⟨heq, (Option.some.inj hget).symm⟩
  · next hne => exact .inr ⟨hne, running_eq_some.mpr ⟨hget, hconnected⟩⟩

theorem subscribers_eq_singleton (hlined : Lined key relay) {stream : ℕ}
    (hmem : stream ∈ subscribers relay.streams key) :
    subscribers relay.streams key = [stream] := by
  have hrunning : ∀ {other}, other ∈ subscribers relay.streams key →
      ∃ handler, relay.running other = some handler ∧ handler.key = key := by
    intro other hother
    obtain ⟨handler, hget, hconnected, hkey⟩ := mem_subscribers.mp hother
    exact ⟨handler, running_eq_some.mpr ⟨hget, hconnected⟩, hkey⟩
  obtain ⟨handler, hhandler, hkey⟩ := hrunning hmem
  have hnodup : (subscribers relay.streams key).Nodup := OrderedMap.nodup_keys _
  apply List.perm_singleton.mp
  rw [List.perm_ext_iff_of_nodup hnodup (List.nodup_singleton _)]
  intro other
  rw [List.mem_singleton]
  constructor
  · intro hother
    obtain ⟨otherHandler, hotherHandler, hotherKey⟩ := hrunning hother
    exact hlined.single hotherHandler hhandler hotherKey hkey
  · rintro rfl
    exact hmem

/-- A send to the recipient tries one channel at most. -/
theorem sends_turn {event : Event} (hturn : Turn relay event next) (hlined : Lined key relay)
    {send : ℕ} {sent : V2Send} {stream : ℕ} (hsent : next.sends.get send = some sent)
    (hkey : sent.key = key) (hmem : stream ∈ sent.left) :
    sent.left = [stream] ∧ sent.delivered = false := by
  have hbefore : relay.sends.get send = some sent →
      sent.left = [stream] ∧ sent.delivered = false :=
    fun hget => hlined.sends hget hkey hmem
  have hturned : ∀ {other tried : ℕ} {old : V2Send} {took : Bool},
      relay.sends.get other = some old → tried ∈ old.left →
      (relay.sends.set other (old.turn tried took)).get send = some sent →
        sent.left = [stream] ∧ sent.delivered = false := by
    intro other tried old took hold hleft hget
    rw [OrderedMap.get_set] at hget
    split at hget
    · -- it has no channel left
      obtain rfl := Option.some.inj hget
      obtain ⟨hone, -⟩ := hlined.sends hold hkey hleft
      rw [V2Send.turn, hone, List.erase_cons_head] at hmem
      cases hmem
    · exact hbefore hget
  cases hturn with
  | emit hfresh =>
      dsimp only [emitV2Signal] at hsent
      rw [OrderedMap.get_set] at hsent
      split at hsent
      · obtain rfl := Option.some.inj hsent
        dsimp only at hkey hmem
        rw [hkey] at hmem
        dsimp only
        rw [hkey]
        exact ⟨subscribers_eq_singleton hlined hmem, rfl⟩
      · exact hbefore hsent
  | taken hold hleft hget hroom => exact hturned hold hleft hsent
  | refused hold hleft hget hroom => exact hturned hold hleft hsent
  | handed hold hleft hdelivered => exact hbefore (OrderedMap.get_of_get_erase hsent)
  | queued hold hleft hdelivered => exact hbefore (OrderedMap.get_of_get_erase hsent)
  | _ => exact hbefore hsent

/-- A step that is not about the recipient's handler. -/
theorem lined_of_frame {event : Event} (hturn : Turn relay event next) (hlined : Lined key relay)
    (hrunning : ∀ {stream handler}, next.running stream = some handler → handler.key = key →
      relay.running stream = some handler)
    (hwritten : addressed key next.written = addressed key relay.written)
    (hqueue : (queueOf next.store key).Sublist (queueOf relay.store key))
    (haccepted : (addressed key relay.accepted).Sublist (addressed key next.accepted)) :
    Lined key next where
  single hfirst hsecond hkey hother :=
    hlined.single (hrunning hfirst hkey) (hrunning hsecond hother) hkey hother
  sends := sends_turn hturn hlined
  copied := copied_turn hturn hlined.copied
  queued := by
    rw [InOrder, hwritten]
    exact ((hqueue.append_left _).trans hlined.queued).trans haccepted
  lined {stream handler} hfound hkey := by
    rw [hwritten]
    have hline := (line_sublist handler hqueue).append_left (addressed key relay.written)
    exact (hline.trans (hlined.lined (hrunning hfound hkey) hkey)).trans haccepted

/-- A step of the recipient's handler. -/
theorem lined_of_set {event : Event} (hturn : Turn relay event next) (hlined : Lined key relay)
    {stream : ℕ} {handler new : V2Stream} (hrunning : relay.running stream = some handler)
    (hkey : handler.key = key) (hstreams : next.streams = relay.streams.set stream new)
    (hline : (addressed key next.written ++ new.line (queueOf next.store key)).Sublist
      (addressed key next.accepted)) : Lined key next where
  single {first second found otherFound} hfirst hsecond hfound hother := by
    have hself : ∀ {other found}, next.running other = some found → found.key = key →
        other = stream := by
      intro other found hother hsame
      rcases running_of_set hstreams hother with ⟨heq, -⟩ | ⟨-, hold⟩
      · exact heq
      · exact hlined.single hold hrunning hsame hkey
    rw [hself hfirst hfound, hself hsecond hother]
  sends := sends_turn hturn hlined
  copied := copied_turn hturn hlined.copied
  queued := ((sublist_line _ new).append_left _).trans hline
  lined {other found} hfound hsame := by
    rcases running_of_set hstreams hfound with ⟨-, rfl⟩ | ⟨hne, hold⟩
    · exact hline
    · exact absurd (hlined.single hold hrunning hsame hkey) hne

/-- A step of another handler. -/
theorem lined_of_other {event : Event} (hturn : Turn relay event next)
    (hlined : Lined key relay) {stream : ℕ} {new : V2Stream} (hnew : new.key ≠ key)
    (hstreams : next.streams = relay.streams.set stream new)
    (hwritten : addressed key next.written = addressed key relay.written)
    (hqueue : queueOf next.store key = queueOf relay.store key)
    (haccepted : (addressed key relay.accepted).Sublist (addressed key next.accepted)) :
    Lined key next := by
  refine lined_of_frame hturn hlined ?_ hwritten (by rw [hqueue]) haccepted
  intro other found hfound hkey
  rcases running_of_set hstreams hfound with ⟨-, rfl⟩ | ⟨-, hold⟩
  · exact absurd hkey hnew
  · exact hold

/-! ## Steps -/

theorem lined_operate {env : Env} {operation : V2Operation} (hlined : Lined key relay)
    (hturn : Turn relay (.operate env operation)
      { relay with store := (perform env relay.store operation).1 }) :
    Lined key { relay with store := (perform env relay.store operation).1 } := by
  refine lined_of_frame hturn hlined (fun hrunning _ => hrunning) rfl ?_ (List.Sublist.refl _)
  show (queueOf (perform env relay.store operation).1 key).Sublist (queueOf relay.store key)
  by_cases hkept : operation.admissible env → key ∉ removedEntityKeys relay.store env.now
  · rw [queueOf_perform_of_not_mem hkept]
  · obtain ⟨hadmissible, hforgotten⟩ := Classical.not_imp.mp hkept
    rw [queueOf_perform_of_mem hadmissible (not_not.mp hforgotten)]
    exact List.nil_sublist _

theorem lined_connect {stream : ℕ} {clientType clientId : String} (hlined : Lined key relay)
    (hturn : Turn relay (.connect stream clientType clientId)
      (relay.putStream stream (addSubscriber clientType clientId)))
    (hone : OneStream key relay (.connect stream clientType clientId)) :
    Lined key (relay.putStream stream (addSubscriber clientType clientId)) := by
  have halone : clientKey clientType clientId = key → ∀ {other found},
      relay.running other = some found → found.key ≠ key := by
    intro hkey other found hfound
    obtain ⟨hget, hconnected⟩ := running_eq_some.mp hfound
    exact hone hkey found (OrderedMap.mem_values_of_get hget) hconnected
  have hcases : ∀ {other found}, (relay.putStream stream
      (addSubscriber clientType clientId)).running other = some found → found.key = key →
        (other = stream ∧ found = addSubscriber clientType clientId ∧
          clientKey clientType clientId = key) ∨ relay.running other = some found := by
    intro other found hfound hkey
    rcases running_of_set rfl hfound with ⟨heq, rfl⟩ | ⟨-, hold⟩
    · exact .inl ⟨heq, rfl, hkey⟩
    · exact .inr hold
  constructor
  · intro first second found otherFound hfirst hsecond hkey hotherKey
    rcases hcases hfirst hkey with ⟨rfl, -, hnew⟩ | hold
    · rcases hcases hsecond hotherKey with ⟨rfl, -, -⟩ | hold
      · rfl
      · exact absurd hotherKey (halone hnew hold)
    · rcases hcases hsecond hotherKey with ⟨rfl, -, hnew⟩ | hother
      · exact absurd hkey (halone hnew hold)
      · exact hlined.single hold hother hkey hotherKey
  · exact sends_turn hturn hlined
  · exact copied_turn hturn hlined.copied
  · exact hlined.queued
  · intro other found hfound hkey
    rcases hcases hfound hkey with ⟨-, rfl, -⟩ | hold
    · have hqueued := hlined.queued
      unfold InOrder at hqueued
      simpa [addSubscriber, V2Stream.line, putStream] using hqueued
    · exact hlined.lined hold hkey

/-- A signal that a channel takes goes to the end of its line. -/
theorem lined_taken {send stream : ℕ} {sent : V2Send} {handler : V2Stream}
    (hlined : Lined key relay) (hturn : Turn relay (.offer send stream) next)
    (hsent : relay.sends.get send = some sent) (hleft : stream ∈ sent.left)
    (hget : relay.streams.get stream = some handler) (hroom : handler.hasRoom = true)
    (hkeeps : KeepsOrder key relay (.offer send stream))
    (hstore : next.store = relay.store) (hwritten : next.written = relay.written)
    (hstreams : next.streams = relay.streams.set stream (handler.receive sent.event))
    (haccepted : next.accepted =
      if sent.delivered then relay.accepted else relay.accepted ++ [sent.entry]) :
    Lined key next := by
  obtain ⟨found, hfound, hsame⟩ := hlined.copied send sent hsent stream hleft
  rw [hget] at hfound
  obtain rfl := Option.some.inj hfound
  by_cases hkey : sent.key = key
  · obtain ⟨-, hnew⟩ := hlined.sends hsent hkey hleft
    have hlog : addressed key next.accepted = addressed key relay.accepted ++ [sent.event] := by
      rw [haccepted, hnew, V2Send.entry, hkey]
      exact addressed_append_self _ _ _
    by_cases hconnected : handler.connected = true
    · have hrunning := running_eq_some.mpr ⟨hget, hconnected⟩
      have hplace := hkeeps sent (trying_eq_some.mpr ⟨hsent, hleft⟩) hkey handler hrunning hroom
      refine lined_of_set hturn hlined hrunning (hsame.trans hkey) hstreams ?_
      rw [hwritten, hstore, line_receive hplace, hlog, ← List.append_assoc]
      exact (hlined.lined hrunning (hsame.trans hkey)).append_right _
    · -- the handler has ended, and the signal goes nowhere
      refine lined_of_frame hturn hlined ?_ (by rw [hwritten]) (by rw [hstore]) ?_
      · intro other found hfound _
        rcases running_of_set hstreams hfound with ⟨-, rfl⟩ | ⟨-, hold⟩
        · exact absurd (running_eq_some.mp hfound).2 hconnected
        · exact hold
      · rw [hlog]
        exact List.sublist_append_left _ _
  · have hother : (handler.receive sent.event).key ≠ key := fun heq => hkey (hsame.symm.trans heq)
    refine lined_of_other hturn hlined hother hstreams (by rw [hwritten]) (by rw [hstore]) ?_
    rw [haccepted]
    split
    · exact List.Sublist.refl _
    · rw [V2Send.entry, addressed_append_of_ne hkey]

/-- A signal for the recipient goes to the end of its line. -/
theorem lined_queued {send : ℕ} {sent : V2Send} (hlined : Lined key relay)
    (hturn : Turn relay (.finish send) next) (hsent : relay.sends.get send = some sent)
    (hleft : sent.left = []) (hdelivered : sent.delivered = false)
    (hkeeps : KeepsOrder key relay (.finish send))
    (hstore : next.store = enqueueSignalToQueue relay.store sent.key sent.event)
    (hwritten : next.written = relay.written) (hstreams : next.streams = relay.streams)
    (haccepted : next.accepted = relay.accepted ++ [sent.entry]) : Lined key next := by
  have hrunning : ∀ {stream handler}, next.running stream = some handler →
      relay.running stream = some handler := by
    intro stream handler hfound
    rw [running, hstreams] at hfound
    exact hfound
  by_cases hkey : sent.key = key
  · have hlog : addressed key next.accepted = addressed key relay.accepted ++ [sent.event] := by
      rw [haccepted, V2Send.entry, hkey]
      exact addressed_append_self _ _ _
    have hqueue : queueOf next.store key = queueOf relay.store key ++ [sent.event] := by
      rw [hstore, queueOf_enqueue, if_pos hkey.symm, hkey]
    constructor
    · intro stream other handler otherHandler hfirst hsecond
      exact hlined.single (hrunning hfirst) (hrunning hsecond)
    · exact sends_turn hturn hlined
    · exact copied_turn hturn hlined.copied
    · rw [InOrder, hwritten, hqueue, hlog, ← List.append_assoc]
      exact hlined.queued.append_right _
    · intro stream handler hfound hsame
      have hold := hrunning hfound
      obtain ⟨hget, hconnected⟩ := running_eq_some.mp hold
      have hplace := hkeeps sent (tried_eq_some.mpr ⟨hsent, hleft⟩) hkey hdelivered handler
        (OrderedMap.mem_values_of_get hget) hconnected hsame
      rw [hwritten, hqueue, line_enqueue hplace, hlog, ← List.append_assoc]
      exact (hlined.lined hold hsame).append_right _
  · refine lined_of_frame hturn hlined (fun hfound _ => hrunning hfound) (by rw [hwritten]) ?_ ?_
    · rw [hstore, queueOf_enqueue, if_neg (Ne.symm hkey)]
    · rw [haccepted, V2Send.entry, addressed_append_of_ne hkey]

theorem lined_pull {stream : ℕ} {handler : V2Stream} (hlined : Lined key relay)
    (hturn : Turn relay (.pull stream) next) (hget : relay.streams.get stream = some handler)
    (hconnected : handler.connected = true) (hhand : handler.hand = none)
    (hkeeps : KeepsOrder key relay (.pull stream))
    (hstore : next.store = (pullSignalInbox relay.store handler.key maxSignalQueuePull).1)
    (hwritten : next.written = relay.written) (haccepted : next.accepted = relay.accepted)
    (hstreams : next.streams = relay.streams.set stream { handler with
      hand := some (pullSignalInbox relay.store handler.key maxSignalQueuePull).2 }) :
    Lined key next := by
  have hrunning := running_eq_some.mpr ⟨hget, hconnected⟩
  by_cases hkey : handler.key = key
  · refine lined_of_set hturn hlined hrunning hkey hstreams ?_
    obtain rfl := hkey
    rw [hwritten, haccepted, hstore, line_pull hhand (hkeeps handler hrunning rfl hhand)]
    exact hlined.lined hrunning rfl
  · refine lined_of_other hturn hlined ?_ hstreams (by rw [hwritten]) ?_ (by rw [haccepted])
    · exact hkey
    · rw [hstore, queueOf_pull_of_ne (Ne.symm hkey)]

theorem lined_take {stream : ℕ} {handler : V2Stream} {event : SignalEvent}
    {channel : List SignalEvent} (hlined : Lined key relay)
    (hturn : Turn relay (.take stream)
      (relay.putStream stream { handler with hand := some [event], channel := channel }))
    (hget : relay.streams.get stream = some handler) (hconnected : handler.connected = true)
    (hhand : handler.hand = some []) (hchannel : handler.channel = event :: channel) :
    Lined key
      (relay.putStream stream { handler with hand := some [event], channel := channel }) := by
  have hrunning := running_eq_some.mpr ⟨hget, hconnected⟩
  by_cases hkey : handler.key = key
  · refine lined_of_set hturn hlined hrunning hkey rfl ?_
    have hline := hlined.lined hrunning hkey
    unfold V2Stream.line at hline
    rw [hhand, hchannel] at hline
    exact hline
  · refine lined_of_other hturn hlined ?_ rfl rfl rfl (List.Sublist.refl _)
    exact hkey

theorem lined_write {stream : ℕ} {handler : V2Stream} {event : SignalEvent}
    {hand : List SignalEvent} (hlined : Lined key relay)
    (hturn : Turn relay (.write stream) next) (hget : relay.streams.get stream = some handler)
    (hconnected : handler.connected = true) (hhand : handler.hand = some (event :: hand))
    (hstore : next.store = relay.store) (haccepted : next.accepted = relay.accepted)
    (hwritten : next.written = relay.written ++ [(handler.key, event)])
    (hstreams : next.streams = relay.streams.set stream { handler with hand := some hand }) :
    Lined key next := by
  have hrunning := running_eq_some.mpr ⟨hget, hconnected⟩
  by_cases hkey : handler.key = key
  · refine lined_of_set hturn hlined hrunning hkey hstreams ?_
    have hline := hlined.lined hrunning hkey
    unfold V2Stream.line at hline ⊢
    rw [hhand] at hline
    rw [hwritten, hstore, haccepted, hkey, addressed_append_self, List.append_assoc]
    exact hline
  · refine lined_of_other hturn hlined ?_ hstreams ?_ (by rw [hstore]) (by rw [haccepted])
    · exact hkey
    · rw [hwritten, addressed_append_of_ne hkey]

/-- **One step.** -/
theorem lined_turn {event : Event} (hturn : Turn relay event next) (hlined : Lined key relay)
    (hone : OneStream key relay event) (hkeeps : KeepsOrder key relay event) :
    Lined key next := by
  cases hturn with
  | operate => exact lined_operate hlined .operate
  | taken hsent hleft hget hroom =>
      exact lined_taken hlined (.taken hsent hleft hget hroom) hsent hleft hget hroom hkeeps rfl
        rfl rfl rfl
  | queued hsent hleft hdelivered =>
      exact lined_queued hlined (.queued hsent hleft hdelivered) hsent hleft hdelivered hkeeps rfl
        rfl rfl rfl
  | connect hfresh => exact lined_connect hlined (.connect hfresh) hone
  | pull hget hconnected hhand =>
      exact lined_pull hlined (.pull hget hconnected hhand) hget hconnected hhand hkeeps rfl rfl
        rfl rfl
  | take hget hconnected hhand hchannel =>
      exact lined_take hlined (.take hget hconnected hhand hchannel) hget hconnected hhand hchannel
  | write hget hconnected hhand =>
      exact lined_write hlined (.write hget hconnected hhand) hget hconnected hhand rfl rfl rfl rfl
  | leave hget hconnected =>
      -- what the handler still had to write drops out of the line
      refine lined_of_frame (.leave hget hconnected) hlined ?_ rfl (List.Sublist.refl _)
        (List.Sublist.refl _)
      intro other found hfound _
      rcases running_of_set rfl hfound with ⟨-, rfl⟩ | ⟨-, hold⟩
      · cases (running_eq_some.mp hfound).2
      · exact hold
  | emit hfresh =>
      exact lined_of_frame (.emit hfresh) hlined (fun hfound _ => hfound) rfl
        (List.Sublist.refl _) (List.Sublist.refl _)
  | refused hsent hleft hget hroom =>
      exact lined_of_frame (.refused hsent hleft hget hroom) hlined (fun hfound _ => hfound) rfl
        (List.Sublist.refl _) (List.Sublist.refl _)
  | handed hsent hleft hdelivered =>
      exact lined_of_frame (.handed hsent hleft hdelivered) hlined (fun hfound _ => hfound) rfl
        (List.Sublist.refl _) (List.Sublist.refl _)
  | stay hidle => exact hlined

/-! ## The order of the calls -/

/-- The signals that have their place and those that wait for it are those of the calls. -/
def CallsInOrder (key : String) (relay : V2Relay) : Prop :=
  addressed key relay.accepted ++ (relay.pending key).map (fun entry => entry.2.event) =
    addressed key relay.called

/-- The send that finds its place is the first of those that wait for one. -/
theorem calls_of_placed {send : ℕ} {sent : V2Send} (hcalls : CallsInOrder key relay)
    (hsent : relay.sends.get send = some sent) (hnew : sent.delivered = false)
    (hfirst : sent.key = key → (relay.pending key).head?.map Prod.fst = some send)
    (hcalled : next.called = relay.called)
    (haccepted : next.accepted = relay.accepted ++ [sent.entry])
    (hsends : (∃ stream, next.sends = relay.sends.set send (sent.turn stream true)) ∨
      next.sends = relay.sends.erase send) : CallsInOrder key next := by
  obtain ⟨before, after, hfresh, hentries, hset, herase⟩ := OrderedMap.exists_entries_of_get hsent
  have hnext : next.pending key = before.filter (fun entry => entry.2.waits key) ++
      after.filter fun entry => entry.2.waits key := by
    rcases hsends with ⟨stream, hsends⟩ | hsends
    · have hplaced : ¬((sent.turn stream true).waits key) = true := by
        simp [V2Send.waits, V2Send.turn]
      rw [pending, hsends, hset, List.filter_append, List.filter_cons, if_neg hplaced]
    · rw [pending, hsends, herase, List.filter_append]
  unfold CallsInOrder at hcalls ⊢
  rw [pending, hentries, List.filter_append] at hcalls hfirst
  rw [hnext, hcalled, haccepted, ← hcalls, V2Send.entry]
  by_cases hkey : sent.key = key
  · have hwaits : sent.waits key = true := by simp [V2Send.waits, hkey, hnew]
    rw [List.filter_cons, if_pos hwaits] at hfirst ⊢
    -- what stands before it has its place, or it would be the first that waits
    have hnone : before.filter (fun entry => entry.2.waits key) = [] := by
      rw [List.eq_nil_iff_forall_not_mem]
      intro entry hentry
      have hhead := hfirst hkey
      obtain ⟨first, rest, hcons⟩ := List.exists_cons_of_ne_nil (List.ne_nil_of_mem hentry)
      rw [hcons] at hhead
      have hmem : first ∈ before.filter fun entry => entry.2.waits key :=
        hcons ▸ List.mem_cons_self ..
      refine hfresh (List.mem_map.mpr ⟨first, (List.mem_filter.mp hmem).1, ?_⟩)
      exact Option.some.inj hhead
    rw [hnone, hkey, addressed_append_self, List.append_assoc]
    rfl
  · have hother : ¬sent.waits key = true := by simp [V2Send.waits, hkey]
    rw [List.filter_cons, if_neg hother, addressed_append_of_ne hkey]

/-- A send whose signal waits as before, or has its place. -/
theorem calls_of_kept {send : ℕ} {sent : V2Send} (hcalls : CallsInOrder key relay)
    (hsent : relay.sends.get send = some sent) (hcalled : next.called = relay.called)
    (haccepted : next.accepted = relay.accepted)
    (hsends : (∃ new : V2Send, next.sends = relay.sends.set send new ∧ new.entry = sent.entry ∧
      new.waits key = sent.waits key) ∨
        next.sends = relay.sends.erase send ∧ sent.delivered = true) : CallsInOrder key next := by
  obtain ⟨before, after, -, hentries, hset, herase⟩ := OrderedMap.exists_entries_of_get hsent
  have hnext : (next.pending key).map (fun entry => entry.2.event) =
      (relay.pending key).map fun entry => entry.2.event := by
    rw [pending, pending, hentries]
    rcases hsends with ⟨new, hsends, hentry, hwaits⟩ | ⟨hsends, hdelivered⟩
    · have hevent : new.event = sent.event := congrArg Prod.snd hentry
      rw [hsends, hset]
      simp only [List.filter_append, List.filter_cons, hwaits]
      split
      · simp [hevent]
      · rfl
    · have hplaced : ¬sent.waits key = true := by simp [V2Send.waits, hdelivered]
      rw [hsends, herase, List.filter_append, List.filter_append,
        List.filter_cons, if_neg hplaced]
  unfold CallsInOrder at hcalls ⊢
  rw [hnext, hcalled, haccepted]
  exact hcalls

theorem calls_turn {event : Event} (hturn : Turn relay event next)
    (hcalls : CallsInOrder key relay) (holdest : OldestFirst key relay event) :
    CallsInOrder key next := by
  cases hturn with
  | @emit send targetType targetId signal hfresh =>
      unfold CallsInOrder at hcalls ⊢
      rw [pending]
      dsimp only [emitV2Signal]
      rw [OrderedMap.entries_set_of_get_eq_none _ hfresh, List.filter_append, List.map_append,
        ← List.append_assoc]
      by_cases hkey : clientKey targetType targetId = key
      · rw [hkey, addressed_append_self, ← hcalls]
        simp [pending, V2Send.waits]
      · rw [addressed_append_of_ne hkey, ← hcalls]
        simp [hkey, pending, V2Send.waits]
  | @taken send stream sent handler hsent hleft hget hroom =>
      cases hdelivered : sent.delivered with
      | false =>
          refine calls_of_placed hcalls hsent hdelivered ?_ rfl (by simp)
            (.inl ⟨stream, rfl⟩)
          intro hkey
          exact holdest sent (trying_eq_some.mpr ⟨hsent, hleft⟩) hkey hdelivered handler hget hroom
      | true =>
          refine calls_of_kept hcalls hsent rfl (by simp) (.inl ⟨_, rfl, rfl, ?_⟩)
          simp [V2Send.waits, V2Send.turn, hdelivered]
  | @refused send stream sent handler hsent hleft hget hroom =>
      refine calls_of_kept hcalls hsent rfl rfl (.inl ⟨_, rfl, rfl, ?_⟩)
      rw [V2Send.waits, V2Send.turn, Bool.or_false]
      rfl
  | handed hsent hleft hdelivered =>
      exact calls_of_kept hcalls hsent rfl rfl (.inr ⟨rfl, hdelivered⟩)
  | @queued send sent hsent hleft hdelivered =>
      refine calls_of_placed hcalls hsent hdelivered ?_ rfl rfl (.inr rfl)
      intro hkey
      exact holdest sent (tried_eq_some.mpr ⟨hsent, hleft⟩) hkey hdelivered
  | _ => exact hcalls

/-! ## Runs -/

/-- **Signals arrive in order** in every run whose steps let none overtake another: what
is written to a recipient with one stream at most, and then what waits in its queue, is
in the order of acceptance; and in that of the calls, if no send finds a place for its
signal before an older one has. -/
theorem signals_in_order {steps : List Event}
    (hone : Steps.Along step (OneStream key) initial steps)
    (hkeeps : Steps.Along step (KeepsOrder key) initial steps) :
    ∀ before, before <+: steps → InOrder key (Steps.run step initial before) ∧
      (Steps.Along step (OldestFirst key) initial before →
        InCallOrder key (Steps.run step initial before)) := by
  rintro before ⟨rest, rfl⟩
  have hboth : Steps.Along step (fun relay event => OneStream key relay event ∧
      KeepsOrder key relay event) initial before :=
    Steps.along_and.mpr ⟨(Steps.along_append.mp hone).1, (Steps.along_append.mp hkeeps).1⟩
  have hstart : Lined key initial := by
    constructor
    · intro stream other handler otherHandler hfirst
      cases hfirst
    · intro send sent stream hsent
      cases hsent
    · exact copied_initial
    · exact List.Sublist.refl _
    · intro stream handler hfound
      cases hfound
  have hlined : Lined key (Steps.run step initial before) :=
    Steps.run_preserves (fun relay event hlined hboth =>
      lined_turn (turn_step relay event) hlined hboth.1 hboth.2) hstart hboth
  refine ⟨hlined.queued, fun holdest => ?_⟩
  have hcalls : CallsInOrder key (Steps.run step initial before) :=
    Steps.run_preserves (fun relay event hcalls =>
      calls_turn (turn_step relay event) hcalls) rfl holdest
  rw [InCallOrder, ← hcalls]
  exact hlined.queued.trans (List.sublist_append_left _ _)

def numbered (number : ℕ) : SignalEvent := ⟨toString number, "webrtc.ice", number, none, none, []⟩

/-- A signal for the desktop `d`, whose send finds these streams. -/
def sendTo (streams : List ℕ) (number : ℕ) : List Event :=
  .emit number "desktop" "d" (numbered number) ::
    (streams.map (.offer number) ++ [.finish number])

/-- The handler writes as many signals out of its channel. -/
def reads (stream count : ℕ) : List Event :=
  (List.replicate count [.take stream, .write stream]).flatten

/-- Two signals wait for the desktop; it connects, and a third comes before it has pulled.
Two sends run at the same time.  The channel fills up, and two signals go into the queue,
which the desktop reads when it connects again. -/
def queuedAndLive : List Event :=
  sendTo [] 0 ++ sendTo [] 1 ++ .connect 0 "desktop" "d" :: sendTo [0] 2 ++
    [.pull 0, .write 0, .write 0] ++
    [.emit 3 "desktop" "d" (numbered 3), .emit 4 "desktop" "d" (numbered 4), .offer 3 0,
      .offer 4 0, .finish 4, .finish 3] ++ reads 0 3 ++
    (List.range 66).flatMap (fun number => sendTo [0] (number + 5)) ++ reads 0 64 ++
    [.disconnect 0, .connect 1 "desktop" "d", .pull 1, .write 1, .write 1] ++ sendTo [1] 71 ++
    reads 1 1

theorem signals_in_order_queuedAndLive :
    (Steps.run step initial queuedAndLive).written.length = 72 ∧
      InOrder "desktop:d" (Steps.run step initial queuedAndLive) ∧
        InCallOrder "desktop:d" (Steps.run step initial queuedAndLive) := by
  have horder := @signals_in_order "desktop:d" queuedAndLive (by decide +kernel)
    (by decide +kernel) queuedAndLive (List.prefix_refl _)
  exact ⟨by decide +kernel, horder.1, horder.2 (by decide +kernel)⟩

/-- The desktop reads while signals come: the channel is full when the last but one comes,
and has room again when the last one does. -/
def burst : List Event :=
  .connect 0 "desktop" "d" :: .pull 0 :: (List.range 65).flatMap (sendTo [0]) ++ reads 0 1 ++
    sendTo [0] 65 ++ reads 0 64

/-- The last signal is written while the one before it waits in the queue, though each send
ends before the next begins. -/
theorem burst_overtakes :
    Steps.Along step (OneStream "desktop:d") initial burst ∧
      Steps.Along step (OldestFirst "desktop:d") initial burst ∧
        ¬InOrder "desktop:d" (Steps.run step initial burst) ∧
          ¬InCallOrder "desktop:d" (Steps.run step initial burst) := by
  refine ⟨by decide +kernel, by decide +kernel, fun horder => ?_, fun horder => ?_⟩
  · have htimes := List.Sublist.map SignalEvent.ts horder
    revert htimes
    decide +kernel
  · have htimes := List.Sublist.map SignalEvent.ts horder
    revert htimes
    decide +kernel

end V2Relay

end OpenClaw.Server
