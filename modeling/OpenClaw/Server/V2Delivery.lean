import OpenClaw.Server.V2Signals

/-!
# Which signals are lost

An accepted signal is in the queue of its recipient or with one of its streams, until it
is written.  Copying channels, connecting, taking the queue over, taking from a channel and
writing keep it that way.  What throws signals away is the end of a handler, an offer to
the channel of a handler that has ended, and a prune that forgets the recipient; a run
loses nothing exactly if whatever these throw away is written or held elsewhere.
-/

namespace OpenClaw.Server

open OpenClaw.Runtime

/-! ## What streams hold -/

/-- The handler of the recipient runs and has the signal still to write. -/
def V2Stream.Has (key : String) (event : SignalEvent) (stream : V2Stream) : Prop :=
  stream.connected = true ∧ stream.key = key ∧ event ∈ stream.buffer

/-- A stream of the recipient has the signal still to write. -/
def StreamHolds (streams : OrderedMap ℕ V2Stream) (key : String) (event : SignalEvent) : Prop :=
  ∃ stream handler, streams.get stream = some handler ∧ handler.Has key event

/-- Another stream of the recipient than this one has it. -/
def OtherHolds (streams : OrderedMap ℕ V2Stream) (stream : ℕ) (key : String)
    (event : SignalEvent) : Prop :=
  ∃ other handler, other ≠ stream ∧ streams.get other = some handler ∧ handler.Has key event

section Streams

variable {streams : OrderedMap ℕ V2Stream} {stream : ℕ} {handler : V2Stream} {key : String}
  {event : SignalEvent}

theorem streamHolds_of_get (hget : streams.get stream = some handler) :
    StreamHolds streams key event ↔
      handler.Has key event ∨ OtherHolds streams stream key event := by
  constructor
  · rintro ⟨other, found, hfound, hhas⟩
    by_cases heq : other = stream
    · subst heq
      rw [hget] at hfound
      obtain rfl := Option.some.inj hfound
      exact .inl hhas
    · exact .inr ⟨other, found, heq, hfound, hhas⟩
  · rintro (hhas | ⟨other, found, -, hfound, hhas⟩)
    · exact ⟨stream, handler, hget, hhas⟩
    · exact ⟨other, found, hfound, hhas⟩

theorem streamHolds_of_none (hget : streams.get stream = none) :
    StreamHolds streams key event ↔ OtherHolds streams stream key event := by
  constructor
  · rintro ⟨other, found, hfound, hhas⟩
    refine ⟨other, found, ?_, hfound, hhas⟩
    rintro rfl
    rw [hget] at hfound
    cases hfound
  · rintro ⟨other, found, -, hfound, hhas⟩
    exact ⟨other, found, hfound, hhas⟩

theorem otherHolds_set :
    OtherHolds (streams.set stream handler) stream key event ↔
      OtherHolds streams stream key event := by
  constructor
  · rintro ⟨other, found, hne, hfound, hhas⟩
    rw [OrderedMap.get_set_of_ne _ _ hne] at hfound
    exact ⟨other, found, hne, hfound, hhas⟩
  · rintro ⟨other, found, hne, hfound, hhas⟩
    rw [← OrderedMap.get_set_of_ne streams handler hne] at hfound
    exact ⟨other, found, hne, hfound, hhas⟩

theorem streamHolds_set :
    StreamHolds (streams.set stream handler) key event ↔
      handler.Has key event ∨ OtherHolds streams stream key event := by
  rw [streamHolds_of_get (OrderedMap.get_set_self _ _ _), otherHolds_set]

/-- A handler in whose place another one with the same signals stands. -/
theorem streamHolds_set_of_has {new : V2Stream} (hget : streams.get stream = some handler)
    (hhas : new.Has key event ↔ handler.Has key event) :
    StreamHolds (streams.set stream new) key event ↔ StreamHolds streams key event := by
  rw [streamHolds_set, streamHolds_of_get hget, hhas]

theorem mem_buffer_receive {signal : SignalEvent} :
    event ∈ (handler.receive signal).buffer ↔ event ∈ handler.buffer ∨ event = signal := by
  rw [V2Stream.buffer, V2Stream.receive, ← List.append_assoc, List.mem_append,
    List.mem_singleton]
  exact Iff.rfl

end Streams

/-! ## What the server holds -/

namespace V2Relay

variable {relay next : V2Relay} {key : String} {event : SignalEvent}

/-- The signal waits in the queue of the recipient or with one of its streams. -/
def Holds (relay : V2Relay) (key : String) (event : SignalEvent) : Prop :=
  event ∈ queueOf relay.store key ∨ StreamHolds relay.streams key event

/-- The signal is written, or the server holds it. -/
def Present (relay : V2Relay) (key : String) (event : SignalEvent) : Prop :=
  (key, event) ∈ relay.written ∨ relay.Holds key event

/-- No accepted signal is lost: it is written, or the server holds it. -/
def LosesNothing (relay : V2Relay) : Prop :=
  ∀ key event, (key, event) ∈ relay.accepted → relay.Present key event

/-- What the step throws away is written, or held elsewhere. -/
def Spares (relay : V2Relay) : Event → Prop
  | .operate env operation =>
      operation.admissible env → ∀ key ∈ removedEntityKeys relay.store env.now,
        ∀ event ∈ queueOf relay.store key,
          (key, event) ∈ relay.written ∨ StreamHolds relay.streams key event
  | .offer send stream =>
      ∀ sent, relay.trying send stream = some sent → sent.delivered = false →
        ∀ handler, relay.streams.get stream = some handler → handler.hasRoom = true →
          handler.connected = false → relay.Present sent.key sent.event
  | .disconnect stream =>
      ∀ handler, relay.running stream = some handler → ∀ event ∈ handler.buffer,
        (handler.key, event) ∈ relay.written ∨ event ∈ queueOf relay.store handler.key ∨
          OtherHolds relay.streams stream handler.key event
  | _ => True

/-- What the server holds and what a send has handed over, it has accepted. -/
structure Sound (relay : V2Relay) : Prop where
  held : ∀ key event, relay.Holds key event → (key, event) ∈ relay.accepted
  delivered : ∀ send sent, relay.sends.get send = some sent → sent.delivered = true →
    sent.entry ∈ relay.accepted
  copied : relay.Copied

/-! ### What a turn holds -/

/-- A signal put at the end of a channel. -/
theorem streamHolds_receive {streams : OrderedMap ℕ V2Stream} {stream : ℕ} {handler : V2Stream}
    {signal : SignalEvent} (hget : streams.get stream = some handler) :
    StreamHolds (streams.set stream (handler.receive signal)) key event ↔
      StreamHolds streams key event ∨
        handler.connected = true ∧ (key, event) = (handler.key, signal) := by
  have hhas : (handler.receive signal).Has key event ↔ handler.Has key event ∨
      handler.connected = true ∧ (key, event) = (handler.key, signal) := by
    rw [V2Stream.Has, mem_buffer_receive, Prod.mk.injEq]
    dsimp only [V2Stream.receive, V2Stream.Has]
    tauto
  rw [streamHolds_set, streamHolds_of_get hget, hhas]
  exact or_right_comm

theorem mem_queueOf_enqueue {store : V2Store} {target : String} {signal : SignalEvent} :
    event ∈ queueOf (enqueueSignalToQueue store target signal) key ↔
      event ∈ queueOf store key ∨ (key, event) = (target, signal) := by
  rw [queueOf_enqueue, Prod.mk.injEq]
  split
  · next heq =>
      subst heq
      rw [List.mem_append, List.mem_singleton, and_iff_right rfl]
  · next hne => simp only [hne, false_and, or_false]

theorem holds_pull {stream : ℕ} {handler : V2Stream}
    (hget : relay.streams.get stream = some handler) (hconnected : handler.connected = true)
    (hhand : handler.hand = none) :
    Holds { relay.putStream stream { handler with
        hand := some (pullSignalInbox relay.store handler.key maxSignalQueuePull).2 } with
      store := (pullSignalInbox relay.store handler.key maxSignalQueuePull).1 } key event ↔
        relay.Holds key event := by
  have hqueue := @queueOf_pull relay.store handler.key maxSignalQueuePull
  unfold Holds putStream
  dsimp only
  rw [streamHolds_set, streamHolds_of_get hget]
  by_cases heq : handler.key = key
  · subst heq
    rw [← hqueue, List.mem_append]
    simp only [V2Stream.Has, V2Stream.buffer, hhand, hconnected, Option.getD_some,
      Option.getD_none, List.nil_append, List.mem_append, true_and]
    tauto
  · rw [queueOf_pull_of_ne (Ne.symm heq)]
    simp only [V2Stream.Has, heq, false_and, and_false, false_or]

/-- A signal that is written leaves the hand of its handler. -/
theorem holds_write {stream : ℕ} {handler : V2Stream} {signal : SignalEvent}
    {hand : List SignalEvent} (hget : relay.streams.get stream = some handler)
    (hconnected : handler.connected = true) (hhand : handler.hand = some (signal :: hand)) :
    relay.Holds key event ↔ (key, event) = (handler.key, signal) ∨
      (relay.putStream stream { handler with hand := some hand }).Holds key event := by
  unfold Holds putStream
  dsimp only
  rw [streamHolds_set, streamHolds_of_get hget]
  simp only [V2Stream.Has, V2Stream.buffer, hhand, hconnected, Option.getD_some, List.cons_append,
    List.mem_cons, true_and, Prod.mk.injEq, eq_comm (a := key)]
  tauto

theorem holds_connect {stream : ℕ} {clientType clientId : String}
    (hnew : relay.streams.get stream = none) :
    (relay.putStream stream (addSubscriber clientType clientId)).Holds key event ↔
      relay.Holds key event := by
  unfold Holds putStream
  dsimp only
  rw [streamHolds_set, streamHolds_of_none hnew]
  simp [addSubscriber, V2Stream.Has, V2Stream.buffer]

theorem holds_take {stream : ℕ} {handler : V2Stream} {signal : SignalEvent}
    {channel : List SignalEvent} (hget : relay.streams.get stream = some handler)
    (hhand : handler.hand = some []) (hchannel : handler.channel = signal :: channel) :
    (relay.putStream stream { handler with hand := some [signal], channel := channel }).Holds
        key event ↔ relay.Holds key event := by
  refine or_congr Iff.rfl (streamHolds_set_of_has hget ?_)
  simp only [V2Stream.Has, V2Stream.buffer, hhand, hchannel, Option.getD_some, List.nil_append,
    List.singleton_append]

/-- Without the handler, the server holds what it holds elsewhere. -/
theorem holds_leave {stream : ℕ} {handler : V2Stream} :
    (relay.putStream stream (removeSubscriber handler)).Holds key event ↔
      event ∈ queueOf relay.store key ∨ OtherHolds relay.streams stream key event := by
  refine or_congr Iff.rfl (streamHolds_set.trans ?_)
  simp only [V2Stream.Has, removeSubscriber, Bool.false_eq_true, false_and, false_or]

/-- What a prune leaves of a queue, was in it before. -/
theorem mem_queueOf_of_perform {env : Env} {operation : V2Operation} {store : V2Store}
    (hmem : event ∈ queueOf (perform env store operation).1 key) :
    event ∈ queueOf store key := by
  by_cases hkept : operation.admissible env → key ∉ removedEntityKeys store env.now
  · rw [queueOf_perform_of_not_mem hkept] at hmem
    exact hmem
  · obtain ⟨hadmissible, hforgotten⟩ := Classical.not_imp.mp hkept
    rw [queueOf_perform_of_mem hadmissible (not_not.mp hforgotten)] at hmem
    cases hmem

/-! ### What the server holds, it has accepted -/

theorem accepted_turn {step : Event} (hturn : Turn relay step next) :
    relay.accepted ⊆ next.accepted := by
  cases hturn with
  | taken hsent hleft hget hroom =>
      dsimp only
      split
      · exact fun _ hmem => hmem
      · exact List.subset_append_left _ _
  | queued hsent hleft hdelivered => exact List.subset_append_left _ _
  | _ => exact fun _ hmem => hmem

/-- A signal that a channel has just taken is accepted, now or by an earlier channel. -/
theorem entry_mem_taken {sent : V2Send} (hbefore : sent.delivered = true →
    sent.entry ∈ relay.accepted) :
    sent.entry ∈ if sent.delivered then relay.accepted else relay.accepted ++ [sent.entry] := by
  split
  · next hdelivered => exact hbefore hdelivered
  · exact List.mem_append_right _ (List.mem_singleton_self _)

theorem held_turn {step : Event} (hturn : Turn relay step next) (hsound : relay.Sound)
    (hheld : next.Holds key event) : (key, event) ∈ next.accepted := by
  have hbefore : relay.Holds key event → (key, event) ∈ next.accepted :=
    fun hheld => accepted_turn hturn (hsound.held key event hheld)
  cases hturn with
  | operate => exact hbefore (hheld.imp mem_queueOf_of_perform id)
  | @taken send stream sent handler hsent hleft hget hroom =>
      rcases hheld with hqueue | hstream
      · exact hbefore (.inl hqueue)
      · rcases (streamHolds_receive hget).mp hstream with hstream | ⟨-, hnew⟩
        · exact hbefore (.inr hstream)
        · -- the channel is one of the recipient's, though its handler may have ended
          obtain ⟨found, hfound, hkey⟩ := hsound.copied send sent hsent stream hleft
          rw [hget] at hfound
          obtain rfl := Option.some.inj hfound
          rw [hnew, hkey]
          exact entry_mem_taken (hsound.delivered send sent hsent)
  | queued hsent hleft hdelivered =>
      rcases hheld with hqueue | hstream
      · rcases mem_queueOf_enqueue.mp hqueue with hqueue | hnew
        · exact hbefore (.inl hqueue)
        · rw [hnew]
          exact List.mem_append_right _ (List.mem_singleton_self _)
      · exact hbefore (.inr hstream)
  | connect hfresh => exact hbefore ((holds_connect hfresh).mp hheld)
  | pull hget hconnected hhand => exact hbefore ((holds_pull hget hconnected hhand).mp hheld)
  | take hget hconnected hhand hchannel =>
      exact hbefore ((holds_take hget hhand hchannel).mp hheld)
  | write hget hconnected hhand =>
      exact hbefore ((holds_write hget hconnected hhand).mpr (.inr hheld))
  | @leave stream handler hget hconnected =>
      refine hbefore ((holds_leave.mp hheld).imp id fun hother => ?_)
      exact (streamHolds_of_get hget).mpr (.inr hother)
  | _ => exact hbefore hheld

theorem delivered_turn {step : Event} (hturn : Turn relay step next) (hsound : relay.Sound)
    {send : ℕ} {sent : V2Send} (hsent : next.sends.get send = some sent)
    (hdelivered : sent.delivered = true) : sent.entry ∈ next.accepted := by
  have hbefore : relay.sends.get send = some sent → sent.entry ∈ next.accepted :=
    fun hget => accepted_turn hturn (hsound.delivered send sent hget hdelivered)
  cases hturn with
  | emit hfresh =>
      dsimp only [emitV2Signal] at hsent
      rw [OrderedMap.get_set] at hsent
      split at hsent
      · obtain rfl := Option.some.inj hsent
        cases hdelivered
      · exact hbefore hsent
  | taken hold hleft hget hroom =>
      dsimp only at hsent
      rw [OrderedMap.get_set] at hsent
      split at hsent
      · obtain rfl := Option.some.inj hsent
        exact entry_mem_taken (hsound.delivered _ _ hold)
      · exact hbefore hsent
  | @refused _ _ old _ hold hleft hget hroom =>
      dsimp only at hsent
      rw [OrderedMap.get_set] at hsent
      split at hsent
      · obtain rfl := Option.some.inj hsent
        have hearlier : old.delivered = true := (Bool.or_false _).symm.trans hdelivered
        have haccepted : old.entry ∈ relay.accepted := hsound.delivered _ _ hold hearlier
        exact haccepted
      · exact hbefore hsent
  | handed hold hleft hgone => exact hbefore (OrderedMap.get_of_get_erase hsent)
  | queued hold hleft hgone => exact hbefore (OrderedMap.get_of_get_erase hsent)
  | _ => exact hbefore hsent

theorem sound_turn {step : Event} (hturn : Turn relay step next) (hsound : relay.Sound) :
    next.Sound where
  held _ _ hheld := held_turn hturn hsound hheld
  delivered _ _ hsent hdelivered := delivered_turn hturn hsound hsent hdelivered
  copied := copied_turn hturn hsound.copied

/-! ### One step -/

/-- A turn that moves what the server holds. -/
theorem losesNothing_of_holds (hnothing : relay.LosesNothing)
    (haccepted : next.accepted = relay.accepted) (hwritten : next.written = relay.written)
    (hholds : ∀ key event, next.Holds key event ↔ relay.Holds key event) : next.LosesNothing := by
  intro key event hmem
  rw [haccepted] at hmem
  rw [Present, hwritten, hholds]
  exact hnothing key event hmem

/-- A turn that places a signal where the server holds it. -/
theorem losesNothing_of_placed {entry : String × SignalEvent} (hnothing : relay.LosesNothing)
    (haccepted : next.accepted ⊆ relay.accepted ++ [entry])
    (hwritten : next.written = relay.written)
    (hholds : ∀ key event, next.Holds key event ↔ relay.Holds key event ∨ (key, event) = entry) :
    next.LosesNothing := by
  intro key event hmem
  rw [Present, hwritten, hholds, ← or_assoc]
  rcases List.mem_append.mp (haccepted hmem) with hold | hnew
  · exact .inl (hnothing key event hold)
  · exact .inr (List.mem_singleton.mp hnew)

theorem losesNothing_operate {env : Env} {operation : V2Operation} (hsound : relay.Sound)
    (hnothing : relay.LosesNothing) :
    LosesNothing { relay with store := (perform env relay.store operation).1 } ↔
      relay.Spares (.operate env operation) := by
  constructor
  · intro hnext hadmissible key hforgotten event hqueue
    rcases hnext key event (hsound.held key event (.inl hqueue)) with hwritten | hmem | hstream
    · exact .inl hwritten
    · have hgone : event ∈ queueOf (perform env relay.store operation).1 key := hmem
      rw [queueOf_perform_of_mem hadmissible hforgotten] at hgone
      cases hgone
    · exact .inr hstream
  · intro hspares key event haccepted
    rcases hnothing key event haccepted with hwritten | hqueue | hstream
    · exact .inl hwritten
    · by_cases hkept : operation.admissible env → key ∉ removedEntityKeys relay.store env.now
      · refine .inr (.inl ?_)
        show event ∈ queueOf (perform env relay.store operation).1 key
        rw [queueOf_perform_of_not_mem hkept]
        exact hqueue
      · obtain ⟨hadmissible, hforgotten⟩ := Classical.not_imp.mp hkept
        exact (hspares hadmissible key (not_not.mp hforgotten) event hqueue).imp id .inr
    · exact .inr (.inr hstream)

theorem losesNothing_leave {stream : ℕ} {handler : V2Stream} (hsound : relay.Sound)
    (hnothing : relay.LosesNothing) (hget : relay.streams.get stream = some handler)
    (hconnected : handler.connected = true) :
    LosesNothing (relay.putStream stream (removeSubscriber handler)) ↔
      relay.Spares (.disconnect stream) := by
  constructor
  · intro hnext found hrunning event hmem
    obtain ⟨hfound, -⟩ := running_eq_some.mp hrunning
    rw [hget] at hfound
    obtain rfl := Option.some.inj hfound
    have haccepted := hsound.held handler.key event
      (.inr ⟨stream, handler, hget, hconnected, rfl, hmem⟩)
    exact (hnext handler.key event haccepted).imp id holds_leave.mp
  · intro hspares key event haccepted
    have hrunning := running_eq_some.mpr ⟨hget, hconnected⟩
    rcases hnothing key event haccepted with hwritten | hqueue | hstream
    · exact .inl hwritten
    · exact .inr (holds_leave.mpr (.inl hqueue))
    · rcases (streamHolds_of_get hget).mp hstream with ⟨-, rfl, hmem⟩ | hother
      · exact (hspares handler hrunning event hmem).imp id holds_leave.mpr
      · exact .inr (holds_leave.mpr (.inr hother))

/-- A signal that a channel takes is lost if it is new and the handler has ended. -/
theorem losesNothing_taken {send stream : ℕ} {sent : V2Send} {handler : V2Stream}
    (hsound : relay.Sound) (hnothing : relay.LosesNothing)
    (hsent : relay.sends.get send = some sent) (hleft : stream ∈ sent.left)
    (hget : relay.streams.get stream = some handler) (hroom : handler.hasRoom = true) :
    LosesNothing { relay.putStream stream (handler.receive sent.event) with
        sends := relay.sends.set send (sent.turn stream true)
        accepted := if sent.delivered then relay.accepted else relay.accepted ++ [sent.entry] } ↔
      relay.Spares (.offer send stream) := by
  have htrying := trying_eq_some.mpr ⟨hsent, hleft⟩
  obtain ⟨found, hfound, hkey⟩ := hsound.copied send sent hsent stream hleft
  rw [hget] at hfound
  obtain rfl := Option.some.inj hfound
  have hholds : ∀ key event, StreamHolds (relay.streams.set stream (handler.receive sent.event))
      key event ↔ StreamHolds relay.streams key event ∨
        handler.connected = true ∧ (key, event) = sent.entry := by
    intro key event
    rw [V2Send.entry, ← hkey]
    exact streamHolds_receive hget
  by_cases hconnected : handler.connected = true
  · -- the handler is there to write it
    refine iff_of_true ?_ ?_
    · refine @losesNothing_of_placed relay _ sent.entry hnothing ?_ rfl ?_
      · dsimp only
        split
        · exact List.subset_append_left _ _
        · exact fun _ hmem => hmem
      · intro key event
        refine (or_congr Iff.rfl (hholds key event)).trans ?_
        rw [and_iff_right hconnected, ← or_assoc]
        exact Iff.rfl
    · intro found hfound hnew running hrunning hspace hended
      rw [hget] at hrunning
      rw [← Option.some.inj hrunning, hconnected] at hended
      cases hended
  -- nobody reads the channel any more, so nothing but the log of what is accepted changes
  have hended : handler.connected = false := by simpa using hconnected
  have hsame : ∀ key event, Present { relay.putStream stream (handler.receive sent.event) with
      sends := relay.sends.set send (sent.turn stream true)
      accepted := if sent.delivered then relay.accepted else relay.accepted ++ [sent.entry] }
        key event ↔ relay.Present key event := by
    intro key event
    refine or_congr Iff.rfl (or_congr Iff.rfl ((hholds key event).trans ?_))
    simp only [hended, Bool.false_eq_true, false_and, or_false]
  constructor
  · intro hnext found hfound hnew _ _ _ _
    rw [htrying] at hfound
    obtain rfl := Option.some.inj hfound
    exact (hsame _ _).mp (hnext _ _ (entry_mem_taken (hsound.delivered send sent hsent)))
  · intro hspares key event haccepted
    rw [hsame]
    dsimp only at haccepted
    split at haccepted
    · exact hnothing key event haccepted
    · next hnew =>
        rcases List.mem_append.mp haccepted with hold | hmem
        · exact hnothing key event hold
        · obtain ⟨rfl, rfl⟩ := Prod.mk.inj (List.mem_singleton.mp hmem)
          exact hspares sent htrying (by simpa using hnew) handler hget hroom hended

/-- **One step.** -/
theorem losesNothing_turn {step : Event} (hturn : Turn relay step next) (hsound : relay.Sound)
    (hnothing : relay.LosesNothing) : next.LosesNothing ↔ relay.Spares step := by
  cases hturn with
  | operate => exact losesNothing_operate hsound hnothing
  | leave hget hconnected => exact losesNothing_leave hsound hnothing hget hconnected
  | taken hsent hleft hget hroom =>
      exact losesNothing_taken hsound hnothing hsent hleft hget hroom
  | @refused send stream sent handler hsent hleft hget hroom =>
      refine iff_of_true (losesNothing_of_holds hnothing rfl rfl fun _ _ => Iff.rfl) ?_
      intro found hfound hnew other hother hspace
      rw [hget] at hother
      rw [← Option.some.inj hother, hroom] at hspace
      cases hspace
  | queued hsent hleft hdelivered =>
      refine iff_of_true ?_ trivial
      refine losesNothing_of_placed hnothing (fun _ hmem => hmem) rfl fun key event => ?_
      refine (or_congr mem_queueOf_enqueue Iff.rfl).trans ?_
      exact or_right_comm
  | connect hfresh =>
      exact iff_of_true
        (losesNothing_of_holds hnothing rfl rfl fun _ _ => holds_connect hfresh) trivial
  | pull hget hconnected hhand =>
      exact iff_of_true
        (losesNothing_of_holds hnothing rfl rfl fun _ _ => holds_pull hget hconnected hhand) trivial
  | take hget hconnected hhand hchannel =>
      exact iff_of_true
        (losesNothing_of_holds hnothing rfl rfl fun _ _ => holds_take hget hhand hchannel) trivial
  | @write stream handler signal hand hget hconnected hhand =>
      refine iff_of_true ?_ trivial
      intro key event haccepted
      rw [Present, List.mem_append, List.mem_singleton, or_assoc]
      refine (hnothing key event haccepted).imp id fun hheld => ?_
      exact (holds_write hget hconnected hhand).mp hheld
  | emit hfresh =>
      exact iff_of_true (losesNothing_of_holds hnothing rfl rfl fun _ _ => Iff.rfl) trivial
  | handed hsent hleft hdelivered =>
      exact iff_of_true (losesNothing_of_holds hnothing rfl rfl fun _ _ => Iff.rfl) trivial
  | stay hidle =>
      refine iff_of_true hnothing ?_
      cases step with
      | operate env operation => cases hidle
      | offer send stream =>
          intro sent htrying hnew handler hget
          rcases hidle with hnone | hnone
          · rw [htrying] at hnone
            cases hnone
          · rw [hget] at hnone
            cases hnone
      | disconnect stream =>
          intro handler hrunning
          rw [hidle] at hrunning
          cases hrunning
      | _ => trivial

/-! ### Runs -/

/-- **No accepted signal is lost** in the states of a run exactly if no handler ends with,
no prune forgets a recipient with, and no send leaves to a handler that has ended, a signal
that is neither written nor held elsewhere. -/
theorem loses_nothing_iff {steps : List Event} :
    (∀ before, before <+: steps → (Steps.run step initial before).LosesNothing) ↔
      Steps.Along step Spares initial steps := by
  have hnone : ∀ key event, ¬initial.Holds key event := by
    rintro key event (hqueue | ⟨stream, handler, hget, -⟩)
    · cases hqueue
    · cases hget
  have hstart : initial.Sound ∧ initial.LosesNothing := by
    refine ⟨⟨fun key event hheld => absurd hheld (hnone key event), ?_, copied_initial⟩, ?_⟩
    · intro send sent hsent
      cases hsent
    · intro key event hmem
      cases hmem
  have hsound : ∀ (relay : V2Relay) (event : Event), relay.Sound → (relay.step event).Sound :=
    fun relay event => sound_turn (turn_step relay event)
  have hstep : ∀ (relay : V2Relay) (event : Event), relay.Sound ∧ relay.LosesNothing →
      ((relay.step event).Sound ∧ (relay.step event).LosesNothing ↔ relay.Spares event) := by
    rintro relay event ⟨hkept, hnothing⟩
    rw [and_iff_right (hsound relay event hkept)]
    exact losesNothing_turn (turn_step relay event) hkept hnothing
  rw [← Steps.forall_prefix_iff_along hstep hstart]
  constructor
  · intro hnothing before hbefore
    exact ⟨Steps.run_preserves_of_step hsound before hstart.1, hnothing before hbefore⟩
  · intro hinv before hbefore
    exact (hinv before hbefore).2

def firstSignal : SignalEvent := ⟨"v2evt_1", "webrtc.offer", 1, none, none, []⟩

/-- A signal waits for the desktop `d`; the handler of its stream takes it, and the write
fails. -/
def failedWrite : List Event :=
  [.emit 0 "desktop" "d" firstSignal, .finish 0, .connect 0 "desktop" "d", .pull 0,
    .disconnect 0]

/-- The desktop leaves when the send has copied its channel, and the channel takes the
signal. -/
def leftBehind : List Event :=
  [.connect 0 "desktop" "d", .pull 0, .emit 0 "desktop" "d" firstSignal, .disconnect 0,
    .offer 0 0, .finish 0]

/-- What is accepted in a run and neither written nor held at its end. -/
theorem not_losesNothing_of_gone {steps : List Event}
    (haccepted : ("desktop:d", firstSignal) ∈ (Steps.run step initial steps).accepted)
    (hwritten : (Steps.run step initial steps).written = [])
    (hqueue : (queueOf (Steps.run step initial steps).store "desktop:d").length = 0)
    (hstreams : ∀ handler ∈ (Steps.run step initial steps).streams.values,
      handler.connected = false) :
    ¬∀ before, before <+: steps → (Steps.run step initial before).LosesNothing := by
  intro hnothing
  rcases hnothing steps (List.prefix_refl _) _ _ haccepted with
    hmem | hmem | ⟨stream, handler, hget, hconnected, -⟩
  · rw [hwritten] at hmem
    cases hmem
  · rw [List.length_eq_zero_iff.mp hqueue] at hmem
    cases hmem
  · rw [hstreams handler (OrderedMap.mem_values_of_get hget)] at hconnected
    cases hconnected

theorem failedWrite_loses :
    (¬∀ before, before <+: failedWrite → (Steps.run step initial before).LosesNothing) ∧
      ¬∀ before, before <+: leftBehind → (Steps.run step initial before).LosesNothing := by
  constructor
  · exact not_losesNothing_of_gone (List.mem_singleton_self _) rfl (by decide +kernel)
      (by decide +kernel)
  · exact not_losesNothing_of_gone (List.mem_singleton_self _) rfl (by decide +kernel)
      (by decide +kernel)

end V2Relay

end OpenClaw.Server
