import OpenClaw.Lib.Steps
import OpenClaw.Server.Persistence
import OpenClaw.Server.V1Changes

/-!
# The inbox in Redis

A push appends to the list of its client and a pull takes from the front of it; a persist
deletes the lists and writes copies that are as old as the start of the server.  What is
returned to a client and what still waits for it are together what was pushed exactly as
long as no transaction changes a list, that is, as long as the copy of every list that is
deleted is what the list holds, and the others have no copy.
-/

namespace OpenClaw.Server.V1

open OpenClaw.Runtime

/-! ## The machine -/

/-- How far a persist is. -/
inductive Persist
  | idle
  | snapshotted (snapshot : Store) (now : ℤ)
  | listed (snapshot : Store) (now : ℤ) (queueKeys : List String)

/-- A server and its Redis, and what was pushed and returned under the key of each
client. -/
structure Inbox where
  store : Store
  redis : Redis
  persist : Persist
  pushed : String → List SignalEvent
  returned : String → List SignalEvent

namespace Inbox

inductive Event
  | push (toType toId : String) (event : SignalEvent)
  | pull (clientType clientId : String) (limit : ℤ)
  | mutate (machine : Machine) (operation : Operation)
  | takeSnapshot (now : ℤ)
  | listQueues
  | exec (iter : IterOrder) (execAt : ℤ)
  | restart (now : ℤ) (iter : IterOrder)

/-- A server that starts for the first time; what it finds in a queue counts as pushed. -/
def boot (redis : Redis) (now : ℤ) (iter : IterOrder) : Inbox where
  store := hydrateFromRedis redis now iter
  redis := redis
  persist := .idle
  pushed := queueOf redis.signalQueues
  returned := fun _ => []

def appendAt (log : String → List SignalEvent) (key : String) (events : List SignalEvent) :
    String → List SignalEvent :=
  fun other => if other = key then log key ++ events else log other

/-- A persist takes a snapshot of the store, lists the queues and executes its
transaction; other steps may come between these, but no other persist.  A restart ends the
one that is going on. -/
def step (inbox : Inbox) : Event → Inbox
  | .push toType toId event =>
      { inbox with
        redis := pushSignal inbox.redis toType toId event false
        pushed := appendAt inbox.pushed (clientKey toType toId) [event] }
  | .pull clientType clientId limit =>
      let pulled := pullSignalInbox inbox.redis clientType clientId limit
      { inbox with
        redis := pulled.1
        returned := appendAt inbox.returned (clientKey clientType clientId) pulled.2 }
  | .mutate machine operation =>
      { inbox with store := (perform machine inbox.store operation).1 }
  | .takeSnapshot now =>
      match inbox.persist with
      | .idle => { inbox with persist := .snapshotted inbox.store now }
      | _ => inbox
  | .listQueues =>
      match inbox.persist with
      | .snapshotted snapshot now =>
          { inbox with persist := .listed snapshot now inbox.redis.signalQueues.keys }
      | _ => inbox
  | .exec iter execAt =>
      match inbox.persist with
      | .listed snapshot now queueKeys =>
          { inbox with
            persist := .idle
            redis := V1.exec inbox.redis snapshot now queueKeys iter execAt }
      | _ => inbox
  | .restart now iter =>
      { inbox with store := hydrateFromRedis inbox.redis now iter, persist := .idle }

/-- What a client got and what waits for it are what was pushed to it, each event once and
in this order. -/
def Durable (inbox : Inbox) : Prop :=
  ∀ key, inbox.returned key ++ queueOf inbox.redis.signalQueues key = inbox.pushed key

/-- A transaction changes no list: it has no copy for the clients whose lists it leaves,
and for the others a copy of what their lists hold. -/
def RewritesAsIs (inbox : Inbox) : Event → Prop
  | .exec _ _ =>
      match inbox.persist with
      | .listed snapshot now queueKeys =>
          ∀ key, copyOf snapshot now key =
            if key ∈ queueKeys then queueOf inbox.redis.signalQueues key else []
      | _ => True
  | _ => True

/-! ## What a durable inbox promises -/

section Durable

variable {inbox : Inbox}

/-- An event that was pushed and not returned is in its queue. -/
theorem Durable.mem_queue (hdurable : inbox.Durable) {key : String} {event : SignalEvent}
    (hpushed : event ∈ inbox.pushed key) (hreturned : event ∉ inbox.returned key) :
    event ∈ queueOf inbox.redis.signalQueues key := by
  rw [← hdurable key, List.mem_append] at hpushed
  exact hpushed.resolve_left hreturned

/-- A pull returns the next events in push order, and none that was returned before. -/
theorem Durable.next_prefix (hdurable : inbox.Durable) (clientType clientId : String)
    (limit : ℤ) :
    let key := clientKey clientType clientId
    inbox.returned key ++ (pullSignalInbox inbox.redis clientType clientId limit).2 <+:
      inbox.pushed key := by
  intro key
  have hpull := @queueOf_pullQueueScript inbox.redis key key
    (clampInt limit 1 maxSignalQueuePull).toNat
  rw [if_pos rfl] at hpull
  rw [← hdurable key, ← hpull]
  exact (List.prefix_append_right_inj _).mpr (List.prefix_append _ _)

/-! ## One step -/

theorem durable_boot (redis : Redis) (now : ℤ) (iter : IterOrder) :
    (boot redis now iter).Durable := fun _ => rfl

theorem durable_push (hdurable : inbox.Durable) (toType toId : String) (event : SignalEvent) :
    (inbox.step (.push toType toId event)).Durable := by
  intro key
  show inbox.returned key ++ queueOf (rpush inbox.redis.signalQueues _ _) key =
    appendAt inbox.pushed _ _ key
  rw [queueOf_rpush]
  unfold appendAt
  split
  · next heq => rw [heq, ← List.append_assoc, hdurable]
  · exact hdurable key

theorem durable_pull (hdurable : inbox.Durable) (clientType clientId : String) (limit : ℤ) :
    (inbox.step (.pull clientType clientId limit)).Durable := by
  intro key
  have hpull := @queueOf_pullQueueScript inbox.redis (clientKey clientType clientId)
    key (clampInt limit 1 maxSignalQueuePull).toNat
  show appendAt inbox.returned _ _ key ++
    queueOf (pullSignalInbox inbox.redis clientType clientId limit).1.signalQueues key =
      inbox.pushed key
  unfold appendAt pullSignalInbox
  rw [← hdurable key, ← hpull]
  split
  · next heq => rw [heq, List.append_assoc]
  · rfl

/-- A transaction keeps the inbox durable exactly if it changes no list. -/
theorem durable_exec (hdurable : inbox.Durable) (iter : IterOrder) (execAt : ℤ) :
    (inbox.step (.exec iter execAt)).Durable ↔ inbox.RewritesAsIs (.exec iter execAt) := by
  unfold step RewritesAsIs
  cases hpersist : inbox.persist with
  | idle => exact iff_of_true hdurable trivial
  | snapshotted snapshot now => exact iff_of_true hdurable trivial
  | listed snapshot now queueKeys =>
      refine forall_congr' fun key => ?_
      show inbox.returned key ++ queueOf (V1.exec _ _ _ _ _ _).signalQueues key =
        inbox.pushed key ↔ _
      rw [← hdurable key, queueOf_exec, List.append_right_inj]
      split
      · rw [List.nil_append]
      · exact List.append_right_eq_self

theorem durable_step (hdurable : inbox.Durable) (event : Event) :
    (inbox.step event).Durable ↔ inbox.RewritesAsIs event := by
  cases event with
  | push toType toId event => exact iff_of_true (durable_push hdurable toType toId event) trivial
  | pull clientType clientId limit =>
      exact iff_of_true (durable_pull hdurable clientType clientId limit) trivial
  | mutate machine operation => exact iff_of_true hdurable trivial
  | takeSnapshot now =>
      refine iff_of_true ?_ trivial
      unfold step
      cases inbox.persist <;> exact hdurable
  | listQueues =>
      refine iff_of_true ?_ trivial
      unfold step
      cases inbox.persist <;> exact hdurable
  | exec iter execAt => exact durable_exec hdurable iter execAt
  | restart now iter => exact iff_of_true hdurable trivial

end Durable

/-! ## Runs -/

/-- **The inbox is durable** in every state of a run exactly if no transaction of the run
changes a list. -/
theorem inbox_durable_iff (redis : Redis) (now : ℤ) (iter : IterOrder) (events : List Event) :
    (∀ before, before <+: events → (Steps.run step (boot redis now iter) before).Durable) ↔
      Steps.Along step RewritesAsIs (boot redis now iter) events := by
  apply Steps.forall_prefix_iff_along
  · intro inbox event hdurable
    exact durable_step hdurable event
  · exact durable_boot redis now iter

def message : SignalEvent := ⟨"evt_1", "task.recovery", 1, none, none, []⟩

/-- A device registers, and the server persists. -/
def registerAndPersist : List Event :=
  [.mutate ⟨1, fun _ => .ok "1", [], IterOrder.stored⟩
      (.registerDevice ⟨"pc", "linux", "", none⟩ ""),
    .takeSnapshot 2, .listQueues, .exec IterOrder.stored 3]

/-- The server starts again before the message is pulled, and persists after that. -/
def pullTwice : List Event :=
  [.push "mobile" "phone" message, .restart 0 IterOrder.stored, .pull "mobile" "phone" 100] ++
    registerAndPersist ++ [.pull "mobile" "phone" 100]

/-- A message that was pushed is gone after a persist, and one that was in its queue when
the server started is returned again after one. -/
theorem lost_and_returned_again :
    (¬∀ before, before <+: Event.push "mobile" "phone" message :: registerAndPersist →
        (Steps.run step (boot emptyRedis 0 IterOrder.stored) before).Durable) ∧
      ∃ inbox, Steps.run step (boot emptyRedis 0 IterOrder.stored) pullTwice = inbox ∧
        inbox.pushed "mobile:phone" = [message] ∧
        inbox.returned "mobile:phone" = [message, message] := by
  constructor
  · intro hdurable
    have hlost := congrArg List.length (hdurable _ (List.prefix_refl _) "mobile:phone")
    revert hlost
    decide +kernel
  · exact ⟨_, rfl, rfl, rfl⟩

/-! ## How old the copies are -/

section Copies

/-- The queues of a store are those that it started with, or some of them. -/
def CopiedFrom (original : OrderedMap String (List SignalEvent)) (store : Store) : Prop :=
  ∀ key queue, store.signalQueues.get key = some queue → original.get key = some queue

/-- The store and the snapshot of a persist that is going on have no other queues. -/
def OldCopies (original : OrderedMap String (List SignalEvent)) (inbox : Inbox) : Prop :=
  CopiedFrom original inbox.store ∧
    match inbox.persist with
    | .idle => True
    | .snapshotted snapshot _ => CopiedFrom original snapshot
    | .listed snapshot _ _ => CopiedFrom original snapshot

variable {original : OrderedMap String (List SignalEvent)} {inbox : Inbox}

theorem copiedFrom_hydrate (redis : Redis) (now : ℤ) (iter : IterOrder) :
    CopiedFrom redis.signalQueues (hydrateFromRedis redis now iter) := by
  intro key queue hget
  exact OrderedMap.get_of_get_filter (OrderedMap.get_of_get_filter hget)

/-- No operation adds to a queue. -/
theorem copiedFrom_perform {machine : Machine} {store : Store}
    (hcopied : CopiedFrom original store) (operation : Operation) :
    CopiedFrom original (perform machine store operation).1 := by
  obtain ⟨prepared, hprepared, hchange⟩ := @changes_perform machine store operation
  have hsame : (perform machine store operation).1.signalQueues = prepared.signalQueues := by
    generalize (perform machine store operation).1 = next,
      (perform machine store operation).2 = outcome at hchange
    cases hchange with
    | refuse => rfl
    | expire => rfl
    | records => rfl
    | openSession => rfl
    | claim => rfl
    | revoke => rfl
  intro key queue hget
  rw [hsame] at hget
  rcases hprepared with rfl | rfl
  · exact hcopied key queue hget
  · exact hcopied key queue (OrderedMap.get_of_get_filter hget)

theorem oldCopies_step (hold : OldCopies original inbox) {event : Event}
    (hruns : ∀ now iter, event ≠ .restart now iter) : OldCopies original (inbox.step event) := by
  obtain ⟨hstore, hpersist⟩ := hold
  cases event with
  | push => exact ⟨hstore, hpersist⟩
  | pull => exact ⟨hstore, hpersist⟩
  | mutate machine operation => exact ⟨copiedFrom_perform hstore operation, hpersist⟩
  | takeSnapshot now =>
      unfold step
      cases hidle : inbox.persist with
      | idle => exact ⟨hstore, hstore⟩
      | snapshotted => exact ⟨hstore, hpersist⟩
      | listed => exact ⟨hstore, hpersist⟩
  | listQueues =>
      unfold step
      cases hlist : inbox.persist with
      | idle => exact ⟨hstore, hpersist⟩
      | snapshotted snapshot now =>
          rw [hlist] at hpersist
          exact ⟨hstore, hpersist⟩
      | listed => exact ⟨hstore, hpersist⟩
  | exec iter execAt =>
      unfold step
      cases hexec : inbox.persist with
      | idle => exact ⟨hstore, hpersist⟩
      | snapshotted => exact ⟨hstore, hpersist⟩
      | listed => exact ⟨hstore, trivial⟩
  | restart now iter => exact absurd rfl (hruns now iter)

/-- **What a persist writes to a client** is nothing, or what Redis had for the client when
the server last started. -/
theorem copyOf_since_start (hold : OldCopies original inbox) {snapshot : Store} {now : ℤ}
    {queueKeys : List String} (hlisted : inbox.persist = .listed snapshot now queueKeys)
    (key : String) :
    copyOf snapshot now key = [] ∨ copyOf snapshot now key = queueOf original key := by
  have hcopied : CopiedFrom original snapshot := by
    have hpersist := hold.2
    rw [hlisted] at hpersist
    exact hpersist
  unfold copyOf
  split
  · cases hget : (filteredQueues snapshot now).get key with
    | none => exact Or.inl (by unfold queueOf; rw [hget]; rfl)
    | some queue =>
        have horiginal := hcopied key queue (OrderedMap.get_of_get_filter hget)
        exact Or.inr (by unfold queueOf; rw [hget, horiginal])
  · exact Or.inl rfl

/-- The copies are as old as the start in every state of a run without a restart. -/
theorem oldCopies_run (redis : Redis) (now : ℤ) (iter : IterOrder) {events : List Event}
    (hruns : ∀ event ∈ events, ∀ now iter, event ≠ .restart now iter) :
    OldCopies redis.signalQueues (Steps.run step (boot redis now iter) events) := by
  have halong : Steps.Along step (fun _ event => ∀ now iter, event ≠ .restart now iter)
      (boot redis now iter) events :=
    Steps.along_of_forall fun event hmem _ => hruns event hmem
  have hstep : ∀ inbox event, OldCopies redis.signalQueues inbox →
      (∀ now iter, event ≠ Event.restart now iter) →
        OldCopies redis.signalQueues (inbox.step event) :=
    fun _ _ hold hruns => oldCopies_step hold hruns
  exact Steps.run_preserves hstep ⟨copiedFrom_hydrate redis now iter, trivial⟩ halong

end Copies

end Inbox

end OpenClaw.Server.V1
