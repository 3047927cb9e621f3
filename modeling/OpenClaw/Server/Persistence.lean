import OpenClaw.Server.V1Store

/-!
# The first store in Redis

A server with Redis keeps the queues of its clients there, one list for each client, and
from time to time writes its records there too, in one transaction that first deletes what
it had written before.  The store has queues of its own, which are read from Redis when
the server starts and which nothing is added to afterwards; a persist deletes the lists
and writes these.

A list of Redis is kept here under the key of its client, and an event as itself: what is
encoded on the way in is decoded on the way out.  The time to live of a list is left out.
-/

namespace OpenClaw.Server.V1

open OpenClaw.Runtime

/-- What Redis holds.  A lease is there until its time. -/
structure Redis where
  devices : OrderedMap String Device
  pairSessions : OrderedMap String PairSession
  bindings : OrderedMap String Binding
  deviceLeases : OrderedMap String ℤ
  signalQueues : OrderedMap String (List SignalEvent)

def emptyRedis : Redis := ⟨∅, ∅, ∅, ∅, ∅⟩

/-- `LRANGE key 0 -1`. -/
def queueOf (queues : OrderedMap String (List SignalEvent)) (key : String) : List SignalEvent :=
  (queues.get key).getD []

/-- `RPUSH`. -/
def rpush (queues : OrderedMap String (List SignalEvent)) (key : String)
    (items : List SignalEvent) : OrderedMap String (List SignalEvent) :=
  queues.set key (queueOf queues key ++ items)

/-- `LTRIM key start -1`: a list without elements is not there. -/
def ltrim (queues : OrderedMap String (List SignalEvent)) (key : String) (start : ℕ) :
    OrderedMap String (List SignalEvent) :=
  if (queueOf queues key).drop start = [] then queues.erase key
  else queues.set key ((queueOf queues key).drop start)

/-! ## Signals -/

/-- An event that a stream of this server took is not put in the queue. -/
def pushSignal (redis : Redis) (toType toId : String) (event : SignalEvent)
    (deliveredLocal : Bool) : Redis :=
  if deliveredLocal then redis
  else { redis with signalQueues := rpush redis.signalQueues (clientKey toType toId) [event] }

/-- `redisPullQueueScript` -/
def pullQueueScript (redis : Redis) (key : String) (limit : ℕ) : Redis × List SignalEvent :=
  let items := (queueOf redis.signalQueues key).take limit
  if items = [] then (redis, [])
  else ({ redis with signalQueues := ltrim redis.signalQueues key limit }, items)

def pullSignalInbox (redis : Redis) (clientType clientId : String) (limit : ℤ) :
    Redis × List SignalEvent :=
  pullQueueScript redis (clientKey clientType clientId) (clampInt limit 1 maxSignalQueuePull).toNat

/-! ## Starting -/

/-- The sessions that can still be claimed, under a text of theirs. -/
def claimableIndex (iter : IterOrder) (now : ℤ) (sessions : OrderedMap String PairSession)
    (textOf : PairSession → String) : OrderedMap String String :=
  (iter.order sessions.entries).foldl (fun index entry =>
    if entry.2.status ≠ .pending ∨ entry.2.expiresAt ≤ now ∨ textOf entry.2 = "" then index
    else index.set (textOf entry.2) entry.1) ∅

/-- The devices with a lease, or seen in the last month. -/
def activeDevicesAt (redis : Redis) (now : ℤ) : OrderedMap String Device :=
  redis.devices.filter fun deviceId device =>
    (redis.deviceLeases.get deviceId).any (fun expiresAt => now < expiresAt) ∨
      deviceInactiveCutoff now < device.lastSeenAt

/-- The queue of a desktop that is not among the devices is left out. -/
def queuesOfActive (devices : OrderedMap String Device)
    (queues : OrderedMap String (List SignalEvent)) : OrderedMap String (List SignalEvent) :=
  queues.filter fun key _ =>
    (desktopOfKey key).all fun deviceId => (devices.get deviceId).isSome

/-- The store that a server starts with. -/
def hydrateFromRedis (redis : Redis) (now : ℤ) (iter : IterOrder) : Store :=
  let activeDevices := activeDevicesAt redis now
  let pairSessions := redis.pairSessions.filter fun _ session =>
    (activeDevices.get session.deviceId).isSome
  let bindings := redis.bindings.filter fun _ binding =>
    (activeDevices.get binding.deviceId).isSome
  let queues := redis.signalQueues.filter fun key queue => key ≠ "" ∧ queue ≠ []
  rebuildAuthIndexes iter
    { devices := activeDevices
      deviceTokenIndex := ∅
      pairSessions := pairSessions
      pairTokenIndex := claimableIndex iter now pairSessions PairSession.pairToken
      pairCodeIndex := claimableIndex iter now pairSessions PairSession.pairCode
      bindings := bindings
      mobileTokenIndex := ∅
      signalQueues := queuesOfActive activeDevices queues }

/-! ## Persisting -/

/-- The type and the id of a client, if its key has both. -/
def splitClientKey (key : String) : Option (String × String) :=
  let (clientType, rest) := key.toList.span fun c => c ≠ ':'
  if clientType ≠ [] ∧ 1 < rest.length then
    some (String.ofList clientType, String.ofList rest.tail)
  else none

/-- The devices of a snapshot that were seen in the last month. -/
def persistedDevices (snapshot : Store) (now : ℤ) : OrderedMap String Device :=
  snapshot.devices.filter fun _ device => ¬device.lastSeenAt ≤ deviceInactiveCutoff now

/-- The queues of a snapshot that a persist writes. -/
def filteredQueues (snapshot : Store) (now : ℤ) : OrderedMap String (List SignalEvent) :=
  queuesOfActive (persistedDevices snapshot now) snapshot.signalQueues

/-- The lease of a device ends when the device would be forgotten, and lasts a second at
least. -/
def leaseTtl (now : ℤ) (device : Device) : Option ℤ :=
  let ttlMillis := device.lastSeenAt + deviceInactiveTtl - now
  if ttlMillis ≤ 0 then none else some (max ttlMillis 1000)

/-- What a persist does with one queue of its snapshot. -/
def rewriteQueue (queues : OrderedMap String (List SignalEvent))
    (entry : String × List SignalEvent) : OrderedMap String (List SignalEvent) :=
  match splitClientKey entry.1 with
  | none => queues
  | some (clientType, clientId) =>
      if entry.2 = [] then queues else rpush queues (clientKey clientType clientId) entry.2

/-- The transaction of a persist, at the time `execAt`: the records and the leases of
devices are deleted and those of the snapshot written, the lists under `queueKeys` are
deleted and the queues of the snapshot written after what is left. -/
def exec (redis : Redis) (snapshot : Store) (now : ℤ) (queueKeys : List String)
    (iter : IterOrder) (execAt : ℤ) : Redis :=
  let activeDevices := persistedDevices snapshot now
  { devices := activeDevices
    pairSessions := snapshot.pairSessions.filter fun _ session =>
      (activeDevices.get session.deviceId).isSome
    bindings := snapshot.bindings.filter fun _ binding =>
      (activeDevices.get binding.deviceId).isSome
    deviceLeases := OrderedMap.ofList (activeDevices.entries.filterMap fun entry =>
      (leaseTtl now entry.2).map fun ttl => (entry.1, execAt + ttl))
    signalQueues :=
      (iter.order (filteredQueues snapshot now).entries).foldl rewriteQueue
        (redis.signalQueues.filter fun key _ => key ∉ queueKeys) }

/-! ## What happens to a queue -/

section Queues

variable {queues : OrderedMap String (List SignalEvent)} {redis : Redis}

theorem queueOf_rpush (key other : String) (items : List SignalEvent) :
    queueOf (rpush queues key items) other =
      if other = key then queueOf queues key ++ items else queueOf queues other := by
  unfold rpush queueOf
  rw [OrderedMap.get_set]
  split
  · rfl
  · rfl

theorem queueOf_ltrim (key other : String) (start : ℕ) :
    queueOf (ltrim queues key start) other =
      if other = key then (queueOf queues key).drop start else queueOf queues other := by
  unfold ltrim
  split
  · next hdone =>
      rw [hdone]
      show ((queues.erase key).get other).getD [] = _
      rw [OrderedMap.get_erase]
      split
      · rfl
      · rfl
  · show ((queues.set key _).get other).getD [] = _
    rw [OrderedMap.get_set]
    split
    · rfl
    · rfl

/-- A pull takes the events off its own queue and answers with them. -/
theorem queueOf_pullQueueScript (key other : String) (limit : ℕ) :
    (if other = key then (pullQueueScript redis key limit).2 else []) ++
        queueOf (pullQueueScript redis key limit).1.signalQueues other =
      queueOf redis.signalQueues other := by
  unfold pullQueueScript
  by_cases hnone : (queueOf redis.signalQueues key).take limit = []
  · rw [if_pos hnone]
    simp
  · rw [if_neg hnone, queueOf_ltrim]
    split
    · next heq => rw [heq, List.take_append_drop]
    · rfl

/-- A key that splits is made again from its two parts. -/
theorem clientKey_of_splitClientKey {key clientType clientId : String}
    (hsplit : splitClientKey key = some (clientType, clientId)) :
    clientKey clientType clientId = key := by
  unfold splitClientKey at hsplit
  rw [List.span_eq_takeWhile_dropWhile] at hsplit
  dsimp only at hsplit
  split at hsplit
  · next hparts =>
      obtain ⟨rfl, rfl⟩ := Prod.mk.inj (Option.some_inj.mp hsplit)
      have hcolon : key.toList.dropWhile (fun c => c ≠ ':') =
          ':' :: (key.toList.dropWhile fun c => c ≠ ':').tail := by
        have hne : key.toList.dropWhile (fun c => c ≠ ':') ≠ [] := by
          intro hnil
          rw [hnil] at hparts
          exact absurd hparts.2 (by simp)
        have hhead := List.head_dropWhile_not (fun c => decide (c ≠ ':')) hne
        rw [decide_eq_false_iff_not, not_not] at hhead
        conv_lhs => rw [← List.cons_head_tail hne, hhead]
      apply String.toList_injective
      unfold clientKey
      rw [String.toList_append, String.toList_append]
      simp only [String.toList_ofList]
      show _ ++ [':'] ++ _ = _
      rw [List.append_assoc, List.singleton_append, ← hcolon]
      exact List.takeWhile_append_dropWhile
  · cases hsplit

/-- The events that a persist writes to a client, of the queues of its snapshot. -/
def copyOf (snapshot : Store) (now : ℤ) (key : String) : List SignalEvent :=
  if (splitClientKey key).isSome then queueOf (filteredQueues snapshot now) key else []

theorem queueOf_rewriteQueue (entry : String × List SignalEvent) (other : String) :
    queueOf (rewriteQueue queues entry) other =
      queueOf queues other ++
        if other = entry.1 ∧ (splitClientKey other).isSome then entry.2 else [] := by
  unfold rewriteQueue
  split
  · next hsplit =>
      rw [if_neg, List.append_nil]
      rintro ⟨rfl, hsome⟩
      rw [hsplit] at hsome
      cases hsome
  · next clientType clientId hsplit =>
      split
      · next hnil => simp [hnil]
      · rw [clientKey_of_splitClientKey hsplit, queueOf_rpush]
        by_cases heq : other = entry.1
        · rw [if_pos heq, if_pos ⟨heq, by rw [heq, hsplit]; rfl⟩, heq]
        · rw [if_neg heq, if_neg fun hboth => heq hboth.1, List.append_nil]

theorem queueOf_foldl_rewriteQueue {entries : List (String × List SignalEvent)}
    (hnodup : (entries.map Prod.fst).Nodup) (other : String) :
    queueOf (entries.foldl rewriteQueue queues) other =
      queueOf queues other ++
        if (splitClientKey other).isSome then queueOf ⟨entries, hnodup⟩ other else [] := by
  induction entries generalizing queues with
  | nil => simp [queueOf, OrderedMap.get]
  | cons entry rest ih =>
      obtain ⟨hfresh, hrest⟩ := List.nodup_cons.mp hnodup
      rw [List.foldl_cons, ih hrest, queueOf_rewriteQueue, List.append_assoc]
      congr 1
      by_cases heq : other = entry.1
      · -- the queue is rewritten here, and no later entry has its key
        subst heq
        have hlater : (rest.find? fun later => decide (later.1 = entry.1)) = none := by
          rw [List.find?_eq_none]
          intro later hlater hkey
          exact hfresh (of_decide_eq_true hkey ▸ List.mem_map_of_mem hlater)
        simp [queueOf, OrderedMap.get, hlater]
      · simp [queueOf, OrderedMap.get, heq, Ne.symm heq]

/-- **What a transaction leaves in a queue**: what was there, unless its list is one of
those that are deleted, and after it what the snapshot has for the client. -/
theorem queueOf_exec (snapshot : Store) (now : ℤ) (queueKeys : List String) (iter : IterOrder)
    (execAt : ℤ) (key : String) :
    queueOf (exec redis snapshot now queueKeys iter execAt).signalQueues key =
      (if key ∈ queueKeys then [] else queueOf redis.signalQueues key) ++
        copyOf snapshot now key := by
  have hperm := iter.perm (filteredQueues snapshot now).entries
  have hnodup : ((iter.order (filteredQueues snapshot now).entries).map Prod.fst).Nodup :=
    (hperm.map Prod.fst).nodup_iff.mpr (filteredQueues snapshot now).nodup_keys
  have hcopy : queueOf ⟨_, hnodup⟩ key = queueOf (filteredQueues snapshot now) key := by
    unfold queueOf
    congr 1
    ext queue
    rw [OrderedMap.get_eq_some_iff, OrderedMap.get_eq_some_iff]
    exact hperm.mem_iff
  have hleft : queueOf (redis.signalQueues.filter fun key _ => key ∉ queueKeys) key =
      if key ∈ queueKeys then [] else queueOf redis.signalQueues key := by
    unfold queueOf
    rw [OrderedMap.get_filter]
    cases redis.signalQueues.get key with
    | none => simp
    | some queue => by_cases hlisted : key ∈ queueKeys <;> simp [Option.filter, hlisted]
  show queueOf (List.foldl rewriteQueue _ _) key = _
  rw [queueOf_foldl_rewriteQueue hnodup, hcopy, hleft]
  rfl

end Queues

end OpenClaw.Server.V1
