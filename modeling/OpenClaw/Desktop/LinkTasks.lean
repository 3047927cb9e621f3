import OpenClaw.Desktop.Backend
import OpenClaw.Lib.Steps

/-!
# The tasks of the signal connection

The connection to the server is kept up by tasks that share the state of the desktop:
`connect`, the signal stream and the heartbeat it starts, `handle_stream_failure`, and the
reconnect task that `schedule_reconnect` leaves asleep.  A task goes on from one critical
section to the next, and whatever else happens may happen in between.

An event is one critical section.  A task that was aborted ends where it waits next, so it
may still go on until then (`cancel`).  The state has the two flags of the user's wish, the
generation and the handles; `closed` is true from a disconnect to the next explicit open.
-/

namespace OpenClaw.Desktop

/-- A task, in front of its next critical section. -/
inductive LinkTask
  /-- `connect` by the user, before `cancel_reconnect_task`. -/
  | cancelReconnect
  /-- `connect`, where it reads the flags. -/
  | readFlags (fromReconnect : Bool)
  /-- `connect`, where it takes a generation; `overtaken` if a disconnect came since it read
  the flags and no explicit open after it. -/
  | takeGeneration (fromReconnect overtaken : Bool)
  /-- `announce_presence`, and the two spawned tasks. -/
  | announce (generation : ℕ)
  | keepHandles (generation sseTask heartbeatTask : ℕ)
  /-- `run_signal_stream` -/
  | stream (generation : ℕ)
  /-- The heartbeat, asleep. -/
  | heartbeat (generation : ℕ)
  /-- `heartbeat_once` -/
  | beat (generation : ℕ)
  /-- `handle_stream_failure` -/
  | failure (generation : ℕ)
  /-- `schedule_reconnect`, before `cancel_reconnect_task`. -/
  | schedule (generation : ℕ)
  | spawnReconnect (generation : ℕ)
  | keepReconnect (reconnectTask : ℕ)
  /-- The reconnect task, asleep; the flag says whether it has an application handle. -/
  | reconnect (generation : ℕ) (app : Bool)
deriving DecidableEq

structure Link where
  channelOpen : Bool
  desiredConnected : Bool
  connectGeneration : ℕ
  app : Bool
  tasks : OrderedMap ℕ LinkTask
  nextTask : ℕ
  sseTask : Option ℕ
  heartbeatTask : Option ℕ
  reconnectTask : Option ℕ
  aborted : List ℕ
  closed : Bool

def Link.initial : Link := ⟨false, false, 0, false, ∅, 0, none, none, none, [], false⟩

/-! ## Tasks -/

def Link.goOn (link : Link) (id : ℕ) (task : LinkTask) : Link :=
  { link with tasks := link.tasks.set id task }

def Link.finish (link : Link) (id : ℕ) : Link := { link with tasks := link.tasks.erase id }

/-- Start a task; its id was `nextTask`. -/
def Link.spawn (link : Link) (task : LinkTask) : Link :=
  { link with tasks := link.tasks.set link.nextTask task, nextTask := link.nextTask + 1 }

def Link.abort (link : Link) (handle : Option ℕ) : Link :=
  { link with aborted := handle.toList ++ link.aborted }

def cancelReconnectTask (link : Link) : Link :=
  { link.abort link.reconnectTask with reconnectTask := none }

/-- The generation is the current one, and the connection is wanted. -/
def Link.wanted (link : Link) (generation : ℕ) : Bool :=
  link.channelOpen ∧ link.desiredConnected ∧ link.connectGeneration = generation

def LinkTask.overtake (overtaken : Bool) : LinkTask → LinkTask
  | .takeGeneration fromReconnect _ => .takeGeneration fromReconnect overtaken
  | task => task

/-- From here on a disconnect is, or is no longer, to be respected. -/
def Link.setClosed (link : Link) (closed : Bool) : Link :=
  { link with tasks := link.tasks.mapValues fun _ task => task.overtake closed, closed := closed }

/-! ## Steps -/

/-- The first critical section of `connect`. -/
def readFlags (link : Link) (id : ℕ) (fromReconnect : Bool) : Link :=
  if link.channelOpen = false ∧ fromReconnect = false then link.finish id
  else if link.desiredConnected = false ∧ fromReconnect = true then link.finish id
  else link.goOn id (.takeGeneration fromReconnect false)

/-- The second one. -/
def takeGeneration (link : Link) (id : ℕ) : Link :=
  let stopped := (link.abort link.sseTask).abort link.heartbeatTask
  { stopped.goOn id (.announce (link.connectGeneration + 1)) with
    connectGeneration := link.connectGeneration + 1
    sseTask := none, heartbeatTask := none, desiredConnected := true, channelOpen := true }

/-- `connect` behind `announce_presence`, if that went well. -/
def startTasks (link : Link) (id generation : ℕ) : Link :=
  ((link.spawn (.stream generation)).spawn (.heartbeat generation)).goOn id
    (.keepHandles generation link.nextTask (link.nextTask + 1))

/-- The last critical section of `connect`. -/
def keepHandles (link : Link) (id generation sseTask heartbeatTask : ℕ) : Link :=
  if link.connectGeneration = generation then
    { link.finish id with sseTask := some sseTask, heartbeatTask := some heartbeatTask }
  else ((link.finish id).abort (some sseTask)).abort (some heartbeatTask)

/-- What a task does next; `ok` is the outcome of the request it waited for. -/
def advance (link : Link) (id : ℕ) (ok : Bool) : LinkTask → Link
  | .cancelReconnect => (cancelReconnectTask link).goOn id (.readFlags false)
  | .readFlags fromReconnect => readFlags link id fromReconnect
  | .takeGeneration _ _ => takeGeneration link id
  | .announce generation =>
      if ok then startTasks link id generation else link.goOn id (.failure generation)
  | .keepHandles generation sseTask heartbeatTask =>
      keepHandles link id generation sseTask heartbeatTask
  | .stream generation => if ok then link.finish id else link.goOn id (.failure generation)
  | .heartbeat generation =>
      if link.wanted generation then link.goOn id (.beat generation) else link.finish id
  | .beat generation =>
      link.goOn id (if ok then .heartbeat generation else .failure generation)
  | .failure generation =>
      if link.wanted generation then link.goOn id (.schedule generation) else link.finish id
  | .schedule generation => (cancelReconnectTask link).goOn id (.spawnReconnect generation)
  | .spawnReconnect generation =>
      (link.spawn (.reconnect generation link.app)).goOn id (.keepReconnect link.nextTask)
  | .keepReconnect reconnectTask => { link.finish id with reconnectTask := some reconnectTask }
  | .reconnect generation app =>
      if app ∧ link.wanted generation then (link.finish id).spawn (.readFlags true)
      else link.finish id

inductive LinkEvent
  /-- `set_app_handle` -/
  | setApp
  /-- `set_channel_open_state(true, true)` -/
  | setChannelOpen
  /-- `connect` is called with `from_reconnect` false. -/
  | connect
  /-- `reload_from_app_config`, where it sets the flags. -/
  | reload (shouldConnect : Bool)
  | disconnect
  /-- A task goes on. -/
  | go (id : ℕ) (ok : Bool)
  /-- A task that was aborted ends. -/
  | cancel (id : ℕ)

def linkStep (link : Link) : LinkEvent → Link
  | .setApp => { link with app := true }
  | .setChannelOpen =>
      { link.setClosed false with channelOpen := true, desiredConnected := true }
  | .connect => (link.setClosed false).spawn .cancelReconnect
  | .reload shouldConnect =>
      { link.setClosed (link.closed && !shouldConnect) with
        channelOpen := shouldConnect, desiredConnected := shouldConnect }
  | .disconnect =>
      let stopped :=
        ((link.abort link.sseTask).abort link.heartbeatTask).abort link.reconnectTask
      { stopped.setClosed true with
        channelOpen := false, desiredConnected := false
        sseTask := none, heartbeatTask := none, reconnectTask := none }
  | .go id ok =>
      match link.tasks.get id with
      | some task => advance link id ok task
      | none => link
  | .cancel id => if id ∈ link.aborted then link.finish id else link

/-! ## The connection and the backend -/

/-- The flags and the generation are those of the backend. -/
structure Link.Agrees (link : Link) (backend : Backend) : Prop where
  channelOpen : link.channelOpen = backend.channelOpen
  desiredConnected : link.desiredConnected = backend.desiredConnected
  connectGeneration : link.connectGeneration = backend.connectGeneration

/-- With nothing in between, the two critical sections of `connect` are one step of the
backend. -/
theorem agrees_connect {platform : Platform} {env : Env} {backend : Backend} {link : Link}
    {id : ℕ} {fromReconnect ok ok' : Bool} (hagrees : link.Agrees backend)
    (hget : link.tasks.get id = some (.readFlags fromReconnect)) :
    (linkStep (linkStep link (.go id ok)) (.go id ok')).Agrees
      (perform platform env backend (.connect fromReconnect)).1 := by
  obtain ⟨hopen, hdesired, hgeneration⟩ := hagrees
  have hfinished : linkStep (link.finish id) (.go id ok') = link.finish id := by
    have hnone : (link.finish id).tasks.get id = none := OrderedMap.get_erase_self _ _
    rw [linkStep, hnone]
  have hread : linkStep link (.go id ok) = readFlags link id fromReconnect := by
    rw [linkStep, hget]
    rfl
  rw [hread, readFlags, perform, ← hopen, ← hdesired]
  by_cases hclosed : link.channelOpen = false ∧ fromReconnect = false
  · rw [if_pos hclosed, if_pos (Or.inl hclosed), hfinished]
    exact ⟨hopen, hdesired, hgeneration⟩
  by_cases hunwanted : link.desiredConnected = false ∧ fromReconnect = true
  · rw [if_neg hclosed, if_pos hunwanted, if_pos (Or.inr hunwanted), hfinished]
    exact ⟨hopen, hdesired, hgeneration⟩
  · have hgo : (link.goOn id (.takeGeneration fromReconnect false)).tasks.get id =
        some (.takeGeneration fromReconnect false) := OrderedMap.get_set_self _ _ _
    rw [if_neg hclosed, if_neg hunwanted, if_neg (not_or.mpr ⟨hclosed, hunwanted⟩), linkStep, hgo]
    exact ⟨rfl, rfl, congrArg (· + 1) hgeneration⟩

end OpenClaw.Desktop
